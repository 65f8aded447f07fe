import StyleBuild.Css.Rule.Parser

/-!
# Printing rules

In pretty layout rules are indented by two spaces for each level and separated by empty lines;
in compact layout nothing is put between them. Where the targets do not know nesting, nested
rules are written out behind the rule that holds them.
-/

namespace StyleBuild.Css

/-- Texts with the separation of rules between them. -/
def separated (l : Layout) (depth : Nat) (ts : List String) : String :=
  String.intercalate (l.lineEnd ++ l.newline depth) ts

/-- A `@keyframes` block in one spelling. -/
def keyframesText (p : Printing) (depth : Nat) (name : KeyframesName) (frames : List Keyframe)
    (spelling : Prefixes) : String :=
  "@" ++ spelling.text ++ "keyframes " ++ name.text ++ p.layout.space ++ "\x7b" ++
    (if frames.isEmpty then "" else p.layout.newline (depth + 1)) ++
    separated p.layout (depth + 1) (frames.map (Keyframe.text p (depth + 1))) ++
    p.layout.newline depth ++ "\x7d"

/-- The head of `@scope`. -/
def scopeHead (p : Printing) (root limit : Option (List Selector)) : String :=
  "@scope" ++ p.layout.space ++
    (match root with
     | none => ""
     | some ss => "(" ++ selectorsText p ss ++ ")" ++ p.layout.space) ++
    (match limit with
     | none => ""
     | some ss =>
       let inner := match root with
         | none => p
         | some rs => { p with parent := some (.ofSelectors p rs) }
       (if p.layout = .compact then " " else "") ++ "to (" ++ selectorsText inner ss ++ ")" ++
         p.layout.space)

/-- Whether a rule is written on a line of its own, close to others of its kind. -/
def Rule.isLine : Rule → Bool
  | .import_ _ => true
  | .layerNames _ => true
  | _ => false

/-- Whether a rule is a list of declarations that ends without a semicolon. -/
def Rule.isLoose (p : Printing) : Rule → Bool
  | .declarations _ => p.layout == .compact && !p.flattens
  | _ => false

mutual

/-- Whether a rule prints selectors in vendor spellings of their own. The spelling around it does
not hold for what follows. -/
def Rule.isRespelled : Rule → Bool
  | .style _ _ rules spellings => !spellings.isEmpty || anyRespelled rules
  | .nesting _ _ rules => anyRespelled rules
  | .media _ rules | .supports _ rules | .container _ rules | .layer _ rules =>
    anyRespelled rules
  | .scope _ _ rules => anyRespelled rules
  | .startingStyle rules => anyRespelled rules
  | _ => false

/-- Whether some rule of a list prints selectors in vendor spellings of their own. -/
def anyRespelled : List Rule → Bool
  | [] => false
  | r :: rs => r.isRespelled || anyRespelled rs

end

/-- The setting for what follows a rule. -/
def Printing.behind (p : Printing) (r : Rule) : Printing :=
  if r.isRespelled then { p with vendor := .none } else p

/-- A block of rules whose text is given, with its braces. -/
def bracedRules (l : Layout) (depth : Nat) (inner : String) : String :=
  "\x7b" ++ l.newline (depth + 1) ++ inner ++ l.newline depth ++ "\x7d"

/-- What stands before a rule: nothing, a rule on a line of its own, or another rule. -/
inductive RuleEdge where
  | start
  | line
  | block
  deriving DecidableEq, Repr

/-- What separates a rule from what stands before it. -/
def RuleEdge.text (l : Layout) (depth : Nat) (isLine : Bool) : RuleEdge → String
  | .start => ""
  | .line => (if isLine then "" else l.lineEnd) ++ l.newline depth
  | .block => l.lineEnd ++ l.newline depth

/-- An unknown rule. -/
def unknownText (p : Printing) (depth : Nat) (name : String) (arguments : Raw)
    (body : Option Raw) : String :=
  "@" ++ name ++ (if arguments.isEmpty then "" else " " ++ rawText p arguments) ++
    (match body with
     | none => ";"
     | some b => p.layout.space ++ bracedRules p.layout depth (rawText p b))

/-- The unknown rules of a list, which stay inside the block of the rule around. -/
def unknownTexts (p : Printing) (depth : Nat) (rules : List Rule) : List String :=
  rules.filterMap fun
    | .unknown name arguments body => some (unknownText p depth name arguments body)
    | _ => none

/-- Whether a rule is unknown. -/
def Rule.isUnknown : Rule → Bool
  | .unknown _ _ _ => true
  | _ => false

/-- The head and the block of a style rule with the rules inside of it; the last declaration is
closed if `closed` says so. -/
def styleText (p : Printing) (depth : Nat) (ss : List Selector) (block : Block) (closed : Bool)
    (inside : String) : String :=
  selectorsText p ss ++ p.layout.space ++ "\x7b" ++
    printLines p.layout (depth + 1) closed (block.texts p) ++ inside ++
    p.layout.newline depth ++ "\x7d"

/-- A style rule whose nested rules stay inside of it. -/
def nestedStyleText (p : Printing) (depth : Nat) (ss : List Selector) (block : Block)
    (inside : String) : String :=
  styleText p depth ss block true
    ((if block.isEmpty then "" else p.layout.lineEnd) ++ p.layout.newline (depth + 1) ++ inside)

/-- A style rule whose nested rules are written out behind it, apart from the unknown ones. -/
def flatStyleText (p : Printing) (depth : Nat) (ss : List Selector) (block : Block)
    (rules : List Rule) (behind : String) : String :=
  let l := p.layout
  let unknowns := unknownTexts p (depth + 1) rules
  if block.isEmpty && unknowns.isEmpty then behind
  else
    styleText p depth ss block (l = .pretty || !unknowns.isEmpty)
      (String.join (unknowns.map (l.newline (depth + 1) ++ ·))) ++
      (if rules.all Rule.isUnknown then "" else l.lineEnd ++ l.newline depth ++ behind)

mutual

/-- A rule, at an indentation. -/
def Rule.print (p : Printing) (depth : Nat) : Rule → String
  | .style ss block rules spellings =>
    let shown : List Prefixes := if spellings.isEmpty then [p.vendor] else spellings.members
    separated p.layout depth (shown.map fun vendor =>
      let p := { p with vendor }
      if rules.isEmpty then styleText p depth ss block (p.layout = .pretty) ""
      else if p.flattens then
        flatStyleText p depth ss block rules
          (rulesBehind { p with parent := some (.ofSelectors p ss) } depth .start rules)
      else nestedStyleText p depth ss block (rulesText p (depth + 1) .start rules))
  | .nesting ss block rules =>
    (if p.parent.isNone then "@nest " else "") ++
      (if rules.isEmpty then styleText p depth ss block (p.layout = .pretty) ""
      else if p.flattens then
        flatStyleText p depth ss block rules
          (rulesBehind { p with parent := some (.ofSelectors p ss) } depth .start rules)
      else nestedStyleText p depth ss block (rulesText p (depth + 1) .start rules))
  | .declarations block =>
    match p.flattens, p.parent with
    | true, some parent =>
      if block.isEmpty then ""
      else p.layout.commas (parent.texts p.vendor) ++ block.print p depth
    | _, _ =>
      String.intercalate (";" ++ p.layout.newline depth) (block.texts p) ++
        (if p.layout = .pretty ∧ !block.isEmpty then ";" else "")
  | .media queries rules =>
    if p.layout = .compact ∧ queries.all MediaQuery.alwaysMatches then
      rulesText p depth .start rules
    else
      "@media " ++ mediaText p queries ++ p.layout.space ++
        bracedRules p.layout depth (rulesText p (depth + 1) .start rules)
  | .supports c rules =>
    let inside := { p with granted := p.granted ++ SupportsQuery.grants c }
    "@supports " ++ c.text (SupportsTest.printer p) ++ p.layout.space ++
      bracedRules p.layout depth (rulesText inside (depth + 1) .start rules)
  | .container q rules =>
    "@container " ++ q.text p ++ p.layout.space ++
      bracedRules p.layout depth (rulesText p (depth + 1) .start rules)
  | .layer name rules =>
    "@layer" ++ (match name with
      | some n => " " ++ n.text
      | none => "") ++ p.layout.space ++
      bracedRules p.layout depth (rulesText p (depth + 1) .start rules)
  | .layerNames names => "@layer " ++ p.layout.commas (names.map LayerName.text) ++ ";"
  | .scope root limit rules =>
    scopeHead p root limit ++
      bracedRules p.layout depth (rulesText { p with parent := none } (depth + 1) .start rules)
  | .startingStyle rules =>
    "@starting-style" ++ p.layout.space ++
      bracedRules p.layout depth (rulesText p (depth + 1) .start rules)
  | .keyframes name spellings frames =>
    separated p.layout depth
      ((keyframesSpellings spellings).map (keyframesText p depth name frames))
  | .fontFace ds =>
    "@font-face" ++ p.layout.space ++ "\x7b" ++
      printLines p.layout (depth + 1) (p.layout = .pretty) (ds.map (FontDescriptor.text p)) ++
      p.layout.newline depth ++ "\x7d"
  | .page page => page.text p depth
  | .registered r => r.text p depth
  | .import_ i => i.text p
  | .unknown name arguments body => unknownText p depth name arguments body
  | .removed => ""

/-- The rules of a list. `edge` tells what stands before them. -/
def rulesText (p : Printing) (depth : Nat) (edge : RuleEdge) : List Rule → String
  | [] => ""
  | .removed :: rs => rulesText p depth edge rs
  | r :: rs =>
    edge.text p.layout depth r.isLine ++ r.print p depth ++
      (if r.isLoose p && !rs.isEmpty then ";" else "") ++
      rulesText (p.behind r) depth (if r.isLine then .line else .block) rs

/-- The rules of a list that are written out behind the style rule around them. A rule that
prints nothing keeps its place among them. -/
def rulesBehind (p : Printing) (depth : Nat) (edge : RuleEdge) : List Rule → String
  | [] => ""
  | .unknown _ _ _ :: rs => rulesBehind p depth edge rs
  | r :: rs =>
    edge.text p.layout depth r.isLine ++ r.print p depth ++
      rulesBehind (p.behind r) depth (if r.isLine then .line else .block) rs

end

end StyleBuild.Css
