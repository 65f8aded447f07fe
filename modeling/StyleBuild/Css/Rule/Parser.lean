import StyleBuild.Css.Rule.Basic

/-!
# Reading rules

Components are read from the front. What has been passed since the last complete rule waits in
a `Pending`; a curly block or a semicolon completes it. The first fault ends the reading.
-/

namespace StyleBuild.Css

/-- What waits to be completed: nothing, an at-rule, or anything else; latest component first. -/
inductive Pending where
  | nothing
  | atRule (name : String) (start : Position) (passed : List Component)
  | other (passed : List Component)

/-- Add a component to what waits. -/
def Pending.add (c : Component) : Pending → Pending
  | .nothing => .other [c]
  | .atRule n p cs => .atRule n p (c :: cs)
  | .other cs => .other (c :: cs)

/-! ## At-rules -/

/-- Where a rule stands: in a sheet, in the block of an at-rule, or in a style rule. -/
inductive RulePlace where
  | sheet
  | block
  | style
  deriving DecidableEq, Repr

/-- The place of the rules of a list; `top` tells whether it is a sheet's own list. -/
def RulePlace.ofTop (top : Bool) : RulePlace := if top then .sheet else .block

/-- What an at-rule says before its block. -/
inductive AtHead where
  | media (queries : List MediaQuery)
  | supports (query : SupportsQuery)
  | container (query : ContainerQuery)
  | layer (names : List LayerName)
  | scope (root limit : Option (List Selector))
  | startingStyle
  | nest (selectors : List Selector)
  | keyframes (name : KeyframesName) (spelling : Prefixes)
  | fontFace
  | page (selectors : List PageSelector)
  | registered (name : String)
  | import_ (i : Import)
  | charset
  | unknown (name : String) (arguments : Raw)

/-- Whether an at-rule may stand in a style rule. -/
def AtHead.isNestable : AtHead → Bool
  | .media _ | .supports _ | .container _ | .layer _ | .scope _ _ | .startingStyle | .nest _
  | .unknown _ _ => true
  | _ => false

/-- Read the selectors in parentheses in front, if there are any, and what follows. -/
def readScopeList (cs : Components) :
    Except SyntaxError (Option (List Selector) × Components) :=
  match cs.skipBlank with
  | .block (.plain .round) _ body rest => (readSelectors .relative body).map (some ·, rest)
  | _ => .ok (none, cs)

/-- Read the limits of `@scope`. -/
def readScope (cs : Components) : Except SyntaxError (AtHead × Components) := do
  let (root, rest) ← readScopeList cs
  match readKeyword rest with
  | some ("to", rest) =>
    match ← readScopeList rest with
    | (some limit, tail) => return (.scope root (some limit), tail)
    | (none, rest) => throw rest.unexpected
  | _ => return (.scope root none, rest)

/-- Read what an at-rule says before its block, and what is left of that. -/
def readAtHead (place : RulePlace) (name : String) (cs : Components) :
    Except SyntaxError (AtHead × Components) :=
  let whole (r : Except SyntaxError AtHead) : Except SyntaxError (AtHead × Components) :=
    r.map (·, .done cs.stop)
  let unknown : Except SyntaxError (AtHead × Components) :=
    whole ((readRaw cs).map (.unknown name))
  let (spelling, bare) := Prefixes.split name.toLower.toList
  match String.ofList bare, spelling.plain, place with
  | "keyframes", _, _ =>
    (KeyframesName.read cs).map fun (n, rest) => (.keyframes n spelling, rest)
  | "media", true, _ => whole ((readMediaList cs).map .media)
  | "supports", true, _ => (readSupports cs).map fun (c, rest) => (.supports c, rest)
  | "container", true, _ => whole ((ContainerQuery.read cs).map .container)
  | "layer", true, _ => whole ((LayerName.readList cs).map .layer)
  | "scope", true, _ => readScope cs
  | "starting-style", true, _ => .ok (.startingStyle, cs)
  | "nest", true, .style => whole ((readSelectors .marked cs).map .nest)
  | "font-face", true, _ => .ok (.fontFace, cs)
  | "page", true, _ =>
    let (ss, rest) := PageSelector.readList cs
    .ok (.page ss, rest)
  | "property", true, .sheet =>
    (Registered.readName cs).map fun (n, rest) => (.registered n, rest)
  | "import", true, .sheet => whole ((Import.read cs).map .import_)
  | "charset", true, .sheet =>
    match cs.skipBlank with
    | .token (.quoted _) _ rest => .ok (.charset, rest)
    | _ => .error cs.unexpected
  | _, _, _ => unknown

/-- Read all that an at-rule says before its block. -/
def readAtRule (place : RulePlace) (name : String) (cs : Components) :
    Except SyntaxError AtHead := do
  let (head, rest) ← readAtHead place name cs
  if place = .style ∧ !head.isNestable then throw ⟨.unknownAtRule name, rest.start⟩
  expectNothing rest
  return head

/-- Put loose declarations before rules. -/
def looseFirst (b : Block) (rules : List Rule) : List Rule :=
  if b.isEmpty then rules else .declarations b :: rules

/-- An at-rule with a block. `rules` reads the block as the inside of a rule list, `style` as the
inside of a style rule. -/
def AtHead.withBlock (place : RulePlace) (body : Components)
    (rules : Unit → Except SyntaxError (List Rule))
    (style : Unit → Except SyntaxError (Block × List Rule)) (head : AtHead) :
    Except SyntaxError Rule :=
  let inside (_ : Unit) : Except SyntaxError (List Rule) :=
    if place = .style then (style ()).map fun (b, rs) => looseFirst b rs else rules ()
  match head with
  | .media queries => (inside ()).map (.media queries)
  | .supports c => (inside ()).map (.supports c)
  | .container q => (inside ()).map (.container q)
  | .layer [] => (inside ()).map (.layer none)
  | .layer [n] => (inside ()).map (.layer (some n))
  | .layer _ => .error ⟨.ruleBody, body.start⟩
  | .scope root limit => (inside ()).map (.scope root limit)
  | .startingStyle => (inside ()).map .startingStyle
  | .nest ss => (style ()).map fun (b, rs) => .nesting ss b rs
  | .keyframes n q => .ok (.keyframes n q (Keyframe.readList body))
  | .fontFace => .ok (.fontFace (FontDescriptor.readList body))
  | .page ss => (Page.read ss body).map .page
  | .registered n => (Registered.read n body).map .registered
  | .import_ _ => .error ⟨.ruleBody, body.start⟩
  | .charset => .error ⟨.ruleBody, body.start⟩
  | .unknown n arguments => (readRaw body).map fun b => .unknown n arguments (some b)

/-- An at-rule without a block, before a place; `@charset` says nothing. -/
def AtHead.withoutBlock (place : RulePlace) (stop : Position) (head : AtHead) :
    Except SyntaxError (Option Rule) :=
  match head with
  | .import_ i => .ok (some (.import_ i))
  | .charset => .ok none
  | .layer ns =>
    if ns.isEmpty || place == .style then .error ⟨.unexpectedToken .semicolon, stop⟩
    else .ok (some (.layerNames ns))
  | .unknown n arguments => .ok (some (.unknown n arguments none))
  | _ => .error ⟨.unexpectedToken .semicolon, stop⟩

/-- Read an at-rule without a block, before a place. -/
def readAtStatement (place : RulePlace) (name : String) (cs : Components) (stop : Position) :
    Except SyntaxError (Option Rule) := do (← readAtRule place name cs).withoutBlock place stop

/-- How far a sheet has come, as far as `@import` is concerned. -/
inductive Progress where
  | layers
  | imports
  | body
  deriving DecidableEq, Repr

/-- How far a sheet is behind a rule. -/
def Progress.behind (p : Progress) : Option Rule → Progress
  | none => p
  | some (.import_ _) => .imports
  | some (.layerNames _) => if p = .layers then .layers else .body
  | some _ => .body

/-- Whether an at-rule comes too late, in a list of rules that is a sheet's own if `top`. -/
def isLate (top : Bool) (p : Progress) (name : String) : Bool :=
  top && p = .body && name.toLower == "import"

/-! ## Rules -/

/-- Whether components, latest first, start a declaration of a custom property. -/
def startsCustom (passed : List Component) : Bool :=
  match passed.reverse with
  | .token (.ident n) _ :: rest =>
    isCustomName n && (match rest.dropWhile Component.isBlank with
      | .token .colon _ :: _ => true
      | _ => false)
  | _ => false

/-- Whether components, latest first, start with a name. -/
def startsWithIdent (passed : List Component) : Bool :=
  match passed.getLast? with
  | some (.token (.ident _) _) => true
  | _ => false

/-- Put a declaration into a style rule: before its first rule, or among its rules. -/
def addDeclaration (block : Block) (rules : List Rule) (d : Declaration) (i : Bool) :
    Block × List Rule :=
  match rules with
  | [] => (block.push d i, [])
  | .declarations b :: rest => (block, .declarations (b.push d i) :: rest)
  | rules => (block, .declarations (({} : Block).push d i) :: rules)

mutual

/-- Read a list of rules behind others, latest first. `top` tells whether it is a sheet's own
list, `progress` how far the sheet has come. -/
def rulesFrom (top : Bool) (progress : Progress) (done : List Rule) (pending : Pending) :
    Components → Except SyntaxError (List Rule)
  | .done stop =>
    match pending with
    | .nothing => .ok done.reverse
    | .atRule name p passed =>
      if isLate top progress name then .error ⟨.lateImport, p⟩
      else match readAtStatement (.ofTop top) name (.ofList stop passed.reverse) stop with
        | .ok (some r) => .ok (r :: done).reverse
        | .ok none => .ok done.reverse
        | .error e => .error e
    | .other _ => .error ⟨.endOfInput, stop⟩
  | .token t p rest =>
    match t, pending with
    | .blank _, .nothing => rulesFrom top progress done .nothing rest
    | .atKeyword name, .nothing =>
      rulesFrom top progress done (.atRule name rest.start []) rest
    | .semicolon, .atRule name q passed =>
      if isLate top progress name then .error ⟨.lateImport, q⟩
      else match readAtStatement (.ofTop top) name (.ofList p passed.reverse)
          (p.advance 1 p.text) with
        | .ok r =>
          rulesFrom top (progress.behind r) (r.toList ++ done) .nothing rest
        | .error e => .error e
    | t, .nothing =>
      if (top && (t == .htmlOpen || t == .htmlClose)) || (!top && t == .semicolon) then
        rulesFrom top progress done .nothing rest
      else rulesFrom top progress done (.other [.token t p]) rest
    | t, pending => rulesFrom top progress done (pending.add (.token t p)) rest
  | .block b p body rest =>
    match b with
    | .plain .curly =>
      match pending with
      | .atRule name q passed =>
        if isLate top progress name then .error ⟨.lateImport, q⟩
        else match readAtRule (.ofTop top) name (.ofList p passed.reverse) with
          | .error e => .error e
          | .ok head =>
            match head.withBlock (.ofTop top) body
                (fun _ => rulesFrom false .body [] .nothing body)
                (fun _ => styleFrom {} [] .nothing body) with
            | .ok r => rulesFrom top .body (r :: done) .nothing rest
            | .error e => .error e
      | pending =>
        let passed := match pending with
          | .other passed => passed
          | _ => []
        match readSelectors .top (.ofList p passed.reverse) with
        | .error e => .error e
        | .ok ss =>
          match styleFrom {} [] .nothing body with
          | .error e => .error e
          | .ok (block, rules) =>
            rulesFrom top .body (.style ss block rules .none :: done) .nothing rest
    | b => rulesFrom top progress done (pending.add (.block b p body)) rest

/-- Read the inside of a style rule behind declarations and rules, the rules latest first. -/
def styleFrom (block : Block) (rules : List Rule) (pending : Pending) :
    Components → Except SyntaxError (Block × List Rule)
  | .done stop =>
    match pending with
    | .nothing => .ok (block, rules.reverse)
    | .atRule name _ passed =>
      match readAtStatement .style name (.ofList stop passed.reverse) stop with
      | .ok r => .ok (block, (r.toList ++ rules).reverse)
      | .error e => .error e
    | .other passed =>
      if startsWithIdent passed then
        match readItem (.ofList stop passed.reverse) with
        | .ok (d, i) =>
          let (block, rules) := addDeclaration block rules d i
          .ok (block, rules.reverse)
        | .error e => .error e
      else .error ⟨.endOfInput, stop⟩
  | .token t p rest =>
    match t, pending with
    | .blank _, .nothing => styleFrom block rules .nothing rest
    | .semicolon, .nothing => styleFrom block rules .nothing rest
    | .atKeyword name, .nothing => styleFrom block rules (.atRule name rest.start []) rest
    | .semicolon, .atRule name _ passed =>
      match readAtStatement .style name (.ofList p passed.reverse) (p.advance 1 p.text) with
      | .ok r => styleFrom block (r.toList ++ rules) .nothing rest
      | .error e => .error e
    | .semicolon, .other passed =>
      if startsWithIdent passed then
        match readItem (.ofList p passed.reverse) with
        | .ok (d, i) =>
          let (block, rules) := addDeclaration block rules d i
          styleFrom block rules .nothing rest
        | .error e => .error e
      else .error ⟨.unexpectedToken .semicolon, p⟩
    | t, pending => styleFrom block rules (pending.add (.token t p)) rest
  | .block b p body rest =>
    match b with
    | .plain .curly =>
      match pending with
      | .atRule name _ passed =>
        match readAtRule .style name (.ofList p passed.reverse) with
        | .error e => .error e
        | .ok head =>
          match head.withBlock .style body
              (fun _ => rulesFrom false .body [] .nothing body)
              (fun _ => styleFrom {} [] .nothing body) with
          | .ok r => styleFrom block (r :: rules) .nothing rest
          | .error e => .error e
      | pending =>
        let passed := match pending with
          | .other passed => passed
          | _ => []
        if startsCustom passed then
          styleFrom block rules (pending.add (.block b p body)) rest
        else
          let nested : Except SyntaxError Rule :=
            match readSelectors .nested (.ofList p passed.reverse) with
            | .error e => .error e
            | .ok ss =>
              match styleFrom {} [] .nothing body with
              | .error e => .error e
              | .ok (inner, innerRules) => .ok (.style ss inner innerRules .none)
          match nested with
          | .ok r => styleFrom block (r :: rules) .nothing rest
          | .error e =>
            -- what starts with a name is reported as a faulty declaration
            if startsWithIdent passed then
              match readItem (.ofList rest.start (.block b p body :: passed).reverse) with
              | .error e => .error e
              | .ok _ => .error e
            else .error e
    | b => styleFrom block rules (pending.add (.block b p body)) rest

end

theorem rulesFrom_end (top : Bool) (progress : Progress) (done : List Rule) (stop : Position) :
    rulesFrom top progress done .nothing (.done stop) = .ok done.reverse := by
  rw [rulesFrom]

theorem styleFrom_end (block : Block) (rules : List Rule) (stop : Position) :
    styleFrom block rules .nothing (.done stop) = .ok (block, rules.reverse) := by
  rw [styleFrom]

/-- What follows the next semicolon. -/
def Components.afterSemicolon : Components → Components
  | .done p => .done p
  | .token .semicolon _ rest => rest
  | .token _ _ rest => rest.afterSemicolon
  | .block _ _ _ rest => rest.afterSemicolon

/-- Drop the `@charset` at the start of a sheet, whatever it says. -/
def Components.dropCharset : Components → Components
  | .token (.blank _) _ rest => rest.dropCharset
  | .token .htmlOpen _ rest => rest.dropCharset
  | .token .htmlClose _ rest => rest.dropCharset
  | .token (.atKeyword n) p rest =>
    if n.toLower = "charset" then rest.afterSemicolon else .token (.atKeyword n) p rest
  | cs => cs

/-- Read the rules of a sheet. -/
def readRules (cs : Components) : Except SyntaxError (List Rule) :=
  rulesFrom true .layers [] .nothing cs.dropCharset

end StyleBuild.Css
