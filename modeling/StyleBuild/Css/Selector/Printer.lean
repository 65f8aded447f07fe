import StyleBuild.Css.Selector.Parser

/-!
# Printing selectors

Parts are printed in order. Four rules change what is written: the universal selector is left
out of a compound selector that has other parts; `:is()` around a single compound selector is
left out; inside `:has()` and behind `of` a leading `:scope` goes without saying; and where nested
rules are written out, `&` is replaced by the selectors of the rule around, behind a type.
-/

namespace StyleBuild.Css

/-- A combinator with its spaces. -/
def Combinator.text (l : Layout) : Combinator → String
  | .descendant => " "
  | .child => l.around ">"
  | .nextSibling => l.around "+"
  | .laterSibling => l.around "~"

/-- How an attribute is compared. -/
def AttributeMatch.text : AttributeMatch → String
  | .equal => "="
  | .includes => "~="
  | .dash => "|="
  | .prefixOf => "^="
  | .suffixOf => "$="
  | .substring => "*="

/-- A value of an attribute: in compact layout a name where that is shorter. -/
def attributeValueText (l : Layout) (value : String) : String :=
  let quoted := writeQuoted value
  let ident := writeIdent value
  if l = .compact ∧ 0 < ident.utf8ByteSize ∧ ident.utf8ByteSize < quoted.utf8ByteSize then ident
  else quoted

/-- The label of a namespace with its bar. -/
def namespaceText (label : String) : String :=
  (if label = "*" then "*" else writeIdent label) ++ "|"

/-- An attribute selector; only the value of a plain name in lower case may do without quotes. -/
def Attribute.text (l : Layout) (a : Attribute) : String :=
  let plain : Bool := a.space.isNone && a.name.toLower == a.name
  "[" ++ ((a.space.map namespaceText).getD "") ++ writeIdent a.name ++
    (match a.test with
     | none => ""
     | some (m, value, flag) =>
       m.text ++ attributeValueText (if plain then l else .pretty) value ++
         (match flag with
          | .default => ""
          | .insensitive => " i"
          | .sensitive => " s")) ++ "]"

/-- An integer with its sign, as an offset. -/
def offsetText (b : Int) : String :=
  if b = 0 then "" else if b < 0 then integerText b else "+" ++ integerText b

/-- The numbers of `:nth-child()` and its kin. -/
def nthText (a b : Int) : String :=
  if a = 2 ∧ b = 1 then "odd"
  else if a = 0 then integerText b
  else (if a = 1 then "n" else if a = -1 then "-n" else integerText a ++ "n") ++ offsetText b

/-- The selectors of a rule around, at the place of `&`. -/
def Parent.text (p : Printing) (isFirst : Bool) (parent : Parent) : String :=
  match parent.texts p.vendor with
  | [t] => if isFirst || parent.anywhere then t else ":is(" ++ t ++ ")"
  | ts => ":is(" ++ p.layout.commas ts ++ ")"

/-- The nesting selector. -/
def nestingText (p : Printing) (isFirst : Bool) : String :=
  match p.parent with
  | some parent => parent.text p isFirst
  | none => if p.flattens then ":scope" else "&"

/-- The spelling of the placeholder in the vendor spelling being printed. -/
def placeholderText (p : Printing) (own : Prefixes) : String :=
  let shown :=
    if p.vendor.isEmpty then own
    else
      let both := p.vendor.inter own
      if both.isEmpty then .standard else both
  let vendor := shown.text
  "::" ++ vendor ++ (if vendor = "-webkit-" ∨ vendor = "-ms-" then "input-placeholder"
    else "placeholder")

/-- The name of a pseudo-class that counts elements. -/
def NthKind.name : NthKind → String
  | .child => "nth-child"
  | .lastChild => "nth-last-child"
  | .ofType => "nth-of-type"
  | .lastOfType => "nth-last-of-type"
  | .column => "nth-col"
  | .lastColumn => "nth-last-col"

/-- The pseudo-class for the first element that is counted, if it has a name of its own. -/
def NthKind.first? : NthKind → Option String
  | .child => some "first-child"
  | .lastChild => some "last-child"
  | .ofType => some "first-of-type"
  | .lastOfType => some "last-of-type"
  | _ => none

/-- A pseudo-class that counts elements. -/
def countingText (kind : NthKind) (a b : Int) : String :=
  match kind.first? with
  | some n => if a = 0 ∧ b = 1 then ":" ++ n else ":" ++ kind.name ++ "(" ++ nthText a b ++ ")"
  | none => ":" ++ kind.name ++ "(" ++ nthText a b ++ ")"

/-- A simple selector; `&` starts the whole selector if `isFirst`. -/
def Simple.text (p : Printing) (isFirst : Bool) : Simple → String
  | .namespace_ none => "|"
  | .namespace_ (some n) => namespaceText n
  | .type n => writeIdent n
  | .universal => "*"
  | .nesting => nestingText p isFirst
  | .cls n => "." ++ writeIdent n
  | .id n => "#" ++ writeIdent n
  | .attribute a => a.text p.layout
  | .pseudoClass n => ":" ++ writeIdent n
  | .pseudoCall n arguments => ":" ++ writeIdent n ++ "(" ++ rawText p arguments ++ ")"
  | .nth kind a b => countingText kind a b
  | .pseudoElement n => (if isLegacyElement n then ":" else "::") ++ writeIdent n
  | .elementCall n arguments => "::" ++ writeIdent n ++ "(" ++ rawText p arguments ++ ")"
  | .shadowPart names => "::part(" ++ String.intercalate " " (names.map writeIdent) ++ ")"
  | .placeholder own => placeholderText p own

/-- What stands before alternatives in a vendor spelling. -/
def alternativesHead (vendor : Prefixes) : String :=
  if vendor.webkit then ":-webkit-any(" else if vendor.moz then ":-moz-any(" else ":is("

/-- What stands before the selectors of a pseudo-class, in the vendor spelling being printed. -/
def Choice.head (p : Printing) : Choice → String
  | .is => alternativesHead p.vendor
  | .anyOf own => alternativesHead (if p.vendor.isEmpty then own else p.vendor)
  | .where_ => ":where("
  | .not => ":not("
  | .has => ":has("
  | .nth kind a b => ":" ++ kind.name ++ "(" ++ nthText a b ++ " of "
  | .host => ":host("
  | .slotted => "::slotted("

/-- Whether a leading `:scope` goes without saying in the selectors of a pseudo-class. -/
def Choice.isRelative : Choice → Bool
  | .has | .nth _ _ _ => true
  | _ => false

/-- Whether a universal selector before these parts is alone in its compound selector. -/
def isAlone : List Part → Bool
  | [] => true
  | .simple (.shadowPart _) :: _ => true
  | p :: _ => p.isCombinator

mutual

/-- Print one part. -/
def Part.text (p : Printing) (isFirst : Bool) : Part → String
  | .combinator c => c.text p.layout
  | .simple s => s.text p isFirst
  | .choice .is [s] =>
    if canUnwrap [s] then Selector.textFrom p true true s
    else Choice.is.head p ++ Selector.textFrom p true true s ++ ")"
  | .choice k ss => k.head p ++ p.layout.commas (listTexts p k.isRelative ss) ++ ")"

/-- Print the parts of a selector; `isFirst` tells whether its first compound selector is being
printed, and `fresh` whether a compound selector starts. -/
def Selector.textFrom (p : Printing) (isFirst fresh : Bool) : List Part → String
  | [] => ""
  | .combinator c :: ps => Part.text p false (.combinator c) ++ Selector.textFrom p false true ps
  | .simple .nesting :: .simple (.type n) :: ps =>
    -- a type stands first in its compound selector
    (if isFirst && fresh && p.flattens then writeIdent n ++ nestingText p false
     else nestingText p false ++ writeIdent n) ++ Selector.textFrom p isFirst false ps
  | .simple .nesting :: .simple .universal :: ps =>
    (if isFirst && fresh && p.flattens then "*" ++ nestingText p false
     else nestingText p false ++ (if isFirst && fresh && isAlone ps then "*" else "")) ++
      Selector.textFrom p isFirst false ps
  | .simple .nesting :: ps =>
    nestingText p (isFirst && fresh) ++ Selector.textFrom p isFirst false ps
  | .simple (.namespace_ n) :: .simple .universal :: ps =>
    Simple.text p false (.namespace_ n) ++ "*" ++ Selector.textFrom p isFirst false ps
  | .simple .universal :: ps =>
    (if fresh && isAlone ps then "*" else "") ++ Selector.textFrom p isFirst false ps
  | q :: ps => Part.text p false q ++ Selector.textFrom p isFirst false ps

/-- Print the selectors of a list; `relative` tells whether a leading `:scope` is left out. -/
def listTexts (p : Printing) (relative : Bool) : List (List Part) → List String
  | [] => []
  | (.simple (.pseudoClass n) :: ps) :: ss =>
    (if relative && n == "scope" then
      (match ps with
       | .combinator c :: ps => c.text p.layout ++ Selector.textFrom p true true ps
       | ps => Selector.textFrom p true true ps)
     else Selector.textFrom p true true (.simple (.pseudoClass n) :: ps)) :: listTexts p relative ss
  | s :: ss => Selector.textFrom p true true s :: listTexts p relative ss

end

/-- Print a selector. -/
def Selector.text (p : Printing) (s : Selector) : String := Selector.textFrom p true true s

/-- Print a selector list. -/
def selectorsText (p : Printing) (ss : List Selector) : String :=
  p.layout.commas (ss.map (Selector.text p))

/-- What `&` is written as inside a rule with these selectors. -/
def Parent.ofSelectors (p : Printing) (ss : List Selector) : Parent where
  texts vendor := ss.map (Selector.text { p with vendor })
  anywhere := match ss with
    | [s] => !s.startsWithType && s.isCompound
    | _ => false

end StyleBuild.Css
