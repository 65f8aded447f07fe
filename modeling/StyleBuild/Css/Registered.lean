import StyleBuild.Css.Declaration.Parser
import StyleBuild.Css.Declaration.Printer
import StyleBuild.Css.SyntaxError

/-!
# Registered properties

`@property` registers a custom property: the grammar of its values, whether they are inherited,
and a first value, which has to be of the grammar. A grammar is a list of alternatives; each asks
for a value of some kind, or for several with spaces or commas between them.
-/

namespace StyleBuild.Css

/-! ## Grammars -/

/-- How often a value is repeated. -/
inductive Repetition where
  | once
  | spaced
  | listed
  deriving DecidableEq, Repr, Inhabited

/-- The mark of a repetition. -/
def Repetition.text : Repetition → String
  | .once => ""
  | .spaced => "+"
  | .listed => "#"

/-- An alternative of a grammar: a kind of values by its name, or a keyword. -/
structure GrammarPart where
  isKeyword : Bool
  name : String
  repetition : Repetition
  deriving DecidableEq, Repr, Inhabited

/-- The grammar of a property; without alternatives it takes everything. -/
abbrev Grammar := Option (List GrammarPart)

namespace GrammarPart

/-- The kinds of values. -/
def kinds : List String :=
  ["length", "number", "percentage", "length-percentage", "string", "color", "image", "url",
   "integer", "angle", "time", "resolution", "transform-function", "transform-list",
   "custom-ident"]

/-- Whether a character may start a keyword. -/
def isStart (c : Char) : Bool := c.isAlpha || 0x80 ≤ c.toNat || c == '_'

/-- Whether a character may stand in a keyword. -/
def isInner (c : Char) : Bool := isStart c || c.isDigit || c == '-'

/-- Drop leading spaces. -/
def skipSpaces (cs : List Char) : List Char := cs.dropWhile fun c => c == ' ' || c == '\t'

/-- The repetition in front, and what follows. -/
def readRepetition (cs : List Char) : Repetition × List Char :=
  match cs with
  | '+' :: rest => (.spaced, rest)
  | '#' :: rest => (.listed, rest)
  | cs => (.once, cs)

/-- The alternative in front, and what follows. A list of transforms is not repeated. -/
def read? (cs : List Char) : Option (GrammarPart × List Char) :=
  match skipSpaces cs with
  | '<' :: cs =>
    let name := (String.ofList (cs.takeWhile (· != '>'))).toLower
    match cs.dropWhile (· != '>') with
    | [] => none
    | _ :: rest =>
      if !kinds.contains name then none
      else if name = "transform-list" then some (⟨false, name, .once⟩, rest)
      else
        let (r, rest) := readRepetition rest
        some (⟨false, name, r⟩, rest)
  | cs =>
    if (cs.head?.map isStart).getD false then
      let (r, rest) := readRepetition (cs.dropWhile isInner)
      some (⟨true, String.ofList (cs.takeWhile isInner), r⟩, rest)
    else none

/-- The printed form. -/
def text (g : GrammarPart) : String :=
  (if g.isKeyword then g.name else "<" ++ g.name ++ ">") ++ g.repetition.text

end GrammarPart

namespace Grammar

/-- Read alternatives with bars between them; the number bounds how many. -/
def readParts : Nat → List Char → Option (List GrammarPart)
  | 0, _ => none
  | n + 1, cs =>
    match GrammarPart.read? cs with
    | none => none
    | some (g, rest) =>
      match GrammarPart.skipSpaces rest with
      | [] => some [g]
      | '|' :: rest => (readParts n rest).map (g :: ·)
      | _ => none

/-- A grammar by its text. -/
def ofText? (cs : List Char) : Option Grammar :=
  let cs := GrammarPart.skipSpaces (GrammarPart.skipSpaces cs.reverse).reverse
  if cs = ['*'] then some none else (readParts cs.length cs).map some

/-- The printed form. -/
def text (l : Layout) : Grammar → String
  | none => "*"
  | some gs => String.intercalate (l.around "|") (gs.map GrammarPart.text)

end Grammar

/-! ## Values -/

/-- A value of some kind. -/
inductive KindValue where
  | length (v : Calc Length)
  | number (x : Float32)
  | percentage (p : Percentage)
  | lengthPercentage (v : Calc LengthPercentage)
  | quoted (t : String)
  | color (c : Color)
  | url (address : String)
  | integer (i : Int)
  | angle (a : Angle)
  | time (t : Time)
  | resolution (r : Resolution)
  | transforms (ts : List Transform)
  | ident (n : String)
  deriving BEq, Repr, Inhabited

namespace KindValue

/-- The value in front by its token, and what follows. -/
def readToken (ofToken? : Token → Option KindValue) (cs : Components) :
    Option (KindValue × Components) :=
  match cs.skipBlank with
  | .token t _ rest => (ofToken? t).map (·, rest)
  | _ => none

/-- The value of a kind in front, and what follows. -/
def read (kind : String) (cs : Components) : Option (KindValue × Components) :=
  let mapped {α : Type} (f : α → KindValue) (r : Option (α × Components)) :
      Option (KindValue × Components) := r.map fun (a, rest) => (f a, rest)
  match kind with
  | "length" => mapped .length (readQuantity .length cs)
  | "number" => mapped .number (readNumberValue cs)
  | "percentage" => mapped .percentage (readKnown .percentage cs)
  | "length-percentage" => mapped .lengthPercentage (readQuantity .lengthPercentage cs)
  | "string" => readToken (fun
    | .quoted t => some (.quoted t)
    | _ => none) cs
  | "color" => mapped .color (readColor cs)
  | "url" => mapped .url (readUrlAddress cs).toOption
  | "image" =>
    match readKeyword cs with
    | some ("none", rest) => some (.ident "none", rest)
    | _ => mapped .url (readUrlAddress cs).toOption
  | "integer" => readToken (fun
    | .number n => n.integer.map .integer
    | _ => none) cs
  | "angle" => mapped .angle (readAngle false cs)
  | "time" => mapped .time (readKnown { ofToken? := Time.ofToken? } cs)
  | "resolution" => readToken (fun t => (Resolution.ofToken? t).map .resolution) cs
  | "transform-function" =>
    match cs.skipBlank with
    | .block (.function n) _ body rest =>
      (Transform.ofCall? n body).map fun t => (.transforms [t], rest)
    | _ => none
  | "transform-list" => (Transform.read? cs).map fun ts => (.transforms ts, .done cs.stop)
  | "custom-ident" => readToken (fun
    | .ident n => if wideKeywords.contains n.toLower then none else some (.ident n)
    | _ => none) cs
  | _ => none

/-- The printed form. -/
def text (p : Printing) : KindValue → String
  | .length (.value l) => l.text
  | .length c => c.text p
  | .number x => numberText x
  | .percentage v => v.text
  | .lengthPercentage (.value v) => v.text
  | .lengthPercentage c => c.text p
  | .quoted t => writeQuoted t
  | .color c => c.text p
  | .url a => writeUrl p.layout a
  | .integer i => integerText i
  | .angle a => a.text
  | .time t => t.text
  | .resolution r => r.text p
  | .transforms ts => Transform.listText p ts
  | .ident n => writeIdent n

end KindValue

/-- A first value: of a grammar that takes everything, or one or more values of a kind. -/
inductive InitialValue where
  | raw (value : Raw)
  | values (repetition : Repetition) (vs : List KindValue)
  deriving BEq, Repr, Inhabited

namespace GrammarPart

/-- The value of an alternative in front, and what follows. -/
def readValue (g : GrammarPart) (cs : Components) : Option (KindValue × Components) :=
  if g.isKeyword then
    match cs.skipBlank with
    | .token (.ident n) _ rest => if n = g.name then some (.ident n, rest) else none
    | _ => none
  else KindValue.read g.name cs

/-- Read the values of an alternative; the number bounds how many. -/
def readValues (g : GrammarPart) : Nat → Components → Option (List KindValue)
  | 0, _ => none
  | n + 1, cs =>
    match g.readValue cs with
    | none => none
    | some (v, rest) =>
      match g.repetition with
      | .once => some [v]
      | .spaced => if rest.isBlank then some [v] else (readValues g n rest).map (v :: ·)
      | .listed =>
        if rest.isBlank then some [v]
        else match rest.dropComma? with
          | some rest => (readValues g n rest).map (v :: ·)
          | none => none

end GrammarPart

namespace InitialValue

/-- Read a first value of a grammar by its text. -/
def read (g : Grammar) (text : List Char) : Except SyntaxError InitialValue :=
  let cs := components text
  match g with
  | none => if cs.isBlank then .ok (.raw []) else (readRaw cs).map .raw
  | some parts =>
    let found := parts.findSome? fun part =>
      (part.readValues (cs.size + 1) cs).map (.values part.repetition)
    match found with
    | some v => .ok v
    | none => .error cs.unexpectedBehind

/-- The printed form. -/
def text (p : Printing) : InitialValue → String
  | .raw v => rawText p v
  | .values .listed vs => p.layout.commas (vs.map (KindValue.text p))
  | .values _ vs => String.intercalate " " (vs.map (KindValue.text p))

end InitialValue

/-! ## Rules -/

/-- A registered custom property. -/
structure Registered where
  name : String
  grammar : Grammar
  inherits : Bool
  initial : Option InitialValue
  deriving BEq, Repr, Inhabited

namespace Registered

/-- What has been read of the descriptors. -/
structure Draft where
  grammar : Option Grammar := none
  inherits : Option Bool := none
  initial : Option (List Char) := none

/-- The name in front, and what follows. -/
def readName (cs : Components) : Except SyntaxError (String × Components) :=
  match cs.skipBlank with
  | .token (.ident n) _ rest => if isCustomName n then .ok (n, rest) else .error cs.unexpected
  | _ => .error cs.unexpected

/-- Read a descriptor by its name and value. -/
def Draft.add (d : Draft) (name : String) (cs : Components) : Except SyntaxError Draft :=
  match name.toLower with
  | "syntax" =>
    match cs.skipBlank with
    | .token (.quoted t) _ rest =>
      match Grammar.ofText? t.toList with
      | some g => (expectNothing rest).map fun _ => { d with grammar := some g }
      | none => .error ⟨.invalidValue, rest.start⟩
    | _ => .error cs.unexpected
  | "inherits" =>
    match readKeyword cs with
    | some ("true", rest) => (expectNothing rest).map fun _ => { d with inherits := some true }
    | some ("false", rest) => (expectNothing rest).map fun _ => { d with inherits := some false }
    | _ => .error cs.unexpected
  | "initial-value" => .ok { d with initial := some (cs.start.slice cs.stop) }
  | _ => .error ⟨.invalidDeclaration, cs.start⟩

/-- Read items as descriptors. -/
def Draft.addItems (d : Draft) : List Components → Except SyntaxError Draft
  | [] => .ok d
  | cs :: rest =>
    match cs with
    | .token (.ident name) _ tail =>
      match tail.skipBlank with
      | .token .colon _ value => do Draft.addItems (← d.add name value) rest
      | _ => .error tail.unexpected
    | .token (.atKeyword name) _ tail => .error ⟨.unknownAtRule name, tail.start⟩
    | cs => .error cs.unexpected

/-- Read the body of a rule for some name. A first value may only be missing where everything is a
value. -/
def read (name : String) (body : Components) : Except SyntaxError Registered := do
  let d ← Draft.addItems {} body.items
  match d.grammar, d.inherits with
  | some grammar, some inherits =>
    match d.initial with
    | some t => return ⟨name, grammar, inherits, some (← InitialValue.read grammar t)⟩
    | none =>
      if grammar.isSome then throw ⟨.ruleBody, body.stop⟩
      return ⟨name, grammar, inherits, none⟩
  | _, _ => throw ⟨.ruleBody, body.stop⟩

/-- The printed form, at an indentation. -/
def text (p : Printing) (depth : Nat) (r : Registered) : String :=
  let l := p.layout
  let line (name value : String) : String := l.newline (depth + 1) ++ name ++ l.after ":" ++ value
  "@property " ++ writeIdent r.name ++ l.space ++ "\x7b" ++
    line "syntax" ("\"" ++ r.grammar.text l ++ "\"") ++ ";" ++
    line "inherits" (if r.inherits then "true" else "false") ++
    (match r.initial with
     | none => ""
     | some v => ";" ++ line "initial-value" (v.text p) ++ (if l = .pretty then ";" else "")) ++
    l.newline depth ++ "\x7d"

end Registered

end StyleBuild.Css
