import StyleBuild.Data.Value

/-!
# JSON

A JSON text is printed without white space, or with a line for every item. Plain data is JSON
if every key is a name, a number or a truth value; `Value.toJson` says where that fails.
-/

namespace StyleBuild

/-- A JSON value. The keys of an object are in order. -/
inductive Json where
  | null
  | bool (b : Bool)
  | number (n : Number)
  | text (s : String)
  | array (items : List Json)
  | object (entries : List (String × Json))
  deriving Repr, Inhabited

/-- A natural number as JSON. -/
def Json.nat (n : Nat) : Json := .number (.integer n)

/-! ## Printing -/

/-- A character inside quotes. -/
def jsonChar (c : Char) : List Char :=
  match c with
  | '"' => ['\\', '"']
  | '\\' => ['\\', '\\']
  | '\n' => ['\\', 'n']
  | '\r' => ['\\', 'r']
  | '\t' => ['\\', 't']
  | '\x08' => ['\\', 'b']
  | '\x0c' => ['\\', 'f']
  | c => if c.toNat < 32 then ['\\', 'u'] ++ (hexPadded 4 c.toNat).toList else [c]

/-- A text in quotes. -/
def jsonQuoted (s : String) : String :=
  "\"" ++ String.ofList (s.toList.flatMap jsonChar) ++ "\""

/-- How floating-point numbers are written. -/
def jsonFloat : FloatStyle := ⟨-4, 16, true⟩

/-- A number. One that is not finite cannot be written. -/
def Number.jsonText : Number → String
  | .integer n => integerText n
  | .float x => x.write jsonFloat fun _ => "null"

namespace Json

mutual

/-- The text without white space. -/
def compact : Json → String
  | .null => "null"
  | .bool b => if b then "true" else "false"
  | .number n => n.jsonText
  | .text s => jsonQuoted s
  | .array items => "[" ++ String.intercalate "," (compactItems items) ++ "]"
  | .object entries => "\x7b" ++ String.intercalate "," (compactEntries entries) ++ "\x7d"

/-- The texts of items. -/
def compactItems : List Json → List String
  | [] => []
  | j :: js => j.compact :: compactItems js

/-- The texts of entries. -/
def compactEntries : List (String × Json) → List String
  | [] => []
  | (k, j) :: es => (jsonQuoted k ++ ":" ++ j.compact) :: compactEntries es

end

/-- A new line with the indentation of a level. -/
def lineAt (level : Nat) : String := "\n" ++ String.ofList (List.replicate (2 * level) ' ')

/-- Items between brackets, each on a line of its own. -/
def bracketed (level : Nat) (opening closing : String) (items : List String) : String :=
  if items.isEmpty then opening ++ closing
  else opening ++ lineAt (level + 1) ++ String.intercalate ("," ++ lineAt (level + 1)) items ++
    lineAt level ++ closing

mutual

/-- The text with a line for every item, at a level of indentation. -/
def prettyAt (level : Nat) : Json → String
  | .array items => bracketed level "[" "]" (prettyItems (level + 1) items)
  | .object entries => bracketed level "\x7b" "\x7d" (prettyEntries (level + 1) entries)
  | .null => "null"
  | .bool b => if b then "true" else "false"
  | .number n => n.jsonText
  | .text s => jsonQuoted s

/-- The texts of items. -/
def prettyItems (level : Nat) : List Json → List String
  | [] => []
  | j :: js => j.prettyAt level :: prettyItems level js

/-- The texts of entries. -/
def prettyEntries (level : Nat) : List (String × Json) → List String
  | [] => []
  | (k, j) :: es => (jsonQuoted k ++ ": " ++ j.prettyAt level) :: prettyEntries level es

end

/-- The text with a line for every item. -/
def pretty (j : Json) : String := j.prettyAt 0

end Json

/-! ## Plain data as JSON -/

/-- Why plain data is not JSON. -/
inductive KeyFault where
  | notName
  | notFinite
  deriving DecidableEq, Repr

/-- The fault in words. -/
def KeyFault.message : KeyFault → String
  | .notName => "key must be a string"
  | .notFinite => "float key must be finite (got NaN or +/-inf)"

/-- The name that a key is written as. -/
def keyName : Value → Except KeyFault String
  | .text s => .ok s
  | .bool b => .ok (if b then "true" else "false")
  | .number (.integer n) => .ok (integerText n)
  | .number (.float x) => if x.isFinite then .ok (Number.float x).jsonText else .error .notFinite
  | _ => .error .notName

mutual

/-- Plain data as JSON. -/
def Value.toJson : Value → Except KeyFault Json
  | .null => .ok .null
  | .bool b => .ok (.bool b)
  | .number n => .ok (.number n)
  | .text s => .ok (.text s)
  | .list vs => (itemsToJson vs).map .array
  | .map es => (entriesToJson es).map .object

/-- Items as JSON. -/
def itemsToJson : List Value → Except KeyFault (List Json)
  | [] => .ok []
  | v :: vs => do
    let j ← v.toJson
    return j :: (← itemsToJson vs)

/-- Entries as JSON. -/
def entriesToJson : List (Value × Value) → Except KeyFault (List (String × Json))
  | [] => .ok []
  | (k, v) :: es => do
    let name ← keyName k
    let j ← v.toJson
    return (name, j) :: (← entriesToJson es)

end

end StyleBuild
