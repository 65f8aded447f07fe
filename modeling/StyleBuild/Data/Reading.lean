import StyleBuild.Data.Value

/-!
# Reading typed data from plain data

Typed data is read from some form of data that may not fit: it has the wrong type, a field is
missing or given twice, a name is not known. `Mismatch.message` says so.

Plain data is read strictly: a text is a text and nothing else, and nothing counts as an empty
list or map.
-/

namespace StyleBuild

/-! ## Data that does not fit -/

/-- What was found in place of what was expected. -/
inductive Found where
  | unit
  | null
  | bool (b : Bool)
  | integer (n : Int)
  | float (written : String)
  | text (s : String)
  | sequence
  | map
  | unitVariant
  | other (words : String)
  deriving DecidableEq, Repr, Inhabited

/-- A truth value in words. -/
def boolText (b : Bool) : String := if b then "true" else "false"

/-- What was found, in words. -/
def Found.words : Found → String
  | .unit => "unit value"
  | .null => "null"
  | .bool b => "boolean \x60" ++ boolText b ++ "\x60"
  | .integer n => "integer \x60" ++ integerText n ++ "\x60"
  | .float t => "floating point \x60" ++ t ++ "\x60"
  | .text s => "string " ++ quotedText s
  | .sequence => "sequence"
  | .map => "map"
  | .unitVariant => "unit variant"
  | .other w => w

/-- Why data does not fit. -/
inductive Mismatch where
  | type (found : Found) (expected : String)
  | value (found : Found) (expected : String)
  | length (n : Nat) (expected : String)
  | missing (field : String)
  | duplicateField (field : String)
  | duplicateKey (key : Value)
  | unknownField (field : String) (expected : List String)
  | unknownVariant (name : String) (expected : List String)
  /-- None of the forms of some data fits. -/
  | noForm (name : String)
  | tagged
  | other (reason : String)
  deriving Repr, Inhabited

/-- A name between back quotes. -/
def ticked (s : String) : String := "\x60" ++ s ++ "\x60"

/-- The names that would be right. -/
def choiceText : List String → String
  | [a] => ticked a
  | [a, b] => ticked a ++ " or " ++ ticked b
  | names => "one of " ++ String.intercalate ", " (names.map ticked)

/-- A name that is not known, and those that are. -/
def unknownText (what name : String) (expected : List String) : String :=
  "unknown " ++ what ++ " " ++ ticked name ++ ", " ++
    (if expected.isEmpty then "there are no " ++ what ++ "s"
    else "expected " ++ choiceText expected)

/-- The key of a repeated entry, in words. -/
def duplicateKeyText : Value → String
  | .null => "with null key"
  | .bool b => "with key " ++ ticked (boolText b)
  | .number n => "with key " ++ n.text
  | .text s => "with key " ++ quotedText s
  | _ => "in YAML map"

/-- The mismatch in words. -/
def Mismatch.message : Mismatch → String
  | .type f e => "invalid type: " ++ f.words ++ ", expected " ++ e
  | .value f e => "invalid value: " ++ f.words ++ ", expected " ++ e
  | .length n e => "invalid length " ++ decimalText n ++ ", expected " ++ e
  | .missing f => "missing field " ++ ticked f
  | .duplicateField f => "duplicate field " ++ ticked f
  | .duplicateKey k => "duplicate entry " ++ duplicateKeyText k
  | .unknownField f es => unknownText "field" f es
  | .unknownVariant n es => unknownText "variant" n es
  | .noForm n => "data did not match any variant of untagged enum " ++ n
  | .tagged => "untagged and internally tagged enums do not support enum input"
  | .other r => r

/-- How a value is called in errors. -/
def Value.found : Value → Found
  | .null => .unit
  | .bool b => .bool b
  | .number (.integer n) => .integer n
  | .number (.float x) => .float x.positionalText
  | .text s => .text s
  | .list _ => .sequence
  | .map _ => .map

/-! ## Reading -/

namespace Value

/-- Fail because the data has the wrong type. -/
def wrongType {α : Type} (v : Value) (expected : String) : Except Mismatch α :=
  .error (.type v.found expected)

/-- Read data as text. -/
def readText (v : Value) (expected : String) : Except Mismatch String :=
  match v with
  | .text s => .ok s
  | v => v.wrongType expected

/-- Read data as a list. -/
def readList (v : Value) : Except Mismatch (List Value) :=
  match v with
  | .list vs => .ok vs
  | .null => .ok []
  | v => v.wrongType "a sequence"

/-- Read data as a map. -/
def readMap (v : Value) (expected : String) : Except Mismatch (List (Value × Value)) :=
  match v with
  | .map es => .ok es
  | .null => .ok []
  | v => v.wrongType expected

/-- Read data as a list of texts. -/
def readTexts (v : Value) : Except Mismatch (List String) := do
  (← v.readList).mapM fun x => x.readText "a string"

/-- Read data that may be nothing. -/
def readOptional {α : Type} (v : Value) (read : Value → Except Mismatch α) :
    Except Mismatch (Option α) :=
  match v with
  | .null => .ok none
  | v => some <$> read v

end Value

end StyleBuild
