import StyleBuild.Number.Shortest
import StyleBuild.Text.Quoted

/-!
# Plain data

The options of a stage are plain data: a tree of scalars, lists and maps whose keys may be any
data. `Value.same` is equality that does not care about the order of entries.
-/

namespace StyleBuild

/-- A number: an integer of 64 bits, with or without a sign, or a floating-point number. -/
inductive Number where
  | integer (n : Int)
  | float (x : Binary64)
  deriving DecidableEq, Repr, Inhabited

/-- Plain data. -/
inductive Value where
  | null
  | bool (b : Bool)
  | number (n : Number)
  | text (s : String)
  | list (items : List Value)
  | map (entries : List (Value × Value))
  deriving Repr, Inhabited

/-- Equality of numbers. -/
def Number.same : Number → Number → Bool
  | .integer a, .integer b => a == b
  | .float a, .float b => a.same b
  | _, _ => false

mutual

/-- Equality of data. -/
def Value.same : Value → Value → Bool
  | .null, .null => true
  | .bool a, .bool b => a == b
  | .number a, .number b => a.same b
  | .text a, .text b => a == b
  | .list as, .list bs => sameItems as bs
  | .map as, .map bs => as.length == bs.length && entriesIn as bs
  | _, _ => false

/-- Equality of lists of data. -/
def sameItems : List Value → List Value → Bool
  | [], [] => true
  | a :: as, b :: bs => a.same b && sameItems as bs
  | _, _ => false

/-- Whether every entry of a list is in another. -/
def entriesIn : List (Value × Value) → List (Value × Value) → Bool
  | [], _ => true
  | (k, v) :: as, bs => bs.any (fun (l, w) => k.same l && v.same w) && entriesIn as bs

end

/-- The number as the data format writes it. -/
def Number.text : Number → String
  | .integer n => integerText n
  | .float x => x.write ⟨-4, 16, false⟩ fun
    | .infinite true => "-.inf"
    | .infinite false => ".inf"
    | _ => ".nan"

/-- The number in words of errors: positional, with at least one place behind the point. -/
def Binary64.positionalText (x : Binary64) : String :=
  x.write ⟨-1100, 1100, false⟩ fun
    | .infinite true => "-inf"
    | .infinite false => "inf"
    | _ => "NaN"

end StyleBuild
