import StyleBuild.Data.Value

/-!
# The meaning of plain scalars

A plain scalar is data of some type by the look of it. Names of truth values and of nothing are
accepted in three spellings, integers also in bases 16, 8 and 2; what looks like nothing else
is a text.
-/

namespace StyleBuild.Yaml

/-- The data that a scalar stands for. Integers may be too big to be data. -/
inductive Scalar where
  | null
  | bool (b : Bool)
  | integer (n : Int)
  | float (x : Binary64)
  | text (s : String)
  deriving DecidableEq, Repr, Inhabited

/-- A text without the characters that it starts with, if it does. -/
def dropStart (start : List Char) (cs : List Char) : Option (List Char) :=
  if start.isPrefixOf cs then some (cs.drop start.length) else none

/-- Whether a text is one of the spellings of nothing. -/
def isNull (s : String) : Bool := ["null", "Null", "NULL", "~"].contains s

/-- The truth value that a text spells. -/
def readBool (s : String) : Option Bool :=
  if ["true", "True", "TRUE"].contains s then some true
  else if ["false", "False", "FALSE"].contains s then some false
  else none

/-- The value of digits of a base. -/
def readDigits (base : Nat) (cs : List Char) : Option Nat :=
  if !cs.isEmpty && cs.all fun c => (digitValue? c).any (· < base) then
    some (valueOfDigits base cs)
  else none

/-- Whether digits start with a zero that does not belong there. -/
def hasIdleZero (cs : List Char) : Bool :=
  let cs := match cs with
    | '+' :: rest | '-' :: rest => rest
    | _ => cs
  match cs with
  | '0' :: rest => !rest.isEmpty && rest.all Char.isDigit
  | _ => false

/-- The value of digits in the base that the text names. -/
def readMagnitude (limit : Nat) (cs : List Char) : Option Nat :=
  let within (n : Option Nat) : Option Nat := n.filter (· ≤ limit)
  let based (start : List Char) (base : Nat) : Option Nat :=
    (dropStart start cs).bind fun rest => within (readDigits base rest)
  based ['0', 'x'] 16 <|> based ['0', 'o'] 8 <|> based ['0', 'b'] 2 <|>
    if hasIdleZero cs then none else within (readDigits 10 cs)

/-- The integer of at most 128 bits that a text spells. -/
def readInteger (cs : List Char) : Option Int :=
  match cs with
  | '-' :: rest => (readMagnitude (Nat.pow 2 127) rest).map fun n => -(n : Int)
  | '+' :: rest => (readMagnitude (Nat.pow 2 128 - 1) rest).map Int.ofNat
  | cs => (readMagnitude (Nat.pow 2 128 - 1) cs).map Int.ofNat

/-- The exponent of a decimal number, from its letter on. -/
def readExponent : List Char → Option Int
  | [] => some 0
  | c :: cs =>
    if c = 'e' ∨ c = 'E' then
      match cs with
      | '-' :: ds => (readDigits 10 ds).map fun n => -(n : Int)
      | '+' :: ds => (readDigits 10 ds).map Int.ofNat
      | ds => (readDigits 10 ds).map Int.ofNat
    else none

/-- The decimal number that a text without a sign spells. -/
def readDecimal (isNegative : Bool) (cs : List Char) : Option Binary64 :=
  let whole := cs.takeWhile Char.isDigit
  let rest := cs.drop whole.length
  let (places, rest) := match rest with
    | '.' :: rest => (rest.takeWhile Char.isDigit, rest.dropWhile Char.isDigit)
    | rest => ([], rest)
  if whole.isEmpty ∧ places.isEmpty then none
  else (readExponent rest).map fun e =>
    .ofDecimal isNegative (valueOfDigits 10 (whole ++ places)) (e - places.length)

/-- The finite or infinite number that a text spells. -/
def readFloat (cs : List Char) : Option Binary64 :=
  let isNamed (names : List String) (cs : List Char) : Bool := names.contains (String.ofList cs)
  let infinity := [".inf", ".Inf", ".INF"]
  let finite (r : Option Binary64) : Option Binary64 := r.filter Binary64.isFinite
  if isNamed [".nan", ".NaN", ".NAN"] cs then some .nan
  else match cs with
    | '+' :: rest =>
      if isNamed infinity rest then some (.infinite false) else finite (readDecimal false rest)
    | '-' :: rest =>
      if isNamed infinity rest then some (.infinite true) else finite (readDecimal true rest)
    | cs => if isNamed infinity cs then some (.infinite false) else finite (readDecimal false cs)

/-- The data that a plain scalar stands for. -/
def Scalar.ofPlain (s : String) : Scalar :=
  let cs := s.toList
  if s.isEmpty || isNull s then .null
  else match readBool s with
    | some b => .bool b
    | none =>
      match readInteger cs with
      | some n => .integer n
      | none =>
        if hasIdleZero cs then .text s
        else match readFloat cs with
          | some x => .float x
          | none => .text s

end StyleBuild.Yaml
