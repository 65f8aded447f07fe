import StyleBuild.Number.Shortest

/-!
# Numbers of a style sheet

A number of a sheet has single precision. `numberText` prints at most six significant digits and
no zero before the point; `wholeText`, which is used before a unit, prints a whole number as an
integer of 32 bits. `numberMessage` is the spelling of error messages, with all the digits that
are needed to read the number back.
-/

namespace StyleBuild.Css

/-- The number nearest to `digits · 10 ^ exponent`, with a sign. -/
def numberOfDecimal (negative : Bool) (digits : Nat) (exponent : Int) : Float32 :=
  let size : Int := (Nat.toDigits 10 digits).length + exponent
  let x : Float32 :=
    if digits = 0 ∨ size < -60 then 0
    else if 60 < size then Float32.ofScientific 1 false 60
    else Float32.ofScientific digits (exponent < 0) exponent.natAbs
  if negative then -x else x

/-- The number nearest to an integer. -/
def numberOfInt (n : Int) : Float32 := numberOfDecimal (n < 0) n.natAbs 0

/-- Sign, mantissa and exponent of a number: its absolute value is `mantissa · 2 ^ exponent`. What
is not finite is given the value that continues the scale. -/
def numberParts (x : Float32) : Bool × Nat × Int :=
  let bits := x.toBits.toNat
  let e := bits / Nat.pow 2 23 % 256
  let m := bits % Nat.pow 2 23
  let negative := Nat.pow 2 31 ≤ bits
  if e = 0 then (negative, m, -149) else (negative, m + Nat.pow 2 23, (e : Int) - 150)

/-- Whether a number is finite. -/
def isFiniteNumber (x : Float32) : Bool := x.toBits.toNat / Nat.pow 2 23 % 256 != 255

/-- Whether a number is less than zero, or the zero with a minus sign. -/
def hasMinus (x : Float32) : Bool := Nat.pow 2 31 ≤ x.toBits.toNat

/-- Whether a number is whole. -/
def isWhole (x : Float32) : Bool :=
  let (_, m, e) := numberParts x
  isFiniteNumber x && (0 ≤ e || m % Nat.pow 2 (-e).toNat == 0)

/-- The shortest decimal that reads back as the absolute value of a number. -/
def numberDecimal (x : Float32) : Scientific :=
  let (_, m, e) := numberParts x
  .shortestIn (Nat.pow 2 23) (-149) m e

/-- The printed absolute value: six significant digits, with an exponent for very large and very
small numbers. -/
def magnitudeText (x : Float32) : String :=
  let s := numberDecimal x
  let places : Int := (Nat.toDigits 10 s.digits).length + s.exponent
  let shown := s.toDigitCount 6
  if s.digits = 0 then "0"
  else if -6 < places ∧ places ≤ 21 then shown.positional else shown.exponential

/-- The printed form of a number. -/
def numberText (x : Float32) : String := (if hasMinus x then "-" else "") ++ magnitudeText x

/-- The integer of 32 bits nearest to a number, towards zero. -/
def clampedInt (x : Float32) : Int := x.toInt32.toInt

/-- The printed form of a number before a unit: a whole number is an integer of 32 bits. -/
def wholeText (x : Float32) : String :=
  if isWhole x && x != 0 then integerText (clampedInt x) else numberText x

/-! ## Whole numbers and remainders -/

/-- How a number is rounded. -/
inductive RoundingMode where
  | nearest
  | up
  | down
  | toZero
  deriving DecidableEq, Repr, Inhabited

/-- The whole number that a mode rounds to; of two at the same distance the one farther from
zero. -/
def roundTo (mode : RoundingMode) (x : Float32) : Float32 :=
  let (negative, m, e) := numberParts x
  if !isFiniteNumber x || 0 ≤ e then x
  else
    let unit := Nat.pow 2 (-e).toNat
    let n := m / unit
    let rest := m % unit
    let away : Bool := match mode with
      | .nearest => unit ≤ 2 * rest
      | .up => rest != 0 && !negative
      | .down => rest != 0 && negative
      | .toZero => false
    numberOfDecimal negative (if away then n + 1 else n) 0

/-- The number `m · 2 ^ e` with a sign. -/
def numberOfParts (negative : Bool) (m : Nat) (e : Int) : Float32 :=
  let x : Float32 :=
    if 0 ≤ e then numberOfDecimal false (m * Nat.pow 2 e.toNat) 0
    else numberOfDecimal false (m * Nat.pow 5 (-e).toNat) e
  if negative then -x else x

/-- What is left of a number when a multiple of another one is taken off; it has the sign of the
first. -/
def remainder (a b : Float32) : Float32 :=
  let (negative, m, e) := numberParts a
  let (_, n, f) := numberParts b
  if !isFiniteNumber a || n = 0 || !(b == b) then 0 / 0
  else if !isFiniteNumber b then a
  else
    let low := min e f
    let rest := (m * Nat.pow 2 (e - low).toNat) % (n * Nat.pow 2 (f - low).toNat)
    numberOfParts negative rest low

/-- Compare two numbers. -/
def compareNumbers? (a b : Float32) : Option Ordering :=
  if a < b then some .lt else if b < a then some .gt else if a == b then some .eq else none

/-- The sign of a number: one, minus one, or the zero itself. -/
def signOf (x : Float32) : Float32 := if x == 0 then x else if x < 0 then -1 else 1

/-! ## Messages -/

/-- Messages write numbers below `10 ^ -4` and from `10 ^ 16` on with an exponent. -/
def messageStyle : FloatStyle := ⟨-3, 16, false⟩

/-- The form used in messages. -/
def numberMessage (x : Float32) : String :=
  let sign := if hasMinus x then "-" else ""
  if isFiniteNumber x then sign ++ (numberDecimal x).write messageStyle
  else if x == x then sign ++ "inf" else "NaN"

end StyleBuild.Css
