/-!
# Binary floating-point numbers

Numbers with 53 significant bits, kept as naturals so that nothing depends on machine floats.
`ofRatio` rounds a quotient to the nearest such number, ties to the even one; sums and quotients
are rounded once from their exact value.
-/

namespace StyleBuild

/-- A floating-point number: `mantissa · 2 ^ exponent` with a sign, or no finite number. -/
inductive Binary64 where
  | finite (isNegative : Bool) (mantissa : Nat) (exponent : Int)
  | infinite (isNegative : Bool)
  | nan
  deriving DecidableEq, Repr, Inhabited

namespace Binary64

/-- The least exponent. -/
def leastExponent : Int := -1074

/-- The greatest exponent of a mantissa of 53 bits. -/
def greatestExponent : Int := 971

/-- The quotient of two naturals, rounded to the nearest natural, ties to the even one. -/
def roundedQuotient (num den : Nat) : Nat :=
  let q := num / den
  let r := num % den
  if den < 2 * r ∨ (2 * r = den ∧ q % 2 = 1) then q + 1 else q

/-- The quotient of `num` by `den · 2 ^ e`, rounded. -/
def scaledQuotient (num den : Nat) (e : Int) : Nat :=
  if 0 ≤ e then roundedQuotient num (den * Nat.pow 2 e.toNat)
  else roundedQuotient (num * Nat.pow 2 (-e).toNat) den

/-- The number nearest to a quotient. -/
def ofRatio (isNegative : Bool) (num den : Nat) : Binary64 :=
  if num = 0 ∨ den = 0 then .finite isNegative 0 leastExponent
  else
    let guess : Int := (Nat.log2 num : Int) - Nat.log2 den - 53
    -- the quotient has 53 or 54 bits at the guess; the step below settles which
    let q := if 0 ≤ guess then num / (den * Nat.pow 2 guess.toNat)
      else num * Nat.pow 2 (-guess).toNat / den
    let e := max leastExponent (if Nat.pow 2 53 ≤ q then guess + 1 else guess)
    let m := scaledQuotient num den e
    let (m, e) := if m = Nat.pow 2 53 then (Nat.pow 2 52, e + 1) else (m, e)
    if greatestExponent < e then .infinite isNegative else .finite isNegative m e

/-- The number nearest to a natural. -/
def ofNat (n : Nat) : Binary64 := ofRatio false n 1

/-- Whether a number is finite. -/
def isFinite : Binary64 → Bool
  | .finite _ _ _ => true
  | _ => false

/-- The exact value of a mantissa and an exponent as a quotient of naturals. -/
def ratioOf (m : Nat) (e : Int) : Nat × Nat :=
  if 0 ≤ e then (m * Nat.pow 2 e.toNat, 1) else (m, Nat.pow 2 (-e).toNat)

/-- The quotient of two nonnegative finite numbers. -/
def quotient : Binary64 → Binary64 → Binary64
  | .finite _ m e, .finite _ m' e' =>
    let (a, b) := ratioOf m e
    let (c, d) := ratioOf m' e'
    ofRatio false (a * d) (b * c)
  | _, _ => .nan

/-- The sum of two nonnegative finite numbers. -/
def sum : Binary64 → Binary64 → Binary64
  | .finite _ m e, .finite _ m' e' =>
    let (a, b) := ratioOf m e
    let (c, d) := ratioOf m' e'
    ofRatio false (a * d + c * b) (b * d)
  | _, _ => .nan

/-- The product of two nonnegative finite numbers. -/
def product : Binary64 → Binary64 → Binary64
  | .finite _ m e, .finite _ m' e' =>
    let (a, b) := ratioOf m e
    let (c, d) := ratioOf m' e'
    ofRatio false (a * c) (b * d)
  | _, _ => .nan

/-- The number with the other sign. -/
def negated : Binary64 → Binary64
  | .finite s m e => .finite (!s) m e
  | .infinite s => .infinite (!s)
  | .nan => .nan

/-- Equality as numbers, except that an undefined number equals itself. -/
def same : Binary64 → Binary64 → Bool
  | .finite s m e, .finite s' m' e' => (m = 0 && m' = 0) || (s == s' && m == m' && e == e')
  | x, y => x == y

/-- The number nearest to `digits · 10 ^ exponent`. -/
def ofDecimal (isNegative : Bool) (digits : Nat) (exponent : Int) : Binary64 :=
  let size : Int := (Nat.toDigits 10 digits).length + exponent
  if digits = 0 ∨ size < -400 then .finite isNegative 0 leastExponent
  else if 400 < size then .infinite isNegative
  else if 0 ≤ exponent then ofRatio isNegative (digits * Nat.pow 10 exponent.toNat) 1
  else ofRatio isNegative digits (Nat.pow 10 (-exponent).toNat)

end Binary64

end StyleBuild
