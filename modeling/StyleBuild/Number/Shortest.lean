import StyleBuild.Number.Binary64
import StyleBuild.Text.Digits

/-!
# Decimal texts of floating-point numbers

A floating-point number is written with the fewest digits that read back as the number, and of
these with the digits nearest to it. Where the point stands and when an exponent is used is up
to a `FloatStyle`. A number of fixed places is its exact value rounded, ties to even.
-/

namespace StyleBuild

/-- A decimal: `digits · 10 ^ exponent`. -/
structure Scientific where
  digits : Nat
  exponent : Int
  deriving DecidableEq, Repr, Inhabited

namespace Scientific

/-- Take `n` zeros or fewer from the end of the digits. -/
def trimZeros : Nat → Scientific → Scientific
  | 0, s => s
  | n + 1, s =>
    if s.digits ≠ 0 ∧ s.digits % 10 = 0 then trimZeros n ⟨s.digits / 10, s.exponent + 1⟩ else s

/-- `num / den` as a multiple of `10 ^ e`, rounded down. -/
def floorAt (num den : Nat) (e : Int) : Nat :=
  if 0 ≤ e then num / (den * Nat.pow 10 e.toNat) else num * Nat.pow 10 (-e).toNat / den

/-- Whether `d · 10 ^ e` lies between two quotients with the denominator `den`; the bounds count
if `closed`. -/
def isBetween (low high den : Nat) (closed : Bool) (d : Nat) (e : Int) : Bool :=
  let (a, b) :=
    if 0 ≤ e then (d * Nat.pow 10 e.toNat * den, 1) else (d * den, Nat.pow 10 (-e).toNat)
  if closed then low * b ≤ a && a ≤ high * b else low * b < a && a < high * b

/-- The distance of `d · 10 ^ e` from `num / den`, up to a common factor. -/
def distance (num den d : Nat) (e : Int) : Nat :=
  let (a, b) :=
    if 0 ≤ e then (d * Nat.pow 10 e.toNat * den, num)
    else (d * den, num * Nat.pow 10 (-e).toNat)
  (a - b) + (b - a)

/-- The decimal place above the first digit of `num / den`: `10 ^ (p - 1) ≤ num / den < 10 ^ p`.
The search starts at `p` and goes down. -/
def magnitude (num den : Nat) : Nat → Int → Int
  | 0, p => p
  | n + 1, p => if floorAt num den (p - 1) = 0 then magnitude num den n (p - 1) else p

/-- The shortest decimal between the bounds that is nearest to `num / den`, tried with `n`
digits and more. -/
def search (num low high den : Nat) (closed : Bool) (p : Int) : Nat → Nat → Scientific
  | 0, n => ⟨floorAt num den (p - n), p - n⟩
  | tries + 1, n =>
    let e := p - n
    let d := floorAt num den e
    let hit := isBetween low high den closed
    match hit d e, hit (d + 1) e with
    | true, true =>
      if distance num den (d + 1) e < distance num den d e then ⟨d + 1, e⟩ else ⟨d, e⟩
    | true, false => ⟨d, e⟩
    | false, true => ⟨d + 1, e⟩
    | false, false => search num low high den closed p tries (n + 1)

/-- The shortest decimal that reads back as `m · 2 ^ e` in a format whose mantissas start at
`half`, except at the exponent `least`. -/
def shortestIn (half : Nat) (least : Int) (m : Nat) (e : Int) : Scientific :=
  if m = 0 then ⟨0, 0⟩
  else
    -- the numbers that round to this one reach half way to its neighbours
    let narrow := m = half ∧ least < e
    let (unit, den) := Binary64.ratioOf 1 (e - 2)
    let num := 4 * m * unit
    let low := (if narrow then 4 * m - 1 else 4 * m - 2) * unit
    let high := (4 * m + 2) * unit
    let p := magnitude num den 700 310
    (search num low high den (m % 2 = 0) p 17 1).trimZeros 20

/-- The shortest decimal that reads back as `m · 2 ^ e` with 53 significant bits. -/
def shortest (m : Nat) (e : Int) : Scientific :=
  shortestIn (Nat.pow 2 52) Binary64.leastExponent m e

end Scientific

/-- When a number is written without an exponent, and how an exponent is written. -/
structure FloatStyle where
  /-- The least and the greatest count of places before the point without an exponent. -/
  least : Int
  greatest : Int
  /-- Whether a positive exponent has a sign. -/
  signed : Bool
  deriving DecidableEq, Repr

/-- A decimal in a style, with at least one place behind the point unless it has an exponent. -/
def Scientific.write (style : FloatStyle) (s : Scientific) : String :=
  let ds := decimalText s.digits
  let places : Int := ds.length + s.exponent
  if s.digits = 0 then "0.0"
  else if style.least ≤ places ∧ places ≤ style.greatest then
    if 0 ≤ s.exponent then ds ++ String.ofList (List.replicate s.exponent.toNat '0') ++ ".0"
    else if 0 < places then
      String.ofList (ds.toList.take places.toNat) ++ "." ++
        String.ofList (ds.toList.drop places.toNat)
    else "0." ++ String.ofList (List.replicate (-places).toNat '0') ++ ds
  else
    let tail := ds.toList.drop 1
    let exponent := places - 1
    String.ofList (ds.toList.take 1) ++ (if tail.isEmpty then "" else "." ++ String.ofList tail) ++
      "e" ++ (if style.signed ∧ 0 ≤ exponent then "+" else "") ++ integerText exponent

/-- Round a decimal to a number of digits, a half going up. -/
def Scientific.toDigitCount (s : Scientific) (count : Nat) : Scientific :=
  let extra := (Nat.toDigits 10 s.digits).length - count
  if extra = 0 then s
  else
    let unit := Nat.pow 10 extra
    Scientific.trimZeros 20 ⟨(s.digits + unit / 2) / unit, s.exponent + extra⟩

/-- A decimal written positionally, with no zero before the point. -/
def Scientific.positional (s : Scientific) : String :=
  let ds := Nat.toDigits 10 s.digits
  if 0 ≤ s.exponent then String.ofList (ds ++ List.replicate s.exponent.toNat '0')
  else
    let places := (-s.exponent).toNat
    if places < ds.length then
      String.ofList (ds.take (ds.length - places) ++ '.' :: ds.drop (ds.length - places))
    else String.ofList ('.' :: List.replicate (places - ds.length) '0' ++ ds)

/-- A decimal written with one digit before the point and an exponent. -/
def Scientific.exponential (s : Scientific) : String :=
  let ds := Nat.toDigits 10 s.digits
  String.ofList (ds.take 1 ++ (if ds.length < 2 then [] else '.' :: ds.drop 1)) ++ "e" ++
    integerText (ds.length - 1 + s.exponent)

/-- A number in a style; `others` writes what is not finite. -/
def Binary64.write (style : FloatStyle) (others : Binary64 → String) : Binary64 → String
  | .finite s m e => (if s then "-" else "") ++ (Scientific.shortest m e).write style
  | x => others x

/-- A nonnegative quotient with a number of places behind the point. -/
def fixedText (places num den : Nat) : String :=
  let n := Binary64.roundedQuotient (num * Nat.pow 10 places) den
  decimalText (n / Nat.pow 10 places) ++ "." ++ decimalPadded places (n % Nat.pow 10 places)

/-- A nonnegative number with a number of places behind the point. -/
def Binary64.fixed (places : Nat) : Binary64 → String
  | .finite _ m e =>
    let (num, den) := Binary64.ratioOf m e
    fixedText places num den
  | .infinite _ => "inf"
  | .nan => "NaN"

end StyleBuild
