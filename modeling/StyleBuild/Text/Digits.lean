/-!
# Digits

Numerals in a base, most significant digit first.
-/

namespace StyleBuild

/-- The decimal numeral of a number. -/
def decimalText (n : Nat) : String := String.ofList (Nat.toDigits 10 n)

/-- The decimal numeral of an integer, with a sign when negative. -/
def integerText (n : Int) : String :=
  if n < 0 then "-" ++ decimalText n.natAbs else decimalText n.natAbs

/-- The lower-case hexadecimal numeral of a number. -/
def hexText (n : Nat) : String := String.ofList (Nat.toDigits 16 n)

/-- The hexadecimal numeral padded with zeros to a width. -/
def hexPadded (width n : Nat) : String :=
  let t := Nat.toDigits 16 n
  String.ofList (List.replicate (width - t.length) '0' ++ t)

/-- The decimal numeral padded with zeros to a width. -/
def decimalPadded (width n : Nat) : String :=
  let t := Nat.toDigits 10 n
  String.ofList (List.replicate (width - t.length) '0' ++ t)

/-- The value of a digit up to `f`, in either case. -/
def digitValue? (c : Char) : Option Nat :=
  if '0' ≤ c ∧ c ≤ '9' then some (c.toNat - '0'.toNat)
  else if 'a' ≤ c ∧ c ≤ 'f' then some (c.toNat - 'a'.toNat + 10)
  else if 'A' ≤ c ∧ c ≤ 'F' then some (c.toNat - 'A'.toNat + 10)
  else none

/-- Whether a character is a hexadecimal digit. -/
def isHexDigit (c : Char) : Bool := (digitValue? c).isSome

/-- The value of a list of digits in a base. -/
def valueOfDigits (base : Nat) (cs : List Char) : Nat :=
  cs.foldl (fun n c => n * base + (digitValue? c).getD 0) 0

/-- The character with a code, or the replacement character when there is none. -/
def charOfCode (n : Nat) : Char :=
  if n = 0 ∨ (0xD800 ≤ n ∧ n ≤ 0xDFFF) ∨ 0x10FFFF < n then '\uFFFD' else Char.ofNat n

end StyleBuild
