import StyleBuild.Text.Digits

/-!
# Identifiers

A build has an identifier of 128 bits. It is written as five groups of lower-case hexadecimal
digits and read from that form, also without hyphens, in braces or as a name, in either case.
-/

namespace StyleBuild

/-- An identifier. -/
structure Uuid where
  value : Nat
  value_lt : value < Nat.pow 2 128 := by decide
  deriving DecidableEq, Repr

namespace Uuid

instance : Inhabited Uuid := ⟨{ value := 0 }⟩

/-- The lengths of the groups of digits. -/
def groups : List Nat := [8, 4, 4, 4, 12]

/-- Cut characters into pieces of given lengths. -/
def cut : List Nat → List Char → List (List Char)
  | [], _ => []
  | n :: ns, cs => cs.take n :: cut ns (cs.drop n)

/-- The text of an identifier. -/
def text (u : Uuid) : String :=
  String.intercalate "-" ((cut groups (hexPadded 32 u.value).toList).map String.ofList)

/-- The first group of the text. -/
def short (u : Uuid) : String := String.ofList (u.text.toList.take 8)

/-- The identifier of 128 bits with the marks of one made at random. -/
def ofBits (n : Nat) : Uuid :=
  let high := n / Nat.pow 2 80 % Nat.pow 2 48 * 16 + 4
  let middle := n / Nat.pow 2 64 % Nat.pow 2 12
  let low := Nat.pow 2 63 + n % Nat.pow 2 62
  ⟨((high * Nat.pow 2 12 + middle) * Nat.pow 2 64 + low) % Nat.pow 2 128,
    Nat.mod_lt _ (by decide)⟩

/-! ## Reading -/

/-- Why a text is no identifier. -/
inductive Fault where
  | character (c : Char) (index : Nat)
  | length (n : Nat)
  | groupCount (n : Nat)
  | groupLength (group expected length : Nat)
  deriving DecidableEq, Repr, Inhabited

/-- The fault in words. -/
def Fault.message : Fault → String
  | .character c i =>
    "invalid character: found \x60" ++ c.toString ++ "\x60 at " ++ decimalText i
  | .length n => "invalid length: found " ++ decimalText n
  | .groupCount n => "invalid group count: expected 5, found " ++ decimalText n
  | .groupLength g e n =>
    "invalid group length in group " ++ decimalText g ++ ": expected " ++ decimalText e ++
      ", found " ++ decimalText n

/-- The first character that is neither a digit nor a hyphen, and its index in bytes. -/
def strayFrom (index : Nat) : List Char → Option Fault
  | [] => none
  | c :: cs =>
    if isHexDigit c ∨ c = '-' then strayFrom (index + 1) cs else some (.character c index)

/-- The first group whose length is not the expected one. The last group is at fault if no other
one is; its length counts all of the text behind the groups before it. -/
def groupFault (total group start : Nat) : List Nat → List (List Char) → Fault
  | [n], _ => .groupLength group n (total - start)
  | n :: ns, g :: gs =>
    if g.length = n then groupFault total (group + 1) (start + n + 1) ns gs
    else .groupLength group n g.length
  | _, _ => .groupCount 0

/-- Split characters at hyphens. -/
def splitHyphens : List Char → List (List Char)
  | [] => [[]]
  | c :: cs =>
    match c, splitHyphens cs with
    | '-', gs => [] :: gs
    | c, g :: gs => (c :: g) :: gs
    | c, [] => [[c]]

/-- The name space in front of an identifier that is a name. -/
def nameSpace : List Char := "urn:uuid:".toList

/-- What is wrong with a text. -/
def faultOf (cs : List Char) : Fault :=
  let total := (String.ofList cs).utf8ByteSize
  let braced := cs.head? == some '\x7b' && cs.getLast? == some '\x7d' && 2 ≤ cs.length
  let named := nameSpace.isPrefixOf cs
  let inner :=
    if braced then (cs.drop 1).dropLast else if named then cs.drop nameSpace.length else cs
  let offset := if braced then 1 else if named then nameSpace.length else 0
  let parts := splitHyphens inner
  (strayFrom offset inner).getD <|
    if parts.length = 1 ∧ offset = 0 then .length total
    else if parts.length ≠ groups.length then .groupCount parts.length
    else groupFault total 0 0 groups parts

/-- The identifier of 32 digits. -/
def ofDigits? (ds : List Char) : Option Uuid :=
  if ds.length = 32 ∧ ds.all isHexDigit then
    some ⟨valueOfDigits 16 ds % Nat.pow 2 128, Nat.mod_lt _ (by decide)⟩
  else none

/-- The identifier of groups of digits between hyphens. -/
def ofGroups? (cs : List Char) : Option Uuid :=
  let parts := splitHyphens cs
  if parts.map List.length = groups then ofDigits? parts.flatten else none

/-- Read an identifier. -/
def read (text : String) : Except Fault Uuid :=
  let cs := text.toList
  let attempt (inner : List Char) (found : Option Uuid) : Except Fault Uuid :=
    match found with
    | some u => .ok u
    | none => .error (faultOf inner)
  match text.utf8ByteSize with
  | 32 => attempt cs (ofDigits? cs)
  | 36 => attempt cs (ofGroups? cs)
  | 38 =>
    if cs.head? = some '\x7b' ∧ cs.getLast? = some '\x7d' then
      let inner := (cs.drop 1).dropLast
      attempt inner (ofGroups? inner)
    else .error (faultOf cs)
  | 45 =>
    if nameSpace.isPrefixOf cs then
      attempt (cs.drop nameSpace.length) (ofGroups? (cs.drop nameSpace.length))
    else .error (faultOf cs)
  | _ => .error (faultOf cs)

end Uuid

end StyleBuild
