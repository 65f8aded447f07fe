import StyleBuild.Text.Digits

/-!
# UTF-8

Text is stored as bytes. Reading it strictly fails when the bytes are not UTF-8; reading it
leniently shows a replacement character for every part that is broken. A broken part is as long as
it could still have become a character.
-/

namespace StyleBuild.Utf8

/-- What the first byte of a character of several bytes says: the bits it holds, how many bytes
follow, and the bounds of the second byte. -/
structure Lead where
  bits : Nat
  count : Nat
  low : Nat := 0x80
  high : Nat := 0xBF
  deriving DecidableEq, Repr

/-- Read the first byte of a character of several bytes. The bounds of the second byte leave out
characters that have a shorter form, surrogates, and codes beyond the last one. -/
def lead? (b : UInt8) : Option Lead :=
  let n := b.toNat
  if 0xC2 ≤ n ∧ n ≤ 0xDF then some ⟨n - 0xC0, 1, 0x80, 0xBF⟩
  else if n = 0xE0 then some ⟨0, 2, 0xA0, 0xBF⟩
  else if n = 0xED then some ⟨13, 2, 0x80, 0x9F⟩
  else if 0xE1 ≤ n ∧ n ≤ 0xEF then some ⟨n - 0xE0, 2, 0x80, 0xBF⟩
  else if n = 0xF0 then some ⟨0, 3, 0x90, 0xBF⟩
  else if 0xF1 ≤ n ∧ n ≤ 0xF3 then some ⟨n - 0xF0, 3, 0x80, 0xBF⟩
  else if n = 0xF4 then some ⟨4, 3, 0x80, 0x8F⟩
  else none

/-- Read `count` further bytes, the first of which lies between bounds: the code, if all are there,
and the bytes that are left. -/
def follow (bits low high : Nat) : Nat → List UInt8 → Option Nat × List UInt8
  | 0, bs => (some bits, bs)
  | _ + 1, [] => (none, [])
  | n + 1, b :: bs =>
    if low ≤ b.toNat ∧ b.toNat ≤ high then follow (bits * 64 + (b.toNat - 0x80)) 0x80 0xBF n bs
    else (none, b :: bs)

theorem length_follow (bits low high n : Nat) (bs : List UInt8) :
    (follow bits low high n bs).2.length ≤ bs.length := by
  induction n generalizing bits low high bs with
  | zero => simp [follow]
  | succ n ih =>
    cases bs with
    | nil => simp [follow]
    | cons b bs =>
      unfold follow
      split
      · exact Nat.le_succ_of_le (ih ..)
      · exact Nat.le_refl _

/-- The characters of some bytes, with nothing in place of each broken part. -/
def pieces : List UInt8 → List (Option Char)
  | [] => []
  | b :: bs =>
    if b.toNat < 0x80 then some (Char.ofNat b.toNat) :: pieces bs
    else match lead? b with
      | none => none :: pieces bs
      | some l =>
        let next := follow l.bits l.low l.high l.count bs
        next.1.map Char.ofNat :: pieces next.2
  termination_by bs => bs.length
  decreasing_by
    · simp
    · simp
    · exact Nat.lt_succ_of_le (length_follow ..)

/-- The characters of some bytes, if they are UTF-8. -/
def read (bs : List UInt8) : Option (List Char) := (pieces bs).mapM id

/-- The characters of some bytes, with a replacement character for each broken part. -/
def readLenient (bs : List UInt8) : List Char := (pieces bs).map fun c => c.getD '\uFFFD'

/-- Where bytes stop being UTF-8. -/
structure Break where
  /-- The number of bytes before the broken part. -/
  start : Nat
  /-- The length of the broken part; none if the bytes end in it. -/
  length : Option Nat
  deriving DecidableEq, Repr

/-- Where bytes stop being UTF-8, in words. -/
def Break.message (b : Break) : String :=
  match b.length with
  | some n =>
    "invalid utf-8 sequence of " ++ decimalText n ++ " bytes from index " ++ decimalText b.start
  | none => "incomplete utf-8 byte sequence from index " ++ decimalText b.start

/-- The first broken part of some bytes, `start` bytes behind their beginning. -/
def firstBreak (start : Nat) : List UInt8 → Option Break
  | [] => none
  | b :: bs =>
    if b.toNat < 0x80 then firstBreak (start + 1) bs
    else match lead? b with
      | none => some ⟨start, some 1⟩
      | some l =>
        let next := follow l.bits l.low l.high l.count bs
        if next.1.isSome then firstBreak (start + 1 + l.count) next.2
        else if next.2.isEmpty then some ⟨start, none⟩
        else some ⟨start, some (1 + bs.length - next.2.length)⟩
  termination_by bs => bs.length
  decreasing_by
    · simp
    · exact Nat.lt_succ_of_le (length_follow ..)

/-- The bytes of a text. -/
def bytes (s : String) : List UInt8 := s.toUTF8.toList

end StyleBuild.Utf8
