import StyleBuild.Text.Digits

/-!
# Sets of characters

A set of characters is a list of ranges of codes in ascending order, no two of which meet or
touch. Every set has one such list, so the set operations below are merges of lists.
-/

namespace StyleBuild

/-- A set of characters, as ascending ranges of their codes. -/
structure CharSet where
  ranges : List (Nat × Nat) := []
  deriving DecidableEq, Repr, Inhabited

namespace CharSet

/-- Whether a code is in one of some ascending ranges. -/
def inRanges (n : Nat) : List (Nat × Nat) → Bool
  | [] => false
  | (lo, hi) :: rs => if n < lo then false else n ≤ hi || inRanges n rs

/-- Whether a character is in a set. -/
def contains (s : CharSet) (c : Char) : Bool := inRanges c.toNat s.ranges

/-- Put a range among ascending ranges, joining it with those it meets or touches. -/
def insertInto (lo hi : Nat) : List (Nat × Nat) → List (Nat × Nat)
  | [] => [(lo, hi)]
  | (l, h) :: rs =>
    if hi + 1 < l then (lo, hi) :: (l, h) :: rs
    else if h + 1 < lo then (l, h) :: insertInto lo hi rs
    else insertInto (min lo l) (max hi h) rs

/-- Add the characters of a range. -/
def addRange (s : CharSet) (lo hi : Nat) : CharSet := ⟨insertInto lo hi s.ranges⟩

/-- The set of the characters of a list of ranges. -/
def ofRanges (rs : List (Nat × Nat)) : CharSet :=
  rs.foldl (fun s (lo, hi) => s.addRange lo hi) {}

/-- The ranges of an item of a table: a code, the first and the last code of a range, or these with
the distance of the codes between that count. Codes are hexadecimal. -/
def rangesOfItem (item : List Char) : List (Nat × Nat) :=
  match item.splitOn '-' with
  | [a] => [(valueOfDigits 16 a, valueOfDigits 16 a)]
  | a :: b :: _ =>
    let lo := valueOfDigits 16 a
    match b.splitOn '/' with
    | b :: step :: _ =>
      let step := valueOfDigits 10 step
      (List.range ((valueOfDigits 16 b - lo) / step + 1)).map fun k =>
        (lo + k * step, lo + k * step)
    | _ => [(lo, valueOfDigits 16 b)]
  | [] => []

/-- The set that a table lists: lines of items in ascending order, with spaces between. -/
def ofTable (lines : List String) : CharSet :=
  ⟨lines.flatMap fun l => (l.toList.splitOn ' ').flatMap rangesOfItem⟩

/-- The set of one character. -/
def single (c : Char) : CharSet := ⟨[(c.toNat, c.toNat)]⟩

/-- Join ranges that meet or touch, in a list whose ranges start in ascending order. -/
def joined : List (Nat × Nat) → List (Nat × Nat)
  | [] => []
  | [r] => [r]
  | (l, h) :: (lo, hi) :: rs =>
    if lo ≤ h + 1 then joined ((l, max h hi) :: rs) else (l, h) :: joined ((lo, hi) :: rs)
  termination_by rs => rs.length

/-- Two lists of ranges in one, by where they start. -/
def interleaved : List (Nat × Nat) → List (Nat × Nat) → List (Nat × Nat)
  | [], bs => bs
  | as, [] => as
  | a :: as, b :: bs =>
    if a.1 ≤ b.1 then a :: interleaved as (b :: bs) else b :: interleaved (a :: as) bs
  termination_by as bs => as.length + bs.length

/-- The characters in either set. -/
def union (a b : CharSet) : CharSet := ⟨joined (interleaved a.ranges b.ranges)⟩

/-- The largest code. -/
def lastCode : Nat := 0x10FFFF

/-- The ranges between ascending ranges, from a code on. -/
def gaps (start : Nat) : List (Nat × Nat) → List (Nat × Nat)
  | [] => if start ≤ lastCode then [(start, lastCode)] else []
  | (lo, hi) :: rs => if start < lo then (start, lo - 1) :: gaps (hi + 1) rs else gaps (hi + 1) rs

/-- The characters that are not in a set. -/
def complement (s : CharSet) : CharSet := ⟨gaps 0 s.ranges⟩

/-- The characters in both sets. -/
def inter (a b : CharSet) : CharSet := (a.complement.union b.complement).complement

/-- The characters of the first set that are not in the second. -/
def diff (a b : CharSet) : CharSet := a.inter b.complement

/-- The characters in exactly one of two sets. -/
def symmDiff (a b : CharSet) : CharSet := (a.diff b).union (b.diff a)

/-- Whether all characters of a set have codes below 128. -/
def isAscii (s : CharSet) : Bool := s.ranges.all fun r => r.2 < 128

end CharSet

end StyleBuild
