import StyleBuild.Regex.Basic
import StyleBuild.Regex.Fault

/-!
# The size of a compiled expression

An outline is a regular expression as it was written: repetitions keep their counts, and what
can be nested keeps its place in the text. It says how deep the text is nested, and which
regular expression is meant.

An expression is compiled to states that read one byte each, once for reading forward and once
for reading backward. Repetitions with counts are compiled once for each round. Characters
beyond the first 128 are sequences of bytes; going forward sequences share their common ends, and
going backward their common starts.
-/

namespace StyleBuild.Regex

/-! ## Outlines -/

/-- The places of the leftmost nested parts at each depth, the outermost first. -/
abbrev Depths := List Span

/-- The depths of two parts side by side. -/
def Depths.beside : Depths → Depths → Depths
  | [], bs => bs
  | as, [] => as
  | a :: as, _ :: bs => a :: Depths.beside as bs

/-- The first part that is nested too deep. -/
def Depths.tooDeep? (d : Depths) : Option Span := d[nestingLimit]?

/-- A regular expression as it was written. -/
inductive Outline where
  | empty
  | switch
  | at (place : Place)
  | char (set : CharSet)
  | bracket (depths : Depths) (set : CharSet)
  | seq (span : Span) (parts : List Outline)
  | alt (span : Span) (branches : List Outline)
  | rounds (span : Span) (body : Outline) (least : Nat) (most : Option Nat) (greedy : Bool)
  | group (span : Span) (captures : Bool) (body : Outline)
  deriving Inhabited

namespace Outline

/-- The parts one after the other; one part stands for itself. -/
def ofParts (span : Span) : List Outline → Outline
  | [] => .empty
  | [p] => p
  | ps => .seq span ps

/-- The branches, of which one stands for itself. -/
def ofBranches (span : Span) : List Outline → Outline
  | [] => .empty
  | [p] => p
  | ps => .alt span ps

mutual

/-- How deep an outline is nested. -/
def depths : Outline → Depths
  | .empty | .switch | .at _ | .char _ => []
  | .bracket ds _ => ds
  | .seq span ps => span :: depthsOfAll ps
  | .alt span ps => span :: depthsOfAll ps
  | .rounds span p _ _ _ => span :: depths p
  | .group span _ p => span :: depths p

/-- How deep some outlines side by side are nested. -/
def depthsOfAll : List Outline → Depths
  | [] => []
  | p :: ps => (depths p).beside (depthsOfAll ps)

end

/-- Rounds of an expression between two bounds. -/
def roundsOf (r : Regex) (greedy : Bool) : Nat → Option Nat → Regex
  | n, none => r.atLeast greedy n
  | 0, some 1 => r.optional greedy
  | n, some m => r.between greedy n m

mutual

/-- The regular expression that is meant. -/
def regex : Outline → Regex
  | .empty | .switch => .empty
  | .at place => .at place
  | .char set => .oneOf set
  | .bracket _ set => .oneOf set
  | .seq _ ps => sequence (regexes ps)
  | .alt _ ps => alternatives (regexes ps)
  | .rounds _ p least most greedy => roundsOf (regex p) greedy least most
  | .group _ _ p => regex p

/-- The regular expressions that are meant by some outlines. -/
def regexes : List Outline → List Regex
  | [] => []
  | p :: ps => regex p :: regexes ps

end

end Outline

/-! ## Bytes -/

/-- A range of bytes. -/
abbrev ByteRange := Nat × Nat

/-- The number of bytes that a code is written with. -/
def byteCount (n : Nat) : Nat :=
  if n < 0x80 then 1 else if n < 0x800 then 2 else if n < 0x10000 then 3 else 4

/-- The byte of a code at a place behind which `later` bytes follow. -/
def codeByte (count later n : Nat) : Nat :=
  let bits := n / Nat.pow 64 later
  if later + 1 < count then 0x80 + bits % 64
  else match count with
    | 1 => bits
    | 2 => 0xC0 + bits
    | 3 => 0xE0 + bits
    | _ => 0xF0 + bits

/-- The last code below which a range has to be cut so that all its codes have equally many bytes,
and are all codes that agree in their first bytes with one of its ends. -/
def cutBelow? (lo hi : Nat) : Option Nat :=
  let lengths := [0x7F, 0x7FF, 0xFFFF].find? fun n => lo ≤ n && n < hi
  let blocks := [1, 2, 3].findSome? fun i =>
    let m := Nat.pow 64 i
    if lo / m ≠ hi / m then
      if lo % m ≠ 0 then some (lo / m * m + (m - 1))
      else if hi % m ≠ m - 1 then some (hi / m * m - 1)
      else none
    else none
  lengths.or (if hi < 0x80 then none else blocks)

/-- The sequences of ranges of bytes that the codes of a range are written with. -/
def byteSequences : Nat → Nat → Nat → List (List ByteRange)
  | 0, _, _ => []
  | fuel + 1, lo, hi =>
    match cutBelow? lo hi with
    | some n => byteSequences fuel lo n ++ byteSequences fuel (n + 1) hi
    | none =>
      let count := byteCount lo
      [((List.range count).reverse).map fun i => (codeByte count i lo, codeByte count i hi)]

/-- The ranges without surrogates. -/
def withoutSurrogates (rs : List (Nat × Nat)) : List (Nat × Nat) :=
  (CharSet.diff ⟨rs⟩ ⟨[(0xD800, 0xDFFF)]⟩).ranges

/-- The sequences of ranges of bytes for a set. -/
def sequencesOf (s : CharSet) : List (List ByteRange) :=
  (withoutSurrogates s.ranges).flatMap fun (lo, hi) => byteSequences 64 lo hi

/-- What can be read next: ranges of bytes, each with the number of the state to go to. -/
abbrev Branching := List (ByteRange × Nat)

/-- The states found so far, the last one first, with number zero for the end. -/
abbrev States := List Branching

/-- The number of a state, which is added if there is none like it. -/
def States.number (states : States) (b : Branching) : Nat × States :=
  match states.idxOf? b with
  | some i => (states.length - i, states)
  | none => (states.length + 1, b :: states)

/-- Group sequences that start with the same range and stand side by side. -/
def groupedByFirst : List (List ByteRange) → List (ByteRange × List (List ByteRange))
  | [] => []
  | [] :: rest => groupedByFirst rest
  | (r :: more) :: rest =>
    match groupedByFirst rest with
    | (q, tails) :: others =>
      if q = r then (q, more :: tails) :: others else (r, [more]) :: (q, tails) :: others
    | [] => [(r, [more])]

/-- The state for some sequences; sequences of four bytes need a fuel of five. -/
def stateFor : Nat → List (List ByteRange) → States → Nat × States
  | 0, _, states => (0, states)
  | fuel + 1, seqs, states =>
    if seqs.all List.isEmpty then (0, states)
    else
      let (branches, states) := (groupedByFirst seqs).foldl
        (fun (found : Branching × States) (group : ByteRange × List (List ByteRange)) =>
          let (n, states) := stateFor fuel group.2 found.2
          (found.1 ++ [(group.1, n)], states)) ([], states)
      states.number branches

/-- The bytes that a state takes. -/
def stateSize : Nat := 32

/-- The bytes that a range of bytes with a target takes. -/
def branchSize : Nat := 8

/-- The bytes that a mere target takes. -/
def targetSize : Nat := 4

/-- The size of a set for reading forward. -/
def forwardSize (s : CharSet) : Nat :=
  let states := (stateFor 5 (sequencesOf s) []).2
  states.foldl (fun n b => n + (stateSize + branchSize * b.length)) stateSize

/-- The number of different starts of some sequences in ascending order, behind another one. -/
def startCount (before : List ByteRange) : List (List ByteRange) → Nat
  | [] => 0
  | q :: rest =>
    let shared := ((before.zip q).takeWhile fun (a, b) => a == b).length
    q.length - shared + startCount q rest

/-- The size of a set for reading backward. -/
def backwardSize (s : CharSet) : Nat :=
  let seqs := sequencesOf s
  2 * stateSize + targetSize * seqs.length + stateSize * startCount [] seqs

/-- The sizes of a part for reading forward and backward, whether it can be matched by no
characters, and whether by no others. -/
structure Bulk where
  forward : Nat
  backward : Nat
  mayBeEmpty : Bool := false
  isEmpty : Bool := false
  deriving DecidableEq, Repr, Inhabited

namespace Bulk

/-- The bulk of nothing. -/
def nothing : Bulk := ⟨stateSize, stateSize, true, true⟩

/-- The bulk of one character of a set. -/
def ofSet (s : CharSet) : Bulk :=
  match s.ranges with
  | [] => ⟨stateSize, stateSize, false, false⟩
  | [(lo, hi)] =>
    if lo = hi then ⟨stateSize * byteCount lo, stateSize * byteCount lo, false, false⟩
    else if hi < 128 then ⟨2 * stateSize + branchSize, 2 * stateSize + branchSize, false, false⟩
    else ⟨forwardSize s, backwardSize s, false, false⟩
  | rs =>
    if s.isAscii then
      let n := 2 * stateSize + branchSize * rs.length
      ⟨n, n, false, false⟩
    else ⟨forwardSize s, backwardSize s, false, false⟩

/-- One part behind another. -/
def andThen (a b : Bulk) : Bulk :=
  ⟨a.forward + b.forward, a.backward + b.backward, a.mayBeEmpty && b.mayBeEmpty,
    a.isEmpty && b.isEmpty⟩

/-- A part with a size added both ways. -/
def plus (a : Bulk) (size : Nat) : Bulk :=
  { a with forward := a.forward + size, backward := a.backward + size }

/-- A number of copies of a part. -/
def copies (a : Bulk) (n : Nat) : Bulk :=
  { a with forward := a.forward * n, backward := a.backward * n }

/-- A choice with a number of targets. -/
def choice (targets : Nat) : Nat := stateSize + targetSize * targets

/-- Rounds between two bounds. Rounds of what is empty are one round at most. -/
def rounds (a : Bulk) (least : Nat) (most : Option Nat) : Bulk :=
  let least := if a.isEmpty then min least 1 else least
  let most := if a.isEmpty then some (min (most.getD 1) 1) else most
  let mayBeEmpty := a.mayBeEmpty || least = 0
  match least, most with
  | 0, some 0 => nothing
  | 0, some 1 => { a.plus (choice 2 + stateSize) with mayBeEmpty := mayBeEmpty }
  | 0, none =>
    let size := if a.mayBeEmpty then 2 * choice 2 + stateSize else choice 2
    { a.plus size with mayBeEmpty := mayBeEmpty }
  | n, none => (a.copies n).plus (choice 2)
  | n, some m =>
    if m ≤ n then a.copies n
    else
      let start := if n = 0 then stateSize else 0
      { ((a.copies m).plus (start + stateSize + choice 2 * (m - n))) with
        mayBeEmpty := mayBeEmpty }

end Bulk

namespace Outline

mutual

/-- The bulk of an outline. -/
def bulk : Outline → Bulk
  | .empty | .switch => .nothing
  | .at _ => ⟨stateSize, stateSize, true, true⟩
  | .char set => .ofSet set
  | .bracket _ set => .ofSet set
  | .seq _ ps => bulkOfSequence ps
  | .alt _ ps => (bulkOfBranches ps).plus (stateSize + Bulk.choice 0)
  | .rounds _ p least most _ => (bulk p).rounds least most
  | .group _ captures p =>
    let b := bulk p
    { b with forward := b.forward + (if captures then 2 * stateSize else 0) }

/-- The bulk of outlines one after the other. -/
def bulkOfSequence : List Outline → Bulk
  | [] => ⟨0, 0, true, true⟩
  | .switch :: ps => bulkOfSequence ps
  | p :: ps => (bulk p).andThen (bulkOfSequence ps)

/-- The bulk of branches, each with a target. -/
def bulkOfBranches : List Outline → Bulk
  | [] => ⟨0, 0, false, true⟩
  | p :: ps =>
    let a := (bulk p).plus targetSize
    let b := bulkOfBranches ps
    { a.andThen b with
      mayBeEmpty := a.mayBeEmpty || b.mayBeEmpty
      isEmpty := a.isEmpty && b.isEmpty }

end

/-- Whether some part is repeated a given number of times; without that no expression is large
unless its text is. -/
def hasCounts : Outline → Bool
  | .rounds _ p least most _ => 1 < least || most.any (1 < ·) || hasCounts p
  | .group _ _ p => hasCounts p
  | .seq _ ps => ps.attach.any fun ⟨p, _⟩ => hasCounts p
  | .alt _ ps => ps.attach.any fun ⟨p, _⟩ => hasCounts p
  | _ => false

/-- The size of what surrounds every expression. -/
def frameSize : Nat := 6 * stateSize + 2 * branchSize

/-- Whether an outline is too large to be compiled. -/
def isTooLarge (p : Outline) : Bool :=
  p.hasCounts && sizeLimit < max p.bulk.forward p.bulk.backward + frameSize

end Outline

end StyleBuild.Regex
