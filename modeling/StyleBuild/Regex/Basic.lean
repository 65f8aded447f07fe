import StyleBuild.Regex.Word

/-!
# Regular expressions

A regular expression describes texts, and says which of its matches it prefers: the first of two
alternatives, and more or fewer rounds of a repetition. Repetition is built from `plus`, one
round or more, `again`, which stands between two rounds and ends the repetition or starts the
next round, and the counted `times` and `upTo`.
-/

namespace StyleBuild

/-- Places that are told by whether the characters around them belong to words. -/
inductive WordPlace where
  | edge
  | inside
  | start
  | finish
  | startHalf
  | finishHalf
  deriving DecidableEq, Repr, Inhabited

/-- A place between two characters. -/
inductive Place where
  | start
  | finish
  | lineStart
  | lineFinish
  /-- The start of a line, where lines may also end in a carriage return. -/
  | anyLineStart
  /-- The end of a line, where lines may also end in a carriage return. -/
  | anyLineFinish
  | word (place : WordPlace) (letters : CharSet)
  deriving DecidableEq, Repr, Inhabited

/-- Whether a word place is one, given whether the neighbours belong to words. -/
def WordPlace.holds (before after : Bool) : WordPlace → Bool
  | .edge => before != after
  | .inside => before == after
  | .start => !before && after
  | .finish => before && !after
  | .startHalf => !before
  | .finishHalf => !after

/-- Whether a place lies between two neighbours. -/
def Place.holds (before after : Option Char) : Place → Bool
  | .start => before.isNone
  | .finish => after.isNone
  | .lineStart => before.isNone || before == some '\n'
  | .lineFinish => after.isNone || after == some '\n'
  | .anyLineStart =>
    before.isNone || before == some '\n' || before == some '\r' && after != some '\n'
  | .anyLineFinish =>
    after.isNone || after == some '\r' || after == some '\n' && before != some '\r'
  | .word place letters =>
    place.holds (before.any letters.contains) (after.any letters.contains)

/-- A regular expression. -/
inductive Regex where
  | empty
  | oneOf (set : CharSet)
  | at (place : Place)
  | seq (first second : Regex)
  | alt (first second : Regex)
  | plus (body : Regex) (greedy : Bool)
  | again (body : Regex) (greedy : Bool)
  /-- As many rounds as a number says. -/
  | times (count : Nat) (body : Regex)
  /-- At most as many rounds as a number says. -/
  | upTo (count : Nat) (greedy : Bool) (body : Regex)
  deriving DecidableEq, Repr, Inhabited

namespace Regex

/-- A body or nothing. -/
def optional (r : Regex) (greedy : Bool) : Regex :=
  if greedy then .alt r .empty else .alt .empty r

/-- Any number of rounds. -/
def star (r : Regex) (greedy : Bool) : Regex := (Regex.plus r greedy).optional greedy

/-- Some expressions one after the other. -/
def sequence : List Regex → Regex
  | [] => .empty
  | [r] => r
  | r :: rs => .seq r (sequence rs)

/-- The first alternative that fits. -/
def alternatives : List Regex → Regex
  | [] => .empty
  | [r] => r
  | r :: rs => .alt r (alternatives rs)

/-- At least `n` rounds. -/
def atLeast (r : Regex) (greedy : Bool) : Nat → Regex
  | 0 => r.star greedy
  | 1 => .plus r greedy
  | n + 2 => .seq (.times (n + 1) r) (.plus r greedy)

/-- At least `least` rounds and at most `most`. -/
def between (r : Regex) (greedy : Bool) (least most : Nat) : Regex :=
  if least = most then .times least r
  else if least = 0 then .upTo most greedy r
  else .seq (.times least r) (.upTo (most - least) greedy r)

end Regex

end StyleBuild
