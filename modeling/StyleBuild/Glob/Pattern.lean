import StyleBuild.Text.Digits

/-!
# Glob patterns

A glob pattern describes the text of a path. A star stands for any characters, a question mark for
one, brackets for one of some characters, and two stars, which are a whole part of the path, for
any folders.
-/

namespace StyleBuild.Glob

/-- Characters in brackets: one, or those of a range. -/
inductive Choice where
  | one (c : Char)
  | range (lo hi : Char)
  deriving DecidableEq, Repr, Inhabited

/-- A part of a pattern. -/
inductive Token where
  | char (c : Char)
  | any
  | star
  /-- Any folders. -/
  | folders
  | oneOf (choices : List Choice)
  | noneOf (choices : List Choice)
  deriving DecidableEq, Repr, Inhabited

/-- What is wrong with a pattern. -/
inductive Cause where
  | brackets
  | manyStars
  | foldersInPart
  deriving DecidableEq, Repr, Inhabited

/-- What is wrong with a pattern, and near which character. -/
structure Fault where
  position : Nat
  cause : Cause
  deriving DecidableEq, Repr, Inhabited

/-- What is wrong, in words. -/
def Cause.message : Cause → String
  | .brackets => "invalid range pattern"
  | .manyStars => "wildcards are either regular \x60*\x60 or recursive \x60**\x60"
  | .foldersInPart => "recursive wildcards must form a single path component"

/-- The fault in words. -/
def Fault.message (f : Fault) : String :=
  "Pattern syntax error near position " ++ decimalText f.position ++ ": " ++ f.cause.message

/-- The choices between brackets. -/
def choices : List Char → List Choice
  | lo :: '-' :: hi :: cs => .range lo hi :: choices cs
  | c :: cs => .one c :: choices cs
  | [] => []

/-- Read what stands behind an opening bracket: whether the choices are excluded, their characters,
and what is left behind the closing bracket. A closing bracket that stands first is a choice. -/
def brackets (cs : List Char) : Option (Bool × List Char × List Char) :=
  match cs with
  | '!' :: c :: more =>
    match more.dropWhile (· != ']') with
    | _ :: rest => some (true, c :: more.takeWhile (· != ']'), rest)
    | [] => none
  | '!' :: [] => none
  | c :: more =>
    match more.dropWhile (· != ']') with
    | _ :: rest => some (false, c :: more.takeWhile (· != ']'), rest)
    | [] => none
  | [] => none

theorem length_dropWhile_le {α : Type} (p : α → Bool) (xs : List α) :
    (xs.dropWhile p).length ≤ xs.length := by
  induction xs with
  | nil => simp
  | cons x xs ih =>
    rw [List.dropWhile_cons]
    split
    · exact Nat.le_succ_of_le ih
    · exact Nat.le_refl _

theorem length_brackets {cs shown rest : List Char} {excluded : Bool}
    (h : brackets cs = some (excluded, shown, rest)) : rest.length ≤ cs.length := by
  unfold brackets at h
  split at h
  · next c more =>
    split at h
    · next x r hr =>
      have := length_dropWhile_le (· != ']') more
      simp_all; omega
    · simp at h
  · simp at h
  · next c more _ _ =>
    split at h
    · next x r hr =>
      have := length_dropWhile_le (· != ']') more
      simp_all; omega
    · simp at h
  · simp at h

/-- Read the tokens of a pattern; `i` characters come before, the last of which is `before`. -/
def tokens (i : Nat) (before : Option Char) : List Char → Except Fault (List Token)
  | [] => .ok []
  | '?' :: cs => return .any :: (← tokens (i + 1) (some '?') cs)
  | '*' :: '*' :: '*' :: _ => .error ⟨i + 2, .manyStars⟩
  | '*' :: '*' :: cs =>
    if before = none ∨ before = some '/' then
      match cs with
      | [] => .ok [.folders]
      | '/' :: rest => return .folders :: (← tokens (i + 3) (some '/') rest)
      | _ => .error ⟨i + 2, .foldersInPart⟩
    else .error ⟨i - 1, .foldersInPart⟩
  | '*' :: cs => return .star :: (← tokens (i + 1) (some '*') cs)
  | '[' :: cs =>
    match h : brackets cs with
    | none => .error ⟨i, .brackets⟩
    | some (excluded, shown, rest) =>
      have := length_brackets h
      return (if excluded then Token.noneOf (choices shown) else .oneOf (choices shown)) ::
        (← tokens (i + 1 + (cs.length - rest.length)) (some ']') rest)
  | c :: cs => return .char c :: (← tokens (i + 1) (some c) cs)
  termination_by cs => cs.length

/-- Read a pattern. -/
def read (pattern : String) : Except Fault (List Token) := tokens 0 none pattern.toList

/-- Whether a character is a choice. -/
def Choice.holds (c : Char) : Choice → Bool
  | .one d => c == d
  | .range lo hi => lo ≤ c && c ≤ hi

/-- Whether a token that stands for one character stands for a given one. -/
def Token.holds (c : Char) : Token → Bool
  | .char d => c == d
  | .any => true
  | .oneOf ks => ks.any (·.holds c)
  | .noneOf ks => !ks.any (·.holds c)
  | .star | .folders => false

/-- Whether tokens describe a name. -/
def describes : List Token → List Char → Bool
  | [], cs => cs.isEmpty
  | .folders :: ts, cs => describes ts cs
  | .star :: ts, [] => describes ts []
  | .star :: ts, c :: cs => describes ts (c :: cs) || describes (.star :: ts) cs
  | _ :: _, [] => false
  | t :: ts, c :: cs => t.holds c && describes ts cs

/-- A text as a pattern that describes nothing else. -/
def escape (text : String) : String :=
  String.ofList (text.toList.flatMap fun c =>
    if "?*[]".toList.contains c then ['[', c, ']'] else [c])

end StyleBuild.Glob
