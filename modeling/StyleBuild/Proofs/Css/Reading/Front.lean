import Mathlib.Data.List.Infix
import Mathlib.Data.List.TakeDrop
import StyleBuild.Css.Token.Lexer

/-!
# What a token leaves

Equations for the readers of single tokens, one for each way in which a text may start, and for
`readToken` as a choice between a few of them (`readToken_eq`). Every reader leaves the end of the
text that it is given, and a token takes something from it (`readToken_suffix`).
-/

namespace StyleBuild.Css

/-- What holds of the characters of a text is decided on these, and not on all that there are. -/
instance decidableForallMem {p : Char → Prop} [DecidablePred p] (l : List Char) :
    Decidable (∀ c ∈ l, p c) :=
  List.decidableBAll p l

section

variable {u : List Char}

/-! ## Escapes -/

theorem dropSpace_cons (d : Char) (u : List Char) (h : ¬(d = '\r' ∧ u.head? = some '\n')) :
    dropSpace (d :: u) = if isSpace d then u else d :: u := by
  unfold dropSpace
  split
  · next heq =>
    obtain ⟨rfl, rfl⟩ := List.cons.inj heq
    exact absurd ⟨rfl, rfl⟩ h
  · next heq =>
    obtain ⟨rfl, rfl⟩ := List.cons.inj heq
    rfl
  · next heq => cases heq

theorem dropSpace_suffix (u : List Char) : dropSpace u <:+ u := by
  rcases u with _ | ⟨d, u⟩
  · exact List.suffix_rfl
  · by_cases h : d = '\r' ∧ u.head? = some '\n'
    · obtain ⟨rfl, h⟩ := h
      obtain ⟨u, rfl⟩ := List.head?_eq_some_iff.1 h
      exact (List.suffix_cons _ _).trans (List.suffix_cons _ _)
    · rw [dropSpace_cons d u h]
      split
      · exact List.suffix_cons _ _
      · exact List.suffix_rfl

/-- The digits of an escape by code. -/
def escapeDigits (u : List Char) : List Char := (u.takeWhile isHexDigit).take 6

theorem readEscape_symbol {d : Char} (h : isHexDigit d = false) (u : List Char) :
    readEscape (d :: u) = (visible d, u) := by
  simp [readEscape, h]

theorem readEscape_code {d : Char} (h : isHexDigit d = true) (u : List Char) :
    readEscape (d :: u) = (charOfCode (valueOfDigits 16 (escapeDigits (d :: u))),
      dropSpace ((d :: u).drop (escapeDigits (d :: u)).length)) := by
  simp [readEscape, escapeDigits, h]

theorem length_escapeDigits (u : List Char) : (escapeDigits u).length ≤ u.length :=
  Nat.le_trans (List.length_take_le' _ _) (List.takeWhile_prefix _).length_le

/-- An escape takes at least one character. -/
theorem readEscape_suffix_tail (u : List Char) : (readEscape u).2 <:+ u.tail := by
  rcases u with _ | ⟨d, u⟩
  · exact List.suffix_rfl
  · cases hd : isHexDigit d with
    | false =>
      rw [readEscape_symbol hd]
      exact List.suffix_rfl
    | true =>
      obtain ⟨k, hk⟩ : ∃ k, (escapeDigits (d :: u)).length = k + 1 :=
        ⟨_, by rw [escapeDigits, List.takeWhile_cons_of_pos hd, List.take_succ_cons,
          List.length_cons]⟩
      rw [readEscape_code hd, hk]
      exact (dropSpace_suffix _).trans (List.drop_suffix k u)

theorem readEscape_suffix (u : List Char) : (readEscape u).2 <:+ u :=
  (readEscape_suffix_tail u).trans (List.tail_suffix u)

/-! ## Names -/

theorem readName_escape {rest : List Char} (h : isEscape rest = true) (n : Nat) :
    readName (n + 1) ('\\' :: rest) = ((readEscape rest).1 :: (readName n (readEscape rest).2).1,
      (readName n (readEscape rest).2).2) := by
  rw [readName, if_pos h]

theorem readName_char {d : Char} (h : isNameChar d = true) (n : Nat) (rest : List Char) :
    readName (n + 1) (d :: rest) = (visible d :: (readName n rest).1, (readName n rest).2) := by
  have hd : d ≠ '\\' := by rintro rfl; cases h
  rw [readName, if_pos h]
  exact fun h => absurd h hd

theorem readName_end {d : Char} {rest : List Char} (h : isNameChar d = false)
    (hd : d = '\\' → isEscape rest = false) (n : Nat) :
    readName n (d :: rest) = ([], d :: rest) := by
  cases n with
  | zero => rfl
  | succ n =>
    by_cases he : d = '\\'
    · rw [he, readName, if_neg (by simp [hd he])]
    · rw [readName, if_neg (by simp [h])]
      exact fun h => absurd h he

/-- What may come first of a text for the reading of names. -/
theorem readName_cases (u : List Char) : u = [] ∨
    (∃ rest, u = '\\' :: rest ∧ isEscape rest = true) ∨
    (∃ d rest, u = d :: rest ∧ isNameChar d = true) ∨
    ∃ d rest, u = d :: rest ∧ isNameChar d = false ∧ (d = '\\' → isEscape rest = false) := by
  rcases u with _ | ⟨d, rest⟩
  · exact .inl rfl
  · by_cases hd : d = '\\' ∧ isEscape rest = true
    · exact .inr (.inl ⟨rest, by rw [hd.1], hd.2⟩)
    · cases h : isNameChar d with
      | true => exact .inr (.inr (.inl ⟨d, rest, rfl, h⟩))
      | false => exact .inr (.inr (.inr ⟨d, rest, rfl, h, fun he => by simpa [he] using hd⟩))

theorem readName_suffix (n : Nat) (u : List Char) : (readName n u).2 <:+ u := by
  induction n generalizing u with
  | zero => exact List.suffix_rfl
  | succ n ih =>
    rcases readName_cases u with rfl | ⟨rest, rfl, h⟩ | ⟨d, rest, rfl, h⟩ | ⟨d, rest, rfl, h, hd⟩
    · exact List.suffix_rfl
    · rw [readName_escape h]
      exact (ih _).trans ((readEscape_suffix rest).trans (List.suffix_cons _ _))
    · rw [readName_char h]
      exact (ih rest).trans (List.suffix_cons _ _)
    · rw [readName_end h hd]

/-! ## Strings -/

variable {q : Char}

theorem readQuoted_newline {d : Char} (h : isNewline d = true) (n : Nat) (rest : List Char) :
    readQuoted q (n + 1) ('\\' :: d :: rest) = readQuoted q n (dropSpace (d :: rest)) := by
  rw [readQuoted, if_pos h]

theorem readQuoted_escape {d : Char} (h : isNewline d = false) (n : Nat) (rest : List Char) :
    readQuoted q (n + 1) ('\\' :: d :: rest) =
      ((readQuoted q n (readEscape (d :: rest)).2).1,
        (readEscape (d :: rest)).1 :: (readQuoted q n (readEscape (d :: rest)).2).2.1,
        (readQuoted q n (readEscape (d :: rest)).2).2.2) := by
  rw [readQuoted, if_neg (by simp [h])]

theorem readQuoted_cons {d : Char} (h : d ≠ '\\') (n : Nat) (rest : List Char) :
    readQuoted q (n + 1) (d :: rest) =
      if d = q then (true, [], rest)
      else if isNewline d then (false, [], d :: rest)
      else ((readQuoted q n rest).1, visible d :: (readQuoted q n rest).2.1,
        (readQuoted q n rest).2.2) := by
  rw [readQuoted]
  · exact fun h' => absurd h' h
  · exact fun _ _ h' => absurd h' h

/-- What may come first of a text for the reading of strings. -/
theorem readQuoted_cases (u : List Char) : u = [] ∨ u = ['\\'] ∨
    (∃ d rest, u = '\\' :: d :: rest ∧ isNewline d = true) ∨
    (∃ d rest, u = '\\' :: d :: rest ∧ isNewline d = false) ∨
    ∃ d rest, u = d :: rest ∧ d ≠ '\\' := by
  match u with
  | [] => simp
  | d :: rest =>
    by_cases hd : d = '\\'
    · rcases rest with _ | ⟨e, rest⟩
      · simp [hd]
      · cases he : isNewline e <;> simp [hd, he]
    · simp [hd]

theorem readQuoted_suffix (n : Nat) (u : List Char) : (readQuoted q n u).2.2 <:+ u := by
  induction n generalizing u with
  | zero => exact List.suffix_rfl
  | succ n ih =>
    rcases readQuoted_cases u with rfl | rfl | ⟨d, rest, rfl, h⟩ | ⟨d, rest, rfl, h⟩ |
      ⟨d, rest, rfl, h⟩
    · rw [readQuoted_nil]
    · exact List.nil_suffix
    · rw [readQuoted_newline h]
      exact (ih _).trans ((dropSpace_suffix _).trans (List.suffix_cons _ _))
    · rw [readQuoted_escape h]
      exact (ih _).trans ((readEscape_suffix _).trans (List.suffix_cons _ _))
    · rw [readQuoted_cons h]
      split
      · exact List.suffix_cons _ _
      · split
        · exact List.suffix_rfl
        · exact (ih rest).trans (List.suffix_cons _ _)

/-! ## Addresses -/

theorem skipBadUrl_close (n : Nat) (rest : List Char) :
    skipBadUrl (n + 1) (')' :: rest) = ([], rest) := rfl

theorem skipBadUrl_escape (n : Nat) (d : Char) (rest : List Char) :
    skipBadUrl (n + 1) ('\\' :: d :: rest) =
      ('\\' :: d :: (skipBadUrl n rest).1, (skipBadUrl n rest).2) := rfl

theorem skipBadUrl_cons {d : Char} {rest : List Char} (h : d ≠ ')')
    (hd : d = '\\' → rest = []) (n : Nat) :
    skipBadUrl (n + 1) (d :: rest) = (d :: (skipBadUrl n rest).1, (skipBadUrl n rest).2) := by
  rw [skipBadUrl]
  · exact fun h' => absurd h' h
  · rintro e rest' rfl rfl
    cases hd rfl

theorem skipBadUrl_cases (u : List Char) : u = [] ∨ (∃ rest, u = ')' :: rest) ∨
    (∃ d rest, u = '\\' :: d :: rest) ∨
    ∃ d rest, u = d :: rest ∧ d ≠ ')' ∧ (d = '\\' → rest = []) := by
  match u with
  | [] => simp
  | d :: rest =>
    by_cases h : d = ')'
    · simp [h]
    · by_cases hd : d = '\\' ∧ rest ≠ []
      · obtain ⟨e, rest, rfl⟩ := List.exists_cons_of_ne_nil hd.2
        simp [hd.1]
      · exact .inr (.inr (.inr ⟨d, rest, rfl, h, fun he => by simpa [he] using hd⟩))

theorem skipBadUrl_suffix (n : Nat) (u : List Char) : (skipBadUrl n u).2 <:+ u := by
  induction n generalizing u with
  | zero => exact List.suffix_rfl
  | succ n ih =>
    rcases skipBadUrl_cases u with rfl | ⟨rest, rfl⟩ | ⟨d, rest, rfl⟩ | ⟨d, rest, rfl, h, hd⟩
    · exact List.suffix_rfl
    · exact List.suffix_cons _ _
    · rw [skipBadUrl_escape]
      exact (ih rest).trans ((List.suffix_cons _ _).trans (List.suffix_cons _ _))
    · rw [skipBadUrl_cons h hd]
      exact (ih rest).trans (List.suffix_cons _ _)

/-- What is left of an address that is broken behind some characters. -/
def brokenUrl (whole rest : List Char) (passed : Nat) : Bool × List Char × List Char :=
  (false, whole.take passed ++ (skipBadUrl rest.length rest).1, (skipBadUrl rest.length rest).2)

/-- Whether a character breaks an address. -/
def breaksUrl (d : Char) : Bool :=
  d = '"' ∨ d = '\'' ∨ d = '(' ∨ (0 < d.toNat ∧ d.toNat < 32) ∨ d.toNat = 127

theorem readUrl_close (n : Nat) (rest : List Char) :
    readUrl (n + 1) (')' :: rest) = (true, [], rest) := rfl

theorem readUrl_escape {rest : List Char} (h : isEscape rest = true) (n : Nat) :
    readUrl (n + 1) ('\\' :: rest) = ((readUrl n (readEscape rest).2).1,
      (if (readUrl n (readEscape rest).2).1 then
        (readEscape rest).1 :: (readUrl n (readEscape rest).2).2.1
      else ('\\' :: rest).take (rest.length + 1 - (readEscape rest).2.length) ++
        (readUrl n (readEscape rest).2).2.1), (readUrl n (readEscape rest).2).2.2) := by
  rw [readUrl]
  simp [h]

theorem readUrl_backslash {rest : List Char} (h : isEscape rest = false) (n : Nat) :
    readUrl (n + 1) ('\\' :: rest) = brokenUrl ('\\' :: rest) rest 1 := by
  rw [readUrl]
  simp [h, brokenUrl]

/-- The end of an address behind white space. -/
def closeUrl (whole : List Char) (passed : Nat) : List Char → Bool × List Char × List Char
  | [] => (true, [], [])
  | d :: rest => if d = ')' then (true, [], rest) else brokenUrl whole (d :: rest) passed

theorem readUrl_space {d : Char} {rest : List Char} (h : isSpace d = true) (n : Nat) :
    readUrl (n + 1) (d :: rest) =
      closeUrl (d :: rest) ((rest.takeWhile isSpace).length + 1) (rest.dropWhile isSpace) := by
  rw [readUrl]
  · simp only [h, if_true, List.dropWhile_cons_of_pos h, List.takeWhile_cons_of_pos h]
    rcases rest.dropWhile isSpace with _ | ⟨e, after⟩
    · rfl
    · by_cases he : e = ')'
      · subst he
        rfl
      · simp [closeUrl, he, brokenUrl]
  · rintro rfl; cases h
  · rintro rfl; cases h

theorem readUrl_cons {d : Char} {rest : List Char} (h : isSpace d = false) (hc : d ≠ ')')
    (hb : d ≠ '\\') (n : Nat) :
    readUrl (n + 1) (d :: rest) =
      if breaksUrl d then brokenUrl (d :: rest) rest 1
      else ((readUrl n rest).1,
        (if (readUrl n rest).1 then visible d else d) :: (readUrl n rest).2.1,
        (readUrl n rest).2.2) := by
  rw [readUrl]
  · simp [h, brokenUrl, breaksUrl]
  · exact fun h => absurd h hc
  · exact fun h => absurd h hb

theorem readUrl_cases (u : List Char) : u = [] ∨ (∃ rest, u = ')' :: rest) ∨
    (∃ rest, u = '\\' :: rest) ∨ (∃ d rest, u = d :: rest ∧ isSpace d = true) ∨
    ∃ d rest, u = d :: rest ∧ isSpace d = false ∧ d ≠ ')' ∧ d ≠ '\\' := by
  rcases u with _ | ⟨d, rest⟩
  · simp
  · by_cases hc : d = ')'
    · simp [hc]
    · by_cases hb : d = '\\'
      · simp [hb]
      · cases hs : isSpace d <;> simp [hs, hc, hb]

theorem brokenUrl_suffix (whole rest : List Char) (passed : Nat) :
    (brokenUrl whole rest passed).2.2 <:+ rest := skipBadUrl_suffix _ _

theorem closeUrl_suffix (whole : List Char) (passed : Nat) (rest : List Char) :
    (closeUrl whole passed rest).2.2 <:+ rest := by
  rcases rest with _ | ⟨d, rest⟩
  · exact List.suffix_rfl
  · rw [closeUrl]
    split
    · exact List.suffix_cons _ _
    · exact brokenUrl_suffix _ _ _

theorem readUrl_suffix (n : Nat) (u : List Char) : (readUrl n u).2.2 <:+ u := by
  induction n generalizing u with
  | zero => exact List.suffix_rfl
  | succ n ih =>
    rcases readUrl_cases u with rfl | ⟨rest, rfl⟩ | ⟨rest, rfl⟩ | ⟨d, rest, rfl, hs⟩ |
      ⟨d, rest, rfl, hs, hc, hb⟩
    · exact List.suffix_rfl
    · exact List.suffix_cons _ _
    · refine List.IsSuffix.trans ?_ (List.suffix_cons _ _)
      cases he : isEscape rest with
      | true =>
        rw [readUrl_escape he]
        exact (ih _).trans (readEscape_suffix rest)
      | false =>
        rw [readUrl_backslash he]
        exact brokenUrl_suffix _ _ _
    · rw [readUrl_space hs]
      exact (closeUrl_suffix _ _ _).trans
        ((List.dropWhile_suffix isSpace).trans (List.suffix_cons _ _))
    · rw [readUrl_cons hs hc hb]
      refine List.IsSuffix.trans ?_ (List.suffix_cons _ _)
      split
      · exact brokenUrl_suffix _ _ _
      · exact ih rest

/-! ## Numbers -/

theorem readDigits_eq (u : List Char) :
    readDigits u = (u.takeWhile Char.isDigit, u.dropWhile Char.isDigit) :=
  List.span_eq_takeWhile_dropWhile _ _

/-- The sign in front of a number, and whether it is a minus. -/
def readSign : List Char → (Bool × Bool) × List Char
  | '+' :: r => ((true, false), r)
  | '-' :: r => ((true, true), r)
  | r => ((false, false), r)

/-- The digits behind a point. -/
def readFraction (cs : List Char) : List Char × List Char :=
  match cs with
  | '.' :: d :: r => if d.isDigit then readDigits (d :: r) else ([], cs)
  | _ => ([], cs)

/-- A number by its parts. -/
def numberOf (sign : Bool × Bool) (whole fraction : List Char)
    (exponent : Option (Bool × List Char)) (percent : Bool) : Numeric :=
  let size := wholeNumber whole + fractionNumber fraction
  let plain := if sign.2 then -size else size
  let value : Float := match exponent with
    | some (below, ds) =>
      plain * Float.pow 10 (if below then -wholeNumber ds else wholeNumber ds)
    | none => plain
  let shown := if percent then value / 100 else value
  let integer : Option Int :=
    if fraction.isEmpty ∧ exponent.isNone then
      let n : Int := valueOfDigits 10 whole
      some (max (-2147483648) (min 2147483647 (if sign.2 then -n else n)))
    else none
  ⟨sign.1, shown.toFloat32, integer⟩

theorem readNumber_eq (cs : List Char) :
    readNumber cs =
      let sign := readSign cs
      let whole := readDigits sign.2
      let fraction := readFraction whole.2
      let exponent := readExponent fraction.2
      (numberOf sign.1 whole.1 fraction.1 exponent.1 (exponent.2.head? = some '%'),
        exponent.2) := by
  unfold readNumber
  split
  next signed negative behind h =>
    have hsign : readSign cs = ((signed, negative), behind) := by
      unfold readSign
      split at h <;> cases h <;> simp_all
    simp only [hsign, numberOf, decide_eq_true_eq]
    rfl

theorem readSign_of_ne {d : Char} (hp : d ≠ '+') (hm : d ≠ '-') (u : List Char) :
    readSign (d :: u) = ((false, false), d :: u) := by
  unfold readSign
  split
  · next h => exact absurd (List.cons.inj h).1 hp
  · next h => exact absurd (List.cons.inj h).1 hm
  · rfl

theorem readFraction_of_ne {d : Char} (hd : d ≠ '.') (u : List Char) :
    readFraction (d :: u) = ([], d :: u) := by
  unfold readFraction
  split
  · next h => exact absurd (List.cons.inj h).1 hd
  · rfl

theorem readDigits_suffix (u : List Char) : (readDigits u).2 <:+ u := by
  rw [readDigits_eq]
  exact List.dropWhile_suffix _

theorem readFraction_suffix (u : List Char) : (readFraction u).2 <:+ u := by
  unfold readFraction
  split
  · split
    · exact (readDigits_suffix _).trans (List.suffix_cons _ _)
    · exact List.suffix_rfl
  · exact List.suffix_rfl

theorem readExponent_suffix (u : List Char) : (readExponent u).2 <:+ u := by
  unfold readExponent
  split
  · split
    · split
      · exact (readDigits_suffix _).trans (List.suffix_cons _ _)
      · split
        · exact (readDigits_suffix _).trans ((List.suffix_cons _ _).trans (List.suffix_cons _ _))
        · exact List.suffix_rfl
    · exact List.suffix_rfl
  · exact List.suffix_rfl

/-- Whether the text behind a sign starts a number. -/
def startsDigits : List Char → Bool
  | [] => false
  | d :: u => if d = '.' then (u.head?.map Char.isDigit).getD false else d.isDigit

theorem startsNumber_eq (u : List Char) : startsNumber u = startsDigits (readSign u).2 := by
  have hpoint : ('.').isDigit = false := by decide
  rcases u with _ | ⟨d, u⟩
  · rfl
  · by_cases hs : d = '+' ∨ d = '-'
    · have hsign : (readSign (d :: u)).2 = u := by rcases hs with rfl | rfl <;> rfl
      rw [hsign]
      rcases u with _ | ⟨e, _ | ⟨f, u⟩⟩
      · rcases hs with rfl | rfl <;> rfl
      · by_cases he : e = '.'
        · subst he
          rcases hs with rfl | rfl <;> rfl
        · rcases hs with rfl | rfl <;> simp [startsNumber, startsDigits, he]
      · by_cases he : e = '.'
        · subst he
          rcases hs with rfl | rfl <;> rfl
        · rcases hs with rfl | rfl <;> simp [startsNumber, startsDigits, he]
    · obtain ⟨hp, hm⟩ := not_or.1 hs
      rw [readSign_of_ne hp hm]
      by_cases hd : d = '.'
      · subst hd
        rcases u with _ | ⟨e, u⟩ <;> rfl
      · simp [startsNumber, startsDigits, hp, hm, hd]

/-- A number takes at least one character. -/
theorem readNumber_suffix_cons {c : Char} (h : startsNumber (c :: u) = true) :
    (readNumber (c :: u)).2 <:+ u := by
  have hfrom : (readFraction (readDigits (readSign (c :: u)).2).2).2 <:+ u := by
    by_cases hs : c = '+' ∨ c = '-'
    · have hsign : (readSign (c :: u)).2 = u := by rcases hs with rfl | rfl <;> rfl
      rw [hsign]
      exact (readFraction_suffix _).trans (readDigits_suffix _)
    · obtain ⟨hp, hm⟩ := not_or.1 hs
      rw [startsNumber_eq, readSign_of_ne hp hm, startsDigits] at h
      rw [readSign_of_ne hp hm, readDigits_eq]
      by_cases hd : c = '.'
      · subst hd
        obtain ⟨d, u, rfl, hd⟩ : ∃ d u', u = d :: u' ∧ d.isDigit = true := by
          rcases u with _ | ⟨d, u⟩
          · cases h
          · exact ⟨d, u, rfl, h⟩
        have hfraction : readFraction ('.' :: d :: u) = readDigits (d :: u) := by
          simp [readFraction, hd]
        rw [List.dropWhile_cons_of_neg (by decide), hfraction]
        exact readDigits_suffix _
      · rw [if_neg hd] at h
        rw [List.dropWhile_cons_of_pos h]
        exact (readFraction_suffix _).trans (List.dropWhile_suffix _)
  rw [readNumber_eq]
  exact (readExponent_suffix _).trans hfrom

/-! ## Words -/

theorem startsName_of_ne {d : Char} (hm : d ≠ '-') (hb : d ≠ '\\') (u : List Char) :
    startsName (d :: u) = isNameStart d := by
  rw [startsName]
  all_goals simp [hm, hb]

theorem startsName_dash (d : Char) (u : List Char) :
    startsName ('-' :: d :: u) =
      if d = '-' then true else if d = '\\' then isEscape u else isNameStart d := by
  by_cases hm : d = '-'
  · simp [hm, startsName]
  · by_cases hb : d = '\\'
    · simp [hb, startsName]
    · simp [hm, hb, startsName]

/-- An address whose opening has been read, without quotes. -/
def readBareUrl (body : List Char) : Token × List Char :=
  let (ok, text, rest) := readUrl (body.length + 1) body
  (if ok then .url (String.ofList text) else .badUrl (String.ofList text), rest)

/-- Whether an address stands in quotes. -/
def startsQuoted (body : List Char) : Bool := body.head?.any fun d => d = '"' ∨ d = '\''

/-- What a name is before a parenthesis. -/
def readCalled (name rest : List Char) : Token × List Char :=
  if name.map Char.toLower = ['u', 'r', 'l'] ∧ startsQuoted (rest.dropWhile isSpace) = false then
    readBareUrl (rest.dropWhile isSpace)
  else (.opening (.function (String.ofList name)), rest)

/-- What a name is before a text. -/
def readWordBehind (name rest : List Char) : Token × List Char :=
  match rest with
  | d :: inside =>
    if d = '(' then readCalled name inside else (.ident (String.ofList name), rest)
  | [] => (.ident (String.ofList name), [])

theorem readWord_eq (u : List Char) :
    readWord u = readWordBehind (readName u.length u).1 (readName u.length u).2 := by
  unfold readWord
  rcases readName u.length u with ⟨name, rest⟩
  rcases rest with _ | ⟨d, rest⟩
  · rfl
  · by_cases hd : d = '('
    · subst hd
      simp only [readWordBehind, readCalled, readBareUrl]
      by_cases hurl : name.map Char.toLower = ['u', 'r', 'l']
      · rcases rest.dropWhile isSpace with _ | ⟨d, body⟩
        · simp [hurl, startsQuoted]
        · by_cases hd : d = '"'
          · simp [hurl, startsQuoted, hd]
          · by_cases hs : d = '\''
            · simp [hurl, startsQuoted, hs]
            · simp [hurl, startsQuoted, hd, hs]
      · simp [hurl]
    · simp [readWordBehind, hd]

theorem readBareUrl_suffix (u : List Char) : (readBareUrl u).2 <:+ u :=
  readUrl_suffix (u.length + 1) u

theorem readCalled_suffix (name u : List Char) : (readCalled name u).2 <:+ u := by
  unfold readCalled
  split
  · exact (readBareUrl_suffix _).trans (List.dropWhile_suffix _)
  · exact List.suffix_rfl

theorem readWordBehind_suffix (name u : List Char) : (readWordBehind name u).2 <:+ u := by
  rcases u with _ | ⟨d, u⟩
  · exact List.suffix_rfl
  · rw [readWordBehind]
    split
    · exact (readCalled_suffix _ _).trans (List.suffix_cons _ _)
    · exact List.suffix_rfl

/-- A name takes at least one character. -/
theorem readName_suffix_cons {c : Char} (h : startsName (c :: u) = true) :
    (readName (c :: u).length (c :: u)).2 <:+ u := by
  rw [List.length_cons]
  by_cases hb : c = '\\' 
  · subst hb
    rw [readName_escape h]
    exact (readName_suffix _ _).trans (readEscape_suffix u)
  · have hc : isNameChar c = true := by
      by_cases hm : c = '-'
      · subst hm
        decide
      · rw [startsName_of_ne hm hb] at h
        simp only [isNameStart, isNameChar, Char.isAlphanum, Bool.or_eq_true] at h ⊢
        tauto
    rw [readName_char hc]
    exact readName_suffix _ _

/-- A word takes at least one character. -/
theorem readWord_suffix_cons {c : Char} (h : startsName (c :: u) = true) :
    (readWord (c :: u)).2 <:+ u := by
  rw [readWord_eq]
  exact (readWordBehind_suffix _ _).trans (readName_suffix_cons h)

/-! ## Tokens -/

/-- The tokens with one spelling. -/
def symbols : List (List Char × Token) :=
  [(['$', '='], .suffixMatch), (['*', '='], .substringMatch), (['^', '='], .prefixMatch),
   (['|', '='], .dashMatch), (['~', '='], .includeMatch), (['<', '!', '-', '-'], .htmlOpen),
   (['-', '-', '>'], .htmlClose), (['('], .opening (.plain .round)),
   (['['], .opening (.plain .square)), (['\x7b'], .opening (.plain .curly)),
   ([')'], .closing .round), ([']'], .closing .square), (['\x7d'], .closing .curly),
   ([','], .comma), ([':'], .colon), ([';'], .semicolon)]

/-- The token with one spelling in front. -/
def symbol? (cs : List Char) : Option (List Char × Token) := symbols.find? (·.1.isPrefixOf cs)

/-- A string behind its opening quote. -/
def readString (q : Char) (rest : List Char) : Token × List Char :=
  let (ok, text, rest) := readQuoted q (rest.length + 1) rest
  (if ok then .quoted (String.ofList text) else .badQuoted (String.ofList text), rest)

/-- A name as part of a token if one starts, else another token. -/
def readTail (starts : Bool) (named : String → Token) (plain : Token) (rest : List Char) :
    Token × List Char :=
  if starts then
    (named (String.ofList (readName rest.length rest).1), (readName rest.length rest).2)
  else (plain, rest)

/-- A number with its unit. -/
def readMeasure (cs : List Char) : Token × List Char :=
  let n := readNumber cs
  if n.2.head? = some '%' then (.percentage n.1, n.2.tail)
  else readTail (startsName n.2) (.dimension n.1) (.number n.1) n.2

/-- A hash behind its sign. -/
def readHash (rest : List Char) : Token × List Char :=
  if startsName rest then readTail true .idHash (.delim '#') rest
  else readTail (rest.head?.any isNameChar) .hash (.delim '#') rest

/-- A token that is no comment, no string and none with one spelling. -/
def readOther (c : Char) (rest : List Char) : Token × List Char :=
  if isSpace c then
    (.blank (String.ofList ((c :: rest).takeWhile isSpace)), (c :: rest).dropWhile isSpace)
  else if startsNumber (c :: rest) then readMeasure (c :: rest)
  else if c = '#' then readHash rest
  else if c = '@' then readTail (startsName rest) .atKeyword (.delim '@') rest
  else if startsName (c :: rest) then readWord (c :: rest)
  else (.delim c, rest)

/-- A token that is no comment and no string. -/
def readBare (c : Char) (rest : List Char) : Token × List Char :=
  match symbol? (c :: rest) with
  | some (p, t) => (t, (c :: rest).drop p.length)
  | none => readOther c rest

theorem readToken_eq (c : Char) (rest : List Char) :
    readToken (c :: rest) =
      if c = '/' ∧ rest.head? = some '*' then (none, skipComment rest.tail)
      else if c = '"' ∨ c = '\'' then (some (readString c rest).1, (readString c rest).2)
      else (some (readBare c rest).1, (readBare c rest).2) := by
  unfold readToken
  split
  · next h => cases h
  · next h =>
    obtain ⟨rfl, rfl⟩ := List.cons.inj h
    simp
  · next h =>
    obtain ⟨rfl, rfl⟩ := List.cons.inj h
    simp [readString]
  · next h =>
    obtain ⟨rfl, rfl⟩ := List.cons.inj h
    simp [readString]
  · next h =>
    obtain ⟨rfl, rfl⟩ := List.cons.inj h
    simp [readBare, symbol?, symbols]
  iterate 15
    · next h =>
      obtain ⟨rfl, rfl⟩ := List.cons.inj h
      simp [readBare, symbol?, symbols]
  · next h =>
    obtain ⟨rfl, rfl⟩ := List.cons.inj h
    have hnone : symbol? (c :: rest) = none := by
      rw [symbol?, List.find?_eq_none]
      rintro ⟨p, t⟩ hmem hp
      obtain ⟨tail, htail⟩ := List.isPrefixOf_iff_prefix.1 hp
      simp only [symbols, List.mem_cons, List.not_mem_nil, or_false, Prod.mk.injEq] at hmem
      rcases hmem with ⟨rfl, -⟩ | ⟨rfl, -⟩ | ⟨rfl, -⟩ | ⟨rfl, -⟩ | ⟨rfl, -⟩ | ⟨rfl, -⟩ | ⟨rfl, -⟩ |
        ⟨rfl, -⟩ | ⟨rfl, -⟩ | ⟨rfl, -⟩ | ⟨rfl, -⟩ | ⟨rfl, -⟩ | ⟨rfl, -⟩ | ⟨rfl, -⟩ | ⟨rfl, -⟩ |
        ⟨rfl, -⟩
      all_goals
        simp only [List.cons_append, List.nil_append, List.cons.injEq] at htail
        obtain ⟨rfl, rfl⟩ := htail
        simp_all
    have hcomment : ¬(c = '/' ∧ rest.head? = some '*') := by
      rintro ⟨rfl, hr⟩
      rcases rest with _ | ⟨d, rest⟩
      · cases hr
      · obtain rfl : d = '*' := by simpa using hr
        simp_all
    have hquote : ¬(c = '"' ∨ c = '\'') := by
      rintro (rfl | rfl) <;> simp_all
    rw [if_neg hcomment, if_neg hquote, readBare, hnone]
    simp only [readOther, readMeasure, readHash, readTail]
    split
    · rfl
    · split
      · rcases readNumber (c :: rest) with ⟨n, tail⟩
        rcases tail with _ | ⟨d, tail⟩
        · rfl
        · by_cases hd : d = '%'
          · subst hd
            rfl
          · simp only [List.head?_cons, Option.some.injEq, hd, if_false]
            split
            · next h => exact absurd (List.cons.inj h).1 hd
            · split <;> rfl
      · split
        · split
          · rfl
          · rcases rest with _ | ⟨d, rest⟩
            · rfl
            · by_cases hd : isNameChar d = true
              · have hany : (d :: rest).head?.any isNameChar = true := hd
                simp only [hd, hany, if_true]
              · have hany : ¬(d :: rest).head?.any isNameChar = true := hd
                simp only [hd, hany, Bool.false_eq_true, if_false]
        · split
          · split <;> rfl
          · split <;> rfl

theorem skipComment_suffix (u : List Char) : skipComment u <:+ u := by
  fun_induction skipComment u with
  | case1 => exact (List.suffix_cons _ _).trans (List.suffix_cons _ _)
  | case2 c u _ ih => exact ih.trans (List.suffix_cons _ _)
  | case3 => exact List.suffix_rfl

theorem readString_suffix (q : Char) (u : List Char) : (readString q u).2 <:+ u :=
  readQuoted_suffix (u.length + 1) u

theorem readTail_suffix (starts : Bool) (named : String → Token) (plain : Token)
    (u : List Char) : (readTail starts named plain u).2 <:+ u := by
  unfold readTail
  split
  · exact readName_suffix _ _
  · exact List.suffix_rfl

theorem readHash_suffix (u : List Char) : (readHash u).2 <:+ u := by
  unfold readHash
  split <;> exact readTail_suffix _ _ _ _

theorem readMeasure_suffix {c : Char} (h : startsNumber (c :: u) = true) :
    (readMeasure (c :: u)).2 <:+ u := by
  simp only [readMeasure]
  split
  · exact (List.tail_suffix _).trans (readNumber_suffix_cons h)
  · exact (readTail_suffix _ _ _ _).trans (readNumber_suffix_cons h)

theorem readOther_suffix (c : Char) (u : List Char) : (readOther c u).2 <:+ u := by
  unfold readOther
  split
  · next h =>
    rw [List.dropWhile_cons_of_pos h]
    exact List.dropWhile_suffix _
  · split
    · next h => exact readMeasure_suffix h
    · split
      · exact readHash_suffix u
      · split
        · exact readTail_suffix _ _ _ _
        · split
          · next h => exact readWord_suffix_cons h
          · exact List.suffix_rfl

theorem ne_nil_of_mem_symbols {x : List Char × Token} (h : x ∈ symbols) : x.1 ≠ [] := by
  simp only [symbols, List.mem_cons, List.not_mem_nil, or_false] at h
  rcases h with rfl | rfl | rfl | rfl | rfl | rfl | rfl | rfl | rfl | rfl | rfl | rfl | rfl | rfl |
    rfl | rfl <;> simp

theorem readBare_suffix (c : Char) (u : List Char) : (readBare c u).2 <:+ u := by
  unfold readBare
  split
  · next p t h =>
    obtain ⟨d, p, rfl⟩ := List.exists_cons_of_ne_nil
      (ne_nil_of_mem_symbols (List.mem_of_find?_eq_some h))
    exact List.drop_suffix p.length u
  · exact readOther_suffix c u

/-- A token takes at least one character and leaves the end of the text. -/
theorem readToken_suffix (c : Char) (u : List Char) : (readToken (c :: u)).2 <:+ u := by
  rw [readToken_eq]
  split
  · exact (skipComment_suffix _).trans (List.tail_suffix u)
  · split
    · exact readString_suffix c u
    · exact readBare_suffix c u

end

end StyleBuild.Css
