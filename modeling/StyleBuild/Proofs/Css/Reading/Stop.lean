import Mathlib.Data.List.Find
import StyleBuild.Proofs.Css.Reading.Front

/-!
# Tokens before a stop

Punctuation such as a semicolon or a brace ends the token before it. If reading a token leaves
such a stop behind, then it does not matter what the stop is or what comes after it
(`readToken_stop`), even if nothing comes at all.
-/

namespace StyleBuild.Css

/-- The punctuation that ends the token before it. -/
def isStop (c : Char) : Bool := [':', ';', ',', ')', ']', '\x7b', '\x7d'].contains c

/-- Whether a text starts with a stop, if it is not empty. -/
def Ends (z : List Char) : Prop := ∀ c ∈ z.head?, isStop c = true

theorem ends_nil : Ends [] := by simp [Ends]

theorem ends_cons {c : Char} {y : List Char} (h : isStop c = true) : Ends (c :: y) := by
  simpa [Ends] using h

section

variable {c : Char} {u y z : List Char}

theorem isStop_cases (h : isStop c = true) :
    c = ':' ∨ c = ';' ∨ c = ',' ∨ c = ')' ∨ c = ']' ∨ c = '\x7b' ∨ c = '\x7d' := by
  simpa [isStop] using h

theorem isStop_isNameChar (h : isStop c = true) : isNameChar c = false := by
  rcases isStop_cases h with rfl | rfl | rfl | rfl | rfl | rfl | rfl <;> decide

theorem isStop_isNameStart (h : isStop c = true) : isNameStart c = false := by
  rcases isStop_cases h with rfl | rfl | rfl | rfl | rfl | rfl | rfl <;> decide

theorem isStop_isDigit (h : isStop c = true) : c.isDigit = false := by
  rcases isStop_cases h with rfl | rfl | rfl | rfl | rfl | rfl | rfl <;> decide

theorem isStop_isHexDigit (h : isStop c = true) : isHexDigit c = false := by
  rcases isStop_cases h with rfl | rfl | rfl | rfl | rfl | rfl | rfl <;> decide

theorem isStop_isSpace (h : isStop c = true) : isSpace c = false := by
  rcases isStop_cases h with rfl | rfl | rfl | rfl | rfl | rfl | rfl <;> decide

theorem isStop_isNewline (h : isStop c = true) : isNewline c = false := by
  rcases isStop_cases h with rfl | rfl | rfl | rfl | rfl | rfl | rfl <;> decide

/-- A run of characters that the text behind does not go on with. -/
theorem takeWhile_before {p : Char → Bool} (hz : ∀ c ∈ z.head?, p c = false) (u : List Char) :
    (u ++ z).takeWhile p = u.takeWhile p := by
  induction u with
  | nil =>
    cases z with
    | nil => rfl
    | cons c z => simp [hz c rfl]
  | cons d u ih => simp only [List.cons_append, List.takeWhile_cons, ih]

theorem takeWhile_stop {p : Char → Bool} (hp : ∀ {c}, isStop c = true → p c = false)
    (hz : Ends z) (u : List Char) : (u ++ z).takeWhile p = u.takeWhile p :=
  takeWhile_before (fun c hc => hp (hz c hc)) u

theorem dropWhile_stop {p : Char → Bool} (hp : ∀ {c}, isStop c = true → p c = false)
    (hz : Ends z) (u : List Char) : (u ++ z).dropWhile p = u.dropWhile p ++ z := by
  induction u with
  | nil =>
    cases z with
    | nil => rfl
    | cons c z => simp [hp (hz c rfl)]
  | cons d u ih =>
    simp only [List.cons_append, List.dropWhile_cons, ih]
    split <;> simp

/-- What may stand behind a text that ends. -/
theorem Ends.cases (hz : Ends z) : z = [] ∨ ∃ c y, z = c :: y ∧ isStop c = true := by
  rcases z with _ | ⟨c, y⟩
  · exact .inl rfl
  · exact .inr ⟨c, y, rfl, hz c rfl⟩

/-! ## Escapes -/

theorem isEscape_stop (hz : Ends z) (u : List Char) : isEscape (u ++ z) = isEscape u := by
  cases u with
  | nil =>
    cases z with
    | nil => rfl
    | cons c z => simp [isEscape, isStop_isNewline (hz c rfl)]
  | cons d u => rfl

/-- White space that the text behind does not go on with. -/
theorem dropSpace_before (hz : ∀ c ∈ z.head?, isSpace c = false) (u : List Char) :
    dropSpace (u ++ z) = dropSpace u ++ z := by
  have hhead : z.head? ≠ some '\n' := fun h => absurd (hz _ h) (by decide)
  rcases u with _ | ⟨d, u⟩
  · cases z with
    | nil => rfl
    | cons c z =>
      have hc := hz c rfl
      rw [List.nil_append, dropSpace_cons c z fun h => by simp [h.1, isSpace] at hc, hc]
      rfl
  · by_cases h : d = '\r' ∧ (u ++ z).head? = some '\n'
    · obtain ⟨rfl, h⟩ := h
      cases u with
      | nil => exact absurd h hhead
      | cons e u =>
        obtain rfl : e = '\n' := by simpa using h
        rfl
    · have h' : ¬(d = '\r' ∧ u.head? = some '\n') := by
        rintro ⟨hd, hu⟩
        exact h ⟨hd, by rw [List.head?_append, hu]; rfl⟩
      rw [List.cons_append, dropSpace_cons _ _ h, dropSpace_cons _ _ h']
      split <;> rfl

theorem dropSpace_stop (hz : Ends z) (u : List Char) : dropSpace (u ++ z) = dropSpace u ++ z :=
  dropSpace_before (fun c hc => isStop_isSpace (hz c hc)) u

/-- An escape that the text behind does not go on with. -/
theorem readEscape_before (hz : ∀ c ∈ z.head?, isHexDigit c = false ∧ isSpace c = false)
    (hu : u ≠ []) : readEscape (u ++ z) = ((readEscape u).1, (readEscape u).2 ++ z) := by
  obtain ⟨d, u, rfl⟩ := List.exists_cons_of_ne_nil hu
  cases hd : isHexDigit d with
  | false => rw [List.cons_append, readEscape_symbol hd, readEscape_symbol hd]
  | true =>
    have hdigits : escapeDigits (d :: u ++ z) = escapeDigits (d :: u) := by
      rw [escapeDigits, takeWhile_before fun c hc => (hz c hc).1, escapeDigits]
    rw [List.cons_append] at hdigits
    rw [List.cons_append, readEscape_code hd, readEscape_code hd, hdigits, ← List.cons_append,
      List.drop_append_of_le_length (length_escapeDigits _),
      dropSpace_before fun c hc => (hz c hc).2]

theorem readEscape_stop (hz : Ends z) (hu : u ≠ []) :
    readEscape (u ++ z) = ((readEscape u).1, (readEscape u).2 ++ z) :=
  readEscape_before (fun c hc => ⟨isStop_isHexDigit (hz c hc), isStop_isSpace (hz c hc)⟩) hu

/-- An escape that has nothing but a stop takes the stop. -/
theorem length_readEscape_stop (c : Char) (y : List Char) :
    (readEscape (c :: y)).2.length ≤ y.length := (readEscape_suffix_tail (c :: y)).length_le

/-! ## Names -/

theorem readName_stop (hc : isStop c = true) (hz : Ends z) {n m : Nat} {a r : List Char}
    (hn : (u ++ c :: y).length ≤ n) (hm : (u ++ z).length ≤ m)
    (h : readName n (u ++ c :: y) = (a, r ++ c :: y)) : readName m (u ++ z) = (a, r ++ z) := by
  induction n generalizing m u a with
  | zero => simp at hn
  | succ n ih =>
    rcases readName_cases u with rfl | ⟨rest, rfl, he⟩ | ⟨d, rest, rfl, hd⟩ | ⟨d, rest, rfl, hd, he⟩
    · have hc' : c = '\\' → isEscape y = false := by rintro rfl; cases hc
      rw [List.nil_append, readName_end (isStop_isNameChar hc) hc'] at h
      obtain ⟨rfl, hr⟩ := Prod.mk.inj h
      obtain rfl : r = [] := by simpa using hr
      rcases z with _ | ⟨e, z⟩
      · exact readName_nil m
      · have he : isStop e = true := hz e rfl
        exact readName_end (isStop_isNameChar he) (by rintro rfl; cases he) m
    · have hy : isEscape (rest ++ c :: y) = true := by rwa [isEscape_stop (ends_cons hc)]
      have hz' : isEscape (rest ++ z) = true := by rwa [isEscape_stop hz]
      obtain ⟨m, rfl⟩ : ∃ k, m = k + 1 := ⟨m - 1, by simp at hm; omega⟩
      rw [List.cons_append, readName_escape hy] at h
      rw [List.cons_append, readName_escape hz']
      have hrest : rest ≠ [] := by
        -- else the escape takes the stop
        rintro rfl
        have hlen := (readName_suffix n (readEscape ([] ++ c :: y)).2).length_le
        have hesc := length_readEscape_stop c y
        rw [(Prod.mk.inj h).2] at hlen
        simp at hlen hesc
        omega
      rw [readEscape_stop (ends_cons hc) hrest] at h
      rw [readEscape_stop hz hrest]
      have hlen := (readEscape_suffix rest).length_le
      simp only [List.length_append, List.length_cons] at hn hm
      have := ih (m := m) (u := (readEscape rest).2) (by simp; omega) (by simp; omega)
        (Prod.ext rfl (Prod.mk.inj h).2)
      rw [this]
      obtain ⟨rfl, -⟩ := Prod.mk.inj h
      rfl
    · obtain ⟨m, rfl⟩ : ∃ k, m = k + 1 := ⟨m - 1, by simp at hm; omega⟩
      rw [List.cons_append, readName_char hd] at h
      rw [List.cons_append, readName_char hd]
      simp only [List.length_append, List.length_cons] at hn hm
      have := ih (m := m) (u := rest) (by simp; omega) (by simp; omega)
        (Prod.ext rfl (Prod.mk.inj h).2)
      rw [this]
      obtain ⟨rfl, -⟩ := Prod.mk.inj h
      rfl
    · have he' : ∀ {t}, Ends t → d = '\\' → isEscape (rest ++ t) = false := fun ht h => by
        rw [isEscape_stop ht, he h]
      rw [List.cons_append, readName_end hd (he' (ends_cons hc))] at h
      obtain ⟨rfl, hr⟩ := Prod.mk.inj h
      obtain rfl : d :: rest = r := List.append_cancel_right (by simpa using hr)
      exact readName_end hd (he' hz) m

/-! ## Strings -/

theorem readQuoted_stop (hq : isStop q = false) (hc : isStop c = true) (hz : Ends z) {n m : Nat}
    {ok : Bool} {a r : List Char} (hn : (u ++ c :: y).length ≤ n) (hm : (u ++ z).length ≤ m)
    (h : readQuoted q n (u ++ c :: y) = (ok, a, r ++ c :: y)) :
    readQuoted q m (u ++ z) = (ok, a, r ++ z) := by
  induction n generalizing m u a with
  | zero => simp at hn
  | succ n ih =>
    have hcq : c ≠ q := by rintro rfl; simp [hc] at hq
    have hcb : c ≠ '\\' := by rintro rfl; cases hc
    have hsame : ∀ {t : List Char}, t.length ≤ y.length → t ≠ r ++ c :: y := by
      rintro t ht rfl
      simp at ht
      omega
    rcases readQuoted_cases u with rfl | rfl | ⟨d, rest, rfl, hd⟩ | ⟨d, rest, rfl, hd⟩ |
      ⟨d, rest, rfl, hd⟩
    · rw [List.nil_append, readQuoted_cons hcb, if_neg hcq,
        if_neg (by simp [isStop_isNewline hc])] at h
      exact absurd (congrArg (·.2.2) h) (hsame ((readQuoted_suffix n y).length_le))
    · rw [List.singleton_append, readQuoted_escape (isStop_isNewline hc)] at h
      refine absurd (congrArg (·.2.2) h)
        (hsame (Nat.le_trans ((readQuoted_suffix n _).length_le) ?_))
      exact length_readEscape_stop c y
    · obtain ⟨m, rfl⟩ : ∃ k, m = k + 1 := ⟨m - 1, by simp at hm; omega⟩
      rw [List.cons_append, List.cons_append, readQuoted_newline hd, ← List.cons_append,
        dropSpace_stop (ends_cons hc)] at h
      rw [List.cons_append, List.cons_append, readQuoted_newline hd, ← List.cons_append,
        dropSpace_stop hz]
      have hlen := (dropSpace_suffix (d :: rest)).length_le
      simp only [List.length_append, List.length_cons] at hn hm hlen
      exact ih (by simp; omega) (by simp; omega) h
    · obtain ⟨m, rfl⟩ : ∃ k, m = k + 1 := ⟨m - 1, by simp at hm; omega⟩
      rw [List.cons_append, List.cons_append, readQuoted_escape hd, ← List.cons_append,
        readEscape_stop (ends_cons hc) (by simp)] at h
      rw [List.cons_append, List.cons_append, readQuoted_escape hd, ← List.cons_append,
        readEscape_stop hz (by simp)]
      have hlen := (readEscape_suffix (d :: rest)).length_le
      simp only [List.length_append, List.length_cons] at hn hm hlen
      obtain ⟨rfl, ha, hr⟩ : _ ∧ _ ∧ _ := by simpa using h
      rw [ih (m := m) (u := (readEscape (d :: rest)).2) (by simp; omega) (by simp; omega)
        (Prod.ext rfl (Prod.ext rfl hr)), ← ha]
    · obtain ⟨m, rfl⟩ : ∃ k, m = k + 1 := ⟨m - 1, by simp at hm; omega⟩
      rw [List.cons_append, readQuoted_cons hd] at h
      rw [List.cons_append, readQuoted_cons hd]
      simp only [List.length_append, List.length_cons] at hn hm
      by_cases hdq : d = q
      · rw [if_pos hdq] at h ⊢
        obtain ⟨rfl, rfl, hr⟩ : _ ∧ _ ∧ rest ++ c :: y = r ++ c :: y := by simpa using h
        rw [List.append_cancel_right hr]
      · rw [if_neg hdq] at h ⊢
        split at h
        · next hnew =>
          rw [if_pos hnew]
          obtain ⟨rfl, rfl, hr⟩ : _ ∧ _ ∧ d :: rest ++ c :: y = r ++ c :: y := by simpa using h
          rw [← List.append_cancel_right hr]
          rfl
        · next hnew =>
          rw [if_neg hnew]
          obtain ⟨rfl, rfl, hr⟩ : _ ∧ _ ∧ _ := by simpa using h
          rw [ih (m := m) (u := rest) (by simp; omega) (by simp; omega)
            (Prod.ext rfl (Prod.ext rfl hr))]

/-! ## Addresses -/

theorem skipBadUrl_stop (hc : isStop c = true) {n m : Nat} {a r : List Char}
    (hn : (u ++ c :: y).length ≤ n) (hm : (u ++ z).length ≤ m)
    (h : skipBadUrl n (u ++ c :: y) = (a, r ++ c :: y)) : skipBadUrl m (u ++ z) = (a, r ++ z) := by
  induction n generalizing m u a with
  | zero => simp at hn
  | succ n ih =>
    have hcb : c ≠ '\\' := by rintro rfl; cases hc
    have hsame : ∀ {t : List Char}, t.length ≤ y.length → t ≠ r ++ c :: y := by
      rintro t ht rfl
      simp at ht
      omega
    rcases skipBadUrl_cases u with rfl | ⟨rest, rfl⟩ | ⟨d, rest, rfl⟩ | ⟨d, rest, rfl, hd, he⟩
    · by_cases hclose : c = ')'
      · subst hclose
        rw [List.nil_append, skipBadUrl_close] at h
        exact absurd (congrArg (·.2) h) (hsame (Nat.le_refl _))
      · rw [List.nil_append, skipBadUrl_cons hclose fun h => absurd h hcb] at h
        exact absurd (congrArg (·.2) h) (hsame ((skipBadUrl_suffix n y).length_le))
    · obtain ⟨m, rfl⟩ : ∃ k, m = k + 1 := ⟨m - 1, by simp at hm; omega⟩
      rw [List.cons_append, skipBadUrl_close] at h ⊢
      obtain ⟨rfl, hr⟩ := Prod.mk.inj h
      rw [List.append_cancel_right hr]
    · obtain ⟨m, rfl⟩ : ∃ k, m = k + 1 := ⟨m - 1, by simp at hm; omega⟩
      simp only [List.length_append, List.length_cons] at hn hm
      rw [List.cons_append, List.cons_append, skipBadUrl_escape] at h ⊢
      obtain ⟨rfl, hr⟩ := Prod.mk.inj h
      rw [ih (m := m) (u := rest) (by simp; omega) (by simp; omega) (Prod.ext rfl hr)]
    · by_cases hd' : d = '\\'
      · obtain rfl := hd'
        rw [he rfl, List.singleton_append, skipBadUrl_escape] at h
        exact absurd (congrArg (·.2) h) (hsame ((skipBadUrl_suffix n y).length_le))
      · obtain ⟨m, rfl⟩ : ∃ k, m = k + 1 := ⟨m - 1, by simp at hm; omega⟩
        simp only [List.length_append, List.length_cons] at hn hm
        rw [List.cons_append, skipBadUrl_cons hd fun h => absurd h hd'] at h ⊢
        obtain ⟨rfl, hr⟩ := Prod.mk.inj h
        rw [ih (m := m) (u := rest) (by simp; omega) (by simp; omega) (Prod.ext rfl hr)]

/-- A broken address, if what is skipped of it leaves a stop behind. -/
theorem brokenUrl_stop (hc : isStop c = true) (whole rest : List Char) {ok : Bool}
    {a r : List Char} {passed : Nat} (hp : passed ≤ whole.length)
    (h : brokenUrl (whole ++ c :: y) (rest ++ c :: y) passed = (ok, a, r ++ c :: y))
    (z : List Char) : brokenUrl (whole ++ z) (rest ++ z) passed = (ok, a, r ++ z) := by
  simp only [brokenUrl, Prod.mk.injEq] at h
  obtain ⟨rfl, ha, hr⟩ := h
  rw [List.take_append_of_le_length hp] at ha
  rw [brokenUrl, skipBadUrl_stop hc (Nat.le_refl _) (Nat.le_refl _) (Prod.ext rfl hr),
    List.take_append_of_le_length hp, ha]

theorem closeUrl_stop (hc : isStop c = true) (whole rest : List Char) {ok : Bool}
    {a r : List Char} {passed : Nat} (hp : passed ≤ whole.length)
    (h : closeUrl (whole ++ c :: y) passed (rest ++ c :: y) = (ok, a, r ++ c :: y))
    (z : List Char) : closeUrl (whole ++ z) passed (rest ++ z) = (ok, a, r ++ z) := by
  rcases rest with _ | ⟨d, rest⟩
  · -- the stop would be taken
    have hlen : (closeUrl (whole ++ c :: y) passed (c :: y)).2.2.length ≤ y.length := by
      rw [closeUrl]
      split
      · exact Nat.le_refl _
      · next hclose =>
        have hcb : c ≠ '\\' := by rintro rfl; cases hc
        rw [brokenUrl, List.length_cons, skipBadUrl_cons hclose fun h => absurd h hcb]
        exact (skipBadUrl_suffix _ _).length_le
    rw [List.nil_append] at h
    rw [h] at hlen
    simp at hlen
    omega
  · rw [List.cons_append, closeUrl] at h ⊢
    split at h
    · next hd =>
      rw [if_pos hd]
      obtain ⟨rfl, rfl, hr⟩ : _ ∧ _ ∧ rest ++ c :: y = r ++ c :: y := by simpa using h
      rw [← List.append_cancel_right hr]
    · next hd =>
      rw [if_neg hd]
      exact brokenUrl_stop hc whole (d :: rest) hp h z

theorem readUrl_stop (hc : isStop c = true) (hz : Ends z) {n m : Nat} {ok : Bool}
    {a r : List Char} (hn : (u ++ c :: y).length ≤ n) (hm : (u ++ z).length ≤ m)
    (h : readUrl n (u ++ c :: y) = (ok, a, r ++ c :: y)) :
    readUrl m (u ++ z) = (ok, a, r ++ z) := by
  induction n generalizing m u a with
  | zero => simp at hn
  | succ n ih =>
    have hsame : ∀ {t : List Char}, t.length ≤ y.length → t ≠ r ++ c :: y := by
      rintro t ht rfl
      simp at ht
      omega
    rcases readUrl_cases u with rfl | ⟨rest, rfl⟩ | ⟨rest, rfl⟩ | ⟨d, rest, rfl, hs⟩ |
      ⟨d, rest, rfl, hs, hd, hb⟩
    · refine absurd (congrArg (·.2.2) h) (hsame ?_)
      by_cases hclose : c = ')'
      · subst hclose
        exact Nat.le_refl _
      · rw [List.nil_append, readUrl_cons (isStop_isSpace hc) hclose (by rintro rfl; cases hc)]
        split
        · exact (brokenUrl_suffix _ _ _).length_le
        · exact (readUrl_suffix n y).length_le
    · obtain ⟨m, rfl⟩ : ∃ k, m = k + 1 := ⟨m - 1, by simp at hm; omega⟩
      rw [List.cons_append, readUrl_close] at h ⊢
      obtain ⟨rfl, rfl, hr⟩ : _ ∧ _ ∧ rest ++ c :: y = r ++ c :: y := by simpa using h
      rw [List.append_cancel_right hr]
    · obtain ⟨m, rfl⟩ : ∃ k, m = k + 1 := ⟨m - 1, by simp at hm; omega⟩
      simp only [List.length_append, List.length_cons] at hn hm
      cases he : isEscape rest with
      | false =>
        rw [List.cons_append, readUrl_backslash (by rwa [isEscape_stop (ends_cons hc)])] at h
        rw [List.cons_append, readUrl_backslash (by rwa [isEscape_stop hz])]
        exact brokenUrl_stop hc ('\\' :: rest) rest (by simp) h z
      | true =>
        rw [List.cons_append, readUrl_escape (by rwa [isEscape_stop (ends_cons hc)])] at h
        rw [List.cons_append, readUrl_escape (by rwa [isEscape_stop hz])]
        have hrest : rest ≠ [] := by
          rintro rfl
          refine absurd (congrArg (·.2.2) h)
            (hsame (Nat.le_trans ((readUrl_suffix n _).length_le) ?_))
          exact length_readEscape_stop c y
        have hlen := (readEscape_suffix rest).length_le
        rw [readEscape_stop (ends_cons hc) hrest] at h
        rw [readEscape_stop hz hrest]
        rcases hread : readUrl n ((readEscape rest).2 ++ c :: y) with ⟨ok', text, tail⟩
        simp only [hread, Prod.mk.injEq] at h
        obtain ⟨rfl, ha, rfl⟩ := h
        have htake : ∀ t : List Char, ('\\' :: rest ++ t).take
            ((rest ++ t).length + 1 - ((readEscape rest).2 ++ t).length) =
              ('\\' :: rest).take (rest.length + 1 - (readEscape rest).2.length) := fun t => by
          have hcount : (rest ++ t).length + 1 - ((readEscape rest).2 ++ t).length =
              rest.length + 1 - (readEscape rest).2.length := by
            simp only [List.length_append]
            omega
          rw [hcount, List.take_append_of_le_length (by simp)]
        rw [← List.cons_append, htake] at ha
        rw [← List.cons_append, htake,
          ih (m := m) (u := (readEscape rest).2) (by simp; omega) (by simp; omega) hread, ha]
    · obtain ⟨m, rfl⟩ : ∃ k, m = k + 1 := ⟨m - 1, by simp at hm; omega⟩
      rw [List.cons_append, readUrl_space hs, dropWhile_stop isStop_isSpace (ends_cons hc),
        takeWhile_stop isStop_isSpace (ends_cons hc)] at h
      rw [List.cons_append, readUrl_space hs, dropWhile_stop isStop_isSpace hz,
        takeWhile_stop isStop_isSpace hz]
      exact closeUrl_stop hc (d :: rest) (rest.dropWhile isSpace)
        (Nat.succ_le_succ (List.takeWhile_prefix _).length_le) h z
    · obtain ⟨m, rfl⟩ : ∃ k, m = k + 1 := ⟨m - 1, by simp at hm; omega⟩
      simp only [List.length_append, List.length_cons] at hn hm
      rw [List.cons_append, readUrl_cons hs hd hb] at h ⊢
      cases hbreak : breaksUrl d with
      | true =>
        rw [hbreak, if_pos rfl] at h
        exact brokenUrl_stop hc (d :: rest) rest (by simp) h z
      | false =>
        rw [hbreak, if_neg (by simp)] at h
        obtain ⟨rfl, ha, hr⟩ : _ ∧ _ ∧ _ := by simpa using h
        rw [ih (m := m) (u := rest) (by simp; omega) (by simp; omega)
          (Prod.ext rfl (Prod.ext rfl hr)), ← ha]
        rfl

/-! ## Numbers -/

theorem readDigits_stop (hz : Ends z) (u : List Char) :
    readDigits (u ++ z) = ((readDigits u).1, (readDigits u).2 ++ z) := by
  rw [readDigits, readDigits, List.span_eq_takeWhile_dropWhile, List.span_eq_takeWhile_dropWhile,
    takeWhile_stop isStop_isDigit hz, dropWhile_stop isStop_isDigit hz]

theorem readSign_stop (hz : Ends z) (u : List Char) :
    readSign (u ++ z) = ((readSign u).1, (readSign u).2 ++ z) := by
  rcases u with _ | ⟨d, u⟩
  · rcases hz.cases with rfl | ⟨c, y, rfl, hc⟩
    · rfl
    · exact readSign_of_ne (by rintro rfl; cases hc) (by rintro rfl; cases hc) y
  · by_cases hp : d = '+'
    · subst hp
      rfl
    · by_cases hm : d = '-'
      · subst hm
        rfl
      · rw [List.cons_append, readSign_of_ne hp hm, readSign_of_ne hp hm]
        rfl

theorem readFraction_stop (hz : Ends z) (u : List Char) :
    readFraction (u ++ z) = ((readFraction u).1, (readFraction u).2 ++ z) := by
  rcases u with _ | ⟨d, u⟩
  · rcases hz.cases with rfl | ⟨c, y, rfl, hc⟩
    · rfl
    · exact readFraction_of_ne (by rintro rfl; cases hc) y
  · by_cases hd : d = '.'
    · subst hd
      rcases u with _ | ⟨e, u⟩
      · rcases hz.cases with rfl | ⟨c, y, rfl, hc⟩
        · rfl
        · simp [readFraction, isStop_isDigit hc]
      · simp only [readFraction, List.cons_append]
        split
        · rw [← List.cons_append, readDigits_stop hz]
        · rfl
    · rw [List.cons_append, readFraction_of_ne hd, readFraction_of_ne hd]
      rfl

theorem readExponent_stop (hz : Ends z) (u : List Char) :
    readExponent (u ++ z) = ((readExponent u).1, (readExponent u).2 ++ z) := by
  have hshort : ∀ {d : Char} {t : List Char}, Ends t → readExponent (d :: t) = (none, d :: t) := by
    intro d t ht
    rcases ht.cases with rfl | ⟨c, y, rfl, hc⟩
    · rfl
    · have hp : c ≠ '+' := by rintro rfl; cases hc
      have hm : c ≠ '-' := by rintro rfl; cases hc
      simp [readExponent, isStop_isDigit hc, hp, hm]
  match u with
  | [] =>
    rcases hz.cases with rfl | ⟨c, y, rfl, hc⟩
    · rfl
    · have he : ¬(c = 'e' ∨ c = 'E') := by rintro (rfl | rfl) <;> cases hc
      cases y <;> simp [readExponent, he]
  | [d] =>
    rw [List.singleton_append, hshort hz, hshort ends_nil]
    rfl
  | e :: s :: rest =>
    have hhead : ((rest ++ z).head?.map Char.isDigit).getD false =
        (rest.head?.map Char.isDigit).getD false := by
      rcases rest with _ | ⟨d, rest⟩
      · rcases hz.cases with rfl | ⟨c, y, rfl, hc⟩
        · rfl
        · simpa using isStop_isDigit hc
      · rfl
    simp only [List.cons_append, readExponent, hhead]
    split
    · split
      · rw [← List.cons_append, readDigits_stop hz]
      · split
        · rw [readDigits_stop hz]
        · rfl
    · rfl

theorem readNumber_stop (hz : Ends z) (u : List Char) :
    readNumber (u ++ z) = ((readNumber u).1, (readNumber u).2 ++ z) := by
  have hhead : ∀ t : List Char, ((t ++ z).head? = some '%') = (t.head? = some '%') := fun t => by
    rcases t with _ | ⟨d, t⟩
    · rcases hz.cases with rfl | ⟨c, y, rfl, hc⟩
      · rfl
      · have : c ≠ '%' := by rintro rfl; cases hc
        simp [this]
    · rfl
  simp only [readNumber_eq, readSign_stop hz, readDigits_stop hz, readFraction_stop hz,
    readExponent_stop hz, hhead]

theorem startsNumber_stop (hz : Ends z) (u : List Char) :
    startsNumber (u ++ z) = startsNumber u := by
  rw [startsNumber_eq, startsNumber_eq, readSign_stop hz]
  rcases (readSign u).2 with _ | ⟨d, t⟩
  · rcases hz.cases with rfl | ⟨c, y, rfl, hc⟩
    · rfl
    · have : c ≠ '.' := by rintro rfl; cases hc
      simp [startsDigits, this, isStop_isDigit hc]
  · rcases t with _ | ⟨e, t⟩
    · rcases hz.cases with rfl | ⟨c, y, rfl, hc⟩
      · rfl
      · simp [startsDigits, isStop_isDigit hc]
    · rfl

/-! ## Words -/

theorem startsName_stop (hz : Ends z) (u : List Char) : startsName (u ++ z) = startsName u := by
  have hstop : startsName z = false := by
    rcases hz.cases with rfl | ⟨c, y, rfl, hc⟩
    · rfl
    · rw [startsName_of_ne (by rintro rfl; cases hc) (by rintro rfl; cases hc),
        isStop_isNameStart hc]
  rcases u with _ | ⟨d, u⟩
  · exact hstop
  · by_cases hm : d = '-'
    · subst hm
      rcases u with _ | ⟨e, u⟩
      · rcases hz.cases with rfl | ⟨c, y, rfl, hc⟩
        · rfl
        · rw [List.singleton_append, startsName_dash, if_neg (by rintro rfl; cases hc),
            if_neg (by rintro rfl; cases hc), isStop_isNameStart hc]
          rfl
      · simp only [List.cons_append, startsName_dash, isEscape_stop hz]
    · by_cases hb : d = '\\'
      · subst hb
        exact isEscape_stop hz u
      · rw [List.cons_append, startsName_of_ne hm hb, startsName_of_ne hm hb]

theorem readBareUrl_stop (hc : isStop c = true) (hz : Ends z) {t : Token} {r : List Char}
    (h : readBareUrl (u ++ c :: y) = (t, r ++ c :: y)) : readBareUrl (u ++ z) = (t, r ++ z) := by
  unfold readBareUrl at h ⊢
  rcases hread : readUrl ((u ++ c :: y).length + 1) (u ++ c :: y) with ⟨ok, text, tail⟩
  rw [hread] at h
  obtain ⟨rfl, rfl⟩ := Prod.mk.inj h
  rw [readUrl_stop hc hz (Nat.le_succ _) (Nat.le_succ _) hread]

theorem startsQuoted_stop (hz : Ends z) (u : List Char) :
    startsQuoted (u ++ z) = startsQuoted u := by
  rcases u with _ | ⟨d, u⟩
  · rcases hz.cases with rfl | ⟨c, y, rfl, hc⟩
    · rfl
    · have hd : c ≠ '"' := by rintro rfl; cases hc
      have hs : c ≠ '\'' := by rintro rfl; cases hc
      simp [startsQuoted, hd, hs]
  · rfl

theorem readCalled_stop (hc : isStop c = true) (hz : Ends z) {name : List Char} {t : Token}
    {r : List Char} (h : readCalled name (u ++ c :: y) = (t, r ++ c :: y)) :
    readCalled name (u ++ z) = (t, r ++ z) := by
  unfold readCalled at h ⊢
  rw [dropWhile_stop isStop_isSpace (ends_cons hc), startsQuoted_stop (ends_cons hc)] at h
  rw [dropWhile_stop isStop_isSpace hz, startsQuoted_stop hz]
  split at h
  · next hurl =>
    rw [if_pos hurl]
    exact readBareUrl_stop hc hz h
  · next hurl =>
    rw [if_neg hurl]
    obtain ⟨rfl, hr⟩ := Prod.mk.inj h
    rw [List.append_cancel_right hr]

theorem readWordBehind_stop (hc : isStop c = true) (hz : Ends z) {name : List Char} {t : Token}
    {r : List Char} (h : readWordBehind name (u ++ c :: y) = (t, r ++ c :: y)) :
    readWordBehind name (u ++ z) = (t, r ++ z) := by
  rcases u with _ | ⟨d, u⟩
  · rw [List.nil_append, readWordBehind, if_neg (by rintro rfl; cases hc)] at h
    obtain ⟨rfl, hr⟩ := Prod.mk.inj h
    obtain rfl : r = [] := by simpa using hr
    rcases hz.cases with rfl | ⟨e, z, rfl, he⟩
    · rfl
    · rw [List.nil_append, readWordBehind, if_neg (by rintro rfl; cases he)]
  · rw [List.cons_append, readWordBehind] at h ⊢
    split at h
    · next hd =>
      rw [if_pos hd]
      exact readCalled_stop hc hz h
    · next hd =>
      rw [if_neg hd]
      obtain ⟨rfl, hr⟩ := Prod.mk.inj h
      have hsame : d :: u = r := List.append_cancel_right hr
      rw [← hsame]
      rfl

theorem readWord_stop (hc : isStop c = true) (hz : Ends z) {t : Token} {r : List Char}
    (h : readWord (u ++ c :: y) = (t, r ++ c :: y)) : readWord (u ++ z) = (t, r ++ z) := by
  rw [readWord_eq] at h ⊢
  rcases hname : readName (u ++ c :: y).length (u ++ c :: y) with ⟨name, tail⟩
  rw [hname] at h
  obtain ⟨v, rfl⟩ : ∃ v, tail = v ++ c :: y := by
    have := readWordBehind_suffix name tail
    rw [h] at this
    obtain ⟨v, hv⟩ := (List.suffix_append r (c :: y)).trans this
    exact ⟨v, hv.symm⟩
  rw [readName_stop hc hz (Nat.le_refl _) (Nat.le_refl _) hname]
  exact readWordBehind_stop hc hz h

/-! ## Tokens -/

theorem skipComment_cons {d : Char} (h : ¬(d = '*' ∧ u.head? = some '/')) :
    skipComment (d :: u) = skipComment u := by
  rw [skipComment]
  rintro rest rfl rfl
  exact h ⟨rfl, rfl⟩

theorem skipComment_stop (hc : isStop c = true) (hz : Ends z) {r : List Char}
    (h : skipComment (u ++ c :: y) = r ++ c :: y) : skipComment (u ++ z) = r ++ z := by
  have hstar : c ≠ '*' := by rintro rfl; cases hc
  induction u with
  | nil =>
    rw [List.nil_append, skipComment_cons fun h => hstar h.1] at h
    have hlen := (skipComment_suffix y).length_le
    rw [h] at hlen
    simp at hlen
    omega
  | cons d u ih =>
    by_cases hd : d = '*' ∧ u.head? = some '/'
    · obtain ⟨rfl, hu⟩ := hd
      obtain ⟨u, rfl⟩ := List.head?_eq_some_iff.1 hu
      have hsame : u = r := List.append_cancel_right h
      rw [← hsame]
      rfl
    · have hcons : ∀ {t : List Char}, Ends t →
          skipComment (d :: u ++ t) = skipComment (u ++ t) := by
        intro t ht
        refine skipComment_cons fun h => ?_
        rcases u with _ | ⟨e, u⟩
        · exact absurd (ht _ h.2) (by decide)
        · exact hd h
      rw [hcons hz]
      rw [hcons (ends_cons hc)] at h
      exact ih h

theorem head?_stop {d : Char} (hd : isStop d = false) (hz : Ends z) (u : List Char) :
    ((u ++ z).head? = some d) = (u.head? = some d) := by
  rcases u with _ | ⟨e, u⟩
  · rcases hz.cases with rfl | ⟨c, y, rfl, hc⟩
    · rfl
    · have : c ≠ d := by rintro rfl; simp [hc] at hd
      simp [this]
  · rfl

theorem readString_stop {q : Char} (hq : isStop q = false) (hc : isStop c = true) (hz : Ends z)
    {t : Token} {r : List Char} (h : readString q (u ++ c :: y) = (t, r ++ c :: y)) :
    readString q (u ++ z) = (t, r ++ z) := by
  unfold readString at h ⊢
  rcases hread : readQuoted q ((u ++ c :: y).length + 1) (u ++ c :: y) with ⟨ok, text, tail⟩
  rw [hread] at h
  obtain ⟨rfl, rfl⟩ := Prod.mk.inj h
  rw [readQuoted_stop hq hc hz (Nat.le_succ _) (Nat.le_succ _) hread]

theorem readTail_stop (hc : isStop c = true) (hz : Ends z) {starts : Bool}
    {named : String → Token} {plain t : Token} {r : List Char}
    (h : readTail starts named plain (u ++ c :: y) = (t, r ++ c :: y)) :
    readTail starts named plain (u ++ z) = (t, r ++ z) := by
  unfold readTail at h ⊢
  cases starts with
  | true =>
    rcases hname : readName (u ++ c :: y).length (u ++ c :: y) with ⟨name, tail⟩
    simp only [hname, if_true, Prod.mk.injEq] at h
    obtain ⟨rfl, rfl⟩ := h
    rw [readName_stop hc hz (Nat.le_refl _) (Nat.le_refl _) hname]
    rfl
  | false =>
    obtain ⟨rfl, hr⟩ := Prod.mk.inj h
    rw [← List.append_cancel_right hr]
    rfl

theorem head?_any_stop {p : Char → Bool} (hp : ∀ {c}, isStop c = true → p c = false)
    (hz : Ends z) (u : List Char) : (u ++ z).head?.any p = u.head?.any p := by
  rcases u with _ | ⟨d, u⟩
  · rcases hz.cases with rfl | ⟨c, y, rfl, hc⟩
    · rfl
    · exact hp hc
  · rfl

theorem readHash_stop (hc : isStop c = true) (hz : Ends z) {t : Token} {r : List Char}
    (h : readHash (u ++ c :: y) = (t, r ++ c :: y)) : readHash (u ++ z) = (t, r ++ z) := by
  unfold readHash at h ⊢
  rw [startsName_stop (ends_cons hc), head?_any_stop isStop_isNameChar (ends_cons hc)] at h
  rw [startsName_stop hz, head?_any_stop isStop_isNameChar hz]
  split at h
  · next hs =>
    rw [if_pos hs]
    exact readTail_stop hc hz h
  · next hs =>
    rw [if_neg hs]
    exact readTail_stop hc hz h

theorem readMeasure_stop (hc : isStop c = true) (hz : Ends z) {t : Token} {r : List Char}
    (h : readMeasure (u ++ c :: y) = (t, r ++ c :: y)) : readMeasure (u ++ z) = (t, r ++ z) := by
  simp only [readMeasure, readNumber_stop (ends_cons hc),
    head?_stop (d := '%') (by decide) (ends_cons hc), startsName_stop (ends_cons hc)] at h
  simp only [readMeasure, readNumber_stop hz, head?_stop (d := '%') (by decide) hz,
    startsName_stop hz]
  split at h
  · next hp =>
    rw [if_pos hp]
    obtain ⟨rest, hrest⟩ := List.head?_eq_some_iff.1 hp
    rw [hrest] at h ⊢
    obtain ⟨rfl, hr⟩ := Prod.mk.inj h
    have hsame : rest = r := List.append_cancel_right hr
    rw [← hsame]
    rfl
  · next hp =>
    rw [if_neg hp]
    exact readTail_stop hc hz h

theorem readOther_stop {d : Char} (hc : isStop c = true) (hz : Ends z) {t : Token} {r : List Char}
    (h : readOther d (u ++ c :: y) = (t, r ++ c :: y)) : readOther d (u ++ z) = (t, r ++ z) := by
  simp only [readOther, ← List.cons_append, takeWhile_stop isStop_isSpace (ends_cons hc),
    dropWhile_stop isStop_isSpace (ends_cons hc), startsNumber_stop (ends_cons hc),
    startsName_stop (ends_cons hc)] at h
  simp only [readOther, ← List.cons_append, takeWhile_stop isStop_isSpace hz,
    dropWhile_stop isStop_isSpace hz, startsNumber_stop hz, startsName_stop hz]
  split at h
  · next hs =>
    rw [if_pos hs]
    obtain ⟨rfl, hr⟩ := Prod.mk.inj h
    rw [← List.append_cancel_right hr]
  · next hs =>
    rw [if_neg hs]
    split at h
    · next hn =>
      rw [if_pos hn]
      exact readMeasure_stop hc hz h
    · next hn =>
      rw [if_neg hn]
      split at h
      · next hh =>
        rw [if_pos hh]
        exact readHash_stop hc hz h
      · next hh =>
        rw [if_neg hh]
        split at h
        · next ha =>
          rw [if_pos ha]
          exact readTail_stop hc hz h
        · next ha =>
          rw [if_neg ha]
          split at h
          · next hw =>
            rw [if_pos hw]
            exact readWord_stop hc hz h
          · next hw =>
            rw [if_neg hw]
            obtain ⟨rfl, hr⟩ := Prod.mk.inj h
            rw [← List.append_cancel_right hr]

theorem isPrefixOf_stop {p : List Char} (hp : ∀ d ∈ p, isStop d = false) (hz : Ends z)
    (u : List Char) : p.isPrefixOf (u ++ z) = p.isPrefixOf u := by
  induction p generalizing u with
  | nil => simp
  | cons d p ih =>
    obtain ⟨hd, hp⟩ := List.forall_mem_cons.1 hp
    rcases u with _ | ⟨e, u⟩
    · rcases hz.cases with rfl | ⟨c, y, rfl, hc⟩
      · rfl
      · have : d ≠ c := by rintro rfl; simp [hc] at hd
        simp [List.isPrefixOf, this]
    · simp only [List.cons_append, List.isPrefixOf, ih hp]

theorem symbol?_stop (hz : Ends z) (d : Char) (u : List Char) :
    symbol? (d :: u ++ z) = symbol? (d :: u) := by
  have hsame : ∀ x ∈ symbols, x.1.isPrefixOf (d :: u ++ z) = x.1.isPrefixOf (d :: u) := by
    intro x hx
    obtain ⟨e, p, hp⟩ := List.exists_cons_of_ne_nil (ne_nil_of_mem_symbols hx)
    have hplain : ∀ x ∈ symbols, ∀ d ∈ x.1.tail, isStop d = false := by decide
    have htail : ∀ d ∈ p, isStop d = false := by simpa [hp] using hplain x hx
    simp only [hp, List.cons_append, List.isPrefixOf, isPrefixOf_stop htail hz]
  exact List.find?_congr hsame

theorem readBare_stop {d : Char} (hc : isStop c = true) (hz : Ends z) {t : Token} {r : List Char}
    (h : readBare d (u ++ c :: y) = (t, r ++ c :: y)) : readBare d (u ++ z) = (t, r ++ z) := by
  unfold readBare at h ⊢
  rw [← List.cons_append, symbol?_stop (ends_cons hc)] at h
  rw [← List.cons_append, symbol?_stop hz]
  cases hsymbol : symbol? (d :: u) with
  | some x =>
    rw [hsymbol] at h
    have hx : x.1.isPrefixOf (d :: u) = true := by simpa using List.find?_some hsymbol
    obtain ⟨tail, htail⟩ := List.isPrefixOf_iff_prefix.1 hx
    simp only [← htail, List.append_assoc, List.drop_left, Prod.mk.injEq] at h ⊢
    obtain ⟨rfl, hr⟩ := h
    exact ⟨rfl, by rw [List.append_cancel_right hr]⟩
  | none =>
    rw [hsymbol] at h
    exact readOther_stop hc hz h

/-- **A token in front of a stop is the same whatever comes from the stop on.** -/
theorem readToken_stop (hc : isStop c = true) (hz : Ends z) {t : Option Token} {r : List Char}
    (h : readToken (u ++ c :: y) = (t, r ++ c :: y)) : readToken (u ++ z) = (t, r ++ z) := by
  rcases u with _ | ⟨d, u⟩
  · have hlen := (readToken_suffix c y).length_le
    rw [List.nil_append] at h
    rw [h] at hlen
    simp at hlen
    omega
  · rw [List.cons_append, readToken_eq] at h ⊢
    simp only [head?_stop (d := '*') (by decide) (ends_cons hc)] at h
    simp only [head?_stop (d := '*') (by decide) hz]
    split at h
    · next hcomment =>
      rw [if_pos hcomment]
      obtain ⟨u, rfl⟩ := List.head?_eq_some_iff.1 hcomment.2
      obtain ⟨rfl, hr⟩ := Prod.mk.inj h
      rw [← skipComment_stop hc hz hr]
      rfl
    · next hcomment =>
      rw [if_neg hcomment]
      split at h
      · next hq =>
        rw [if_pos hq]
        have hd : isStop d = false := by rcases hq with rfl | rfl <;> decide
        obtain ⟨rfl, hr⟩ := Prod.mk.inj h
        rw [readString_stop hd hc hz (Prod.ext rfl hr)]
      · next hq =>
        rw [if_neg hq]
        obtain ⟨rfl, hr⟩ := Prod.mk.inj h
        rw [readBare_stop hc hz (Prod.ext rfl hr)]

end

end StyleBuild.Css
