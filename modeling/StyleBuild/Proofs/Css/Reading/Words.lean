import StyleBuild.Proofs.Css.Reading.Level

/-!
# Tokens by their text

What is read of a text that starts with white space (`readToken_blank`), a name
(`readToken_word`), an at-keyword (`readToken_at`) or a quote (`readToken_quote`), and what
components stand there (`stands_blank`, `stands_word`, `stands_at`, `stands_mark`).
-/

namespace StyleBuild.Css

variable {c : Char} {cs rest : List Char}

/-- Whether a character stands in a name for itself. -/
def isWordChar (c : Char) : Bool := isNameChar c && c.toNat != 0

/-- Whether a text goes on with something that is not part of a name. -/
def BreaksName (rest : List Char) : Prop := ∀ d ∈ rest.head?, isNameChar d = false ∧ d ≠ '\\'

theorem breaksName_cons (hc : isNameChar c = false) (hb : c ≠ '\\') : BreaksName (c :: rest) := by
  simp [BreaksName, hc, hb]

theorem readName_word (h : cs.all isWordChar = true) (hrest : BreaksName rest) {n : Nat}
    (hn : cs.length ≤ n) : readName n (cs ++ rest) = (cs, rest) := by
  induction cs generalizing n with
  | nil =>
    rcases rest with _ | ⟨d, rest⟩
    · exact readName_nil n
    · have hd := hrest d rfl
      exact readName_end hd.1 (fun hb => absurd hb hd.2) n
  | cons c cs ih =>
    obtain ⟨n, rfl⟩ : ∃ k, n = k + 1 := ⟨n - 1, by simp at hn; omega⟩
    simp only [List.all_cons, Bool.and_eq_true, isWordChar, bne_iff_ne] at h
    rw [List.cons_append, readName_char h.1.1,
      ih (by simpa [isWordChar] using h.2) (by simpa using hn), visible, if_neg h.1.2]

theorem readToken_other (hc : c ∉ ['/', '"', '\''])
    (hs : symbol? (c :: rest) = none) :
    readToken (c :: rest) = (some (readOther c rest).1, (readOther c rest).2) := by
  simp only [List.mem_cons, List.not_mem_nil, or_false, not_or] at hc
  rw [readToken_eq, if_neg (by simp [hc.1]), if_neg (by simp [hc.2]), readBare, hs]

theorem symbol?_eq_none (hc : c ∉ symbols.map (·.1.headD ' ')) : symbol? (c :: rest) = none := by
  rw [symbol?, List.find?_eq_none]
  rintro ⟨p, t⟩ hmem hp
  obtain ⟨tail, htail⟩ := List.isPrefixOf_iff_prefix.1 hp
  rcases p with _ | ⟨d, p⟩
  · exact ne_nil_of_mem_symbols hmem rfl
  · obtain ⟨rfl, -⟩ := List.cons.inj htail
    exact hc (List.mem_map.2 ⟨_, hmem, rfl⟩)

theorem isNameStart_isDigit (h : isNameStart c = true) : c.isDigit = false := by
  rw [← Bool.not_eq_true, Char.isDigit_iff_toNat]
  rintro ⟨hlow, hhigh⟩
  have hlow : 48 ≤ c.toNat := hlow
  have hhigh : c.toNat ≤ 57 := hhigh
  simp only [isNameStart, Bool.or_eq_true, decide_eq_true_eq, beq_iff_eq] at h
  rcases h with ((halpha | rfl) | h) | h
  · obtain hupper | hlower := Bool.or_eq_true_iff.1 halpha
    · have hupper : 65 ≤ c.toNat := (of_decide_eq_true hupper).1
      omega
    · have hlower : 97 ≤ c.toNat := of_decide_eq_true (Bool.and_eq_true_iff.1 hlower).1
      omega
  · exact absurd hhigh (by decide)
  · omega
  · omega

theorem not_mem_of_isNameStart (h : isNameStart c = true) {l : List Char}
    (hl : ∀ d ∈ l, isNameStart d = false) : c ∉ l := fun hmem => by
  rw [hl c hmem] at h
  cases h

theorem isNameStart_isSpace (h : isNameStart c = true) : isSpace c = false := by
  have hmem := not_mem_of_isNameStart h (l := [' ', '\t', '\n', '\r', '\x0c']) (by decide)
  simpa [isSpace, and_assoc] using hmem

theorem startsDigits_cons (h : isNameStart c = true) (rest : List Char) :
    startsDigits (c :: rest) = false := by
  have hpoint : c ≠ '.' := by rintro rfl; cases h
  rw [startsDigits, if_neg hpoint, isNameStart_isDigit h]

/-- Whether a name that is written without escapes starts with a letter or the like, maybe behind
a dash. -/
def startsWord : List Char → Bool
  | c :: d :: _ => if c = '-' then isNameStart d else isNameStart c
  | [c] => isNameStart c
  | [] => false

/-- Whether a text is a name that is written without escapes. -/
def isWord (cs : List Char) : Bool := startsWord cs && cs.all isWordChar

theorem startsWord_cases (h : startsWord cs = true) :
    (∃ c rest, cs = c :: rest ∧ c ≠ '-' ∧ isNameStart c = true) ∨
      ∃ d rest, cs = '-' :: d :: rest ∧ isNameStart d = true := by
  rcases cs with _ | ⟨c, _ | ⟨d, cs⟩⟩
  · cases h
  · have hdash : c ≠ '-' := by rintro rfl; cases h
    exact .inl ⟨c, [], rfl, hdash, h⟩
  · by_cases hc : c = '-'
    · subst hc
      exact .inr ⟨d, cs, rfl, h⟩
    · exact .inl ⟨c, d :: cs, rfl, hc, by simpa [startsWord, hc] using h⟩

theorem startsName_word (h : startsWord cs = true) (rest : List Char) :
    startsName (cs ++ rest) = true := by
  rcases startsWord_cases h with ⟨c, u, rfl, hdash, hc⟩ | ⟨d, u, rfl, hd⟩
  · have hmem := not_mem_of_isNameStart hc (l := ['\\']) (by decide)
    rw [List.cons_append, startsName_of_ne hdash (by simpa using hmem), hc]
  · have hmem := not_mem_of_isNameStart hd (l := ['-', '\\']) (by decide)
    simp only [List.mem_cons, List.not_mem_nil, or_false, not_or] at hmem
    rw [List.cons_append, List.cons_append, startsName_dash, if_neg hmem.1, if_neg hmem.2, hd]

/-- A name is one token. -/
theorem readToken_word (h : isWord cs = true) (hrest : BreaksName rest)
    (hcall : rest.head? ≠ some '(') :
    readToken (cs ++ rest) = (some (.ident (String.ofList cs)), rest) := by
  obtain ⟨hstart, hall⟩ := Bool.and_eq_true_iff.1 h
  have hword : readWord (cs ++ rest) = (.ident (String.ofList cs), rest) := by
    rw [readWord_eq, readName_word hall hrest (by simp)]
    rcases rest with _ | ⟨d, rest⟩
    · rfl
    · exact if_neg (by simpa using hcall)
  suffices hother : ∃ c u, cs = c :: u ∧ c ∉ ['/', '"', '\''] ∧ symbol? (c :: (u ++ rest)) = none ∧
      readOther c (u ++ rest) = readWord (c :: (u ++ rest)) by
    obtain ⟨c, u, rfl, hc, hs, hother⟩ := hother
    rw [List.cons_append] at hword ⊢
    rw [readToken_other hc hs, hother, hword]
  rcases startsWord_cases hstart with ⟨c, u, rfl, hdash, hc⟩ | ⟨d, u, rfl, hd⟩
  · have hmem := not_mem_of_isNameStart hc (l := ['+', '\\', '#', '@']) (by decide)
    simp only [List.mem_cons, List.not_mem_nil, or_false, not_or] at hmem
    refine ⟨c, u, rfl, not_mem_of_isNameStart hc (by decide),
      symbol?_eq_none (not_mem_of_isNameStart hc (by decide)), ?_⟩
    have hnumber : startsNumber (c :: (u ++ rest)) = false := by
      rw [startsNumber_eq, readSign_of_ne hmem.1 hdash, startsDigits_cons hc]
    have hname := startsName_word hstart rest
    rw [List.cons_append] at hname
    simp [readOther, isNameStart_isSpace hc, hnumber, hmem.2.2, hname]
  · have hmem := not_mem_of_isNameStart hd (l := ['-', '\\']) (by decide)
    simp only [List.mem_cons, List.not_mem_nil, or_false, not_or] at hmem
    refine ⟨'-', d :: u, rfl, by decide, by simp [symbol?, symbols, Ne.symm hmem.1], ?_⟩
    have hnumber : startsNumber ('-' :: (d :: u ++ rest)) = false := by
      rw [startsNumber_eq]
      exact startsDigits_cons hd (u ++ rest)
    have hname := startsName_word hstart rest
    have hspace : isSpace '-' = false := by decide
    rw [List.cons_append] at hnumber
    rw [List.cons_append, List.cons_append] at hname
    simp [readOther, hspace, hnumber, hname]

/-- An at sign and a name are one token. -/
theorem readToken_at (h : isWord cs = true) (hrest : BreaksName rest) :
    readToken ('@' :: (cs ++ rest)) = (some (.atKeyword (String.ofList cs)), rest) := by
  obtain ⟨hstart, hall⟩ := Bool.and_eq_true_iff.1 h
  have hspace : isSpace '@' = false := by decide
  have hnumber : startsNumber ('@' :: (cs ++ rest)) = false := by
    rw [startsNumber_eq, readSign_of_ne (by decide) (by decide), startsDigits, if_neg (by decide)]
    rfl
  rw [readToken_other (by decide) (symbol?_eq_none (by decide))]
  simp [readOther, hspace, hnumber, startsName_word hstart, readTail, readName_word hall hrest]

/-- White space is one token, up to something else. -/
theorem readToken_blank (hcs : cs ≠ []) (h : ∀ c ∈ cs, isSpace c = true)
    (hrest : ∀ d ∈ rest.head?, isSpace d = false) :
    readToken (cs ++ rest) = (some (.blank (String.ofList cs)), rest) := by
  rcases cs with _ | ⟨c, cs⟩
  · exact absurd rfl hcs
  have hc := h c (by simp)
  have hne : ∀ d, isSpace d = false → c ≠ d := by
    rintro d hd rfl
    rw [hd] at hc
    cases hc
  have hmem : ∀ {l : List Char}, (∀ d ∈ l, isSpace d = false) → c ∉ l :=
    fun hl hmem => hne c (hl c hmem) rfl
  have hstop : ∀ (l : List Char), (∀ d ∈ l.head?, isSpace d = false) →
      l.takeWhile isSpace = [] ∧ l.dropWhile isSpace = l := by
    rintro (_ | ⟨d, l⟩) hl
    · exact ⟨rfl, rfl⟩
    · simp [hl d rfl]
  have htake : (c :: cs ++ rest).takeWhile isSpace = c :: cs := by
    rw [List.takeWhile_append_of_pos h, (hstop rest hrest).1, List.append_nil]
  have hdrop : (c :: cs ++ rest).dropWhile isSpace = rest := by
    rw [List.dropWhile_append_of_pos h, (hstop rest hrest).2]
  rw [List.cons_append] at htake hdrop ⊢
  rw [readToken_other (hmem (by decide)) (symbol?_eq_none (hmem (by decide))), readOther,
    if_pos hc, htake, hdrop]

/-- A character that starts nothing longer is a token of its own. -/
theorem readToken_point (h : ∀ d ∈ rest.head?, d.isDigit = false) :
    readToken ('.' :: rest) = (some (.delim '.'), rest) := by
  rw [readToken_other (by decide) (symbol?_eq_none (by decide))]
  have hnumber : startsNumber ('.' :: rest) = false := by
    rw [startsNumber_eq, readSign_of_ne (by decide) (by decide), startsDigits, if_pos rfl]
    rcases rest with _ | ⟨d, rest⟩
    · rfl
    · exact h d rfl
  have hspace : isSpace '.' = false := by decide
  have hname : startsName ('.' :: rest) = false := by
    rw [startsName_of_ne (by decide) (by decide)]
    decide
  simp [readOther, hspace, hnumber, hname]

theorem readToken_quote (cs : List Char) :
    readToken ('"' :: cs) = (some (readString '"' cs).1, (readString '"' cs).2) := by
  rw [readToken_eq, if_neg (by simp), if_pos (.inl rfl)]

/-! ## Stops -/

theorem Ends.breaksName {y : List Char} (hy : Ends y) : BreaksName y ∧ y.head? ≠ some '(' := by
  rcases hy.cases with rfl | ⟨c, y, rfl, hc⟩
  · simp [BreaksName]
  · refine ⟨breaksName_cons (isStop_isNameChar hc) ?_, ?_⟩
    · rintro rfl
      cases hc
    · rintro ⟨⟩
      cases hc

/-! ## Components -/

theorem isWord_head {cs : List Char} (h : isWord cs = true) :
    ∃ c u, cs = c :: u ∧ isSpace c = false ∧ c.isDigit = false := by
  rcases startsWord_cases (Bool.and_eq_true_iff.1 h).1 with ⟨c, u, rfl, -, hc⟩ | ⟨d, u, rfl, -⟩
  · exact ⟨c, u, rfl, isNameStart_isSpace hc, isNameStart_isDigit hc⟩
  · exact ⟨'-', d :: u, rfl, by decide, by decide⟩

theorem stands_blank {u y : List Char} (hu : u ≠ []) (h : ∀ c ∈ u, isSpace c = true)
    (hy : ∀ d ∈ y.head?, isSpace d = false) (p : Position) :
    Stands p u y [.token (.blank (String.ofList u)) p] :=
  .token hu (readToken_blank hu h hy) (by simp) (by simp) p

theorem stands_word {cs y : List Char} (h : isWord cs = true) (hy : BreaksName y)
    (hcall : y.head? ≠ some '(') (p : Position) :
    Stands p cs y [.token (.ident (String.ofList cs)) p] := by
  have hcs : cs ≠ [] := by rintro rfl; cases h
  exact .token hcs (readToken_word h hy hcall) (by simp) (by simp) p

theorem stands_at {cs y : List Char} (h : isWord cs = true) (hy : BreaksName y) (p : Position) :
    Stands p ('@' :: cs) y [.token (.atKeyword (String.ofList cs)) p] :=
  .token (by simp) (readToken_at h hy) (by simp) (by simp) p

theorem stands_mark {c : Char} {t : Token} (h : ∀ y, readToken (c :: y) = (some t, y))
    (ho : ∀ b, t ≠ .opening b) (hc : ∀ s, t ≠ .closing s) (p : Position) (y : List Char) :
    Stands p [c] y [.token t p] := .token (by simp) (h y) ho hc p

end StyleBuild.Css
