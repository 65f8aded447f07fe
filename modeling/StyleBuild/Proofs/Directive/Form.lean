import Mathlib.Data.List.TakeWhile
import StyleBuild.Stage.Directive

/-!
# The form of directives

A directive is the keyword, white space, the name of a layer, and then maybe white space and a
semicolon (`IsDirective`). In front of a text, `directive?` finds the longest directive there is
(`directive?_eq_some_iff`), and nothing if there is none (`directive?_eq_none_iff`). A directive
that ends in a semicolon is the longest one whatever comes after it (`IsDirective.isLongest`).
-/

namespace StyleBuild.Directive

/-! ## Characters -/

theorem isLayerChar_iff (c : Char) : isLayerChar c = true ↔
    (65 ≤ c.toNat ∧ c.toNat ≤ 90) ∨ (97 ≤ c.toNat ∧ c.toNat ≤ 122) ∨ c.toNat = 45 := by
  have hupper : c.isUpper = true ↔ 65 ≤ c.toNat ∧ c.toNat ≤ 90 := decide_eq_true_iff
  have hlower : c.isLower = true ↔ 97 ≤ c.toNat ∧ c.toNat ≤ 122 :=
    Bool.and_eq_true_iff.trans (and_congr decide_eq_true_iff decide_eq_true_iff)
  have halpha : c.isAlpha = true ↔ c.isUpper = true ∨ c.isLower = true := Bool.or_eq_true_iff
  have hdash : c = '-' ↔ c.toNat = 45 := Char.toNat_inj.symm
  rw [isLayerChar, Bool.or_eq_true_iff, halpha, hupper, hlower, beq_iff_eq, hdash, or_assoc]

theorem isBlank_eq_false_of_isLayerChar {c : Char} (h : isLayerChar c = true) :
    isBlank c = false := by
  rw [isLayerChar_iff] at h
  simp [isBlank]
  omega

theorem isLayerChar_eq_false_of_isBlank {c : Char} (h : isBlank c = true) :
    isLayerChar c = false :=
  Bool.eq_false_iff.2 fun hl => by simp [isBlank_eq_false_of_isLayerChar hl] at h

/-! ## Runs of characters -/

section Runs

variable {p : Char → Bool} {run rest : List Char}

/-- A text does not start with a character of some kind. -/
def StartsWithout (p : Char → Bool) (cs : List Char) : Prop := ∀ c ∈ cs.head?, p c = false

theorem StartsWithout.append (hrun : StartsWithout p run)
    (hrest : run = [] → StartsWithout p rest) : StartsWithout p (run ++ rest) := by
  cases run with
  | nil => exact hrest rfl
  | cons c cs => exact fun d hd => hrun d (by simpa using hd)

theorem takeWhile_run (hrun : ∀ c ∈ run, p c = true) (hrest : StartsWithout p rest) :
    (run ++ rest).takeWhile p = run := by
  rw [List.takeWhile_append_of_pos hrun]
  cases rest with
  | nil => simp
  | cons c cs => simp [hrest c rfl]

theorem dropWhile_run (hrun : ∀ c ∈ run, p c = true) (hrest : StartsWithout p rest) :
    (run ++ rest).dropWhile p = rest := by
  rw [List.dropWhile_append_of_pos hrun]
  cases rest with
  | nil => rfl
  | cons c cs => simp [hrest c rfl]

/-- A run ends at the latest where a character of another kind stands. -/
theorem takeWhile_append_cons {c : Char} (hc : p c = false) (cs rest : List Char) :
    (cs ++ c :: rest).takeWhile p = cs.takeWhile p := by
  rw [List.takeWhile_append]
  split
  · next h => rw [List.takeWhile_cons_of_neg (by simp [hc]), List.append_nil,
      (List.takeWhile_prefix p).eq_of_length h]
  · rfl

theorem dropWhile_append_cons {c : Char} (hc : p c = false) (cs rest : List Char) :
    (cs ++ c :: rest).dropWhile p = cs.dropWhile p ++ c :: rest := by
  rw [List.dropWhile_append]
  split
  · next h => rw [List.isEmpty_iff.1 h, List.dropWhile_cons_of_neg (by simp [hc]), List.nil_append]
  · rfl

theorem startsWithout_dropWhile (p : Char → Bool) (cs : List Char) :
    StartsWithout p (cs.dropWhile p) := by
  induction cs with
  | nil => simp [StartsWithout]
  | cons c cs ih =>
    by_cases h : p c
    · simpa [h] using ih
    · simp [StartsWithout, h]

end Runs

/-! ## Strings -/

/-- The first piece of a text that starts with a quote. -/
theorem next_quote {quote : Char} (hq : quote = '"' ∨ quote = '\'') (cs : List Char) :
    next quote cs = match stringRest quote cs with
      | some (inside, rest) => (.other (quote :: inside), rest)
      | none => (.other [quote], cs) := by
  rcases hq with rfl | rfl <;> rfl

/-! ## Directives -/

/-- A text is a directive for a layer. -/
inductive IsDirective : List Char → List Char → Prop
  | intro {blanks layer gap closing : List Char}
    (hblanks : ∀ c ∈ blanks, isBlank c = true) (hblanks' : blanks ≠ [])
    (hlayer : ∀ c ∈ layer, isLayerChar c = true) (hlayer' : layer ≠ [])
    (hgap : ∀ c ∈ gap, isBlank c = true) (hclosing : closing = [] ∨ closing = [';']) :
    IsDirective layer (keyword ++ (blanks ++ (layer ++ (gap ++ closing))))

/-- What belongs to a directive behind its layer. -/
def ending (behind : List Char) : List Char :=
  behind.takeWhile isBlank ++ (takeSemicolon (behind.dropWhile isBlank)).1

/-- What comes after a directive, given what comes after its layer. -/
def afterEnding (behind : List Char) : List Char := (takeSemicolon (behind.dropWhile isBlank)).2

theorem directiveRest_eq (after : List Char) :
    directiveRest after =
      if (after.takeWhile isBlank).isEmpty ||
        ((after.dropWhile isBlank).takeWhile isLayerChar).isEmpty then none
      else
        some (.directive ((after.dropWhile isBlank).takeWhile isLayerChar)
          (keyword ++ (after.takeWhile isBlank ++
            ((after.dropWhile isBlank).takeWhile isLayerChar ++
              ending ((after.dropWhile isBlank).dropWhile isLayerChar)))),
          afterEnding ((after.dropWhile isBlank).dropWhile isLayerChar)) := rfl

theorem startsWithout_of_isLayerChar {layer rest : List Char}
    (hlayer : ∀ c ∈ layer, isLayerChar c = true) (hlayer' : layer ≠ []) :
    StartsWithout isBlank (layer ++ rest) :=
  StartsWithout.append
    (fun c hc => isBlank_eq_false_of_isLayerChar (hlayer c (List.mem_of_head? hc)))
    fun h => absurd h hlayer'

/-- The directive in front of a text, told by what is in it. -/
theorem directive?_eq {blanks layer behind : List Char}
    (hblanks : ∀ c ∈ blanks, isBlank c = true) (hblanks' : blanks ≠ [])
    (hlayer : ∀ c ∈ layer, isLayerChar c = true) (hlayer' : layer ≠ [])
    (hbehind : StartsWithout isLayerChar behind) :
    directive? (keyword ++ (blanks ++ (layer ++ behind))) =
      some (.directive layer (keyword ++ (blanks ++ (layer ++ ending behind))),
        afterEnding behind) := by
  have hafter : StartsWithout isBlank (layer ++ behind) :=
    startsWithout_of_isLayerChar hlayer hlayer'
  rw [directive?, if_pos (List.isPrefixOf_iff_prefix.2 ⟨_, rfl⟩), List.drop_left, directiveRest_eq,
    takeWhile_run hblanks hafter, dropWhile_run hblanks hafter, takeWhile_run hlayer hbehind,
    dropWhile_run hlayer hbehind]
  simp [hblanks', hlayer']

/-- What a text that starts with a directive is made of. -/
theorem exists_of_directive? {cs rest : List Char} {p : Piece}
    (h : directive? cs = some (p, rest)) :
    ∃ blanks layer behind, (∀ c ∈ blanks, isBlank c = true) ∧ blanks ≠ [] ∧
      (∀ c ∈ layer, isLayerChar c = true) ∧ layer ≠ [] ∧ StartsWithout isLayerChar behind ∧
      cs = keyword ++ (blanks ++ (layer ++ behind)) ∧
      p = .directive layer (keyword ++ (blanks ++ (layer ++ ending behind))) ∧
      rest = afterEnding behind := by
  unfold directive? at h
  split at h
  · next hk =>
    obtain ⟨after, rfl⟩ := List.isPrefixOf_iff_prefix.1 hk
    rw [List.drop_left, directiveRest_eq] at h
    split at h
    · simp at h
    · next hne =>
      simp only [Bool.or_eq_true, List.isEmpty_iff, not_or] at hne
      simp only [Option.some.injEq, Prod.mk.injEq] at h
      obtain ⟨rfl, rfl⟩ := h
      exact ⟨_, _, _, fun c hc => List.mem_takeWhile_imp hc, hne.1,
        fun c hc => List.mem_takeWhile_imp hc, hne.2, startsWithout_dropWhile _ _,
        by simp only [List.takeWhile_append_dropWhile], rfl, rfl⟩
  · simp at h

section Ending

variable {gap : List Char} (hgap : ∀ c ∈ gap, isBlank c = true) (cs : List Char)

include hgap in
theorem ending_append : ending (gap ++ cs) = gap ++ ending cs := by
  rw [ending, List.takeWhile_append_of_pos hgap, List.dropWhile_append_of_pos hgap, ending,
    List.append_assoc]

include hgap in
theorem afterEnding_append : afterEnding (gap ++ cs) = afterEnding cs := by
  rw [afterEnding, List.dropWhile_append_of_pos hgap, afterEnding]

theorem ending_semicolon : ending (';' :: cs) = [';'] := rfl

theorem afterEnding_semicolon : afterEnding (';' :: cs) = cs := rfl

end Ending

theorem isDirective_of_directive? {cs rest : List Char} {p : Piece}
    (h : directive? cs = some (p, rest)) :
    ∃ layer text, p = .directive layer text ∧ IsDirective layer text := by
  obtain ⟨blanks, layer, behind, hb, hb', hl, hl', -, -, rfl, -⟩ := exists_of_directive? h
  refine ⟨_, _, rfl, .intro hb hb' hl hl' (fun c hc => List.mem_takeWhile_imp hc) ?_⟩
  unfold takeSemicolon
  split
  · exact .inr rfl
  · exact .inl rfl

theorem startsWithout_gap {gap rest : List Char} (hgap : ∀ c ∈ gap, isBlank c = true)
    (hrest : gap = [] → StartsWithout isLayerChar rest) :
    StartsWithout isLayerChar (gap ++ rest) :=
  StartsWithout.append
    (fun c hc => isLayerChar_eq_false_of_isBlank (hgap c (List.mem_of_head? hc))) hrest

theorem not_keyword_prefix {c : Char} {cs : List Char} (h : c ≠ '@' ∨ cs = []) :
    ¬keyword <+: c :: cs := by
  intro hk
  have hkeyword : keyword = '@' :: keyword.tail := by decide
  rw [hkeyword, List.cons_prefix_cons] at hk
  rcases h with h | rfl
  · exact h hk.1.symm
  · exact absurd (List.prefix_nil.1 hk.2) (by decide)

/-- Whether a directive can go on with a character. -/
def goesOn (c : Char) : Bool := isLayerChar c || isBlank c || c == ';'

theorem StartsWithout.layerChar {rest : List Char} (h : StartsWithout goesOn rest) :
    StartsWithout isLayerChar rest := fun c hc => by
  have := h c hc
  simp only [goesOn, Bool.or_eq_false_iff] at this
  exact this.1.1

theorem ending_of_startsWithout {rest : List Char} (h : StartsWithout goesOn rest) :
    ending rest = [] ∧ afterEnding rest = rest := by
  cases rest with
  | nil => exact ⟨rfl, rfl⟩
  | cons c cs =>
    obtain ⟨⟨-, hb⟩, hs⟩ : (isLayerChar c = false ∧ isBlank c = false) ∧ c ≠ ';' := by
      simpa [goesOn] using h c rfl
    simp [ending, afterEnding, hb, takeSemicolon, hs]

theorem getLast?_ne_semicolon (start : List Char) {layer gap : List Char}
    (hl : ∀ c ∈ layer, isLayerChar c = true) (hl' : layer ≠ [])
    (hgap : ∀ c ∈ gap, isBlank c = true) : (start ++ (layer ++ gap)).getLast? ≠ some ';' := by
  intro h
  rw [List.getLast?_append] at h
  cases hlast : (layer ++ gap).getLast? with
  | none => simp [hl'] at hlast
  | some c =>
    obtain rfl : c = ';' := by simpa [hlast] using h
    rcases List.mem_append.1 (List.mem_of_getLast? hlast) with hm | hm
    · exact absurd (hl _ hm) (by decide)
    · exact absurd (hgap _ hm) (by decide)

section IsDirective

variable {layer text : List Char}

/-- Behind its first character, a directive has characters of the keyword and such that it can go
on with. -/
theorem IsDirective.mem_tail (h : IsDirective layer text) {c : Char} (hc : c ∈ text.tail) :
    c ∈ keyword.tail ∨ goesOn c = true := by
  obtain @⟨blanks, _, gap, closing, hb, -, hl, -, hgap, hclosing⟩ := h
  rw [List.tail_append_of_ne_nil (by decide)] at hc
  simp only [List.mem_append, goesOn, Bool.or_eq_true] at hc ⊢
  rcases hc with hc | hc | hc | hc | hc
  · exact .inl hc
  · exact .inr (.inl (.inr (hb c hc)))
  · exact .inr (.inl (.inl (hl c hc)))
  · exact .inr (.inl (.inr (hgap c hc)))
  · rcases hclosing with rfl | rfl
    · simp at hc
    · exact .inr (.inr (by simpa using hc))

theorem IsDirective.ne_nil (h : IsDirective layer text) : text ≠ [] := by
  obtain ⟨-, -, -, -, -, -⟩ := h
  exact List.append_ne_nil_of_left_ne_nil (by decide) _

/-- A directive is found in front of a text that it cannot go on with. -/
theorem directive?_append_of_isDirective (h : IsDirective layer text) {rest : List Char}
    (hr : text.getLast? = some ';' ∨ StartsWithout goesOn rest) :
    directive? (text ++ rest) = some (.directive layer text, rest) := by
  obtain @⟨blanks, _, gap, _, hb, hb', hl, hl', hgap, rfl | rfl⟩ := h
  · have hrest : StartsWithout goesOn rest := by
      refine hr.resolve_left ?_
      rw [List.append_nil, ← List.append_assoc]
      exact getLast?_ne_semicolon _ hl hl' hgap
    have hd := directive?_eq hb hb' hl hl' (startsWithout_gap hgap fun _ => hrest.layerChar)
    rw [ending_append hgap, afterEnding_append hgap, (ending_of_startsWithout hrest).1,
      (ending_of_startsWithout hrest).2] at hd
    simpa using hd
  · have hlayer : StartsWithout isLayerChar (';' :: rest) := by rintro _ ⟨⟩; decide
    have hd := directive?_eq hb hb' hl hl' (startsWithout_gap hgap fun _ => hlayer)
    rw [ending_append hgap, afterEnding_append hgap] at hd
    simpa [ending_semicolon, afterEnding_semicolon] using hd

/-- A text that starts with a directive starts with one that is found and is as long. -/
theorem directive?_of_isDirective (h : IsDirective layer text) (rest : List Char) :
    ∃ layer' text' rest', directive? (text ++ rest) = some (.directive layer' text', rest') ∧
      text.length ≤ text'.length := by
  have hclosed : text.getLast? = some ';' →
      directive? (text ++ rest) = some (.directive layer text, rest) := fun hc =>
    directive?_append_of_isDirective h (.inl hc)
  obtain @⟨blanks, _, gap, _, hb, hb', hl, hl', hgap, rfl | rfl⟩ := h
  · by_cases hg : gap = []
    · -- The name of the layer may go on in the rest.
      subst hg
      have hmore : ∀ c ∈ layer ++ rest.takeWhile isLayerChar, isLayerChar c = true := fun c hc =>
        (List.mem_append.1 hc).elim (hl c) List.mem_takeWhile_imp
      have hd := directive?_eq hb hb' hmore (by simp [hl'])
        (startsWithout_dropWhile isLayerChar rest)
      rw [List.append_assoc layer, List.takeWhile_append_dropWhile] at hd
      exact ⟨_, _, _, by simpa using hd, by simp⟩
    · have hbehind : StartsWithout isLayerChar (gap ++ rest) :=
        startsWithout_gap hgap (absurd · hg)
      have hd := directive?_eq hb hb' hl hl' hbehind
      rw [ending_append hgap] at hd
      exact ⟨_, _, _, by simpa using hd, by simp⟩
  · exact ⟨_, _, _, hclosed (by simp), Nat.le_refl _⟩

/-- A text is a directive for one layer only. -/
theorem IsDirective.unique {layer' : List Char} (h : IsDirective layer text)
    (h' : IsDirective layer' text) : layer = layer' := by
  have hnil : StartsWithout goesOn [] := by simp [StartsWithout]
  have hd := directive?_append_of_isDirective h (.inr hnil)
  rw [directive?_append_of_isDirective h' (.inr hnil)] at hd
  simpa using hd.symm

/-- A text is the longest directive in front of it and the rest. -/
structure IsLongest (layer text rest : List Char) : Prop where
  isDirective : IsDirective layer text
  length_le : ∀ layer' text' rest', IsDirective layer' text' → text' ++ rest' = text ++ rest →
    text'.length ≤ text.length

/-- The longest directive in front of a text is found. -/
theorem directive?_eq_some_iff {cs rest : List Char} :
    directive? cs = some (.directive layer text, rest) ↔
      IsLongest layer text rest ∧ text ++ rest = cs := by
  constructor
  · intro h
    have happend : text ++ rest = cs := directive?_append h
    obtain ⟨_, _, hp, hd⟩ := isDirective_of_directive? h
    cases hp
    refine ⟨⟨hd, fun layer' text' rest' hd' he => ?_⟩, happend⟩
    obtain ⟨_, _, _, hfound, hle⟩ := directive?_of_isDirective hd' rest'
    rw [he, happend, h] at hfound
    cases hfound
    exact hle
  · rintro ⟨⟨hd, hlongest⟩, rfl⟩
    obtain ⟨layer', text', rest', hfound, hle⟩ := directive?_of_isDirective hd rest
    have happend : text' ++ rest' = text ++ rest := directive?_append hfound
    obtain ⟨_, _, hp, hd'⟩ := isDirective_of_directive? hfound
    cases hp
    have hlen := Nat.le_antisymm (hlongest _ _ _ hd' happend) hle
    obtain ⟨rfl, rfl⟩ := List.append_inj happend hlen
    rw [hfound, hd.unique hd']

/-- A directive that ends in a semicolon is the longest one, whatever comes after it. -/
theorem IsDirective.isLongest (h : IsDirective layer text) (hc : text.getLast? = some ';')
    (rest : List Char) : IsLongest layer text rest :=
  (directive?_eq_some_iff.1 (directive?_append_of_isDirective h (.inl hc))).1

/-- Nothing is found in front of a text that does not start with a directive. -/
theorem directive?_eq_none_iff {cs : List Char} :
    directive? cs = none ↔ ∀ layer text rest, IsDirective layer text → text ++ rest ≠ cs := by
  constructor
  · rintro h layer text rest hd rfl
    obtain ⟨_, _, _, hfound, -⟩ := directive?_of_isDirective hd rest
    rw [h] at hfound
    cases hfound
  · intro h
    cases hd : directive? cs with
    | none => rfl
    | some found =>
      obtain ⟨p, rest⟩ := found
      obtain ⟨layer, text, rfl, hdirective⟩ := isDirective_of_directive? hd
      exact absurd (directive?_append hd) (h layer text rest hdirective)

end IsDirective

end StyleBuild.Directive
