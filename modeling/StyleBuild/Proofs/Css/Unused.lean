import Mathlib.Data.List.Forall2
import Mathlib.Logic.Relation
import StyleBuild.Css.Selector.Basic

/-!
# Selectors that nothing uses

Two selectors are the same if they differ in vendor spellings only (`Selector.Same`), and then both
are unused or neither is (`Selector.Same.isUnused_eq`). A selector is not unused if the classes and
the ids that it names are in use, and none of its lists of alternatives is empty
(`Selector.isUnused_eq_false`).
-/

namespace StyleBuild.Css

variable {unused : NameSet} {parent : Bool}

/-! ## Spellings -/

mutual

theorem Part.isUnused_unprefixed :
    (p : Part) → p.unprefixed.isUnused unused parent = p.isUnused unused parent
  | .combinator _ => rfl
  | .simple s => by cases s <;> rfl
  | .choice k ss => by
    have h := isUnusedList_unprefixed ss
    cases k <;> simp [Part.unprefixed, Part.isUnused, h]

theorem Selector.isUnused_unprefixed :
    (s : List Part) →
      Selector.isUnused unused parent (Selector.unprefixed s) = Selector.isUnused unused parent s
  | [] => rfl
  | p :: ps => by
    rw [Selector.unprefixed, Selector.isUnused, Selector.isUnused, p.isUnused_unprefixed,
      Selector.isUnused_unprefixed ps]

theorem isUnusedList_unprefixed :
    (ss : List (List Part)) →
      isUnusedList unused parent (listUnprefixed ss) = isUnusedList unused parent ss
  | [] => rfl
  | s :: ss => by
    rw [listUnprefixed, isUnusedList, isUnusedList, Selector.isUnused_unprefixed s,
      isUnusedList_unprefixed ss]

end

/-! ## Equality -/

theorem Simple.isUnused_eq_of_beq {a b : Simple} (h : (a == b) = true) :
    (Part.simple a).isUnused unused parent = (Part.simple b).isUnused unused parent := by
  cases a <;> cases b <;> try cases h
  case cls.cls n m =>
    obtain rfl : n = m := eq_of_beq h
    rfl
  case id.id n m =>
    obtain rfl : n = m := eq_of_beq h
    rfl
  all_goals rfl

mutual

theorem Part.isUnused_eq_of_beq :
    (p q : Part) → p.beq q = true → p.isUnused unused parent = q.isUnused unused parent
  | .combinator _, .combinator _, _ => rfl
  | .simple _, .simple _, h => Simple.isUnused_eq_of_beq h
  | .choice k ss, .choice l ts, h => by
    rw [Part.beq, Bool.and_eq_true, beq_iff_eq] at h
    obtain ⟨rfl, h⟩ := h
    have h := isUnusedList_eq_of_beq ss ts h
    cases k <;> simp [Part.isUnused, h]

theorem Selector.isUnused_eq_of_beq :
    (s t : List Part) → Selector.beq s t = true →
      Selector.isUnused unused parent s = Selector.isUnused unused parent t
  | [], [], _ => rfl
  | p :: ps, q :: qs, h => by
    rw [Selector.beq, Bool.and_eq_true] at h
    rw [Selector.isUnused, Selector.isUnused, p.isUnused_eq_of_beq q h.1,
      Selector.isUnused_eq_of_beq ps qs h.2]

theorem isUnusedList_eq_of_beq :
    (ss ts : List (List Part)) → beqSelectors ss ts = true →
      isUnusedList unused parent ss = isUnusedList unused parent ts
  | [], [], _ => rfl
  | s :: ss, t :: ts, h => by
    rw [beqSelectors, Bool.and_eq_true] at h
    rw [isUnusedList, isUnusedList, Selector.isUnused_eq_of_beq s t h.1,
      isUnusedList_eq_of_beq ss ts h.2]

end

theorem Selector.beq_eq_beq (s t : Selector) : (s == t) = Selector.beq s t := by
  induction s generalizing t with
  | nil => cases t <;> rfl
  | cons p ps ih =>
    cases t with
    | nil => rfl
    | cons q qs =>
      rw [List.cons_beq_cons, ih, Selector.beq]
      rfl

/-- Whether two selectors differ in their spellings at most. Numbers in them may be equal without
being identical, so that equality has to be closed to an equivalence. -/
def Selector.Same : Selector → Selector → Prop :=
  Relation.EqvGen fun s t =>
    (s == t) = true ∨ (Selector.unprefixed s == Selector.unprefixed t) = true

namespace Selector.Same

variable {s t u : Selector}

theorem refl (s : Selector) : s.Same s := Relation.EqvGen.refl s

theorem symm (h : s.Same t) : t.Same s := Relation.EqvGen.symm _ _ h

theorem trans (h : s.Same t) (h' : t.Same u) : s.Same u := Relation.EqvGen.trans _ _ _ h h'

theorem of_beq (h : (s == t) = true) : s.Same t := Relation.EqvGen.rel _ _ (.inl h)

theorem of_unprefixed (h : (Selector.unprefixed s == Selector.unprefixed t) = true) : s.Same t :=
  Relation.EqvGen.rel _ _ (.inr h)

/-- **Of two spellings of a selector both are unused, or neither is.** -/
theorem isUnused_eq (h : s.Same t) :
    Selector.isUnused unused parent s = Selector.isUnused unused parent t := by
  induction h with
  | rel s t h =>
    rcases h with h | h
    · exact isUnused_eq_of_beq s t (by rwa [← beq_eq_beq])
    · rw [← isUnused_unprefixed s, ← isUnused_unprefixed t]
      exact isUnused_eq_of_beq _ _ (by rwa [← beq_eq_beq])
  | refl s => rfl
  | symm s t _ ih => exact ih.symm
  | trans s t u _ _ ih ih' => exact ih.trans ih'

end Selector.Same

/-! ## Lists -/

/-- Whether a list holds a spelling of a selector. -/
def Spells (ss : List Selector) (s : Selector) : Prop := ∃ t ∈ ss, t.Same s

theorem isUnusedList_eq_all (ss : List Selector) :
    isUnusedList unused parent ss = ss.all (Selector.isUnused unused parent) := by
  induction ss with
  | nil => rfl
  | cons s ss ih => rw [isUnusedList, List.all_cons, ih]

theorem isUnusedList_append (ss ts : List Selector) :
    isUnusedList unused parent (ss ++ ts) =
      (isUnusedList unused parent ss && isUnusedList unused parent ts) := by
  simp only [isUnusedList_eq_all, List.all_append]

theorem beq_cons_iff {s t : Selector} {ss ts : List Selector} :
    (s :: ss == t :: ts) = true ↔ (s == t) = true ∧ (ss == ts) = true := by
  rw [List.cons_beq_cons, Bool.and_eq_true]

namespace Spells

variable {s t : Selector} {ss ts : List Selector}

theorem append_left (h : Spells ss s) : Spells (ss ++ ts) s := by
  obtain ⟨u, hu, h⟩ := h
  exact ⟨u, List.mem_append_left _ hu, h⟩

theorem append_right (h : Spells ts s) : Spells (ss ++ ts) s := by
  obtain ⟨u, hu, h⟩ := h
  exact ⟨u, List.mem_append_right _ hu, h⟩

theorem of_append (h : Spells (ss ++ ts) s) : Spells ss s ∨ Spells ts s := by
  obtain ⟨u, hu, h⟩ := h
  rcases List.mem_append.1 hu with hu | hu
  · exact .inl ⟨u, hu, h⟩
  · exact .inr ⟨u, hu, h⟩

theorem ne_nil (h : Spells ss s) : ss ≠ [] := by
  obtain ⟨u, hu, -⟩ := h
  exact List.ne_nil_of_mem hu

/-- Lists of the same selectors in order hold the same selectors. -/
theorem of_forall₂ (hs : List.Forall₂ Selector.Same ss ts) (h : Spells ss s) : Spells ts s := by
  obtain ⟨u, hu, h⟩ := h
  induction hs with
  | nil => cases hu
  | cons hv _ ih =>
    rcases List.mem_cons.1 hu with rfl | hu
    · exact ⟨_, List.mem_cons_self, hv.symm.trans h⟩
    · obtain ⟨w, hw, h⟩ := ih hu
      exact ⟨w, List.mem_cons_of_mem _ hw, h⟩

end Spells

theorem forall₂_same_of_beq {ss ts : List Selector} (h : (ss == ts) = true) :
    List.Forall₂ Selector.Same ss ts := by
  induction ss generalizing ts with
  | nil =>
    cases ts with
    | nil => exact .nil
    | cons t ts => cases h
  | cons s ss ih =>
    cases ts with
    | nil => cases h
    | cons t ts =>
      rw [beq_cons_iff] at h
      exact .cons (.of_beq h.1) (ih h.2)

theorem forall₂_same_of_isEquivalentList {ss ts : List Selector}
    (h : isEquivalentList ss ts = true) : List.Forall₂ Selector.Same ss ts := by
  rw [isEquivalentList] at h
  induction ss generalizing ts with
  | nil =>
    cases ts with
    | nil => exact .nil
    | cons t ts => cases h
  | cons s ss ih =>
    cases ts with
    | nil => cases h
    | cons t ts =>
      rw [listUnprefixed, listUnprefixed, beq_cons_iff] at h
      exact .cons (.of_unprefixed h.1) (ih h.2)

theorem forall₂_same_symm {ss ts : List Selector} (h : List.Forall₂ Selector.Same ss ts) :
    List.Forall₂ Selector.Same ts ss := by
  induction h with
  | nil => exact .nil
  | cons h _ ih => exact .cons h.symm ih

/-- A rule is in use if one of its selectors is. -/
theorem isUnusedList_eq_false {s : Selector} {ss : List Selector} (h : Spells ss s)
    (hs : Selector.isUnused unused parent s = false) : isUnusedList unused parent ss = false := by
  obtain ⟨t, ht, h⟩ := h
  rw [isUnusedList_eq_all, List.all_eq_false]
  exact ⟨t, ht, by simp [h.isUnused_eq, hs]⟩

theorem isUnusedList_eq_of_forall₂ {ss ts : List Selector}
    (h : List.Forall₂ Selector.Same ss ts) :
    isUnusedList unused parent ss = isUnusedList unused parent ts := by
  induction h with
  | nil => rfl
  | cons h _ ih => rw [isUnusedList, isUnusedList, h.isUnused_eq, ih]

/-! ## More unused names -/

section More

variable {more : NameSet} {parent' : Bool}

theorem contains_eq_false_of_more (h : ∀ n ∈ unused, n ∈ more) {n : String}
    (hn : more.contains n = false) : unused.contains n = false := by
  rw [Bool.eq_false_iff, ne_eq, NameSet.contains_iff] at hn ⊢
  exact fun hc => hn (h n hc)

mutual

theorem Part.isUnused_mono (h : ∀ n ∈ unused, n ∈ more) (hp : parent = true → parent' = true) :
    (p : Part) → p.isUnused unused parent = true → p.isUnused more parent' = true
  | .combinator _, h' => h'
  | .simple s, h' => by
    cases s with
    | cls n => exact NameSet.contains_iff.2 (h n (NameSet.contains_iff.1 h'))
    | id n => exact NameSet.contains_iff.2 (h n (NameSet.contains_iff.1 h'))
    | nesting => exact hp h'
    | _ => exact h'
  | .choice k ss, h' => by
    have hss := isUnusedList_mono h hp ss
    cases k <;> first | exact hss h' | exact h'

theorem Selector.isUnused_mono (h : ∀ n ∈ unused, n ∈ more)
    (hp : parent = true → parent' = true) :
    (s : List Part) → Selector.isUnused unused parent s = true →
      Selector.isUnused more parent' s = true
  | [], hs => hs
  | p :: ps, hs => by
    rw [Selector.isUnused, Bool.or_eq_true] at hs ⊢
    exact hs.imp (p.isUnused_mono h hp) (Selector.isUnused_mono h hp ps)

theorem isUnusedList_mono (h : ∀ n ∈ unused, n ∈ more) (hp : parent = true → parent' = true) :
    (ss : List (List Part)) → isUnusedList unused parent ss = true →
      isUnusedList more parent' ss = true
  | [], _ => rfl
  | s :: ss, hs => by
    rw [isUnusedList, Bool.and_eq_true] at hs ⊢
    exact hs.imp (Selector.isUnused_mono h hp s) (isUnusedList_mono h hp ss)

end

end More

/-! ## Names in a selector -/

/-- The class that a simple selector names. -/
def Simple.class? : Simple → Option String
  | .cls name => some name
  | _ => none

/-- The id that a simple selector names. -/
def Simple.id? : Simple → Option String
  | .id name => some name
  | _ => none

mutual

/-- The names of a kind in a part, wherever they stand. -/
def Part.named (kind : Simple → Option String) : Part → List String
  | .combinator _ => []
  | .simple s => (kind s).toList
  | .choice _ ss => listNamed kind ss

/-- The names of a kind in a selector, wherever they stand. -/
def Selector.named (kind : Simple → Option String) : List Part → List String
  | [] => []
  | p :: ps => p.named kind ++ Selector.named kind ps

/-- The names of a kind in a list of selectors, wherever they stand. -/
def listNamed (kind : Simple → Option String) : List (List Part) → List String
  | [] => []
  | s :: ss => Selector.named kind s ++ listNamed kind ss

end

mutual

/-- Whether a part leaves a choice wherever it takes selectors. -/
def Part.leavesChoice : Part → Bool
  | .combinator _ => true
  | .simple _ => true
  | .choice _ ss => !ss.isEmpty && listLeavesChoice ss

/-- Whether a selector leaves a choice wherever it takes selectors. -/
def Selector.leavesChoice : List Part → Bool
  | [] => true
  | p :: ps => p.leavesChoice && Selector.leavesChoice ps

/-- Whether all selectors of a list leave a choice wherever they take selectors. -/
def listLeavesChoice : List (List Part) → Bool
  | [] => true
  | s :: ss => Selector.leavesChoice s && listLeavesChoice ss

end

mutual

theorem Part.isUnused_eq_false :
    (p : Part) → (∀ n ∈ p.named Simple.class?, unused.contains n = false) →
      (∀ n ∈ p.named Simple.id?, unused.contains n = false) → p.leavesChoice = true →
      p.isUnused unused false = false
  | .combinator _, _, _, _ => rfl
  | .simple s, hc, hi, _ => by
    cases s with
    | cls n => exact hc n (by simp [Part.named, Simple.class?])
    | id n => exact hi n (by simp [Part.named, Simple.id?])
    | _ => rfl
  | .choice k ss, hc, hi, hl => by
    rw [Part.leavesChoice, Bool.and_eq_true, Bool.not_eq_true', List.isEmpty_eq_false_iff] at hl
    have h := isUnusedList_eq_false_of_named ss hc hi hl.2 hl.1
    cases k <;> first | exact h | rfl

/-- **A selector is in use if the classes and the ids that it names are**, unless it leaves no
choice somewhere. -/
theorem Selector.isUnused_eq_false :
    (s : List Part) → (∀ n ∈ Selector.named Simple.class? s, unused.contains n = false) →
      (∀ n ∈ Selector.named Simple.id? s, unused.contains n = false) →
      Selector.leavesChoice s = true → Selector.isUnused unused false s = false
  | [], _, _, _ => rfl
  | p :: ps, hc, hi, hl => by
    rw [Selector.leavesChoice, Bool.and_eq_true] at hl
    rw [Selector.isUnused,
      p.isUnused_eq_false (fun n h => hc n (List.mem_append_left _ h))
        (fun n h => hi n (List.mem_append_left _ h)) hl.1,
      Selector.isUnused_eq_false ps (fun n h => hc n (List.mem_append_right _ h))
        (fun n h => hi n (List.mem_append_right _ h)) hl.2]
    rfl

theorem isUnusedList_eq_false_of_named :
    (ss : List (List Part)) → (∀ n ∈ listNamed Simple.class? ss, unused.contains n = false) →
      (∀ n ∈ listNamed Simple.id? ss, unused.contains n = false) → listLeavesChoice ss = true →
      ss ≠ [] → isUnusedList unused false ss = false
  | [], _, _, _, hne => absurd rfl hne
  | s :: ss, hc, hi, hl, _ => by
    rw [listLeavesChoice, Bool.and_eq_true] at hl
    rw [isUnusedList,
      Selector.isUnused_eq_false s (fun n h => hc n (List.mem_append_left _ h))
        (fun n h => hi n (List.mem_append_left _ h)) hl.1]
    rfl

end

end StyleBuild.Css
