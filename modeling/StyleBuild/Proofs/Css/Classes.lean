import StyleBuild.Css.Sheet
import StyleBuild.Proofs.Css.Normalized

/-!
# Classes of a normal form

The selectors of a sheet in normal form name no class that those of the sheet do not
(`Sheet.mem_classes_of_normalize`). A class that is alone in a selector with declarations is named
there as long as it is in use (`Sheet.mem_classes_normalize`).
-/

namespace StyleBuild.Css

variable {path : List Frame} {c : String}

/-! ## Where classes are named -/

theorem listClasses_append (ss ts : List Selector) :
    listClasses (ss ++ ts) = listClasses ss ++ listClasses ts := by
  induction ss with
  | nil => rfl
  | cons s ss ih => rw [List.cons_append, listClasses, listClasses, ih, List.append_assoc]

theorem mem_listClasses {ss : List Selector} {s : Selector} (hs : s ∈ ss)
    (hc : c ∈ Selector.classes s) : c ∈ listClasses ss := by
  induction ss with
  | nil => cases hs
  | cons t ss ih =>
    rw [listClasses, List.mem_append]
    rcases List.mem_cons.1 hs with rfl | hs
    · exact .inl hc
    · exact .inr (ih hs)

/-- The class names that the selectors of a rule refer to, those of the rules in it aside. -/
def Rule.ownClasses : Rule → List String
  | .style ss _ _ _ => listClasses ss
  | .nesting ss _ _ => listClasses ss
  | _ => []

/-- Whether the rules in a frame count for the classes that a sheet names. -/
def Frame.isTransparent : Frame → Bool
  | .scope _ _ => false
  | .startingStyle => false
  | _ => true

theorem Frame.Same.isTransparent_eq {f g : Frame} (h : f.Same g) :
    f.isTransparent = g.isTransparent :=
  h.map_eq fun {f g} h => by cases f <;> cases g <;> first | rfl | cases h

theorem Rule.mem_classes_iff {r : Rule} : c ∈ r.classes ↔ c ∈ r.ownClasses ∨
    ∃ f rules, r.inside? = some (f, rules) ∧ f.isTransparent = true ∧ c ∈ classesOfRules rules := by
  cases r <;> simp [Rule.classes, ownClasses, inside?, Frame.isTransparent]

theorem mem_classesOfRules_iff {rules : List Rule} :
    c ∈ classesOfRules rules ↔ ∃ r ∈ rules, c ∈ r.classes := by
  induction rules with
  | nil => simp [classesOfRules]
  | cons r rules ih => simp [classesOfRules, ih]

section Collecting

variable {own inRule : Rule → Prop} {inRules : List Rule → Prop}
  (hrule : ∀ r, inRule r ↔ own r ∨ ∃ f rules, r.inside? = some (f, rules) ∧
    f.isTransparent = true ∧ inRules rules)
  (hrules : ∀ rules, inRules rules ↔ ∃ r ∈ rules, inRule r)

include hrule hrules in
/-- What is collected from rules is what some rule has behind transparent frames. -/
theorem collected_iff_has {rules : List Rule} :
    inRules rules ↔ ∃ path, (∀ f ∈ path, f.isTransparent = true) ∧ Has own path rules := by
  constructor
  · intro h
    induction hn : rulesDepth rules using Nat.strongRecOn generalizing rules with
    | _ n ih =>
      obtain ⟨r, hr, hin⟩ := (hrules rules).1 h
      rcases (hrule r).1 hin with hown | ⟨f, inner, hinside, hf, hinner⟩
      · exact ⟨[], List.forall_mem_nil _, r, hr, hown⟩
      · have hdepth := Rule.depth_le_of_mem hr
        rw [Rule.depth_of_inside hinside] at hdepth
        obtain ⟨path, hpath, hhas⟩ := ih _ (by omega) hinner rfl
        exact ⟨f :: path, List.forall_mem_cons.2 ⟨hf, hpath⟩, r, hr,
          (holds_cons_of_inside hinside).2 ⟨.refl f, hhas⟩⟩
  · rintro ⟨path, hpath, h⟩
    induction path generalizing rules with
    | nil =>
      obtain ⟨r, hr, hown⟩ := h
      exact (hrules rules).2 ⟨r, hr, (hrule r).2 (.inl hown)⟩
    | cons f path ih =>
      obtain ⟨hf, hpath⟩ := List.forall_mem_cons.1 hpath
      obtain ⟨r, hr, g, inner, hinside, hs, h⟩ := h
      exact (hrules rules).2 ⟨r, hr, (hrule r).2
        (.inr ⟨g, inner, hinside, hs.isTransparent_eq.trans hf, ih hpath h⟩)⟩

end Collecting

theorem mem_classesOfRules_iff_has {rules : List Rule} : c ∈ classesOfRules rules ↔
    ∃ path, (∀ f ∈ path, f.isTransparent = true) ∧ Has (c ∈ ·.ownClasses) path rules :=
  collected_iff_has (fun _ => Rule.mem_classes_iff) fun _ => mem_classesOfRules_iff

/-! ## Normal forms -/

theorem Rule.ownClasses_shell (r : Rule) : r.shell.ownClasses = r.ownClasses := by
  cases r <;> rfl

/-- Normalising invents no classes. -/
theorem traced_ownClasses (c : String) {unused : NameSet} : Traced unused (c ∈ ·.ownClasses) where
  shell _ h hs := by rwa [← Rule.ownClasses_shell, ← hs, Rule.ownClasses_shell]
  removed := List.not_mem_nil
  style _ _ h := h
  nesting h := h
  declarations h := h
  merge {goal last new m} hm h := by
    have hclasses : ∀ s : Style, s.toRule.ownClasses = listClasses s.selectors := fun _ => rfl
    simp only [hclasses] at h ⊢
    obtain ⟨-, -, -, ⟨-, hss, -⟩ | ⟨-, -, ⟨-, hss⟩ | hss⟩⟩ := Style.mergeInto?_cases hm
    · exact .inl (hss ▸ h)
    · exact .inl (hss ▸ h)
    · rwa [hss, listClasses_append, List.mem_append] at h
  keyframes h := h
  declared _ h := absurd h List.not_mem_nil
  settled h := h
  extended h := .inl h

variable {sheet : Sheet} {goal : Goal}

/-- **The classes of a normal form** are some of the sheet. -/
theorem Sheet.mem_classes_of_normalize (ht : goal.targets = none)
    (h : c ∈ (sheet.normalize goal).classes) : c ∈ sheet.classes := by
  obtain ⟨path, hpath, hhas⟩ := mem_classesOfRules_iff_has.1 (NameSet.mem_ofList.1 h)
  exact NameSet.mem_ofList.2 (mem_classesOfRules_iff_has.2
    ⟨path, hpath, (traced_ownClasses c).normalizeTo _ goal ht rfl false _ path hhas⟩)

/-! ## Classes that are alone in a selector -/

theorem Simple.eq_class_iff_of_beq {a b : Simple} (h : (a == b) = true) :
    a = .cls c ↔ b = .cls c := by
  cases a <;> cases b <;> try cases h
  case cls.cls n m =>
    obtain rfl : n = m := eq_of_beq h
    rfl
  all_goals simp

theorem Part.eq_class_iff_of_beq {p q : Part} (h : p.beq q = true) :
    p = .simple (.cls c) ↔ q = .simple (.cls c) := by
  cases p <;> cases q <;> try cases h
  case simple.simple a b =>
    rw [Part.simple.injEq, Part.simple.injEq]
    exact Simple.eq_class_iff_of_beq h
  all_goals simp

theorem Selector.eq_class_iff_of_beq {s t : Selector} (h : Selector.beq s t = true) :
    s = [.simple (.cls c)] ↔ t = [.simple (.cls c)] := by
  rcases s with _ | ⟨p, _ | ⟨p', ps⟩⟩ <;> rcases t with _ | ⟨q, _ | ⟨q', qs⟩⟩ <;>
    simp [Selector.beq] at h ⊢
  exact Part.eq_class_iff_of_beq h

theorem Part.eq_class_iff_unprefixed {p : Part} :
    p.unprefixed = .simple (.cls c) ↔ p = .simple (.cls c) := by
  rcases p with _ | s | ⟨k, ss⟩
  · simp [Part.unprefixed]
  · cases s <;> simp [Part.unprefixed]
  · cases k <;> simp [Part.unprefixed]

theorem Selector.eq_class_iff_unprefixed {s : Selector} :
    Selector.unprefixed s = [.simple (.cls c)] ↔ s = [.simple (.cls c)] := by
  rcases s with _ | ⟨p, _ | ⟨q, ps⟩⟩
  · simp [Selector.unprefixed]
  · simp [Selector.unprefixed, Part.eq_class_iff_unprefixed]
  · simp [Selector.unprefixed]

/-- A class has one spelling. -/
theorem Selector.Same.eq_class_iff {s t : Selector} (h : s.Same t) :
    s = [.simple (.cls c)] ↔ t = [.simple (.cls c)] := by
  induction h with
  | rel s t h =>
    rw [Selector.beq_eq_beq, Selector.beq_eq_beq] at h
    rcases h with h | h
    · exact Selector.eq_class_iff_of_beq h
    · rw [← Selector.eq_class_iff_unprefixed (s := s), ← Selector.eq_class_iff_unprefixed (s := t)]
      exact Selector.eq_class_iff_of_beq h
  | refl s => rfl
  | symm s t _ ih => exact ih.symm
  | trans s t u _ _ ih ih' => exact ih.trans ih'

theorem Mark.mem_ownClasses_of_on {name : Option String} {r : Rule}
    (h : (Mark.selector [.simple (.cls c)] name).On r) : c ∈ r.ownClasses := by
  cases r
  case style ss block rules q =>
    obtain ⟨⟨t, ht, hs⟩, -⟩ := h
    obtain rfl := hs.eq_class_iff.2 rfl
    exact mem_listClasses ht (by simp [Selector.classes, Part.classes])
  all_goals exact h.elim

/-- **A class that is alone in a selector** with declarations is a class of the normal form if it is
in use. -/
theorem Sheet.mem_classes_normalize {unused : NameSet} {r : Rule} (hr : r ∈ sheet.rules)
    (hm : (Mark.selector [.simple (.cls c)] none).On r) (hc : unused.contains c = false) :
    c ∈ (sheet.normalize { unused }).classes := by
  have hleft : (Mark.selector [.simple (.cls c)] none).IsLeft unused := by
    refine ⟨?_, rfl⟩
    rw [Selector.isUnused, Part.isUnused, hc]
    rfl
  have hhas :
      Has (Mark.selector [.simple (.cls c)] none).On [] (sheet.normalize { unused }).rules :=
    (Mark.has_normalizeRules_of_kept rfl (by simp [IsLive]) hleft.kept).2 ⟨r, hr, hm⟩
  exact NameSet.mem_ofList.2 (mem_classesOfRules_iff_has.2
    ⟨[], List.forall_mem_nil _, hhas.mono Mark.mem_ownClasses_of_on⟩)

end StyleBuild.Css
