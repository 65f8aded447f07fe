import StyleBuild.Proofs.Css.Keeping

/-!
# Marks

A mark is something that a rule says on its own: that a selector has a declaration, that a property
is registered, that a layer is declared, or the whole of a rule that normalising leaves as it is. A
mark is kept for some unused names if a rule has it that these do not take away (`Mark.Kept`). Marks
are not invented by normalising (`Mark.traced`), and those that are kept last (`Mark.lasting`).
-/

namespace StyleBuild.Css

/-- Whether normalising leaves a rule as it is, the rules in it aside. -/
def Rule.isStatement : Rule → Bool
  | .scope _ _ _ | .fontFace _ | .page _ | .import_ _ | .unknown _ _ _ => true
  | _ => false

/-- Whether a rule can have a mark. -/
def Rule.bearsMarks : Rule → Bool
  | .style _ _ _ _ | .registered _ | .layer (some _) _ | .layerNames _ => true
  | r => r.isStatement

/-- Something that a rule says. -/
inductive Mark where
  /-- A selector has a declaration of a custom property or, without a name, of a known one. -/
  | selector (s : Selector) (name : Option String)
  | registered (name : String)
  | layer (name : LayerName)
  | statement (r : Rule) (h : r.isStatement = true)

namespace Mark

/-- The mark is on a rule. -/
def On : Mark → Rule → Prop
  | .selector s name, .style ss block _ _ => Spells ss s ∧ block.Declares name
  | .registered name, .registered p => p.name = name
  | .layer name, .layer n _ => n = some name
  | .layer name, .layerNames names => name ∈ names
  | .layer name, .import_ i => i.layer = some (some name)
  | .statement s _, r => r.shell = s.shell
  | _, _ => False

/-- The mark is on a rule, and the unused names take neither the rule nor the mark away. -/
def Kept (unused : NameSet) (m : Mark) (r : Rule) : Prop :=
  m.On r ∧ match m, r with
    | .selector _ name, .style ss _ _ _ =>
      ({ unused } : Goal).isUnused false ss = false ∧ ({ unused } : Goal).leaves name = true
    | .registered name, _ => unused.contains name = false
    | _, _ => True

/-- The unused names do not take the mark away from any rule. -/
def IsLeft (unused : NameSet) : Mark → Prop
  | .selector s name =>
    Selector.isUnused unused false s = false ∧ ({ unused } : Goal).leaves name = true
  | .registered name => unused.contains name = false
  | _ => True

variable {m : Mark} {unused : NameSet} {goal : Goal}

theorem Kept.on {r : Rule} (h : m.Kept unused r) : m.On r := h.1

/-- A mark that is left everywhere is kept by every rule. -/
theorem IsLeft.kept (hm : m.IsLeft unused) {r : Rule} (h : m.On r) : m.Kept unused r := by
  refine ⟨h, ?_⟩
  cases m with
  | selector s name =>
    cases r
    case style ss block rules q =>
      refine ⟨?_, hm.2⟩
      rw [Goal.isUnused, isUnusedList_eq_false h.1 hm.1, Bool.and_false]
    all_goals trivial
  | registered name => exact hm
  | _ => trivial

/-- Without unused names all marks are kept. -/
theorem kept_empty {r : Rule} (h : m.On r) : m.Kept {} r := by
  refine ⟨h, ?_⟩
  cases m with
  | selector s name =>
    cases r
    case style => exact ⟨rfl, by cases name <;> rfl⟩
    all_goals trivial
  | registered name => rfl
  | _ => trivial

/-- A mark that is kept for some unused names is kept for fewer. -/
theorem Kept.of_more {more : NameSet} (h : ∀ n ∈ unused, n ∈ more) {r : Rule}
    (hr : m.Kept more r) : m.Kept unused r := by
  refine ⟨hr.1, ?_⟩
  cases m with
  | selector s name =>
    cases r with
    | style ss block rules q =>
      obtain ⟨-, hused, hleaves⟩ := hr
      exact ⟨eq_false_of_more (Goal.isUnused_mono h id) hused, Goal.leaves_mono h hleaves⟩
    | _ => trivial
  | registered name => exact contains_eq_false_of_more h hr.2
  | _ => trivial

theorem shell_shell (r : Rule) : r.shell.shell = r.shell := by
  cases r <;> rfl

theorem isStatement_shell (r : Rule) : r.shell.isStatement = r.isStatement := by
  cases r <;> rfl

/-- Only statements have the marks of statements. -/
theorem isStatement_of_on {r s : Rule} {h : s.isStatement = true} (hr : (statement s h).On r) :
    r.isStatement = true := by
  have hr : r.shell = s.shell := by
    cases r <;> exact hr
  rw [← isStatement_shell, hr, isStatement_shell, h]

/-- No mark is on declarations that stand on their own, on keyframes, or on a rule that does nothing
but to hold others. -/
theorem not_on {r : Rule} (h : r.bearsMarks = false) : ¬ m.On r := by
  intro hr
  cases m with
  | statement s hs =>
    have hr := isStatement_of_on hr
    cases r <;> first
      | exact absurd h.symm Bool.false_ne_true
      | exact absurd hr Bool.false_ne_true
  | selector s name => cases r <;> first | exact hr | exact absurd h.symm Bool.false_ne_true
  | registered name => cases r <;> first | exact hr | exact absurd h.symm Bool.false_ne_true
  | layer name =>
    cases r with
    | layer n rules =>
      cases n with
      | none => cases hr
      | some n => exact absurd h.symm Bool.false_ne_true
    | _ => first | exact hr | exact absurd h.symm Bool.false_ne_true

/-- A mark on the block of a layer is that of the layer. -/
theorem eq_layer_of_on {n : LayerName} {rules : List Rule} (h : m.On (.layer (some n) rules)) :
    m = layer n := by
  cases m with
  | statement s hs => exact absurd (isStatement_of_on h) Bool.false_ne_true
  | layer k => exact congrArg layer (Option.some.inj h).symm
  | _ => exact h.elim

/-- A mark on a statement that declares layers is that of one of them. -/
theorem exists_layer_of_on {names : List LayerName} (h : m.On (.layerNames names)) :
    ∃ n ∈ names, m = layer n := by
  cases m with
  | statement s hs => exact absurd (isStatement_of_on h) Bool.false_ne_true
  | layer n => exact ⟨n, h, rfl⟩
  | _ => exact h.elim

/-- A mark on a registration is that of the property. -/
theorem eq_registered_of_on {p : Registered} (h : m.On (.registered p)) :
    m = registered p.name := by
  cases m with
  | statement s hs => exact absurd (isStatement_of_on h) Bool.false_ne_true
  | registered name => exact congrArg registered (Eq.symm h)
  | _ => exact h.elim

theorem on_shell_iff {r : Rule} : m.On r.shell ↔ m.On r := by
  cases m with
  | statement s h =>
    have hs : ∀ r, (statement s h).On r ↔ r.shell = s.shell := fun r => by cases r <;> rfl
    rw [hs, hs, shell_shell]
  | selector s name => cases r <;> rfl
  | registered name => cases r <;> rfl
  | layer name => cases r <;> rfl

theorem kept_shell_iff {r : Rule} : m.Kept unused r.shell ↔ m.Kept unused r := by
  refine and_congr on_shell_iff ?_
  cases m <;> cases r <;> rfl

/-! ## Marks on style rules -/

theorem on_toRule_iff {s : Selector} {name : Option String} {t : Style} :
    (selector s name).On t.toRule ↔ Spells t.selectors s ∧ t.block.Declares name := Iff.rfl

/-- A mark on a style rule is that of a selector. -/
theorem exists_selector_of_on {t : Style} (h : m.On t.toRule) : ∃ s name, m = selector s name := by
  cases m with
  | selector s name => exact ⟨s, name, rfl⟩
  | registered name => exact h.elim
  | layer name => exact h.elim
  | statement s hs => exact absurd (isStatement_of_on h) Bool.false_ne_true

/-- Merging two style rules puts no mark on the result that neither had. -/
theorem on_of_merge {last new : Style} {k : Style.Merger}
    (hk : last.mergeInto? goal new = some k) (h : m.On k.kept.toRule) :
    m.On last.toRule ∨ m.On new.toRule := by
  obtain ⟨s, name, rfl⟩ := exists_selector_of_on h
  simp only [on_toRule_iff] at h ⊢
  obtain ⟨-, -, -, ⟨hs, hss, hb⟩ | ⟨hb, hbb, hss⟩⟩ := Style.mergeInto?_cases hk
  · rw [hss, hb, Block.declares_normalize_iff, Block.declares_append_iff] at h
    obtain ⟨hsel, hdecl, -⟩ := h
    exact hdecl.imp (⟨hsel, ·⟩)
      (⟨hsel.of_forall₂ (forall₂_same_symm (forall₂_same_of_beq hs)), ·⟩)
  · rw [hbb] at h
    rcases hss with ⟨-, hss⟩ | hss
    · rw [hss] at h
      exact .inl h
    · rw [hss] at h
      exact h.1.of_append.imp (⟨·, h.2⟩) (⟨·, (Block.declares_iff_of_beq hb).2 h.2⟩)

/-- **Normalising invents no marks.** -/
theorem traced (m : Mark) : Traced unused m.On where
  shell _ h hs := by rwa [← on_shell_iff, ← hs, on_shell_iff]
  removed h := absurd h (not_on rfl)
  style {goal ss block rules rules' q q'} hu _ h := by
    obtain ⟨s, name, rfl⟩ := exists_selector_of_on (t := ⟨ss, _, rules', q'⟩) h
    exact ⟨h.1, (Goal.declares_body hu h.2).2.1⟩
  nesting h := absurd h (not_on rfl)
  declarations h := absurd h (not_on rfl)
  merge := on_of_merge
  keyframes h := absurd h (not_on rfl)
  declared {names n} hn h := by
    obtain rfl := eq_layer_of_on h
    exact hn
  settled {n} h := by
    obtain ⟨k, hk, rfl⟩ := exists_layer_of_on h
    exact congrArg some (List.mem_singleton.1 hk).symm
  extended {names n} h := by
    obtain ⟨k, hk, rfl⟩ := exists_layer_of_on h
    rcases List.mem_append.1 hk with hk | hk
    · exact .inl hk
    · exact .inr (congrArg some (List.mem_singleton.1 hk).symm)

/-- A registration in normal form is one that was there, not only one of the same name. -/
theorem traced_registered (p : Registered) : Traced unused (· = .registered p) where
  shell {r r'} _ h hs := by
    subst h
    cases r' <;> first | exact hs.symm | cases hs
  removed := nofun
  style _ _ := nofun
  nesting := nofun
  declarations := nofun
  merge _ := nofun
  keyframes := nofun
  declared _ := nofun
  settled := nofun
  extended := nofun

/-! ## Marks that are kept -/

theorem kept_toRule_iff {s : Selector} {name : Option String} {t : Style} :
    (selector s name).Kept unused t.toRule ↔
      (Spells t.selectors s ∧ t.block.Declares name) ∧
        ({ unused } : Goal).isUnused false t.selectors = false ∧
          ({ unused } : Goal).leaves name = true := Iff.rfl

/-- What the merger of two style rules keeps of the marks of both. -/
theorem kept_merge (hu : goal.unused = unused) {last new : Style} {k : Style.Merger}
    (hk : last.mergeInto? goal new = some k)
    (h : m.Kept unused last.toRule ∨ m.Kept unused new.toRule) : m.Kept unused k.kept.toRule := by
  obtain ⟨s, name, rfl⟩ : ∃ s name, m = selector s name := by
    rcases h with h | h <;> exact exists_selector_of_on h.1
  have hleaves : ({ unused } : Goal).leaves name = true := by
    rcases h with h | h <;> exact h.2.2
  simp only [kept_toRule_iff] at h ⊢
  obtain ⟨-, -, -, ⟨hs, hss, hb⟩ | ⟨hb, hbb, hss⟩⟩ := Style.mergeInto?_cases hk
  · rw [hss, hb, Block.declares_normalize_iff, Block.declares_append_iff,
      Goal.leaves_eq hu]
    have hsame := forall₂_same_of_beq hs
    rcases h with ⟨⟨hsel, hdecl⟩, huse, -⟩ | ⟨⟨hsel, hdecl⟩, huse, -⟩
    · exact ⟨⟨hsel, .inl hdecl, hleaves⟩, huse, hleaves⟩
    · exact ⟨⟨hsel.of_forall₂ hsame, .inr hdecl, hleaves⟩,
        (Goal.isUnused_eq_of_forall₂ hsame).symm.trans huse, hleaves⟩
  · have hdecl : k.kept.block.Declares name := by
      rw [hbb]
      rcases h with ⟨⟨-, hdecl⟩, -⟩ | ⟨⟨-, hdecl⟩, -⟩
      · exact hdecl
      · exact (Block.declares_iff_of_beq hb).1 hdecl
    rcases hss with ⟨he, hss⟩ | hss
    · rw [hss]
      have hsame := forall₂_same_of_isEquivalentList he
      rcases h with ⟨⟨hsel, -⟩, huse, -⟩ | ⟨⟨hsel, -⟩, huse, -⟩
      · exact ⟨⟨hsel, hdecl⟩, huse, hleaves⟩
      · exact ⟨⟨hsel.of_forall₂ hsame, hdecl⟩, (Goal.isUnused_eq_of_forall₂ hsame).symm.trans huse,
          hleaves⟩
    · rw [hss]
      rcases h with ⟨⟨hsel, -⟩, huse, -⟩ | ⟨⟨hsel, -⟩, huse, -⟩
      · exact ⟨⟨hsel.append_left, hdecl⟩, Goal.isUnused_append (.inl huse), hleaves⟩
      · exact ⟨⟨hsel.append_right, hdecl⟩, Goal.isUnused_append (.inr huse), hleaves⟩

/-- **Normalising keeps the marks that unused names do not take away.** -/
theorem lasting (m : Mark) (unused : NameSet) : Lasting unused (m.Kept unused) where
  shell _ h hs := by rwa [← kept_shell_iff, ← hs, kept_shell_iff]
  conditional {r} h := by
    by_contra hc
    exact not_on (by cases r <;> first | rfl | exact absurd rfl hc) h.1
  unnamed h := not_on rfl h.1
  nesting h := not_on rfl h.1
  declarations h := not_on rfl h.1
  keyframes h := absurd h.1 (not_on rfl)
  style {goal ss block rules rules' q q'} hu _ h := by
    obtain ⟨s, name, rfl⟩ := exists_selector_of_on (t := ⟨ss, block, rules, q⟩) h.1
    rw [Goal.isUnused_eq hu, h.2.1]
    refine ⟨rfl, ⟨h.1.1, Block.declares_normalize_iff.2 ⟨h.1.2, ?_⟩⟩, h.2⟩
    exact (Goal.leaves_eq hu name).trans h.2.2
  nonempty {t} h := by
    obtain ⟨s, name, rfl⟩ := exists_selector_of_on h.1
    obtain ⟨hs, hd⟩ := on_toRule_iff.1 h.1
    simp [Style.isEmpty, hs.ne_nil, Block.isEmpty_eq_false_of_declares hd]
  merge hu hk h := kept_merge hu hk h
  key {s t} _ _ h ht := by
    obtain ⟨sel, name, rfl⟩ := exists_selector_of_on ht.1
    obtain ⟨⟨hsel, hdecl⟩, huse, hleaves⟩ := kept_toRule_iff.1 ht
    exact kept_toRule_iff.2 ⟨⟨hsel.of_forall₂ h.1,
      (Block.declares_iff_of_properties h.2).1 hdecl⟩,
      (Goal.isUnused_eq_of_forall₂ h.1).symm.trans huse, hleaves⟩
  named h := by
    obtain ⟨n, hn, rfl⟩ := exists_layer_of_on h.1
    exact ⟨n, hn, rfl, trivial⟩
  declared hn h := by
    obtain rfl := eq_layer_of_on h.1
    exact ⟨hn, trivial⟩
  imported hi h := by
    obtain rfl := eq_layer_of_on h.1
    exact ⟨hi, trivial⟩
  registered h := by
    obtain rfl := eq_registered_of_on h.1
    exact h.2
  replaced hpq h := by
    obtain rfl := eq_registered_of_on h.1
    exact ⟨hpq.symm, h.2⟩

end Mark

end StyleBuild.Css
