import StyleBuild.Proofs.Css.Normalized
import StyleBuild.Proofs.Css.Tidy

/-!
# Selectors of a normal form

A selector of a style rule of which something survives is kept, up to its spelling
(`lasting_upholds`), and a style rule in normal form has none but such (`dropped_shows`). So the
selectors of a normal form are those of the rules that survive (`has_selects_normalizeRules_iff`),
and with fewer unused names there are more of them.
-/

namespace StyleBuild.Css

variable {goal : Goal} {unused : NameSet} {path : List Frame} {s : Selector}

namespace Rule

/-- A style rule has some spelling of a selector. -/
def Selects (s : Selector) : Rule → Prop
  | .style ss _ _ _ => Spells ss s
  | _ => False

/-- A style rule with a selector declares something, or something survives of the rules in it. -/
def Shows (unused : NameSet) (s : Selector) : Rule → Prop
  | .style ss block rules _ => Spells ss s ∧ ((∃ name, block.Declares name) ∨
    SurvivesIn unused (({ unused } : Goal).isUnused false ss) rules)
  | _ => False

/-- A style rule with a selector survives. -/
def Upholds (unused : NameSet) (s : Selector) (r : Rule) : Prop :=
  r.Selects s ∧ r.Survives unused false

variable {r : Rule}

theorem Upholds.shows (h : r.Upholds unused s) : r.Shows unused s := by
  obtain ⟨hs, hsurvives⟩ := h
  cases r
  case style ss block rules q =>
    obtain ⟨-, ⟨-, name, hd, -⟩ | ⟨-, hrules⟩⟩ := hsurvives
    · exact ⟨hs, .inl ⟨name, hd⟩⟩
    · exact ⟨hs, .inr hrules⟩
  all_goals exact hs.elim

theorem Shows.selects (h : r.Shows unused s) : r.Selects s := by
  cases r <;> first | exact h.1 | exact h.elim

theorem Selects.isStyle_eq (h : r.Selects s) : r.isStyle = true := by
  cases r <;> first | rfl | exact h.elim

/-- With fewer unused names more selectors are upheld. -/
theorem Upholds.of_more {more : NameSet} (h : ∀ n ∈ unused, n ∈ more) (hr : r.Upholds more s) :
    r.Upholds unused s :=
  ⟨hr.1, Survives.of_more h r id hr.2⟩

end Rule

theorem spells_of_merge {last new : Style} {m : Style.Merger}
    (hm : last.mergeInto? goal new = some m)
    (h : Spells last.selectors s ∨ Spells new.selectors s) : Spells m.kept.selectors s := by
  obtain ⟨-, -, -, ⟨hs, hss, -⟩ | ⟨-, -, ⟨he, hss⟩ | hss⟩⟩ := Style.mergeInto?_cases hm
  · exact hss ▸ h.elim id (.of_forall₂ (forall₂_same_of_beq hs))
  · exact hss ▸ h.elim id (.of_forall₂ (forall₂_same_of_isEquivalentList he))
  · exact hss ▸ h.elim .append_left .append_right

/-- Normalising invents no selectors for what is declared or survives. -/
theorem traced_shows (unused : NameSet) (s : Selector) : Traced unused (Rule.Shows unused s) where
  shell hstyle h := by
    rw [h.selects.isStyle_eq] at hstyle
    cases hstyle
  removed := id
  style {goal ss block rules rules' q q'} hu hrules h := by
    obtain ⟨hs, ⟨name, hd⟩ | hsurvives⟩ := h
    · exact ⟨hs, .inl ⟨name, (Goal.declares_body hu hd).2.1⟩⟩
    · rw [Goal.isUnused_eq hu] at hrules
      exact ⟨hs, .inr (hrules.1 hsurvives)⟩
  nesting := id
  declarations := id
  merge {goal last new m} hm h := by
    obtain ⟨hs, hd | hrules⟩ := h
    · obtain ⟨name, hd⟩ := hd
      have h : (Mark.selector s name).On m.kept.toRule := ⟨hs, hd⟩
      exact (Mark.on_of_merge hm h).imp (And.imp_right fun hd => .inl ⟨name, hd⟩)
        (And.imp_right fun hd => .inl ⟨name, hd⟩)
    · obtain ⟨-, -, hflat, -⟩ := Style.mergeInto?_cases hm
      rw [hflat] at hrules
      exact hrules.elim
  keyframes := id
  declared _ := id
  settled := id
  extended := False.elim

/-- **Normalising drops the selectors of rules that do not survive.** -/
theorem dropped_shows (unused : NameSet) (s : Selector) :
    Dropped unused (Rule.Shows unused s) (Rule.Upholds unused s) where
  traced := traced_shows unused s
  weaken := Rule.Upholds.shows
  style {goal ss block rules rules' q q'} hu hrules h := by
    obtain ⟨hs, ⟨name, hd⟩ | hsurvives⟩ := h
    · obtain ⟨hg, hd, hl⟩ := Goal.declares_body hu hd
      rw [Goal.isUnused_eq hu] at hg
      exact ⟨hs, rfl, .inl ⟨inUse_iff.2 ⟨hs.ne_nil, hg⟩, name, hd, hl⟩⟩
    · rw [Goal.isUnused_eq hu] at hrules
      exact ⟨hs, rfl, .inr ⟨hs.ne_nil, hrules.1 hsurvives⟩⟩
  registered _ := False.elim
  media _ := False.elim
  spared {r} hspared h := by
    cases r <;> first
      | exact absurd hspared Bool.false_ne_true
      | exact h.elim

/-- **Normalising keeps the selectors of rules that survive.** -/
theorem lasting_upholds (unused : NameSet) (s : Selector) :
    Lasting unused (Rule.Upholds unused s) where
  shell hstyle h := by
    rw [h.1.isStyle_eq] at hstyle
    cases hstyle
  conditional {r} h := by
    cases r <;> first
      | rfl
      | exact h.1.elim
  unnamed h := h.1
  nesting h := h.1
  declarations h := h.1
  keyframes h := h.1.elim
  style {goal ss block rules rules' q q'} hu hrules h := by
    obtain ⟨hs, hsurvives⟩ := h
    have hrules' := hrules
    rw [Goal.isUnused_eq hu] at hrules'
    refine ⟨?_, hs, (survives_body_iff hu hrules').2 hsurvives⟩
    rw [Bool.and_eq_false_iff, Goal.isUnused_eq hu]
    obtain ⟨-, ⟨huse, -⟩ | ⟨-, hinner⟩⟩ := hsurvives
    · exact .inl (inUse_iff.1 huse).2
    · exact .inr (List.isEmpty_eq_false_iff.2 (hrules'.2 hinner).ne_nil)
  nonempty h := Style.isEmpty_eq_false_of_survives h.2
  merge hu hm h :=
    ⟨spells_of_merge hm (h.imp And.left And.left),
      (survives_merge_iff hu hm).2 (h.imp And.right And.right)⟩
  key _ hs hsame h := ⟨Spells.of_forall₂ hsame.1 h.1, hs⟩
  named h := h.1.elim
  declared _ h := h.1.elim
  imported _ h := h.1.elim
  registered h := h.1.elim
  replaced _ h := h.1.elim

/-! ## Selectors of tidy rules -/

theorem Rule.isUnusedInside_eq_false {r : Rule} {f : Frame} {rules : List Rule}
    (h : r.inside? = some (f, rules)) (hf : f.isNested = false) :
    r.isUnusedInside unused false = false := by
  cases r <;> cases h <;> first
    | rfl
    | cases hf

/-- What stands in a tidy list outside of style rules, at a settled place, is tidy. -/
theorem Has.tidy {P : Rule → Prop} {rules : List Rule} (hrules : TidyIn unused false rules)
    (hset : IsSettled path) (hn : ∀ f ∈ path, f.isNested = false)
    (hP : ∀ r, P r → r.isUnnamedLayer = false) (h : Has P path rules) :
    Has (fun r => P r ∧ Tidy unused false r) path rules := by
  induction path generalizing rules with
  | nil =>
    obtain ⟨r, hr, h⟩ := h
    exact ⟨r, hr, h, hrules r hr (.inl (hP r h))⟩
  | cons f path ih =>
    obtain ⟨hf, hn⟩ := List.forall_mem_cons.1 hn
    obtain ⟨r, hr, g, inner, hin, hs, h⟩ := h
    have hunnamed : r.isUnnamedLayer = false := by
      have hg : g.isSettled = true := hs.isSettled_eq.trans (hset f List.mem_cons_self)
      cases r <;> cases hin <;> try rfl
      next name =>
        cases name with
        | none => cases hg
        | some n => rfl
    have htidy := (hrules r hr (.inl hunnamed)).inside hin
    rw [Rule.isUnusedInside_eq_false hin (hs.isNested_eq.trans hf)] at htidy
    exact ⟨r, hr, g, inner, hin, hs, ih htidy hset.tail hn h⟩

theorem Rule.Selects.shows {r : Rule} (h : r.Selects s) (ht : Tidy unused false r) :
    r.Shows unused s := Rule.Upholds.shows ⟨h, ht.survives⟩

/-- **The selectors of a normal form** at a settled place outside of style rules are those of the
rules there of which something survives. -/
theorem has_selects_normalizeRules_iff (ht : goal.targets = none) (hlive : IsLive path)
    (hset : IsSettled path) {rules : List Rule} :
    Has (Rule.Selects s) path (normalizeRules goal rules) ↔
      Has (Rule.Upholds goal.unused s) path rules := by
  constructor
  · intro h
    have hunnamed : ∀ r : Rule, r.Selects s → r.isUnnamedLayer = false := by
      intro r hr
      cases r <;> first | rfl | exact hr.elim
    have hn : ∀ f ∈ path, f.isNested = false := by
      intro f hf
      have hf := hlive f hf
      cases f <;> first | rfl | cases hf
    refine (dropped_shows goal.unused s).has_of_normalizeRules ht rfl hset ?_
    exact (h.tidy (tidy_normalizeRules ht rules) hset hn hunnamed).mono fun h => h.1.shows h.2
  · intro h
    have h := (lasting_upholds goal.unused s).normalizeTo (rulesDepth rules) goal ht rfl rules path
      hlive h
    exact h.mono And.left

end StyleBuild.Css
