import StyleBuild.Css.Rule.Parser
import StyleBuild.Proofs.Css.Places
import StyleBuild.Proofs.Except

/-!
# What is read inside of style rules

Keyframes, font faces, pages, registrations, imports and the declaration of layers have no place
inside of a style rule, at any depth. In what is read as a sheet they stand outside of style rules
(`isNested_of_has_readRules`).
-/

namespace StyleBuild.Css

namespace Rule

/-- Whether a rule may stand inside of a style rule. -/
def isNestable : Rule → Bool
  | .keyframes _ _ _ | .fontFace _ | .page _ | .registered _ | .import_ _ | .layerNames _
  | .removed => false
  | _ => true

/-- A rule and all rules in it may stand inside of a style rule. -/
def IsInner (r : Rule) : Prop := ∀ path, ¬ r.Holds (·.isNestable = false) path

/-- What may not stand inside of a style rule stands outside of such in a rule. -/
def IsOuter (r : Rule) : Prop :=
  ∀ path, r.Holds (·.isNestable = false) path → ∀ f ∈ path, f.isNested = false

variable {r : Rule} {f : Frame} {rules : List Rule}

theorem isInner_of_inside_none (h : r.inside? = none) (hr : r.isNestable = true) : r.IsInner := by
  rintro (_ | ⟨f, path⟩) hp
  · exact Bool.false_ne_true (Eq.trans (Eq.symm hp) hr)
  · exact not_holds_cons_of_inside_none h hp

theorem isOuter_of_inside_none (h : r.inside? = none) : r.IsOuter := by
  rintro (_ | ⟨f, path⟩) hp
  · exact List.forall_mem_nil _
  · exact absurd hp (not_holds_cons_of_inside_none h)

theorem isInner_of_inside (h : r.inside? = some (f, rules)) (hr : r.isNestable = true)
    (hrules : ∀ s ∈ rules, s.IsInner) : r.IsInner := by
  rintro (_ | ⟨g, path⟩) hp
  · exact Bool.false_ne_true (Eq.trans (Eq.symm hp) hr)
  · obtain ⟨-, s, hs, hp⟩ := (holds_cons_of_inside h).1 hp
    exact hrules s hs path hp

theorem isOuter_of_inside (h : r.inside? = some (f, rules)) (hf : f.isNested = false)
    (hrules : ∀ s ∈ rules, s.IsOuter) : r.IsOuter := by
  rintro (_ | ⟨g, path⟩) hp
  · exact List.forall_mem_nil _
  · obtain ⟨hg, s, hs, hp⟩ := (holds_cons_of_inside h).1 hp
    exact List.forall_mem_cons.2 ⟨hg.isNested_eq ▸ hf, hrules s hs path hp⟩

theorem IsInner.isOuter (h : r.IsInner) : r.IsOuter := fun path hp => absurd hp (h path)

end Rule

/-! ## At-rules -/

theorem isNestable_of_readAtRule {name : String} {cs : Components} {head : AtHead}
    (h : readAtRule .style name cs = .ok head) : head.isNestable = true := by
  obtain ⟨⟨head', rest⟩, -, h⟩ := exists_of_bind_eq_ok h
  dsimp only at h
  split at h
  · cases h
  · next hhead =>
    obtain ⟨_, -, h⟩ := exists_of_bind_eq_ok h
    cases h
    simpa using hhead

section AtRules

variable {body : Components} {rules : Unit → Except SyntaxError (List Rule)}
  {style : Unit → Except SyntaxError (Block × List Rule)} {head : AtHead} {r : Rule}

theorem forall_mem_looseFirst {rs : List Rule} (h : ∀ s ∈ rs, s.IsInner) (b : Block) :
    ∀ s ∈ looseFirst b rs, s.IsInner := by
  unfold looseFirst
  split
  · exact h
  · exact List.forall_mem_cons.2 ⟨Rule.isInner_of_inside_none rfl rfl, h⟩

/-- An at-rule that is read inside of a style rule may stand there with all that is in it. -/
theorem isInner_of_withBlock (hhead : head.isNestable = true)
    (hstyle : ∀ b rs, style () = .ok (b, rs) → ∀ s ∈ rs, s.IsInner)
    (h : head.withBlock .style body rules style = .ok r) : r.IsInner := by
  have hinside : ∀ {make : List Rule → Rule} {f : Frame},
      (∀ rs, (make rs).inside? = some (f, rs) ∧ (make rs).isNestable = true) →
      ((style ()).map fun p => looseFirst p.1 p.2).map make = .ok r → r.IsInner := by
    intro make f hmake h
    obtain ⟨rs, hrs, rfl⟩ := exists_of_map_eq_ok h
    obtain ⟨⟨b, inner⟩, hinner, rfl⟩ := exists_of_map_eq_ok hrs
    exact Rule.isInner_of_inside (hmake _).1 (hmake _).2
      (forall_mem_looseFirst (hstyle b inner hinner) b)
  cases head
  case layer names =>
    match names, h with
    | [], h => exact hinside (fun _ => ⟨rfl, rfl⟩) h
    | [n], h => exact hinside (fun _ => ⟨rfl, rfl⟩) h
    | _ :: _ :: _, h => cases h
  case nest ss =>
    obtain ⟨⟨b, inner⟩, hinner, rfl⟩ := exists_of_map_eq_ok h
    exact Rule.isInner_of_inside rfl rfl (hstyle b inner hinner)
  case unknown n arguments =>
    obtain ⟨b, -, rfl⟩ := exists_of_map_eq_ok h
    exact Rule.isInner_of_inside_none rfl rfl
  all_goals first
    | exact hinside (fun _ => ⟨rfl, rfl⟩) h
    | cases hhead

/-- An at-rule that is read outside of style rules. -/
theorem isOuter_of_withBlock {place : RulePlace} (hplace : place ≠ .style)
    (hrules : ∀ rs, rules () = .ok rs → ∀ s ∈ rs, s.IsOuter)
    (hstyle : ∀ b rs, style () = .ok (b, rs) → ∀ s ∈ rs, s.IsInner)
    (h : head.withBlock place body rules style = .ok r) : r.IsOuter := by
  have hinside : ∀ {make : List Rule → Rule} {f : Frame},
      (∀ rs, (make rs).inside? = some (f, rs)) → f.isNested = false →
      (rules ()).map make = .ok r → r.IsOuter := by
    intro make f hmake hf h
    obtain ⟨rs, hrs, rfl⟩ := exists_of_map_eq_ok h
    exact Rule.isOuter_of_inside (hmake _) hf (hrules rs hrs)
  unfold AtHead.withBlock at h
  simp only [if_neg hplace] at h
  cases head
  case layer names =>
    match names, h with
    | [], h => exact hinside (fun _ => rfl) rfl h
    | [n], h => exact hinside (fun _ => rfl) rfl h
    | _ :: _ :: _, h => cases h
  case nest ss =>
    obtain ⟨⟨b, inner⟩, hinner, rfl⟩ := exists_of_map_eq_ok h
    exact (Rule.isInner_of_inside rfl rfl (hstyle b inner hinner)).isOuter
  case keyframes n q =>
    cases h
    exact Rule.isOuter_of_inside_none rfl
  case fontFace =>
    cases h
    exact Rule.isOuter_of_inside_none rfl
  case import_ | charset => cases h
  case page | registered | unknown =>
    obtain ⟨b, -, rfl⟩ := exists_of_map_eq_ok h
    exact Rule.isOuter_of_inside_none rfl
  all_goals exact hinside (fun _ => rfl) rfl h

theorem isOuter_of_readAtStatement {place : RulePlace} {name : String} {cs : Components}
    {stop : Position} {o : Option Rule} (h : readAtStatement place name cs stop = .ok o) :
    ∀ r ∈ o, r.IsOuter := by
  obtain ⟨head, -, h⟩ := exists_of_bind_eq_ok h
  unfold AtHead.withoutBlock at h
  rintro r rfl
  split at h
  · cases h
    exact Rule.isOuter_of_inside_none rfl
  · cases h
  · split at h
    · cases h
    · cases h
      exact Rule.isOuter_of_inside_none rfl
  · cases h
    exact Rule.isOuter_of_inside_none rfl
  · cases h

theorem isInner_of_readAtStatement {name : String} {cs : Components} {stop : Position}
    {o : Option Rule} (h : readAtStatement .style name cs stop = .ok o) :
    ∀ r ∈ o, r.IsInner := by
  obtain ⟨head, hhead, h⟩ := exists_of_bind_eq_ok h
  have hhead := isNestable_of_readAtRule hhead
  unfold AtHead.withoutBlock at h
  rintro r rfl
  split at h
  · cases hhead
  · cases h
  · simp at h
  · cases h
    exact Rule.isInner_of_inside_none rfl rfl
  · cases h

end AtRules

theorem forall_mem_addDeclaration {rules : List Rule} (h : ∀ s ∈ rules, s.IsInner) (b : Block)
    (d : Declaration) (i : Bool) : ∀ s ∈ (addDeclaration b rules d i).2, s.IsInner := by
  have hnew : ∀ b, (Rule.declarations b).IsInner := fun b => Rule.isInner_of_inside_none rfl rfl
  unfold addDeclaration
  split
  · exact h
  · exact List.forall_mem_cons.2 ⟨hnew _, (List.forall_mem_cons.1 h).2⟩
  · exact List.forall_mem_cons.2 ⟨hnew _, h⟩

/-! ## Rules -/

theorem forall_mem_toList_append {Q : Rule → Prop} {o : Option Rule} {rules : List Rule}
    (ho : ∀ r ∈ o, Q r) (h : ∀ r ∈ rules, Q r) : ∀ r ∈ o.toList ++ rules, Q r := by
  intro r hr
  rcases List.mem_append.1 hr with hr | hr
  · exact ho r (Option.mem_toList.1 hr)
  · exact h r hr

theorem forall_mem_reverse {Q : Rule → Prop} {rules : List Rule} (h : ∀ r ∈ rules, Q r) :
    ∀ r ∈ rules.reverse, Q r :=
  fun r hr => h r (List.mem_reverse.1 hr)

mutual

theorem isOuter_of_rulesFrom : (cs : Components) → ∀ {top : Bool} {progress : Progress}
    {done : List Rule} {pending : Pending} {out : List Rule}, (∀ r ∈ done, r.IsOuter) →
    rulesFrom top progress done pending cs = .ok out → ∀ r ∈ out, r.IsOuter
  | .done stop => by
    intro hdone h
    unfold rulesFrom at h
    split at h
    · cases h
      exact forall_mem_reverse hdone
    · split at h
      · cases h
      · split at h
        · next r hr =>
          cases h
          exact forall_mem_reverse (List.forall_mem_cons.2
            ⟨isOuter_of_readAtStatement hr r rfl, hdone⟩)
        · cases h
          exact forall_mem_reverse hdone
        · cases h
    · cases h
  | .token t p rest => by
    intro hdone h
    unfold rulesFrom at h
    split at h
    · exact isOuter_of_rulesFrom rest hdone h
    · exact isOuter_of_rulesFrom rest hdone h
    · split at h
      · cases h
      · split at h
        · next r hr =>
          exact isOuter_of_rulesFrom rest
            (forall_mem_toList_append (isOuter_of_readAtStatement hr) hdone) h
        · cases h
    · split at h <;> exact isOuter_of_rulesFrom rest hdone h
    · exact isOuter_of_rulesFrom rest hdone h
  | .block b p body rest => by
    intro hdone h
    unfold rulesFrom at h
    split at h
    · split at h
      · split at h
        · cases h
        · split at h
          · cases h
          · split at h
            · next r hr =>
              refine isOuter_of_rulesFrom rest (List.forall_mem_cons.2 ⟨?_, hdone⟩) h
              refine isOuter_of_withBlock ?_ (fun rs hrs => ?_) (fun b rs hrs => ?_) hr
              · unfold RulePlace.ofTop
                split <;> exact nofun
              · exact isOuter_of_rulesFrom body (List.forall_mem_nil _) hrs
              · exact isInner_of_styleFrom body (List.forall_mem_nil _) hrs
            · cases h
      · extract_lets passed at h
        split at h
        · cases h
        · split at h
          · cases h
          · next hstyle =>
            refine isOuter_of_rulesFrom rest (List.forall_mem_cons.2 ⟨?_, hdone⟩) h
            refine (Rule.isInner_of_inside rfl rfl ?_).isOuter
            exact isInner_of_styleFrom body (List.forall_mem_nil _) hstyle
    · exact isOuter_of_rulesFrom rest hdone h

theorem isInner_of_styleFrom : (cs : Components) → ∀ {block : Block} {rules : List Rule}
    {pending : Pending} {out : Block × List Rule}, (∀ r ∈ rules, r.IsInner) →
    styleFrom block rules pending cs = .ok out → ∀ r ∈ out.2, r.IsInner
  | .done stop => by
    intro hrules h
    unfold styleFrom at h
    split at h
    · cases h
      exact forall_mem_reverse hrules
    · split at h
      · next r hr =>
        cases h
        exact forall_mem_reverse (forall_mem_toList_append (isInner_of_readAtStatement hr) hrules)
      · cases h
    · split at h
      · split at h
        · cases h
          exact forall_mem_reverse (forall_mem_addDeclaration hrules _ _ _)
        · cases h
      · cases h
  | .token t p rest => by
    intro hrules h
    unfold styleFrom at h
    split at h
    · exact isInner_of_styleFrom rest hrules h
    · exact isInner_of_styleFrom rest hrules h
    · exact isInner_of_styleFrom rest hrules h
    · split at h
      · next r hr =>
        exact isInner_of_styleFrom rest
          (forall_mem_toList_append (isInner_of_readAtStatement hr) hrules) h
      · cases h
    · split at h
      · split at h
        · exact isInner_of_styleFrom rest (forall_mem_addDeclaration hrules _ _ _) h
        · cases h
      · cases h
    · exact isInner_of_styleFrom rest hrules h
  | .block b p body rest => by
    intro hrules h
    unfold styleFrom at h
    split at h
    · split at h
      · split at h
        · cases h
        · next hhead =>
          split at h
          · next r hr =>
            refine isInner_of_styleFrom rest (List.forall_mem_cons.2 ⟨?_, hrules⟩) h
            refine isInner_of_withBlock (isNestable_of_readAtRule hhead) (fun b rs hrs => ?_) hr
            exact isInner_of_styleFrom body (List.forall_mem_nil _) hrs
          · cases h
      · extract_lets passed nested at h
        split at h
        · exact isInner_of_styleFrom rest hrules h
        · cases hnested : nested with
          | error e =>
            rw [hnested] at h
            dsimp only at h
            split at h
            · split at h <;> cases h
            · cases h
          | ok r =>
            rw [hnested] at h
            refine isInner_of_styleFrom rest (List.forall_mem_cons.2 ⟨?_, hrules⟩) h
            dsimp only [nested] at hnested
            split at hnested
            · cases hnested
            · split at hnested
              · cases hnested
              · next hstyle =>
                cases hnested
                refine Rule.isInner_of_inside rfl rfl ?_
                exact isInner_of_styleFrom body (List.forall_mem_nil _) hstyle
    · exact isInner_of_styleFrom rest hrules h

end

/-- **In a sheet what may not stand inside of a style rule stands outside.** -/
theorem isNested_of_has_readRules {cs : Components} {rules : List Rule}
    (h : readRules cs = .ok rules) {path : List Frame}
    (hhas : Has (·.isNestable = false) path rules) : ∀ f ∈ path, f.isNested = false := by
  obtain ⟨r, hr, hhas⟩ := hhas
  exact isOuter_of_rulesFrom _ (List.forall_mem_nil _) h r hr path hhas

end StyleBuild.Css
