import StyleBuild.Proofs.Pipeline.Composed

/-!
# When pipelines can be composed

A registry is what registrations in order make of it, and the last registration of a kind counts
(`Registry.get?_ofList_eq_some_iff`). Composing makes the stages in order (`bindStages_eq_ok`) and
stops at the first one that cannot be made (`bindStages_eq_error_iff`); `compose_ofList` puts the
two together.
-/

namespace StyleBuild

/-! ## Registrations -/

namespace Registry

/-- The registry that registrations make, in order. -/
def ofList (rs : List (String × StageMaker)) : Registry :=
  rs.foldl (fun r (kind, make) => r.register kind make) ⟨default⟩

/-- The last registration of a kind says how its stages are made. -/
def IsLast (rs : List (String × StageMaker)) (kind : String) (make : StageMaker) : Prop :=
  ∃ before behind, rs = before ++ (kind, make) :: behind ∧ kind ∉ behind.map Prod.fst

variable {rs : List (String × StageMaker)} {kind : String} {make : StageMaker}

theorem not_isLast_nil : ¬ IsLast [] kind make := by
  rintro ⟨before, behind, h, -⟩
  simp at h

theorem isLast_append_singleton {last : String × StageMaker} :
    IsLast (rs ++ [last]) kind make ↔
      if kind = last.1 then make = last.2 else IsLast rs kind make := by
  obtain ⟨k, m⟩ := last
  constructor
  · rintro ⟨before, behind, h, hk⟩
    rcases List.eq_nil_or_concat behind with rfl | ⟨behind, x, rfl⟩
    · obtain ⟨-, h⟩ := List.append_inj' h rfl
      obtain ⟨rfl, rfl⟩ : k = kind ∧ m = make := by simpa using h
      simp
    · have h' : rs ++ [(k, m)] = (before ++ (kind, make) :: behind) ++ [x] := by simpa using h
      obtain ⟨rfl, hx⟩ := List.append_inj' h' rfl
      obtain rfl : (k, m) = x := by simpa using hx
      obtain ⟨hk, hne⟩ : kind ∉ behind.map Prod.fst ∧ kind ≠ k := by simpa using hk
      rw [if_neg hne]
      exact ⟨before, behind, rfl, hk⟩
  · split
    · next h =>
      rintro rfl
      exact ⟨rs, [], by rw [h], by simp⟩
    · next h =>
      rintro ⟨before, behind, rfl, hk⟩
      exact ⟨before, behind ++ [(k, m)], by simp, by simpa [h] using hk⟩

/-- **The last registration of a kind counts.** -/
theorem get?_ofList_eq_some_iff :
    (ofList rs).makers.get? kind = some make ↔ IsLast rs kind make := by
  induction rs using List.reverseRecOn with
  | nil =>
    have hnone : (ofList []).makers.get? kind = none := rfl
    simp [not_isLast_nil, hnone]
  | append_singleton rs last ih =>
    have hr : ofList (rs ++ [last]) = (ofList rs).register last.1 last.2 := by
      simp [ofList]
    rw [isLast_append_singleton, hr, register, Ordered.get?_insert]
    split
    · simp [eq_comm]
    · exact ih

theorem exists_isLast_iff : (∃ make, IsLast rs kind make) ↔ kind ∈ rs.map Prod.fst := by
  induction rs using List.reverseRecOn with
  | nil => simp [not_isLast_nil]
  | append_singleton rs last ih =>
    simp only [isLast_append_singleton, List.map_append, List.mem_append, ← ih, List.map_cons,
      List.map_nil, List.mem_singleton]
    by_cases h : kind = last.1 <;> simp [h]

theorem get?_ofList_eq_none_iff :
    (ofList rs).makers.get? kind = none ↔ kind ∉ rs.map Prod.fst := by
  rw [← exists_isLast_iff, Option.eq_none_iff_forall_ne_some, not_exists]
  simp only [ne_eq, get?_ofList_eq_some_iff]

end Registry

/-! ## Stages -/

namespace Pipeline

open Registry

variable {rs : List (String × StageMaker)} {theme : Option Theme} {r : Registry} {n : Nat}

/-- A stage can be made: its kind is registered, and the last registration accepts its options. -/
def Accepts (rs : List (String × StageMaker)) (theme : Option Theme) (spec : StageSpec) : Prop :=
  ∃ make t, IsLast rs spec.kind make ∧ make spec.options theme = .ok t

/-- Why the stage at a place cannot be made: its kind is not registered, or the last registration
refuses its options. -/
def Refuses (rs : List (String × StageMaker)) (theme : Option Theme) (i : Nat) (spec : StageSpec)
    (e : BuildError) : Prop :=
  (spec.kind ∉ rs.map Prod.fst ∧ e = .unknownKind i spec.kind) ∨
    ∃ make f, IsLast rs spec.kind make ∧ make spec.options theme = .error f ∧
      e = .invalidOptions i spec.kind f

theorem bindStage_eq_ok_iff {spec : StageSpec} {s : BoundStage} :
    bindStage (ofList rs) theme n spec = .ok s ↔
      ∃ make t, IsLast rs spec.kind make ∧ make spec.options theme = .ok t ∧
        s = ⟨n, spec.kind, spec.name.getD spec.kind, t⟩ := by
  simp only [← get?_ofList_eq_some_iff, bindStage, Registry.bind]
  cases (ofList rs).makers.get? spec.kind with
  | none => simp
  | some make =>
    cases h : make spec.options theme with
    | error f => simp [h]
    | ok t => simp [h, StageSpec.label, eq_comm]

theorem exists_bindStage_eq_ok_iff {spec : StageSpec} :
    (∃ s, bindStage (ofList rs) theme n spec = .ok s) ↔ Accepts rs theme spec := by
  simp only [bindStage_eq_ok_iff, Accepts]
  exact ⟨fun ⟨_, make, t, hm, ht, _⟩ => ⟨make, t, hm, ht⟩,
    fun ⟨make, t, hm, ht⟩ => ⟨_, make, t, hm, ht, rfl⟩⟩

theorem bindStage_eq_error_iff {spec : StageSpec} {e : BuildError} :
    bindStage (ofList rs) theme n spec = .error e ↔ Refuses rs theme n spec e := by
  simp only [Refuses, ← get?_ofList_eq_some_iff, ← get?_ofList_eq_none_iff, bindStage,
    Registry.bind]
  cases (ofList rs).makers.get? spec.kind with
  | none => simp [eq_comm]
  | some make => cases h : make spec.options theme <;> simp [h, eq_comm]

/-- **Making stages fails at the first one that cannot be made**, whatever stands behind it. -/
theorem bindStages_eq_error_iff {specs : List StageSpec} {e : BuildError} :
    bindStages r theme n specs = .error e ↔
      ∃ i spec, specs[i]? = some spec ∧ bindStage r theme (n + i) spec = .error e ∧
        ∀ j earlier, j < i → specs[j]? = some earlier →
          ∃ s, bindStage r theme (n + j) earlier = .ok s := by
  induction specs generalizing n with
  | nil => simp [bindStages]
  | cons first specs ih =>
    have hcons : bindStages r theme n (first :: specs) =
        bindStage r theme n first >>= fun s =>
          bindStages r theme (n + 1) specs >>= fun rest => pure (s :: rest) := rfl
    rw [hcons]
    cases hs : bindStage r theme n first with
    | error e' =>
      constructor
      · intro h
        cases h
        exact ⟨0, first, rfl, hs, fun j earlier hj => absurd hj (Nat.not_lt_zero j)⟩
      · rintro ⟨i, spec, hi, he, hb⟩
        cases i with
        | zero =>
          cases hi
          cases hs.symm.trans he
          rfl
        | succ i =>
          obtain ⟨s, h⟩ := hb 0 first (Nat.zero_lt_succ i) rfl
          cases hs.symm.trans h
    | ok s =>
      have hrest : (bindStages r theme (n + 1) specs >>= fun rest => pure (s :: rest)) = .error e ↔
          bindStages r theme (n + 1) specs = .error e := by
        cases bindStages r theme (n + 1) specs with
        | error e' => rfl
        | ok rest => simp [Bind.bind, Except.bind, pure, Except.pure]
      have hplace (i : Nat) : n + 1 + i = n + (i + 1) := by omega
      refine (hrest.trans ih).trans ⟨?_, ?_⟩
      · rintro ⟨i, spec, hi, he, hb⟩
        refine ⟨i + 1, spec, hi, hplace i ▸ he, fun j earlier hj hje => ?_⟩
        cases j with
        | zero =>
          cases hje
          exact ⟨s, hs⟩
        | succ j => exact hplace j ▸ hb j earlier (by omega) hje
      · rintro ⟨i, spec, hi, he, hb⟩
        cases i with
        | zero =>
          cases hi
          cases hs.symm.trans he
        | succ i =>
          exact ⟨i, spec, hi, (hplace i).symm ▸ he, fun j earlier hj hje =>
            (hplace j).symm ▸ hb (j + 1) earlier (by omega) hje⟩

/-! ## The whole -/

theorem compose_eq_error_iff {c : Config} {e : BuildError} :
    compose c r = .error e ↔
      (c.stages = [] ∧ e = .noStages) ∨ bindStages r c.theme 0 c.stages = .error e := by
  by_cases h : c.stages = []
  · simp [compose, h, bindStages, eq_comm]
  · rw [compose, if_neg (by simpa using h)]
    cases bindStages r c.theme 0 c.stages <;> simp [h, Except.map]

/-- **When a pipeline can be composed, and what it is then.** The stages are those of the
configuration in order, each in its place, with its kind and label and as the last registration of
its kind makes it. Otherwise there are no stages, or the first one that cannot be made is the
error. -/
theorem compose_ofList (rs : List (String × StageMaker)) (c : Config) :
    ((∃ p, compose c (ofList rs) = .ok p) ↔
      c.stages ≠ [] ∧ ∀ spec ∈ c.stages, Accepts rs c.theme spec) ∧
    (∀ p, compose c (ofList rs) = .ok p →
      p.name = c.name ∧ p.baseDir = c.baseDir.getD "." ∧ p.stages.length = c.stages.length ∧
      ∀ (i : Nat) (spec : StageSpec), c.stages[i]? = some spec →
        ∃ make t, IsLast rs spec.kind make ∧ make spec.options c.theme = .ok t ∧
          p.stages[i]? = some ⟨i, spec.kind, spec.name.getD spec.kind, t⟩) ∧
    ∀ e, compose c (ofList rs) = .error e ↔
      (c.stages = [] ∧ e = .noStages) ∨
      ∃ (i : Nat) (spec : StageSpec), c.stages[i]? = some spec ∧ Refuses rs c.theme i spec e ∧
        ∀ (j : Nat) earlier, j < i → c.stages[j]? = some earlier → Accepts rs c.theme earlier := by
  have herror (e : BuildError) : compose c (ofList rs) = .error e ↔
      (c.stages = [] ∧ e = .noStages) ∨
      ∃ (i : Nat) (spec : StageSpec), c.stages[i]? = some spec ∧ Refuses rs c.theme i spec e ∧
        ∀ (j : Nat) earlier, j < i → c.stages[j]? = some earlier →
          Accepts rs c.theme earlier := by
    rw [compose_eq_error_iff, bindStages_eq_error_iff]
    simp only [exists_bindStage_eq_ok_iff, bindStage_eq_error_iff, Nat.zero_add]
  refine ⟨⟨?_, ?_⟩, fun p hp => ?_, herror⟩
  · rintro ⟨p, hp⟩
    refine ⟨(compose_eq_ok hp).1, fun spec hspec => ?_⟩
    obtain ⟨i, hi⟩ := List.getElem?_of_mem hspec
    obtain ⟨s, -, hb⟩ := (bindStages_eq_ok (bindStages_of_compose hp)).2 i spec hi
    exact exists_bindStage_eq_ok_iff.1 ⟨s, hb⟩
  · rintro ⟨hne, hall⟩
    cases hp : compose c (ofList rs) with
    | ok p => exact ⟨p, rfl⟩
    | error e =>
      rcases (herror e).1 hp with ⟨h, -⟩ | ⟨i, spec, hi, hfault, -⟩
      · exact absurd h hne
      · obtain ⟨s, hs⟩ := exists_bindStage_eq_ok_iff.2 (hall spec (List.mem_of_getElem? hi))
        cases hs.symm.trans (bindStage_eq_error_iff.2 hfault)
  · obtain ⟨-, hname, hbase, -⟩ := compose_eq_ok hp
    obtain ⟨hl, hmade⟩ := bindStages_eq_ok (bindStages_of_compose hp)
    refine ⟨hname, hbase, hl, fun i spec hi => ?_⟩
    obtain ⟨s, hs, hb⟩ := hmade i spec hi
    obtain ⟨make, t, hm, ht, rfl⟩ := bindStage_eq_ok_iff.1 hb
    exact ⟨make, t, hm, ht, by simpa using hs⟩

end Pipeline

end StyleBuild
