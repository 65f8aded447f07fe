import StyleBuild.Proofs.Build.Fresh

/-!
# Builds one after the other

Builds of a pipeline may share a state. What a build returns, its status and the records of the
stages that it reaches are its own. The record of a stage that it does not reach is that of the last
earlier build which did reach the stage (`run_after`): skipping leaves alone what has reached its
end. So a build that fails may leave stages behind the failure as completed
(`run_after_keeps_completed`).

`left` says what builds leave of one stage; `getElem?_stateAfter` is the run lemma that ties it
to the state, from the step lemma `getElem?_stages_run`.
-/

namespace StyleBuild

open BuildState

namespace StageState

/-- What became of a stage, without times. -/
def timeless : StageState → StageState
  | .pending => .pending
  | .running _ => .running default
  | .completed bytesIn bytesOut _ _ => .completed bytesIn bytesOut default default
  | .failed error _ _ => .failed error default default
  | .skipped reason => .skipped reason

theorem skip_of_isTerminal {x : StageState} (h : x.isTerminal = true) (reason : String) :
    x.skip reason = x := by
  rw [skip, if_pos h]

/-- Whether a stage has been skipped. -/
def isSkipped : StageState → Bool
  | .skipped _ => true
  | _ => false

@[simp] theorem isSkipped_timeless (x : StageState) : x.timeless.isSkipped = x.isSkipped := by
  cases x <;> rfl

@[simp] theorem isCompleted_timeless (x : StageState) : x.timeless.isCompleted = x.isCompleted := by
  cases x <;> rfl

theorem isSkipped_iff {x : StageState} : x.isSkipped = true ↔ ∃ reason, x = .skipped reason := by
  cases x <;> simp [isSkipped]

end StageState

namespace Build

/-- What a build is given besides its pipeline. -/
structure Input where
  tree : FileTree := {}
  clock : Clock := {}
  source : String

/-- The state that builds of a pipeline leave, one after the other. -/
def stateAfter (p : Pipeline) (state : BuildState) (builds : List Input) : BuildState :=
  builds.foldl (fun state b => (run p b.tree b.clock b.source state).state) state

/-! ## What one build makes of a stage -/

/-- A build reaches a stage if no scan fails and the stages before it give a text. -/
def Reaches (p : Pipeline) (b : Input) (i : Nat) : Prop :=
  (∀ s ∈ p.stages, s.scans b.tree p.baseDir = true) ∧
    ∃ before, p.text b.tree b.source i = .ok before

/-- What becomes of a stage that runs on a text. -/
def verdict (p : Pipeline) (b : Input) (s : BoundStage) (before : String) : StageState :=
  match s.apply b.tree p.baseDir before with
  | .ok after => .completed before.utf8ByteSize after.utf8ByteSize
      (b.clock.stageStart s.index) (b.clock.stageFinish s.index)
  | .error e => .failed e.message (b.clock.stageStart s.index) (b.clock.stageFinish s.index)

/-- What becomes of the stage at a place in a build that reaches it. -/
def reached? (p : Pipeline) (b : Input) (i : Nat) : Option StageState :=
  if p.stages.all (BoundStage.scans b.tree p.baseDir) then
    match p.stages[i]?, p.text b.tree b.source i with
    | some s, .ok before => some (verdict p b s before)
    | _, _ => none
  else none

/-- The reason that a build gives for skipping stages. -/
def skipReason (p : Pipeline) (b : Input) : String :=
  match (run p b.tree b.clock b.source (.fresh default p)).result with
  | .error (.scan ..) => "content scan failed"
  | .error (.stage i ..) => "stage " ++ decimalText i ++ " failed"
  | _ => ""

variable {p : Pipeline} {b : Input} {i : Nat} {s : BoundStage}

theorem isTerminal_verdict (before : String) : (verdict p b s before).isTerminal = true := by
  rw [verdict]
  split <;> rfl

theorem isSkipped_verdict (before : String) : (verdict p b s before).isSkipped = false := by
  rw [verdict]
  split <;> rfl

theorem timeless_verdict (clock : Clock) (before : String) :
    (verdict p { b with clock } s before).timeless = (verdict p b s before).timeless := by
  simp only [verdict]
  split <;> rfl

theorem reached?_eq_some {x : StageState} (h : reached? p b i = some x) :
    ∃ s before, p.stages[i]? = some s ∧ p.text b.tree b.source i = .ok before ∧
      x = verdict p b s before := by
  unfold reached? at h
  split at h
  · split at h
    · next s before hs hb => exact ⟨s, before, hs, hb, by simpa using h.symm⟩
    · cases h
  · cases h

theorem isSome_reached?_iff (hs : p.stages[i]? = some s) :
    (reached? p b i).isSome = true ↔ Reaches p b i := by
  rw [reached?, Reaches, ← List.all_eq_true, hs]
  by_cases h : p.stages.all (BoundStage.scans b.tree p.baseDir) = true
  · rw [if_pos h]
    cases p.text b.tree b.source i <;> simp [h]
  · rw [if_neg h]
    simp [h]

theorem reached?_eq_none_iff (hs : p.stages[i]? = some s) :
    reached? p b i = none ↔ ¬ Reaches p b i := by
  rw [← isSome_reached?_iff hs]
  simp

/-- Before a stage that is not given a text, there is one that fails. -/
theorem exists_failed_of_text_eq_error {t : FileTree} {source : String} {e : TransformError}
    (h : p.text t source i = .error e) :
    ∃ k s before e, k < i ∧ p.stages[k]? = some s ∧ p.text t source k = .ok before ∧
      s.apply t p.baseDir before = .error e := by
  induction i generalizing e with
  | zero => cases h
  | succ i ih =>
    cases hb : p.text t source i with
    | error e =>
      obtain ⟨k, s, before, e, hk, hs⟩ := ih hb
      exact ⟨k, s, before, e, by omega, hs⟩
    | ok before =>
      cases hs : p.stages[i]? with
      | none =>
        -- behind the last stage the text does not change
        rw [Pipeline.text, List.take_add_one, hs, Option.toList_none, List.append_nil] at h
        cases hb.symm.trans h
      | some s =>
        rw [Pipeline.text_succ hs, hb] at h
        exact ⟨i, s, before, e, by omega, hs, hb, h⟩

theorem length_stages_run_of (hp : p.Composed) {state : BuildState} (b : Input)
    (hl : state.stages.length = p.stages.length) :
    (run p b.tree b.clock b.source state).state.stages.length = p.stages.length := by
  cases he : p.stages.findSome? (BoundStage.scanError? b.tree p.baseDir) with
  | some e => simpa [(run_of_scanError hp he).2.1, around] using hl
  | none => simpa [(run_of_scans hp he hl.ge).2.1, around] using hl

/-- **What a build makes of a record**: if the stage is reached, its verdict, and else what has not
reached its end is skipped. -/
theorem getElem?_stages_run (hp : p.Composed) {state : BuildState} (b : Input)
    (hl : state.stages.length = p.stages.length) {r : StageRecord} (hs : p.stages[i]? = some s)
    (hr : state.stages[i]? = some r) :
    (run p b.tree b.clock b.source state).state.stages[i]? =
      some (update (fun x => (reached? p b i).getD (x.skip (skipReason p b))) r) := by
  have hf := (length_stages_fresh default p).ge
  cases he : p.stages.findSome? (BoundStage.scanError? b.tree p.baseDir) with
  | some e =>
    have hnot : ¬ Reaches p b i := fun h => by
      rw [findSome?_scanError_eq_none_iff.2 h.1] at he
      cases he
    obtain ⟨s', hs', he'⟩ := List.exists_of_findSome?_eq_some he
    obtain ⟨fault, -, rfl⟩ := Option.map_eq_some_iff.1 he'
    rw [(run_of_scanError hp he).2.1, (reached?_eq_none_iff hs).2 hnot, skipReason,
      (run_of_scanError hp he).1]
    simp [around, hr]
  | none =>
    have hscans := findSome?_scanError_eq_none_iff.1 he
    rw [(run_of_scans hp he hl.ge).2.1]
    change (recordsAfter _ _ _ _ _ state.stages)[i]? = _
    cases hb : p.text b.tree b.source i with
    | ok before =>
      have hreached : reached? p b i = some (verdict p b s before) := by
        rw [reached?, if_pos (List.all_eq_true.2 hscans), hs, hb]
      simp only [hreached, Option.getD_some, verdict]
      cases ha : s.apply b.tree p.baseDir before with
      | ok after => exact getElem?_recordsAfter_of_ok b.clock hl hs hr hb ha
      | error e =>
        have h := congrArg (·[0]?) (drop_recordsAfter_of_error b.clock hl hs hr hb ha)
        simpa [failedRecord] using h
    | error e =>
      obtain ⟨k, s', before, e, hk, hs', hb', he'⟩ := exists_failed_of_text_eq_error hb
      have hnot : ¬ Reaches p b i := by
        rintro ⟨-, before, h⟩
        cases hb.symm.trans h
      have hreason : skipReason p b = "stage " ++ decimalText s'.index ++ " failed" := by
        rw [skipReason, (run_of_scans hp he hf).1, foldlM_attempt_of_error hs' hb' he']
      obtain ⟨r', hr'⟩ : ∃ r', state.stages[k]? = some r' :=
        ⟨_, List.getElem?_eq_getElem (by have := (List.getElem?_eq_some_iff.1 hs').1; omega)⟩
      have h := congrArg (·[i - k]?) (drop_recordsAfter_of_error b.clock hl hs' hr' hb' he')
      obtain ⟨j, rfl⟩ := Nat.exists_eq_add_of_lt hk
      simp only [List.getElem?_drop, show k + j + 1 - k = j + 1 by omega,
        List.getElem?_cons_succ, List.getElem?_map] at h
      rw [show k + (j + 1) = k + j + 1 by omega, show k + 1 + j = k + j + 1 by omega, hr] at h
      rw [h, (reached?_eq_none_iff hs).2 hnot, hreason]
      rfl

theorem result_run_congr (hp : p.Composed) {state state' : BuildState} (b : Input) (clock : Clock)
    (hl : p.stages.length ≤ state.stages.length) (hl' : p.stages.length ≤ state'.stages.length) :
    (run p b.tree b.clock b.source state).result =
      (run p b.tree clock b.source state').result := by
  cases he : p.stages.findSome? (BoundStage.scanError? b.tree p.baseDir) with
  | some e => rw [(run_of_scanError hp he).1, (run_of_scanError hp he).1]
  | none => rw [(run_of_scans hp he hl).1, (run_of_scans hp he hl').1]

theorem status_run (hp : p.Composed) {state : BuildState} (b : Input) (clock : Clock) :
    (run p b.tree clock b.source state).state.status =
      statusOf (run p b.tree clock b.source state) := by
  obtain ⟨trail, -, hrun⟩ := run_eq clock b.tree b.source state hp
  rw [hrun, state_finish, statusOf, statusOf, result_finish]

/-- A build that completes reaches all stages. -/
theorem reaches_of_result_eq_ok (hp : p.Composed) {id : Uuid} {out : String}
    (h : (run p b.tree b.clock b.source (.fresh id p)).result = .ok out)
    (hs : p.stages[i]? = some s) : Reaches p b i := by
  obtain ⟨hscans, htext⟩ := (result_run_fresh_eq_ok_iff hp).1 h
  exact ⟨hscans, text_of_le htext (Nat.le_of_lt (List.getElem?_eq_some_iff.1 hs).1)⟩

/-! ## The clock -/

theorem map_timeless_reached? (b : Input) (clock : Clock) (i : Nat) :
    (reached? p { b with clock } i).map StageState.timeless =
      (reached? p b i).map StageState.timeless := by
  by_cases h : p.stages.all (BoundStage.scans b.tree p.baseDir) = true
  · rw [reached?, reached?, if_pos h, if_pos h]
    cases p.stages[i]? with
    | none => rfl
    | some s =>
      dsimp only
      cases p.text b.tree b.source i with
      | ok before => exact congrArg some (timeless_verdict clock before)
      | error e => rfl
  · rw [reached?, reached?, if_neg h, if_neg h]

theorem skipReason_clock (hp : p.Composed) (b : Input) (clock : Clock) :
    skipReason p { b with clock } = skipReason p b := by
  have hl := (length_stages_fresh default p).ge
  rw [skipReason, skipReason, result_run_congr hp b clock hl hl]

/-! ## What builds leave of a stage -/

/-- What the last build that reaches a stage makes of it. -/
def lastVerdict (p : Pipeline) (builds : List Input) (i : Nat) : Option StageState :=
  builds.reverse.findSome? fun b => reached? p b i

/-- What builds leave of a stage that none of them reaches. -/
def unreached (p : Pipeline) : List Input → StageState
  | [] => .pending
  | first :: _ => .skipped (skipReason p first)

/-- What builds leave of a stage. -/
def left (p : Pipeline) (builds : List Input) (i : Nat) : StageState :=
  (lastVerdict p builds i).getD (unreached p builds)

variable {builds : List Input}

theorem lastVerdict_append_singleton (builds : List Input) (b : Input) (i : Nat) :
    lastVerdict p (builds ++ [b]) i = (reached? p b i).or (lastVerdict p builds i) := by
  rw [lastVerdict, List.reverse_append, List.reverse_singleton, List.singleton_append,
    List.findSome?_cons]
  cases reached? p b i <;> rfl

theorem lastVerdict_eq_none_iff (hs : p.stages[i]? = some s) :
    lastVerdict p builds i = none ↔ ∀ e ∈ builds, ¬ Reaches p e i := by
  simp only [lastVerdict, List.findSome?_eq_none_iff, List.mem_reverse, reached?_eq_none_iff hs]

theorem exists_verdict_of_lastVerdict {x : StageState} (h : lastVerdict p builds i = some x) :
    ∃ b s before, x = verdict p b s before := by
  obtain ⟨b, -, hb⟩ := List.exists_of_findSome?_eq_some h
  obtain ⟨s, before, -, -, rfl⟩ := reached?_eq_some hb
  exact ⟨b, s, before, rfl⟩

theorem isTerminal_left (h : builds ≠ []) : (left p builds i).isTerminal = true := by
  obtain ⟨first, later, rfl⟩ := List.exists_cons_of_ne_nil h
  rw [left]
  cases hl : lastVerdict p (first :: later) i with
  | none => rfl
  | some x =>
    obtain ⟨b, s, before, rfl⟩ := exists_verdict_of_lastVerdict hl
    exact isTerminal_verdict before

/-- One more build: what it reaches is as it says, and else nothing changes but at first. -/
theorem left_append_singleton (builds : List Input) (b : Input) (i : Nat) :
    left p (builds ++ [b]) i =
      (reached? p b i).getD ((left p builds i).skip (skipReason p b)) := by
  rw [left, lastVerdict_append_singleton]
  cases reached? p b i with
  | some x => rfl
  | none =>
    cases builds with
    | nil => rfl
    | cons first later =>
      rw [StageState.skip_of_isTerminal (isTerminal_left (List.cons_ne_nil first later))]
      rfl

theorem isSkipped_left_iff (hs : p.stages[i]? = some s) (hne : builds ≠ []) :
    (left p builds i).isSkipped = true ↔ ∀ e ∈ builds, ¬ Reaches p e i := by
  obtain ⟨first, later, rfl⟩ := List.exists_cons_of_ne_nil hne
  rw [← lastVerdict_eq_none_iff hs, left]
  cases hl : lastVerdict p (first :: later) i with
  | none => simp [unreached, StageState.isSkipped]
  | some x =>
    obtain ⟨b, s, before, rfl⟩ := exists_verdict_of_lastVerdict hl
    simp [isSkipped_verdict]

/-! ## What builds leave of a state -/

theorem stateAfter_append_singleton (state : BuildState) (builds : List Input) (b : Input) :
    stateAfter p state (builds ++ [b]) =
      (run p b.tree b.clock b.source (stateAfter p state builds)).state := by
  rw [stateAfter, List.foldl_append]
  rfl

variable {id : Uuid}

theorem length_stages_stateAfter (hp : p.Composed) :
    (stateAfter p (.fresh id p) builds).stages.length = p.stages.length := by
  induction builds using List.reverseRecOn with
  | nil => exact length_stages_fresh id p
  | append_singleton builds b ih =>
    rw [stateAfter_append_singleton]
    exact length_stages_run_of hp b ih

/-- **The records that builds leave.** -/
theorem getElem?_stateAfter (hp : p.Composed) (hs : p.stages[i]? = some s) :
    (stateAfter p (.fresh id p) builds).stages[i]? =
      some ⟨i, s.kind, s.label, left p builds i⟩ := by
  induction builds using List.reverseRecOn with
  | nil =>
    rw [stateAfter, List.foldl_nil, getElem?_stages_fresh hs, recordOf, hp.index_eq hs]
    rfl
  | append_singleton builds b ih =>
    rw [stateAfter_append_singleton,
      getElem?_stages_run hp b (length_stages_stateAfter hp) hs ih, left_append_singleton]
    rfl

/-! ## The whole -/

theorem hasBeenSkipped_iff {state : BuildState} {x : StageState}
    (h : state.stages[i]? = some ⟨i, s.kind, s.label, x⟩) :
    state.HasBeenSkipped i s ↔ x.isSkipped = true := by
  rw [HasBeenSkipped, h, StageState.isSkipped_iff]
  simp

/-- Lists of records are compared at the places of the stages. -/
theorem map_stages_eq_iff {β : Type} {rs rs' : List StageRecord} (f : StageRecord → β)
    (hl : rs.length = p.stages.length) (hl' : rs'.length = p.stages.length) :
    rs.map f = rs'.map f ↔
      ∀ (i : Nat) s, p.stages[i]? = some s → rs[i]?.map f = rs'[i]?.map f := by
  refine ⟨fun h i s _ => by rw [← List.getElem?_map, h, List.getElem?_map], fun h => ?_⟩
  refine List.ext_getElem? fun i => ?_
  rw [List.getElem?_map, List.getElem?_map]
  cases hs : p.stages[i]? with
  | some s => exact h i s hs
  | none =>
    have hi := List.getElem?_eq_none_iff.1 hs
    rw [List.getElem?_eq_none_iff.2 (by omega), List.getElem?_eq_none_iff.2 (by omega)]

theorem completedStages_eq (state : BuildState) :
    state.completedStages = (state.stages.map fun r => r.state.isCompleted).count true := by
  rw [completedStages, List.count, List.countP_map]
  congr 1
  funext r
  simp

/-- A stage that a build reaches is left as on a fresh state. -/
theorem timeless_left_of_reaches (hs : p.stages[i]? = some s) (earlier : List Input)
    (clock : Clock) (h : Reaches p b i) :
    (left p (earlier ++ [b]) i).timeless = (left p [{ b with clock }] i).timeless := by
  obtain ⟨x, hx⟩ := Option.isSome_iff_exists.1 ((isSome_reached?_iff hs).2 h)
  have hclock := map_timeless_reached? (p := p) b clock i
  rw [hx, Option.map_some] at hclock
  obtain ⟨y, hy, hxy⟩ := Option.map_eq_some_iff.1 hclock
  rw [left_append_singleton, ← List.nil_append [_], left_append_singleton, hx, hy]
  exact hxy.symm

/-- A stage that a build does not reach is skipped on a fresh state. -/
theorem left_of_not_reaches (hp : p.Composed) (hs : p.stages[i]? = some s) (clock : Clock)
    (h : ¬ Reaches p b i) : left p [{ b with clock }] i = .skipped (skipReason p b) := by
  have hclock : reached? p { b with clock } i = none := (reached?_eq_none_iff hs).2 h
  rw [← List.nil_append [_], left_append_singleton, hclock, skipReason_clock hp]
  rfl

/-- When earlier builds leave a stage that is not reached as on a fresh state. -/
theorem timeless_left_eq_skipped_iff (hs : p.stages[i]? = some s) (earlier : List Input)
    (h : ¬ Reaches p b i) :
    (left p (earlier ++ [b]) i).timeless = .skipped (skipReason p b) ↔
      (∀ e ∈ earlier, ¬ Reaches p e i) ∧
        ∀ first ∈ earlier.head?, skipReason p first = skipReason p b := by
  rw [← lastVerdict_eq_none_iff hs, left, lastVerdict_append_singleton,
    (reached?_eq_none_iff hs).2 h, Option.none_or]
  cases hl : lastVerdict p earlier i with
  | none => cases earlier <;> simp [unreached, StageState.timeless]
  | some x =>
    obtain ⟨e, s', before, rfl⟩ := exists_verdict_of_lastVerdict hl
    have hnot : (verdict p e s' before).timeless ≠ .skipped (skipReason p b) := fun heq => by
      have hskipped := isSkipped_verdict (p := p) (b := e) (s := s') before
      rw [← StageState.isSkipped_timeless, heq] at hskipped
      cases hskipped
    simpa using hnot

/-- Where no earlier build reached more stages, as many have completed as on a fresh state. -/
theorem isCompleted_left (hp : p.Composed) (hs : p.stages[i]? = some s) (earlier : List Input)
    (clock : Clock) (h : ¬ Reaches p b i → ∀ e ∈ earlier, ¬ Reaches p e i) :
    (left p (earlier ++ [b]) i).isCompleted = (left p [{ b with clock }] i).isCompleted := by
  by_cases hb : Reaches p b i
  · rw [← StageState.isCompleted_timeless, timeless_left_of_reaches hs earlier clock hb,
      StageState.isCompleted_timeless]
  · have hall : ∀ e ∈ earlier ++ [b], ¬ Reaches p e i := by
      simpa [or_imp, forall_and, hb] using h hb
    rw [left_of_not_reaches hp hs clock hb]
    obtain ⟨reason, hr⟩ := StageState.isSkipped_iff.1 ((isSkipped_left_iff hs (by simp)).2 hall)
    rw [hr]
    rfl

/-- **Builds that share a state.** A build returns the same as on a fresh state, with the same
status. It leaves the same record of each stage that it reaches, which are all stages if it
completes. A stage that it does not reach is as the last earlier build that reached it left it, or
else skipped for the reason of the first build. So the records are the same, times aside, exactly if
no earlier build reached a stage that this one does not reach and the first build gave the same
reason for skipping it; reasons aside, exactly the stages that no earlier build reached are
skipped. -/
theorem run_after (hp : p.Composed) (earlier : List Input) (b : Input) (clock : Clock)
    (id id' : Uuid) :
    let done := run p b.tree b.clock b.source (stateAfter p (.fresh id p) earlier)
    let anew := run p b.tree clock b.source (.fresh id' p)
    done.result = anew.result ∧ done.state.status = anew.state.status ∧
    (∀ out, done.result = .ok out → ∀ i s, p.stages[i]? = some s → Reaches p b i) ∧
    (∀ i s, p.stages[i]? = some s →
      done.state.stages[i]? = some ⟨i, s.kind, s.label,
        (lastVerdict p (earlier ++ [b]) i).getD (unreached p (earlier ++ [b]))⟩ ∧
      (Reaches p b i → (done.state.stages[i]?).map (update StageState.timeless) =
        (anew.state.stages[i]?).map (update StageState.timeless)) ∧
      (¬ Reaches p b i → anew.state.HasBeenSkipped i s ∧
        (done.state.HasBeenSkipped i s ↔ ∀ e ∈ earlier, ¬ Reaches p e i))) ∧
    (done.state.stages.map (update StageState.timeless) =
        anew.state.stages.map (update StageState.timeless) ↔
      ∀ i s, p.stages[i]? = some s → ¬ Reaches p b i → (∀ e ∈ earlier, ¬ Reaches p e i) ∧
        ∀ first ∈ earlier.head?, skipReason p first = skipReason p b) ∧
    ((∀ i s, p.stages[i]? = some s → ¬ Reaches p b i → ∀ e ∈ earlier, ¬ Reaches p e i) →
      done.state.completedStages = anew.state.completedStages) := by
  intro done anew
  have hl : p.stages.length ≤ (stateAfter p (.fresh id p) earlier).stages.length :=
    (length_stages_stateAfter hp).ge
  have hl' := (length_stages_fresh id' p).ge
  have hresult : done.result = anew.result := result_run_congr hp b clock hl hl'
  have hdone : done.state = stateAfter p (.fresh id p) (earlier ++ [b]) :=
    (stateAfter_append_singleton _ earlier b).symm
  have hanew : anew.state = stateAfter p (.fresh id' p) [{ b with clock }] := rfl
  have hrecord (i : Nat) (s : BoundStage) (hs : p.stages[i]? = some s) :
      done.state.stages[i]? = some ⟨i, s.kind, s.label, left p (earlier ++ [b]) i⟩ := by
    rw [hdone, getElem?_stateAfter hp hs]
  have hrecord' (i : Nat) (s : BoundStage) (hs : p.stages[i]? = some s) :
      anew.state.stages[i]? = some ⟨i, s.kind, s.label, left p [{ b with clock }] i⟩ := by
    rw [hanew, getElem?_stateAfter hp hs]
  have hlength : done.state.stages.length = p.stages.length := by
    rw [hdone, length_stages_stateAfter hp]
  have hlength' : anew.state.stages.length = p.stages.length := by
    rw [hanew, length_stages_stateAfter hp]
  refine ⟨hresult, ?_, ?_, ?_, ?_, ?_⟩
  · rw [status_run hp b b.clock, status_run hp b clock, statusOf, statusOf,
      result_run_congr hp b clock hl hl']
  · intro out hout i s hs
    have hfresh : (run p b.tree b.clock b.source (.fresh id' p)).result = .ok out := by
      rw [result_run_congr hp b clock hl' hl', ← hout, hresult]
    exact reaches_of_result_eq_ok hp hfresh hs
  · intro i s hs
    refine ⟨hrecord i s hs, fun h => ?_, fun h => ⟨⟨skipReason p b, ?_⟩, ?_⟩⟩
    · rw [hrecord i s hs, hrecord' i s hs, Option.map_some, Option.map_some, update, update,
        timeless_left_of_reaches hs earlier clock h]
    · rw [hrecord' i s hs, left_of_not_reaches hp hs clock h]
    · have hne : earlier ++ [b] ≠ [] := by simp
      have hall : (∀ e ∈ earlier ++ [b], ¬ Reaches p e i) ↔ ∀ e ∈ earlier, ¬ Reaches p e i := by
        simp [or_imp, forall_and, h]
      rw [hasBeenSkipped_iff (hrecord i s hs), isSkipped_left_iff hs hne, hall]
  · rw [map_stages_eq_iff _ hlength hlength']
    refine forall₃_congr fun i s hs => ?_
    rw [hrecord i s hs, hrecord' i s hs]
    by_cases h : Reaches p b i
    · simp [h, update, timeless_left_of_reaches hs earlier clock h]
    · rw [left_of_not_reaches hp hs clock h, ← timeless_left_eq_skipped_iff hs earlier h]
      simp [h, update, StageState.timeless]
  · intro h
    rw [completedStages_eq, completedStages_eq]
    refine congrArg _ ((map_stages_eq_iff _ hlength hlength').2 fun i s hs => ?_)
    rw [hrecord i s hs, hrecord' i s hs, Option.map_some, Option.map_some,
      isCompleted_left hp hs earlier clock (h i s hs)]

/-- A build that fails at its first stage, behind one that completes. -/
theorem run_after_completed :
    Pipeline.sample.Composed ∧
    (let earlier : List Input := [{ source := "p \x7bcolor:red\x7d" }]
     let done := run .sample {} {} "@tailwind nope;"
      (stateAfter .sample (.fresh default .sample) earlier)
     let anew := run .sample {} {} "@tailwind nope;" (.fresh default .sample)
     done.result = anew.result ∧ done.state.status = anew.state.status ∧
      ∃ s, anew.state.HasBeenSkipped 1 s ∧ ¬ done.state.HasBeenSkipped 1 s) := by
  have hp := Pipeline.composed_sample
  let first : Input := { source := "p \x7bcolor:red\x7d" }
  let second : Input := { source := "@tailwind nope;" }
  obtain ⟨s, hs⟩ : ∃ s, Pipeline.sample.stages[1]? = some s := ⟨_, rfl⟩
  have hfirst : Reaches .sample first 1 := (isSome_reached?_iff hs).1 (by decide +kernel)
  have hsecond : ¬ Reaches .sample second 1 := fun h =>
    absurd ((isSome_reached?_iff hs).2 h) (by decide +kernel)
  obtain ⟨hresult, hstatus, -, hrecords, -⟩ := run_after hp [first] second {} default default
  obtain ⟨-, -, hskipped⟩ := hrecords 1 s hs
  refine ⟨hp, hresult, hstatus, s, (hskipped hsecond).1, fun h => ?_⟩
  exact (hskipped hsecond).2.1 h first List.mem_cons_self hfirst

/-- **Records of an earlier build that completed outlast a failure before them.** -/
theorem run_after_keeps_completed :
    let earlier : List Input := [{ source := "p \x7bcolor:red\x7d" }]
    let done := run .sample {} {} "@tailwind nope;"
      (stateAfter .sample (.fresh default .sample) earlier)
    let anew := run .sample {} {} "@tailwind nope;" (.fresh default .sample)
    done.state.stages.map (fun r => r.state.timeless) =
        [.failed "unknown @tailwind directive 'nope'" default default,
          .completed 13 20 default default, .completed 20 12 default default] ∧
      done.state.completedStages = 2 ∧
      anew.state.stages.map (fun r => r.state.timeless) =
        [.failed "unknown @tailwind directive 'nope'" default default,
          .skipped "stage 0 failed", .skipped "stage 0 failed"] ∧
      anew.state.completedStages = 0 := by
  decide +kernel

end Build

end StyleBuild
