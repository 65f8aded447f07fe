import StyleBuild.Proofs.Build.Fresh

/-!
# Replaying a build

The events of a build have a fixed shape, and tell all that becomes of its state but the times and
the reasons for skipping: replayed over the state that the build started from, they give the stages,
the warnings and the status that it leaves (`replay_run_fresh`).
-/

namespace StyleBuild

open BuildState

/-- What became of a stage, without times and reasons. -/
def StageState.outline : StageState → StageState
  | .pending => .pending
  | .running _ => .running default
  | .completed bytesIn bytesOut _ _ => .completed bytesIn bytesOut default default
  | .failed error _ _ => .failed error default default
  | .skipped _ => .skipped ""

@[simp] theorem StageState.outline_skip (reason : String) (s : StageState) :
    (s.skip reason).outline = s.outline.skip "" := by
  cases s <;> rfl

/-- What an event tells of a state. A build that has failed skips all stages that have not reached
their end. -/
def BuildEvent.replay (state : BuildState) : BuildEvent → BuildState
  | .started .. | .scanned .. => state
  | .warned w => state.warn w
  | .stageStarted i _ => state.setStage i (.running default)
  | .stageCompleted i bytesIn bytesOut _ =>
    state.setStage i (.completed bytesIn bytesOut default default)
  | .stageFailed i error => state.setStage i (.failed error default default)
  | .finished _ .failed => { state with status := .failed }.skipFrom 0 ""
  | .finished _ status => { state with status }

namespace Build

/-- What events tell of a state. -/
def replay (state : BuildState) (events : List BuildEvent) : BuildState :=
  events.foldl BuildEvent.replay state

@[simp] theorem replay_nil (state : BuildState) : replay state [] = state := rfl

@[simp] theorem replay_cons (state : BuildState) (e : BuildEvent) (events : List BuildEvent) :
    replay state (e :: events) = replay (e.replay state) events := rfl

@[simp] theorem replay_append (state : BuildState) (events events' : List BuildEvent) :
    replay state (events ++ events') = replay (replay state events) events' :=
  List.foldl_append

/-! ## Warnings -/

theorem replay_warned (state : BuildState) (ws : List ContentWarning) :
    replay state (ws.map .warned) = { state with warnings := state.warnings ++ ws } := by
  induction ws generalizing state with
  | nil => simp
  | cons w ws ih => simp [ih, BuildEvent.replay, warn]

variable {t : FileTree} {base : String}

/-- What is told of a stage's content tells its warnings and nothing else. -/
theorem replay_ownScanEvents (state : BuildState) (s : BoundStage) :
    replay state (ownScanEvents t base s) =
      { state with warnings := state.warnings ++ ownWarnings t base s } := by
  rw [ownScanEvents, ownWarnings]
  cases s.content? t base with
  | none => simp
  | some scan =>
    rw [Option.elim_some, Option.elim_some, Build.scanEvents, replay_cons, replay_warned]
    rfl

theorem replay_flatMap_ownScanEvents (state : BuildState) (stages : List BoundStage) :
    replay state (stages.flatMap (ownScanEvents t base)) =
      { state with warnings := state.warnings ++ stages.flatMap (ownWarnings t base) } := by
  induction stages generalizing state with
  | nil => simp
  | cons s stages ih => simp [replay_ownScanEvents, ih]

/-! ## Stages -/

variable {clock : Clock}

/-- The records that a run of stages leaves, from what is told of them. Those behind a failure are
not told of: they are skipped at the end. -/
theorem replay_stageEvents (css : String) {stages : List BoundStage} {state : BuildState}
    (done : List StageRecord) {rs : List StageRecord} (hr : state.stages = done ++ rs)
    (hl : rs.length = stages.length) (hp : ∀ r ∈ rs, r.state = .pending) :
    ∃ told, replay state (stageEvents clock t base done.length css stages) =
        { state with stages := done ++ told } ∧
      told.map (update (StageState.skip "")) =
        (recordsAfter clock t base css stages rs).map (update StageState.outline) ∧
      ∀ out, stages.foldlM (BoundStage.attempt t base) css = .ok out →
        told = (recordsAfter clock t base css stages rs).map (update StageState.outline) := by
  induction stages generalizing css state done rs with
  | nil =>
    obtain rfl := List.eq_nil_of_length_eq_zero hl
    exact ⟨[], by simp [stageEvents, ← hr], by simp [recordsAfter], by simp [recordsAfter]⟩
  | cons s stages ih =>
    obtain ⟨r, rs, rfl⟩ := List.exists_cons_of_length_eq_add_one hl
    have hrest : ∀ r ∈ rs, r.state = .pending := fun r h => hp r (List.mem_cons_of_mem _ h)
    cases h : s.apply t base css with
    | ok out =>
      let r' := update (fun _ => .completed css.utf8ByteSize out.utf8ByteSize default default) r
      obtain ⟨told, hstate, hskip, hok⟩ := ih out (done ++ [r'])
        (show ({ state with stages := done ++ r' :: rs } : BuildState).stages =
          (done ++ [r']) ++ rs by simp) (by simpa using hl) hrest
      have hr' : update StageState.outline (completedRecord clock s css out r) = r' := rfl
      have hr'' : update (StageState.skip "") r' = r' := rfl
      refine ⟨r' :: told, ?_, ?_, ?_⟩
      · simp only [stageEvents, h, replay_cons, BuildEvent.replay]
        rw [setStage_setStage, stages_setStage hr]
        simpa using hstate
      · simp [recordsAfter, h, hskip, hr', hr'']
      · intro final hfinal
        rw [List.foldlM_cons, BoundStage.attempt_of_ok h] at hfinal
        simp [recordsAfter, h, hok final hfinal, hr']
    | error e =>
      let r' := update (fun _ => .failed e.message default default) r
      have hr' : update StageState.outline (failedRecord clock s e r) = r' := rfl
      have hr'' : update (StageState.skip "") r' = r' := rfl
      refine ⟨r' :: rs, ?_, ?_, ?_⟩
      · simp only [stageEvents, h, replay_cons, BuildEvent.replay]
        rw [setStage_setStage, stages_setStage hr]
        rfl
      · rw [recordsAfter, h]
        simp only [List.map_cons, hr', hr'', List.map_map]
        refine congrArg _ (List.map_congr_left fun x hx => ?_)
        simp [behindRecord, update, hrest x hx, StageState.skip, StageState.isTerminal,
          StageState.outline]
      · intro final hfinal
        rw [List.foldlM_cons, BoundStage.attempt_of_error h] at hfinal
        cases hfinal

/-! ## The whole -/

variable {p : Pipeline} {source : String} {id : Uuid}

theorem outline_skip_fresh (reason : String) :
    ((BuildState.fresh id p).stages.map (update (StageState.skip reason))).map
        (update StageState.outline) =
      (BuildState.fresh id p).stages.map (update (StageState.skip "")) := by
  simp [BuildState.fresh, update, recordOf, StageState.skip, StageState.isTerminal,
    StageState.outline]

theorem all_scans_iff :
    p.stages.all (BoundStage.scans t p.baseDir) = true ↔
      p.stages.findSome? (BoundStage.scanError? t p.baseDir) = none := by
  rw [List.all_eq_true, findSome?_scanError_eq_none_iff]

/-- What a build tells between its start and its end. -/
def innerEvents (clock : Clock) (p : Pipeline) (t : FileTree) (source : String) :
    List BuildEvent :=
  p.scanEvents t ++
    if p.stages.all (BoundStage.scans t p.baseDir) then
      stageEvents clock t p.baseDir 0 source p.stages
    else []

theorem events_run_fresh (hp : p.Composed) :
    Trail.events (run p t clock source (.fresh id p)).trail =
      toldAround p id (run p t clock source (.fresh id p)).state.status
        (innerEvents clock p t source) := by
  cases he : p.stages.findSome? (BoundStage.scanError? t p.baseDir) with
  | some e =>
    have hnot : ¬ p.stages.all (BoundStage.scans t p.baseDir) = true := by
      rw [all_scans_iff, he]
      simp
    rw [(run_of_scanError hp he).2.2, (run_of_scanError hp he).2.1, innerEvents, if_neg hnot,
      List.append_nil]
    rfl
  | none =>
    have hl := Nat.le_of_eq (length_stages_fresh id p).symm
    rw [(run_of_scans hp he hl).2.2, (run_of_scans hp he hl).2.1, innerEvents,
      if_pos (all_scans_iff.2 he)]
    rfl

theorem warnings_run_fresh (hp : p.Composed) :
    (run p t clock source (.fresh id p)).state.warnings = p.warnings t := by
  cases he : p.stages.findSome? (BoundStage.scanError? t p.baseDir) with
  | some e =>
    rw [(run_of_scanError hp he).2.1]
    rfl
  | none =>
    rw [(run_of_scans hp he (Nat.le_of_eq (length_stages_fresh id p).symm)).2.1]
    rfl

theorem status_run_fresh (hp : p.Composed) :
    (run p t clock source (.fresh id p)).state.status =
      statusOf (run p t clock source (.fresh id p)) := by
  cases he : p.stages.findSome? (BoundStage.scanError? t p.baseDir) with
  | some e => rw [statusOf, (run_of_scanError hp he).1, (run_of_scanError hp he).2.1, around]
  | none =>
    have hl := Nat.le_of_eq (length_stages_fresh id p).symm
    rw [(run_of_scans hp he hl).2.1, around]

theorem statusOf_eq_completed_iff {r : Run} :
    statusOf r = .completed ↔ ∃ out, r.result = .ok out := by
  rw [statusOf]
  cases r.result <;> simp

theorem statusOf_eq_or (r : Run) : statusOf r = .completed ∨ statusOf r = .failed := by
  rw [statusOf]
  cases r.result <;> simp

/-- Replaying all but the end of a build gives its warnings, and its stages but for those that are
skipped. -/
theorem replay_innerEvents (hp : p.Composed) (t : FileTree) (clock : Clock) (source : String)
    (id : Uuid) :
    let done := run p t clock source (.fresh id p)
    ∃ told, replay (.fresh id p) (innerEvents clock p t source) =
        { BuildState.fresh id p with stages := told, warnings := p.warnings t } ∧
      told.map (update (StageState.skip "")) =
        done.state.stages.map (update StageState.outline) ∧
      (∀ out, done.result = .ok out →
        told = done.state.stages.map (update StageState.outline)) := by
  have hwarnings : replay (.fresh id p) (p.scanEvents t) =
      { BuildState.fresh id p with warnings := p.warnings t } :=
    replay_flatMap_ownScanEvents _ _
  intro done
  rw [innerEvents, replay_append, hwarnings]
  cases he : p.stages.findSome? (BoundStage.scanError? t p.baseDir) with
  | some e =>
    have hnot : ¬ p.stages.all (BoundStage.scans t p.baseDir) = true := by
      rw [all_scans_iff, he]
      simp
    rw [if_neg hnot, (run_of_scanError hp he).1, (run_of_scanError hp he).2.1]
    exact ⟨(BuildState.fresh id p).stages, rfl, (outline_skip_fresh _).symm, nofun⟩
  | none =>
    have hl := length_stages_fresh id p
    have hpending : ∀ r ∈ (BuildState.fresh id p).stages, r.state = .pending := by
      simp [BuildState.fresh, recordOf]
    rw [if_pos (all_scans_iff.2 he), (run_of_scans hp he (Nat.le_of_eq hl.symm)).1,
      (run_of_scans hp he (Nat.le_of_eq hl.symm)).2.1]
    exact replay_stageEvents source []
      (show ({ BuildState.fresh id p with warnings := p.warnings t } : BuildState).stages =
        [] ++ (BuildState.fresh id p).stages from rfl) hl hpending

/-- **The events of a build tell what it leaves.** They have a fixed shape, and replaying them gives
the stages, the warnings and the status. -/
theorem replay_run_fresh (hp : p.Composed) (t : FileTree) (clock : Clock) (source : String)
    (id : Uuid) :
    let done := run p t clock source (.fresh id p)
    let told := replay (.fresh id p) (Trail.events done.trail)
    Trail.events done.trail =
        .started id p.name p.size :: p.scanEvents t ++
          (if p.stages.all (BoundStage.scans t p.baseDir) then
            stageEvents clock t p.baseDir 0 source p.stages
          else []) ++ [.finished id done.state.status] ∧
      told.stages = done.state.stages.map (update StageState.outline) ∧
      told.warnings = done.state.warnings ∧ told.status = done.state.status := by
  intro done told
  have hevents : Trail.events done.trail =
      toldAround p id done.state.status (innerEvents clock p t source) := events_run_fresh hp
  obtain ⟨stages, hstate, hskip, hok⟩ := replay_innerEvents hp t clock source id
  have hwarnings : done.state.warnings = p.warnings t := warnings_run_fresh hp
  have htold : told = BuildEvent.replay
      { BuildState.fresh id p with stages, warnings := p.warnings t }
      (.finished id done.state.status) := by
    rw [← hstate]
    simp only [told, hevents, toldAround, List.cons_append, replay_cons, replay_append, replay_nil]
    rfl
  refine ⟨by rw [hevents, toldAround]; rfl, ?_⟩
  have hstatus : done.state.status = statusOf done := status_run_fresh hp
  rw [htold, hwarnings]
  rcases statusOf_eq_or done with h | h
  · obtain ⟨out, hout⟩ := statusOf_eq_completed_iff.1 h
    rw [hstatus, h]
    exact ⟨hok out hout, rfl, rfl⟩
  · rw [hstatus, h]
    exact ⟨hskip, rfl, rfl⟩

/-- The events of a build whose second stage cannot read its input. -/
theorem replay_run_fresh_unreadable :
    Pipeline.sample.Composed ∧
    (let done := run .sample {} {} ".a..b {}" (.fresh default .sample)
     let told := replay (.fresh default .sample) (Trail.events done.trail)
     Trail.events done.trail = [.started default "site" 3, .scanned 0 0 0, .scanned 1 0 0,
        .stageStarted 0 "utility-generation", .stageCompleted 0 8 8 0,
        .stageStarted 1 "rule-pruning", .stageFailed 1
          "Parse error: Expected identifier in class selector, got Delim('.') at :0:4",
        .finished default .failed] ∧
      told.stages = done.state.stages.map (update StageState.outline) ∧
      told.warnings = done.state.warnings ∧ told.status = done.state.status) := by
  have hp := Pipeline.composed_sample
  obtain ⟨hevents, htold⟩ := replay_run_fresh hp {} {} ".a..b {}" default
  exact ⟨hp, hevents.trans (by decide +kernel), htold⟩

end Build

end StyleBuild
