import StyleBuild.Proofs.Build.Scanning

/-!
# What the stages of a build do

Once content has been scanned, a build is a left fold of its stages over the source
(`stagesFrom_spec`). The state and the events keep in step with the text: `recordsAfter` says what
becomes of the stages' records, and `stageEvents` what is told of them. A failure ends the fold, so
that stages behind it do not matter (`stagesFrom_of_error`).
-/

namespace StyleBuild

open BuildState

namespace BoundStage

variable (t : FileTree) (base : String)

/-- What the stage sees besides its input: its place, and the scan of its own content. -/
def context (s : BoundStage) : StageContext := { index := s.index, content := s.content? t base }

/-- What the stage makes of a text. -/
def apply (css : String) (s : BoundStage) : Except TransformError String :=
  (s.transformer.run (s.context t base) css).result

/-- What the stage makes of a text; a failure names the stage. -/
def attempt (css : String) (s : BoundStage) : Except BuildError String :=
  (s.apply t base css).mapError (.stage s.index s.kind)

variable {t base} {s : BoundStage} {css : String}

theorem attempt_of_ok {out : String} (h : s.apply t base css = .ok out) :
    s.attempt t base css = .ok out := by
  rw [attempt, h]
  rfl

theorem attempt_of_error {e : TransformError} (h : s.apply t base css = .error e) :
    s.attempt t base css = .error (.stage s.index s.kind e) := by
  rw [attempt, h]
  rfl

end BoundStage

namespace Build

variable {clock : Clock} {t : FileTree} {base : String} {scans : List (Option Scan)}

/-! ## Records -/

/-- The record of a stage that has completed. -/
def completedRecord (clock : Clock) (s : BoundStage) (css out : String) :
    StageRecord → StageRecord :=
  update fun _ => .completed css.utf8ByteSize out.utf8ByteSize
    (clock.stageStart s.index) (clock.stageFinish s.index)

/-- The record of a stage that has failed. -/
def failedRecord (clock : Clock) (s : BoundStage) (e : TransformError) :
    StageRecord → StageRecord :=
  update fun _ => .failed e.message (clock.stageStart s.index) (clock.stageFinish s.index)

/-- The record of a stage behind one that failed. -/
def behindRecord (s : BoundStage) : StageRecord → StageRecord :=
  update (StageState.skip ("stage " ++ decimalText s.index ++ " failed"))

/-- What becomes of records when their stages run on a text: a stage that is reached has completed
or failed, and the stages behind a failure are skipped. -/
def recordsAfter (clock : Clock) (t : FileTree) (base : String) :
    String → List BoundStage → List StageRecord → List StageRecord
  | css, s :: stages, r :: rs =>
    match s.apply t base css with
    | .ok out => completedRecord clock s css out r :: recordsAfter clock t base out stages rs
    | .error e => failedRecord clock s e r :: rs.map (behindRecord s)
  | _, _, rs => rs

@[simp] theorem length_recordsAfter (css : String) (stages : List BoundStage)
    (rs : List StageRecord) : (recordsAfter clock t base css stages rs).length = rs.length := by
  induction stages generalizing css rs with
  | nil => simp [recordsAfter]
  | cons s stages ih =>
    cases rs with
    | nil => simp [recordsAfter]
    | cons r rs =>
      rw [recordsAfter]
      split <;> simp [ih]

/-- What is told of stages that run on a text, from a place on. -/
def stageEvents (clock : Clock) (t : FileTree) (base : String) :
    Nat → String → List BoundStage → List BuildEvent
  | _, _, [] => []
  | i, css, s :: stages =>
    .stageStarted i s.label ::
      match s.apply t base css with
      | .ok out =>
        .stageCompleted i css.utf8ByteSize out.utf8ByteSize (clock.stageNanos i) ::
          stageEvents clock t base (i + 1) out stages
      | .error e => [.stageFailed i e.message]

@[simp] theorem events_startTrail (s : BoundStage) :
    Trail.events (startTrail s) = [.stageStarted s.index s.label] := rfl

@[simp] theorem events_completedTrail (s : BoundStage) (bytesIn bytesOut nanos : Nat) :
    Trail.events (completedTrail s bytesIn bytesOut nanos) =
      [.stageCompleted s.index bytesIn bytesOut nanos] := rfl

@[simp] theorem events_failedTrail (s : BoundStage) (e : TransformError) :
    Trail.events (failedTrail s e) = [.stageFailed s.index e.message] := rfl

theorem setStage_setStage (i : Nat) (x y : StageState) (state : BuildState) :
    (state.setStage i x).setStage i y = state.setStage i y := by
  have h : (update fun _ => y) ∘ (update fun _ => x) = update fun _ => y := rfl
  rw [setStage, setStage, List.modify_modify_eq, h]
  rfl

theorem modify_append_cons {α : Type} (f : α → α) (a b : List α) (x : α) :
    (a ++ x :: b).modify a.length f = a ++ f x :: b := by
  induction a with
  | nil => rfl
  | cons y a ih => simp only [List.cons_append, List.length_cons, List.modify_succ_cons, ih]

theorem stages_setStage {state : BuildState} {done rs : List StageRecord} {r : StageRecord}
    (h : state.stages = done ++ r :: rs) (x : StageState) :
    state.setStage done.length x =
      { state with stages := done ++ update (fun _ => x) r :: rs } := by
  rw [setStage, h, modify_append_cons]

theorem stages_skipFrom {state : BuildState} {done rs : List StageRecord} {r : StageRecord}
    (h : state.stages = done ++ r :: rs) (reason : String) :
    state.skipFrom (done.length + 1) reason =
      { state with stages := done ++ r :: rs.map (update (StageState.skip reason)) } := by
  have ht : (done ++ r :: rs).take (done.length + 1) = done ++ [r] := by
    simp [List.take_append, List.take_of_length_le]
  have hd : (done ++ r :: rs).drop (done.length + 1) = rs := by
    simp [List.drop_append]
  rw [skipFrom, h, ht, hd, List.append_assoc, List.singleton_append]

/-! ## One stage -/

variable (clock) {css : String} {state : BuildState} (trail : Trail) {s : BoundStage}

theorem runStage_of_ok {out : String} {done rs : List StageRecord} {r : StageRecord}
    (hc : contextOf scans s = s.context t base) (h : s.apply t base css = .ok out)
    (hi : s.index = done.length) (hr : state.stages = done ++ r :: rs) :
    ∃ notes, runStage clock scans css state trail s =
      { result := .ok out
        state := { state with stages := done ++ completedRecord clock s css out r :: rs }
        trail := trail ++ startTrail s ++ Trail.ofNotes notes ++
          completedTrail s css.utf8ByteSize out.utf8ByteSize (clock.stageNanos s.index) } := by
  rw [BoundStage.apply] at h
  refine ⟨(s.transformer.run (s.context t base) css).notes, ?_⟩
  have hs : completed clock s css out (running clock s state) =
      { state with stages := done ++ completedRecord clock s css out r :: rs } := by
    rw [completed, running, setStage_setStage, hi, stages_setStage hr, completedRecord, hi]
  simp only [runStage, hc, h, hs]

theorem runStage_of_error {e : TransformError} {done rs : List StageRecord} {r : StageRecord}
    (hc : contextOf scans s = s.context t base) (h : s.apply t base css = .error e)
    (hi : s.index = done.length) (hr : state.stages = done ++ r :: rs) :
    ∃ notes, runStage clock scans css state trail s =
      { result := .error (.stage s.index s.kind e)
        state := { state with
          stages := done ++ failedRecord clock s e r :: rs.map (behindRecord s) }
        trail := trail ++ startTrail s ++ Trail.ofNotes notes ++ failedTrail s e } := by
  rw [BoundStage.apply] at h
  refine ⟨(s.transformer.run (s.context t base) css).notes, ?_⟩
  have hs : failed clock s e (running clock s state) =
      { state with stages := done ++ failedRecord clock s e r :: rs.map (behindRecord s) } := by
    rw [failed, running, setStage_setStage, hi, stages_setStage hr, stages_skipFrom rfl,
      failedRecord, hi]
    simp only [behindRecord, hi]
  simp only [runStage, hc, h, hs]

/-! ## The loop -/

/-- A failure ends a build: stages behind it change nothing. -/
theorem stagesFrom_of_error {clock : Clock} {r : Run} {e : BuildError} (h : r.result = .error e)
    (stages : List BoundStage) : stagesFrom clock scans r stages = r := by
  induction stages with
  | nil => rfl
  | cons s stages ih =>
    have hs : step clock scans r s = r := by
      rw [step, h]
    rw [stagesFrom, List.foldl_cons, hs, ← stagesFrom, ih]

/-- **A run of stages**: its result is the fold of the stages over the text, and the state and the
events keep in step with it. -/
theorem stagesFrom_spec (css : String) (state : BuildState) {stages : List BoundStage}
    (done : List StageRecord) {rs : List StageRecord}
    (hi : Pipeline.IsIndexed done.length stages)
    (hc : ∀ s ∈ stages, contextOf scans s = s.context t base)
    (hr : state.stages = done ++ rs) (hl : stages.length ≤ rs.length) :
    let r := stagesFrom clock scans ⟨.ok css, state, trail⟩ stages
    r.result = stages.foldlM (BoundStage.attempt t base) css ∧
      r.state = { state with stages := done ++ recordsAfter clock t base css stages rs } ∧
      Trail.events r.trail =
        Trail.events trail ++ stageEvents clock t base done.length css stages := by
  induction stages generalizing css state trail done rs with
  | nil =>
    refine ⟨rfl, ?_, by simp [stagesFrom, stageEvents]⟩
    rw [recordsAfter, ← hr]
    · rfl
    · simp
  | cons s stages ih =>
    obtain ⟨r, rs, rfl⟩ := List.exists_cons_of_length_pos (Nat.zero_lt_of_lt hl)
    have hs := hc s List.mem_cons_self
    have hrest : ∀ s ∈ stages, contextOf scans s = s.context t base :=
      fun s h => hc s (List.mem_cons_of_mem _ h)
    have hstep : stagesFrom clock scans ⟨.ok css, state, trail⟩ (s :: stages) =
        stagesFrom clock scans (runStage clock scans css state trail s) stages := rfl
    cases h : s.apply t base css with
    | ok out =>
      obtain ⟨notes, hrun⟩ := runStage_of_ok clock trail hs h hi.head hr
      have hn : (done ++ [completedRecord clock s css out r]).length = done.length + 1 := by simp
      obtain ⟨h₁, h₂, h₃⟩ := ih
        (trail ++ startTrail s ++ Trail.ofNotes notes ++
          completedTrail s css.utf8ByteSize out.utf8ByteSize (clock.stageNanos s.index))
        out { state with stages := done ++ completedRecord clock s css out r :: rs }
        (done ++ [completedRecord clock s css out r]) (hn ▸ hi.tail) hrest
        (show _ = (done ++ [completedRecord clock s css out r]) ++ rs by simp) (by simpa using hl)
      dsimp only
      rw [hstep, hrun, h₁, h₂, h₃, List.foldlM_cons, BoundStage.attempt_of_ok h]
      refine ⟨rfl, ?_, ?_⟩
      · simp [recordsAfter, h]
      · simp [stageEvents, h, hn, hi.head]
    | error e =>
      obtain ⟨notes, hrun⟩ := runStage_of_error clock trail hs h hi.head hr
      dsimp only
      rw [hstep, hrun, stagesFrom_of_error rfl, List.foldlM_cons, BoundStage.attempt_of_error h]
      refine ⟨rfl, ?_, ?_⟩
      · simp [recordsAfter, h]
      · simp [stageEvents, h, hi.head]

end Build

end StyleBuild
