import StyleBuild.Proofs.Build.Stages

/-!
# How a build ends

A build has three ends: a content scan fails, a stage fails, or all stages complete. Here each is
told from the pipeline, the file tree and the source alone (`run_of_scanError`, `run_of_scans`): the
text before each stage is `Pipeline.text`, the left fold of the stages before it over the source.

That a stage is not applied is said by `Pipeline.withRuns`: whatever the stages from a place on do,
the build is the same (`run_withRuns_of_scanError`, `run_withRuns_of_error`).
-/

namespace StyleBuild

open BuildState

/-- A stage that does something else. -/
def BoundStage.withRun (f : BoundStage → StageContext → String → Outcome) (s : BoundStage) :
    BoundStage :=
  { s with transformer := { s.transformer with run := f s } }

/-! ## Texts -/

namespace Pipeline

/-- The text before the stage at a place: what the stages before it make of the source in order, or
the first failure among them. -/
def text (p : Pipeline) (t : FileTree) (source : String) (k : Nat) : Except TransformError String :=
  (p.stages.take k).foldlM (BoundStage.apply t p.baseDir) source

/-- The warnings of a build: on every stage before the first one whose own scan fails. -/
def warnings (p : Pipeline) (t : FileTree) : List ContentWarning :=
  (p.stages.takeWhile (BoundStage.scans t p.baseDir)).flatMap (Build.ownWarnings t p.baseDir)

/-- What a build tells of content. -/
def scanEvents (p : Pipeline) (t : FileTree) : List BuildEvent :=
  (p.stages.takeWhile (BoundStage.scans t p.baseDir)).flatMap (Build.ownScanEvents t p.baseDir)

/-- A pipeline whose stages do something else from a place on. What they are, and the content that
they ask for, stays. -/
def withRuns (p : Pipeline) (k : Nat) (f : BoundStage → StageContext → String → Outcome) :
    Pipeline :=
  { p with stages := p.stages.take k ++ (p.stages.drop k).map (BoundStage.withRun f) }

theorem text_succ {p : Pipeline} {t : FileTree} {source : String} {k : Nat} {s : BoundStage}
    (hs : p.stages[k]? = some s) :
    p.text t source (k + 1) = p.text t source k >>= fun css => s.apply t p.baseDir css := by
  simp [text, List.take_add_one, hs, List.foldlM_append]

end Pipeline

namespace Build

variable {clock : Clock} {t : FileTree} {base : String}

/-! ## The fold of the stages -/

theorem drop_of_getElem? {α : Type} {l : List α} {k : Nat} {x : α} (h : l[k]? = some x) :
    l.drop k = x :: l.drop (k + 1) := by
  obtain ⟨hk, rfl⟩ := List.getElem?_eq_some_iff.1 h
  exact List.drop_eq_getElem_cons hk

/-- A failure of a fold of stages names the stage, and changes nothing else. -/
theorem foldlM_attempt_eq_ok {stages : List BoundStage} {css out : String} :
    stages.foldlM (BoundStage.attempt t base) css = .ok out ↔
      stages.foldlM (BoundStage.apply t base) css = .ok out := by
  induction stages generalizing css with
  | nil => simp [pure, Except.pure]
  | cons s stages ih =>
    rw [List.foldlM_cons, List.foldlM_cons]
    cases h : s.apply t base css with
    | ok next => simpa [BoundStage.attempt_of_ok h, bind, Except.bind] using ih
    | error e => simp [BoundStage.attempt_of_error h, bind, Except.bind]

theorem foldlM_attempt_of_error {stages : List BoundStage} {css before : String} {k : Nat}
    {s : BoundStage} {e : TransformError} (hs : stages[k]? = some s)
    (hb : (stages.take k).foldlM (BoundStage.apply t base) css = .ok before)
    (he : s.apply t base before = .error e) :
    stages.foldlM (BoundStage.attempt t base) css = .error (.stage s.index s.kind e) := by
  rw [← List.take_append_drop k stages, List.foldlM_append, foldlM_attempt_eq_ok.2 hb,
    drop_of_getElem? hs]
  simp [bind, Except.bind, BoundStage.attempt_of_error he]

/-- Behind stages that complete, records are those of the rest of the stages on the text so far. -/
theorem drop_recordsAfter (clock : Clock) {stages : List BoundStage} {rs : List StageRecord}
    {css before : String} {k : Nat} (hl : rs.length = stages.length)
    (hb : (stages.take k).foldlM (BoundStage.apply t base) css = .ok before) :
    (recordsAfter clock t base css stages rs).drop k =
      recordsAfter clock t base before (stages.drop k) (rs.drop k) := by
  induction k generalizing css stages rs with
  | zero =>
    obtain rfl : css = before := by simpa [pure, Except.pure] using hb
    rfl
  | succ k ih =>
    cases stages with
    | nil =>
      obtain rfl := List.eq_nil_of_length_eq_zero hl
      simp [recordsAfter]
    | cons s stages =>
      obtain ⟨r, rs, rfl⟩ := List.exists_cons_of_length_eq_add_one hl
      rw [List.take_succ_cons, List.foldlM_cons] at hb
      cases h : s.apply t base css with
      | ok next =>
        rw [h] at hb
        simpa [recordsAfter, h] using ih (by simpa using hl) hb
      | error e =>
        rw [h] at hb
        cases hb

section Reached

/-! ## The stage that is reached -/

variable (clock) {stages : List BoundStage} {rs : List StageRecord} {css before : String} {k : Nat}
  {s : BoundStage} {r : StageRecord}

theorem getElem?_recordsAfter_of_ok {after : String} (hl : rs.length = stages.length)
    (hs : stages[k]? = some s) (hr : rs[k]? = some r)
    (hb : (stages.take k).foldlM (BoundStage.apply t base) css = .ok before)
    (h : s.apply t base before = .ok after) :
    (recordsAfter clock t base css stages rs)[k]? =
      some (completedRecord clock s before after r) := by
  have hd : ((recordsAfter clock t base css stages rs).drop k)[0]? =
      some (completedRecord clock s before after r) := by
    rw [drop_recordsAfter clock hl hb, drop_of_getElem? hs, drop_of_getElem? hr, recordsAfter, h]
    rfl
  simpa using hd

theorem drop_recordsAfter_of_error {e : TransformError} (hl : rs.length = stages.length)
    (hs : stages[k]? = some s) (hr : rs[k]? = some r)
    (hb : (stages.take k).foldlM (BoundStage.apply t base) css = .ok before)
    (h : s.apply t base before = .error e) :
    (recordsAfter clock t base css stages rs).drop k =
      failedRecord clock s e r :: (rs.drop (k + 1)).map (behindRecord s) := by
  rw [drop_recordsAfter clock hl hb, drop_of_getElem? hs, drop_of_getElem? hr, recordsAfter, h]

end Reached

/-! ## The whole -/

variable {p : Pipeline} {source : String} {state : BuildState}

/-- What every build does to its state at its start and its end. -/
def around (clock : Clock) (p : Pipeline) (t : FileTree) (status : BuildStatus)
    (records : List StageRecord) (state : BuildState) : BuildState :=
  { state with
    status, startedAt := some clock.start, finishedAt := some clock.finish, stages := records
    warnings := state.warnings ++ p.warnings t }

/-- What every build tells at its start and its end. -/
def toldAround (p : Pipeline) (id : Uuid) (status : BuildStatus) (inner : List BuildEvent) :
    List BuildEvent :=
  .started id p.name p.size :: inner ++ [.finished id status]

@[simp] theorem events_nil : Trail.events [] = [] := rfl

@[simp] theorem events_note_cons (level : LogLevel) (text : String) (trail : Trail) :
    Trail.events (note level text :: trail) = Trail.events trail := rfl

@[simp] theorem events_beginTrail (p : Pipeline) (id : Uuid) :
    Trail.events (beginTrail p id) = [.started id p.name p.size] := rfl

@[simp] theorem result_finish (r : Run) : (finish clock r).result = r.result := rfl

theorem state_finish (r : Run) :
    (finish clock r).state =
      { r.state with status := statusOf r, finishedAt := some clock.finish } := by
  rw [finish, statusOf]
  cases r.result <;> rfl

@[simp] theorem events_finish (r : Run) : Trail.events (finish clock r).trail =
    Trail.events r.trail ++ [.finished r.state.id (statusOf r)] := by
  simp [finish]

/-- The state in which a build starts on its stages. -/
def begun (clock : Clock) (p : Pipeline) (t : FileTree) (state : BuildState) : BuildState :=
  { state.start clock.start with warnings := state.warnings ++ p.warnings t }

theorem scanAll_stop (hp : p.Composed) :
    (scanAll p t).2 = p.stages.findSome? (BoundStage.scanError? t p.baseDir) :=
  scanFrom_stop .nil fun _ hs _ hc => hp.isRead hs hc

theorem scanAll_warnings (hp : p.Composed) : (scanAll p t).1.warnings = p.warnings t :=
  scanFrom_warnings .nil fun _ hs _ hc => hp.isRead hs hc

theorem scanAll_events (hp : p.Composed) :
    Trail.events (scanAll p t).1.trail = p.scanEvents t :=
  scanFrom_events .nil fun _ hs _ hc => hp.isRead hs hc

/-- Where no scan fails, each stage sees the scan of its own content. -/
theorem contextOf_scanAll (hp : p.Composed)
    (hn : p.stages.findSome? (BoundStage.scanError? t p.baseDir) = none) {s : BoundStage}
    (hs : s ∈ p.stages) : contextOf (scanAll p t).1.scans s = s.context t p.baseDir := by
  have hscans : (scanAll p t).1.scans = p.stages.map (BoundStage.content? t p.baseDir) := by
    rw [← scanAll_stop hp] at hn
    exact scanFrom_scans (g := {}) .nil (fun _ hs _ hc => hp.isRead hs hc) hn
  obtain ⟨i, hi⟩ := List.getElem?_of_mem hs
  rw [contextOf, BoundStage.context, hscans, hp.index_eq hi]
  simp [hi]

/-- A build is its scan and, unless that failed, the run of its stages. -/
theorem run_eq (clock : Clock) (t : FileTree) (source : String) (state : BuildState)
    (hp : p.Composed) :
    ∃ trail, Trail.events trail = .started state.id p.name p.size :: p.scanEvents t ∧
      run p t clock source state = finish clock
        (match p.stages.findSome? (BoundStage.scanError? t p.baseDir) with
         | some e => refused e (begun clock p t state) trail
         | none => stagesFrom clock (scanAll p t).1.scans
            ⟨.ok source, begun clock p t state, trail⟩ p.stages) := by
  refine ⟨beginTrail p state.id ++ (scanAll p t).1.trail, ?_, ?_⟩
  · rw [Trail.events_append, scanAll_events hp]
    rfl
  · rw [← scanAll_stop hp, begun, ← scanAll_warnings hp]
    rfl

/-- **A build whose content cannot be scanned** ends with the first stage whose own scan fails, and
skips all stages. -/
theorem run_of_scanError (hp : p.Composed) {e : BuildError}
    (he : p.stages.findSome? (BoundStage.scanError? t p.baseDir) = some e) :
    (run p t clock source state).result = .error e ∧
      (run p t clock source state).state = around clock p t .failed
        (state.stages.map (update (StageState.skip "content scan failed"))) state ∧
      Trail.events (run p t clock source state).trail =
        toldAround p state.id .failed (p.scanEvents t) := by
  obtain ⟨trail, ht, hrun⟩ := run_eq clock t source state hp
  rw [hrun, he]
  refine ⟨rfl, ?_, ?_⟩
  · simp [state_finish, refused, begun, around, statusOf, skipFrom, BuildState.start]
  · simp [refused, ht, toldAround, statusOf, begun, skipFrom, BuildState.start]

/-- **A build whose content can be scanned** ends as the fold of its stages over the source does,
and leaves the records that the texts before the stages give. -/
theorem run_of_scans (hp : p.Composed)
    (hn : p.stages.findSome? (BoundStage.scanError? t p.baseDir) = none)
    (hl : p.stages.length ≤ state.stages.length) :
    let r := run p t clock source state
    r.result = p.stages.foldlM (BoundStage.attempt t p.baseDir) source ∧
      r.state = around clock p t (statusOf r)
        (recordsAfter clock t p.baseDir source p.stages state.stages) state ∧
      Trail.events r.trail = toldAround p state.id (statusOf r)
        (p.scanEvents t ++ stageEvents clock t p.baseDir 0 source p.stages) := by
  obtain ⟨trail, ht, hrun⟩ := run_eq clock t source state hp
  obtain ⟨h₁, h₂, h₃⟩ := stagesFrom_spec clock trail source (begun clock p t state) []
    hp.isIndexed (fun s hs => contextOf_scanAll hp hn hs) rfl hl
  dsimp only
  rw [hrun, hn]
  dsimp only
  refine ⟨h₁, ?_, ?_⟩
  · rw [state_finish, h₂]
    rfl
  · rw [events_finish, h₃, ht, h₂]
    simp [toldAround, begun, BuildState.start, statusOf]

/-! ## Stages that are not applied -/

theorem scanFrom_congr {stages stages' : List BoundStage} {g : Scanning}
    (h : stages.map (fun s => (s.index, s.transformer.content)) =
      stages'.map fun s => (s.index, s.transformer.content)) :
    scanFrom t base g stages = scanFrom t base g stages' := by
  induction stages generalizing stages' g with
  | nil =>
    obtain rfl := List.map_eq_nil_iff.1 h.symm
    rfl
  | cons s rest ih =>
    obtain ⟨s', rest', rfl, hs, hrest⟩ := List.map_eq_cons_iff.1 h.symm
    obtain ⟨hi, hc⟩ := Prod.mk.inj hs
    simp only [scanFrom, hi, hc, ih hrest.symm]

variable (f : BoundStage → StageContext → String → Outcome) (k : Nat)

/-- What stages do makes no difference to scanning. -/
theorem scanAll_withRuns (p : Pipeline) : scanAll (p.withRuns k f) t = scanAll p t := by
  refine scanFrom_congr ?_
  have h : (p.stages.drop k).map (fun s => (s.index, s.transformer.content)) =
      ((p.stages.drop k).map (BoundStage.withRun f)).map
        fun s => (s.index, s.transformer.content) := by
    rw [List.map_map]
    rfl
  rw [Pipeline.withRuns, List.map_append, ← h, ← List.map_append, List.take_append_drop]

theorem beginTrail_withRuns (p : Pipeline) (id : Uuid) :
    beginTrail (p.withRuns k f) id = beginTrail p id := by
  have hs : (p.withRuns k f).size = p.size := by
    simp only [Pipeline.size, Pipeline.withRuns, List.length_append, List.length_map,
      List.length_take, List.length_drop]
    omega
  rw [beginTrail, beginTrail, hs]
  rfl

/-- **Where a scan fails, no stage is applied.** -/
theorem run_withRuns_of_scanError (hp : p.Composed) {e : BuildError}
    (he : p.stages.findSome? (BoundStage.scanError? t p.baseDir) = some e) :
    run (p.withRuns k f) t clock source state = run p t clock source state := by
  have hstop := scanAll_stop (t := t) hp
  rw [he] at hstop
  simp only [run, scanAll_withRuns, beginTrail_withRuns, hstop]

/-- **Where a stage fails, no stage behind it is applied.** -/
theorem run_withRuns_of_error (hp : p.Composed)
    (hn : p.stages.findSome? (BoundStage.scanError? t p.baseDir) = none)
    (hl : p.stages.length ≤ state.stages.length) {s : BoundStage} {before : String}
    {e : TransformError} (hs : p.stages[k]? = some s) (hb : p.text t source k = .ok before)
    (he : s.apply t p.baseDir before = .error e) :
    run (p.withRuns (k + 1) f) t clock source state = run p t clock source state := by
  have hk : k < p.stages.length := (List.getElem?_eq_some_iff.1 hs).1
  have hstop : (scanAll p t).2 = none := by rw [scanAll_stop hp, hn]
  have hfold : (p.stages.take (k + 1)).foldlM (BoundStage.attempt t p.baseDir) source =
      .error (.stage s.index s.kind e) :=
    foldlM_attempt_of_error (k := k) (by simpa [List.getElem?_take] using hs)
      (by rw [List.take_take, Nat.min_eq_left (by omega)]; exact hb) he
  -- the stages up to the failure end the build, whatever stands behind them
  have hend (rest : List BoundStage) (trail : Trail) :
      stagesFrom clock (scanAll p t).1.scans ⟨.ok source, begun clock p t state, trail⟩
          (p.stages.take (k + 1) ++ rest) =
        stagesFrom clock (scanAll p t).1.scans ⟨.ok source, begun clock p t state, trail⟩
          (p.stages.take (k + 1)) := by
    have hi : Pipeline.IsIndexed 0 (p.stages.take (k + 1)) := by
      intro i s' hi
      rw [List.getElem?_take] at hi
      split at hi
      · exact hp.isIndexed i s' hi
      · cases hi
    have hspec := stagesFrom_spec clock trail source (begun clock p t state) [] hi
      (fun s hs => contextOf_scanAll hp hn (List.mem_of_mem_take hs))
      (show (begun clock p t state).stages = [] ++ state.stages from rfl) (by simp; omega)
    rw [stagesFrom, List.foldl_append]
    exact stagesFrom_of_error (hspec.1.trans hfold) rest
  have hw : ({ state.start clock.start with
      warnings := state.warnings ++ (scanAll p t).1.warnings } : BuildState) =
      begun clock p t state := by
    rw [begun, scanAll_warnings hp]
  simp only [run, scanAll_withRuns, beginTrail_withRuns, hstop, hw]
  rw [Pipeline.withRuns, hend, ← hend (p.stages.drop (k + 1)), List.take_append_drop]

end Build

end StyleBuild
