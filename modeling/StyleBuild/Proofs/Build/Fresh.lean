import StyleBuild.Proofs.Build.Outcome

/-!
# A build on a fresh state

`run_fresh` says, for every composed pipeline, source and file tree, what a build that starts afresh
returns and what it leaves behind: one record for each stage, which agrees with the text before and
after the stage.
-/

namespace StyleBuild

open BuildState

namespace BuildState

/-- The record at a place is that of a stage that has completed, with the lengths of the texts
before and after it. -/
def HasCompleted (state : BuildState) (i : Nat) (s : BoundStage) (before after : String) : Prop :=
  ∃ start finish, state.stages[i]? =
    some ⟨i, s.kind, s.label, .completed before.utf8ByteSize after.utf8ByteSize start finish⟩

/-- The record at a place is that of a stage that has failed, with the text of its error. -/
def HasFailed (state : BuildState) (i : Nat) (s : BoundStage) (e : TransformError) : Prop :=
  ∃ start finish, state.stages[i]? = some ⟨i, s.kind, s.label, .failed e.message start finish⟩

/-- The record at a place is that of a stage that has been skipped. -/
def HasBeenSkipped (state : BuildState) (i : Nat) (s : BoundStage) : Prop :=
  ∃ reason, state.stages[i]? = some ⟨i, s.kind, s.label, .skipped reason⟩

end BuildState

namespace Build

variable {p : Pipeline} {t : FileTree} {clock : Clock} {source : String} {id : Uuid}

theorem findSome?_scanError_eq_none_iff :
    p.stages.findSome? (BoundStage.scanError? t p.baseDir) = none ↔
      ∀ s ∈ p.stages, s.scans t p.baseDir = true := by
  simp [BoundStage.scanError?, BoundStage.scans]

/-- The error of the first stage whose own scan fails. -/
theorem findSome?_scanError_eq_some {k : Nat} {s : BoundStage} {fault : ScanFault}
    (hp : p.Composed) (hs : p.stages[k]? = some s) (hf : s.scanFault? t p.baseDir = some fault)
    (hb : ∀ i s, i < k → p.stages[i]? = some s → s.scans t p.baseDir = true) :
    p.stages.findSome? (BoundStage.scanError? t p.baseDir) = some (.scan k fault) := by
  rw [List.findSome?_eq_some_iff]
  refine ⟨p.stages.take k, s, p.stages.drop (k + 1), ?_, ?_, ?_⟩
  · rw [← drop_of_getElem? hs, List.take_append_drop]
  · rw [BoundStage.scanError?, hf, hp.index_eq hs]
    rfl
  · intro s' hs'
    obtain ⟨i, hi, rfl⟩ := List.mem_take_iff_getElem.1 hs'
    have := hb i _ (by omega) (List.getElem?_eq_getElem (by omega))
    simpa [BoundStage.scans, BoundStage.scanError?] using this

theorem length_stages_fresh (id : Uuid) (p : Pipeline) :
    (BuildState.fresh id p).stages.length = p.stages.length := by
  simp [BuildState.fresh]

theorem getElem?_stages_fresh {i : Nat} {s : BoundStage} (hs : p.stages[i]? = some s) :
    (BuildState.fresh id p).stages[i]? = some (recordOf s) := by
  simp [BuildState.fresh, hs]

/-- Before a stage that is reached, all stages have given a text. -/
theorem text_of_le {k : Nat} {css : String} (h : p.text t source k = .ok css) {i : Nat}
    (hi : i ≤ k) : ∃ before, p.text t source i = .ok before := by
  rw [Pipeline.text, ← List.take_append_drop i (p.stages.take k), List.foldlM_append,
    List.take_take, Nat.min_eq_left hi] at h
  cases hb : p.text t source i with
  | ok before => exact ⟨before, rfl⟩
  | error e =>
    rw [← Pipeline.text, hb] at h
    cases h

theorem apply_of_text {i : Nat} {s : BoundStage} {before after : String}
    (hs : p.stages[i]? = some s) (hb : p.text t source i = .ok before)
    (ha : p.text t source (i + 1) = .ok after) : s.apply t p.baseDir before = .ok after := by
  rw [Pipeline.text_succ hs, hb] at ha
  exact ha

/-- A stage that is passed has completed. -/
theorem hasCompleted_run (hp : p.Composed)
    (hn : p.stages.findSome? (BoundStage.scanError? t p.baseDir) = none) {i : Nat}
    {s : BoundStage} {before after : String} (hs : p.stages[i]? = some s)
    (hb : p.text t source i = .ok before) (ha : p.text t source (i + 1) = .ok after) :
    (run p t clock source (.fresh id p)).state.HasCompleted i s before after := by
  have hl := length_stages_fresh id p
  have h := getElem?_recordsAfter_of_ok clock hl hs (getElem?_stages_fresh hs) hb
    (apply_of_text hs hb ha)
  refine ⟨clock.stageStart s.index, clock.stageFinish s.index, ?_⟩
  rw [(run_of_scans hp hn (Nat.le_of_eq hl.symm)).2.1]
  refine h.trans ?_
  simp [completedRecord, update, recordOf, hp.index_eq hs]

/-- All stages before one that is reached have completed. -/
theorem hasCompleted_of_lt (hp : p.Composed)
    (hn : p.stages.findSome? (BoundStage.scanError? t p.baseDir) = none) {k : Nat} {css : String}
    (hk : p.text t source k = .ok css) {i : Nat} {s : BoundStage} (hi : i < k)
    (hs : p.stages[i]? = some s) :
    ∃ before after, p.text t source i = .ok before ∧ p.text t source (i + 1) = .ok after ∧
      (run p t clock source (.fresh id p)).state.HasCompleted i s before after := by
  obtain ⟨before, hb⟩ := text_of_le hk (Nat.le_of_lt hi)
  obtain ⟨after, ha⟩ := text_of_le hk hi
  exact ⟨before, after, hb, ha, hasCompleted_run hp hn hs hb ha⟩

/-- The records that a failure of the stage at a place leaves from there on. -/
theorem drop_stages_run_of_error (clock : Clock) (id : Uuid) (hp : p.Composed)
    (hn : p.stages.findSome? (BoundStage.scanError? t p.baseDir) = none) {k : Nat}
    {s : BoundStage} {before : String} {e : TransformError} (hs : p.stages[k]? = some s)
    (hb : p.text t source k = .ok before) (he : s.apply t p.baseDir before = .error e) :
    (run p t clock source (.fresh id p)).state.stages.drop k =
      failedRecord clock s e (recordOf s) ::
        ((p.stages.drop (k + 1)).map recordOf).map (behindRecord s) := by
  have hl := length_stages_fresh id p
  rw [(run_of_scans hp hn (Nat.le_of_eq hl.symm)).2.1]
  refine (drop_recordsAfter_of_error clock hl hs (getElem?_stages_fresh hs) hb he).trans ?_
  simp [BuildState.fresh]

theorem hasFailed_run (hp : p.Composed)
    (hn : p.stages.findSome? (BoundStage.scanError? t p.baseDir) = none) {k : Nat}
    {s : BoundStage} {before : String} {e : TransformError} (hs : p.stages[k]? = some s)
    (hb : p.text t source k = .ok before) (he : s.apply t p.baseDir before = .error e) :
    (run p t clock source (.fresh id p)).state.HasFailed k s e := by
  have h := congrArg (·[0]?) (drop_stages_run_of_error clock id hp hn hs hb he)
  simp only [List.getElem?_drop, Nat.add_zero] at h
  refine ⟨clock.stageStart s.index, clock.stageFinish s.index, h.trans ?_⟩
  simp [failedRecord, update, recordOf, hp.index_eq hs]

/-- All stages behind one that fails are skipped. -/
theorem hasBeenSkipped_of_error (hp : p.Composed)
    (hn : p.stages.findSome? (BoundStage.scanError? t p.baseDir) = none) {k : Nat}
    {s : BoundStage} {before : String} {e : TransformError} (hs : p.stages[k]? = some s)
    (hb : p.text t source k = .ok before) (he : s.apply t p.baseDir before = .error e) {i : Nat}
    {s' : BoundStage} (hi : k < i) (hs' : p.stages[i]? = some s') :
    (run p t clock source (.fresh id p)).state.HasBeenSkipped i s' := by
  obtain ⟨j, rfl⟩ := Nat.exists_eq_add_of_lt hi
  have h := congrArg (·[j + 1]?)
    (drop_stages_run_of_error clock id hp hn hs hb he)
  simp only [List.getElem?_drop, ← Nat.add_assoc, List.getElem?_cons_succ, List.getElem?_map] at h
  rw [show k + 1 + j = k + j + 1 by omega, hs'] at h
  refine ⟨"stage " ++ decimalText s.index ++ " failed", h.trans ?_⟩
  simp [behindRecord, update, recordOf, StageState.skip, StageState.isTerminal, hp.index_eq hs']

theorem hasBeenSkipped_of_scanError (hp : p.Composed) {e : BuildError}
    (he : p.stages.findSome? (BoundStage.scanError? t p.baseDir) = some e) {i : Nat}
    {s : BoundStage} (hs : p.stages[i]? = some s) :
    (run p t clock source (.fresh id p)).state.HasBeenSkipped i s := by
  refine ⟨"content scan failed", ?_⟩
  rw [(run_of_scanError hp he).2.1]
  simp [around, getElem?_stages_fresh hs, update, recordOf, StageState.skip,
    StageState.isTerminal, hp.index_eq hs]

theorem length_stages_run (hp : p.Composed) :
    (run p t clock source (.fresh id p)).state.stages.length = p.size := by
  have hl := length_stages_fresh id p
  cases he : p.stages.findSome? (BoundStage.scanError? t p.baseDir) with
  | some e =>
    rw [(run_of_scanError hp he).2.1]
    simpa [around, Pipeline.size] using hl
  | none =>
    rw [(run_of_scans hp he (Nat.le_of_eq hl.symm)).2.1]
    simpa [around, Pipeline.size] using hl

/-- A build on a fresh state returns a text exactly when all scans and all stages succeed. -/
theorem result_run_fresh_eq_ok_iff (hp : p.Composed) {out : String} :
    (run p t clock source (.fresh id p)).result = .ok out ↔
      (∀ s ∈ p.stages, s.scans t p.baseDir = true) ∧ p.text t source p.size = .ok out := by
  rw [← findSome?_scanError_eq_none_iff]
  cases he : p.stages.findSome? (BoundStage.scanError? t p.baseDir) with
  | some e => simp [(run_of_scanError hp he).1]
  | none =>
    have hl := length_stages_fresh id p
    rw [(run_of_scans hp he (Nat.le_of_eq hl.symm)).1, foldlM_attempt_eq_ok, Pipeline.text,
      Pipeline.size, List.take_length]
    simp

/-- **A build on a fresh state.** It returns a text exactly when all scans and all stages succeed.
The first stage that fails, or else the first scan that does, is the error, and nothing behind it is
applied. -/
theorem run_fresh (hp : p.Composed) (t : FileTree) (clock : Clock) (source : String) (id : Uuid) :
    let done := run p t clock source (.fresh id p)
    done.state.stages.length = p.size ∧
    ((∃ out, done.result = .ok out) ↔
      (∀ s ∈ p.stages, s.scans t p.baseDir = true) ∧ ∃ out, p.text t source p.size = .ok out) ∧
    -- success
    (∀ out, done.result = .ok out →
      p.text t source p.size = .ok out ∧ done.state.status = .completed ∧
      ∀ i s, p.stages[i]? = some s → ∃ before after, p.text t source i = .ok before ∧
        p.text t source (i + 1) = .ok after ∧ done.state.HasCompleted i s before after) ∧
    -- the first failure is that of stage `k`
    (∀ k s before e, (∀ s ∈ p.stages, s.scans t p.baseDir = true) → p.stages[k]? = some s →
      p.text t source k = .ok before → s.apply t p.baseDir before = .error e →
      done.result = .error (.stage k s.kind e) ∧ done.state.status = .failed ∧
      (∀ i s, i < k → p.stages[i]? = some s → ∃ before after, p.text t source i = .ok before ∧
        p.text t source (i + 1) = .ok after ∧ done.state.HasCompleted i s before after) ∧
      done.state.HasFailed k s e ∧
      (∀ i s, k < i → p.stages[i]? = some s → done.state.HasBeenSkipped i s) ∧
      ∀ f, run (p.withRuns (k + 1) f) t clock source (.fresh id p) = done) ∧
    -- the first failure is that of the scan of stage `k`
    (∀ k s fault, p.stages[k]? = some s → s.scanFault? t p.baseDir = some fault →
      (∀ i s, i < k → p.stages[i]? = some s → s.scans t p.baseDir = true) →
      done.result = .error (.scan k fault) ∧ done.state.status = .failed ∧
      (∀ i s, p.stages[i]? = some s → done.state.HasBeenSkipped i s) ∧
      ∀ f, run (p.withRuns 0 f) t clock source (.fresh id p) = done) := by
  have hl := Nat.le_of_eq (length_stages_fresh id p).symm
  intro done
  refine ⟨length_stages_run hp, ?_, ?_, ?_, ?_⟩
  · simp only [done, result_run_fresh_eq_ok_iff hp, exists_and_left]
  · intro out hout
    obtain ⟨hscans, htext⟩ := (result_run_fresh_eq_ok_iff hp).1 hout
    have hn := findSome?_scanError_eq_none_iff.2 hscans
    refine ⟨htext, ?_, fun i s hs => hasCompleted_of_lt hp hn htext ?_ hs⟩
    · rw [(run_of_scans hp hn hl).2.1, around, statusOf, hout]
    · exact (List.getElem?_eq_some_iff.1 hs).1
  · intro k s before e hscans hs hb he
    have hn := findSome?_scanError_eq_none_iff.2 hscans
    have hr : done.result = .error (.stage k s.kind e) := by
      rw [(run_of_scans hp hn hl).1, foldlM_attempt_of_error hs hb he, hp.index_eq hs]
    refine ⟨hr, ?_, fun i s' hi hs' => hasCompleted_of_lt hp hn hb hi hs',
      hasFailed_run hp hn hs hb he,
      fun i s' hi hs' => hasBeenSkipped_of_error hp hn hs hb he hi hs',
      fun f => run_withRuns_of_error f k hp hn hl hs hb he⟩
    rw [(run_of_scans hp hn hl).2.1, around, statusOf, hr]
  · intro k s fault hs hf hb
    have he := findSome?_scanError_eq_some hp hs hf hb
    refine ⟨(run_of_scanError hp he).1, ?_, fun i s' hs' => hasBeenSkipped_of_scanError hp he hs',
      fun f => run_withRuns_of_scanError f 0 hp he⟩
    rw [(run_of_scanError hp he).2.1, around]

/-- A build whose second stage cannot read its input. -/
theorem run_fresh_unreadable :
    Pipeline.sample.Composed ∧
    (let done := run .sample {} {} ".a..b {}" (.fresh default .sample)
     done.result = .error (.stage 1 "rule-pruning"
        (.parse "Expected identifier in class selector, got Delim('.') at :0:4")) ∧
      done.state.status = .failed ∧
      (∃ s, done.state.HasCompleted 0 s ".a..b {}" ".a..b {}") ∧
      (∃ s, done.state.HasBeenSkipped 2 s) ∧
      ∀ f, run (Pipeline.sample.withRuns 2 f) {} {} ".a..b {}" (.fresh default .sample) =
        done) := by
  have hp := Pipeline.composed_sample
  have hscans : ∀ s ∈ Pipeline.sample.stages, s.scans {} "." = true := by decide +kernel
  have h₀ : Pipeline.sample.text {} ".a..b {}" 0 = .ok ".a..b {}" := rfl
  have h₁ : Pipeline.sample.text {} ".a..b {}" 1 = .ok ".a..b {}" := by decide +kernel
  obtain ⟨-, -, -, hstage, -⟩ := run_fresh hp {} {} ".a..b {}" default
  obtain ⟨hresult, hstatus, hbefore, -, hbehind, hsame⟩ :=
    hstage 1 _ _ (.parse "Expected identifier in class selector, got Delim('.') at :0:4") hscans
      rfl h₁ (by decide +kernel)
  obtain ⟨before, after, hb, ha, hcompleted⟩ := hbefore 0 _ (by decide) rfl
  obtain rfl : ".a..b {}" = before := by simpa [h₀] using hb
  obtain rfl : ".a..b {}" = after := by simpa [h₁] using ha
  exact ⟨hp, hresult, hstatus, ⟨_, hcompleted⟩, ⟨_, hbehind 2 _ (by decide) rfl⟩, hsame⟩

end Build

end StyleBuild
