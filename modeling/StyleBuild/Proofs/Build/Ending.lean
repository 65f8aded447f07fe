import Mathlib.Algebra.Group.Nat.Defs
import Mathlib.Data.Nat.Log
import StyleBuild.Number.Binary64
import StyleBuild.Proofs.Build.Replay

/-!
# What every build leaves

A build may start from any state with a record for each stage. The records stay those of the same
stages, each of them reaches its end, the status says whether there is a result, and the warnings of
the build stand behind those that were there (`run_leaves`). That the stages which a build does not
reach reach their end as well is what skipping is for (`isTerminal_recordsAfter`).

A finite number other than zero divided by itself is one (`Binary64.quotient_self`), and naturals
that fit a machine word are finite numbers (`Binary64.exists_ofNat_eq`). So the progress of a build
that has ended is one, exactly.
-/

/-! ## Quotients -/

namespace StyleBuild.Binary64

variable {num den k n : Nat}

theorem roundedQuotient_mul_self (k : Nat) (h : 0 < den) : roundedQuotient (k * den) den = k := by
  have hodd : ¬ (den < 2 * 0 ∨ 2 * 0 = den ∧ k % 2 = 1) := by omega
  rw [roundedQuotient, Nat.mul_div_cancel _ h, Nat.mul_mod_left, if_neg hodd]

theorem div_le_roundedQuotient (num den : Nat) : num / den ≤ roundedQuotient num den := by
  unfold roundedQuotient
  dsimp only
  split <;> omega

/-- A positive natural divided by itself is one. -/
theorem ofRatio_self (h : 0 < k) : ofRatio false k k = .finite false (Nat.pow 2 52) (-52) := by
  have hzero : ¬ (k = 0 ∨ k = 0) := by omega
  have hguess : (Nat.log2 k : Int) - Nat.log2 k - 53 = -53 := by omega
  have hbits : (if (0 : Int) ≤ -53 then k / (k * Nat.pow 2 (-53 : Int).toNat)
      else k * Nat.pow 2 (-(-53) : Int).toNat / k) = Nat.pow 2 53 := by
    rw [if_neg (by decide)]
    exact Nat.mul_div_cancel_left _ h
  have hscaled : scaledQuotient k k (-52) = Nat.pow 2 52 := by
    rw [scaledQuotient, if_neg (by decide), Nat.mul_comm]
    exact roundedQuotient_mul_self _ h
  rw [ofRatio, if_neg hzero]
  dsimp only
  rw [hguess, hbits, if_pos (Nat.le_refl _), show max leastExponent (-53 + 1) = -52 from rfl,
    hscaled]
  rfl

theorem ratioOf_pos {m : Nat} (h : 0 < m) (e : Int) :
    0 < (ratioOf m e).1 ∧ 0 < (ratioOf m e).2 := by
  unfold ratioOf
  split
  · exact ⟨Nat.mul_pos h (Nat.two_pow_pos _), Nat.one_pos⟩
  · exact ⟨h, Nat.two_pow_pos _⟩

/-- A finite number other than zero divided by itself is one. -/
theorem quotient_self {m : Nat} (h : 0 < m) (s : Bool) (e : Int) :
    (finite s m e).quotient (.finite s m e) = ofNat 1 := by
  obtain ⟨ha, hb⟩ := ratioOf_pos h e
  rw [quotient, ofNat, ofRatio_self Nat.one_pos]
  dsimp only
  rw [Nat.mul_comm (ratioOf m e).2]
  exact ofRatio_self (Nat.mul_pos ha hb)

/-- A natural is not rounded to zero at an exponent at which it has digits. -/
theorem scaledQuotient_pos (h : 0 < n) {e : Int} (he : e ≤ n.log2) : 0 < scaledQuotient n 1 e := by
  unfold scaledQuotient
  split
  · next hpos =>
    have hle : Nat.pow 2 e.toNat ≤ n := by
      have : e.toNat ≤ n.log2 := by omega
      exact (Nat.le_log2 h.ne').1 this
    rw [Nat.one_mul]
    exact (Nat.div_pos hle (Nat.two_pow_pos _)).trans_le (div_le_roundedQuotient _ _)
  · rw [← Nat.mul_one (n * _), roundedQuotient_mul_self _ Nat.one_pos]
    exact Nat.mul_pos h (Nat.two_pow_pos _)

/-- A natural that fits a machine word is a finite number. -/
theorem exists_ofNat_eq (h : 0 < n) (hword : n < 2 ^ 64) :
    ∃ m e, ofNat n = .finite false m e ∧ 0 < m := by
  have hlog : n.log2 < 64 := (Nat.log2_lt h.ne').2 hword
  have hzero : ¬ (n = 0 ∨ 1 = 0) := by omega
  rw [ofNat, ofRatio, if_neg hzero]
  dsimp only
  generalize hg : ((n.log2 : Int) - Nat.log2 1 - 53) = guess
  have hguess : guess = n.log2 - 53 := by
    rw [← hg, show Nat.log2 1 = 0 by decide]
    omega
  generalize (if (0 : Int) ≤ guess then _ else _) = q
  generalize he : max leastExponent (if Nat.pow 2 53 ≤ q then guess + 1 else guess) = e
  have hle : e ≤ n.log2 - 52 := by
    rw [← he, leastExponent]
    split <;> omega
  have hm := scaledQuotient_pos (e := e) h (by omega)
  by_cases hround : scaledQuotient n 1 e = Nat.pow 2 53
  · rw [if_pos hround, if_neg (by rw [greatestExponent]; omega)]
    exact ⟨_, _, rfl, Nat.two_pow_pos 52⟩
  · rw [if_neg hround, if_neg (by rw [greatestExponent]; omega)]
    exact ⟨_, _, rfl, hm⟩

end StyleBuild.Binary64

namespace StyleBuild

open BuildState

/-- Which stage a record is about. -/
def StageRecord.subject (r : StageRecord) : Nat × String × String := (r.index, r.kind, r.label)

namespace BuildState

@[simp] theorem subject_update (f : StageState → StageState) (r : StageRecord) :
    (update f r).subject = r.subject := rfl

/-- Where all stages have reached their end, the progress is one. -/
theorem progress_eq_one {s : BuildState} (hne : s.stages ≠ []) (hword : s.stages.length < 2 ^ 64)
    (h : ∀ r ∈ s.stages, r.state.isTerminal = true) : s.progress = .ofNat 1 := by
  have hall : s.finishedStages = s.stages.length := List.countP_eq_length.2 h
  obtain ⟨m, e, hm, hpos⟩ := Binary64.exists_ofNat_eq (List.length_pos_iff.2 hne) hword
  rw [progress, if_neg (by simpa using hne), hall, hm]
  exact Binary64.quotient_self hpos _ _

end BuildState

namespace Build

variable {clock : Clock} {t : FileTree} {base : String}

/-! ## Records -/

theorem map_subject_recordsAfter (css : String) (stages : List BoundStage)
    (rs : List StageRecord) :
    (recordsAfter clock t base css stages rs).map StageRecord.subject =
      rs.map StageRecord.subject := by
  induction stages generalizing css rs with
  | nil => simp [recordsAfter]
  | cons s stages ih =>
    cases rs with
    | nil => simp [recordsAfter]
    | cons r rs =>
      rw [recordsAfter]
      cases s.apply t base css with
      | ok out => simp [ih, completedRecord]
      | error e => simp [failedRecord, behindRecord, Function.comp_def]

/-- Whatever records there are, each has reached its end when the stages have run: it is reached, or
it is skipped behind a failure. -/
theorem isTerminal_recordsAfter {css : String} {stages : List BoundStage} {rs : List StageRecord}
    (hl : rs.length = stages.length) :
    ∀ r ∈ recordsAfter clock t base css stages rs, r.state.isTerminal = true := by
  induction stages generalizing css rs with
  | nil =>
    obtain rfl := List.eq_nil_of_length_eq_zero hl
    simp [recordsAfter]
  | cons s stages ih =>
    obtain ⟨r, rs, rfl⟩ := List.exists_cons_of_length_eq_add_one hl
    rw [recordsAfter]
    cases s.apply t base css with
    | ok out => exact List.forall_mem_cons.2 ⟨rfl, ih (by simpa using hl)⟩
    | error e =>
      refine List.forall_mem_cons.2 ⟨rfl, List.forall_mem_map.2 fun r _ => ?_⟩
      exact StageState.isTerminal_skip _ _

/-- If no stage fails, all of them complete. -/
theorem isCompleted_recordsAfter {css out : String} {stages : List BoundStage}
    {rs : List StageRecord} (hl : rs.length = stages.length)
    (h : stages.foldlM (BoundStage.attempt t base) css = .ok out) :
    ∀ r ∈ recordsAfter clock t base css stages rs, r.state.isCompleted = true := by
  induction stages generalizing css rs with
  | nil =>
    obtain rfl := List.eq_nil_of_length_eq_zero hl
    simp [recordsAfter]
  | cons s stages ih =>
    obtain ⟨r, rs, rfl⟩ := List.exists_cons_of_length_eq_add_one hl
    rw [List.foldlM_cons] at h
    rw [recordsAfter]
    cases happly : s.apply t base css with
    | ok next =>
      rw [BoundStage.attempt_of_ok happly] at h
      exact List.forall_mem_cons.2 ⟨rfl, ih (by simpa using hl) h⟩
    | error e =>
      rw [BoundStage.attempt_of_error happly] at h
      cases h

/-! ## The whole -/

variable {p : Pipeline} {state : BuildState}

/-- The state that a build leaves: the records that it leaves in place of those there were, its
status, its times and its warnings. -/
theorem exists_state_run (hp : p.Composed) (hl : state.stages.length = p.stages.length)
    (t : FileTree) (clock : Clock) (source : String) :
    let done := run p t clock source state
    ∃ records, done.state = around clock p t (statusOf done) records state ∧
      records.map StageRecord.subject = state.stages.map StageRecord.subject ∧
      (∀ r ∈ records, r.state.isTerminal = true) ∧
      ∀ out, done.result = .ok out → ∀ r ∈ records, r.state.isCompleted = true := by
  intro done
  cases he : p.stages.findSome? (BoundStage.scanError? t p.baseDir) with
  | some e =>
    obtain ⟨hresult, hstate, -⟩ :=
      @run_of_scanError clock t p source state hp e he
    refine ⟨_, hstate.trans (by rw [statusOf, hresult]), by simp [Function.comp_def], ?_, ?_⟩
    · exact List.forall_mem_map.2 fun r _ => StageState.isTerminal_skip _ _
    · intro out hout
      cases hresult.symm.trans hout
  | none =>
    obtain ⟨hresult, hstate, -⟩ :=
      @run_of_scans clock t p source state hp he hl.ge
    refine ⟨_, hstate, map_subject_recordsAfter _ _ _, isTerminal_recordsAfter hl, ?_⟩
    intro out hout
    exact isCompleted_recordsAfter hl (hresult.symm.trans hout)

/-- **What every build leaves.** It may start from any state with a record for each stage. The
records are about the same stages, and so is the state about the same build; every record has
reached its end, so that the progress is one (the lengths of lists fit a machine word; a length
beyond all floating-point numbers would be infinite). The status tells whether there is a result; if
there is, every stage has completed. The warnings are those that were there and, behind them, one
for each pattern that matched nothing in the scans of this build, in the order of the stages. -/
theorem run_leaves (hp : p.Composed) (hl : state.stages.length = p.stages.length)
    (t : FileTree) (clock : Clock) (source : String) :
    let done := run p t clock source state
    (done.state.id = state.id ∧ done.state.pipeline = state.pipeline ∧
      done.state.stages.length = state.stages.length ∧
      done.state.stages.map StageRecord.subject = state.stages.map StageRecord.subject) ∧
    (∀ r ∈ done.state.stages, r.state.isTerminal = true) ∧
    (p.stages ≠ [] → p.stages.length < 2 ^ 64 → done.state.progress = .ofNat 1) ∧
    (done.state.status = .completed ↔ ∃ out, done.result = .ok out) ∧
    (done.state.status = .failed ↔ ∃ e, done.result = .error e) ∧
    (∀ out, done.result = .ok out → ∀ r ∈ done.state.stages, r.state.isCompleted = true) ∧
    done.state.warnings = state.warnings ++
      (p.stages.takeWhile (BoundStage.scans t p.baseDir)).flatMap (ownWarnings t p.baseDir) := by
  intro done
  obtain ⟨records, hstate, hsubject, hterminal, hcompleted⟩ :=
    exists_state_run hp hl t clock source
  have hlength : records.length = state.stages.length := by
    simpa using congrArg List.length hsubject
  have hstages : done.state.stages = records := by rw [hstate]; rfl
  have hstatus : done.state.status = statusOf done := by rw [hstate]; rfl
  refine ⟨⟨?_, ?_, ?_, ?_⟩, ?_, ?_, ?_, ?_, ?_, ?_⟩
  · rw [hstate]; rfl
  · rw [hstate]; rfl
  · rw [hstages, hlength]
  · rw [hstages, hsubject]
  · rw [hstages]
    exact hterminal
  · intro hne hword
    have hnonempty : done.state.stages ≠ [] := by
      rw [hstages, ← List.length_pos_iff, hlength, hl]
      exact List.length_pos_iff.2 hne
    exact progress_eq_one hnonempty (by rwa [hstages, hlength, hl]) (by rwa [hstages])
  · rw [hstatus]
    exact statusOf_eq_completed_iff
  · rw [hstatus, statusOf]
    cases done.result <;> simp
  · rw [hstages]
    exact hcompleted
  · rw [hstate]
    rfl

/-- A state that earlier builds left with records of all kinds. -/
def mixedState : BuildState :=
  { id := default, pipeline := "site", status := .failed, warnings := [⟨1, "out/*.html"⟩]
    stages := [⟨0, "utility-generation", "utility-generation", .completed 3 5 default default⟩,
      ⟨1, "rule-pruning", "rule-pruning", .running default⟩,
      ⟨2, "minification", "last", .pending⟩] }

/-- A build from such a state whose second stage cannot read its input. -/
theorem run_leaves_mixed :
    Pipeline.sample.Composed ∧ mixedState.stages.length = Pipeline.sample.stages.length ∧
    (let done := run .sample {} {} ".a..b {}" mixedState
     done.state.stages.map StageRecord.subject = [(0, "utility-generation", "utility-generation"),
        (1, "rule-pruning", "rule-pruning"), (2, "minification", "last")] ∧
      (∀ r ∈ done.state.stages, r.state.isTerminal = true) ∧ done.state.progress = .ofNat 1 ∧
      (∃ e, done.result = .error e) ∧ done.state.warnings = [⟨1, "out/*.html"⟩]) := by
  have hp := Pipeline.composed_sample
  have hl : mixedState.stages.length = Pipeline.sample.stages.length := rfl
  obtain ⟨⟨-, -, -, hsubject⟩, hterminal, hprogress, -, hfailed, -, hwarnings⟩ :=
    run_leaves hp hl {} {} ".a..b {}"
  exact ⟨hp, hl, hsubject, hterminal, hprogress (by decide) (by decide),
    hfailed.1 (by decide +kernel), hwarnings.trans (by decide +kernel)⟩

end Build

end StyleBuild
