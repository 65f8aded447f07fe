import StyleBuild.Proofs.Build.Agreement

/-!
# Pipelines one behind the other

A configuration with stages `A ++ B` composes to the pipeline of `A` and behind it that of `B`,
whose stages stand further on (`compose_append`). Since the stages that every build knows do not
look at their places, a build of the whole is a build of the first part and then one of the second
on what the first made (`run_stages_append`). Only places change: those of errors, and those that
the reasons for skipping stages name.
-/

namespace StyleBuild

open BuildState

/-! ## Places -/

/-- A stage that stands further on. -/
def BoundStage.moved (n : Nat) (s : BoundStage) : BoundStage := { s with index := n + s.index }

/-- An error of a stage that stands further on. -/
def BuildError.moved (n : Nat) : BuildError → BuildError
  | .noStages => .noStages
  | .unknownKind i kind => .unknownKind (n + i) kind
  | .invalidOptions i kind fault => .invalidOptions (n + i) kind fault
  | .scan i fault => .scan (n + i) fault
  | .stage i kind error => .stage (n + i) kind error

/-- What became of a stage, with another reason for skipping it. -/
def StageState.withReason (reason : String) : StageState → StageState
  | .skipped _ => .skipped reason
  | x => x

/-- The reason for which an error makes a build skip stages. -/
def BuildError.skipReason : BuildError → String
  | .scan .. => "content scan failed"
  | .stage i .. => "stage " ++ decimalText i ++ " failed"
  | _ => ""

/-! ## Pipelines -/

namespace Pipeline

variable {r : Registry} {theme : Option Theme} {n k : Nat} {specs specs' : List StageSpec}
  {stages : List BoundStage}

theorem bindStage_add (r : Registry) (theme : Option Theme) (k n : Nat) (spec : StageSpec)
    {s : BoundStage} (h : bindStage r theme (k + n) spec = .ok s) :
    ∃ s', bindStage r theme n spec = .ok s' ∧ s = s'.moved k := by
  unfold bindStage at h
  split at h
  · cases h
  · cases h
  · next t ht =>
    cases h
    exact ⟨⟨n, spec.kind, spec.label, t⟩, by rw [bindStage, ht], rfl⟩

/-- Stages that are made further on are the same, but for their places. -/
theorem bindStages_add (h : bindStages r theme (k + n) specs = .ok stages) :
    ∃ stages', bindStages r theme n specs = .ok stages' ∧
      stages = stages'.map (BoundStage.moved k) := by
  induction specs generalizing n stages with
  | nil =>
    cases h
    exact ⟨[], rfl, rfl⟩
  | cons spec specs ih =>
    obtain ⟨s, rest, hs, hr, rfl⟩ := bindStages_cons_inv h
    obtain ⟨s', hs', rfl⟩ := bindStage_add r theme k n spec hs
    obtain ⟨rest', hr', rfl⟩ := ih (n := n + 1) hr
    exact ⟨s' :: rest', by simp [bindStages, hs', hr', bind, Except.bind, pure, Except.pure], rfl⟩

theorem bindStages_append (h : bindStages r theme n (specs ++ specs') = .ok stages) :
    ∃ first second, bindStages r theme n specs = .ok first ∧
      bindStages r theme (n + specs.length) specs' = .ok second ∧ stages = first ++ second := by
  induction specs generalizing n stages with
  | nil => exact ⟨[], stages, rfl, h, rfl⟩
  | cons spec specs ih =>
    obtain ⟨s, rest, hs, hr, rfl⟩ := bindStages_cons_inv h
    obtain ⟨first, second, hf, hsecond, rfl⟩ := ih hr
    refine ⟨s :: first, second, ?_, ?_, rfl⟩
    · simp [bindStages, hs, hf, bind, Except.bind, pure, Except.pure]
    · rw [List.length_cons, ← hsecond]
      congr 1
      omega

theorem compose_eq_of_bindStages {c : Config} {stages : List BoundStage} (hne : c.stages ≠ [])
    (h : bindStages r c.theme 0 c.stages = .ok stages) :
    compose c r = .ok ⟨c.name, c.base, stages⟩ := by
  rw [compose, if_neg (by simpa using hne), h]
  rfl

/-- **Pipelines compose by parts**: a pipeline of stages in two parts is that of the first part, and
behind it that of the second, whose stages stand further on. -/
theorem compose_append {c : Config} {A B : List StageSpec} {p : Pipeline} (hc : c.stages = A ++ B)
    (hA : A ≠ []) (hB : B ≠ []) (hp : compose c r = .ok p) :
    ∃ a b, compose { c with stages := A } r = .ok a ∧ compose { c with stages := B } r = .ok b ∧
      a.baseDir = p.baseDir ∧ b.baseDir = p.baseDir ∧
      a.stages.length = A.length ∧ b.stages.length = B.length ∧
      p.stages = a.stages ++ b.stages.map (BoundStage.moved A.length) := by
  obtain ⟨-, -, hbase, hstages⟩ := compose_eq_ok hp
  rw [hc] at hstages
  obtain ⟨first, second, hf, hs, hp'⟩ := bindStages_append hstages
  obtain ⟨second, hs', rfl⟩ := bindStages_add (n := 0) (k := A.length) (by simpa using hs)
  exact ⟨_, _, compose_eq_of_bindStages (c := { c with stages := A }) hA hf,
    compose_eq_of_bindStages (c := { c with stages := B }) hB hs', hbase.symm, hbase.symm,
    (bindStages_eq_ok hf).1, (bindStages_eq_ok hs').1, hp'⟩

end Pipeline

/-! ## Stages further on -/

namespace BoundStage

variable {t : FileTree} {base css : String} {n : Nat} {s : BoundStage}

/-- A stage that does the same wherever it stands. -/
def IgnoresPlace (s : BoundStage) : Prop :=
  ∀ n t base css, (s.moved n).apply t base css = s.apply t base css

theorem ignoresPlace_of_isBuiltIn {c : Config} {spec : StageSpec}
    (h : s.transformer.IsBuiltIn c spec) : s.IgnoresPlace :=
  fun n t base css => h.result_run_index (n + s.index) s.index (s.content? t base) css

theorem attempt_moved (h : s.IgnoresPlace) :
    (s.moved n).attempt t base css = (s.attempt t base css).mapError (BuildError.moved n) := by
  rw [attempt, attempt, h]
  cases s.apply t base css <;> rfl

end BoundStage

namespace Build

variable {t : FileTree} {base css : String} {n : Nat} {stages stages' : List BoundStage}
  {rs rs' : List StageRecord}

theorem foldlM_attempt_moved (h : ∀ s ∈ stages, s.IgnoresPlace) :
    (stages.map (BoundStage.moved n)).foldlM (BoundStage.attempt t base) css =
      (stages.foldlM (BoundStage.attempt t base) css).mapError (BuildError.moved n) := by
  induction stages generalizing css with
  | nil => rfl
  | cons s stages ih =>
    have hrest : ∀ s ∈ stages, s.IgnoresPlace := fun s hs => h s (List.mem_cons_of_mem _ hs)
    rw [List.map_cons, List.foldlM_cons, List.foldlM_cons,
      BoundStage.attempt_moved (h s List.mem_cons_self)]
    cases s.attempt t base css with
    | ok out => exact ih hrest
    | error e => rfl

/-- What became of stages, without times. -/
def fatesOf (rs : List StageRecord) : List StageState := rs.map fun r => r.state.timeless

/-- What became of the stages of a build, without times. -/
def Run.fates (r : Run) : List StageState := fatesOf r.state.stages

theorem fatesOf_append : fatesOf (rs ++ rs') = fatesOf rs ++ fatesOf rs' := List.map_append

theorem fatesOf_congr
    (h : rs.map (update StageState.timeless) = rs'.map (update StageState.timeless)) :
    fatesOf rs = fatesOf rs' := by
  have := congrArg (List.map StageRecord.state) h
  simpa [fatesOf, update, Function.comp_def] using this

/-- The times of a build do not matter. -/
theorem fatesOf_recordsAfter_clock (clock clock' : Clock) (css : String)
    (stages : List BoundStage) (rs : List StageRecord) :
    fatesOf (recordsAfter clock t base css stages rs) =
      fatesOf (recordsAfter clock' t base css stages rs) :=
  fatesOf_congr (recordsAfter_congr clock clock' (fun _ _ _ _ _ => rfl) rs)

/-- The fates of stages that have not run, where a build skips them. -/
theorem fatesOf_skip (h : ∀ r ∈ rs, r.state = .pending) (reason : String) :
    fatesOf (rs.map (update (StageState.skip reason))) =
      List.replicate rs.length (.skipped reason) := by
  induction rs with
  | nil => rfl
  | cons r rs ih =>
    have hr := h r List.mem_cons_self
    have hrest := ih fun r hr => h r (List.mem_cons_of_mem _ hr)
    rw [List.map_cons, fatesOf, List.map_cons, ← fatesOf, hrest, List.length_cons,
      List.replicate_succ, update, hr]
    rfl

/-- **Records of stages in two parts**: those of the first part, and behind them those of the second
on what the first part made, or skipped ones. -/
theorem recordsAfter_append (clock : Clock) (hl : rs.length = stages.length) :
    recordsAfter clock t base css (stages ++ stages') (rs ++ rs') =
      recordsAfter clock t base css stages rs ++
        match stages.foldlM (BoundStage.attempt t base) css with
        | .ok out => recordsAfter clock t base out stages' rs'
        | .error e => rs'.map (update (StageState.skip e.skipReason)) := by
  induction stages generalizing css rs with
  | nil =>
    obtain rfl := List.eq_nil_of_length_eq_zero hl
    simp [recordsAfter, pure, Except.pure]
  | cons s stages ih =>
    obtain ⟨r, rs, rfl⟩ := List.exists_cons_of_length_eq_add_one hl
    rw [List.cons_append, List.cons_append, recordsAfter, recordsAfter, List.foldlM_cons]
    cases h : s.apply t base css with
    | ok out =>
      rw [BoundStage.attempt_of_ok h]
      exact congrArg (_ :: ·) (ih (by simpa using hl))
    | error e =>
      rw [BoundStage.attempt_of_error h]
      simp only [bind, Except.bind, List.map_append, List.cons_append]
      rfl

/-- **Records of stages further on** are the same, but for the place that the reason of a skip
names. -/
theorem fatesOf_recordsAfter_moved (clock : Clock) (h : ∀ s ∈ stages, s.IgnoresPlace)
    (hr : ∀ r ∈ rs, r.state = .pending) (hr' : ∀ r ∈ rs', r.state = .pending)
    (hl : rs.length = stages.length) (hl' : rs'.length = stages.length) {reason : String}
    (he : ∀ e, stages.foldlM (BoundStage.attempt t base) css = .error e →
      reason = (e.moved n).skipReason) :
    fatesOf (recordsAfter clock t base css (stages.map (BoundStage.moved n)) rs) =
      (fatesOf (recordsAfter clock t base css stages rs')).map (StageState.withReason reason) := by
  induction stages generalizing css rs rs' with
  | nil =>
    obtain rfl := List.eq_nil_of_length_eq_zero hl
    obtain rfl := List.eq_nil_of_length_eq_zero hl'
    rfl
  | cons s stages ih =>
    obtain ⟨r, rs, rfl⟩ := List.exists_cons_of_length_eq_add_one hl
    obtain ⟨r', rs', rfl⟩ := List.exists_cons_of_length_eq_add_one hl'
    have hrest : ∀ r ∈ rs, r.state = .pending := fun r h => hr r (List.mem_cons_of_mem _ h)
    have hrest' : ∀ r ∈ rs', r.state = .pending := fun r h => hr' r (List.mem_cons_of_mem _ h)
    rw [List.map_cons, recordsAfter, recordsAfter, h s List.mem_cons_self]
    rw [List.foldlM_cons] at he
    cases hout : s.apply t base css with
    | ok out =>
      rw [BoundStage.attempt_of_ok hout] at he
      have := ih (fun s hs => h s (List.mem_cons_of_mem _ hs)) hrest hrest' (by simpa using hl)
        (by simpa using hl') he
      exact congrArg (_ :: ·) this
    | error e =>
      rw [BoundStage.attempt_of_error hout] at he
      obtain rfl := he _ rfl
      let e' := BuildError.stage s.index s.kind e
      have hlength : rs.length = rs'.length := by simp_all
      have hbehind : fatesOf (rs.map (behindRecord (s.moved n))) =
          (fatesOf (rs'.map (behindRecord s))).map
            (StageState.withReason (e'.moved n).skipReason) :=
        calc fatesOf (rs.map (behindRecord (s.moved n)))
          _ = List.replicate rs.length (.skipped (e'.moved n).skipReason) := fatesOf_skip hrest _
          _ = (List.replicate rs'.length (.skipped e'.skipReason)).map
              (StageState.withReason (e'.moved n).skipReason) := by
            rw [hlength, List.map_replicate]
            rfl
          _ = _ := congrArg (List.map _) (fatesOf_skip hrest' _).symm
      exact congrArg (_ :: ·) hbehind

/-- Where all stages complete, none is skipped. -/
theorem map_withReason_recordsAfter (clock : Clock) {out : String}
    (h : stages.foldlM (BoundStage.attempt t base) css = .ok out) (hl : rs.length = stages.length)
    (reason : String) :
    (fatesOf (recordsAfter clock t base css stages rs)).map (StageState.withReason reason) =
      fatesOf (recordsAfter clock t base css stages rs) := by
  induction stages generalizing css rs with
  | nil =>
    obtain rfl := List.eq_nil_of_length_eq_zero hl
    rfl
  | cons s stages ih =>
    obtain ⟨r, rs, rfl⟩ := List.exists_cons_of_length_eq_add_one hl
    rw [List.foldlM_cons] at h
    cases hs : s.apply t base css with
    | ok next =>
      rw [BoundStage.attempt_of_ok hs] at h
      rw [recordsAfter, hs]
      exact congrArg (_ :: ·) (ih h (by simpa using hl))
    | error e =>
      rw [BoundStage.attempt_of_error hs] at h
      cases h

/-! ## Stages that have not run -/

theorem state_recordOf {r : StageRecord} (h : r ∈ stages.map recordOf) : r.state = .pending := by
  obtain ⟨s, -, rfl⟩ := List.mem_map.1 h
  rfl

/-- What becomes of stages on a text, from the start and without times. -/
def stageFates (t : FileTree) (base css : String) (stages : List BoundStage) : List StageState :=
  fatesOf (recordsAfter {} t base css stages (stages.map recordOf))

theorem stageFates_append :
    stageFates t base css (stages ++ stages') = stageFates t base css stages ++
      match stages.foldlM (BoundStage.attempt t base) css with
      | .ok out => stageFates t base out stages'
      | .error e => List.replicate stages'.length (.skipped e.skipReason) := by
  rw [stageFates, List.map_append, recordsAfter_append {} (by simp), fatesOf_append]
  cases stages.foldlM (BoundStage.attempt t base) css with
  | ok out => rfl
  | error e =>
    refine congrArg _ ((fatesOf_skip (fun _ => state_recordOf) _).trans ?_)
    rw [List.length_map]

theorem stageFates_moved (reason : String) (h : ∀ s ∈ stages, s.IgnoresPlace)
    (he : ∀ e, stages.foldlM (BoundStage.attempt t base) css = .error e →
      reason = (e.moved n).skipReason) :
    stageFates t base css (stages.map (BoundStage.moved n)) =
      (stageFates t base css stages).map (StageState.withReason reason) :=
  fatesOf_recordsAfter_moved {} h (fun _ => state_recordOf) (fun _ => state_recordOf) (by simp)
    (by simp) he

theorem stageFates_moved_of_ok (h : ∀ s ∈ stages, s.IgnoresPlace) {out : String}
    (hout : stages.foldlM (BoundStage.attempt t base) css = .ok out) :
    stageFates t base css (stages.map (BoundStage.moved n)) = stageFates t base css stages := by
  rw [stageFates_moved "" h fun e he => by simp [hout] at he]
  exact map_withReason_recordsAfter {} hout (by simp) _

theorem stageFates_moved_of_error (h : ∀ s ∈ stages, s.IgnoresPlace) {e : BuildError}
    (he : stages.foldlM (BoundStage.attempt t base) css = .error e) :
    stageFates t base css (stages.map (BoundStage.moved n)) =
      (stageFates t base css stages).map (StageState.withReason (e.moved n).skipReason) := by
  refine stageFates_moved _ h fun e' he' => ?_
  rw [he] at he'
  cases he'
  rfl

/-! ## The whole -/

theorem fates_run_fresh {p : Pipeline} (hp : p.Composed)
    (hs : ∀ s ∈ p.stages, s.scans t p.baseDir = true) (clock : Clock) (source : String)
    (id : Uuid) :
    (run p t clock source (.fresh id p)).fates = stageFates t p.baseDir source p.stages := by
  rw [Run.fates, (run_fresh_of_scans hp hs clock source id).2]
  exact fatesOf_recordsAfter_clock clock {} _ _ _

/-- **A build of a pipeline in two parts** is a build of the first part and then, on what that made,
one of the second. If the first fails, so does the whole, and all stages of the second part are
skipped. Otherwise the whole ends as the second part does, and its stages fare as those of both
parts do, times aside; an error, and a reason for skipping stages, names its stage by its place in
the whole. -/
theorem run_stages_append {c : Config} {A B : List StageSpec} {p : Pipeline}
    (hc : c.stages = A ++ B) (hA : A ≠ []) (hB : B ≠ [])
    (hp : Pipeline.compose c .builtin = .ok p)
    (hs : ∀ s ∈ p.stages, s.scans t p.baseDir = true) (source : String)
    (clock clock₁ clock₂ : Clock) (id id₁ id₂ : Uuid) :
    ∃ a b, Pipeline.compose { c with stages := A } .builtin = .ok a ∧
      Pipeline.compose { c with stages := B } .builtin = .ok b ∧
      let whole := run p t clock source (.fresh id p)
      let first := run a t clock₁ source (.fresh id₁ a)
      (∀ e, first.result = .error e → whole.result = .error e ∧
        whole.fates = first.fates ++ List.replicate B.length (.skipped e.skipReason)) ∧
      ∀ out, first.result = .ok out →
        let second := run b t clock₂ out (.fresh id₂ b)
        whole.result = second.result.mapError (BuildError.moved A.length) ∧
        (∀ css, second.result = .ok css → whole.fates = first.fates ++ second.fates) ∧
        ∀ e, second.result = .error e → whole.fates = first.fates ++
          second.fates.map (StageState.withReason (e.moved A.length).skipReason) := by
  obtain ⟨a, b, ha, hb, hbase, hbase', hla, hlb, hstages⟩ := Pipeline.compose_append hc hA hB hp
  have hread := Registry.readsSources_builtin
  have hscans : ∀ s ∈ a.stages, s.scans t a.baseDir = true := fun s h =>
    hbase ▸ hs s (hstages ▸ List.mem_append_left _ h)
  have hscans' : ∀ s ∈ b.stages, s.scans t b.baseDir = true := fun s h =>
    hbase' ▸ hs (s.moved A.length) (hstages ▸ List.mem_append_right _ (List.mem_map_of_mem h))
  have hplace : ∀ s ∈ b.stages, s.IgnoresPlace := by
    intro s h
    obtain ⟨i, hi⟩ := List.getElem?_of_mem h
    obtain ⟨spec, -, -, hb'⟩ :=
      Pipeline.isBuiltIn_of_bindStages (Pipeline.bindStages_of_compose hb) hi
    exact BoundStage.ignoresPlace_of_isBuiltIn hb'
  have hwhole : p.Composed := ⟨c, .builtin, hread, hp⟩
  have hfirst : a.Composed := ⟨_, .builtin, hread, ha⟩
  have hsecond : b.Composed := ⟨_, .builtin, hread, hb⟩
  have hr := (run_fresh_of_scans hwhole hs clock source id).1
  have hf := fates_run_fresh hwhole hs clock source id
  have hr₁ := (run_fresh_of_scans hfirst hscans clock₁ source id₁).1
  have hf₁ := fates_run_fresh hfirst hscans clock₁ source id₁
  rw [hbase] at hr₁ hf₁
  rw [hstages, List.foldlM_append, ← hr₁] at hr
  rw [hstages, stageFates_append, ← hf₁, ← hr₁, List.length_map, hlb] at hf
  refine ⟨a, b, ha, hb, fun e he => ?_, fun out hout => ?_⟩
  · rw [he] at hr hf
    exact ⟨hr, hf⟩
  · rw [hout] at hr hf
    have hr₂ := (run_fresh_of_scans hsecond hscans' clock₂ out id₂).1
    have hf₂ := fates_run_fresh hsecond hscans' clock₂ out id₂
    rw [hbase'] at hr₂ hf₂
    refine ⟨?_, fun css hcss => ?_, fun e he => ?_⟩
    · rw [hr, hr₂]
      exact foldlM_attempt_moved hplace
    · rw [hf, hf₂]
      exact congrArg _ (stageFates_moved_of_ok hplace (hr₂.symm.trans hcss))
    · rw [hf, hf₂]
      exact congrArg _ (stageFates_moved_of_error hplace (hr₂.symm.trans he))

end Build

/-! ## An example -/

namespace Pipeline

/-- The first stage of the sample. -/
def sampleFront : Pipeline :=
  ⟨"site", ".", [
    ⟨0, "utility-generation", "utility-generation",
      Generation.transformer .empty .empty ⟨[], .standard⟩⟩]⟩

/-- The other stages of the sample, as a pipeline of their own. -/
def sampleRest : Pipeline :=
  ⟨"site", ".", [
    ⟨0, "rule-pruning", "rule-pruning", Pruning.transformer .empty ⟨[], .standard⟩⟩,
    ⟨1, "minification", "last", Preset.default.pass.transformer⟩]⟩

theorem compose_sampleFront :
    compose { sampleConfig with stages := sampleConfig.stages.take 1 } .builtin =
      .ok sampleFront := rfl

theorem compose_sampleRest :
    compose { sampleConfig with stages := sampleConfig.stages.drop 1 } .builtin =
      .ok sampleRest := rfl

end Pipeline

namespace Build

theorem result_sampleFront :
    (run .sampleFront {} {} ".a..b {}" (.fresh default .sampleFront)).result = .ok ".a..b {}" := by
  have hp : Pipeline.sampleFront.Composed :=
    ⟨_, .builtin, Registry.readsSources_builtin, Pipeline.compose_sampleFront⟩
  exact (result_run_fresh_eq_ok_iff hp).2 ⟨by decide +kernel, by decide +kernel⟩

theorem result_sampleRest :
    (run .sampleRest {} {} ".a..b {}" (.fresh default .sampleRest)).result =
      .error (.stage 0 "rule-pruning"
        (.parse "Expected identifier in class selector, got Delim('.') at :0:4")) := by
  have hp : Pipeline.sampleRest.Composed :=
    ⟨_, .builtin, Registry.readsSources_builtin, Pipeline.compose_sampleRest⟩
  have hs : ∀ s ∈ Pipeline.sampleRest.stages, s.scans {} "." = true := by decide +kernel
  have he : Pipeline.sampleRest.stages[0].apply {} "." ".a..b {}" = .error
      (.parse "Expected identifier in class selector, got Delim('.') at :0:4") := by
    decide +kernel
  have hresult := (run_fresh_of_scans hp hs {} ".a..b {}" default).1
  exact hresult.trans (foldlM_attempt_of_error (k := 0) rfl rfl he)

/-- A pipeline that fails at the first stage of its second part. -/
theorem run_stages_append_unreadable :
    let whole := run .sample {} {} ".a..b {}" (.fresh default .sample)
    let first := run .sampleFront {} {} ".a..b {}" (.fresh default .sampleFront)
    let second := run .sampleRest {} {} ".a..b {}" (.fresh default .sampleRest)
    whole.result = second.result.mapError (BuildError.moved 1) ∧
      whole.fates = first.fates ++
        second.fates.map (StageState.withReason "stage 1 failed") := by
  have hs : ∀ s ∈ Pipeline.sample.stages, s.scans {} "." = true := by decide +kernel
  obtain ⟨a, b, ha, hb, -, hsecond⟩ := run_stages_append (c := Pipeline.sampleConfig)
    (A := Pipeline.sampleConfig.stages.take 1) (B := Pipeline.sampleConfig.stages.drop 1) rfl
    (List.cons_ne_nil _ _) (List.cons_ne_nil _ _) (p := .sample) rfl hs ".a..b {}" {} {} {}
    default default default
  obtain rfl := Except.ok.inj (Pipeline.compose_sampleFront.symm.trans ha)
  obtain rfl := Except.ok.inj (Pipeline.compose_sampleRest.symm.trans hb)
  obtain ⟨hresult, -, hfates⟩ := hsecond ".a..b {}" result_sampleFront
  have hreason : (BuildError.moved 1 (.stage 0 "rule-pruning"
      (.parse "Expected identifier in class selector, got Delim('.') at :0:4"))).skipReason =
        "stage 1 failed" := by decide +kernel
  refine ⟨hresult, ?_⟩
  rw [← hreason]
  exact hfates _ result_sampleRest

/-- **The reason for which a stage is skipped names a place in its own pipeline**, so that it is not
the same in the second part alone. -/
theorem run_stages_append_reason :
    let whole := run .sample {} {} ".a..b {}" (.fresh default .sample)
    let first := run .sampleFront {} {} ".a..b {}" (.fresh default .sampleFront)
    let second := run .sampleRest {} {} ".a..b {}" (.fresh default .sampleRest)
    Pipeline.sampleConfig.stages =
        Pipeline.sampleConfig.stages.take 1 ++ Pipeline.sampleConfig.stages.drop 1 ∧
      Pipeline.compose Pipeline.sampleConfig .builtin = .ok .sample ∧
      Pipeline.compose { Pipeline.sampleConfig with
        stages := Pipeline.sampleConfig.stages.take 1 } .builtin = .ok .sampleFront ∧
      Pipeline.compose { Pipeline.sampleConfig with
        stages := Pipeline.sampleConfig.stages.drop 1 } .builtin = .ok .sampleRest ∧
      (∀ s ∈ Pipeline.sample.stages, s.scans {} "." = true) ∧
      first.result = .ok ".a..b {}" ∧
      whole.fates.getLast? = some (.skipped "stage 1 failed") ∧
      (first.fates ++ second.fates).getLast? = some (.skipped "stage 0 failed") ∧
      whole.fates ≠ first.fates ++ second.fates := by
  refine ⟨rfl, rfl, Pipeline.compose_sampleFront, Pipeline.compose_sampleRest, ?_,
    result_sampleFront, ?_, ?_, ?_⟩
  · decide +kernel
  · decide +kernel
  · decide +kernel
  · decide +kernel

end Build

end StyleBuild
