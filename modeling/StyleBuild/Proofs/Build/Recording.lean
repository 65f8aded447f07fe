import Mathlib.Data.List.Induction
import StyleBuild.Build.Run
import StyleBuild.Build.State.Json
import StyleBuild.Proofs.Build.Stamps
import StyleBuild.Proofs.Json.Reading
import StyleBuild.Proofs.Pipeline.Composed

/-!
# Build states as JSON

A build state whose counts fit a machine word (`BuildState.Sized`) is read back from its JSON
(`BuildState.reads_toJson`). What is read from a text is such a state, and so is what a build leaves
if the sizes that it tells fit.
-/

namespace StyleBuild

/-! ## Counts -/

/-- A count that fits a machine word. -/
def FitsWord (n : Nat) : Prop := n < Nat.pow 2 64

instance : DecidablePred FitsWord := fun n => inferInstanceAs (Decidable (n < Nat.pow 2 64))

/-- The counts of a stage's state fit. -/
def StageState.Sized : StageState → Prop
  | .completed bytesIn bytesOut _ _ => FitsWord bytesIn ∧ FitsWord bytesOut
  | _ => True

/-- The counts of a record fit. -/
structure StageRecord.Sized (r : StageRecord) : Prop where
  index : FitsWord r.index
  state : r.state.Sized

/-- The counts of a build state fit. -/
structure BuildState.Sized (s : BuildState) : Prop where
  stages : ∀ r ∈ s.stages, r.Sized
  warnings : ∀ w ∈ s.warnings, FitsWord w.stage

/-! ## Reading back -/

open Form

theorem Instant.reads_toJson (t : Instant) : Form.instant.Reads t.toJson t :=
  reads_parsed (by rw [t.read_text]; rfl)

theorem Uuid.reads_text (u : Uuid) : Form.uuid.Reads (.text u.text) u :=
  reads_parsed (by rw [u.read_text]; rfl)

theorem BuildStatus.reads_name (s : BuildStatus) : Form.buildStatus.Reads (.text s.name) s :=
  reads_plain (by cases s <;> rfl)

theorem reads_optionalInstant (t : Option Instant) :
    (optional Form.instant).Reads (optionalJson Instant.toJson t) t := by
  cases t with
  | none => exact reads_none _
  | some t => exact reads_some t.reads_toJson

theorem StageState.reads_toJson {s : StageState} (h : s.Sized) :
    Form.stageState.Reads s.toJson s := by
  cases s with
  | pending => exact reads_plain rfl
  | running start =>
    exact reads_withFields rfl (reads_record
      (start.reads_toJson.fills rfl rfl <| .nil _)
      rfl (List.cons_ne_nil _ _))
  | completed bytesIn bytesOut start finish =>
    exact reads_withFields rfl (reads_record
      ((reads_count h.1).fills rfl rfl <|
        (reads_count h.2).fills rfl rfl <|
        start.reads_toJson.fills rfl rfl <|
        finish.reads_toJson.fills rfl rfl <| .nil _)
      rfl (List.cons_ne_nil _ _))
  | failed error start finish =>
    exact reads_withFields rfl (reads_record
      ((reads_text error).fills rfl rfl <|
        start.reads_toJson.fills rfl rfl <|
        finish.reads_toJson.fills rfl rfl <| .nil _)
      rfl (List.cons_ne_nil _ _))
  | skipped reason =>
    exact reads_withFields rfl (reads_record
      ((reads_text reason).fills rfl rfl <| .nil _)
      rfl (List.cons_ne_nil _ _))

theorem StageRecord.reads_toJson {r : StageRecord} (h : r.Sized) :
    Form.stageRecord.Reads r.toJson r :=
  reads_record
    ((reads_count h.index).fills rfl rfl <|
      (reads_text r.kind).fills rfl rfl <|
      (reads_text r.label).fills rfl rfl <|
      (StageState.reads_toJson h.state).fills rfl rfl <| .nil _)
    rfl (List.cons_ne_nil _ _)

theorem ContentWarning.reads_toJson {w : ContentWarning} (h : FitsWord w.stage) :
    Form.contentWarning.Reads w.toJson w :=
  reads_withFields rfl (reads_record
    ((reads_count h).fills rfl rfl <|
      (reads_text w.pattern).fills rfl rfl <| .nil _)
    rfl (List.cons_ne_nil _ _))

/-- A build state whose counts fit is read back from its JSON. -/
theorem BuildState.reads_toJson {s : BuildState} (h : s.Sized) :
    Form.buildState.Reads s.toJson s := by
  have hstages : (Form.list Form.stageRecord).Reads (.array (s.stages.map StageRecord.toJson))
      s.stages := by
    refine reads_list (List.forall₂_map_left_iff.2 (List.forall₂_same.2 fun r hr => ?_))
    exact ⟨StageRecord.reads_toJson (h.stages r hr), _, rfl⟩
  have hwarnings : (Form.list Form.contentWarning).Reads
      (.array (s.warnings.map ContentWarning.toJson)) s.warnings := by
    refine reads_list (List.forall₂_map_left_iff.2 (List.forall₂_same.2 fun w hw => ?_))
    exact ⟨ContentWarning.reads_toJson (h.warnings w hw), _, rfl⟩
  exact reads_record
    (s.id.reads_text.fills rfl rfl <|
      (reads_text s.pipeline).fills rfl rfl <|
      s.status.reads_name.fills rfl rfl <|
      (reads_optionalInstant s.startedAt).fills rfl rfl <|
      (reads_optionalInstant s.finishedAt).fills rfl rfl <|
      hstages.fills rfl rfl <|
      hwarnings.fills rfl rfl <| .nil _)
    rfl (List.cons_ne_nil _ _)

/-! ## What is read -/

namespace Form

open Json

theorem forall_mem_none {α : Type} {P : α → Prop} : ∀ x ∈ (none : Option α), P x := nofun

theorem forall_mem_some {α : Type} {P : α → Prop} {x : α} (h : P x) : ∀ y ∈ some x, P y :=
  fun _ hy => Option.some.inj hy ▸ h

theorem mem_of_required {α : Type} {name : String} {o : Option α} {x : α}
    (h : required name o = .ok x) : x ∈ o := by
  cases o with
  | none => cases h
  | some y =>
    cases h
    rfl

theorem ensures_completedStage : Ensures completedStage.fromText StageState.Sized := by
  let I (d : StageDraft) : Prop := (∀ n ∈ d.bytesIn, FitsWord n) ∧ ∀ n ∈ d.bytesOut, FitsWord n
  refine ensures_record (I := I) ?_ ⟨forall_mem_none, forall_mem_none⟩ fun d x hd hx => ?_
  · simp only [List.forall_mem_cons]
    refine ⟨?_, ?_, ?_, ?_, List.forall_mem_nil _⟩
    · exact ensures_field ensures_count fun d n hd hn => ⟨forall_mem_some hn, hd.2⟩
    · exact ensures_field ensures_count fun d n hd hn => ⟨hd.1, forall_mem_some hn⟩
    · exact ensures_field (ensures_true _) fun d t hd _ => hd
    · exact ensures_field (ensures_true _) fun d t hd _ => hd
  · obtain ⟨bytesIn, hin, hx⟩ := exists_of_bind_eq_ok hx
    obtain ⟨bytesOut, hout, hx⟩ := exists_of_bind_eq_ok hx
    obtain ⟨start, -, hx⟩ := exists_of_bind_eq_ok hx
    obtain ⟨finish, -, hx⟩ := exists_of_bind_eq_ok hx
    cases hx
    exact ⟨hd.1 _ (mem_of_required hin), hd.2 _ (mem_of_required hout)⟩

/-- A record whose result has a property whatever its fields are. -/
theorem ensures_record_of_finish {α β : Type} {P : α → Prop} {what : String}
    {fields : List (Field β)} {start : β} {finish : β → Except Mismatch α}
    (h : ∀ b x, finish b = .ok x → P x) : Ensures (record what fields start finish).fromText P :=
  ensures_record (I := fun _ => True) (fun _ _ _ _ => ensures_true _) trivial fun b x _ => h b x

theorem ensures_stageState : Ensures stageState.fromText StageState.Sized := by
  refine ensures_choice ?_
  simp only [List.forall_mem_cons]
  refine ⟨trivial, ?_, ensures_completedStage, ?_, ?_, List.forall_mem_nil _⟩
  · refine ensures_record_of_finish fun d x hx => ?_
    obtain ⟨start, -, hx⟩ := exists_of_bind_eq_ok hx
    cases hx
    trivial
  · refine ensures_record_of_finish fun d x hx => ?_
    obtain ⟨error, -, hx⟩ := exists_of_bind_eq_ok hx
    obtain ⟨start, -, hx⟩ := exists_of_bind_eq_ok hx
    obtain ⟨finish, -, hx⟩ := exists_of_bind_eq_ok hx
    cases hx
    trivial
  · refine ensures_record_of_finish fun d x hx => ?_
    obtain ⟨reason, -, hx⟩ := exists_of_bind_eq_ok hx
    cases hx
    trivial

theorem ensures_stageRecord : Ensures stageRecord.fromText StageRecord.Sized := by
  let I (d : RecordDraft) : Prop :=
    (∀ n ∈ d.index, FitsWord n) ∧ ∀ s ∈ d.state, StageState.Sized s
  refine ensures_record (I := I) ?_ ⟨forall_mem_none, forall_mem_none⟩ fun d x hd hx => ?_
  · simp only [List.forall_mem_cons]
    refine ⟨?_, ?_, ?_, ?_, List.forall_mem_nil _⟩
    · exact ensures_field ensures_count fun d n hd hn => ⟨forall_mem_some hn, hd.2⟩
    · exact ensures_field (ensures_true _) fun d t hd _ => hd
    · exact ensures_field (ensures_true _) fun d t hd _ => hd
    · exact ensures_field ensures_stageState fun d s hd hs =>
        ⟨hd.1, forall_mem_some hs⟩
  · obtain ⟨index, hindex, hx⟩ := exists_of_bind_eq_ok hx
    obtain ⟨kind, -, hx⟩ := exists_of_bind_eq_ok hx
    obtain ⟨label, -, hx⟩ := exists_of_bind_eq_ok hx
    obtain ⟨state, hstate, hx⟩ := exists_of_bind_eq_ok hx
    cases hx
    exact ⟨hd.1 _ (mem_of_required hindex), hd.2 _ (mem_of_required hstate)⟩

theorem ensures_contentWarning : Ensures contentWarning.fromText fun w => FitsWord w.stage := by
  refine ensures_choice ?_
  simp only [List.forall_mem_cons]
  refine ⟨?_, List.forall_mem_nil _⟩
  let I (d : WarningDraft) : Prop := ∀ n ∈ d.stage, FitsWord n
  refine ensures_record (I := I) ?_ forall_mem_none fun d x hd hx => ?_
  · simp only [List.forall_mem_cons]
    refine ⟨?_, ?_, List.forall_mem_nil _⟩
    · exact ensures_field ensures_count fun d n _ hn => forall_mem_some hn
    · exact ensures_field (ensures_true _) fun d t hd _ => hd
  · obtain ⟨stage, hstage, hx⟩ := exists_of_bind_eq_ok hx
    obtain ⟨pattern, -, hx⟩ := exists_of_bind_eq_ok hx
    cases hx
    exact hd _ (mem_of_required hstage)

/-- The counts of a build state that is read from a text fit. -/
theorem ensures_buildState : Ensures buildState.fromText BuildState.Sized := by
  let I (d : StateDraft) : Prop := (∀ rs ∈ d.stages, ∀ r ∈ rs, StageRecord.Sized r) ∧
    ∀ ws ∈ d.warnings, ∀ w ∈ ws, FitsWord (ContentWarning.stage w)
  refine ensures_record (I := I) ?_ ⟨forall_mem_none, forall_mem_none⟩ fun d x hd hx => ?_
  · simp only [List.forall_mem_cons]
    refine ⟨?_, ?_, ?_, ?_, ?_, ?_, ?_, List.forall_mem_nil _⟩
    · exact ensures_field (ensures_true _) fun d t hd _ => hd
    · exact ensures_field (ensures_true _) fun d t hd _ => hd
    · exact ensures_field (ensures_true _) fun d t hd _ => hd
    · exact ensures_field (ensures_true _) fun d t hd _ => hd
    · exact ensures_field (ensures_true _) fun d t hd _ => hd
    · exact ensures_field (ensures_list ensures_stageRecord) fun d rs hd hrs =>
        ⟨forall_mem_some hrs, hd.2⟩
    · exact ensures_field (ensures_list ensures_contentWarning) fun d ws hd hws =>
        ⟨hd.1, forall_mem_some hws⟩
  · obtain ⟨id, -, hx⟩ := exists_of_bind_eq_ok hx
    obtain ⟨pipeline, -, hx⟩ := exists_of_bind_eq_ok hx
    obtain ⟨status, -, hx⟩ := exists_of_bind_eq_ok hx
    obtain ⟨stages, hstages, hx⟩ := exists_of_bind_eq_ok hx
    obtain ⟨warnings, hwarnings, hx⟩ := exists_of_bind_eq_ok hx
    cases hx
    exact ⟨hd.1 _ (mem_of_required hstages), hd.2 _ (mem_of_required hwarnings)⟩

end Form

/-! ## What a build leaves -/

/-- The sizes that an event tells fit. -/
def BuildEvent.Sized : BuildEvent → Prop
  | .stageCompleted _ bytesIn bytesOut _ => FitsWord bytesIn ∧ FitsWord bytesOut
  | _ => True

instance : DecidablePred BuildEvent.Sized := fun e => by
  unfold BuildEvent.Sized
  split <;> infer_instance

/-- The sizes that are told fit. -/
def Trail.Sized (t : Trail) : Prop := ∀ e ∈ t.events, e.Sized

instance : DecidablePred Trail.Sized := fun t =>
  inferInstanceAs (Decidable (∀ e ∈ t.events, e.Sized))

theorem Trail.Sized.of_append {t t' : Trail} (h : Trail.Sized (t ++ t')) :
    t.Sized ∧ t'.Sized := by
  rw [Trail.Sized, Trail.events_append] at h
  exact ⟨fun e he => h e (List.mem_append_left _ he), fun e he => h e (List.mem_append_right _ he)⟩

namespace BuildState

variable {s : BuildState}

theorem sized_fresh (id : Uuid) {p : Pipeline} (hp : ∀ s ∈ p.stages, FitsWord s.index) :
    (fresh id p).Sized := by
  refine ⟨fun r hr => ?_, nofun⟩
  obtain ⟨s, hs, rfl⟩ := List.mem_map.1 hr
  exact ⟨hp s hs, trivial⟩

theorem Sized.setStage (hs : s.Sized) (i : Nat) {state : StageState} (hstate : state.Sized) :
    (s.setStage i state).Sized := by
  refine ⟨fun r hr => ?_, hs.warnings⟩
  obtain ⟨k, hk⟩ := List.mem_iff_getElem?.1 hr
  rw [BuildState.setStage, List.getElem?_modify] at hk
  obtain ⟨r', hr', rfl⟩ := Option.map_eq_some_iff.1 hk
  have hold := hs.stages r' (List.mem_of_getElem? hr')
  split
  · exact ⟨hold.index, hstate⟩
  · exact hold

theorem Sized.skipFrom (hs : s.Sized) (i : Nat) (reason : String) :
    (s.skipFrom i reason).Sized := by
  refine ⟨fun r hr => ?_, hs.warnings⟩
  rcases List.mem_append.1 hr with hr | hr
  · exact hs.stages r (List.mem_of_mem_take hr)
  · obtain ⟨r', hr', rfl⟩ := List.mem_map.1 hr
    have hold := hs.stages r' (List.mem_of_mem_drop hr')
    refine ⟨hold.index, ?_⟩
    change (r'.state.skip reason).Sized
    unfold StageState.skip
    split
    · exact hold.state
    · trivial

end BuildState

namespace Build

variable {clock : Clock} {scans : List (Option Scan)} {t : FileTree} {base : String}

/-- A stage that runs adds to what has been told. -/
theorem exists_trail_runStage (css : String) (state : BuildState) (trail : Trail) (s : BoundStage) :
    ∃ told, (runStage clock scans css state trail s).trail = trail ++ told := by
  unfold runStage
  dsimp only
  split <;> exact ⟨_, by rw [List.append_assoc, List.append_assoc]⟩

theorem Trail.Sized.of_step {r : Run} {s : BoundStage} (h : (step clock scans r s).trail.Sized) :
    r.trail.Sized := by
  unfold step at h
  split at h
  · next css _ =>
    obtain ⟨told, htold⟩ := exists_trail_runStage css r.state r.trail s
    rw [htold] at h
    exact h.of_append.1
  · exact h

theorem sized_step {r : Run} {s : BoundStage} (hr : r.state.Sized)
    (h : (step clock scans r s).trail.Sized) : (step clock scans r s).state.Sized := by
  unfold step at h ⊢
  split
  · next css hres =>
    rw [hres] at h
    have hrunning : (running clock s r.state).Sized :=
      hr.setStage s.index (show StageState.Sized (.running (clock.stageStart s.index)) from trivial)
    unfold runStage at h ⊢
    dsimp only at h ⊢
    split
    · next out hout =>
      rw [hout] at h
      have hsizes : FitsWord css.utf8ByteSize ∧ FitsWord out.utf8ByteSize :=
        h.of_append.2 (.stageCompleted s.index _ _ (clock.stageNanos s.index)) List.mem_cons_self
      have hstate : StageState.Sized (.completed css.utf8ByteSize out.utf8ByteSize
          (clock.stageStart s.index) (clock.stageFinish s.index)) := hsizes
      exact hrunning.setStage s.index hstate
    · next e _ =>
      have hstate : StageState.Sized (.failed e.message
          (clock.stageStart s.index) (clock.stageFinish s.index)) := trivial
      exact (hrunning.setStage s.index hstate).skipFrom _ _
  · exact hr

/-- What stages leave fits if the sizes that they tell do. The induction takes the last stage off:
what is told before it is told in the end. -/
theorem sized_stagesFrom {r : Run} {stages : List BoundStage} (hr : r.state.Sized)
    (h : (stagesFrom clock scans r stages).trail.Sized) :
    (stagesFrom clock scans r stages).state.Sized := by
  induction stages using List.reverseRecOn with
  | nil => exact hr
  | append_singleton stages s ih =>
    have hsteps : stagesFrom clock scans r (stages ++ [s]) =
        step clock scans (stagesFrom clock scans r stages) s := by
      rw [stagesFrom, List.foldl_append]
      rfl
    rw [hsteps] at h ⊢
    exact sized_step (ih (Trail.Sized.of_step h)) h

theorem stage_of_mem_warnings {g : Scanning} {stages : List BoundStage} {w : ContentWarning}
    (h : w ∈ (scanFrom t base g stages).1.warnings) :
    w ∈ g.warnings ∨ ∃ s ∈ stages, w.stage = s.index := by
  induction stages generalizing g with
  | nil => exact .inl h
  | cons s rest ih =>
    have hrest : (∃ s' ∈ rest, w.stage = s'.index) → ∃ s' ∈ s :: rest, w.stage = s'.index :=
      fun ⟨s', hs', hw⟩ => ⟨s', List.mem_cons_of_mem s hs', hw⟩
    rw [scanFrom] at h
    split at h
    · exact (ih h).imp_right hrest
    · split at h
      · refine (ih h).elim (fun hg => ?_) fun hw => .inr (hrest hw)
        rcases List.mem_append.1 hg with hg | hg
        · exact .inl hg
        · obtain ⟨pattern, -, rfl⟩ := List.mem_map.1 hg
          exact .inr ⟨s, List.mem_cons_self, rfl⟩
      · exact .inl h

theorem sized_finish {r : Run} (h : r.state.Sized) : (finish clock r).state.Sized := by
  unfold finish
  dsimp only
  split
  · exact ⟨h.stages, h.warnings⟩
  · exact ⟨h.stages, h.warnings⟩

/-- The counts of what a build leaves fit if they did before and the sizes that are told do. -/
theorem sized_run {p : Pipeline} {source : String} {state : BuildState} (hs : state.Sized)
    (hp : ∀ s ∈ p.stages, FitsWord s.index) (h : Trail.Sized (run p t clock source state).trail) :
    (run p t clock source state).state.Sized := by
  have hbegun : BuildState.Sized
      { state.start clock.start with warnings := state.warnings ++ (scanAll p t).1.warnings } := by
    refine ⟨hs.stages, fun w hw => ?_⟩
    rcases List.mem_append.1 hw with hw | hw
    · exact hs.warnings w hw
    · obtain hw | ⟨s, hs, hw⟩ := stage_of_mem_warnings hw
      · cases hw
      · rw [hw]
        exact hp s hs
  unfold run at h ⊢
  dsimp only at h ⊢
  refine sized_finish ?_
  cases hstop : (scanAll p t).2 with
  | some e => exact hbegun.skipFrom 0 _
  | none =>
    rw [hstop] at h
    exact sized_stagesFrom hbegun h.of_append.1

end Build

/-! ## The whole -/

/-- A build state is read back from its JSON, and what is read there has the same JSON. -/
structure BuildState.SurvivesJson (s : BuildState) : Prop where
  read : Form.buildState.read s.toJson.compact = .ok s
  again : ∀ s', Form.buildState.read s.toJson.compact = .ok s' →
    s'.toJson.compact = s.toJson.compact

theorem BuildState.Sized.survivesJson {s : BuildState} (h : s.Sized) : s.SurvivesJson := by
  have hread := (BuildState.reads_toJson h).read
  refine ⟨hread, fun s' hs' => ?_⟩
  rw [hread] at hs'
  cases hs'
  rfl

/-- **Build states survive their JSON.** This holds of each state that is read from a text, however
its instants are written there, and of each state that a build leaves. -/
theorem BuildState.survives_json :
    (∀ text s, Form.buildState.read text = .ok s → s.SurvivesJson) ∧
    (∀ p t clock source state, state.Sized → (∀ s ∈ p.stages, FitsWord s.index) →
      Trail.Sized (Build.run p t clock source state).trail →
      (Build.run p t clock source state).state.SurvivesJson) := by
  refine ⟨fun text s h => ?_, fun p t clock source state hs hp h => ?_⟩
  · exact (Form.of_read Form.ensures_buildState h).survivesJson
  · exact (Build.sized_run hs hp h).survivesJson

/-- A state as another program writes it: with an offset, and without what may be missing. -/
def foreignState : String :=
  "\x7b\"execution_id\":\"67e5504410b1426f9247bb680e5fe0c8\",\"pipeline_name\":\"\"," ++
  "\"status\":\"Failed\",\"stages\":[\x7b\"index\":7,\"kind\":\"a\",\"label\":\"b\",\"state\":" ++
  "\x7b\"Running\":\x7b\"started_at\":\"2024-12-31T23:59:59.5-00:30\"\x7d\x7d\x7d]," ++
  "\"warnings\":[]\x7d"

/-- The JSON of the same state here. -/
def ownState : String :=
  "\x7b\"execution_id\":\"67e55044-10b1-426f-9247-bb680e5fe0c8\",\"pipeline_name\":\"\"," ++
  "\"status\":\"Failed\",\"started_at\":null,\"completed_at\":null,\"stages\":[" ++
  "\x7b\"index\":7,\"kind\":\"a\",\"label\":\"b\",\"state\":\x7b\"Running\":" ++
  "\x7b\"started_at\":\"2025-01-01T00:29:59.500Z\"\x7d\x7d\x7d],\"warnings\":[]\x7d"

/-- A state whose instant is written for another offset, in the year before, and the state after a
build that completes. -/
theorem BuildState.survives_json_offset :
    (∃ s, Form.buildState.read foreignState = .ok s ∧ s.toJson.compact = ownState ∧
      s.SurvivesJson) ∧
    (let done := Build.run .sample {} {} "p \x7bcolor:red\x7d" (.fresh default .sample)
     done.trail.Sized ∧ done.state.status = .completed ∧ done.state.SurvivesJson) := by
  obtain ⟨hread, hrun⟩ := BuildState.survives_json
  constructor
  · have hforeign : (Form.buildState.read foreignState).toOption.map
        (fun s => s.toJson.compact) = some ownState := by decide +kernel
    obtain ⟨s, hs, hjson⟩ := Option.map_eq_some_iff.1 hforeign
    have hok := eq_ok_of_toOption hs
    exact ⟨s, hok, hjson, hread _ s hok⟩
  · have hindex : ∀ s ∈ Pipeline.sample.stages, FitsWord s.index := by decide +kernel
    have htold : Trail.Sized
        (Build.run .sample {} {} "p \x7bcolor:red\x7d" (.fresh default .sample)).trail := by
      decide +kernel
    refine ⟨htold, by decide +kernel, ?_⟩
    exact hrun .sample {} {} _ _ (sized_fresh default hindex) hindex htold

end StyleBuild
