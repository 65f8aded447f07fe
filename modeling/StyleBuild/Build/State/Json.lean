import StyleBuild.Build.State
import StyleBuild.Json.Form

/-!
# Build state as JSON

The form of a build state in JSON, and how it is written in that form. Fields that may be missing
are written as `null`.
-/

namespace StyleBuild

/-! ## Writing -/

/-- An instant as JSON. -/
def Instant.toJson (t : Instant) : Json := .text t.text

/-- Something that may be missing as JSON. -/
def optionalJson {α : Type} (toJson : α → Json) : Option α → Json
  | some x => toJson x
  | none => .null

/-- What became of a stage as JSON. -/
def StageState.toJson : StageState → Json
  | .pending => .text "Pending"
  | .running start => .object [("Running", .object [("started_at", start.toJson)])]
  | .completed bytesIn bytesOut start finish =>
    .object [("Completed", .object [("bytes_in", .nat bytesIn), ("bytes_out", .nat bytesOut),
      ("started_at", start.toJson), ("completed_at", finish.toJson)])]
  | .failed error start finish =>
    .object [("Failed", .object [("error", .text error), ("started_at", start.toJson),
      ("failed_at", finish.toJson)])]
  | .skipped reason => .object [("Skipped", .object [("reason", .text reason)])]

/-- A record as JSON. -/
def StageRecord.toJson (r : StageRecord) : Json :=
  .object [("index", .nat r.index), ("kind", .text r.kind), ("label", .text r.label),
    ("state", r.state.toJson)]

/-- A warning as JSON. -/
def ContentWarning.toJson (w : ContentWarning) : Json :=
  .object [("NoContentMatched", .object [("stage_index", .nat w.stage),
    ("pattern", .text w.pattern)])]

/-- A build state as JSON. -/
def BuildState.toJson (s : BuildState) : Json :=
  .object [("execution_id", .text s.id.text), ("pipeline_name", .text s.pipeline),
    ("status", .text s.status.name), ("started_at", optionalJson Instant.toJson s.startedAt),
    ("completed_at", optionalJson Instant.toJson s.finishedAt),
    ("stages", .array (s.stages.map StageRecord.toJson)),
    ("warnings", .array (s.warnings.map ContentWarning.toJson))]

/-! ## Reading -/

namespace Form

/-- An identifier. -/
def uuid : Form Uuid :=
  parsed "a formatted UUID string" fun s =>
    (Uuid.read s).mapError fun f => "UUID parsing failed: " ++ f.message

/-- An instant. -/
def instant : Form Instant :=
  parsed "an RFC 3339 formatted date and time string" fun s =>
    (Instant.read s).mapError Instant.Fault.message

/-- A status. -/
def buildStatus : Form BuildStatus :=
  choice ([BuildStatus.pending, .running, .completed, .failed].map fun s => (s.name, .plain s))

/-- What has been read of a stage's state. -/
structure StageDraft where
  bytesIn : Option Nat := none
  bytesOut : Option Nat := none
  error : Option String := none
  reason : Option String := none
  start : Option Instant := none
  finish : Option Instant := none

/-- The start of a stage. -/
def startField : Field StageDraft :=
  field "started_at" instant StageDraft.start fun d t => { d with start := some t }

/-- The end of a stage, under a name. -/
def finishField (name : String) : Field StageDraft :=
  field name instant StageDraft.finish fun d t => { d with finish := some t }

/-- The fields of a stage that runs. -/
def runningStage : Form StageState :=
  record "struct variant StageState::Running" [startField] {} fun d => do
    return .running (← required "started_at" d.start)

/-- The fields of a stage that has completed. -/
def completedStage : Form StageState :=
  record "struct variant StageState::Completed"
    [field "bytes_in" count StageDraft.bytesIn fun d n => { d with bytesIn := some n },
      field "bytes_out" count StageDraft.bytesOut fun d n => { d with bytesOut := some n },
      startField, finishField "completed_at"] {} fun d => do
    return .completed (← required "bytes_in" d.bytesIn) (← required "bytes_out" d.bytesOut)
      (← required "started_at" d.start) (← required "completed_at" d.finish)

/-- The fields of a stage that has failed. -/
def failedStage : Form StageState :=
  record "struct variant StageState::Failed"
    [field "error" text StageDraft.error fun d s => { d with error := some s },
      startField, finishField "failed_at"] {} fun d => do
    return .failed (← required "error" d.error) (← required "started_at" d.start)
      (← required "failed_at" d.finish)

/-- The fields of a stage that was skipped. -/
def skippedStage : Form StageState :=
  record "struct variant StageState::Skipped"
    [field "reason" text StageDraft.reason fun d s => { d with reason := some s }] {} fun d => do
    return .skipped (← required "reason" d.reason)

/-- What became of a stage. -/
def stageState : Form StageState :=
  choice [("Pending", .plain .pending), ("Running", .withFields runningStage),
    ("Completed", .withFields completedStage), ("Failed", .withFields failedStage),
    ("Skipped", .withFields skippedStage)]

/-- What has been read of a record. -/
structure RecordDraft where
  index : Option Nat := none
  kind : Option String := none
  label : Option String := none
  state : Option StageState := none

/-- A record. -/
def stageRecord : Form StageRecord :=
  record "struct StageRecord"
    [field "index" count RecordDraft.index fun d n => { d with index := some n },
      field "kind" text RecordDraft.kind fun d s => { d with kind := some s },
      field "label" text RecordDraft.label fun d s => { d with label := some s },
      field "state" stageState RecordDraft.state fun d s => { d with state := some s }] {}
    fun d => do
    return ⟨← required "index" d.index, ← required "kind" d.kind, ← required "label" d.label,
      ← required "state" d.state⟩

/-- What has been read of a warning. -/
structure WarningDraft where
  stage : Option Nat := none
  pattern : Option String := none

/-- A warning. -/
def contentWarning : Form ContentWarning :=
  choice [("NoContentMatched", .withFields <|
    record "struct variant ContentWarning::NoContentMatched"
      [field "stage_index" count WarningDraft.stage fun d n => { d with stage := some n },
        field "pattern" text WarningDraft.pattern fun d s => { d with pattern := some s }] {}
      fun d => do
        return ⟨← required "stage_index" d.stage, ← required "pattern" d.pattern⟩)]

/-- What has been read of a build state. -/
structure StateDraft where
  id : Option Uuid := none
  pipeline : Option String := none
  status : Option BuildStatus := none
  startedAt : Option (Option Instant) := none
  finishedAt : Option (Option Instant) := none
  stages : Option (List StageRecord) := none
  warnings : Option (List ContentWarning) := none

/-- A build state. The instants may be missing. -/
def buildState : Form BuildState :=
  record "struct BuildState"
    [field "execution_id" uuid StateDraft.id fun d u => { d with id := some u },
      field "pipeline_name" text StateDraft.pipeline fun d s => { d with pipeline := some s },
      field "status" buildStatus StateDraft.status fun d s => { d with status := some s },
      field "started_at" (optional instant) StateDraft.startedAt
        fun d t => { d with startedAt := some t },
      field "completed_at" (optional instant) StateDraft.finishedAt
        fun d t => { d with finishedAt := some t },
      field "stages" (list stageRecord) StateDraft.stages fun d s => { d with stages := some s },
      field "warnings" (list contentWarning) StateDraft.warnings
        fun d w => { d with warnings := some w }] {} fun d => do
    let id ← required "execution_id" d.id
    let pipeline ← required "pipeline_name" d.pipeline
    let status ← required "status" d.status
    let stages ← required "stages" d.stages
    let warnings ← required "warnings" d.warnings
    return ⟨id, pipeline, status, d.startedAt.getD none, d.finishedAt.getD none, stages, warnings⟩

end Form

end StyleBuild
