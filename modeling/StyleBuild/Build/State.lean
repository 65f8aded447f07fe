import StyleBuild.Pipeline.Basic
import StyleBuild.Time.Instant
import StyleBuild.Uuid

/-!
# Build state

What is known about a build: how far it is, what became of each stage, and the warnings. A stage
that has completed, failed or been skipped has reached its end; `skipFrom` leaves such stages alone.
What happens in a build is told as events, in between the notes that its parts take.
-/

namespace StyleBuild

/-- How far a build is. -/
inductive BuildStatus where
  | pending
  | running
  | completed
  | failed
  deriving DecidableEq, Repr, Inhabited

/-- The status by name. -/
def BuildStatus.name : BuildStatus → String
  | .pending => "Pending"
  | .running => "Running"
  | .completed => "Completed"
  | .failed => "Failed"

/-- What became of a stage. -/
inductive StageState where
  | pending
  | running (start : Instant)
  | completed (bytesIn bytesOut : Nat) (start finish : Instant)
  | failed (error : String) (start finish : Instant)
  /-- Not run because something before it failed. -/
  | skipped (reason : String)
  deriving DecidableEq, Repr, Inhabited

namespace StageState

/-- Whether a stage has reached its end. -/
def isTerminal : StageState → Bool
  | .completed .. | .failed .. | .skipped _ => true
  | .pending | .running _ => false

/-- Whether a stage has completed. -/
def isCompleted : StageState → Bool
  | .completed .. => true
  | _ => false

/-- Skip a stage, unless it has reached its end. -/
def skip (reason : String) (s : StageState) : StageState :=
  if s.isTerminal then s else .skipped reason

@[simp] theorem isTerminal_skip (reason : String) (s : StageState) :
    (s.skip reason).isTerminal = true := by
  cases s <;> rfl

theorem isTerminal_of_isCompleted {s : StageState} (h : s.isCompleted = true) :
    s.isTerminal = true := by
  cases s <;> simp_all [isCompleted, isTerminal]

end StageState

/-- A stage and what became of it. -/
structure StageRecord where
  index : Nat
  kind : String
  label : String
  state : StageState := .pending
  deriving DecidableEq, Repr, Inhabited

/-- What is known about a build. -/
structure BuildState where
  id : Uuid
  pipeline : String
  status : BuildStatus := .pending
  startedAt : Option Instant := none
  finishedAt : Option Instant := none
  stages : List StageRecord := []
  warnings : List ContentWarning := []
  deriving DecidableEq, Repr, Inhabited

namespace BuildState

/-- The record of a stage that has not run. -/
def recordOf (s : BoundStage) : StageRecord :=
  { index := s.index, kind := s.kind, label := s.label }

/-- The state of a build that has not started. -/
def fresh (id : Uuid) (p : Pipeline) : BuildState :=
  { id, pipeline := p.name, stages := p.stages.map recordOf }

/-- Start the build. -/
def start (now : Instant) (s : BuildState) : BuildState :=
  { s with status := .running, startedAt := some now }

/-- End the build well. -/
def complete (now : Instant) (s : BuildState) : BuildState :=
  { s with status := .completed, finishedAt := some now }

/-- End the build with a failure. -/
def fail (now : Instant) (s : BuildState) : BuildState :=
  { s with status := .failed, finishedAt := some now }

/-- Change what became of a record's stage. -/
def update (f : StageState → StageState) (r : StageRecord) : StageRecord :=
  { r with state := f r.state }

/-- Say what became of a stage. A place without a stage is left alone. -/
def setStage (index : Nat) (state : StageState) (s : BuildState) : BuildState :=
  { s with stages := s.stages.modify index (update fun _ => state) }

/-- Skip the stages from a place on that have not reached their end. -/
def skipFrom (index : Nat) (reason : String) (s : BuildState) : BuildState :=
  { s with
    stages := s.stages.take index ++ (s.stages.drop index).map (update (StageState.skip reason)) }

/-- Add a warning. -/
def warn (w : ContentWarning) (s : BuildState) : BuildState :=
  { s with warnings := s.warnings ++ [w] }

/-- The number of stages that have completed. -/
def completedStages (s : BuildState) : Nat := s.stages.countP fun r => r.state.isCompleted

/-- The number of stages that have reached their end. -/
def finishedStages (s : BuildState) : Nat := s.stages.countP fun r => r.state.isTerminal

/-- The part of the stages that have reached their end; nothing of nothing. -/
def progress (s : BuildState) : Binary64 :=
  if s.stages.isEmpty then .ofNat 0
  else (Binary64.ofNat s.finishedStages).quotient (.ofNat s.stages.length)

@[simp] theorem length_setStage (i : Nat) (t : StageState) (s : BuildState) :
    (s.setStage i t).stages.length = s.stages.length := by
  simp [setStage]

@[simp] theorem length_skipFrom (i : Nat) (reason : String) (s : BuildState) :
    (s.skipFrom i reason).stages.length = s.stages.length := by
  simp [skipFrom]; omega

end BuildState

/-! ## Events -/

/-- Something that happens in a build. -/
inductive BuildEvent where
  | started (id : Uuid) (pipeline : String) (stages : Nat)
  | scanned (stage files classes : Nat)
  | warned (warning : ContentWarning)
  | stageStarted (stage : Nat) (label : String)
  | stageCompleted (stage bytesIn bytesOut nanos : Nat)
  | stageFailed (stage : Nat) (error : String)
  | finished (id : Uuid) (status : BuildStatus)
  deriving DecidableEq, Repr, Inhabited

/-- An event, or a note. -/
inductive TrailEntry where
  | event (e : BuildEvent)
  | note (n : LogEntry)
  deriving DecidableEq, Repr, Inhabited

/-- What happened in a build, in order. -/
abbrev Trail := List TrailEntry

namespace Trail

/-- The event of an entry. -/
def event? : TrailEntry → Option BuildEvent
  | .event e => some e
  | .note _ => none

/-- The note of an entry. -/
def note? : TrailEntry → Option LogEntry
  | .note n => some n
  | .event _ => none

/-- The events in order. -/
def events (t : Trail) : List BuildEvent := t.filterMap event?

/-- The notes in order. -/
def notes (t : Trail) : List LogEntry := t.filterMap note?

/-- A trail of notes. -/
def ofNotes (ns : List LogEntry) : Trail := ns.map .note

@[simp] theorem events_append (s t : Trail) : events (s ++ t) = events s ++ events t := by
  simp [events]

@[simp] theorem events_ofNotes (ns : List LogEntry) : events (ofNotes ns) = [] := by
  simp [events, ofNotes, event?]

@[simp] theorem events_event (e : BuildEvent) (t : Trail) :
    events (.event e :: t) = e :: events t := rfl

@[simp] theorem events_note (n : LogEntry) (t : Trail) : events (.note n :: t) = events t := rfl

end Trail

end StyleBuild
