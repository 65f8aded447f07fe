import StyleBuild.Build.State

/-!
# Running a build

A build first scans the content of every stage that asks for some, and then runs the stages in
order, each on what the one before it made. The first failure ends it, and what has not run is
skipped. Stages with the same content source share one scan.

`Build.run` is the whole: `Build.scanFrom` and `Build.stagesFrom` are the two loops. What the clock
shows is given from outside, so that a build is a function of its input.
-/

namespace StyleBuild

/-- What the clock shows during a build: at its start and its end, when a stage starts and ends, and
how many nanoseconds the stage takes. -/
structure Clock where
  start : Instant := default
  finish : Instant := default
  stageStart : Nat → Instant := fun _ => default
  stageFinish : Nat → Instant := fun _ => default
  stageNanos : Nat → Nat := fun _ => 0
  deriving Inhabited

namespace Build

/-- A note on a build. -/
def note (level : LogLevel) (text : String) : TrailEntry :=
  .note ⟨level, "stylepipe::execution::engine", text⟩

/-! ## Scanning -/

/-- The scans that were made, by what they depend on. -/
abbrev Cache := List ((List String × String) × Scan)

/-- What scanning has come to: the scan of each stage so far, the scans that were made, the
warnings, and what happened. -/
structure Scanning where
  scans : List (Option Scan) := []
  cache : Cache := []
  warnings : List ContentWarning := []
  trail : Trail := []
  deriving Inhabited

/-- Scan a content source, unless that was done before. -/
def Scanning.lookUp (t : FileTree) (base : String) (cache : Cache) (s : ContentSource) :
    Scanned × Cache :=
  match cache.lookup s.key with
  | some scan => (⟨.ok scan, []⟩, cache)
  | none =>
    let scanned := s.scan t base
    match scanned.result with
    | .ok scan => (scanned, (s.key, scan) :: cache)
    | .error _ => (scanned, cache)

/-- The warnings on a scan of a stage. -/
def warningsOf (stage : Nat) (scan : Scan) : List ContentWarning :=
  scan.unmatched.map fun pattern => ⟨stage, pattern⟩

/-- What happens when a stage's content has been scanned. -/
def scannedTrail (stage : Nat) (scan : Scan) : Trail :=
  .event (.scanned stage scan.files.length scan.classes.names.length) ::
    (warningsOf stage scan).flatMap fun w => [note .warn w.message, .event (.warned w)]

/-- Add the scan of a stage. -/
def Scanning.add (g : Scanning) (stage : Nat) (notes : List LogEntry) (cache : Cache)
    (scan : Scan) : Scanning :=
  { scans := g.scans ++ [some scan]
    cache
    warnings := g.warnings ++ warningsOf stage scan
    trail := g.trail ++ Trail.ofNotes notes ++ scannedTrail stage scan }

/-- Scan the content of stages in order, up to the first scan that fails. -/
def scanFrom (t : FileTree) (base : String) (g : Scanning) :
    List BoundStage → Scanning × Option BuildError
  | [] => (g, none)
  | s :: rest =>
    match s.transformer.content with
    | none => scanFrom t base { g with scans := g.scans ++ [none] } rest
    | some source =>
      match Scanning.lookUp t base g.cache source with
      | (⟨.ok scan, notes⟩, cache) => scanFrom t base (g.add s.index notes cache scan) rest
      | (⟨.error f, notes⟩, _) =>
        ({ g with trail := g.trail ++ Trail.ofNotes notes }, some (.scan s.index f))

/-- Scan the content of a pipeline. -/
def scanAll (p : Pipeline) (t : FileTree) : Scanning × Option BuildError :=
  scanFrom t p.baseDir {} p.stages

/-! ## Stages -/

/-- What a build has come to: the text made so far or the error that ended it, its state, and what
happened. -/
structure Run where
  result : Except BuildError String
  state : BuildState
  trail : Trail := []
  deriving Inhabited

/-- What a stage sees besides its input. -/
def contextOf (scans : List (Option Scan)) (s : BoundStage) : StageContext :=
  { index := s.index, content := (scans[s.index]?).join }

/-- The name of a stage in notes. -/
def stageName (s : BoundStage) : String :=
  "Stage " ++ decimalText s.index ++ " (" ++ s.kind ++ ")"

/-- A duration in the unit that suits it, with as many places as it needs. -/
def preciseDuration (nanos : Nat) : String :=
  let shown (unit : Nat) (name : String) : String :=
    let places := (Nat.toDigits 10 unit).length - 1
    let fraction := (decimalPadded places (nanos % unit)).toList.reverse.dropWhile (· == '0')
    decimalText (nanos / unit) ++
      (if fraction.isEmpty ∨ places = 0 then "" else "." ++ String.ofList fraction.reverse) ++ name
  if 1000000000 ≤ nanos then shown 1000000000 "s"
  else if 1000000 ≤ nanos then shown 1000000 "ms"
  else if 1000 ≤ nanos then shown 1000 "µs"
  else shown 1 "ns"

/-- What happens when a stage starts. -/
def startTrail (s : BoundStage) : Trail :=
  [note .info ("Running stage " ++ decimalText s.index ++ " (" ++ s.label ++ ")"),
    .event (.stageStarted s.index s.label)]

/-- What happens when a stage has completed. -/
def completedTrail (s : BoundStage) (bytesIn bytesOut nanos : Nat) : Trail :=
  [note .debug (stageName s ++ " " ++ decimalText bytesIn ++ " -> " ++ decimalText bytesOut ++
      " bytes in " ++ preciseDuration nanos),
    .event (.stageCompleted s.index bytesIn bytesOut nanos)]

/-- What happens when a stage has failed. -/
def failedTrail (s : BoundStage) (e : TransformError) : Trail :=
  [note .error (stageName s ++ " failed: " ++ e.message),
    .event (.stageFailed s.index e.message)]

/-- The state when a stage runs. -/
def running (clock : Clock) (s : BoundStage) (state : BuildState) : BuildState :=
  state.setStage s.index (.running (clock.stageStart s.index))

/-- The state when a stage has completed. -/
def completed (clock : Clock) (s : BoundStage) (css out : String) (state : BuildState) :
    BuildState :=
  state.setStage s.index (.completed css.utf8ByteSize out.utf8ByteSize
    (clock.stageStart s.index) (clock.stageFinish s.index))

/-- The state when a stage has failed: the stages behind it are skipped. -/
def failed (clock : Clock) (s : BoundStage) (e : TransformError) (state : BuildState) :
    BuildState :=
  (state.setStage s.index (.failed e.message
    (clock.stageStart s.index) (clock.stageFinish s.index))).skipFrom (s.index + 1)
      ("stage " ++ decimalText s.index ++ " failed")

/-- Run one stage of a build that has made a text. -/
def runStage (clock : Clock) (scans : List (Option Scan)) (css : String) (state : BuildState)
    (trail : Trail) (s : BoundStage) : Run :=
  let outcome := s.transformer.run (contextOf scans s) css
  let state := running clock s state
  let trail := trail ++ startTrail s ++ Trail.ofNotes outcome.notes
  match outcome.result with
  | .ok out =>
    { result := .ok out
      state := completed clock s css out state
      trail := trail ++
        completedTrail s css.utf8ByteSize out.utf8ByteSize (clock.stageNanos s.index) }
  | .error e =>
    { result := .error (.stage s.index s.kind e)
      state := failed clock s e state
      trail := trail ++ failedTrail s e }

/-- One step of a build: a failure ends it. -/
def step (clock : Clock) (scans : List (Option Scan)) (r : Run) (s : BoundStage) : Run :=
  match r.result with
  | .ok css => runStage clock scans css r.state r.trail s
  | .error _ => r

/-- Run stages in order. -/
def stagesFrom (clock : Clock) (scans : List (Option Scan)) (r : Run) (stages : List BoundStage) :
    Run :=
  stages.foldl (step clock scans) r

/-! ## The whole -/

/-- How a build ends. -/
def statusOf (r : Run) : BuildStatus :=
  match r.result with
  | .ok _ => .completed
  | .error _ => .failed

/-- End a build. -/
def finish (clock : Clock) (r : Run) : Run :=
  { r with
    state := match r.result with
      | .ok _ => r.state.complete clock.finish
      | .error _ => r.state.fail clock.finish
    trail := r.trail ++
      [note .info ("Build finished: " ++ r.state.pipeline ++ " - " ++ (statusOf r).name),
        .event (.finished r.state.id (statusOf r))] }

/-- What happens when a build starts. -/
def beginTrail (p : Pipeline) (id : Uuid) : Trail :=
  [note .info ("Starting build: " ++ p.name ++ " (" ++ id.text ++ ")"),
    .event (.started id p.name p.size)]

/-- A build whose content could not be scanned: no stage runs. -/
def refused (e : BuildError) (state : BuildState) (trail : Trail) : Run :=
  { result := .error e
    state := state.skipFrom 0 "content scan failed"
    trail := trail ++ [note .error e.message] }

/-- Run a pipeline on a text, with the files of a tree as content. The state may be left by earlier
builds. -/
def run (p : Pipeline) (t : FileTree) (clock : Clock) (source : String) (state : BuildState) :
    Run :=
  let (g, stop) := scanAll p t
  let state := { state.start clock.start with warnings := state.warnings ++ g.warnings }
  let trail := beginTrail p state.id ++ g.trail
  finish clock <|
    match stop with
    | some e => refused e state trail
    | none => stagesFrom clock g.scans ⟨.ok source, state, trail⟩ p.stages

end Build

end StyleBuild
