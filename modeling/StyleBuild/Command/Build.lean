import StyleBuild.Build.Run
import StyleBuild.Command.Arguments
import StyleBuild.Command.Session

/-!
# The build command

A build loads a configuration, composes its pipeline, reads a style sheet, runs the pipeline on it
and delivers the result. Whatever fails before the result is there leaves the files alone and
prints nothing on standard output.
-/

namespace StyleBuild

/-- How an event is shown while a build goes on; a progress bar shows none in a log. -/
def Session.shownEvent (s : Session) (progress : Bool) (e : BuildEvent) : List Printed :=
  if progress then [] else [.err (s.console.event e)]

/-- What is shown of what happens in a build. -/
def Session.shownTrail (s : Session) (progress : Bool) (t : Trail) : List Printed :=
  t.flatMap fun
    | .event e => s.shownEvent progress e
    | .note n => s.shownNotes [n]

namespace BuildCommand

/-- Read the style sheet: a file, or else standard input. -/
def readSource (c : BuildCommand) (s : Session) : Except (List String) String :=
  match c.input with
  | some path =>
    (s.files.readText path).mapError fun e => ["Failed to read style sheet " ++ path, e.message]
  | none =>
    match Utf8.firstBreak 0 s.stdin with
    | some b => .error ["Failed to read style sheet from stdin", b.message]
    | none => .ok (String.ofList (Utf8.readLenient s.stdin))

/-- Make the folders that lead to a file: the tree that is left, and what is wrong with it. -/
def layWay (path : String) (t : FileTree) : FileTree × Option (List String) :=
  match Path.parent? path with
  | some parent =>
    if parent.isEmpty then (t, none)
    else
      let (t, fault) := t.layFolders parent
      (t, fault.map fun e => ["Failed to create " ++ parent, e.message])
  | none => (t, none)

/-- Write a text to a file, to which folders are made: the tree that is left, and what is wrong with
it. Folders that were made stay where the file cannot be written. -/
def deliverTo (path css : String) (t : FileTree) : FileTree × Option (List String) :=
  match layWay path t with
  | (t, some chain) => (t, some chain)
  | (t, none) =>
    match t.write path (Utf8.bytes css) with
    | .ok written => (written, none)
    | .error e => (t, some ["Failed to write " ++ path, e.message])

/-- The line that sums a build up. -/
def summaryLine (s : Session) (state : BuildState) : Printed :=
  .err ("\n" ++ s.console.summary state)

/-- The line on what became of a stage. -/
def stageLine (s : Session) (r : StageRecord) : Printed :=
  .err ("  [" ++ decimalText r.index ++ "] " ++ s.console.paint .cyan r.label ++ " " ++
    s.console.stageState r.state)

/-- The note with which a failed build ends. -/
def failureNote (e : BuildError) : LogEntry :=
  ⟨.error, "stylepipe", String.intercalate ": " e.chain⟩

/-- Deliver the result of a build. -/
def deliver (c : BuildCommand) (s : Session) (printed : List Printed) (state : BuildState)
    (css : String) : Finish :=
  match c.output with
  | none => ⟨0, printed ++ [.out css, summaryLine s state], s.files⟩
  | some path =>
    match deliverTo path css s.files with
    | (files, some chain) => { s.refuse printed chain with files }
    | (files, none) => ⟨0, printed ++ [summaryLine s state], files⟩

/-- Tell of a build that failed. -/
def report (s : Session) (printed : List Printed) (state : BuildState) (e : BuildError) : Finish :=
  ⟨1, printed ++ summaryLine s state :: state.stages.map (stageLine s) ++
    s.shownNotes [failureNote e], s.files⟩

/-- Run a pipeline on a style sheet and deliver the result. -/
def runPipeline (c : BuildCommand) (s : Session) (printed : List Printed) (p : Pipeline)
    (source : String) : Finish :=
  let r := Build.run p s.files s.clock source (.fresh s.id p)
  let printed := printed ++ s.shownTrail c.progress r.trail
  match r.result with
  | .error e => report s printed r.state e
  | .ok css => deliver c s printed r.state css

/-- Run the command. -/
def run (c : BuildCommand) (s : Session) : Finish :=
  match s.loadConfig c.config c.baseDir with
  | .error chain => s.refuse [] chain
  | .ok config =>
    let printed :=
      .err (Mark.info.line ("Loaded pipeline: " ++ s.console.paint .bold config.name)) ::
        s.composeNotes config
    match Session.compose config with
    | .error chain => s.refuse printed chain
    | .ok p =>
      match c.readSource s with
      | .error chain => s.refuse printed chain
      | .ok source => runPipeline c s printed p source

end BuildCommand

end StyleBuild
