import StyleBuild.Command.Arguments
import StyleBuild.Command.Session
import StyleBuild.Pipeline.Config.Printer

/-!
# The commands that only look

`validate` checks a configuration as far as composing its pipeline, `stages` lists the kinds of
stages, and `scan` shows which classes the content of a pipeline uses. None of them changes a file.
-/

namespace StyleBuild

/-! ## Validate -/

namespace ValidateCommand

/-- Load a configuration and compose its pipeline. -/
def check (c : ValidateCommand) (s : Session) : Except (List String) (Config × Pipeline) := do
  let config ← (Config.load s.files c.config).mapError LoadError.chain
  let p ← (Pipeline.compose config .builtin).mapError BuildError.chain
  return (config, p)

/-- The notes on composing, if it comes to that. -/
def notes (c : ValidateCommand) (s : Session) : List Printed :=
  match Config.load s.files c.config with
  | .ok config => s.composeNotes config
  | .error _ => []

/-- The line on a stage: its label, and its kind if that is something else. -/
def stageLine (s : Session) (b : BoundStage) : Printed :=
  .out ("    " ++ decimalText b.index ++ ". " ++
    if b.label = b.kind then s.console.paint .cyan b.kind
    else s.console.paint .bold b.label ++ " (" ++ s.console.paint .cyan b.kind ++ ")")

/-- What is told of a valid configuration. -/
def details (s : Session) (config : Config) (p : Pipeline) : List Printed :=
  .out (Mark.good.line "Pipeline configuration is valid!") ::
    .out ("  Name: " ++ s.console.paint .bold config.name) ::
    (config.description.toList.map fun d =>
      .out ("  Description: " ++ s.console.paint .dim d)) ++
    .out ("  Stages: " ++ s.console.paint .cyan (decimalText p.size)) ::
    p.stages.map (stageLine s)

/-- Run the command. -/
def run (c : ValidateCommand) (s : Session) : Finish :=
  let printed := .out (Mark.info.line "Validating pipeline...") :: c.notes s
  match c.check s with
  | .error chain =>
    ⟨1, printed ++ [.out (Mark.bad.line "Validation failed:"),
      .out ("  " ++ s.console.paint .red (String.intercalate ": " chain))], s.files⟩
  | .ok (config, p) =>
    let printed := printed ++ details s config p
    if c.json then
      match config.toJson with
      | .ok j => s.accept (printed ++ [.out ("\n" ++ j.pretty)])
      | .error f => s.refuse printed [f.message]
    else s.accept printed

end ValidateCommand

/-! ## Stages -/

/-- List the kinds of stages. -/
def StagesCommand.run (c : StagesCommand) (s : Session) : Finish :=
  let kinds := Registry.builtin.kinds
  s.accept <|
    if c.json then [.out (Json.object [("stages", .array (kinds.map .text))]).pretty]
    else .out (Mark.info.line "Available stage kinds:") ::
      kinds.map fun k => .out ("  " ++ s.console.paint .bold k)

/-! ## Scan -/

/-- A list of texts as JSON. -/
def textsJson (texts : List String) : Json := .array (texts.map .text)

/-- A scan as JSON. -/
def Scan.toJson (scan : Scan) : Json :=
  .object [("classes", textsJson scan.classes.names), ("files", textsJson scan.files),
    ("unmatched", textsJson scan.unmatched)]

namespace ScanCommand

/-- The scan of a stage's content. -/
structure Finding where
  stage : BoundStage
  source : ContentSource
  scan : Scan

/-- What the scans of a pipeline's stages came to. -/
structure Survey where
  findings : List Finding := []
  notes : List LogEntry := []

/-- Scan the content of stages in order, up to the first scan that fails. -/
def survey (t : FileTree) (base : String) (v : Survey) :
    List BoundStage → Survey × Option (Nat × ScanFault)
  | [] => (v, none)
  | b :: rest =>
    match b.transformer.content with
    | none => survey t base v rest
    | some source =>
      let scanned := source.scan t base
      let v := { v with notes := v.notes ++ scanned.notes }
      match scanned.result with
      | .error f => (v, some (b.index, f))
      | .ok scan => survey t base { v with findings := v.findings ++ [⟨b, source, scan⟩] } rest

/-- A finding as JSON. -/
def Finding.toJson (f : Finding) : Json :=
  .object [("index", .nat f.stage.index), ("kind", .text f.stage.kind),
    ("patterns", textsJson f.source.patterns), ("scan", f.scan.toJson)]

/-- The number of classes that are listed. -/
def mostClasses : Nat := 20

/-- A finding in lines. -/
def Finding.lines (s : Session) (f : Finding) : List Printed :=
  let classes := f.scan.classes.names
  .out (Mark.search.line ("[" ++ decimalText f.stage.index ++ "] " ++
      s.console.paint .bold f.stage.label ++ " " ++
      s.console.paint .dim (String.intercalate " " f.source.patterns))) ::
    (f.scan.unmatched.map fun p =>
      .out ("  " ++ Mark.warning.line ("'" ++ p ++ "' matched no files"))) ++
    .out ("  Files: " ++ s.console.paint .cyan (decimalText f.scan.files.length)) ::
    (f.scan.files.map fun p => .out ("    " ++ s.console.paint .dim p)) ++
    [.out ("  Classes (" ++ s.console.paint .cyan (decimalText classes.length) ++ "): " ++
      s.console.list classes mostClasses)]

/-- Show what the scans found. -/
def shown (c : ScanCommand) (s : Session) (fs : List Finding) : List Printed :=
  if c.json then [.out (Json.array (fs.map Finding.toJson)).pretty]
  else if fs.isEmpty then [.out (Mark.info.line "No stage declares content globs")]
  else fs.flatMap (Finding.lines s)

/-- Run the command. -/
def run (c : ScanCommand) (s : Session) : Finish :=
  match s.loadConfig c.config c.baseDir with
  | .error chain => s.refuse [] chain
  | .ok config =>
    let printed := s.composeNotes config
    match Session.compose config with
    | .error chain => s.refuse printed chain
    | .ok p =>
      let (v, stop) := survey s.files p.baseDir {} p.stages
      let printed := printed ++ s.shownNotes v.notes
      match stop with
      | some (index, f) =>
        s.refuse printed ["Failed to scan content for stage " ++ decimalText index, f.message,
          f.cause.message]
      | none => s.accept (printed ++ shown c s v.findings)

end ScanCommand

end StyleBuild
