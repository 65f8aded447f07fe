import StyleBuild.Stage.Options
import StyleBuild.Pipeline.Config

/-!
# Pipelines

A registry knows how to make stages of each kind, in the order in which the kinds were registered
first. A kind registered again is made as registered last.

A pipeline is composed from a configuration by making each stage in order. The first stage that
cannot be made decides the error.

What stops a build: a pipeline that cannot be composed, content that cannot be scanned, or a stage
that fails.
-/

namespace StyleBuild

/-! ## Stage kinds -/

/-- How to make the stages of each kind. -/
structure Registry where
  makers : Ordered StageMaker := {}
  deriving Inhabited

namespace Registry

/-- Register a kind. -/
def register (r : Registry) (kind : String) (make : StageMaker) : Registry :=
  ⟨r.makers.insert kind make⟩

/-- The kinds that every build knows. -/
def builtin : Registry :=
  ((((({} : Registry).register "utility-generation" makeGeneration).register
    "vendor-prefixing" makePrefixing).register
    "rule-pruning" makePruning).register
    "minification" makeMinification)

/-- Whether a kind is registered. -/
def contains (r : Registry) (kind : String) : Bool := r.makers.contains kind

/-- The kinds in the order of registration. -/
def kinds (r : Registry) : List String := r.makers.keys

/-- Make a stage, if its kind is registered. -/
def bind (r : Registry) (kind : String) (options : Options) (theme : Option Theme) :
    Option (Except OptionFault Transformer) :=
  (r.makers.get? kind).map fun make => make options theme

/-- The registry in words. -/
def describe (r : Registry) : String :=
  "TransformerRegistry \x7b kinds: [" ++
    String.intercalate ", " (r.kinds.map quotedText) ++ "] \x7d"

end Registry

/-! ## Errors -/

/-- Why a build stops. -/
inductive BuildError where
  | noStages
  | unknownKind (index : Nat) (kind : String)
  | invalidOptions (index : Nat) (kind : String) (fault : OptionFault)
  | scan (index : Nat) (fault : ScanFault)
  | stage (index : Nat) (kind : String) (error : TransformError)
  deriving Inhabited

namespace BuildError

/-- A stage's place and kind, as errors name it. -/
def stageText (index : Nat) (kind : String) : String :=
  "Stage " ++ decimalText index ++ " (" ++ kind ++ ")"

/-- The error in words. -/
def message : BuildError → String
  | .noStages => "Pipeline has no stages"
  | .unknownKind i k => "Stage " ++ decimalText i ++ ": unknown stage kind '" ++ k ++ "'"
  | .invalidOptions i k f => stageText i k ++ ": invalid options: " ++ f.message
  | .scan i f => "Stage " ++ decimalText i ++ ": " ++ f.message
  | .stage i k e => stageText i k ++ " failed: " ++ e.message

/-- The place of the stage at fault. -/
def stageIndex : BuildError → Option Nat
  | .noStages => none
  | .unknownKind i _ | .invalidOptions i _ _ | .scan i _ | .stage i _ _ => some i

/-- What lies behind the error, in words. -/
def cause : BuildError → Option String
  | .scan _ f => some f.cause.message
  | .stage _ _ e => some e.message
  | _ => none

end BuildError

/-- Something to tell that does not stop a build: a pattern of a stage matched nothing. -/
structure ContentWarning where
  stage : Nat
  pattern : String
  deriving DecidableEq, Repr, Inhabited

/-- The warning in words. -/
def ContentWarning.message (w : ContentWarning) : String :=
  "Stage " ++ decimalText w.stage ++ ": content pattern '" ++ w.pattern ++
    "' matched no files, every unlisted class will be treated as unused"

/-! ## Stages in order -/

/-- A stage in its place in a pipeline. -/
structure BoundStage where
  index : Nat
  kind : String
  label : String
  transformer : Transformer

/-- Stages in order, and the folder in which they look for content. -/
structure Pipeline where
  name : String
  baseDir : String
  stages : List BoundStage

namespace Pipeline

/-- The number of stages. -/
def size (p : Pipeline) : Nat := p.stages.length

/-- The kinds of the stages in order. -/
def kinds (p : Pipeline) : List String := p.stages.map BoundStage.kind

/-- Make one stage. -/
def bindStage (r : Registry) (theme : Option Theme) (index : Nat) (s : StageSpec) :
    Except BuildError BoundStage :=
  match r.bind s.kind s.options theme with
  | none => .error (.unknownKind index s.kind)
  | some (.error f) => .error (.invalidOptions index s.kind f)
  | some (.ok t) => .ok ⟨index, s.kind, s.label, t⟩

/-- Make stages from a place on. -/
def bindStages (r : Registry) (theme : Option Theme) (index : Nat) :
    List StageSpec → Except BuildError (List BoundStage)
  | [] => .ok []
  | s :: rest => do
    let first ← bindStage r theme index s
    return first :: (← bindStages r theme (index + 1) rest)

/-- Compose the pipeline of a configuration. -/
def compose (c : Config) (r : Registry) : Except BuildError Pipeline :=
  if c.stages.isEmpty then .error .noStages
  else (bindStages r c.theme 0 c.stages).map fun stages => ⟨c.name, c.base, stages⟩

/-- The note on a stage that was made. -/
def bindNote (index : Nat) (s : StageSpec) : LogEntry :=
  ⟨.debug, "stylepipe::core::pipeline",
    "Bound stage " ++ decimalText index ++ " as " ++ s.kind⟩

/-- The notes on the stages made from a place on, before the first that cannot be made. -/
def bindNotesFrom (r : Registry) (theme : Option Theme) (index : Nat) :
    List StageSpec → List LogEntry
  | [] => []
  | s :: rest =>
    match bindStage r theme index s with
    | .ok _ => bindNote index s :: bindNotesFrom r theme (index + 1) rest
    | .error _ => []

/-- The notes on composing a pipeline. -/
def composeNotes (c : Config) (r : Registry) : List LogEntry := bindNotesFrom r c.theme 0 c.stages

end Pipeline

end StyleBuild
