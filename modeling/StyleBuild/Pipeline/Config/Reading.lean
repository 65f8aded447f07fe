import StyleBuild.Pipeline.Config
import StyleBuild.Theme.Reading
import StyleBuild.Yaml.Node.Parser

/-!
# Reading configurations

A configuration is the root of a document. Fields that it does not know are ignored; in a stage
every further field is an option.
-/

namespace StyleBuild

/-- Why a text is not a configuration. -/
inductive ConfigError where
  | malformed
  | unfit (fault : Yaml.Fault)
  | invalid (fault : ConfigFault)
  deriving Inhabited

/-- The error in words. A malformed text is not described further. -/
def ConfigError.message : ConfigError → String
  | .malformed => "malformed document"
  | .unfit f => f.message
  | .invalid f => f.message

namespace Yaml

/-- A stage that is being read. -/
structure StageDraft where
  kind : Option String := none
  name : Option (Option String) := none
  /-- The options, latest first. -/
  options : List (String × Value) := []

/-- The stage of a draft. -/
def StageDraft.stage (d : StageDraft) : Read StageSpec := do
  let kind ← match d.kind with
    | some k => pure k
    | none => mismatch (.missing "kind")
  let options := d.options.reverse
  for (_, v) in options do
    match checkKeys v with
    | .ok _ => pure ()
    | .error m => mismatch m
  return ⟨kind, d.name.getD none, .ofList options⟩

/-- Read the fields of a stage behind others. -/
def readStageFields (d : StageDraft) : List (Spot × Spot) → Read StageSpec
  | [] => d.stage
  | (k, v) :: es => do
    let key ← k.textWith "field identifier" pure
    if key = "kind" then
      if d.kind.isSome then mismatch (.duplicateField key)
      readStageFields { d with kind := some (← v.text) } es
    else if key = "name" then
      if d.name.isSome then mismatch (.duplicateField key)
      readStageFields { d with name := some (← v.optional Spot.text) } es
    else readStageFields { d with options := (key, ← v.value) :: d.options } es

/-- Read a stage. -/
def Spot.stage (s : Spot) : Read StageSpec := s.map "struct StageSpec" (readStageFields {})

/-- A configuration that is being read. -/
structure ConfigDraft where
  name : Option String := none
  description : Option (Option String) := none
  theme : Option (Option Theme) := none
  stages : Option (List StageSpec) := none

/-- The configuration of a draft. -/
def ConfigDraft.config (d : ConfigDraft) : Read Config :=
  match d.name, d.stages with
  | none, _ => mismatch (.missing "name")
  | _, none => mismatch (.missing "stages")
  | some name, some stages =>
    return { name, stages, description := d.description.getD none, theme := d.theme.getD none }

/-- Read the fields of a configuration behind others. -/
def readConfigFields (d : ConfigDraft) : List (Spot × Spot) → Read Config
  | [] => d.config
  | (k, v) :: es => do
    let key ← k.textWith "field identifier" pure
    match key with
    | "name" =>
      if d.name.isSome then mismatch (.duplicateField key)
      readConfigFields { d with name := some (← v.text) } es
    | "description" =>
      if d.description.isSome then mismatch (.duplicateField key)
      readConfigFields { d with description := some (← v.optional Spot.text) } es
    | "theme" =>
      if d.theme.isSome then mismatch (.duplicateField key)
      readConfigFields { d with theme := some (← v.optional Spot.theme) } es
    | "stages" =>
      if d.stages.isSome then mismatch (.duplicateField key)
      readConfigFields { d with stages := some (← v.list fun xs => xs.mapM Spot.stage) } es
    | _ => readConfigFields d es

/-- Read a configuration. -/
def Spot.config (s : Spot) : Read Config :=
  s.map "struct PipelineConfig" (readConfigFields {})

/-- Read the root of a document. -/
def Document.readWith {α : Type} (d : Document) (read : Spot → Read α) : Except Fault α :=
  match (read (.root d)).run 0 with
  | .ok (x, _) => .ok x
  | .error e => .error e

end Yaml

/-- Read a theme from a text. -/
def Theme.read (text : String) : Except ConfigError Theme :=
  match Yaml.Document.read text with
  | none => .error .malformed
  | some d => (d.readWith Yaml.Spot.theme).mapError .unfit

/-- Read a configuration from a document. -/
def Config.ofDocument (d : Yaml.Document) : Except ConfigError Config := do
  let c ← (d.readWith Yaml.Spot.config).mapError .unfit
  c.validate.mapError .invalid
  return c

/-- Read a configuration from a text. -/
def Config.read (text : String) : Except ConfigError Config :=
  match Yaml.Document.read text with
  | none => .error .malformed
  | some d => Config.ofDocument d

end StyleBuild
