import StyleBuild.Browsers.Targets
import StyleBuild.Stage.Generation
import StyleBuild.Stage.Pass
import StyleBuild.Theme.Reading

/-!
# Stage options

Each kind of stage has options of its own. Options are read in the order in which they are given,
and an option that the kind does not know is refused wherever it stands.
-/

namespace StyleBuild

/-- Why options are refused. -/
inductive OptionFault where
  | unfit (fault : Mismatch)
  | content (fault : SourceFault)
  | targets (fault : QueryError)
  | other (reason : String)
  deriving Inhabited

/-- The reason in words. -/
def OptionFault.message : OptionFault → String
  | .unfit f => f.message
  | .content f => f.message
  | .targets f => f.message
  | .other r => r

/-- The options of a stage as they are given. -/
abbrev Options := Ordered Value

/-- Read options one by one into a draft. -/
def Options.readInto {α : Type} (options : Options)
    (set : α → String → Value → Except Mismatch α) (draft : α) : Except Mismatch α :=
  options.entries.foldlM (fun d (k, v) => set d k v) draft

/-! ## Minification -/

/-- Read a preset. -/
def Value.readPreset (v : Value) : Except Mismatch Preset :=
  match v with
  | .text s =>
    match Preset.ofName? s with
    | some p => .ok p
    | none => .error (.unknownVariant s (Preset.all.map Preset.name))
  | v => v.wrongType "a Value::Tagged enum"

/-- Read the options of minification. -/
def Preset.ofOptions (options : Options) : Except Mismatch Preset :=
  options.readInto (fun _ k v =>
    if k = "preset" then v.readPreset else .error (.unknownField k ["preset"])) .default

/-! ## Vendor prefixing -/

/-- Queries for browsers, one or a list of them. -/
inductive Targets where
  | one (query : String)
  | many (queries : List String)
  deriving DecidableEq, Repr, Inhabited

namespace Targets

/-- The queries. -/
def queries : Targets → List String
  | .one q => [q]
  | .many qs => qs

/-- The targets used when none are given. -/
def standard : Targets := .one "defaults"

/-- The text of data that is text. -/
def textOf? : Value → Option String
  | .text s => some s
  | _ => none

/-- Read targets. -/
def ofValue : Value → Except Mismatch Targets
  | .text s => .ok (.one s)
  | .list vs =>
    match vs.mapM textOf? with
    | some qs => .ok (.many qs)
    | none => .error (.noForm "TargetQueries")
  | _ => .error (.noForm "TargetQueries")

/-- Read the options of vendor prefixing. -/
def ofOptions (options : Options) : Except Mismatch Targets :=
  options.readInto (fun _ k v =>
    if k = "targets" then ofValue v else .error (.unknownField k ["targets"])) standard

end Targets

/-! ## Rule pruning -/

/-- The options of rule pruning. -/
structure PruningOptions where
  content : List String
  allowed : List String := []
  extractor : Option String := none
  deriving DecidableEq, Repr, Inhabited

namespace PruningOptions

/-- Options of rule pruning that are being read. -/
structure Draft where
  content : Option (List String) := none
  allowed : Option (List String) := none
  extractor : Option String := none

/-- The options that rule pruning knows; the allow-list has two names. -/
def fields : List String := ["content", "allow-list", "whitelist", "extractor"]

/-- Read one option. -/
def Draft.set (d : Draft) (key : String) (v : Value) : Except Mismatch Draft := do
  match key with
  | "content" => return { d with content := some (← v.readTexts) }
  | "allow-list" | "whitelist" =>
    if d.allowed.isSome then throw (.duplicateField "allow-list")
    return { d with allowed := some (← v.readTexts) }
  | "extractor" => return { d with extractor := ← v.readOptional fun v => v.readText "a string" }
  | key => throw (.unknownField key fields)

/-- Read the options of rule pruning. -/
def ofOptions (options : Options) : Except Mismatch PruningOptions := do
  let d ← options.readInto Draft.set {}
  match d.content with
  | none => throw (.missing "content")
  | some content => return ⟨content, d.allowed.getD [], d.extractor⟩

end PruningOptions

/-! ## Utility generation -/

/-- The options of utility generation. -/
structure GenerationOptions where
  content : List String
  theme : Option Theme := none
  safelist : List String := []
  extractor : Option String := none
  deriving Inhabited

namespace GenerationOptions

/-- Options of utility generation that are being read. -/
structure Draft where
  content : Option (List String) := none
  theme : Option Theme := none
  safelist : List String := []
  extractor : Option String := none

/-- The options that utility generation knows. -/
def fields : List String := ["content", "theme", "safelist", "extractor"]

/-- Read one option. -/
def Draft.set (d : Draft) (key : String) (v : Value) : Except Mismatch Draft := do
  match key with
  | "content" => return { d with content := some (← v.readTexts) }
  | "theme" => return { d with theme := ← v.readOptional Value.readTheme }
  | "safelist" => return { d with safelist := ← v.readTexts }
  | "extractor" => return { d with extractor := ← v.readOptional fun v => v.readText "a string" }
  | key => throw (.unknownField key fields)

/-- Read the options of utility generation. -/
def ofOptions (options : Options) : Except Mismatch GenerationOptions := do
  let d ← options.readInto Draft.set {}
  match d.content with
  | none => throw (.missing "content")
  | some content => return ⟨content, d.theme, d.safelist, d.extractor⟩

end GenerationOptions

/-! ## Stages with options -/

/-- What makes a stage of its options and the theme of the whole pipeline. -/
abbrev StageMaker := Options → Option Theme → Except OptionFault Transformer

/-- Make a minification stage. -/
def makeMinification : StageMaker := fun options _ => do
  let preset ← (Preset.ofOptions options).mapError .unfit
  return preset.pass.transformer

/-- Make a vendor-prefixing stage. -/
def makePrefixing : StageMaker := fun options _ => do
  let targets ← (Targets.ofOptions options).mapError .unfit
  let browsers ← (resolve targets.queries).mapError .targets
  return (prefixingPass browsers).transformer

/-- Make a rule-pruning stage. -/
def makePruning : StageMaker := fun options _ => do
  let o ← (PruningOptions.ofOptions options).mapError .unfit
  let content ← (ContentSource.read o.content o.extractor).mapError .content
  return Pruning.transformer (.ofList o.allowed) content

/-- Make a utility-generation stage. Its own theme takes the place of the pipeline's. -/
def makeGeneration : StageMaker := fun options pipelineTheme => do
  let o ← (GenerationOptions.ofOptions options).mapError .unfit
  let theme := (o.theme.or pipelineTheme).getD .empty
  let content ← (ContentSource.read o.content o.extractor).mapError .content
  return Generation.transformer theme (.ofList o.safelist) content

end StyleBuild
