import StyleBuild.Json.Basic
import StyleBuild.Pipeline.Config

/-!
# Configurations as JSON

Fields that are not given are left out, the fields of a theme excepted; the options of a stage
stand beside its fields.
-/

namespace StyleBuild

/-- A theme as JSON. -/
def Theme.toJson (t : Theme) : Json :=
  .object [
    ("fontFamily", .object (t.fonts.entries.map fun (c, names) => (c, .array (names.map .text)))),
    ("listStyleType", .object (t.markers.entries.map fun (k, v) => (k, .text v)))]

/-- A field that may not be given. -/
def optionalField {α : Type} (name : String) (toJson : α → Json) : Option α → List (String × Json)
  | some x => [(name, toJson x)]
  | none => []

/-- A stage as JSON. -/
def StageSpec.toJson (s : StageSpec) : Except KeyFault Json := do
  let options ← s.options.entries.mapM fun (k, v) => do return (k, ← v.toJson)
  return .object (("kind", .text s.kind) :: optionalField "name" .text s.name ++ options)

/-- A configuration as JSON. -/
def Config.toJson (c : Config) : Except KeyFault Json := do
  let stages ← c.stages.mapM StageSpec.toJson
  return .object (("name", .text c.name) :: optionalField "description" .text c.description ++
    optionalField "theme" Theme.toJson c.theme ++ [("stages", .array stages)])

end StyleBuild
