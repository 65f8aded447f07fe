import StyleBuild.Data.Reading
import StyleBuild.Theme.Basic
import StyleBuild.Yaml.Reading

/-!
# Reading themes

A theme is a map with at most two fields, read from a document or from plain data.
-/

namespace StyleBuild

/-- The fields of a theme. -/
def themeFields : List String := ["fontFamily", "listStyleType"]

/-- What the map of a theme is called. -/
def themeName : String := "struct ThemeTokens"

/-- A theme that is being read: the fields seen so far. -/
structure ThemeDraft where
  fonts : Option (Ordered (List String)) := none
  markers : Option (Ordered String) := none

/-- The theme of a draft; a field that is not given is empty. -/
def ThemeDraft.theme (d : ThemeDraft) : Theme :=
  ⟨d.fonts.getD Theme.empty.fonts, d.markers.getD Theme.empty.markers⟩

namespace Yaml

/-- Read a list of texts. -/
def Spot.texts (s : Spot) : Read (List String) := s.list fun xs => xs.mapM Spot.text

/-- Read a map from names. -/
def Spot.ordered {α : Type} (s : Spot) (read : Spot → Read α) : Read (Ordered α) :=
  s.map "a map" fun es => do
    return .ofList (← es.mapM fun (k, v) => do return (← k.text, ← read v))

/-- Read the fields of a theme behind others. -/
def readThemeFields (d : ThemeDraft) : List (Spot × Spot) → Read Theme
  | [] => return d.theme
  | (k, v) :: es => do
    let name ← k.textWith "field identifier" fun name =>
      if themeFields.contains name then return name
      else mismatch (.unknownField name themeFields)
    if name = "fontFamily" then
      if d.fonts.isSome then mismatch (.duplicateField name)
      readThemeFields { d with fonts := some (← v.ordered Spot.texts) } es
    else
      if d.markers.isSome then mismatch (.duplicateField name)
      readThemeFields { d with markers := some (← v.ordered Spot.text) } es

/-- Read a theme. -/
def Spot.theme (s : Spot) : Read Theme := s.map themeName (readThemeFields {})

end Yaml

namespace Value

/-- Read a map from names. -/
def readOrdered {α : Type} (v : Value) (read : Value → Except Mismatch α) :
    Except Mismatch (Ordered α) := do
  return .ofList (← (← v.readMap "a map").mapM fun (k, v) => do
    return (← k.readText "a string", ← read v))

/-- Read the fields of a theme behind others. -/
def readThemeFields (d : ThemeDraft) : List (Value × Value) → Except Mismatch Theme
  | [] => return d.theme
  | (k, v) :: es => do
    let name ← k.readText "field identifier"
    if name = "fontFamily" then
      if d.fonts.isSome then throw (.duplicateField name)
      readThemeFields { d with fonts := some (← v.readOrdered readTexts) } es
    else if name = "listStyleType" then
      if d.markers.isSome then throw (.duplicateField name)
      readThemeFields
        { d with markers := some (← v.readOrdered fun v => v.readText "a string") } es
    else throw (.unknownField name themeFields)

/-- Read a theme. -/
def readTheme (v : Value) : Except Mismatch Theme := do
  readThemeFields {} (← v.readMap themeName)

end Value

end StyleBuild
