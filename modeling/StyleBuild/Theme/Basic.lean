import StyleBuild.Data.Ordered

/-!
# Themes

A theme names font stacks and list markers. Each of them is a utility: a class with a single
declaration.
-/

namespace StyleBuild

/-- A theme: stacks of font families by category, and list markers by token. -/
structure Theme where
  fonts : Ordered (List String) := {}
  markers : Ordered String := {}
  deriving Inhabited

/-- The theme that names nothing. -/
def Theme.empty : Theme := {}

/-- Whether a name can stand in a font stack without quotes: an identifier of ASCII letters,
digits, dashes and underscores. -/
def isPlainFamily (name : String) : Bool :=
  let body := match name.toList with
    | '-' :: cs => cs
    | cs => cs
  match body with
  | [] => false
  | c :: cs => (c.isAlpha || c == '_') && cs.all fun c => c.isAlphanum || c == '-' || c == '_'

/-- One character of a quoted family name. -/
def quoteFamilyChar (c : Char) : List Char := if c = '"' then ['\\', '"'] else [c]

/-- A family name in a font stack. -/
def familyText (name : String) : String :=
  if isPlainFamily name then name
  else "\"" ++ String.ofList (name.toList.flatMap quoteFamilyChar) ++ "\""

/-- A font stack as the value of a declaration. -/
def fontStack (names : List String) : String := String.intercalate ", " (names.map familyText)

/-- A class with a single declaration. -/
structure Utility where
  name : String
  property : String
  value : String
  deriving DecidableEq, Repr, Inhabited

/-- The rule of a utility. -/
def Utility.rule (u : Utility) : String :=
  "." ++ u.name ++ " \x7b\n  " ++ u.property ++ ": " ++ u.value ++ ";\n\x7d\n"

namespace Theme

/-- Give a category a font stack. -/
def withFonts (t : Theme) (category : String) (names : List String) : Theme :=
  { t with fonts := t.fonts.insert category names }

/-- Give a token a list marker. -/
def withMarker (t : Theme) (token keyword : String) : Theme :=
  { t with markers := t.markers.insert token keyword }

/-- Whether a theme names nothing. -/
def isEmpty (t : Theme) : Bool := t.fonts.isEmpty && t.markers.isEmpty

/-- The utilities of a theme: fonts, then list markers, each in their order. -/
def utilities (t : Theme) : List Utility :=
  t.fonts.entries.map (fun (c, names) => ⟨"font-" ++ c, "font-family", fontStack names⟩) ++
    t.markers.entries.map fun (k, v) => ⟨"list-" ++ k, "list-style-type", v⟩

end Theme

end StyleBuild
