import StyleBuild.Css.Rule.Normal
import StyleBuild.Css.Rule.Printer

/-!
# Style sheets

A sheet is its license comments and its rules. `Sheet.read` and `Sheet.print` go from text to
sheet and back, `Sheet.normalize` brings the rules into normal form for a goal, and a `Pass`
does the three in a row.
-/

namespace StyleBuild.Css

/-- A style sheet. -/
structure Sheet where
  licenses : List String
  rules : List Rule
  deriving Repr, Inhabited

namespace Sheet

/-- Read a sheet. -/
def read (text : String) : Except SyntaxError Sheet :=
  let cs := text.toList
  (readRules (components cs)).map (⟨licenseComments cs, ·⟩)

/-- The class names that the selectors of a sheet refer to. -/
def classes (s : Sheet) : NameSet := .ofList (classesOfRules s.rules)

/-- The names of the `@keyframes` blocks of a sheet. -/
def keyframes (s : Sheet) : NameSet := .ofList (keyframesOfRules s.rules)

/-- A sheet with its rules in normal form. -/
def normalize (goal : Goal) (s : Sheet) : Sheet := { s with rules := normalizeRules goal s.rules }

/-- The text of a sheet. -/
def print (p : Printing) (s : Sheet) : String :=
  String.join (s.licenses.map fun t => "/*" ++ t ++ "*/\n") ++ rulesText p 0 .start s.rules ++
    p.layout.lineEnd

end Sheet

/-- What a pass does to a sheet: in which layout it is printed, whether it is brought into normal
form first, and for which targets and unused names. -/
structure Pass where
  layout : Layout
  normalizes : Bool
  goal : Goal
  deriving Repr, Inhabited

/-- The text that a pass makes of a sheet. -/
def Pass.finish (p : Pass) (s : Sheet) : String :=
  (if p.normalizes then s.normalize p.goal else s).print
    { layout := p.layout, targets := p.goal.targets }

/-- The text that a pass makes of another text. -/
def Pass.run (p : Pass) (text : String) : Except SyntaxError String :=
  (Sheet.read text).map p.finish

end StyleBuild.Css
