import StyleBuild.Css.Container
import StyleBuild.Css.FontFace
import StyleBuild.Css.Import
import StyleBuild.Css.Keyframes
import StyleBuild.Css.Page
import StyleBuild.Css.Registered
import StyleBuild.Css.Selector.Printer
import StyleBuild.Text.NameSet

/-!
# Rules

A sheet is a list of rules, and many rules hold rules again. Two questions are asked of such a
tree: which class names its selectors refer to (`classesOfRules`), and which names its
`@keyframes` blocks have (`keyframesOfRules`). Both look through style rules, nesting rules,
`@media`, `@supports`, `@layer` and `@container`, and through nothing else.
-/

namespace StyleBuild.Css

/-- A rule of a sheet. -/
inductive Rule where
  /-- Selectors and declarations, with rules nested in them. `spellings` are the vendor spellings
  of the selectors in which the rule is printed. -/
  | style (selectors : List Selector) (block : Block) (rules : List Rule) (spellings : Prefixes)
  /-- A style rule written with `@nest`. -/
  | nesting (selectors : List Selector) (block : Block) (rules : List Rule)
  /-- Declarations that stand among nested rules. -/
  | declarations (block : Block)
  | media (queries : List MediaQuery) (rules : List Rule)
  | supports (query : SupportsQuery) (rules : List Rule)
  | container (query : ContainerQuery) (rules : List Rule)
  | layer (name : Option LayerName) (rules : List Rule)
  | layerNames (names : List LayerName)
  | scope (root limit : Option (List Selector)) (rules : List Rule)
  | startingStyle (rules : List Rule)
  | keyframes (name : KeyframesName) (spellings : Prefixes) (frames : List Keyframe)
  | fontFace (descriptors : List FontDescriptor)
  | page (p : Page)
  | registered (r : Registered)
  | import_ (i : Import)
  | unknown (name : String) (arguments : Raw) (body : Option Raw)
  /-- A rule that has been overridden: it prints nothing, but the rules on both sides are not
  next to each other. -/
  | removed
  deriving Repr, Inhabited

mutual

/-- The class names that the selectors in a rule refer to. -/
def Rule.classes : Rule → List String
  | .style ss _ rules _ => listClasses ss ++ classesOfRules rules
  | .nesting ss _ rules => listClasses ss ++ classesOfRules rules
  | .media _ rules | .supports _ rules | .container _ rules | .layer _ rules =>
    classesOfRules rules
  | _ => []

/-- The class names that the selectors in a list of rules refer to. -/
def classesOfRules : List Rule → List String
  | [] => []
  | r :: rs => r.classes ++ classesOfRules rs

end

mutual

/-- The names of the `@keyframes` blocks in a rule. -/
def Rule.keyframeNames : Rule → List String
  | .keyframes name _ _ => [name.value]
  | .style _ _ rules _ => keyframesOfRules rules
  | .nesting _ _ rules => keyframesOfRules rules
  | .media _ rules | .supports _ rules | .container _ rules | .layer _ rules =>
    keyframesOfRules rules
  | _ => []

/-- The names of the `@keyframes` blocks in a list of rules. -/
def keyframesOfRules : List Rule → List String
  | [] => []
  | r :: rs => r.keyframeNames ++ keyframesOfRules rs

end

mutual

/-- How deep rules are nested in a rule. -/
def Rule.depth : Rule → Nat
  | .style _ _ rules _ => rulesDepth rules + 1
  | .nesting _ _ rules => rulesDepth rules + 1
  | .media _ rules | .supports _ rules | .container _ rules | .layer _ rules =>
    rulesDepth rules + 1
  | .scope _ _ rules => rulesDepth rules + 1
  | .startingStyle rules => rulesDepth rules + 1
  | _ => 1

/-- How deep rules are nested in a list. -/
def rulesDepth : List Rule → Nat
  | [] => 0
  | r :: rs => max r.depth (rulesDepth rs)

end

theorem classesOfRules_append (as bs : List Rule) :
    classesOfRules (as ++ bs) = classesOfRules as ++ classesOfRules bs := by
  induction as with
  | nil => simp [classesOfRules]
  | cons a as ih => simp [classesOfRules, ih]

theorem keyframesOfRules_append (as bs : List Rule) :
    keyframesOfRules (as ++ bs) = keyframesOfRules as ++ keyframesOfRules bs := by
  induction as with
  | nil => simp [keyframesOfRules]
  | cons a as ih => simp [keyframesOfRules, ih]

end StyleBuild.Css
