import StyleBuild.Data.Value
import StyleBuild.Text.Blank
import StyleBuild.Theme.Basic

/-!
# Configurations

A configuration names a pipeline and specifies its stages in order. `Config.validate` finds the
first stage at fault: one without a kind, or with the name of an earlier one.
-/

namespace StyleBuild

/-- A stage as configured: its kind, its name if it has one, and its options. -/
structure StageSpec where
  kind : String
  name : Option String := none
  options : Ordered Value := {}
  deriving Inhabited

namespace StageSpec

/-- What the stage is called. -/
def label (s : StageSpec) : String := s.name.getD s.kind

/-- Give the stage a name. -/
def withName (s : StageSpec) (name : String) : StageSpec := { s with name := some name }

/-- Give the stage an option. -/
def withOption (s : StageSpec) (key : String) (value : Value) : StageSpec :=
  { s with options := s.options.insert key value }

end StageSpec

/-- A configuration. Content is looked for below the base directory. -/
structure Config where
  name : String
  description : Option String := none
  theme : Option Theme := none
  stages : List StageSpec
  baseDir : Option String := none
  deriving Inhabited

/-- What is wrong with the stages of a configuration. -/
inductive ConfigFault where
  | blankKind (index : Nat)
  | repeatedName (name : String)
  deriving DecidableEq, Repr, Inhabited

/-- The fault in words. -/
def ConfigFault.message : ConfigFault → String
  | .blankKind i => "Stage " ++ decimalText i ++ " has an empty kind"
  | .repeatedName n => "Duplicate stage name: " ++ n

/-- Whether a text holds nothing but white space. -/
def isBlankText (s : String) : Bool := s.toList.all isBlank

/-- Check stages from the place `index` on, behind stages with the names `seen`. -/
def validateFrom (index : Nat) (seen : List String) : List StageSpec → Except ConfigFault Unit
  | [] => .ok ()
  | s :: rest =>
    if isBlankText s.kind then .error (.blankKind index)
    else match s.name with
      | none => validateFrom (index + 1) seen rest
      | some n =>
        if seen.contains n then .error (.repeatedName n)
        else validateFrom (index + 1) (n :: seen) rest

namespace Config

/-- Check the stages of a configuration. -/
def validate (c : Config) : Except ConfigFault Unit := validateFrom 0 [] c.stages

/-- The base directory; the current one unless another is given. -/
def base (c : Config) : String := c.baseDir.getD "."

/-- Give the configuration a base directory. -/
def withBase (c : Config) (dir : String) : Config := { c with baseDir := some dir }

end Config

end StyleBuild
