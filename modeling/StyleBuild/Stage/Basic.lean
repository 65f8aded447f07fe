import StyleBuild.Content.Scan

/-!
# Stages

A stage turns a sheet's text into another text. It may ask for the classes that content
uses, and it may fail; it does nothing else, so its outcome is a function of its input.
-/

namespace StyleBuild

/-- What a stage sees besides its input: its place in the pipeline, and the scan of its content
if it asked for one. -/
structure StageContext where
  index : Nat := 0
  content : Option Scan := none
  deriving DecidableEq, Repr, Inhabited

/-- Whether scanned content uses a class. -/
def StageContext.uses (ctx : StageContext) (name : String) : Bool :=
  match ctx.content with
  | some scan => scan.classes.contains name
  | none => false

/-- Why a stage fails. -/
inductive TransformError where
  | parse (reason : String)
  | minify (reason : String)
  | print (reason : String)
  | other (reason : String)
  deriving DecidableEq, Repr, Inhabited

/-- The failure in words. -/
def TransformError.message : TransformError → String
  | .parse r => "Parse error: " ++ r
  | .minify r => "Minify error: " ++ r
  | .print r => "Print error: " ++ r
  | .other r => r

/-- What comes of running a stage: its result, and what it noted down. -/
structure Outcome where
  result : Except TransformError String
  notes : List LogEntry := []

/-- A stage with its options: the content it asks for, and what it does. -/
structure Transformer where
  content : Option ContentSource := none
  run : StageContext → String → Outcome

end StyleBuild
