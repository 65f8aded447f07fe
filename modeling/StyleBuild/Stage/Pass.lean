import StyleBuild.Css.Sheet
import StyleBuild.Stage.Basic

/-!
# Stages of one pass

Vendor prefixing and minification read a sheet and print what one pass makes of it. Prefixing keeps
the layout readable and writes what its targets need; minification prints as little as it can.

Pruning drops the rules that apply only to classes that nothing uses. A class that shares its
name with a `@keyframes` block counts as used, since the animation would go with it.
-/

namespace StyleBuild

open Css

/-! ## Prefixing and minification -/

/-- Read a sheet for a stage. -/
def readSheet (css : String) : Except TransformError Sheet :=
  match Sheet.read css with
  | .ok s => .ok s
  | .error e => .error (.parse e.message)

/-- The text that a pass makes of a stage's input. -/
def Css.Pass.transform (p : Pass) (css : String) : Except TransformError String :=
  (readSheet css).map p.finish

/-- The stage that makes a pass. -/
def Css.Pass.transformer (p : Pass) : Transformer :=
  ⟨none, fun _ css => { result := p.transform css }⟩

/-- How hard minification works. -/
inductive Preset where
  | default
  | lite
  | advanced
  deriving DecidableEq, Repr, Inhabited

namespace Preset

/-- The preset's name. -/
def name : Preset → String
  | .default => "default"
  | .lite => "lite"
  | .advanced => "advanced"

/-- All presets. -/
def all : List Preset := [.default, .lite, .advanced]

/-- The preset with a name. -/
def ofName? (s : String) : Option Preset := all.find? fun p => p.name == s

/-- The pass of a preset: the lite one only drops white space. -/
def pass (p : Preset) : Pass := ⟨.compact, p != .lite, {}⟩

end Preset

/-- The pass that writes what some targets need. -/
def prefixingPass (targets : Option Browsers) : Pass := ⟨.pretty, true, { targets }⟩

/-! ## Pruning -/

namespace Pruning

/-- The classes of a sheet that nothing uses. -/
def unusedIn (allowed : NameSet) (ctx : StageContext) (sheet : Sheet) : NameSet :=
  let animations := sheet.keyframes
  sheet.classes.filter fun name =>
    !(ctx.uses name || allowed.contains name || animations.contains name)

/-- The classes of a text that nothing uses. -/
def unused (allowed : NameSet) (ctx : StageContext) (css : String) :
    Except TransformError NameSet :=
  (readSheet css).map (unusedIn allowed ctx)

/-- Prune a sheet of some unused names. -/
def pass (names : NameSet) : Pass := ⟨.pretty, true, { unused := names }⟩

/-- Run the stage. -/
def run (allowed : NameSet) (ctx : StageContext) (css : String) : Outcome :=
  match readSheet css with
  | .error e => { result := .error e }
  | .ok sheet =>
    let names := unusedIn allowed ctx sheet
    { result := .ok ((pass names).finish sheet)
      notes := [⟨.debug, "stylepipe::transform::prune",
        "Stage " ++ decimalText ctx.index ++ " pruning " ++ decimalText names.size ++
          " unused classes"⟩] }

/-- The stage with its options. -/
def transformer (allowed : NameSet) (content : ContentSource) : Transformer :=
  ⟨some content, run allowed⟩

end Pruning

end StyleBuild
