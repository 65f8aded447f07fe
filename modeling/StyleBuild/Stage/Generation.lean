import StyleBuild.Stage.Basic
import StyleBuild.Stage.Directive
import StyleBuild.Theme.Basic

/-!
# Utility generation

Generation puts the utilities of a theme that are used or on a safelist in the place of the first
`utilities` directive. Directives for other layers vanish. Without such a directive the utilities
come last.
-/

namespace StyleBuild.Generation

/-- The layers that a directive may name. -/
def layers : List (List Char) :=
  ["base", "components", "utilities", "screens", "variants"].map String.toList

/-- The layer that asks for utilities. -/
def utilitiesLayer : List Char := "utilities".toList

/-- The first layer that is not known. -/
def unknownLayer? : List Directive.Piece → Option (List Char)
  | [] => none
  | .other _ :: ps => unknownLayer? ps
  | .directive layer _ :: ps => if layers.contains layer then unknownLayer? ps else some layer

/-- The rules of the utilities that are used or on the safelist. -/
def generated (theme : Theme) (safelist : NameSet) (ctx : StageContext) : String :=
  String.join ((theme.utilities.filter fun u => safelist.contains u.name || ctx.uses u.name).map
    Utility.rule)

/-- The text of pieces with directives replaced, and whether one asked for utilities; `done` says
that an earlier one did. -/
def replace (text : List Char) (done : Bool) : List Directive.Piece → List Char × Bool
  | [] => ([], done)
  | .other t :: ps => (t ++ (replace text done ps).1, (replace text done ps).2)
  | .directive layer _ :: ps =>
    if layer = utilitiesLayer ∧ done = false then
      (text ++ (replace text true ps).1, (replace text true ps).2)
    else replace text done ps

/-- A text followed by another one that starts on a line of its own. -/
def appendOnNewLine (cs text : List Char) : List Char :=
  if cs.isEmpty || cs.getLast? == some '\n' then cs ++ text else cs ++ '\n' :: text

/-- A sheet with its directives replaced by generated text. -/
def expand (text : List Char) (ps : List Directive.Piece) : List Char :=
  match replace text false ps with
  | (cs, true) => cs
  | (cs, false) => if text.isEmpty then cs else appendOnNewLine cs text

/-- The note on how much was generated. -/
def note (index : Nat) (text : String) : LogEntry :=
  ⟨.debug, "stylepipe::transform::utility",
    "Stage " ++ decimalText index ++ " generated " ++ decimalText text.utf8ByteSize ++
      " bytes of utilities"⟩

/-- Run the stage. -/
def run (theme : Theme) (safelist : NameSet) (ctx : StageContext) (css : String) : Outcome :=
  let ps := Directive.pieces css.toList
  match unknownLayer? ps with
  | some layer =>
    { result := .error (.other ("unknown @tailwind directive '" ++ String.ofList layer ++ "'")) }
  | none =>
    let text := generated theme safelist ctx
    { result := .ok (String.ofList (expand text.toList ps))
      notes := [note ctx.index text] }

/-- The stage with its options. -/
def transformer (theme : Theme) (safelist : NameSet) (content : ContentSource) : Transformer :=
  ⟨some content, run theme safelist⟩

end StyleBuild.Generation
