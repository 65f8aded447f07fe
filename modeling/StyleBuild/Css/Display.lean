import StyleBuild.Css.Printing
import StyleBuild.Css.Component

/-!
# Display types

A display type is a keyword of its own, or says how a box takes part in its surroundings and how
it lays out its contents. `Display.text` leaves out what goes without saying.
-/

namespace StyleBuild.Css

/-- How a box takes part in the layout around it. -/
inductive OuterDisplay where
  | block
  | inline
  | runIn
  deriving DecidableEq, Repr, Inhabited

/-- How a box lays out its contents; flexible boxes have vendor spellings and an older draft. -/
inductive InnerDisplay where
  | flow
  | flowRoot
  | table
  | flex (p : Prefixes)
  | box (p : Prefixes)
  | grid
  | ruby
  deriving DecidableEq, Repr, Inhabited

/-- A display type. -/
inductive Display where
  | keyword (name : String)
  | box (outer : OuterDisplay) (inner : InnerDisplay) (isListItem : Bool)
  deriving DecidableEq, Repr, Inhabited

namespace Display

/-- The display types that are keywords of their own. -/
def keywords : List String :=
  ["none", "contents", "table-row-group", "table-header-group", "table-footer-group", "table-row",
   "table-cell", "table-column-group", "table-column", "table-caption", "ruby-base", "ruby-text",
   "ruby-base-container", "ruby-text-container"]

/-- An outer display type by its keyword. -/
def outer? (name : String) : Option OuterDisplay :=
  match name with
  | "block" => some .block
  | "inline" => some .inline
  | "run-in" => some .runIn
  | _ => none

/-- An inner display type by its keyword. -/
def inner? (name : String) : Option InnerDisplay :=
  match name with
  | "flow" => some .flow
  | "flow-root" => some .flowRoot
  | "table" => some .table
  | "flex" => some (.flex .standard)
  | "-webkit-flex" => some (.flex { webkit := true })
  | "-ms-flexbox" => some (.flex { ms := true })
  | "-webkit-box" => some (.box { webkit := true })
  | "-moz-box" => some (.box { moz := true })
  | "grid" => some .grid
  | "ruby" => some .ruby
  | _ => none

/-- The inner display type of a keyword for an inline box. -/
def inlineInner? (name : String) : Option InnerDisplay :=
  match name with
  | "inline-block" => some .flowRoot
  | "inline-table" => some .table
  | "inline-flex" => some (.flex .standard)
  | "-webkit-inline-flex" => some (.flex { webkit := true })
  | "-ms-inline-flexbox" => some (.flex { ms := true })
  | "-webkit-inline-box" => some (.box { webkit := true })
  | "-moz-inline-box" => some (.box { moz := true })
  | "inline-grid" => some .grid
  | _ => none

/-- The outer display type that goes with an inner one unless another is given. -/
def usualOuter : InnerDisplay → OuterDisplay
  | .ruby => .inline
  | _ => .block

/-- Take the words of a pair: each part at most once, in any order. -/
def ofWords? (outer : Option OuterDisplay) (inner : Option InnerDisplay) (isListItem : Bool) :
    List String → Option Display
  | [] =>
    let i := inner.getD .flow
    if isListItem && i != .flow && i != .flowRoot then none
    else some (.box (outer.getD (usualOuter i)) i isListItem)
  | w :: ws =>
    if w = "list-item" then ofWords? outer inner true ws
    else match outer, outer? w with
      | none, some o => ofWords? (some o) inner isListItem ws
      | _, _ =>
        match inner, inner? w with
        | none, some i => ofWords? outer (some i) isListItem ws
        | _, _ => none

/-- The words of a level, in lower case. -/
def words? : Components → Option (List String)
  | .done _ => some []
  | .token (.blank _) _ rest => words? rest
  | .token (.ident n) _ rest => (words? rest).map (n.toLower :: ·)
  | _ => none

/-- Read a display type. -/
def read? (cs : Components) : Option Display :=
  match words? cs with
  | none | some [] => none
  | some [w] =>
    if keywords.contains w then some (.keyword w)
    else match inlineInner? w with
      | some i => some (.box .inline i false)
      | none => ofWords? none none false [w]
  | some ws => ofWords? none none false ws

/-- The keyword of an outer display type. -/
def outerText : OuterDisplay → String
  | .block => "block"
  | .inline => "inline"
  | .runIn => "run-in"

/-- The keyword of an inner display type. -/
def innerText : InnerDisplay → String
  | .flow => "flow"
  | .flowRoot => "flow-root"
  | .table => "table"
  | .flex p => p.text ++ (if p.ms then "flexbox" else "flex")
  | .box p => p.text ++ "box"
  | .grid => "grid"
  | .ruby => "ruby"

/-- The keyword for an inline box with an inner display type, if there is one. -/
def inlineText? : InnerDisplay → Option String
  | .flowRoot => some "inline-block"
  | .table => some "inline-table"
  | .flex p => some (p.text ++ (if p.ms then "inline-flexbox" else "inline-flex"))
  | .box p => some (p.text ++ "inline-box")
  | .grid => some "inline-grid"
  | _ => none

/-- The printed form. -/
def text : Display → String
  | .keyword k => k
  | .box o i isListItem =>
    match o, isListItem, inlineText? i with
    | .inline, false, some t => t
    | _, _, _ =>
      String.intercalate " "
        ((if o ≠ usualOuter i ∨ (i = .flow ∧ !isListItem) then [outerText o] else []) ++
          (if i = .flow then [] else [innerText i]) ++ (if isListItem then ["list-item"] else []))

/-! ## Flexible boxes -/

/-- Whether an inner display type is a flexible box of some spelling. -/
def isFlexible : InnerDisplay → Bool
  | .flex _ => true
  | .box _ => true
  | _ => false

/-- Whether two display types are different spellings of one. -/
def isRespelled : Display → Display → Bool
  | .box o i l, .box o' i' l' => o == o' && l == l' && i != i' && isFlexible i && isFlexible i'
  | _, _ => false

/-- Whether a display type is a flexible box in its standard spelling. -/
def isStandardFlex : Display → Bool
  | .box _ (.flex p) _ => p == .standard
  | _ => false

/-- The display types that print a display type for targets. -/
def spellings (targets : Option Browsers) : Display → List Display
  | .box o (.flex p) l =>
    if p = .standard then
      let needed := Prefixes.standard.forTargets .flexDisplay targets
      let old := match targets with
        | some bs => needsOldFlex bs
        | none => false
      (if old && needed.webkit then [.box o (.box { webkit := true }) false] else []) ++
        (if old && needed.moz then [.box o (.box { moz := true }) false] else []) ++
        (if needed.webkit then [.box o (.flex { webkit := true }) false] else []) ++
        (if needed.ms then [.box o (.flex { ms := true }) false] else []) ++
        [.box o (.flex .standard) false]
    else [.box o (.flex p) l]
  | d => [d]

end Display

end StyleBuild.Css
