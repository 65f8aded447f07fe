import StyleBuild.Css.Calc.Parser
import StyleBuild.Css.Component

/-!
# Animations

The values of `animation`. A component takes the first role that is free and that it can fill;
what is not given has its initial value. When printed, an initial value appears only where the
name of the animation could be taken for its role.
-/

namespace StyleBuild.Css

/-- Where the steps of an easing function lie. -/
inductive StepPlace where
  | start
  | end_
  | none
  | both
  deriving DecidableEq, Repr, Inhabited

/-- An easing function. -/
inductive Easing where
  | keyword (name : String)
  | curve (x₁ y₁ x₂ y₂ : Float32)
  | steps (count : Int) (place : StepPlace)
  deriving BEq, Repr, Inhabited

/-- How often an animation runs. -/
inductive Iterations where
  | count (n : Float32)
  | infinite
  deriving BEq, Repr, Inhabited

/-- The name of an animation. -/
inductive AnimationName where
  | none
  | ident (name : String)
  | text (name : String)
  deriving DecidableEq, Repr, Inhabited

/-- A distance from the edge of a scrolled view; `auto` is `none`. -/
abbrev ViewInset := Option (Calc LengthPercentage)

/-- What drives an animation. -/
inductive Timeline where
  | auto
  | none
  | named (name : String)
  /-- The scrolling of a box along an axis. -/
  | scroll (box axis : String)
  /-- The way through a scrolled view along an axis, between two insets. -/
  | view (axis : String) (before after : ViewInset)
  deriving BEq, Repr, Inhabited

/-- One animation. -/
structure Animation where
  duration : Time := .seconds 0
  easing : Easing := .keyword "ease"
  delay : Time := .seconds 0
  iterations : Iterations := .count 1
  direction : String := "normal"
  fillMode : String := "none"
  playState : String := "running"
  name : AnimationName := .none
  timeline : Timeline := .auto
  deriving BEq, Repr, Inhabited

/-- The parts of an animation read so far. -/
structure AnimationDraft where
  duration : Option Time := none
  easing : Option Easing := none
  delay : Option Time := none
  iterations : Option Iterations := none
  direction : Option String := none
  fillMode : Option String := none
  playState : Option String := none
  name : Option AnimationName := none
  timeline : Option Timeline := none
  deriving Inhabited

/-! ## Reading -/

namespace StepPlace

/-- A place of steps by its keyword. -/
def ofName? (name : String) : Option StepPlace :=
  match name.toLower with
  | "start" | "jump-start" => some .start
  | "end" | "jump-end" => some .end_
  | "jump-none" => some .none
  | "jump-both" => some .both
  | _ => Option.none

/-- The keyword of a place. -/
def text : StepPlace → String
  | .start => "start"
  | .end_ => "end"
  | .none => "jump-none"
  | .both => "jump-both"

end StepPlace

namespace Easing

/-- The keywords of easing functions. -/
def keywords : List String :=
  ["linear", "ease", "ease-in", "ease-out", "ease-in-out", "step-start", "step-end"]

/-- An easing function by its keyword. -/
def ofName? (name : String) : Option Easing :=
  match name.toLower with
  | "step-start" => some (.steps 1 .start)
  | "step-end" => some (.steps 1 .end_)
  | k => if keywords.contains k then some (.keyword k) else none

/-- An easing function by its name and arguments. -/
def ofCall? (name : String) (cs : Components) : Option Easing :=
  match name.toLower with
  | "cubic-bezier" => do
    let (x₁, rest) ← readNumberValue cs
    let (y₁, rest) ← readNumberValue (← rest.dropComma?)
    let (x₂, rest) ← readNumberValue (← rest.dropComma?)
    let (y₂, rest) ← readNumberValue (← rest.dropComma?)
    if rest.isBlank then some (.curve x₁ y₁ x₂ y₂) else none
  | "steps" =>
    match cs.skipBlank with
    | .token (.number n) _ rest => do
      let count ← n.integer
      if rest.isBlank then some (.steps count .end_)
      else
        let (k, rest) ← readKeyword (← rest.dropComma?)
        if rest.isBlank then (StepPlace.ofName? k).map (.steps count) else none
    | _ => none
  | _ => none

/-- Whether an easing function is the usual one. -/
def isEase : Easing → Bool
  | .keyword k => k == "ease"
  | .curve x₁ y₁ x₂ y₂ => x₁ == 0.25 && y₁ == 0.1 && x₂ == 0.25 && y₂ == 1
  | .steps _ _ => false

/-- The printed form; a curve with a name is printed by it. -/
def text (p : Printing) : Easing → String
  | .keyword k => k
  | .curve x₁ y₁ x₂ y₂ =>
    if (Easing.curve x₁ y₁ x₂ y₂).isEase then "ease"
    else if x₁ == 0.42 && y₁ == 0 && x₂ == 1 && y₂ == 1 then "ease-in"
    else if x₁ == 0 && y₁ == 0 && x₂ == 0.58 && y₂ == 1 then "ease-out"
    else if x₁ == 0.42 && y₁ == 0 && x₂ == 0.58 && y₂ == 1 then "ease-in-out"
    else "cubic-bezier(" ++ p.layout.commas ([x₁, y₁, x₂, y₂].map numberText) ++ ")"
  | .steps 1 .start => "step-start"
  | .steps 1 .end_ => "step-end"
  | .steps n place => "steps(" ++ p.layout.commas [integerText n, place.text] ++ ")"

end Easing

namespace Timeline

/-- The boxes whose scrolling may be asked for, the usual one first. -/
def boxes : List String := ["nearest", "root", "self"]

/-- The axes, the usual one first. -/
def axes : List String := ["block", "inline", "x", "y"]

/-- A timeline by its identifier. -/
def ofName? (name : String) : Option Timeline :=
  match name.toLower with
  | "auto" => some .auto
  | "none" => some .none
  | _ => if name.toList.take 2 = ['-', '-'] then some (.named name) else Option.none

/-- The inset in front. -/
def readInset (cs : Components) : Option (ViewInset × Components) :=
  match readKeywordOf ["auto"] cs with
  | some (_, rest) => some (Option.none, rest)
  | Option.none => (readQuantity .lengthPercentage cs).map fun (d, rest) => (some d, rest)

/-- One or two insets in front; a single one stands for both. -/
def readInsets (cs : Components) : Option ((ViewInset × ViewInset) × Components) :=
  (readInset cs).map fun (a, rest) =>
    match readInset rest with
    | some (b, rest) => ((a, b), rest)
    | Option.none => ((a, a), rest)

/-- Read two parts, each of which may be left out, in any order. -/
def readEither {α β : Type} (first : Components → Option (α × Components))
    (second : Components → Option (β × Components)) (cs : Components) :
    Option α × Option β × Components :=
  match first cs with
  | some (a, rest) =>
    match second rest with
    | some (b, rest) => (some a, some b, rest)
    | Option.none => (some a, Option.none, rest)
  | Option.none =>
    match second cs with
    | some (b, rest) =>
      match first rest with
      | some (a, rest) => (some a, some b, rest)
      | Option.none => (Option.none, some b, rest)
    | Option.none => (Option.none, Option.none, cs)

/-- A timeline by its function and arguments. -/
def ofCall? (name : String) (body : Components) : Option Timeline :=
  match name.toLower with
  | "scroll" =>
    let (box, axis, rest) := readEither (readKeywordOf boxes) (readKeywordOf axes) body
    if rest.isBlank then some (.scroll (box.getD "nearest") (axis.getD "block")) else Option.none
  | "view" =>
    let (axis, insets, rest) := readEither (readKeywordOf axes) readInsets body
    let (a, b) := insets.getD (Option.none, Option.none)
    if rest.isBlank then some (.view (axis.getD "block") a b) else Option.none
  | _ => Option.none

/-- The timeline of a level. -/
def read? (cs : Components) : Option Timeline :=
  match cs.skipBlank with
  | .token (.ident n) _ rest => if rest.isBlank then ofName? n else Option.none
  | .block (.function f) _ body rest => if rest.isBlank then ofCall? f body else Option.none
  | _ => Option.none

/-- The printed form of an inset. -/
def insetText (p : Printing) : ViewInset → String
  | Option.none => "auto"
  | some (.value v) => v.text
  | some c => c.text p

/-- The printed form; what is usual is left out. -/
def text (p : Printing) : Timeline → String
  | .auto => "auto"
  | .none => "none"
  | .named n => writeIdent n
  | .scroll box axis =>
    "scroll(" ++ String.intercalate " "
      ((if box = "nearest" then [] else [box]) ++ (if axis = "block" then [] else [axis])) ++ ")"
  | .view axis a b =>
    let insets :=
      if a.isNone && b.isNone then []
      else if a == b then [insetText p a] else [insetText p a, insetText p b]
    "view(" ++ String.intercalate " " ((if axis = "block" then [] else [axis]) ++ insets) ++ ")"

end Timeline

/-- The keywords of directions. -/
def animationDirections : List String := ["normal", "reverse", "alternate", "alternate-reverse"]

/-- The keywords of fill modes. -/
def animationFillModes : List String := ["none", "forwards", "backwards", "both"]

/-- The keywords of play states. -/
def animationPlayStates : List String := ["running", "paused"]

namespace AnimationDraft

/-- Add an identifier, in the first role that is free and that it can take. -/
def addName? (a : AnimationDraft) (name : String) : Option AnimationDraft :=
  let k := name.toLower
  if a.easing.isNone ∧ (Easing.ofName? k).isSome then some { a with easing := Easing.ofName? k }
  else if a.iterations.isNone ∧ k = "infinite" then some { a with iterations := some .infinite }
  else if a.direction.isNone ∧ animationDirections.contains k then
    some { a with direction := some k }
  else if a.fillMode.isNone ∧ animationFillModes.contains k then some { a with fillMode := some k }
  else if a.playState.isNone ∧ animationPlayStates.contains k then
    some { a with playState := some k }
  else if a.name.isNone ∧ k = "none" then some { a with name := some .none }
  else if a.name.isNone ∧ !wideKeywords.contains k then some { a with name := some (.ident name) }
  else if a.timeline.isNone then
    (Timeline.ofName? name).map fun t => { a with timeline := some t }
  else none

/-- Add a time as duration, or else as delay. -/
def addTime? (a : AnimationDraft) (t : Time) : Option AnimationDraft :=
  if a.duration.isNone then some { a with duration := some t }
  else if a.delay.isNone then some { a with delay := some t }
  else none

/-- Add a function: an easing function, an expression for a time or a count, or a timeline. -/
def addCall? (a : AnimationDraft) (name : String) (body : Components) : Option AnimationDraft :=
  match readCalc .time name body, Easing.ofCall? name body,
    readCalc (.number fun _ => none) name body, Timeline.ofCall? name body with
  | some (.value t), _, _, _ => a.addTime? t
  | _, some e, _, _ => if a.easing.isNone then some { a with easing := some e } else none
  | _, _, some (.number n), _ =>
    if a.iterations.isNone then some { a with iterations := some (.count n) } else none
  | _, _, _, some t => if a.timeline.isNone then some { a with timeline := some t } else none
  | _, _, _, _ => none

/-- Add the components of a level. -/
def addAll? (a : AnimationDraft) : Components → Option AnimationDraft
  | .done _ => some a
  | .token (.blank _) _ rest => a.addAll? rest
  | .token (.ident n) _ rest => (a.addName? n).bind (·.addAll? rest)
  | .token (.number n) _ rest =>
    if a.iterations.isNone then { a with iterations := some (.count n.value) }.addAll? rest
    else none
  | .token (.quoted s) _ rest =>
    if a.name.isNone then { a with name := some (.text s) }.addAll? rest else none
  | .token t _ rest =>
    match Time.ofToken? t with
    | some t => (a.addTime? t).bind (·.addAll? rest)
    | none => none
  | .block (.function f) _ body rest => (a.addCall? f body).bind (·.addAll? rest)
  | .block _ _ _ _ => none

/-- The animation; what has not been read has its initial value. -/
def finish (a : AnimationDraft) : Animation where
  duration := a.duration.getD (.seconds 0)
  easing := a.easing.getD (.keyword "ease")
  delay := a.delay.getD (.seconds 0)
  iterations := a.iterations.getD (.count 1)
  direction := a.direction.getD "normal"
  fillMode := a.fillMode.getD "none"
  playState := a.playState.getD "running"
  name := a.name.getD .none
  timeline := a.timeline.getD .auto

end AnimationDraft

namespace Animation

/-- Read animations with commas between them. -/
def readList? (cs : Components) : Option (List Animation) :=
  cs.splitCommas.mapM fun piece => (AnimationDraft.addAll? {} piece).map AnimationDraft.finish

/-- An animation without a timeline of its own. -/
def withoutTimeline (a : Animation) : Animation := { a with timeline := .auto }

/-! ## Printing -/

/-- Whether a time is not zero. -/
def isLong (t : Time) : Bool := t.amount != 0

/-- The parts that stand before a name: those that differ from the initial values, and those
that the name could be taken for. -/
def partTexts (p : Printing) (a : Animation) (name : String) : List String :=
  let lower := name.toLower
  (if isLong a.duration ∨ isLong a.delay then [a.duration.text] else []) ++
    (if !a.easing.isEase ∨ Easing.keywords.contains name then [a.easing.text p] else []) ++
    (if isLong a.delay then [a.delay.text] else []) ++
    (match a.iterations with
     | .infinite => ["infinite"]
     | .count n => if n == 1 && name != "infinite" then [] else [numberText n]) ++
    (if a.direction ≠ "normal" ∨ animationDirections.contains lower then [a.direction]
     else []) ++
    (if a.fillMode ≠ "none" ∨ (lower ≠ "none" ∧ animationFillModes.contains lower) then
      [a.fillMode] else []) ++
    (if a.playState ≠ "running" ∨ animationPlayStates.contains lower then [a.playState] else [])

/-- The words that are no names of animations unless quoted. -/
def quotedNames : List String := "none" :: wideKeywords

/-- The printed form; without a name the other parts say nothing. -/
def text (p : Printing) (a : Animation) : String :=
  let timeline := if a.timeline == .auto then [] else [a.timeline.text p]
  match a.name with
  | .none => "none"
  | .ident n => String.intercalate " " (a.partTexts p n ++ [writeIdent n] ++ timeline)
  | .text n =>
    let name := if quotedNames.contains n.toLower then writeQuoted n else writeIdent n
    String.intercalate " " (a.partTexts p n ++ [name] ++ timeline)

end Animation

end StyleBuild.Css
