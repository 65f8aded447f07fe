import StyleBuild.Css.Declaration.Printer

/-!
# Keyframes

The frames of an animation, each at some places of its course. A frame with a fault is left out,
and the others stay.
-/

namespace StyleBuild.Css

/-- The place of a keyframe. -/
inductive FramePlace where
  | from_
  | to
  | percentage (value : Percentage)
  /-- A place within a named part of the way of a scrolled view. -/
  | within (part : String) (value : Percentage)
  deriving BEq, Repr, Inhabited

namespace FramePlace

/-- The parts of the way of a scrolled view. -/
def parts : List String :=
  ["cover", "contain", "entry", "exit", "entry-crossing", "exit-crossing"]

/-- Read a place that fills a level. -/
def read? (cs : Components) : Option FramePlace :=
  match readKnown .percentage cs with
  | some (v, rest) => if rest.isBlank then some (.percentage v) else none
  | none =>
    match readKeyword cs with
    | some ("from", rest) => if rest.isBlank then some .from_ else none
    | some ("to", rest) => if rest.isBlank then some .to else none
    | some (k, rest) =>
      if parts.contains k then (whole? (readKnown .percentage rest)).map (.within k) else none
    | none => none

/-- The printed form; in compact layout each place has its shortest name. -/
def text (l : Layout) : FramePlace → String
  | .from_ =>
    match l with
    | .pretty => "from"
    | .compact => "0%"
  | .to => "to"
  | .percentage v => if l = .compact ∧ v.share == 1 then "to" else v.text
  | .within k v => k ++ " " ++ v.text

end FramePlace

/-- A keyframe. -/
structure Keyframe where
  places : List FramePlace
  block : Block
  deriving BEq, Repr, Inhabited

namespace Keyframe

/-- Read a keyframe by its places and its declarations. -/
def read? (places body : Components) : Option Keyframe := do
  let places ← places.splitCommas.mapM FramePlace.read?
  match readDeclarations body with
  | .ok block => some ⟨places, block⟩
  | .error _ => none

/-- Read keyframes behind others, latest first. `item` holds the components behind the last frame,
latest first. -/
def readFrom (done : List Keyframe) (item : List Component) : Components → List Keyframe
  | .done _ => done.reverse
  | .token .semicolon _ rest => readFrom done [] rest
  | .token t p rest => readFrom done (.token t p :: item) rest
  | .block (.plain .curly) p body rest =>
    let frame := read? (.ofList p item.reverse) body
    readFrom (frame.toList ++ done) [] rest
  | .block b p body rest => readFrom done (.block b p body :: item) rest

/-- Read the keyframes of a level. -/
def readList (cs : Components) : List Keyframe := readFrom [] [] cs

/-- A keyframe, at an indentation. -/
def text (p : Printing) (depth : Nat) (f : Keyframe) : String :=
  p.layout.commas (f.places.map (FramePlace.text p.layout)) ++ f.block.print p depth

end Keyframe

/-! ## Names -/

/-- The name of `@keyframes`: an identifier or a string. -/
inductive KeyframesName where
  | ident (name : String)
  | quoted (name : String)
  deriving DecidableEq, Repr, Inhabited

namespace KeyframesName

/-- The name itself. -/
def value : KeyframesName → String
  | .ident n => n
  | .quoted n => n

/-- Read a name in front, and what follows. -/
def read (cs : Components) : Except SyntaxError (KeyframesName × Components) :=
  match cs.skipBlank with
  | .token (.ident n) _ rest =>
    if Animation.quotedNames.contains n.toLower then .error cs.unexpectedBehind
    else .ok (.ident n, rest)
  | .token (.quoted t) _ rest => .ok (.quoted t, rest)
  | _ => .error cs.unexpectedBehind

/-- The printed form: an identifier, unless that would be a keyword. -/
def text (n : KeyframesName) : String :=
  if Animation.quotedNames.contains n.value.toLower then writeQuoted n.value else writeIdent n.value

end KeyframesName

/-- The spellings in which `@keyframes` is printed; `-ms-` is not one of them. -/
def keyframesSpellings (q : Prefixes) : List Prefixes := { q with ms := false }.members

end StyleBuild.Css
