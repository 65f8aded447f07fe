import StyleBuild.Css.Raw

/-!
# Fallbacks of colours

Colours come in levels, of which the higher ones are known to fewer browsers. For targets that do
not all know a colour it is given in lower levels as well: `Color.levels` says in which, and
`Color.lowered` is the colour in one of them. `Color.fallbacks` is what a declaration of a colour
becomes; a value of which a colour is only a part takes the lowest level, and what the others
say is put into support queries.
-/

namespace StyleBuild.Css

/-- The levels of colours, the lowest first. -/
inductive ColorLevel where
  | rgb
  | p3
  | lab
  | oklab
  deriving DecidableEq, Repr, Inhabited

/-- A set of levels. -/
structure ColorLevels where
  rgb : Bool := false
  p3 : Bool := false
  lab : Bool := false
  oklab : Bool := false
  deriving DecidableEq, Repr, Inhabited

namespace ColorLevels

/-- A level and all below it. -/
def upTo : ColorLevel → ColorLevels
  | .rgb => ⟨true, false, false, false⟩
  | .p3 => ⟨true, true, false, false⟩
  | .lab => ⟨true, true, true, false⟩
  | .oklab => ⟨true, true, true, true⟩

/-- The levels of either set. -/
def union (a b : ColorLevels) : ColorLevels :=
  ⟨a.rgb || b.rgb, a.p3 || b.p3, a.lab || b.lab, a.oklab || b.oklab⟩

/-- The lowest level of a set. -/
def lowest? (a : ColorLevels) : Option ColorLevel :=
  if a.rgb then some .rgb else if a.p3 then some .p3 else if a.lab then some .lab
  else if a.oklab then some .oklab else none

/-- A set without its highest level. -/
def dropHighest (a : ColorLevels) : ColorLevels :=
  if a.oklab then { a with oklab := false }
  else if a.lab then { a with lab := false }
  else if a.p3 then { a with p3 := false }
  else { a with rgb := false }

/-- A set without its lowest level. -/
def dropLowest (a : ColorLevels) : ColorLevels :=
  match a.lowest? with
  | some .rgb => { a with rgb := false }
  | some .p3 => { a with p3 := false }
  | some .lab => { a with lab := false }
  | some .oklab => { a with oklab := false }
  | none => a

/-- The levels of a set that are worth giving: below one that all know none is, and one that none
knows is not, unless it is the highest. -/
def needed (for_ : Audience) (a : ColorLevels) : ColorLevels :=
  let partly (f : Feature) : Bool := for_.targets.any f.isPartlySupported
  let a :=
    if a.lab && !for_.lacks .labColors then { a with rgb := false, p3 := false }
    else if a.lab && partly .labColors then { a with p3 := false }
    else a
  if a.p3 && !for_.lacks .p3Colors then { a with rgb := false }
  else if a.p3 && (a.lab || a.oklab) && !partly .p3Colors then { a with p3 := false }
  else a

end ColorLevels

/-- The level in which colours of a space are written, if an audience lacks it. -/
def ColorSpace.lackingLevel? (for_ : Audience) : ColorSpace → Option ColorLevel
  | .rgb | .hsl | .hwb => none
  | .lab | .lch => if for_.lacks .labColors then some .lab else none
  | .oklab | .oklch => if for_.lacks .oklabColors then some .oklab else none
  | s =>
    if s = .displayP3 ∧ for_.lacks .p3Colors then some .p3
    else if for_.lacks .colorFunction then some .lab
    else none

namespace Color

/-- The levels in which an audience needs a colour, that of the colour itself included; none if it
knows the colour. -/
def levels (for_ : Audience) : Color → ColorLevels
  | .placed s _ _ =>
    match s.lackingLevel? for_ with
    | some l => (ColorLevels.upTo l).needed for_
    | none => {}
  | .lightDark a b => (a.levels for_).union (b.levels for_)
  | _ => {}

/-- The space in which a level is given; of the lowest there are bytes. -/
def spaceOfLevel? : ColorLevel → Option ColorSpace
  | .rgb => none
  | .p3 => some .displayP3
  | .lab | .oklab => some .lab

/-- A colour given in a level. -/
def inLevel (l : ColorLevel) : Color → Color
  | .lightDark a b => .lightDark (a.inLevel l) (b.inLevel l)
  | c =>
    match spaceOfLevel? l with
    | some s =>
      match c.inSpace? s with
      | some (place, alpha) => .placed s place (orZero alpha)
      | none => c
    | none =>
      match c with
      | .placed s place alpha => .ofPlace s place alpha
      | c => c

/-- A colour lowered to a level; bytes are low enough. -/
def lowered (l : ColorLevel) : Color → Color
  | .rgba r g b a => .rgba r g b a
  | c => c.inLevel l

/-- The colours that are declared one after the other for one colour: the later ones override the
earlier where they are known. -/
def fallbacks (for_ : Audience) (c : Color) : List Color :=
  let needed := (c.levels for_).dropHighest
  (if needed.rgb then [c.inLevel .rgb] else []) ++ (if needed.p3 then [c.inLevel .p3] else []) ++
    [if needed.lab then c.inLevel .lab else c]

/-- The features that a browser has if it knows a colour. -/
def features : Color → List Feature
  | .placed s _ _ =>
    match s with
    | .rgb | .hsl | .hwb => [.spacedColors]
    | .lab | .lch => [.labColors]
    | .oklab | .oklch => [.oklabColors]
    | .displayP3 => [.colorFunction, .p3Colors]
    | _ => [.colorFunction]
  | .lightDark a b => .lightDark :: a.features ++ b.features
  | _ => []

/-- The features that a browser needs to understand a colour. -/
def needs : Color → List Feature
  | .current | .rgba _ _ _ _ => []
  | .system n => if ["accentcolor", "accentcolortext"].contains n then [.accentColors] else []
  | .placed s _ _ =>
    match s with
    | .rgb | .hsl | .hwb => []
    | .lab | .lch => [.labColors]
    | .oklab | .oklch => [.oklabColors]
    | .displayP3 => [.p3Colors]
    | _ => [.colorFunction]
  | .lightDark a b => .lightDark :: (a.needs ++ b.needs)

end Color

/-! ## Raw values -/

namespace RawPiece

/-- How many brackets are open behind a piece inside of what is hidden. -/
def hiddenBehind (hides : RawPiece → Bool) (hidden : Nat) (p : RawPiece) : Nat :=
  let opens : Bool := match p with
    | .token (.opening _) | .openColor _ _ | .openPair => true
    | _ => false
  let closes : Bool := match p with
    | .token (.closing _) => true
    | _ => false
  if hidden = 0 then if hides p then 1 else 0
  else if opens then hidden + 1
  else if closes then hidden - 1
  else hidden

/-- Whether a piece starts a colour that is not known. -/
def opensUnresolved : RawPiece → Bool
  | .openColor _ _ | .openPair => true
  | _ => false

/-- Whether a piece starts a colour whose opacity is not known. -/
def opensColor : RawPiece → Bool
  | .openColor _ _ => true
  | _ => false

end RawPiece

namespace Raw

/-- The pieces of a raw value that are not hidden inside of others; `hidden` counts the open
brackets. -/
def shown (hides : RawPiece → Bool) : Nat → Raw → Raw
  | _, [] => []
  | hidden, p :: ps =>
    let rest := shown hides (p.hiddenBehind hides hidden) ps
    if hidden = 0 then p :: rest else rest

/-- Change the colours of a raw value, except inside of one that is not known. -/
def mapColors (f : Color → Color) : Nat → Raw → Raw
  | _, [] => []
  | hidden, p :: ps =>
    let rest := mapColors f (p.hiddenBehind RawPiece.opensUnresolved hidden) ps
    match hidden, p with
    | 0, .color c => .color (f c) :: rest
    | _, p => p :: rest

/-- The levels in which an audience needs the colours of a raw value. -/
def levels (for_ : Audience) (ps : Raw) : ColorLevels :=
  (shown RawPiece.opensUnresolved 0 ps).foldl (fun found p => match p with
    | .color c => found.union (c.levels for_)
    | _ => found) {}

/-- A raw value with its colours lowered to a level. -/
def lowered (l : ColorLevel) (ps : Raw) : Raw := mapColors (Color.lowered l) 0 ps

/-- A raw value for an audience: with its colours in the lowest level, and in those further levels
that are known to a part of the audience only. -/
def fallbacks (for_ : Audience) (ps : Raw) : Raw × List (ColorLevel × Raw) :=
  let needed := levels for_ ps
  let more := needed.dropLowest
  ((needed.lowest?.map (lowered · ps)).getD ps,
    (if more.p3 then [(.p3, lowered .p3 ps)] else []) ++
      (if more.lab then [(.lab, lowered .lab ps)] else []))

/-- The features that a browser has if it knows the colours of a raw value. -/
def features (ps : Raw) : List Feature :=
  (shown RawPiece.opensColor 0 ps).flatMap fun
    | .color c => c.features
    | .openColor _ _ => [.spacedColors]
    | .openPair => [.spacedColors, .lightDark]
    | _ => []

end Raw

end StyleBuild.Css
