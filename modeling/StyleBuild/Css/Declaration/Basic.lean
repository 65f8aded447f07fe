import StyleBuild.Css.Animation
import StyleBuild.Css.Display
import StyleBuild.Css.Family
import StyleBuild.Css.Raw
import StyleBuild.Css.Transform

/-!
# Declarations

A declaration gives a property a value. The properties listed in `Property` are understood:
their values are kept by meaning, so that two spellings of one value are equal. Every other
property, and a value that is not understood, is kept as written.
-/

namespace StyleBuild.Css

/-! ## List markers -/

/-- A list marker. -/
inductive Marker where
  | none
  | text (t : String)
  | style (name : String)
  | symbols (system : String) (items : List String)
  deriving DecidableEq, Repr, Inhabited

namespace Marker

/-- The counter styles that are known by name, in lower case, and the features that browsers need
for them. -/
def counterStyles : List (Feature × List String) :=
  [(.simpleMarkers, ["decimal", "disc", "circle", "square"]),
   (.alphabeticMarkers,
    ["decimal-leading-zero", "armenian", "georgian", "lower-roman", "upper-roman", "lower-alpha",
     "lower-latin", "upper-alpha", "upper-latin", "lower-greek"]),
   (.scriptMarkers,
    ["arabic-indic", "upper-armenian", "lower-armenian", "bengali", "cambodian", "khmer",
     "devanagari", "gujarati", "gurmukhi", "hebrew", "kannada", "lao", "malayalam", "mongolian",
     "myanmar", "oriya", "persian", "telugu", "thai", "tibetan", "hiragana", "hiragana-iroha",
     "katakana", "katakana-iroha", "cjk-earthly-branch", "cjk-heavenly-stem"]),
   (.ideographMarkers,
    ["japanese-informal", "japanese-formal", "korean-hangul-formal", "korean-hanja-informal",
     "korean-hanja-formal", "simp-chinese-informal", "simp-chinese-formal",
     "trad-chinese-informal", "trad-chinese-formal"]),
   (.recentMarkers, ["cjk-decimal", "tamil", "ethiopic-numeric"]),
   (.disclosureMarkers, ["disclosure-open", "disclosure-closed"])]

/-- The feature that browsers need for a counter style that is known by name. -/
def styleFeature? (name : String) : Option Feature :=
  (counterStyles.find? (·.2.contains name)).map (·.1)

/-- The ways in which symbols make a counter style. -/
def systems : List String := ["cyclic", "numeric", "alphabetic", "symbolic", "fixed"]

/-- The strings of a level. -/
def strings? : Components → Option (List String)
  | .done _ => some []
  | .token (.blank _) _ rest => strings? rest
  | .token (.quoted t) _ rest => (strings? rest).map (t :: ·)
  | _ => Option.none

/-- Read a list marker. -/
def read? (cs : Components) : Option Marker :=
  match cs.skipBlank with
  | .token (.quoted t) _ rest => if rest.isBlank then some (.text t) else Option.none
  | .token (.ident n) _ rest =>
    let k := n.toLower
    if !rest.isBlank ∨ wideKeywords.contains k then Option.none
    else if k = "none" then some .none
    else if (styleFeature? k).isSome then some (.style k)
    else some (.style n)
  | .block (.function f) _ body rest =>
    if f.toLower ≠ "symbols" ∨ !rest.isBlank then Option.none
    else
      let (system, items) := (readKeywordOf systems body).getD ("symbolic", body)
      (strings? items).map (.symbols system)
  | _ => Option.none

/-- The features that a browser needs to understand a list marker. -/
def needs : Marker → List Feature
  | .none => []
  | .text _ => [.stringMarkers]
  | .style n => (styleFeature? n).toList
  | .symbols _ _ => [.symbolMarkers]

/-- The printed form. -/
def css : Marker → String
  | .none => "none"
  | .text t => writeQuoted t
  | .style n => writeIdent n
  | .symbols system items =>
    "symbols(" ++ String.intercalate " "
      ((if system = "symbolic" then [] else [system]) ++ items.map writeQuoted) ++ ")"

end Marker

/-! ## Boxes and properties -/

/-- The layers around a box that have a distance on each side. -/
inductive BoxLayer where
  | margin
  | padding
  deriving DecidableEq, Repr, Inhabited

/-- The name of a layer. -/
def BoxLayer.name : BoxLayer → String
  | .margin => "margin"
  | .padding => "padding"

/-- The sides of a box. -/
inductive Edge where
  | top
  | right
  | bottom
  | left
  deriving DecidableEq, Repr, Inhabited

/-- The name of a side. -/
def Edge.name : Edge → String
  | .top => "top"
  | .right => "right"
  | .bottom => "bottom"
  | .left => "left"

/-- The properties whose values are understood. -/
inductive Property where
  | zIndex
  | order (p : Prefixes)
  /-- The order in the second draft of flexible boxes. -/
  | flexOrder
  /-- The order in the first draft of flexible boxes. -/
  | ordinalGroup (p : Prefixes)
  | color
  | sides (layer : BoxLayer)
  | side (layer : BoxLayer) (edge : Edge)
  | opacity
  | display
  | userSelect (p : Prefixes)
  | transform (p : Prefixes)
  | fontFamily
  | listStyleType
  | animation (p : Prefixes)
  | animationTimeline
  deriving DecidableEq, Repr, Inhabited

/-- The distance of one side: `auto`, a length or a percentage. -/
inductive Side where
  | auto
  | distance (d : Calc LengthPercentage)
  deriving BEq, Repr, Inhabited

/-- The four sides of a box. -/
structure Sides where
  top : Side
  right : Side
  bottom : Side
  left : Side
  deriving BEq, Repr, Inhabited

namespace Side

/-- The features that a browser needs to understand a distance. -/
def needs : Side → List Feature
  | .auto => []
  | .distance d => d.needs LengthPercentage.needs

end Side

/-- The distance at a side. -/
def Sides.side (s : Sides) : Edge → Side
  | .top => s.top
  | .right => s.right
  | .bottom => s.bottom
  | .left => s.left

/-- A property and its value. -/
inductive Declaration where
  | zIndex (value : Option Int)
  | order (value : Int) (p : Prefixes)
  | flexOrder (value : Int)
  | ordinalGroup (value : Int) (p : Prefixes)
  | color (value : Color)
  | sides (layer : BoxLayer) (sides : Sides)
  | side (layer : BoxLayer) (edge : Edge) (value : Side)
  | opacity (value : Float32)
  | display (value : Display)
  | userSelect (keyword : String) (p : Prefixes)
  | transform (functions : List Transform) (p : Prefixes)
  | fontFamily (families : List Family)
  | listStyleType (value : Marker)
  | animation (items : List Animation) (p : Prefixes)
  | animationTimeline (timelines : List Timeline)
  /-- A known property whose value is not understood. -/
  | unread (property : Property) (value : Raw)
  /-- A custom property or an unknown one. -/
  | custom (name : String) (value : Raw)
  deriving BEq, Repr, Inhabited

/-- What tells declarations of different properties apart. -/
inductive PropertyId where
  | known (p : Property)
  | custom (name : String)
  deriving DecidableEq, Repr, Inhabited

/-- The property of a declaration. -/
def Declaration.property : Declaration → PropertyId
  | .zIndex _ => .known .zIndex
  | .order _ p => .known (.order p)
  | .flexOrder _ => .known .flexOrder
  | .ordinalGroup _ p => .known (.ordinalGroup p)
  | .color _ => .known .color
  | .sides l _ => .known (.sides l)
  | .side l e _ => .known (.side l e)
  | .opacity _ => .known .opacity
  | .display _ => .known .display
  | .userSelect _ p => .known (.userSelect p)
  | .transform _ p => .known (.transform p)
  | .fontFamily _ => .known .fontFamily
  | .listStyleType _ => .known .listStyleType
  | .animation _ p => .known (.animation p)
  | .animationTimeline _ => .known .animationTimeline
  | .unread p _ => .known p
  | .custom n _ => .custom n

/-- The declarations of a rule: the normal ones, then the important ones. -/
structure Block where
  normal : List Declaration := []
  important : List Declaration := []
  deriving BEq, Repr, Inhabited

namespace Block

/-- Whether there is no declaration. -/
def isEmpty (b : Block) : Bool := b.normal.isEmpty && b.important.isEmpty

/-- The number of declarations. -/
def size (b : Block) : Nat := b.normal.length + b.important.length

/-- All declarations, the important ones last. -/
def all (b : Block) : List Declaration := b.normal ++ b.important

/-- The declarations of one block followed by those of another. -/
def append (a b : Block) : Block := ⟨a.normal ++ b.normal, a.important ++ b.important⟩

/-- Add a declaration at the end of its kind. -/
def push (b : Block) (d : Declaration) (isImportant : Bool) : Block :=
  if isImportant then { b with important := b.important ++ [d] }
  else { b with normal := b.normal ++ [d] }

end Block

/-- The spellings that a property name may stand for, and its name. -/
def Property.name : Property → String
  | .zIndex => "z-index"
  | .order _ => "order"
  | .flexOrder => "flex-order"
  | .ordinalGroup _ => "box-ordinal-group"
  | .color => "color"
  | .sides l => l.name
  | .side l e => l.name ++ "-" ++ e.name
  | .opacity => "opacity"
  | .display => "display"
  | .userSelect _ => "user-select"
  | .transform _ => "transform"
  | .fontFamily => "font-family"
  | .listStyleType => "list-style-type"
  | .animation _ => "animation"
  | .animationTimeline => "animation-timeline"

/-- The spellings of a property. -/
def Property.prefixes : Property → Prefixes
  | .order p | .ordinalGroup p | .userSelect p | .transform p | .animation p => p
  | .flexOrder => { ms := true }
  | _ => .standard

/-- A property in other spellings. -/
def Property.withPrefixes (p : Prefixes) : Property → Property
  | .order _ => .order p
  | .ordinalGroup _ => .ordinalGroup p
  | .userSelect _ => .userSelect p
  | .transform _ => .transform p
  | .animation _ => .animation p
  | q => q

/-- A property in the spellings that targets need. -/
def Property.forTargets (targets : Option Browsers) (q : Property) : Property :=
  let feature : Option Prefixed := match q with
    | .order _ => some .order
    | .userSelect _ => some .userSelect
    | .transform _ => some .transform
    | .animation _ => some .animation
    | _ => none
  match feature with
  | some f => q.withPrefixes (q.prefixes.forTargets f targets)
  | none => q

/-- The known properties of which there is one spelling only. -/
def plainProperties : List Property :=
  [.zIndex, .color, .opacity, .display, .fontFamily, .listStyleType, .animationTimeline] ++
    [BoxLayer.margin, .padding].flatMap fun l =>
      .sides l :: [Edge.top, .right, .bottom, .left].map (Property.side l)

/-- A known property by its written name. -/
def Property.ofName? (written : String) : Option Property :=
  let (p, bare) := Prefixes.split written.toLower.toList
  match String.ofList bare with
  | "order" => if p.plain || p.webkit then some (.order p) else .none
  | "flex-order" => if p.ms then some .flexOrder else .none
  | "box-ordinal-group" => if p.webkit || p.moz then some (.ordinalGroup p) else .none
  | "user-select" => if p.opera then .none else some (.userSelect p)
  | "transform" => some (.transform p)
  | "animation" => if p.ms then .none else some (.animation p)
  | name =>
    if p.plain then plainProperties.find? (·.name == name) else .none

namespace PropertyId

/-- A property by its written name. -/
def ofName (written : String) : PropertyId :=
  match Property.ofName? written with
  | some q => .known q
  | none => .custom written

/-- A property without its spellings. -/
def unprefixed : PropertyId → PropertyId
  | .known q => .known (q.withPrefixes .standard)
  | q => q

/-- A property with the spellings of another one added to its own. -/
def withSpellings (p : PropertyId) : PropertyId → PropertyId
  | .known r =>
    match p with
    | .known q => .known (q.withPrefixes (q.prefixes.union r.prefixes))
    | q => q
  | .custom _ => p

end PropertyId

end StyleBuild.Css
