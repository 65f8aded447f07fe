import StyleBuild.Css.Condition
import StyleBuild.Css.Raw

/-!
# Tests of features

A test of a feature of the medium, or of the container around: that it is there, what it is, or
how it compares. A feature that is compared by size may have its bounds in its name, as in
`min-width`, or stand between them, as in `1px < width <= 9px`. Targets that lack comparisons get
the bounds in the name.
-/

namespace StyleBuild.Css

/-! ## Comparisons -/

/-- A comparison. -/
inductive Comparison where
  | equal
  | less
  | lessEqual
  | greater
  | greaterEqual
  deriving DecidableEq, Repr, Inhabited

namespace Comparison

/-- A comparison with its spaces. -/
def text (l : Layout) : Comparison → String
  | .equal => l.around "="
  | .less => l.around "<"
  | .lessEqual => l.around "<="
  | .greater => l.around ">"
  | .greaterEqual => l.around ">="

/-- The comparison with its sides exchanged. -/
def flip : Comparison → Comparison
  | .equal => .equal
  | .less => .greater
  | .lessEqual => .greaterEqual
  | .greater => .less
  | .greaterEqual => .lessEqual

@[simp] theorem flip_flip (c : Comparison) : c.flip.flip = c := by cases c <;> rfl

/-- The comparison for the contrary. -/
def contrary? : Comparison → Option Comparison
  | .equal => none
  | .less => some .greaterEqual
  | .lessEqual => some .greater
  | .greater => some .lessEqual
  | .greaterEqual => some .less

/-- Whether a comparison is a strict or weak "less". -/
def isLess : Comparison → Bool
  | .less | .lessEqual => true
  | _ => false

/-- Whether a comparison is a strict or weak "greater". -/
def isGreater : Comparison → Bool
  | .greater | .greaterEqual => true
  | _ => false

/-- Whether a comparison is strict. -/
def isStrict : Comparison → Bool
  | .less | .greater => true
  | _ => false

/-- Whether two comparisons bound an interval. -/
def bounds (c d : Comparison) : Bool := (c.isLess && d.isLess) || (c.isGreater && d.isGreater)

/-- An equals sign behind another sign makes the comparison weak. -/
def withEqual (strict weak : Comparison) (cs : Components) : Comparison × Components :=
  match cs.skipBlank with
  | .token (.delim '=') _ rest => (weak, rest)
  | _ => (strict, cs)

/-- The comparison in front; where `colonAllowed`, a colon stands for none. -/
def read (colonAllowed : Bool) (cs : Components) :
    Except SyntaxError (Option Comparison × Components) :=
  let found (r : Comparison × Components) : Except SyntaxError (Option Comparison × Components) :=
    .ok (some r.1, r.2)
  match cs.skipBlank with
  | .token .colon _ rest => if colonAllowed then .ok (none, rest) else .error cs.unexpected
  | .token (.delim '=') _ rest => .ok (some .equal, rest)
  | .token (.delim '<') _ rest => found (withEqual .less .lessEqual rest)
  | .token (.delim '>') _ rest => found (withEqual .greater .greaterEqual rest)
  | _ => .error cs.unexpected

end Comparison

/-! ## Names -/

/-- The kinds of values that features have. -/
inductive FeatureKind where
  | length
  | number
  | integer
  | boolean
  | resolution
  | ratio
  | ident
  | unknown
  deriving DecidableEq, Repr, Inhabited

/-- Whether values of a kind are compared by size. -/
def FeatureKind.isOrdered : FeatureKind → Bool
  | .boolean | .ident => false
  | _ => true

/-- The features that may be tested somewhere, by their names. -/
abbrev FeatureTable := List (String × FeatureKind)

/-- The features of media. -/
def mediaFeatures : FeatureTable :=
  [("width", .length), ("height", .length), ("aspect-ratio", .ratio), ("resolution", .resolution),
   ("device-width", .length), ("device-height", .length), ("device-aspect-ratio", .ratio),
   ("-webkit-device-pixel-ratio", .number), ("-moz-device-pixel-ratio", .number),
   ("horizontal-viewport-segments", .integer), ("vertical-viewport-segments", .integer),
   ("color", .integer), ("color-index", .integer), ("monochrome", .integer), ("grid", .boolean)] ++
  ["orientation", "overflow-block", "overflow-inline", "display-mode", "scan", "update",
   "environment-blending", "color-gamut", "dynamic-range", "inverted-colors", "pointer", "hover",
   "any-pointer", "any-hover", "nav-controls", "video-color-gamut", "video-dynamic-range",
   "scripting", "prefers-reduced-motion", "prefers-reduced-transparency", "prefers-contrast",
   "forced-colors", "prefers-color-scheme", "prefers-reduced-data"].map (·, .ident)

/-- The features of containers. -/
def containerFeatures : FeatureTable :=
  [("width", .length), ("height", .length), ("inline-size", .length), ("block-size", .length),
   ("aspect-ratio", .ratio), ("orientation", .ident)]

/-- The features of the scrolling of containers. -/
def scrollFeatures : FeatureTable :=
  [("stuck", .ident), ("snapped", .ident), ("scrollable", .ident), ("scrolled", .ident)]

/-- The name of a feature and the kind of its value. -/
structure FeatureName where
  name : String
  kind : FeatureKind
  deriving DecidableEq, Repr, Inhabited

namespace FeatureName

/-- Split a bound off a name. -/
def splitBound : List Char → Option Comparison × List Char
  | 'm' :: 'i' :: 'n' :: '-' :: cs => (some .greaterEqual, cs)
  | 'm' :: 'a' :: 'x' :: '-' :: cs => (some .lessEqual, cs)
  | cs => (none, cs)

/-- A feature by its written name, and the bound in it; a vendor comes before the bound. -/
def ofWritten (table : FeatureTable) (written : String) : FeatureName × Option Comparison :=
  let (vendor, bare) := match written.toLower.toList with
    | '-' :: 'w' :: 'e' :: 'b' :: 'k' :: 'i' :: 't' :: '-' :: cs => ("-webkit-", cs)
    | cs => ("", cs)
  let (bound, base) := splitBound bare
  let name := vendor ++ String.ofList base
  match table.lookup name with
  | some kind => (⟨name, kind⟩, bound)
  | none => (⟨written, .unknown⟩, none)

/-- The feature name in front with its bound, and what follows. -/
def read (table : FeatureTable) (cs : Components) :
    Except SyntaxError ((FeatureName × Option Comparison) × Components) :=
  match cs.skipBlank with
  | .token (.ident n) _ rest => .ok (ofWritten table n, rest)
  | _ => .error cs.unexpected

/-- The first feature name of a level; it must not hold a bound. -/
def find (table : FeatureTable) : Components → Except SyntaxError FeatureName
  | .done p => .error ⟨.mediaQuery, p⟩
  | .token t _ rest =>
    match t with
    | .ident n =>
      match ofWritten table n with
      | (name, none) => .ok name
      | (_, some _) => .error ⟨.mediaQuery, rest.start⟩
    | t => if !t.isBlank && rest.isBlank then .error ⟨.mediaQuery, rest.start⟩ else find table rest
  | .block _ _ body rest =>
    if rest.isBlank then .error ⟨.mediaQuery, body.start⟩ else find table rest

/-- The printed form. -/
def text (f : FeatureName) : String := writeIdent f.name

/-- The printed form with a bound, which comes behind a vendor. -/
def boundText (bound : String) (f : FeatureName) : String :=
  if f.name = "-webkit-device-pixel-ratio" then "-webkit-" ++ bound ++ "device-pixel-ratio"
  else bound ++ f.text

end FeatureName

/-! ## Values -/

/-- A value that a feature is compared with. -/
inductive FeatureValue where
  | length (l : Calc Length)
  | number (x : Float32)
  | integer (i : Int)
  | boolean (b : Bool)
  | resolution (r : Resolution)
  | ratio (a b : Float32)
  | ident (name : String)
  /-- A variable of the environment. -/
  | variable_ (value : Raw)
  deriving BEq, Repr, Inhabited

namespace FeatureValue

/-- Whether a value is of a kind; a variable is of every kind, and an unknown feature takes every
value. -/
def fits (kind : FeatureKind) : FeatureValue → Bool
  | .length _ => kind == .length || kind == .unknown
  | .number _ => kind == .number || kind == .unknown
  | .integer _ => kind == .integer || kind == .unknown
  | .boolean _ => kind == .boolean || kind == .unknown
  | .resolution _ => kind == .resolution || kind == .unknown
  | .ratio _ _ => kind == .ratio || kind == .unknown
  | .ident _ => kind == .ident || kind == .unknown
  | .variable_ _ => true

/-- The integer in front. -/
def readInteger (cs : Components) : Option (Int × Components) :=
  match cs.skipBlank with
  | .token (.number n) _ rest => n.integer.map (·, rest)
  | _ => none

/-- The resolution in front. -/
def readResolution (cs : Components) : Option (FeatureValue × Components) :=
  match cs.skipBlank with
  | .token t _ rest => (Resolution.ofToken? t).map fun r => (.resolution r, rest)
  | _ => none

/-- The length in front. -/
def readLength (cs : Components) : Option (FeatureValue × Components) :=
  (readQuantity .length cs).map fun (l, rest) => (.length l, rest)

/-- The two numbers of a ratio; the second may be left out where `short`. -/
def readRatio (short : Bool) (cs : Components) : Option (FeatureValue × Components) := do
  let (a, rest) ← readNumberValue cs
  match rest.skipBlank with
  | .token (.delim '/') _ rest => (readNumberValue rest).map fun (b, rest) => (.ratio a b, rest)
  | _ => if short then some (.ratio a 1, rest) else none

/-- The identifier in front. -/
def readIdent (cs : Components) : Option (FeatureValue × Components) :=
  match cs.skipBlank with
  | .token (.ident n) _ rest => some (.ident n, rest)
  | _ => none

/-- The variable of the environment in front. -/
def readVariable (cs : Components) : Option (FeatureValue × Components) :=
  match cs.skipBlank with
  | .block (.function n) _ body rest =>
    if n.toLower = "env" then
      match rawCall (4 * body.size + 8) 0 "env" [] body with
      | .ok ps => some (.variable_ ps.reverse, rest)
      | .error _ => none
    else none
  | _ => none

/-- The value of a kind in front. -/
def readOfKind (kind : FeatureKind) (cs : Components) : Option (FeatureValue × Components) :=
  match kind with
  | .length => readLength cs
  | .number => (readNumberValue cs).map fun (x, rest) => (.number x, rest)
  | .integer => (readInteger cs).map fun (i, rest) => (.integer i, rest)
  | .boolean =>
    match readInteger cs with
    | some (0, rest) => some (.boolean false, rest)
    | some (1, rest) => some (.boolean true, rest)
    | _ => none
  | .resolution => readResolution cs
  | .ratio => readRatio true cs
  | .ident => readIdent cs
  | .unknown => none

/-- The value in front, preferably of a kind. -/
def read (kind : FeatureKind) (cs : Components) : Except SyntaxError (FeatureValue × Components) :=
  let found :=
    (((((readOfKind kind cs).or (readRatio false cs)).or
      ((readNumberValue cs).map fun (x, rest) => (.number x, rest))).or
      (readLength cs)).or (readResolution cs)).or ((readVariable cs).or (readIdent cs))
  match found with
  | some r => .ok r
  | none => .error cs.unexpected

/-- The printed form. -/
def text (p : Printing) : FeatureValue → String
  | .length (.value l) => l.text
  | .length c => c.text p
  | .number x => numberText x
  | .integer i => integerText i
  | .boolean b => if b then "1" else "0"
  | .resolution r => r.text p
  | .ratio a b => numberText a ++ (if b == 1 then "" else p.layout.around "/" ++ numberText b)
  | .ident n => writeIdent n
  | .variable_ v => rawText p v

end FeatureValue

/-! ## Tests -/

/-- A test of a feature. -/
inductive FeatureTest where
  | present (feature : FeatureName)
  | is (feature : FeatureName) (value : FeatureValue)
  | range (feature : FeatureName) (c : Comparison) (value : FeatureValue)
  | interval (low : FeatureValue) (c : Comparison) (feature : FeatureName) (d : Comparison)
      (high : FeatureValue)
  deriving BEq, Repr, Inhabited

namespace FeatureTest

/-- Read a test that starts with its feature. -/
def readFeatureFirst (table : FeatureTable) (cs : Components) :
    Except SyntaxError (FeatureTest × Components) := do
  let ((feature, bound), rest) ← FeatureName.read table cs
  match Comparison.read true rest with
  | .error _ => return (.present feature, rest)
  | .ok (sign, rest) =>
    if sign.isSome && bound.isSome then throw ⟨.mediaQuery, rest.start⟩
    let (value, rest) ← FeatureValue.read feature.kind rest
    if !value.fits feature.kind then throw ⟨.mediaQuery, rest.start⟩
    match sign.or bound with
    | none => return (.is feature value, rest)
    | some c =>
      if !feature.kind.isOrdered then throw ⟨.mediaQuery, rest.start⟩
      return (.range feature c value, rest)

/-- Read a test that starts with a value. -/
def readValueFirst (table : FeatureTable) (cs : Components) :
    Except SyntaxError (FeatureTest × Components) := do
  let feature ← FeatureName.find table cs
  let (low, rest) ← FeatureValue.read feature.kind cs
  let (c, rest) ← Comparison.read false rest
  let c := c.getD .equal
  let (_, rest) ← FeatureName.read table rest
  if !feature.kind.isOrdered || !low.fits feature.kind then throw ⟨.mediaQuery, rest.start⟩
  match Comparison.read false rest with
  | .error _ => return (.range feature c.flip low, rest)
  | .ok (d, rest) =>
    let d := d.getD .equal
    if !c.bounds d then throw ⟨.mediaQuery, rest.start⟩
    let (high, rest) ← FeatureValue.read feature.kind rest
    if !high.fits feature.kind then throw ⟨.mediaQuery, rest.start⟩
    return (.interval low c feature d high, rest)

/-- Read a test inside its parentheses. -/
def read (table : FeatureTable) (cs : Components) : Except SyntaxError (FeatureTest × Components) :=
  match readFeatureFirst table cs with
  | .ok r => .ok r
  | .error e => if e.cause == .mediaQuery then .error e else readValueFirst table cs

/-- A comparison for targets that know bounds only: a strict one negates the contrary, in
parentheses where `inside` an interval. -/
def boundedText (p : Printing) (inside : Bool) (feature : FeatureName) (c : Comparison)
    (value : FeatureValue) : String :=
  let bound := match c with
    | .equal => ""
    | .less | .greaterEqual => "min-"
    | .lessEqual | .greater => "max-"
  let t := "(" ++ feature.boundText bound ++ p.layout.after ":" ++ value.text p ++ ")"
  if c.isStrict then parenthesized inside ("not " ++ t) else t

/-- A test as printed, in its parentheses. -/
def text (p : Printing) : FeatureTest → String
  | .present f => "(" ++ f.text ++ ")"
  | .is f v => "(" ++ f.text ++ p.layout.after ":" ++ v.text p ++ ")"
  | .range f c v =>
    if Feature.mediaRanges.isUsable p.targets then
      "(" ++ f.text ++ c.text p.layout ++ v.text p ++ ")"
    else boundedText p false f c v
  | .interval low c f d high =>
    if Feature.mediaIntervals.isUsable p.targets then
      "(" ++ low.text p ++ c.text p.layout ++ f.text ++ d.text p.layout ++ high.text p ++ ")"
    else boundedText p true f c.flip low ++ " and " ++ boundedText p true f d high

/-- Whether a test has a printed form that stands in parentheses inside other conditions. -/
def isOpen (p : Printing) (around : Option Connective) : FeatureTest → Bool
  | .range _ c _ => !Feature.mediaRanges.isUsable p.targets && c.isStrict
  | .interval _ _ _ _ _ => !Feature.mediaIntervals.isUsable p.targets && around != some .and
  | _ => false

/-- The test for the contrary. -/
def contrary? : FeatureTest → Option FeatureTest
  | .range f c v => c.contrary?.map (.range f · v)
  | _ => none

/-- Whether a test compares the resolution. -/
def comparesResolution : FeatureTest → Bool
  | .range f _ _ => f.name == "resolution"
  | _ => false

/-- A comparison of the resolution as one of the ratio of pixels, which some browsers have in its
place under their prefix. -/
def asPixelRatio (vendor : Prefixes) : FeatureTest → FeatureTest
  | .range f c (.resolution r) =>
    if f.name = "resolution" ∧ (vendor.webkit ∨ vendor.moz) then
      .range ⟨vendor.text ++ "device-pixel-ratio", .number⟩ c (.number r.perPixel)
    else .range f c (.resolution r)
  | t => t

/-- How tests of some features are read. -/
def grammar (table : FeatureTable) : TestGrammar FeatureTest := { inside := read table }

/-- How tests of features are printed. -/
def printer (p : Printing) : TestPrinter FeatureTest := { text := text p, isOpen := isOpen p }

end FeatureTest

end StyleBuild.Css
