import StyleBuild.Css.Calc

/-!
# Lengths, angles, times and resolutions

The quantities that carry a unit, each read from one token. Two lengths with absolute units can
be added and compared, as can two angles or two times; a length that depends on a font or on the
viewport only goes with its own unit.
-/

namespace StyleBuild.Css

/-- The spelling of a unit behind its number: what could be taken for an exponent starts with an
escape. -/
def writeUnit (unit : String) : String :=
  match unit.toList with
  | ['e'] | ['E'] => "\\65 "
  | 'e' :: '-' :: cs | 'E' :: '-' :: cs => "\\65 " ++ String.ofList (writeName ('-' :: cs))
  | _ => writeIdent unit

/-- A number with its unit. -/
def unitText (x : Float32) (unit : String) : String := wholeText x ++ writeUnit unit

/-! ## Lengths -/

/-- A length; the unit is one of `lengthUnits`. -/
structure Length where
  value : Float32
  unit : String
  deriving BEq, Repr, Inhabited

namespace Length

/-- The units of lengths. -/
def units : List String :=
  ["px", "in", "cm", "mm", "q", "pt", "pc", "em", "rem", "ex", "rex", "ch", "rch", "cap", "rcap",
   "ic", "ric", "lh", "rlh", "vw", "lvw", "svw", "dvw", "cqw", "vh", "lvh", "svh", "dvh", "cqh",
   "vi", "svi", "lvi", "dvi", "cqi", "vb", "svb", "lvb", "dvb", "cqb", "vmin", "svmin", "lvmin",
   "dvmin", "cqmin", "vmax", "svmax", "lvmax", "dvmax", "cqmax"]

/-- A length by a number and a unit in any letter case. -/
def ofUnit? (x : Float32) (unit : String) : Option Length :=
  if units.contains unit.toLower then some ⟨x, unit.toLower⟩ else none

/-- A length by its token; a number without unit is one in pixels. -/
def ofToken? : Token → Option Length
  | .dimension n u => ofUnit? n.value u
  | .number n => some ⟨n.value, "px"⟩
  | _ => none

/-- The features that a browser needs to understand a length. -/
def needs (l : Length) : List Feature :=
  match l.unit with
  | "px" | "in" | "cm" | "mm" | "pt" | "pc" | "em" => []
  | "q" => [.quarterMillimetres]
  | "rem" => [.rootEm]
  | "ex" => [.xHeight]
  | "ch" => [.zeroWidth]
  | "cap" => [.capHeight]
  | "ic" => [.ideographWidth]
  | "lh" => [.lineHeight]
  | "rlh" => [.rootLineHeight]
  | "rcap" => [.rootCapHeight]
  | "rex" | "rch" | "ric" => [.rootFontUnits]
  | "vw" | "vh" => [.viewportUnits]
  | "vmin" => [.viewportMin]
  | "vmax" => [.viewportMax]
  | "cqw" | "cqh" | "cqi" | "cqb" | "cqmin" | "cqmax" => [.containerUnits]
  | _ => [.dynamicViewport]

/-- The length in pixels, for absolute units. -/
def pixels? (l : Length) : Option Float32 :=
  match l.unit with
  | "px" => some l.value
  | "in" => some (l.value * 96)
  | "cm" => some (l.value * (96 / 2.54))
  | "mm" => some (l.value * (96 / 2.54 / 10))
  | "q" => some (l.value * (96 / 2.54 / 40))
  | "pt" => some (l.value * (96 / 72))
  | "pc" => some (l.value * 16)
  | _ => none

/-- Combine the numbers of two lengths in a common unit. -/
def combine? (f : Float32 → Float32 → Float32) (a b : Length) : Option Length :=
  if a.unit = b.unit then some ⟨f a.value b.value, a.unit⟩
  else match a.pixels?, b.pixels? with
    | some x, some y => some ⟨f x y, "px"⟩
    | _, _ => none

/-- Compare two lengths in a common unit. -/
def compare? (a b : Length) : Option Ordering :=
  if a.unit = b.unit then compareNumbers? a.value b.value
  else match a.pixels?, b.pixels? with
    | some x, some y => compareNumbers? x y
    | _, _ => none

/-- A length with its unit. -/
def textInside (l : Length) : String := unitText l.value l.unit

/-- A length; zero needs no unit. -/
def text (l : Length) : String := if l.value == 0 then "0" else l.textInside

end Length

instance : Quantity Length where
  combine? := Length.combine?
  compare? := Length.compare?
  map? f a := some { a with value := f a.value }
  scale n a := { a with value := a.value * n }
  amount a := a.value
  textInside _ := Length.textInside

/-! ## Percentages -/

/-- A percentage, as a share of one. -/
structure Percentage where
  share : Float32
  deriving BEq, Repr, Inhabited

namespace Percentage

/-- A percentage by its token. -/
def ofToken? : Token → Option Percentage
  | .percentage n => some ⟨n.value⟩
  | _ => none

/-- The printed form. -/
def text (p : Percentage) : String := wholeText (p.share * 100) ++ "%"

end Percentage

instance : Quantity Percentage where
  combine? f a b := some ⟨f a.share b.share⟩
  compare? a b := compareNumbers? a.share b.share
  map? _ _ := none
  scale n a := ⟨a.share * n⟩
  amount a := a.share
  textInside _ := Percentage.text

/-- A length or a percentage. -/
inductive LengthPercentage where
  | length (l : Length)
  | percentage (p : Percentage)
  deriving BEq, Repr, Inhabited

namespace LengthPercentage

/-- A length or percentage by its token. -/
def ofToken? (t : Token) : Option LengthPercentage :=
  match Length.ofToken? t with
  | some l => some (.length l)
  | none => (Percentage.ofToken? t).map .percentage

/-- The features that a browser needs to understand a length or percentage. -/
def needs : LengthPercentage → List Feature
  | .length l => l.needs
  | .percentage _ => []

/-- The number in front of the unit, or the share. -/
def amount : LengthPercentage → Float32
  | .length l => l.value
  | .percentage p => p.share

/-- The printed form inside an expression. -/
def textInside : LengthPercentage → String
  | .length l => l.textInside
  | .percentage p => p.text

/-- The printed form. -/
def text : LengthPercentage → String
  | .length l => l.text
  | .percentage p => p.text

end LengthPercentage

instance : Quantity LengthPercentage where
  combine? f
    | .length a, .length b => (a.combine? f b).map .length
    | .percentage a, .percentage b => some (.percentage ⟨f a.share b.share⟩)
    | _, _ => none
  compare?
    | .length a, .length b => a.compare? b
    | .percentage a, .percentage b => compareNumbers? a.share b.share
    | _, _ => none
  map? f
    | .length a => some (.length { a with value := f a.value })
    | .percentage _ => none
  scale n
    | .length a => .length { a with value := a.value * n }
    | .percentage a => .percentage ⟨a.share * n⟩
  amount := LengthPercentage.amount
  textInside _ := LengthPercentage.textInside

/-! ## Angles -/

/-- The units of angles. -/
inductive AngleUnit where
  | degrees
  | radians
  | gradians
  | turns
  deriving DecidableEq, Repr, Inhabited

/-- An angle. -/
structure Angle where
  value : Float32
  unit : AngleUnit
  deriving BEq, Repr, Inhabited

namespace Angle

/-- The ratio of a circle to its diameter. -/
def pi : Float32 := 3.14159265358979

/-- An angle by its token. -/
def ofToken? : Token → Option Angle
  | .dimension n u =>
    match u.toLower with
    | "deg" => some ⟨n.value, .degrees⟩
    | "rad" => some ⟨n.value, .radians⟩
    | "grad" => some ⟨n.value, .gradians⟩
    | "turn" => some ⟨n.value, .turns⟩
    | _ => none
  | _ => none

/-- The angle in degrees. -/
def degrees (a : Angle) : Float32 :=
  match a.unit with
  | .degrees => a.value
  | .radians => a.value * (180 / pi)
  | .gradians => a.value * 180 / 200
  | .turns => a.value * 360

/-- The angle in radians. -/
def radians (a : Angle) : Float32 :=
  match a.unit with
  | .degrees => a.value * (pi / 180)
  | .radians => a.value
  | .gradians => a.value * 180 / 200 * (pi / 180)
  | .turns => a.value * 360 * (pi / 180)

/-- Combine the numbers of two angles, in degrees if the units differ. -/
def combine (f : Float32 → Float32 → Float32) (a b : Angle) : Angle :=
  if a.unit = b.unit then ⟨f a.value b.value, a.unit⟩
  else ⟨f a.degrees b.degrees, .degrees⟩

/-- The printed form; radians are written in degrees. -/
def text (a : Angle) : String :=
  match a.unit with
  | .degrees => unitText a.value "deg"
  | .radians => unitText a.degrees "deg"
  | .gradians => unitText a.value "grad"
  | .turns => unitText a.value "turn"

/-- The printed form where a zero needs no unit. -/
def shortText (a : Angle) : String := if a.value == 0 then "0" else a.text

end Angle

instance : Quantity Angle where
  combine? f a b := some (a.combine f b)
  compare? a b := compareNumbers? a.degrees b.degrees
  map? f a := some { a with value := f a.value }
  scale n a := { a with value := a.value * n }
  amount a := a.value
  textInside _ := Angle.text

/-! ## Times -/

/-- A time in seconds or milliseconds. -/
inductive Time where
  | seconds (value : Float32)
  | milliseconds (value : Float32)
  deriving BEq, Repr, Inhabited

namespace Time

/-- A time by its token. -/
def ofToken? : Token → Option Time
  | .dimension n u =>
    match u.toLower with
    | "s" => some (.seconds n.value)
    | "ms" => some (.milliseconds n.value)
    | _ => none
  | _ => none

/-- The number of a time in its own unit. -/
def amount : Time → Float32
  | .seconds x => x
  | .milliseconds x => x

/-- The time in milliseconds. -/
def inMilliseconds : Time → Float32
  | .seconds x => x * 1000
  | .milliseconds x => x

/-- Change the number of a time. -/
def map (f : Float32 → Float32) : Time → Time
  | .seconds x => .seconds (f x)
  | .milliseconds x => .milliseconds (f x)

/-- Combine the numbers of two times, in the unit of the first. -/
def combine (f : Float32 → Float32 → Float32) : Time → Time → Time
  | .seconds a, .seconds b => .seconds (f a b)
  | .milliseconds a, .milliseconds b => .milliseconds (f a b)
  | .seconds a, .milliseconds b => .seconds (f a (b / 1000))
  | .milliseconds a, .seconds b => .milliseconds (f a (b * 1000))

/-- The printed form, in the shorter of the units. -/
def text : Time → String
  | .seconds x =>
    if 0 < x ∧ x < 0.1 then numberText (x * 1000) ++ "ms" else numberText x ++ "s"
  | .milliseconds x =>
    if x == 0 || 100 ≤ x then numberText (x / 1000) ++ "s" else numberText x ++ "ms"

end Time

instance : Quantity Time where
  combine? f a b := some (a.combine f b)
  compare? a b := compareNumbers? a.inMilliseconds b.inMilliseconds
  map? f a := some (a.map f)
  scale n a := a.map (· * n)
  amount := Time.amount
  textInside _ := Time.text

/-! ## Resolutions -/

/-- The units of resolutions. -/
inductive ResolutionUnit where
  | perInch
  | perCentimetre
  | perPixel
  deriving DecidableEq, Repr, Inhabited

/-- A resolution. -/
structure Resolution where
  value : Float32
  unit : ResolutionUnit
  deriving BEq, Repr, Inhabited

namespace Resolution

/-- A resolution by its token. -/
def ofToken? : Token → Option Resolution
  | .dimension n u =>
    match u.toLower with
    | "dpi" => some ⟨n.value, .perInch⟩
    | "dpcm" => some ⟨n.value, .perCentimetre⟩
    | "dppx" | "x" => some ⟨n.value, .perPixel⟩
    | _ => none
  | _ => none

/-- The number of dots per pixel. -/
def perPixel (r : Resolution) : Float32 :=
  match r.unit with
  | .perInch => r.value / 96
  | .perCentimetre => r.value * 2.54 / 96
  | .perPixel => r.value

/-- The printed form; dots per pixel have a short unit that not all targets know. -/
def text (p : Printing) (r : Resolution) : String :=
  match r.unit with
  | .perInch => unitText r.value "dpi"
  | .perCentimetre => unitText r.value "dpcm"
  | .perPixel =>
    unitText r.value (if Feature.shortResolution.isUsable p.targets then "x" else "dppx")

end Resolution

/-! ## Plain numbers -/

instance : Quantity Float32 where
  combine? f a b := some (f a b)
  compare? := compareNumbers?
  map? f a := some (f a)
  scale n a := a * n
  amount a := a
  textInside _ := numberText

end StyleBuild.Css
