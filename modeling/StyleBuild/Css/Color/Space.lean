import StyleBuild.Css.Quantity

/-!
# Colour spaces

A colour space gives meaning to three coordinates. `ColorSpace.convert` goes from one space to
another: the spaces that share an encoding are neighbours, and all others meet at the tristimulus
values of the day light D65.

The coordinates of some spaces have bounds, and what lies inside of them is the gamut of the
space. `ColorSpace.fit` brings a colour into the gamut: it takes chroma away, at the same lightness
and hue, until the colour differs from one inside by less than can be noticed.
-/

namespace StyleBuild.Css

/-- The spaces in which a colour may be given. `rgb` and `srgb` have the same coordinates; a
colour of the first is printed as bytes. Saturation, whiteness and the like are shares of one. -/
inductive ColorSpace where
  | rgb
  | hsl
  | hwb
  | srgb
  | srgbLinear
  | displayP3
  | a98Rgb
  | proPhotoRgb
  | rec2020
  | xyzD50
  | xyzD65
  | lab
  | lch
  | oklab
  | oklch
  deriving DecidableEq, Repr, Inhabited

/-- What a coordinate is where it is used by its name. -/
inductive ChannelKind where
  | angle
  | number
  | percentage
  deriving DecidableEq, Repr, Inhabited

/-- Three coordinates. -/
structure Coordinates where
  x : Float32
  y : Float32
  z : Float32
  deriving BEq, Repr, Inhabited

/-- A linear map of coordinates, by rows. -/
structure ColorMatrix where
  row₁ : Coordinates
  row₂ : Coordinates
  row₃ : Coordinates

/-- A number that is not given has the value zero. -/
def orZero (x : Float32) : Float32 := if x == x then x else 0

namespace Coordinates

/-- The value of a row at coordinates. -/
def dot (row c : Coordinates) : Float32 := row.x * c.x + row.y * c.y + row.z * c.z

/-- Apply a function to each coordinate. -/
def map (f : Float32 → Float32) (c : Coordinates) : Coordinates := ⟨f c.x, f c.y, f c.z⟩

end Coordinates

/-- Apply a linear map. -/
def ColorMatrix.apply (m : ColorMatrix) (c : Coordinates) : Coordinates :=
  ⟨m.row₁.dot c, m.row₂.dot c, m.row₃.dot c⟩

namespace ColorSpace

/-- A space by its name in `color()`. -/
def ofProfileName? (name : String) : Option ColorSpace :=
  match name.toLower with
  | "srgb" => some .srgb
  | "srgb-linear" => some .srgbLinear
  | "display-p3" => some .displayP3
  | "a98-rgb" => some .a98Rgb
  | "prophoto-rgb" => some .proPhotoRgb
  | "rec2020" => some .rec2020
  | "xyz-d50" => some .xyzD50
  | "xyz" | "xyz-d65" => some .xyzD65
  | _ => none

/-- A space by its name in `color-mix()`. -/
def ofMixName? (name : String) : Option ColorSpace :=
  match name.toLower with
  | "srgb" => some .rgb
  | "srgb-linear" => some .srgbLinear
  | "lab" => some .lab
  | "oklab" => some .oklab
  | "xyz" | "xyz-d65" => some .xyzD65
  | "xyz-d50" => some .xyzD50
  | "hsl" => some .hsl
  | "hwb" => some .hwb
  | "lch" => some .lch
  | "oklch" => some .oklch
  | _ => none

/-- The name of a space as printed. -/
def name : ColorSpace → String
  | .rgb => "rgb"
  | .hsl => "hsl"
  | .hwb => "hwb"
  | .srgb => "srgb"
  | .srgbLinear => "srgb-linear"
  | .displayP3 => "display-p3"
  | .a98Rgb => "a98-rgb"
  | .proPhotoRgb => "prophoto-rgb"
  | .rec2020 => "rec2020"
  | .xyzD50 => "xyz-d50"
  | .xyzD65 => "xyz"
  | .lab => "lab"
  | .lch => "lch"
  | .oklab => "oklab"
  | .oklch => "oklch"

/-- The names of the coordinates, and what they are. -/
def channels : ColorSpace → List (String × ChannelKind)
  | .hsl => [("h", .angle), ("s", .percentage), ("l", .percentage)]
  | .hwb => [("h", .angle), ("w", .percentage), ("b", .percentage)]
  | .xyzD50 | .xyzD65 => [("x", .number), ("y", .number), ("z", .number)]
  | .lab | .oklab => [("l", .number), ("a", .number), ("b", .number)]
  | .lch | .oklch => [("l", .number), ("c", .number), ("h", .angle)]
  | _ => [("r", .number), ("g", .number), ("b", .number)]

/-! ## Transfer functions -/

/-- A function of the absolute value, with the sign put back. -/
def signed (f : Float32 → Float32) (x : Float32) : Float32 := if x < 0 then -f x.abs else f x.abs

/-- From an encoded to a linear share of sRGB. -/
def linearShare : Float32 → Float32 :=
  signed fun x => if x < 0.04045 then x / 12.92 else ((x + 0.055) / 1.055).pow 2.4

/-- From a linear to an encoded share of sRGB. -/
def encodedShare : Float32 → Float32 :=
  signed fun x => if x ≤ 0.0031308 then x * 12.92 else 1.055 * x.pow (1 / 2.4) - 0.055

/-- Linear shares of the space with the gamma value 563/256. -/
def linearA98 : Float32 → Float32 := signed fun x => x.pow (563 / 256)

/-- Encoded shares of the space with the gamma value 563/256. -/
def encodedA98 : Float32 → Float32 := signed fun x => x.pow (256 / 563)

/-- Linear shares of the wide space with the gamma value 1.8. -/
def linearProPhoto : Float32 → Float32 :=
  signed fun x => if x ≤ 16 / 512 then x / 16 else x.pow 1.8

/-- Encoded shares of the wide space with the gamma value 1.8. -/
def encodedProPhoto : Float32 → Float32 :=
  signed fun x => if 1 / 512 ≤ x then x.pow (1 / 1.8) else x * 16

/-- The constants of the transfer function of ultra high definition television. -/
def televisionScale : Float32 := 1.09929682680944

/-- The share below which that function is linear. -/
def televisionKnee : Float32 := 0.018053968510807

/-- Linear shares of ultra high definition television. -/
def linearTelevision : Float32 → Float32 :=
  signed fun x =>
    if x < televisionKnee * 4.5 then x / 4.5
    else ((x + televisionScale - 1) / televisionScale).pow (1 / 0.45)

/-- Encoded shares of ultra high definition television. -/
def encodedTelevision : Float32 → Float32 :=
  signed fun x =>
    if televisionKnee < x then televisionScale * x.pow 0.45 - (televisionScale - 1) else 4.5 * x

/-! ## Linear maps -/

/-- From linear sRGB to tristimulus values. -/
def srgbToXyz : ColorMatrix where
  row₁ := ⟨0.41239079926595934, 0.357584339383878, 0.1804807884018343⟩
  row₂ := ⟨0.21263900587151027, 0.715168678767756, 0.07219231536073371⟩
  row₃ := ⟨0.01933081871559182, 0.11919477979462598, 0.9505321522496607⟩

/-- From tristimulus values to linear sRGB. -/
def xyzToSrgb : ColorMatrix where
  row₁ := ⟨3.2409699419045226, -1.537383177570094, -0.4986107602930034⟩
  row₂ := ⟨-0.9692436362808796, 1.8759675015077202, 0.04155505740717559⟩
  row₃ := ⟨0.05563007969699366, -0.20397695888897652, 1.0569715142428786⟩

/-- From linear Display P3 to tristimulus values. -/
def p3ToXyz : ColorMatrix where
  row₁ := ⟨0.4865709486482162, 0.26566769316909306, 0.1982172852343625⟩
  row₂ := ⟨0.2289745640697488, 0.6917385218365064, 0.079286914093745⟩
  row₃ := ⟨0, 0.04511338185890264, 1.043944368900976⟩

/-- From tristimulus values to linear Display P3. -/
def xyzToP3 : ColorMatrix where
  row₁ := ⟨2.493496911941425, -0.9313836179191239, -0.40271078445071684⟩
  row₂ := ⟨-0.8294889695615747, 1.7626640603183463, 0.023624685841943577⟩
  row₃ := ⟨0.03584583024378447, -0.07617238926804182, 0.9568845240076872⟩

/-- From linear A98 to tristimulus values. -/
def a98ToXyz : ColorMatrix where
  row₁ := ⟨0.5766690429101305, 0.1855582379065463, 0.1882286462349947⟩
  row₂ := ⟨0.29734497525053605, 0.6273635662554661, 0.07529145849399788⟩
  row₃ := ⟨0.02703136138641234, 0.07068885253582723, 0.9913375368376388⟩

/-- From tristimulus values to linear A98. -/
def xyzToA98 : ColorMatrix where
  row₁ := ⟨2.0415879038107465, -0.5650069742788596, -0.34473135077832956⟩
  row₂ := ⟨-0.9692436362808795, 1.8759675015077202, 0.04155505740717557⟩
  row₃ := ⟨0.013444280632031142, -0.11836239223101838, 1.0151749943912054⟩

/-- From linear ProPhoto to tristimulus values of D50. -/
def proPhotoToXyz : ColorMatrix where
  row₁ := ⟨0.7977604896723027, 0.13518583717574031, 0.0313493495815248⟩
  row₂ := ⟨0.2880711282292934, 0.7118432178101014, 0.00008565396060525902⟩
  row₃ := ⟨0, 0, 0.8251046025104601⟩

/-- From tristimulus values of D50 to linear ProPhoto. -/
def xyzToProPhoto : ColorMatrix where
  row₁ := ⟨1.3457989731028281, -0.25558010007997534, -0.05110628506753401⟩
  row₂ := ⟨-0.5446224939028347, 1.5082327413132781, 0.02053603239147973⟩
  row₃ := ⟨0, 0, 1.2119675456389454⟩

/-- From linear Rec. 2020 to tristimulus values. -/
def rec2020ToXyz : ColorMatrix where
  row₁ := ⟨0.6369580483012914, 0.14461690358620832, 0.1688809751641721⟩
  row₂ := ⟨0.2627002120112671, 0.6779980715188708, 0.05930171646986196⟩
  row₃ := ⟨0, 0.028072693049087428, 1.060985057710791⟩

/-- From tristimulus values to linear Rec. 2020. -/
def xyzToRec2020 : ColorMatrix where
  row₁ := ⟨1.7166511879712674, -0.35567078377639233, -0.25336628137365974⟩
  row₂ := ⟨-0.6666843518324892, 1.6164812366349395, 0.01576854581391113⟩
  row₃ := ⟨0.017639857445310783, -0.042770613257808524, 0.9421031212354738⟩

/-- From the white of D65 to that of D50. -/
def toD50 : ColorMatrix where
  row₁ := ⟨1.0479298208405488, 0.022946793341019088, -0.05019222954313557⟩
  row₂ := ⟨0.029627815688159344, 0.990434484573249, -0.01707382502938514⟩
  row₃ := ⟨-0.009243058152591178, 0.015055144896577895, 0.7518742899580008⟩

/-- From the white of D50 to that of D65. -/
def toD65 : ColorMatrix where
  row₁ := ⟨0.9554734527042182, -0.023098536874261423, 0.0632593086610217⟩
  row₂ := ⟨-0.028369706963208136, 1.0099954580058226, 0.021041398966943008⟩
  row₃ := ⟨0.012314001688319899, -0.020507696433477912, 1.3303659366080753⟩

/-- From tristimulus values to the responses of the cones. -/
def xyzToCones : ColorMatrix where
  row₁ := ⟨0.8190224432164319, 0.3619062562801221, -0.12887378261216414⟩
  row₂ := ⟨0.0329836671980271, 0.9292868468965546, 0.03614466816999844⟩
  row₃ := ⟨0.048177199566046255, 0.26423952494422764, 0.6335478258136937⟩

/-- From cube roots of the responses of the cones to Oklab. -/
def conesToOklab : ColorMatrix where
  row₁ := ⟨0.2104542553, 0.7936177850, -0.0040720468⟩
  row₂ := ⟨1.9779984951, -2.4285922050, 0.4505937099⟩
  row₃ := ⟨0.0259040371, 0.7827717662, -0.8086757660⟩

/-- From Oklab to cube roots of the responses of the cones. -/
def oklabToCones : ColorMatrix where
  row₁ := ⟨0.99999999845051981432, 0.39633779217376785678, 0.21580375806075880339⟩
  row₂ := ⟨1.0000000088817607767, -0.1055613423236563494, -0.063854174771705903402⟩
  row₃ := ⟨1.0000000546724109177, -0.089484182094965759684, -1.2914855378640917399⟩

/-- From the responses of the cones to tristimulus values. -/
def conesToXyz : ColorMatrix where
  row₁ := ⟨1.2268798733741557, -0.5578149965554813, 0.28139105017721583⟩
  row₂ := ⟨-0.04057576262431372, 1.1122868293970594, -0.07171106666151701⟩
  row₃ := ⟨-0.07637294974672142, -0.4214933239627914, 1.5869240244272418⟩

/-! ## Cylinders -/

/-- From two opposed axes to chroma and hue in degrees. -/
def toPolar (c : Coordinates) : Coordinates :=
  let hue := Float32.atan2 c.z c.y * 180 / Angle.pi
  ⟨c.x, Float32.sqrt (c.y * c.y + c.z * c.z), if hue < 0 then hue + 360 else hue⟩

/-- From chroma and hue to two opposed axes. -/
def ofPolar (c : Coordinates) : Coordinates :=
  let hue := c.z * Angle.pi / 180
  ⟨c.x, c.y * Float32.cos hue, c.y * Float32.sin hue⟩

/-- The greater number. -/
def greater (a b : Float32) : Float32 := if a < b then b else a

/-- The lesser number. -/
def lesser (a b : Float32) : Float32 := if b < a then b else a

/-- From shares of red, green and blue to hue, saturation and lightness; a gray has no hue. -/
def toHsl (c : Coordinates) : Coordinates :=
  let high := greater (greater c.x c.y) c.z
  let low := lesser (lesser c.x c.y) c.z
  let light := (low + high) / 2
  let range := high - low
  if range == 0 then ⟨0 / 0, 0, light⟩
  else
    let saturation :=
      if light == 0 || light == 1 then 0 else (high - light) / lesser light (1 - light)
    let sixth :=
      if high == c.x then (c.y - c.z) / range + (if c.y < c.z then 6 else 0)
      else if high == c.y then (c.z - c.x) / range + 2
      else (c.x - c.y) / range + 4
    ⟨sixth * 60, saturation, light⟩

/-- One share by its place on the wheel, three for a full turn. -/
def wheelShare (low high turn : Float32) : Float32 :=
  let h := if turn < 0 then turn + 3 else turn
  let h := if 3 < h then h - 3 else h
  if h * 2 < 1 then low + (high - low) * h * 2
  else if h * 2 < 3 then high
  else if h < 2 then low + (high - low) * (2 - h) * 2
  else low

/-- From hue, saturation and lightness to shares of red, green and blue. -/
def ofHsl (c : Coordinates) : Coordinates :=
  let turn := (c.x - 360 * roundTo .down (c.x / 360)) / 360
  let high := if c.z ≤ 0.5 then c.z * (c.y + 1) else c.z + c.y - c.z * c.y
  let low := c.z * 2 - high
  ⟨wheelShare low high (turn * 3 + 1), wheelShare low high (turn * 3),
    wheelShare low high (turn * 3 - 1)⟩

/-- From shares of red, green and blue to hue, whiteness and blackness. -/
def toHwb (c : Coordinates) : Coordinates :=
  ⟨(toHsl c).x, lesser (lesser c.x c.y) c.z, 1 - greater (greater c.x c.y) c.z⟩

/-- From hue, whiteness and blackness to shares of red, green and blue. -/
def ofHwb (c : Coordinates) : Coordinates :=
  if 1 ≤ c.y + c.z then
    let gray := c.y / (c.y + c.z)
    ⟨gray, gray, gray⟩
  else (ofHsl ⟨c.x, 1, 0.5⟩).map fun share => share * (1 - c.y - c.z) + c.y

/-! ## Lightness with opposed axes -/

/-- The share below which lightness is linear. -/
def labKnee : Float32 := 216 / 24389

/-- The slope of lightness near black. -/
def labSlope : Float32 := 24389 / 27

/-- The tristimulus values of the white of D50. -/
def whiteD50 : Coordinates := ⟨0.3457 / 0.3585, 1, (1 - 0.3457 - 0.3585) / 0.3585⟩

/-- From tristimulus values of D50 to Lab. -/
def toLab (c : Coordinates) : Coordinates :=
  let f (x : Float32) : Float32 :=
    if labKnee < x then x.cbrt else (labSlope * x + 16) / 116
  let x := f (c.x / whiteD50.x)
  let y := f (c.y / whiteD50.y)
  let z := f (c.z / whiteD50.z)
  ⟨116 * y - 16, 500 * (x - y), 200 * (y - z)⟩

/-- From Lab to tristimulus values of D50. -/
def ofLab (c : Coordinates) : Coordinates :=
  let y := (c.x + 16) / 116
  let x := c.y / 500 + y
  let z := y - c.z / 200
  let f (t : Float32) : Float32 :=
    if labKnee < t * t * t then t * t * t else (116 * t - 16) / labSlope
  ⟨f x * whiteD50.x, (if labSlope * labKnee < c.x then y * y * y else c.x / labSlope) * whiteD50.y,
    f z * whiteD50.z⟩

/-- From tristimulus values to Oklab. -/
def toOklab (c : Coordinates) : Coordinates :=
  conesToOklab.apply ((xyzToCones.apply c).map Float32.cbrt)

/-- From Oklab to tristimulus values. -/
def ofOklab (c : Coordinates) : Coordinates :=
  conesToXyz.apply ((oklabToCones.apply c).map fun x => x * x * x)

/-! ## Conversion -/

/-- The shares of red, green and blue, for the spaces that are made of them. -/
def toRgb? (s : ColorSpace) (c : Coordinates) : Option Coordinates :=
  match s with
  | .rgb | .srgb => some c
  | .hsl => some (ofHsl c)
  | .hwb => some (ofHwb c)
  | _ => none

/-- From shares of red, green and blue to a space that is made of them. -/
def ofRgb? (s : ColorSpace) (c : Coordinates) : Option Coordinates :=
  match s with
  | .rgb | .srgb => some c
  | .hsl => some (toHsl c)
  | .hwb => some (toHwb c)
  | _ => none

/-- The tristimulus values of D65. -/
def toXyz (s : ColorSpace) (c : Coordinates) : Coordinates :=
  match s with
  | .rgb | .srgb => srgbToXyz.apply (c.map linearShare)
  | .hsl => srgbToXyz.apply ((ofHsl c).map linearShare)
  | .hwb => srgbToXyz.apply ((ofHwb c).map linearShare)
  | .srgbLinear => srgbToXyz.apply c
  | .displayP3 => p3ToXyz.apply (c.map linearShare)
  | .a98Rgb => a98ToXyz.apply (c.map linearA98)
  | .proPhotoRgb => toD65.apply (proPhotoToXyz.apply (c.map linearProPhoto))
  | .rec2020 => rec2020ToXyz.apply (c.map linearTelevision)
  | .xyzD50 => toD65.apply c
  | .xyzD65 => c
  | .lab => toD65.apply (ofLab c)
  | .lch => toD65.apply (ofLab (ofPolar c))
  | .oklab => ofOklab c
  | .oklch => ofOklab (ofPolar c)

/-- From tristimulus values of D65 to a space. -/
def ofXyz (s : ColorSpace) (c : Coordinates) : Coordinates :=
  match s with
  | .rgb | .srgb => (xyzToSrgb.apply c).map encodedShare
  | .hsl => toHsl ((xyzToSrgb.apply c).map encodedShare)
  | .hwb => toHwb ((xyzToSrgb.apply c).map encodedShare)
  | .srgbLinear => xyzToSrgb.apply c
  | .displayP3 => (xyzToP3.apply c).map encodedShare
  | .a98Rgb => (xyzToA98.apply c).map encodedA98
  | .proPhotoRgb => (xyzToProPhoto.apply (toD50.apply c)).map encodedProPhoto
  | .rec2020 => (xyzToRec2020.apply c).map encodedTelevision
  | .xyzD50 => toD50.apply c
  | .xyzD65 => c
  | .lab => toLab (toD50.apply c)
  | .lch => toPolar (toLab (toD50.apply c))
  | .oklab => toOklab c
  | .oklch => toPolar (toOklab c)

/-- The coordinates of one space in another; coordinates that are not given count as zero. -/
def convert (source target : ColorSpace) (c : Coordinates) : Coordinates :=
  if source = target then c
  else
    let c := c.map orZero
    match source, target with
    | .lab, .lch => toPolar c
    | .lch, .lab => ofPolar c
    | .oklab, .oklch => toPolar c
    | .oklch, .oklab => ofPolar c
    | _, _ =>
      match source.toRgb? c with
      | some shares => (target.ofRgb? shares).getD (target.ofXyz (toXyz .rgb shares))
      | none => target.ofXyz (source.toXyz c)

end ColorSpace

/-! ## Gamuts -/

/-- A number held between two bounds; what is missing stays so. -/
def heldBetween (low high x : Float32) : Float32 :=
  if x < low then low else if high < x then high else x

namespace ColorSpace

/-- Which coordinates of a space are shares of one. -/
def bounded : ColorSpace → Bool × Bool × Bool
  | .rgb | .srgb | .srgbLinear | .displayP3 | .a98Rgb | .proPhotoRgb | .rec2020 =>
    (true, true, true)
  | .hsl | .hwb => (false, true, true)
  | .xyzD50 | .xyzD65 | .lab | .lch | .oklab | .oklch => (false, false, false)

/-- Whether a place lies in the gamut of a space. -/
def isInGamut (s : ColorSpace) (c : Coordinates) : Bool :=
  let inside (isBounded : Bool) (x : Float32) : Bool := !isBounded || (0 ≤ x && x ≤ 1)
  let (a, b, d) := s.bounded
  inside a c.x && inside b c.y && inside d c.z

/-- A place with each coordinate moved to the nearest one in the gamut. -/
def clip (s : ColorSpace) (c : Coordinates) : Coordinates :=
  let hold (isBounded : Bool) (x : Float32) : Float32 := if isBounded then heldBetween 0 1 x else x
  let (a, b, d) := s.bounded
  match s with
  | .hsl | .hwb => ⟨remainder c.x 360, hold b c.y, hold d c.z⟩
  | _ => ⟨hold a c.x, hold b c.y, hold d c.z⟩

/-- How far two colours are apart, as places of Oklab. -/
def oklabDistance (a b : Coordinates) : Float32 :=
  let square (x : Float32) : Float32 := x * x
  Float32.sqrt (square (a.x - b.x) + square (a.y - b.y) + square (a.z - b.z))

/-- The distance that can just be noticed. -/
def noticeable : Float32 := 0.02

/-- The step at which the search for a chroma ends. -/
def chromaStep : Float32 := 0.00001

/-- Search the greatest chroma in the gamut between two bounds. `last` is the colour of the last
step, as a place of the polar form of Oklab; the first number bounds the steps. -/
def searchChroma (s : ColorSpace) : Nat → Float32 → Float32 → Coordinates → Coordinates
  | 0, _, _, last => convert .oklch s last
  | steps + 1, low, high, last =>
    if !(chromaStep < high - low) then convert .oklch s last
    else
      let chroma := (low + high) / 2
      let last : Coordinates := { last with y := chroma }
      let found := convert .oklch s last
      if s.isInGamut found then searchChroma s steps chroma high last
      else
        let clipped := s.clip found
        if oklabDistance (convert s .oklab clipped) (convert .oklch .oklab last) < noticeable then
          clipped
        else searchChroma s steps low chroma last

/-- The place in the gamut that stands for a place outside of it. -/
def intoGamut (s : ColorSpace) (c : Coordinates) : Coordinates :=
  let polar := convert s .oklch c
  if (polar.x - 1).abs < chromaStep || 1 < polar.x then convert .oklch s ⟨1, 0, 0⟩
  else if polar.x < chromaStep then convert .oklch s ⟨0, 0, 0⟩
  else searchChroma s 200 0 polar.y polar

/-- A place in the gamut stays, and one outside of it is moved there. -/
def fit (s : ColorSpace) (c : Coordinates) : Coordinates :=
  if s.isInGamut c then c else s.intoGamut c

end ColorSpace

end StyleBuild.Css
