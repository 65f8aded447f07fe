import StyleBuild.Css.Color.Space
import StyleBuild.Css.Printing

/-!
# Colours

A colour is the current text colour, four bytes, a colour of the system, a place in a colour
space, or a pair for light and dark. Bytes are printed in their shortest form: a name, or three,
four, six or eight hexadecimal digits. Coordinates that are not given are printed as `none`.
-/

namespace StyleBuild.Css

/-! ## Names -/

/-- The named colours. -/
def namedColors : List (String × Nat) :=
  [("aliceblue", 0xf0f8ff), ("antiquewhite", 0xfaebd7), ("aqua", 0x00ffff),
   ("aquamarine", 0x7fffd4), ("azure", 0xf0ffff), ("beige", 0xf5f5dc), ("bisque", 0xffe4c4),
   ("black", 0x000000), ("blanchedalmond", 0xffebcd), ("blue", 0x0000ff),
   ("blueviolet", 0x8a2be2), ("brown", 0xa52a2a), ("burlywood", 0xdeb887),
   ("cadetblue", 0x5f9ea0), ("chartreuse", 0x7fff00), ("chocolate", 0xd2691e),
   ("coral", 0xff7f50), ("cornflowerblue", 0x6495ed), ("cornsilk", 0xfff8dc),
   ("crimson", 0xdc143c), ("cyan", 0x00ffff), ("darkblue", 0x00008b), ("darkcyan", 0x008b8b),
   ("darkgoldenrod", 0xb8860b), ("darkgray", 0xa9a9a9), ("darkgreen", 0x006400),
   ("darkgrey", 0xa9a9a9), ("darkkhaki", 0xbdb76b), ("darkmagenta", 0x8b008b),
   ("darkolivegreen", 0x556b2f), ("darkorange", 0xff8c00), ("darkorchid", 0x9932cc),
   ("darkred", 0x8b0000), ("darksalmon", 0xe9967a), ("darkseagreen", 0x8fbc8f),
   ("darkslateblue", 0x483d8b), ("darkslategray", 0x2f4f4f), ("darkslategrey", 0x2f4f4f),
   ("darkturquoise", 0x00ced1), ("darkviolet", 0x9400d3), ("deeppink", 0xff1493),
   ("deepskyblue", 0x00bfff), ("dimgray", 0x696969), ("dimgrey", 0x696969),
   ("dodgerblue", 0x1e90ff), ("firebrick", 0xb22222), ("floralwhite", 0xfffaf0),
   ("forestgreen", 0x228b22), ("fuchsia", 0xff00ff), ("gainsboro", 0xdcdcdc),
   ("ghostwhite", 0xf8f8ff), ("gold", 0xffd700), ("goldenrod", 0xdaa520), ("gray", 0x808080),
   ("green", 0x008000), ("greenyellow", 0xadff2f), ("grey", 0x808080), ("honeydew", 0xf0fff0),
   ("hotpink", 0xff69b4), ("indianred", 0xcd5c5c), ("indigo", 0x4b0082), ("ivory", 0xfffff0),
   ("khaki", 0xf0e68c), ("lavender", 0xe6e6fa), ("lavenderblush", 0xfff0f5),
   ("lawngreen", 0x7cfc00), ("lemonchiffon", 0xfffacd), ("lightblue", 0xadd8e6),
   ("lightcoral", 0xf08080), ("lightcyan", 0xe0ffff), ("lightgoldenrodyellow", 0xfafad2),
   ("lightgray", 0xd3d3d3), ("lightgreen", 0x90ee90), ("lightgrey", 0xd3d3d3),
   ("lightpink", 0xffb6c1), ("lightsalmon", 0xffa07a), ("lightseagreen", 0x20b2aa),
   ("lightskyblue", 0x87cefa), ("lightslategray", 0x778899), ("lightslategrey", 0x778899),
   ("lightsteelblue", 0xb0c4de), ("lightyellow", 0xffffe0), ("lime", 0x00ff00),
   ("limegreen", 0x32cd32), ("linen", 0xfaf0e6), ("magenta", 0xff00ff), ("maroon", 0x800000),
   ("mediumaquamarine", 0x66cdaa), ("mediumblue", 0x0000cd), ("mediumorchid", 0xba55d3),
   ("mediumpurple", 0x9370db), ("mediumseagreen", 0x3cb371), ("mediumslateblue", 0x7b68ee),
   ("mediumspringgreen", 0x00fa9a), ("mediumturquoise", 0x48d1cc),
   ("mediumvioletred", 0xc71585), ("midnightblue", 0x191970), ("mintcream", 0xf5fffa),
   ("mistyrose", 0xffe4e1), ("moccasin", 0xffe4b5), ("navajowhite", 0xffdead),
   ("navy", 0x000080), ("oldlace", 0xfdf5e6), ("olive", 0x808000), ("olivedrab", 0x6b8e23),
   ("orange", 0xffa500), ("orangered", 0xff4500), ("orchid", 0xda70d6),
   ("palegoldenrod", 0xeee8aa), ("palegreen", 0x98fb98), ("paleturquoise", 0xafeeee),
   ("palevioletred", 0xdb7093), ("papayawhip", 0xffefd5), ("peachpuff", 0xffdab9),
   ("peru", 0xcd853f), ("pink", 0xffc0cb), ("plum", 0xdda0dd), ("powderblue", 0xb0e0e6),
   ("purple", 0x800080), ("rebeccapurple", 0x663399), ("red", 0xff0000),
   ("rosybrown", 0xbc8f8f), ("royalblue", 0x4169e1), ("saddlebrown", 0x8b4513),
   ("salmon", 0xfa8072), ("sandybrown", 0xf4a460), ("seagreen", 0x2e8b57),
   ("seashell", 0xfff5ee), ("sienna", 0xa0522d), ("silver", 0xc0c0c0), ("skyblue", 0x87ceeb),
   ("slateblue", 0x6a5acd), ("slategray", 0x708090), ("slategrey", 0x708090),
   ("snow", 0xfffafa), ("springgreen", 0x00ff7f), ("steelblue", 0x4682b4), ("tan", 0xd2b48c),
   ("teal", 0x008080), ("thistle", 0xd8bfd8), ("tomato", 0xff6347), ("turquoise", 0x40e0d0),
   ("violet", 0xee82ee), ("wheat", 0xf5deb3), ("white", 0xffffff), ("whitesmoke", 0xf5f5f5),
   ("yellow", 0xffff00), ("yellowgreen", 0x9acd32)]

/-- The colours that have a short name. -/
def shortColors : List (Nat × String) :=
  [(0x000080, "navy"), (0x008000, "green"), (0x008080, "teal"), (0x4b0082, "indigo"),
   (0x800000, "maroon"), (0x800080, "purple"), (0x808000, "olive"), (0x808080, "gray"),
   (0xa0522d, "sienna"), (0xa52a2a, "brown"), (0xc0c0c0, "silver"), (0xcd853f, "peru"),
   (0xd2b48c, "tan"), (0xda70d6, "orchid"), (0xdda0dd, "plum"), (0xee82ee, "violet"),
   (0xf0e68c, "khaki"), (0xf0ffff, "azure"), (0xf5deb3, "wheat"), (0xf5f5dc, "beige"),
   (0xfa8072, "salmon"), (0xfaf0e6, "linen"), (0xff0000, "red"), (0xff6347, "tomato"),
   (0xff7f50, "coral"), (0xffa500, "orange"), (0xffc0cb, "pink"), (0xffd700, "gold"),
   (0xffe4c4, "bisque"), (0xfffafa, "snow"), (0xfffff0, "ivory")]

/-! ## Colours -/

/-- A colour; `alpha` is 255 or one when opaque. -/
inductive Color where
  | current
  | rgba (red green blue alpha : Nat)
  | system (name : String)
  | placed (space : ColorSpace) (place : Coordinates) (alpha : Float32)
  | lightDark (light dark : Color)
  deriving BEq, Repr, Inhabited

namespace Color

/-- An opaque colour by its value `0xRRGGBB`. -/
def ofNat (n : Nat) : Color := .rgba (n / 65536 % 256) (n / 256 % 256) (n % 256) 255

/-- The colours of the system, in lower case. -/
def systemNames : List String :=
  ["accentcolor", "accentcolortext", "activetext", "buttonborder", "buttonface", "buttontext",
   "canvas", "canvastext", "field", "fieldtext", "graytext", "highlight", "highlighttext",
   "linktext", "mark", "marktext", "selecteditem", "selecteditemtext", "visitedtext",
   "activeborder", "activecaption", "appworkspace", "background", "buttonhighlight",
   "buttonshadow", "captiontext", "inactiveborder", "inactivecaption", "inactivecaptiontext",
   "infobackground", "infotext", "menu", "menutext", "scrollbar", "threeddarkshadow",
   "threedface", "threedhighlight", "threedlightshadow", "threedshadow", "window",
   "windowframe", "windowtext"]

/-- A colour by its name. -/
def ofName? (name : String) : Option Color :=
  match name.toLower with
  | "currentcolor" => some .current
  | "transparent" => some (.rgba 0 0 0 0)
  | n =>
    match namedColors.lookup n with
    | some value => some (ofNat value)
    | none => if systemNames.contains n then some (.system n) else none

/-- A colour by its hexadecimal digits. -/
def ofHex? (digits : List Char) : Option Color :=
  let v (cs : List Char) : Nat := valueOfDigits 16 cs
  if !digits.all isHexDigit then none
  else match digits with
    | [r, g, b] => some (.rgba (v [r, r]) (v [g, g]) (v [b, b]) 255)
    | [r, g, b, a] => some (.rgba (v [r, r]) (v [g, g]) (v [b, b]) (v [a, a]))
    | [r, r', g, g', b, b'] => some (.rgba (v [r, r']) (v [g, g']) (v [b, b']) 255)
    | [r, r', g, g', b, b', a, a'] =>
      some (.rgba (v [r, r']) (v [g, g']) (v [b, b']) (v [a, a']))
    | _ => none

/-- The whole number nearest to a number, from 0 to 255. -/
def byteOf (x : Float32) : Nat := min 255 (clampedInt (roundTo .nearest x)).toNat

/-- The byte of a share of one. -/
def byteOfShare (x : Float32) : Nat := byteOf (orZero x * 255)

/-- Bytes for shares of red, green and blue. -/
def ofShares (c : Coordinates) (alpha : Float32) : Color :=
  .rgba (byteOfShare c.x) (byteOfShare c.y) (byteOfShare c.z) (byteOfShare alpha)

/-- Bytes for a place of a space; what they cannot show is brought into their gamut. -/
def ofPlace (s : ColorSpace) (c : Coordinates) (alpha : Float32) : Color :=
  ofShares (ColorSpace.rgb.fit (s.convert .rgb (c.map orZero))) alpha

/-- Place and opacity of a colour in a space; names and pairs have none. -/
def inSpace? (target : ColorSpace) : Color → Option (Coordinates × Float32)
  | .rgba r g b a =>
    let share (n : Nat) : Float32 := numberOfInt n / 255
    some (ColorSpace.convert .rgb target ⟨share r, share g, share b⟩, share a)
  | .placed s c a => some (s.convert target c, a)
  | _ => none

/-! ## Pairs -/

/-- Whether a colour is a pair. -/
def isPair : Color → Bool
  | .lightDark _ _ => true
  | _ => false

/-- The colour for light. -/
def light : Color → Color
  | .lightDark a _ => a
  | c => c

/-- The colour for dark. -/
def dark : Color → Color
  | .lightDark _ b => b
  | c => c

/-! ## Printing -/

/-- The pairs of equal digits in a byte. -/
def isDouble (n : Nat) : Bool := n / 16 == n % 16

/-- The share of opacity with two places, or three if two do not give the byte back. -/
def alphaText (alpha : Nat) : String :=
  let share : Float32 := numberOfInt alpha / 255
  let hundredths := roundTo .nearest (share * 100) / 100
  if byteOf (hundredths * 255) = alpha then numberText hundredths
  else numberText (roundTo .nearest (share * 1000) / 1000)

/-- The printed form of four bytes. -/
def bytesText (p : Printing) (r g b a : Nat) : String :=
  let value := (r * 256 + g) * 256 + b
  let short := isDouble r && isDouble g && isDouble b
  if a = 255 then
    match shortColors.lookup value with
    | some name => name
    | none =>
      if short then "#" ++ hexText (r % 16) ++ hexText (g % 16) ++ hexText (b % 16)
      else "#" ++ hexPadded 6 value
  else if !Feature.hexAlphaColors.isUsable p.targets then
    if p.layout = .compact ∧ value = 0 ∧ a = 0 then "transparent"
    else
      "rgba(" ++ p.layout.commas [decimalText r, decimalText g, decimalText b, alphaText a] ++ ")"
  else if short && isDouble a then
    "#" ++ hexText (r % 16) ++ hexText (g % 16) ++ hexText (b % 16) ++ hexText (a % 16)
  else "#" ++ hexPadded 6 value ++ hexPadded 2 a

/-- A coordinate, which may be missing. -/
def coordinateText (x : Float32) : String := if x == x then numberText x else "none"

/-- A lightness, which may be missing, as a percentage. -/
def lightnessText (share : Float32) : String :=
  if share == share then (Percentage.mk share).text else "none"

/-- Coordinates between parentheses, with the opacity behind a slash unless it is one. -/
def placeText (p : Printing) (head : String) (parts : List String) (alpha : Float32) : String :=
  head ++ String.intercalate " " parts ++
    (if (alpha - 1).abs ≤ 1.1920929e-7 then "" else p.layout.around "/" ++ coordinateText alpha) ++
    ")"

/-- The printed form. -/
def text (p : Printing) : Color → String
  | .current => "currentColor"
  | .rgba r g b a => bytesText p r g b a
  | .system n => n
  | .placed s c alpha =>
    let light (scale : Float32) : String :=
      placeText p (s.name ++ "(")
        [lightnessText (c.x / scale), coordinateText c.y, coordinateText c.z] alpha
    match s with
    | .rgb | .hsl | .hwb =>
      match ofPlace s c alpha with
      | .rgba r g b a => bytesText p r g b a
      | _ => ""
    | .lab | .lch => light 100
    | .oklab | .oklch => light 1
    | s =>
      placeText p ("color(" ++ s.name ++ " ")
        [coordinateText c.x, coordinateText c.y, coordinateText c.z] alpha
  | .lightDark a b =>
    if a == b then a.text p
    else if p.lacks .lightDark then
      "var(--lightningcss-light" ++ p.layout.after "," ++ a.text p ++ ")" ++ p.layout.space ++
        "var(--lightningcss-dark" ++ p.layout.after "," ++ b.text p ++ ")"
    else "light-dark(" ++ p.layout.commas [a.text p, b.text p] ++ ")"

end Color

end StyleBuild.Css
