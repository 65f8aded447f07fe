import StyleBuild.Css.Family
import StyleBuild.Css.Raw
import StyleBuild.Css.SyntaxError
import StyleBuild.Text.Blank

/-!
# Font faces

The descriptors of `@font-face`: what the face is called, where it is found, and which weights,
styles, widths and characters it has. A descriptor that is not understood is kept raw, and one
with a fault is left out.
-/

namespace StyleBuild.Css

/-- A value in front, and perhaps a second one; without it both are equal. -/
def readSpan {α : Type} (read : Components → Option (α × Components)) (cs : Components) :
    Option ((α × α) × Components) := do
  let (a, rest) ← read cs
  match read rest with
  | some (b, rest) => return ((a, b), rest)
  | none => return ((a, a), rest)

/-- Two values, written once if they are equal. -/
def spanText {α : Type} [BEq α] (text : α → String) (low high : α) : String :=
  if low == high then text low else text low ++ " " ++ text high

/-! ## Sources -/

/-- Where a font is found. -/
inductive FontSource where
  | remote (address : String) (format : Option String) (technologies : List String)
  | installed (name : Family)
  deriving BEq, Repr, Inhabited

namespace FontSource

/-- The formats that are known. -/
def formats : List String :=
  ["woff", "woff2", "truetype", "opentype", "embedded-opentype", "collection", "svg"]

/-- The technologies that are known. -/
def technologies : List String :=
  ["features-opentype", "features-aat", "features-graphite", "incremental-patch", "color-colrv0",
   "color-colrv1", "color-svg", "color-sbix", "color-cbdt", "variations", "palettes",
   "incremental"]

/-- The name of a format, which fills a level. -/
def readFormat? (cs : Components) : Option String :=
  let named (n : String) (rest : Components) : Option String :=
    if !rest.isBlank then none
    else if formats.contains n.toLower then some n.toLower else some n
  match cs.skipBlank with
  | .token (.ident n) _ rest => named n rest
  | .token (.quoted n) _ rest => named n rest
  | _ => none

/-- The body of a function of a name in front, and what follows. -/
def call? (name : String) (cs : Components) : Option (Components × Components) :=
  match cs.skipBlank with
  | .block (.function f) _ body rest => if f.toLower = name then some (body, rest) else none
  | _ => none

/-- Read a source that fills a level. -/
def read? (cs : Components) : Option FontSource :=
  match readUrlAddress cs with
  | .ok (address, rest) => do
    let (format, rest) ← match call? "format" rest with
      | some (body, rest) => (readFormat? body).map fun f => (some f, rest)
      | none => some (none, rest)
    let (known, rest) ← match call? "tech" rest with
      | some (body, rest) =>
        (body.splitCommas.mapM fun piece => whole? (readKeywordOf technologies piece)).map (·, rest)
      | none => some ([], rest)
    if rest.isBlank then some (.remote address format known) else none
  | .error _ =>
    match call? "local" cs with
    | some (body, rest) => if rest.isBlank then (Family.read? body).map .installed else none
    | none => none

/-- The printed form. -/
def text (l : Layout) : FontSource → String
  | .remote address format known =>
    writeUrl l address ++
      (match format with
       | some f => l.space ++ "format(" ++ writeQuoted f ++ ")"
       | none => "") ++
      (if known.isEmpty then "" else l.space ++ "tech(" ++ l.commas known ++ ")")
  | .installed name => "local(" ++ name.text ++ ")"

end FontSource

/-! ## Weight, style and width -/

/-- A weight of a font. -/
inductive FontWeight where
  | number (x : Float32)
  | normal
  | bold
  | bolder
  | lighter
  deriving BEq, Repr, Inhabited

namespace FontWeight

/-- The weight in front, and what follows. -/
def read (cs : Components) : Option (FontWeight × Components) :=
  match readNumberValue cs with
  | some (x, rest) => some (.number x, rest)
  | none =>
    match readKeyword cs with
    | some ("normal", rest) => some (.normal, rest)
    | some ("bold", rest) => some (.bold, rest)
    | some ("bolder", rest) => some (.bolder, rest)
    | some ("lighter", rest) => some (.lighter, rest)
    | _ => none

/-- The printed form. -/
def text (l : Layout) : FontWeight → String
  | .number x => numberText x
  | .normal => if l = .compact then "400" else "normal"
  | .bold => if l = .compact then "700" else "bold"
  | .bolder => "bolder"
  | .lighter => "lighter"

end FontWeight

/-- A style of a font. -/
inductive FontStyle where
  | normal
  | italic
  | oblique (low high : Angle)
  deriving BEq, Repr, Inhabited

namespace FontStyle

/-- The slant of an oblique font that names none. -/
def slant : Angle := ⟨14, .degrees⟩

/-- Read a style that fills a level. -/
def read? (cs : Components) : Option FontStyle :=
  match readKeyword cs with
  | some ("normal", rest) => if rest.isBlank then some .normal else none
  | some ("italic", rest) => if rest.isBlank then some .italic else none
  | some ("oblique", rest) =>
    if rest.isBlank then some (.oblique slant slant)
    else (whole? (readSpan (readAngle false) rest)).map fun (a, b) => .oblique a b
  | _ => none

/-- The printed form. -/
def text : FontStyle → String
  | .normal => "normal"
  | .italic => "italic"
  | .oblique a b =>
    "oblique" ++ (if a == slant && b == slant then "" else " " ++ spanText Angle.text a b)

end FontStyle

/-- A width of a font. -/
inductive FontStretch where
  | keyword (k : String)
  | percentage (p : Percentage)
  deriving BEq, Repr, Inhabited

namespace FontStretch

/-- The widths that have names. -/
def named : List (String × Float32) :=
  [("normal", 1), ("ultra-condensed", 0.5), ("extra-condensed", 0.625), ("condensed", 0.75),
   ("semi-condensed", 0.875), ("semi-expanded", 1.125), ("expanded", 1.25),
   ("extra-expanded", 1.5), ("ultra-expanded", 2)]

/-- The width in front, and what follows. -/
def read (cs : Components) : Option (FontStretch × Components) :=
  match readKeywordOf (named.map (·.1)) cs with
  | some (k, rest) => some (.keyword k, rest)
  | none => (readKnown .percentage cs).map fun (p, rest) => (.percentage p, rest)

/-- The printed form; in compact layout all widths are numbers. -/
def text (l : Layout) : FontStretch → String
  | .percentage p => p.text
  | .keyword k =>
    match l with
    | .pretty => k
    | .compact => (Percentage.mk ((named.lookup k).getD 1)).text

end FontStretch

/-! ## Characters -/

/-- A range of characters by their codes. -/
structure CodeRange where
  first : Nat
  last : Nat
  deriving DecidableEq, Repr, Inhabited

namespace CodeRange

/-- A range that starts at a code, if it ends where there are characters. -/
def checked? (first last : Nat) : Option CodeRange :=
  if first ≤ last ∧ last ≤ 0x10FFFF then some ⟨first, last⟩ else none

/-- A range by its text behind `U+`: a code, a code whose last digits are open, or two codes. -/
def ofCodes? (cs : List Char) : Option CodeRange :=
  let digits := (cs.takeWhile isHexDigit).take 6
  let n := valueOfDigits 16 digits
  match cs.drop digits.length with
  | [] => if digits.isEmpty then none else checked? n n
  | '-' :: cs =>
    if digits.isEmpty || cs.isEmpty || 6 < cs.length || !cs.all isHexDigit then none
    else checked? n (valueOfDigits 16 cs)
  | marks =>
    if marks.all (· == '?') && marks.length + digits.length ≤ 6 then
      let size := Nat.pow 16 marks.length
      checked? (n * size) ((n + 1) * size - 1)
    else none

/-- Read a range that fills a level. -/
def read? (cs : Components) : Option CodeRange :=
  match trimBlank (cs.skipBlank.start.slice cs.stop) with
  | 'u' :: '+' :: rest | 'U' :: '+' :: rest => ofCodes? rest
  | _ => none

/-- A code in capital letters. -/
def codeText (n : Nat) : String := "U+" ++ (hexText n).toUpper

/-- The number of last digits that are open, if that is all that two codes differ in. -/
def openDigits? (r : CodeRange) : Option Nat :=
  if r.first = r.last then none
  else (List.range 7).find? fun k =>
    let size := Nat.pow 16 k
    r.first / size == r.last / size && r.first % size == 0 && r.last % size == size - 1

/-- The printed form. -/
def text (r : CodeRange) : String :=
  match r.openDigits? with
  | some k =>
    let start := r.first / Nat.pow 16 k
    (if start = 0 then "U+" else codeText start) ++ String.ofList (List.replicate k '?')
  | none =>
    if r.first = r.last then codeText r.first
    else codeText r.first ++ "-" ++ (hexText r.last).toUpper

end CodeRange

/-! ## Descriptors -/

/-- A descriptor of a font. -/
inductive FontDescriptor where
  | family (f : Family)
  | sources (ss : List FontSource)
  | weight (low high : FontWeight)
  | style (s : FontStyle)
  | stretch (low high : FontStretch)
  | characters (rs : List CodeRange)
  | other (name : String) (value : Raw)
  deriving BEq, Repr, Inhabited

namespace FontDescriptor

/-- A descriptor by its name and value, if it is understood. -/
def ofValue? (name : String) (cs : Components) : Option FontDescriptor :=
  match name.toLower with
  | "font-family" => (Family.read? cs).map .family
  | "src" => (cs.splitCommas.mapM FontSource.read?).map .sources
  | "font-weight" => (whole? (readSpan FontWeight.read cs)).map fun (a, b) => .weight a b
  | "font-style" => (FontStyle.read? cs).map .style
  | "font-stretch" => (whole? (readSpan FontStretch.read cs)).map fun (a, b) => .stretch a b
  | "unicode-range" => (cs.splitCommas.mapM CodeRange.read?).map .characters
  | _ => none

/-- Read a descriptor. -/
def read? (cs : Components) : Option FontDescriptor :=
  match cs with
  | .token (.ident name) _ rest =>
    match rest.skipBlank with
    | .token .colon _ value =>
      match ofValue? name value with
      | some d => some d
      | none =>
        if value.toList.any (·.token? == .delim '!') then none
        else (readRaw value).toOption.map (.other name)
    | _ => none
  | _ => none

/-- Read the descriptors of a body. -/
def readList (cs : Components) : List FontDescriptor := cs.items.filterMap read?

/-- The printed form. -/
def text (p : Printing) (d : FontDescriptor) : String :=
  let l := p.layout
  let named (name value : String) : String := name ++ l.after ":" ++ value
  match d with
  | .family f => named "font-family" f.text
  | .sources ss => named "src" (l.commas (ss.map (FontSource.text l)))
  | .weight a b => named "font-weight" (spanText (FontWeight.text l) a b)
  | .style s => named "font-style" s.text
  | .stretch a b => named "font-stretch" (spanText (FontStretch.text l) a b)
  | .characters rs => named "unicode-range" (l.commas (rs.map CodeRange.text))
  | .other n v => named (writeIdent n) (rawText p v)

end FontDescriptor

end StyleBuild.Css
