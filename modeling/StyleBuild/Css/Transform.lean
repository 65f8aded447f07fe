import StyleBuild.Css.Calc.Parser
import StyleBuild.Css.Component

/-!
# Transforms

The functions of the `transform` property. In compact layout a function is printed in its
shortest form: axes along which nothing happens are left out, and a turn around one axis is named
for it.
-/

namespace StyleBuild.Css

/-- A transform function. -/
inductive Transform where
  | translate (x y : Calc LengthPercentage)
  | translateX (x : Calc LengthPercentage)
  | translateY (y : Calc LengthPercentage)
  | translateZ (z : Calc Length)
  | translate3d (x y : Calc LengthPercentage) (z : Calc Length)
  | scale (x y : Float32)
  | scaleX (x : Float32)
  | scaleY (y : Float32)
  | scaleZ (z : Float32)
  | scale3d (x y z : Float32)
  | rotate (a : Angle)
  | rotateX (a : Angle)
  | rotateY (a : Angle)
  | rotateZ (a : Angle)
  | rotate3d (x y z : Float32) (a : Angle)
  | skew (x y : Angle)
  | skewX (x : Angle)
  | skewY (y : Angle)
  | perspective (l : Calc Length)
  | matrix (entries : List Float32)
  | matrix3d (entries : List Float32)
  deriving BEq, Repr, Inhabited

namespace Transform

/-! ## Reading -/

/-- Two values with a comma between them, and what follows. -/
def readPair {α β : Type} (first : Components → Option (α × Components))
    (second : Components → Option (β × Components)) (cs : Components) :
    Option ((α × β) × Components) := do
  let (a, rest) ← first cs
  let (b, rest) ← second (← rest.dropComma?)
  return ((a, b), rest)

/-- One value, and perhaps another one behind a comma. -/
def readOneOrTwo {α : Type} (read : Components → Option (α × Components)) (cs : Components) :
    Option ((α × Option α) × Components) := do
  let (a, rest) ← read cs
  match rest.dropComma? with
  | none => return ((a, none), rest)
  | some rest =>
    let (b, rest) ← read rest
    return ((a, some b), rest)

/-- As many numbers as asked for, with commas between them. -/
def readNumbers : Nat → Components → Option (List Float32 × Components)
  | 0, cs => some ([], cs)
  | 1, cs => (readNumberValue cs).map fun (x, rest) => ([x], rest)
  | n + 1, cs => do
    let (x, rest) ← readNumberValue cs
    let (xs, rest) ← readNumbers n (← rest.dropComma?)
    return (x :: xs, rest)

/-- The length zero. -/
def noShift : Calc LengthPercentage := .value (.length ⟨0, "px"⟩)

/-- A transform function by its name and arguments. -/
def ofCall? (name : String) (cs : Components) : Option Transform :=
  let shift := readQuantity CalcKind.lengthPercentage
  let length := readQuantity CalcKind.length
  let share := readNumberOrPercentage
  let angle := readAngle true
  match name.toLower with
  | "matrix" => (whole? (readNumbers 6 cs)).map .matrix
  | "matrix3d" => (whole? (readNumbers 16 cs)).map .matrix3d
  | "translate" =>
    (whole? (readOneOrTwo shift cs)).map fun (x, y) => .translate x (y.getD noShift)
  | "translatex" => (whole? (shift cs)).map .translateX
  | "translatey" => (whole? (shift cs)).map .translateY
  | "translatez" => (whole? (length cs)).map .translateZ
  | "translate3d" =>
    (whole? (readPair (readPair shift shift) length cs)).map fun ((x, y), z) => .translate3d x y z
  | "scale" => (whole? (readOneOrTwo share cs)).map fun (x, y) => .scale x (y.getD x)
  | "scalex" => (whole? (share cs)).map .scaleX
  | "scaley" => (whole? (share cs)).map .scaleY
  | "scalez" => (whole? (share cs)).map .scaleZ
  | "scale3d" =>
    (whole? (readPair (readPair share share) share cs)).map fun ((x, y), z) => .scale3d x y z
  | "rotate" => (whole? (angle cs)).map .rotate
  | "rotatex" => (whole? (angle cs)).map .rotateX
  | "rotatey" => (whole? (angle cs)).map .rotateY
  | "rotatez" => (whole? (angle cs)).map .rotateZ
  | "rotate3d" =>
    let number := readNumberValue
    (whole? (readPair (readPair (readPair number number) number) angle cs)).map
      fun (((x, y), z), a) => .rotate3d x y z a
  | "skew" =>
    (whole? (readOneOrTwo angle cs)).map fun (x, y) => .skew x (y.getD ⟨0, .degrees⟩)
  | "skewx" => (whole? (angle cs)).map .skewX
  | "skewy" => (whole? (angle cs)).map .skewY
  | "perspective" => (whole? (length cs)).map .perspective
  | _ => none

/-- The functions of a level. -/
def functions? : Components → Option (List Transform)
  | .done _ => some []
  | .token (.blank _) _ rest => functions? rest
  | .block (.function name) _ body rest => do
    let t ← ofCall? name body
    let ts ← functions? rest
    return t :: ts
  | _ => none

/-- Read transform functions, or the keyword for none. -/
def read? (cs : Components) : Option (List Transform) :=
  match cs.skipBlank with
  | .token (.ident n) _ rest => if n.toLower = "none" ∧ rest.isBlank then some [] else none
  | .done _ => none
  | cs => functions? cs

/-! ## Printing -/

/-- A length or percentage as printed. -/
def shiftText (p : Printing) : Calc LengthPercentage → String
  | .value v => v.text
  | c => c.text p

/-- A length as printed. -/
def lengthText (p : Printing) : Calc Length → String
  | .value v => v.text
  | c => c.text p

/-- A function in its long form. -/
def longText (p : Printing) : Transform → String
  | .translate x y =>
    call "translate" (shiftText p x :: (if y.isZeroValue then [] else [shiftText p y]))
  | .translateX x => call "translateX" [shiftText p x]
  | .translateY y => call "translateY" [shiftText p y]
  | .translateZ z => call "translateZ" [lengthText p z]
  | .translate3d x y z => call "translate3d" [shiftText p x, shiftText p y, lengthText p z]
  | .scale x y => call "scale" (numberText x :: (if x == y then [] else [numberText y]))
  | .scaleX x => call "scaleX" [numberText x]
  | .scaleY y => call "scaleY" [numberText y]
  | .scaleZ z => call "scaleZ" [numberText z]
  | .scale3d x y z => call "scale3d" ([x, y, z].map numberText)
  | .rotate a => call "rotate" [a.shortText]
  | .rotateX a => call "rotateX" [a.shortText]
  | .rotateY a => call "rotateY" [a.shortText]
  | .rotateZ a => call "rotateZ" [a.shortText]
  | .rotate3d x y z a => call "rotate3d" ([x, y, z].map numberText ++ [a.shortText])
  | .skew x y => call "skew" (x.text :: (if y.value == 0 then [] else [y.shortText]))
  | .skewX x => call "skewX" [x.shortText]
  | .skewY y => call "skewY" [y.shortText]
  | .perspective l => call "perspective" [lengthText p l]
  | .matrix ns => call "matrix" (ns.map numberText)
  | .matrix3d ns => call "matrix3d" (ns.map numberText)
where
  /-- A function with its arguments. -/
  call (name : String) (arguments : List String) : String :=
    name ++ "(" ++ p.layout.commas arguments ++ ")"

/-- A function in compact layout. -/
def compactText (p : Printing) (t : Transform) : String :=
  let angle (name : String) (a : Angle) : String := name ++ "(" ++ a.shortText ++ ")"
  let number (name : String) (x : Float32) : String := name ++ "(" ++ numberText x ++ ")"
  match t with
  | .translate x y =>
    if x.isZeroValue && !y.isZeroValue then longText p (.translateY y) else longText p t
  | .translateX x => "translate(" ++ shiftText p x ++ ")"
  | .translate3d x y z =>
    match x.isZeroValue, y.isZeroValue, z.isZeroValue with
    | false, true, true => "translate(" ++ shiftText p x ++ ")"
    | true, false, true => longText p (.translateY y)
    | true, true, false => longText p (.translateZ z)
    | _, _, true => "translate(" ++ shiftText p x ++ "," ++ shiftText p y ++ ")"
    | _, _, false => longText p t
  | .scale x y =>
    if x == 1 && y != 1 then longText p (.scaleY y)
    else if x != 1 && y == 1 then longText p (.scaleX x)
    else longText p t
  | .scale3d x y z =>
    if z == 1 && x == y then number "scale" x
    else if x != 1 && y == 1 && z == 1 then longText p (.scaleX x)
    else if x == 1 && y != 1 && z == 1 then longText p (.scaleY y)
    else if x == 1 && y == 1 && z != 1 then longText p (.scaleZ z)
    else if z == 1 then "scale(" ++ numberText x ++ "," ++ numberText y ++ ")"
    else longText p t
  | .rotateZ a => angle "rotate" a
  | .rotate3d x y z a =>
    if x == 1 && y == 0 && z == 0 then angle "rotateX" a
    else if x == 0 && y == 1 && z == 0 then angle "rotateY" a
    else if x == 0 && y == 0 && z == 1 then angle "rotate" a
    else longText p t
  | .skew x y => if x.value == 0 && y.value != 0 then longText p (.skewY y) else longText p t
  | .skewX x => angle "skew" x
  | t => longText p t

/-- The printed form of a list of functions. -/
def listText (p : Printing) (ts : List Transform) : String :=
  if ts.isEmpty then "none"
  else match p.layout with
    | .pretty => String.intercalate " " (ts.map (longText p))
    | .compact => String.join (ts.map (compactText p))

end Transform

end StyleBuild.Css
