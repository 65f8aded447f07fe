import StyleBuild.Css.Color

/-!
# Mixing colours

`Color.mix?` mixes two colours in a space. Coordinates that say nothing about a colour, such as
the hue of a gray, are taken from the other colour; the others are weighted by opacity and share.
-/

namespace StyleBuild.Css

/-- The way around the wheel on which hues are mixed. -/
inductive HuePath where
  | shorter
  | longer
  | increasing
  | decreasing
  deriving DecidableEq, Repr, Inhabited

/-- A way around the wheel by its keyword. -/
def HuePath.ofName? (name : String) : Option HuePath :=
  match name.toLower with
  | "shorter" => some .shorter
  | "longer" => some .longer
  | "increasing" => some .increasing
  | "decreasing" => some .decreasing
  | _ => none

/-- A hue from 0 up to a full turn. -/
def fullTurn (x : Float32) : Float32 := remainder (remainder x 360 + 360) 360

/-- Two hues, moved by a full turn so that a straight path goes around the wheel as asked. -/
def HuePath.align (path : HuePath) (a b : Float32) : Float32 × Float32 :=
  let a := fullTurn a
  let b := fullTurn b
  let delta := b - a
  match path with
  | .shorter =>
    if 180 < delta then (a + 360, b) else if delta < -180 then (a, b + 360) else (a, b)
  | .longer =>
    if 0 < delta ∧ delta < 180 then (a + 360, b)
    else if -180 < delta ∧ delta < 0 then (a, b + 360) else (a, b)
  | .increasing => if b < a then (a, b + 360) else (a, b)
  | .decreasing => if a < b then (a + 360, b) else (a, b)

namespace ColorSpace

/-- A number that is not given. -/
def missing : Float32 := 0 / 0

/-- Whether a number is zero up to the least step at one. -/
def isNearZero (x : Float32) : Bool := x.abs < 1.1920929e-7

/-- Coordinates with those taken out that say nothing about the colour. -/
def dropPowerless (s : ColorSpace) (c : Coordinates) : Coordinates :=
  match s with
  | .hsl =>
    if isNearZero c.z || isNearZero (c.z - 1) then ⟨missing, missing, c.z⟩
    else if isNearZero c.y then ⟨missing, c.y, c.z⟩
    else c
  | .hwb => if isNearZero (c.y + c.z - 1) then ⟨missing, c.y, c.z⟩ else c
  | .lab | .oklab => if isNearZero c.x then ⟨c.x, missing, missing⟩ else c
  | .lch | .oklch =>
    if isNearZero c.x then ⟨c.x, missing, missing⟩
    else if isNearZero c.y then ⟨c.x, c.y, missing⟩
    else c
  | _ => c

/-- Hues on a path, for the spaces that have one. -/
def alignHues (s : ColorSpace) (path : HuePath) (a b : Coordinates) : Coordinates × Coordinates :=
  match s with
  | .hsl | .hwb =>
    let (h, k) := path.align a.x b.x
    (⟨h, a.y, a.z⟩, ⟨k, b.y, b.z⟩)
  | .lch | .oklch =>
    let (h, k) := path.align a.z b.z
    (⟨a.x, a.y, h⟩, ⟨b.x, b.y, k⟩)
  | _ => (a, b)

/-- Apply a function to the coordinates other than the hue. -/
def mapPlain (s : ColorSpace) (f : Float32 → Float32) (c : Coordinates) : Coordinates :=
  match s with
  | .hsl | .hwb => ⟨c.x, f c.y, f c.z⟩
  | .lch | .oklch => ⟨f c.x, f c.y, c.z⟩
  | _ => c.map f

end ColorSpace

/-- Coordinates that are not given, taken from others. -/
def Coordinates.fillFrom (c d : Coordinates) : Coordinates :=
  let pick (x y : Float32) : Float32 := if x == x then x else y
  ⟨pick c.x d.x, pick c.y d.y, pick c.z d.z⟩

namespace Color

/-- Place and opacity of a colour in a space, ready to be mixed: a colour of another space is
brought into the gamut. -/
def ingredient? (s : ColorSpace) (c : Color) : Option (Coordinates × Float32) :=
  match c with
  | .placed t place alpha =>
    if t = s ∨ (t = .srgb ∧ s = .rgb) then some (place, alpha)
    else some (s.dropPowerless (s.fit (t.convert s place)), alpha)
  | c => (c.inSpace? s).map fun (place, alpha) => (s.dropPowerless (s.fit place), alpha)

/-- A mixture of two colours with their shares, neither of which is a pair. -/
def mixPlain? (s : ColorSpace) (path : HuePath) (a : Color) (p : Float32) (b : Color)
    (q : Float32) : Option Color := do
  let (x, alpha) ← a.ingredient? s
  let (y, beta) ← b.ingredient? s
  let (x, y) := (x.fillFrom y, y.fillFrom x)
  let (alpha, beta) :=
    (if alpha == alpha then alpha else beta, if beta == beta then beta else alpha)
  let (x, y) := s.alignHues path x y
  let weigh (c : Coordinates) (opacity : Float32) : Coordinates :=
    if opacity == opacity then s.mapPlain (· * opacity) c else c
  let x := weigh x alpha
  let y := weigh y beta
  let total := p + q
  let p := if total == 1 then p else p / total
  let q := if total == 1 then q else q / total
  let mixed : Coordinates := ⟨x.x * p + y.x * q, x.y * p + y.y * q, x.z * p + y.z * q⟩
  let opacity := alpha * p + beta * q
  if opacity == opacity && opacity != 0 then
    some (.placed s (s.mapPlain (· / opacity) mixed)
      (opacity * (if total == 1 || 1 < total then 1 else total)))
  else some (.placed s mixed opacity)

/-- A mixture of two colours with their shares; one of pairs is a pair again. -/
def mix? (s : ColorSpace) (path : HuePath) (a : Color) (p : Float32) (b : Color) (q : Float32) :
    Option Color :=
  if a.isPair || b.isPair then do
    return .lightDark (← mixPlain? s path a.light p b.light q)
      (← mixPlain? s path a.dark p b.dark q)
  else mixPlain? s path a p b q

end Color

end StyleBuild.Css
