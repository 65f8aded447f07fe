import StyleBuild.Css.Calc.Parser
import StyleBuild.Css.Color.Mixing

/-!
# Reading colours

`readColor` reads a colour in front: a name, hexadecimal digits, or a function. The channels of
`rgb()` and `hsl()` stand between commas or not; behind `from` and another colour, a function
may name the channels of that colour. `readOpenColor` reads a colour whose opacity is not known.
-/

namespace StyleBuild.Css

/-- The channels of the colour behind `from`: their names, what they are, and their values. -/
abbrev ColorBase := List (String × ChannelKind × Float32)

namespace ColorBase

/-- The factors between the coordinates of a space and its channels. -/
def scaleOf : ColorSpace → Coordinates
  | .rgb => ⟨255, 255, 255⟩
  | .hsl | .hwb => ⟨1, 100, 100⟩
  | _ => ⟨1, 1, 1⟩

/-- The opacity as a channel. -/
def alpha (x : Float32) : ColorBase := [("alpha", .percentage, orZero x)]

/-- The channels of a colour in a space, brought into its gamut. -/
def ofColor? (s : ColorSpace) (c : Color) : Option ColorBase :=
  (c.inSpace? s).map fun (place, opacity) =>
    let k := scaleOf s
    let place := s.fit (place.map orZero)
    s.channels.zipWith (fun (name, kind) x => (name, kind, x))
      [place.x * k.x, place.y * k.y, place.z * k.z] ++ alpha opacity

/-- A channel by its name, if it is of a kind that is allowed. -/
def named? (b : ColorBase) (allowed : List ChannelKind) (name : String) : Option Float32 :=
  (b.find? fun (n, kind, _) => n == name.toLower && allowed.contains kind).map fun (_, _, x) => x

end ColorBase

/-- How channels are read. -/
structure ChannelRules where
  /-- Whether a channel may be left out by the keyword `none`. -/
  missingAllowed : Bool := true
  base : Option ColorBase := none

/-- A channel: a number, or a share of one. -/
inductive Channel where
  | number (x : Float32)
  | share (x : Float32)
  deriving Repr, Inhabited

namespace Channel

/-- The number of a channel; a share is one of `whole`. -/
def scaled (whole : Float32) : Channel → Float32
  | .number x => x
  | .share x => x * whole

/-- Whether a channel is left out. -/
def isMissing : Channel → Bool
  | .number x => x != x
  | .share x => x != x

end Channel

namespace ChannelRules

/-- A number by its name, if it is of a kind that is allowed. -/
def named? (r : ChannelRules) (allowed : List ChannelKind) (name : String) : Option Float32 :=
  r.base.bind (·.named? allowed name)

/-- The channel left out, if that is allowed. -/
def readMissing (r : ChannelRules) (cs : Components) : Option (Channel × Components) :=
  match cs.skipBlank with
  | .token (.ident n) _ rest =>
    if r.missingAllowed && n.toLower = "none" then some (.number ColorSpace.missing, rest) else none
  | _ => none

/-- A number in front, or the name of a channel of a kind that is allowed. -/
def readNamed (r : ChannelRules) (allowed : List ChannelKind) (cs : Components) :
    Option (Channel × Components) :=
  match cs.skipBlank with
  | .token (.ident n) _ rest => (r.named? allowed n).map fun x => (.number x, rest)
  | cs => (readNamedNumber (r.named? allowed) cs).map fun (x, rest) => (.number x, rest)

/-- Read a number. -/
def readNumber (r : ChannelRules) (cs : Components) : Option (Channel × Components) :=
  (r.readNamed [.number] cs).or (r.readMissing cs)

/-- A percentage in front; an expression may name channels. -/
def readShare (r : ChannelRules) (allowed : List ChannelKind) (cs : Components) :
    Option (Channel × Components) :=
  (readKnown { CalcKind.percentage with
    value? := fun n => (r.named? allowed n).map Percentage.mk } cs).map fun (p, rest) =>
      (.share p.share, rest)

/-- Read a percentage. -/
def readPercentage (r : ChannelRules) (cs : Components) : Option (Channel × Components) :=
  (r.readShare [.percentage] cs).or (r.readMissing cs)

/-- Read a number or a percentage. -/
def readAny (r : ChannelRules) (cs : Components) : Option (Channel × Components) :=
  let allowed : List ChannelKind := [.number, .percentage]
  ((r.readNamed allowed cs).or (r.readShare allowed cs)).or (r.readMissing cs)

/-- Read a hue: an angle, or a number of degrees. -/
def readHue (r : ChannelRules) (cs : Components) : Option (Channel × Components) :=
  let allowed : List ChannelKind := [.angle, .number]
  let angle : CalcKind Angle := { CalcKind.angle with
    value? := fun n => (r.named? allowed n).map fun x => ⟨x, .degrees⟩ }
  ((r.readNamed allowed cs).or
    ((readKnown angle cs).map fun (a, rest) => (.number a.degrees, rest))).or (r.readMissing cs)

end ChannelRules

/-- Read the opacity: behind a comma or a slash, a number or a percentage; one if there is none. -/
def readAlpha (r : ChannelRules) (legacy : Bool) (cs : Components) : Option Float32 :=
  let value (cs : Components) : Option Float32 := do
    let (c, rest) ← r.readAny cs
    if rest.isBlank then some (heldBetween 0 1 (c.scaled 1)) else none
  match cs.skipBlank with
  | .done _ => some 1
  | .token .comma _ rest => if legacy then value rest else none
  | .token (.delim '/') _ rest => if legacy then none else value rest
  | _ => none

/-- Red, green and blue as shares, whether they stand between commas, and what follows. -/
def readRgbChannels (r : ChannelRules) (cs : Components) :
    Option (Coordinates × Bool × Components) := do
  let (red, rest) ← r.readAny cs
  let legacy : Option Components :=
    if r.base.isSome || red.isMissing then none else rest.dropComma?
  match legacy with
  | some rest =>
    let next (cs : Components) : Option (Channel × Components) := match red with
      | .number _ => r.readNumber cs
      | .share _ => r.readPercentage cs
    let (green, rest) ← next rest
    let (blue, rest) ← next (← rest.dropComma?)
    if green.isMissing || blue.isMissing then none
    else
      let share (c : Channel) : Float32 :=
        heldBetween 0 255 (roundTo .nearest (c.scaled 255)) / 255
      return (⟨share red, share green, share blue⟩, true, rest)
  | none =>
    let (green, rest) ← r.readAny rest
    let (blue, rest) ← r.readAny rest
    let share : Channel → Float32
      | .number x => heldBetween 0 255 (roundTo .nearest x) / 255
      | .share x => heldBetween 0 1 x
    return (⟨share red, share green, share blue⟩, false, rest)

/-- Hue and two shares, whether they stand between commas, and what follows. -/
def readHueChannels (r : ChannelRules) (commasAllowed : Bool) (cs : Components) :
    Option (Coordinates × Bool × Components) := do
  let (hue, rest) ← r.readHue cs
  let legacy : Option Components :=
    if !commasAllowed || r.base.isSome || hue.isMissing then none else rest.dropComma?
  let share (c : Channel) : Float32 := heldBetween 0 100 (c.scaled 100) / 100
  let (a, rest) ← r.readAny (legacy.getD rest)
  let rest ← if legacy.isSome then rest.dropComma? else some rest
  let (b, rest) ← r.readAny rest
  if legacy.isSome && (a.isMissing || b.isMissing) then none
  else return (⟨hue.scaled 1, share a, share b⟩, legacy.isSome, rest)

/-- Three channels without commas; shares are ones of the given numbers. -/
def readPlainChannels (r : ChannelRules) (whole : Coordinates) (hueLast : Bool)
    (cs : Components) : Option (Coordinates × Components) := do
  let (a, rest) ← r.readAny cs
  let (b, rest) ← r.readAny rest
  let (c, rest) ← if hueLast then r.readHue rest else r.readAny rest
  return (⟨a.scaled whole.x, b.scaled whole.y, c.scaled whole.z⟩, rest)

/-- A colour in a space made of red, green and blue: bytes, unless a channel is left out. -/
def Color.inBytes (s : ColorSpace) (c : Coordinates) (alpha : Float32) : Color :=
  let known (x : Float32) : Bool := x == x
  if known c.x && known c.y && known c.z && known alpha then .ofPlace s c alpha
  else .placed s c alpha

/-- Read the channels of a colour function of one space. -/
def readChannels (s : ColorSpace) (r : ChannelRules) (cs : Components) : Option Color :=
  match s with
  | .rgb => do
    let (c, legacy, rest) ← readRgbChannels r cs
    return .inBytes .rgb c (← readAlpha r legacy rest)
  | .hsl => do
    let (c, legacy, rest) ← readHueChannels r true cs
    return .inBytes .hsl c (← readAlpha r legacy rest)
  | .hwb => do
    let (c, legacy, rest) ← readHueChannels r false cs
    return .inBytes .hwb c (← readAlpha r legacy rest)
  | .lab => do
    let (c, rest) ← readPlainChannels r ⟨100, 125, 125⟩ false cs
    return .placed s ⟨if c.x < 0 then 0 else c.x, c.y, c.z⟩ (← readAlpha r false rest)
  | .oklab => do
    let (c, rest) ← readPlainChannels r ⟨1, 0.4, 0.4⟩ false cs
    return .placed s ⟨if c.x < 0 then 0 else c.x, c.y, c.z⟩ (← readAlpha r false rest)
  | .lch => do
    let (c, rest) ← readPlainChannels r ⟨100, 150, 1⟩ true cs
    return .placed s ⟨if c.x < 0 then 0 else c.x, if c.y < 0 then 0 else c.y, c.z⟩
      (← readAlpha r false rest)
  | .oklch => do
    let (c, rest) ← readPlainChannels r ⟨1, 0.4, 1⟩ true cs
    return .placed s ⟨if c.x < 0 then 0 else c.x, if c.y < 0 then 0 else c.y, c.z⟩
      (← readAlpha r false rest)
  | s => do
    let (c, rest) ← readPlainChannels r ⟨1, 1, 1⟩ false cs
    return .placed s c (← readAlpha r false rest)

/-- The space of a colour function. -/
def colorFunctionSpace? (name : String) : Option ColorSpace :=
  match name.toLower with
  | "rgb" | "rgba" => some .rgb
  | "hsl" | "hsla" => some .hsl
  | "hwb" => some .hwb
  | "lab" => some .lab
  | "lch" => some .lch
  | "oklab" => some .oklab
  | "oklch" => some .oklch
  | _ => none

/-- What follows an identifier in front. -/
def Components.afterIdent? (cs : Components) (name : String) : Option Components :=
  match cs.skipBlank with
  | .token (.ident n) _ rest => if n.toLower = name then some rest else none
  | _ => none

/-- A plain percentage in front, if there is one. -/
def readShare? (cs : Components) : Option Float32 × Components :=
  match cs.skipBlank with
  | .token (.percentage n) _ rest => (some n.value, rest)
  | _ => (none, cs)

/-- The name of a profile in front. -/
def readProfile (cs : Components) : Option (ColorSpace × Components) :=
  match cs.skipBlank with
  | .token (.ident n) _ rest => (ColorSpace.ofProfileName? n).map (·, rest)
  | _ => none

/-- The space of a mixture, and the path of its hues. -/
def readMixMethod (cs : Components) : Option (ColorSpace × HuePath × Components) :=
  match cs.skipBlank with
  | .token (.ident n) _ rest =>
    match ColorSpace.ofMixName? n with
    | none => none
    | some s =>
      match [ColorSpace.hsl, .hwb, .lch, .oklch].contains s, rest.skipBlank with
      | true, .token (.ident m) _ after =>
        match HuePath.ofName? m with
        | some path => (after.afterIdent? "hue").map (s, path, ·)
        | none => some (s, .shorter, rest)
      | _, _ => some (s, .shorter, rest)
  | _ => none

/-- The shares of a mixture; what is not given is the rest. -/
def mixShares : Option Float32 → Option Float32 → Float32 × Float32
  | none, none => (0.5, 0.5)
  | some p, none => (p, 1 - p)
  | none, some q => (1 - q, q)
  | some p, some q => (p, q)

/-- What is read by the channels of an origin in a space, if there is one: of a pair, once for
each colour. -/
def readByOrigin {α : Type} (s : ColorSpace) (origin : Option Color)
    (read : ChannelRules → Option α) : Option (List α) :=
  let readFrom (c : Color) : Option α := do read { base := some (← ColorBase.ofColor? s c) }
  match origin with
  | none => (read {}).map ([·])
  | some (.lightDark a b) => do return [← readFrom a, ← readFrom b]
  | some c => (readFrom c).map ([·])

/-- The colour that was read by an origin. -/
def Color.ofHalves? : List Color → Option Color
  | [c] => some c
  | [a, b] => some (.lightDark a b)
  | _ => none

/-- A colour with another opacity. -/
def Color.withAlpha? (alpha : Float32) : Color → Option Color
  | .placed s c _ => some (.placed s c alpha)
  | c => (c.inSpace? .rgb).map fun (place, _) => .inBytes .rgb place alpha

/-- A colour with the opacity that is given behind a slash, if it is. -/
def readOpacity (rest : Components) (c : Color) : Option Color :=
  match c.inSpace? .rgb with
  | none => none
  | some (_, alpha) =>
    if rest.isBlank then some c
    else (readAlpha { base := some (ColorBase.alpha alpha) } false rest).bind c.withAlpha?

mutual

/-- Read a colour in front. The number bounds the depth of the reading. -/
def readColorWithin : Nat → Components → Option (Color × Components)
  | 0, _ => none
  | fuel + 1, cs =>
    match cs.skipBlank with
    | .token (.hash h) _ rest => (Color.ofHex? h.toList).map (·, rest)
    | .token (.idHash h) _ rest => (Color.ofHex? h.toList).map (·, rest)
    | .token (.ident n) _ rest => (Color.ofName? n).map (·, rest)
    | .block (.function name) _ body rest => (readColorCall fuel name body).map (·, rest)
    | _ => none

/-- The colour behind `from`, if there is one, and what follows. -/
def readOrigin : Nat → Components → Option (Option Color × Components)
  | 0, _ => none
  | fuel + 1, cs =>
    match cs.afterIdent? "from" with
    | none => some (none, cs)
    | some rest => (readColorWithin fuel rest).map fun (c, rest) => (some c, rest)

/-- A colour function by its arguments. -/
def readColorCall : Nat → String → Components → Option Color
  | 0, _, _ => none
  | fuel + 1, name, body =>
    match colorFunctionSpace? name with
    | some s => do
      let (origin, rest) ← readOrigin fuel body
      Color.ofHalves? (← readByOrigin s origin fun r => readChannels s r rest)
    | none =>
      match name.toLower with
      | "color" => do
        let (origin, rest) ← readOrigin fuel body
        let (s, rest) ← readProfile rest
        Color.ofHalves? (← readByOrigin s origin fun r => readChannels s r rest)
      | "color-mix" => do
        let rest ← body.afterIdent? "in"
        let (s, path, rest) ← readMixMethod rest
        let (p, rest) := readShare? (← rest.dropComma?)
        let (a, rest) ← readColorWithin fuel rest
        let (p, rest) := if p.isSome then (p, rest) else readShare? rest
        let (q, rest) := readShare? (← rest.dropComma?)
        let (b, rest) ← readColorWithin fuel rest
        let (q, rest) := if q.isSome then (q, rest) else readShare? rest
        let (p, q) := mixShares p q
        if !rest.isBlank || p + q == 0 then none else Color.mix? s path a p b q
      | "light-dark" => do
        let (a, rest) ← readColorWithin fuel body
        let (b, rest) ← readColorWithin fuel (← rest.dropComma?)
        if rest.isBlank then some (.lightDark a.light b.dark) else none
      | "alpha" => do
        match ← readOrigin fuel body with
        | (some (.lightDark a b), rest) =>
          return .lightDark (← readOpacity rest a) (← readOpacity rest b)
        | (some c, rest) => readOpacity rest c
        | (none, _) => none
      | _ => none

end

/-- Read a colour in front. -/
def readColor (cs : Components) : Option (Color × Components) :=
  readColorWithin (2 * cs.size + 4) cs

/-- A colour by a function and its arguments. -/
def Color.ofCall? (name : String) (body : Components) : Option Color :=
  readColorCall (2 * body.size + 4) name body

end StyleBuild.Css
