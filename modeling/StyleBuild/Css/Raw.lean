import StyleBuild.Css.Color.Parser
import StyleBuild.Css.SyntaxError

/-!
# Raw values

The value of a custom property, of an unknown property or of a known one that is not
understood is kept as a flat list of pieces, brackets included. Colours, lengths and the like are
kept by meaning, so that they are printed like those of a value that is understood. White space
stays where it is written, except at the ends of the value and of the arguments of a function.
-/

namespace StyleBuild.Css

/-- A piece of a raw value. -/
inductive RawPiece where
  | token (t : Token)
  | color (c : Color)
  /-- The start of a colour whose opacity is given by the pieces up to the next parenthesis. -/
  | openColor (space : ColorSpace) (place : Coordinates)
  /-- The start of a pair whose colours are given by the pieces up to the next parenthesis. -/
  | openPair
  /-- The comma between the colours of such a pair. -/
  | pairComma
  /-- A comma that belongs to a function and is set by the layout. -/
  | separator
  | length (l : Length)
  | angle (a : Angle)
  | time (t : Time)
  | resolution (r : Resolution)
  deriving BEq, Repr, Inhabited

/-- A raw value. -/
abbrev Raw := List RawPiece

/-- Whether a piece is white space. -/
def RawPiece.isBlank : RawPiece → Bool
  | .token t => t.isBlank
  | _ => false

/-- A raw value of two or more pieces without white space at its ends. -/
def trimRaw (ps : Raw) : Raw :=
  if ps.length < 2 then ps
  else
    let ps := match ps with
      | p :: rest => if p.isBlank then rest else ps
      | [] => []
    match ps.getLast? with
    | some p => if p.isBlank then ps.dropLast else ps
    | none => ps

/-! ## Reading -/

/-- A colour whose opacity is given in another way than by a number: its place, once for each
colour of a pair, and what follows the slash. -/
def readOpenColor (name : String) (body : Components) :
    Option (ColorSpace × List Coordinates × Components) :=
  let read (s : ColorSpace)
      (channels : ChannelRules → Components → Option (Coordinates × Bool × Components)) :
      Option (ColorSpace × List Coordinates × Components) := do
    let (origin, rest) ← readOrigin (2 * body.size + 4) body
    let found ← readByOrigin s origin fun r =>
      match channels { r with missingAllowed := false } rest with
      | some (c, false, rest) =>
        match rest.skipBlank with
        | .token (.delim '/') _ rest => some (c, rest)
        | _ => none
      | _ => none
    match found with
    | [] => none
    | (c, rest) :: more => some (s, c :: more.map (·.1), rest)
  match name.toLower with
  | "rgb" => read .rgb readRgbChannels
  | "hsl" => read .hsl (readHueChannels · true)
  | _ => none

/-- A dimension by its meaning, where the unit is known. -/
def RawPiece.ofDimension (n : Numeric) (unit : String) : RawPiece :=
  match Length.ofUnit? n.value unit with
  | some l => .length l
  | none =>
    let t : Token := .dimension n unit
    match Angle.ofToken? t, Time.ofToken? t, Resolution.ofToken? t with
    | some a, _, _ => .angle a
    | _, some s, _ => .time s
    | _, _, some r => .resolution r
    | _, _, _ => .token t

/-- What the environment variables of browsers are called. -/
def environmentNames : List String :=
  ["safe-area-inset-top", "safe-area-inset-right", "safe-area-inset-bottom",
   "safe-area-inset-left", "viewport-segment-width", "viewport-segment-height",
   "viewport-segment-top", "viewport-segment-left", "viewport-segment-bottom",
   "viewport-segment-right"]

/-- Read the indices of an environment variable. -/
def readIndices (acc : Raw) : Components → Raw × Components
  | .token (.blank _) _ rest => readIndices acc rest
  | .token (.number n) p rest =>
    match n.integer with
    | some i =>
      let index : Token := .number ⟨false, numberOfInt i, some i⟩
      readIndices (.token index :: .token (.blank " ") :: acc) rest
    | none => (acc, .token (.number n) p rest)
  | cs => (acc, cs)

/-- A hash: a colour, or a name. -/
def RawPiece.ofHash (h : String) : RawPiece :=
  match Color.ofHex? h.toList with
  | some c => .color c
  | none => .token (.hash h)

/-- How deep brackets may be nested in a raw value. -/
def rawDepth : Nat := 500

/-- Split a level before its first comma. -/
def Components.splitComma? (cs : Components) : Option (Components × Components) :=
  match cs.toList.span fun
    | .token .comma _ => false
    | _ => true with
  | (before, .token .comma p :: behind) => some (.ofList p before, .ofList cs.stop behind)
  | _ => none

mutual

/-- Read a level as a raw value. The first number bounds the steps of the reading, the second one
is the depth of the level. -/
def readRawWithin : Nat → Nat → Components → Except SyntaxError Raw
  | 0, _, _ => .ok []
  | fuel + 1, depth, cs => do
    if rawDepth < depth then throw ⟨.tooDeep, cs.start⟩
    let ps ← rawFrom fuel depth [] cs
    return trimRaw ps.reverse

/-- Read the pieces of a level behind others, latest first. -/
def rawFrom : Nat → Nat → Raw → Components → Except SyntaxError Raw
  | 0, _, acc, _ => .ok acc
  | fuel + 1, depth, acc, cs =>
    match cs with
    | .done _ => .ok acc
    | .token t p rest =>
      match t with
      | .hash h => rawFrom fuel depth (.ofHash h :: acc) rest
      | .idHash h => rawFrom fuel depth (.ofHash h :: acc) rest
      | .dimension n u => rawFrom fuel depth (.ofDimension n u :: acc) rest
      | t =>
        if t.isBad then .error ⟨.unexpectedToken t, p⟩
        else rawFrom fuel depth (.token t :: acc) rest
    | .block (.plain s) _ body rest => do
      if rawDepth < depth + 1 then throw ⟨.tooDeep, body.start⟩
      let acc ← rawFrom fuel (depth + 1) (.token (.opening (.plain s)) :: acc) body
      rawFrom fuel depth (.token (.closing s) :: acc) rest
    | .block (.function name) _ body rest => do
      let acc ← rawCall fuel depth name acc body
      rawFrom fuel depth acc rest

/-- Read a function behind other pieces, at a depth. -/
def rawCall : Nat → Nat → String → Raw → Components → Except SyntaxError Raw
  | 0, _, _, acc, _ => .ok acc
  | fuel + 1, depth, name, acc, body =>
    let close (head : Raw) (inner : Raw) : Raw :=
      .token (.closing .round) :: (inner.reverse ++ head)
    let opened : Raw := .token (.opening (.function name)) :: acc
    let fallback (head : Raw) (cs : Components) : Except SyntaxError Raw :=
      match cs.dropComma? with
      | some rest => (readRawWithin fuel (depth + 1) rest).map (close (.separator :: head))
      | none => (expectNothing cs).map fun _ => close head []
    match Color.ofCall? name body with
    | some c => .ok (.color c :: acc)
    | none =>
      match readUnresolved fuel name body with
      | some ps => .ok (ps.reverse ++ acc)
      | none =>
        match name, body.skipBlank with
        | "url", .token (.quoted address) _ rest =>
          (expectNothing rest).map fun _ => .token (.url address) :: acc
        | "var", .token (.ident n) _ rest =>
          if n.toList.take 2 = ['-', '-'] then fallback (.token (.ident n) :: opened) rest
          else .error ⟨.unexpectedToken (.ident n), body.start⟩
        | "var", cs => .error (cs.faultAt .unexpectedToken body.start)
        | "env", .token (.ident n) _ rest =>
          let n := if environmentNames.contains n.toLower then n.toLower else n
          let (head, rest) := readIndices (.token (.ident n) :: opened) rest
          fallback head rest
        | "env", cs => .error (cs.faultAt .unexpectedToken body.start)
        | _, _ => (readRawWithin fuel (depth + 1) body).map (close opened)

/-- Read a colour that depends on what is not known: its opacity, or the colours of a pair. -/
def readUnresolved : Nat → String → Components → Option Raw
  | 0, _, _ => none
  | fuel + 1, name, body =>
    let closing : RawPiece := .token (.closing .round)
    match readOpenColor name body with
    | some (s, places, rest) =>
      match places, readRawWithin fuel 0 rest with
      | [c], .ok ps => some (.openColor s c :: ps ++ [closing])
      | [c, d], .ok ps =>
        some (.openPair :: .openColor s c :: ps ++ closing :: .pairComma :: .openColor s d :: ps ++
          [closing, closing])
      | _, _ => none
    | none =>
      if name.toLower ≠ "light-dark" then none
      else do
        let (light, dark) ← body.splitComma?
        match readRawWithin fuel 0 light, readRawWithin fuel 1 dark with
        | .ok a, .ok b => some (.openPair :: a ++ .pairComma :: b ++ [closing])
        | _, _ => none

end

/-- Read a level as a raw value. -/
def readRaw (cs : Components) : Except SyntaxError Raw := readRawWithin (4 * cs.size + 4) 0 cs

/-! ## Printing -/

/-- A percentage as it was written: a plus sign stays, and what was no integer has a point. -/
def writtenPercentage (n : Numeric) : String :=
  let shown := n.value * 100
  let sign := if n.signed && !hasMinus shown then "+" else ""
  let digits := match n.integer with
    | some i => if shown == 0 then numberText shown else integerText i
    | none =>
      let (minus, rest) := match (numberText shown).toList with
        | '-' :: cs => ("-", cs)
        | cs => ("", cs)
      let point : Bool := rest.contains '.' || rest.contains 'e'
      minus ++ (if rest.head? = some '.' then "0" else "") ++ String.ofList rest ++
        (if point then "" else ".0")
  sign ++ digits ++ "%"

/-- The spelling of a token. -/
def Token.text (l : Layout) : Token → String
  | .ident n => writeIdent n
  | .atKeyword n => "@" ++ writeIdent n
  | .hash n => "#" ++ String.ofList (writeName n.toList)
  | .idHash n => "#" ++ writeIdent n
  | .quoted t => writeQuoted t
  | .url a => writeUrl l a
  | .number n => numberText n.value
  | .percentage n => writtenPercentage n
  | .dimension n u => unitText n.value u
  | .blank s => match l with
    | .pretty => s
    | .compact => " "
  | .colon => ":"
  | .semicolon => ";"
  | .includeMatch => "~="
  | .dashMatch => "|="
  | .prefixMatch => "^="
  | .suffixMatch => "$="
  | .substringMatch => "*="
  | .htmlOpen => "<!--"
  | .htmlClose => "-->"
  | .opening (.plain .round) => "("
  | .opening (.plain .square) => "["
  | .opening (.plain .curly) => "\x7b"
  | .opening (.function n) => writeIdent n ++ "("
  | .closing .round => ")"
  | .closing .square => "]"
  | .closing .curly => "\x7d"
  | .comma => ","
  | .delim c => c.toString
  | .badQuoted _ => ""
  | .badUrl _ => ""

/-- The start of a colour whose opacity follows; older targets know commas only. -/
def openColorText (p : Printing) (s : ColorSpace) (c : Coordinates) : String :=
  let spaced := !p.lacks .spacedColors
  let parts : List String := match s with
    | .hsl => [numberText c.x, (Percentage.mk c.y).text, (Percentage.mk c.z).text]
    | _ => [c.x, c.y, c.z].map fun x => decimalText (Color.byteOfShare x)
  if spaced then s.name ++ "(" ++ String.intercalate " " parts ++ p.layout.around "/"
  else s.name ++ "a(" ++ p.layout.commas parts ++ p.layout.after ","

/-- The start of a pair of colours. -/
def openPairText (p : Printing) : String :=
  if p.lacks .lightDark then "var(--lightningcss-light" ++ p.layout.after "," else "light-dark("

/-- What stands between the colours of a pair. -/
def pairCommaText (p : Printing) : String :=
  if p.lacks .lightDark then
    ")" ++ p.layout.space ++ "var(--lightningcss-dark" ++ p.layout.after ","
  else p.layout.after ","

/-- The spelling of a piece. -/
def RawPiece.text (p : Printing) : RawPiece → String
  | .token t => t.text p.layout
  | .color c => c.text p
  | .openColor s c => openColorText p s c
  | .openPair => openPairText p
  | .pairComma => pairCommaText p
  | .separator => p.layout.after ","
  | .length l => l.textInside
  | .angle a => a.text
  | .time t => t.text
  | .resolution r => r.text p

/-- The printed form of a raw value; in pretty layout white space alone vanishes. -/
def rawText (p : Printing) (ps : Raw) : String :=
  if p.layout = .pretty ∧ ps.length = 1 ∧ ps.all RawPiece.isBlank then ""
  else String.join (ps.map (RawPiece.text p))

end StyleBuild.Css
