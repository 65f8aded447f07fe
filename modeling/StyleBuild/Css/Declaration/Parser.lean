import StyleBuild.Css.Declaration.Basic

/-!
# Reading declarations

`readDeclaration` reads a name, a colon and a value from a level of components. A value of a
known property that is not understood is kept raw.
-/

namespace StyleBuild.Css

/-! ## Values -/

/-- Read the distance of a side in front. -/
def readSide (cs : Components) : Option (Side × Components) :=
  match readKeywordOf ["auto"] cs with
  | some (_, rest) => some (.auto, rest)
  | none => (readQuantity .lengthPercentage cs).map fun (d, rest) => (.distance d, rest)

/-- Read distances up to the end; the number bounds how many. -/
def readSides : Nat → Components → Option (List Side)
  | 0, cs => if cs.isBlank then some [] else none
  | n + 1, cs =>
    if cs.isBlank then some []
    else do
      let (side, rest) ← readSide cs
      let sides ← readSides n rest
      return side :: sides

/-- The sides by one to four distances. -/
def Sides.ofList? : List Side → Option Sides
  | [a] => some ⟨a, a, a, a⟩
  | [a, b] => some ⟨a, b, a, b⟩
  | [a, b, c] => some ⟨a, b, c, b⟩
  | [a, b, c, d] => some ⟨a, b, c, d⟩
  | _ => none

/-- Read the sides of a box. -/
def Sides.read? (cs : Components) : Option Sides := (readSides 4 cs).bind Sides.ofList?

/-- The integer of a level. -/
def onlyInteger? (cs : Components) : Option Int :=
  match cs.skipBlank with
  | .token (.number n) _ rest => if rest.isBlank then n.integer else none
  | _ => none

/-- The value of a known property, if it is understood. -/
def readValue? (property : Property) (cs : Components) : Option Declaration :=
  match property with
  | .zIndex =>
    if onlyKeyword? cs = some "auto" then some (.zIndex none)
    else (onlyInteger? cs).map fun i => .zIndex (some i)
  | .order p => (onlyInteger? cs).map (.order · p)
  | .flexOrder => (onlyInteger? cs).map .flexOrder
  | .ordinalGroup p => (onlyInteger? cs).map (.ordinalGroup · p)
  | .color => (whole? (readColor cs)).map .color
  | .sides l => (Sides.read? cs).map (.sides l)
  | .side l e => (whole? (readSide cs)).map (.side l e)
  | .opacity => (whole? (readNumberOrPercentage cs)).map .opacity
  | .display => (Display.read? cs).map .display
  | .userSelect p =>
    (whole? (readKeywordOf ["auto", "text", "none", "contain", "all"] cs)).map (.userSelect · p)
  | .transform p => (Transform.read? cs).map (.transform · p)
  | .fontFamily => (Family.readList? cs).map .fontFamily
  | .listStyleType => (Marker.read? cs).map .listStyleType
  | .animation p => (Animation.readList? cs).map (.animation · p)
  | .animationTimeline => (cs.splitCommas.mapM Timeline.read?).map .animationTimeline

/-! ## Declarations -/

/-- Whether a name is one of a custom property. -/
def isCustomName (name : String) : Bool := name.toList.take 2 == ['-', '-']

/-- Split a value before an exclamation mark; the second part starts with the mark. -/
def splitBang : List Component → List Component × List Component
  | [] => ([], [])
  | .token (.delim '!') p :: rest => ([], .token (.delim '!') p :: rest)
  | c :: rest =>
    let (value, bang) := splitBang rest
    (c :: value, bang)

/-- Split a value before a curly block. -/
def splitCurly : List Component → List Component × List Component
  | [] => ([], [])
  | .block (.plain .curly) p body :: rest => ([], .block (.plain .curly) p body :: rest)
  | c :: rest =>
    let (value, block) := splitCurly rest
    (c :: value, block)

/-- What follows a value: nothing, or the mark of importance. -/
def readImportance (cs : Components) : Except SyntaxError Bool :=
  match cs with
  | .token (.delim '!') _ rest =>
    match readKeyword rest with
    | some ("important", rest) => (expectNothing rest).map fun _ => true
    | _ => .error cs.unexpected
  | cs => (expectNothing cs).map fun _ => false

/-- Read the value of a property by its written name. -/
def readValue (name : String) (cs : Components) : Except SyntaxError Declaration :=
  match Property.ofName? name with
  | none => (readRaw cs).map (.custom name)
  | some property =>
    match readValue? property cs with
    | some d => .ok d
    | none => (readRaw cs).map (.unread property)

/-- Read what follows the name of a declaration: a colon, a value and perhaps the mark of
importance. The result tells whether the declaration is important. -/
def readDeclaration (name : String) (cs : Components) :
    Except SyntaxError (Declaration × Bool) :=
  match cs.skipBlank with
  | .token .colon _ rest =>
    let (value, bang) := splitBang rest.toList
    let (value, block) := if isCustomName name then (value, []) else splitCurly value
    let after := Components.ofList rest.stop (block ++ bang)
    match readValue name (.ofList after.start value) with
    | .error e => .error e
    | .ok d => (readImportance after).map (d, ·)
  | _ => .error cs.unexpected

/-! ## Lists of declarations -/

/-- Read an item of a body as a declaration. -/
def readItem (cs : Components) : Except SyntaxError (Declaration × Bool) :=
  match cs with
  | .token (.ident name) _ rest => readDeclaration name rest
  | .token (.atKeyword name) _ rest => .error ⟨.unknownAtRule name, rest.start⟩
  | cs => .error cs.unexpected

/-- Add the declarations of items to a block. -/
def addItems (block : Block) : List Components → Except SyntaxError Block
  | [] => .ok block
  | cs :: rest => do
    let (d, isImportant) ← readItem cs
    addItems (block.push d isImportant) rest

/-- Read a list of declarations. -/
def readDeclarations (cs : Components) : Except SyntaxError Block := addItems {} cs.items

end StyleBuild.Css
