import StyleBuild.Css.SyntaxError
import StyleBuild.Css.Written
import StyleBuild.Css.Media
import StyleBuild.Css.Supports

/-!
# Imported sheets

`@import` names a sheet, and perhaps the layer that it goes to and the conditions under which it
counts.

The name of a layer is a path of identifiers from the outside in, with points between them.
-/

namespace StyleBuild.Css

/-! ## Cascade layers -/

/-- The name of a cascade layer: its identifiers from the outside in. -/
abbrev LayerName := List String

namespace LayerName

/-- The identifiers behind points. -/
def readInner : Components → LayerName × Components
  | .token (.delim '.') _ (.token (.ident n) _ rest) =>
    let (ns, rest) := readInner rest
    (n :: ns, rest)
  | cs => ([], cs)

/-- The layer name in front, and what follows. -/
def read (cs : Components) : Except SyntaxError (LayerName × Components) :=
  match cs.skipBlank with
  | .token (.ident n) _ rest =>
    let (ns, rest) := readInner rest
    .ok (n :: ns, rest)
  | _ => .error cs.unexpected

/-- Read the layer names of a list; a list that is not complete names none. -/
def readList (cs : Components) : Except SyntaxError (List LayerName) :=
  (readItems read (cs.splitCommas.map Components.skipBlank)).map fun (ns, complete) =>
    if complete then ns else []

/-- The printed form. -/
def text (n : LayerName) : String := String.intercalate "." (n.map writeIdent)

end LayerName

/-! ## Rules -/

/-- An imported sheet: its address, its layer (perhaps unnamed), and when it counts. -/
structure Import where
  address : String
  layer : Option (Option LayerName)
  supports : Option SupportsQuery
  media : List MediaQuery
  deriving BEq, Repr, Inhabited

namespace Import

/-- Read the layer in front, if there is one, and what follows. -/
def readLayer (cs : Components) :
    Except SyntaxError (Option (Option LayerName) × Components) :=
  match cs.skipBlank with
  | .token (.ident k) _ rest => .ok (if k.toLower = "layer" then (some none, rest) else (none, cs))
  | .block (.function f) _ body rest =>
    if f.toLower = "layer" then do
      let (name, tail) ← LayerName.read body
      expectNothing tail
      return (some (some name), rest)
    else .ok (none, cs)
  | _ => .ok (none, cs)

/-- Read the support query in front, if there is one, and what follows; a declaration needs no
parentheses of its own. -/
def readQuery (cs : Components) : Except SyntaxError (Option SupportsQuery × Components) :=
  match cs.skipBlank with
  | .block (.function f) _ body rest =>
    if f.toLower = "supports" then do
      match readSupports body with
      | .ok (c, tail) =>
        expectNothing tail
        return (some c, rest)
      | .error _ => return (some (.test (← SupportsTest.readDeclaration body)), rest)
    else .ok (none, cs)
  | _ => .ok (none, cs)

/-- Read what stands behind the keyword. -/
def read (cs : Components) : Except SyntaxError Import := do
  let (address, cs) ← readAddress cs
  let (layer, cs) ← readLayer cs
  let (supports, cs) ← readQuery cs
  return ⟨address, layer, supports, ← readMediaList cs⟩

/-- A support query inside of `supports()`; a test has its parentheses already. -/
def queryText (p : Printing) (c : SupportsQuery) : String :=
  let t := c.text (SupportsTest.printer p)
  match c with
  | .test (.declaration _ _) => t
  | .test (.verbatim _) => t
  | _ => "(" ++ t ++ ")"

/-- The printed form. -/
def text (p : Printing) (i : Import) : String :=
  "@import " ++ writeQuoted i.address ++
    (match i.layer with
     | none => ""
     | some none => " layer"
     | some (some n) => " layer(" ++ n.text ++ ")") ++
    (match i.supports with
     | none => ""
     | some c => " supports" ++ queryText p c) ++
    (if i.media.isEmpty then "" else " " ++ mediaText p i.media) ++ ";"

end Import

end StyleBuild.Css
