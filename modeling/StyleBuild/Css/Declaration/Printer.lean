import StyleBuild.Css.Declaration.Parser

/-!
# Printing declarations

A declaration that stands for several vendor spellings prints once for each.
-/

namespace StyleBuild.Css

/-- The distance of a side. -/
def Side.text (p : Printing) : Side → String
  | .auto => "auto"
  | .distance (.value v) => v.text
  | .distance c => c.text p

/-- The sides, equal ones written once. -/
def Sides.text (p : Printing) (s : Sides) : String :=
  let parts :=
    if s.left == s.right then
      if s.top == s.bottom then if s.right == s.top then [s.top] else [s.top, s.right]
      else [s.top, s.right, s.bottom]
    else [s.top, s.right, s.bottom, s.left]
  String.intercalate " " (parts.map (Side.text p))

/-- The value of a declaration. -/
def Declaration.value (p : Printing) : Declaration → String
  | .zIndex none => "auto"
  | .zIndex (some n) => integerText n
  | .order n _ | .ordinalGroup n _ => integerText n
  | .flexOrder n => integerText n
  | .color c => c.text p
  | .sides _ s => s.text p
  | .side _ _ v => v.text p
  | .opacity v => numberText v
  | .display d => d.text
  | .userSelect k _ => k
  | .transform fs _ => Transform.listText p fs
  | .fontFamily fs => p.layout.commas (fs.map Family.text)
  | .listStyleType m => m.css
  | .animation as _ => p.layout.commas (as.map (Animation.text p))
  | .animationTimeline ts => p.layout.commas (ts.map (Timeline.text p))
  | .unread _ v => rawText p v
  | .custom _ v => rawText p v

/-- The names under which a declaration prints. -/
def Declaration.names (d : Declaration) : List String :=
  match d.property with
  | .known q => q.prefixes.members.map fun m => m.text ++ q.name
  | .custom n => [writeIdent n]

/-- A declaration, once for each spelling of its property. -/
def Declaration.texts (p : Printing) (isImportant : Bool) (d : Declaration) : List String :=
  let value := d.value p ++ (if isImportant then p.layout.space ++ "!important" else "")
  d.names.map fun n => n ++ p.layout.after ":" ++ value

/-- The declarations of a block as printed, in order. -/
def Block.texts (p : Printing) (b : Block) : List String :=
  b.normal.flatMap (Declaration.texts p false) ++ b.important.flatMap (Declaration.texts p true)

/-- Lines on their own, each ended by a semicolon; the last one only where `closed` says so. -/
def printLines (l : Layout) (depth : Nat) (closed : Bool) : List String → String
  | [] => ""
  | [t] => l.newline depth ++ t ++ (if closed then ";" else "")
  | t :: ts => l.newline depth ++ t ++ ";" ++ printLines l depth closed ts

/-- A block with its braces, at an indentation. An empty one has an empty line. -/
def Block.print (p : Printing) (depth : Nat) (b : Block) : String :=
  p.layout.space ++ "\x7b" ++
    (if b.isEmpty then p.layout.newline (depth + 1)
     else printLines p.layout (depth + 1) (p.layout = .pretty) (b.texts p)) ++
    p.layout.newline depth ++ "\x7d"

end StyleBuild.Css
