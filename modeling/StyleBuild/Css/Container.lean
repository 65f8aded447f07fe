import StyleBuild.Css.Declaration.Printer
import StyleBuild.Css.Media.Feature

/-!
# Container queries

`@container` names a container, or asks for a condition on it, or both. Besides the size of the
container a condition may ask for the style of it and for the state of its scrolling. Comparisons
are printed as such for all targets.
-/

namespace StyleBuild.Css

/-- A test of the style of a container. -/
inductive StyleTest where
  | declaration (d : Declaration)
  | property (p : PropertyId)
  deriving BEq, Repr, Inhabited

/-- A test of a container. -/
inductive ContainerTest where
  | size (t : FeatureTest)
  | style (c : Condition StyleTest)
  | scroll (c : Condition FeatureTest)
  deriving BEq, Repr, Inhabited

namespace StyleTest

/-- Read a declaration or the name of a property, up to the end. -/
def read (cs : Components) : Except SyntaxError (StyleTest × Components) :=
  match cs.skipBlank with
  | .token (.ident n) _ rest =>
    match rest.skipBlank with
    | .token .colon _ value =>
      (readDeclaration n rest.skipBlank).map fun (d, _) => (.declaration d, .done value.stop)
    | _ => .ok (.property (.ofName n), rest)
  | _ => .error cs.unexpected

/-- How tests of style are read. -/
def grammar : TestGrammar StyleTest := { inside := read }

/-- A test as printed. -/
def text (p : Printing) : StyleTest → String
  | .declaration d => String.intercalate (";" ++ p.layout.space) (d.texts p false)
  | .property (.known q) =>
    String.intercalate (p.layout.after ",") (q.prefixes.members.map fun m => m.text ++ q.name)
  | .property (.custom n) => writeIdent n

/-- How conditions of style are printed. -/
def printer (p : Printing) : TestPrinter StyleTest := { text := text p, isOpen := fun _ _ => true }

end StyleTest

namespace ContainerTest

/-- Read a condition that fills a level; what is no condition is a single test. -/
def readInner {α : Type} (g : TestGrammar α) (body : Components) :
    Except SyntaxError (Condition α) := do
  let (c, tail) ← match Condition.read g true body with
    | .ok r => pure r
    | .error _ => (g.inside body).map fun (t, tail) => (.test t, tail)
  expectNothing tail
  return c

/-- How tests of containers are read. -/
def grammar : TestGrammar ContainerTest where
  inside cs := (FeatureTest.read containerFeatures cs).map fun (t, rest) => (.size t, rest)
  call? name body :=
    match name.toLower with
    | "style" => some ((readInner StyleTest.grammar body).map .style)
    | "scroll-state" =>
      some ((readInner (FeatureTest.grammar scrollFeatures) body).map .scroll)
    | _ => none

/-- A test as printed. -/
def text (p : Printing) : ContainerTest → String
  | .size t => t.text p
  | .style c => "style(" ++ c.text (StyleTest.printer p) ++ ")"
  | .scroll (.test t) => "scroll-state" ++ t.text p
  | .scroll c => "scroll-state(" ++ c.text (FeatureTest.printer p) ++ ")"

/-- How conditions on containers are printed. -/
def printer (p : Printing) : TestPrinter ContainerTest :=
  { text := text { p with targets := none } }

end ContainerTest

/-- What `@container` asks for. -/
structure ContainerQuery where
  name : Option String
  condition : Option (Condition ContainerTest)
  deriving BEq, Repr, Inhabited

namespace ContainerQuery

/-- The name in front, and what follows; a word of conditions is no name. -/
def readName (cs : Components) : Option String × Components :=
  match cs.skipBlank with
  | .token (.ident n) _ rest =>
    if (["none", "and", "not", "or"] ++ wideKeywords).contains n.toLower then (none, cs)
    else (some n, rest)
  | _ => (none, cs)

/-- Read a query that fills a level. -/
def read (cs : Components) : Except SyntaxError ContainerQuery :=
  let (name, rest) := readName cs
  match Condition.read ContainerTest.grammar true rest with
  | .ok (c, tail) => (expectNothing tail).map fun _ => ⟨name, some c⟩
  | .error e => if name.isSome && rest.isBlank then .ok ⟨name, none⟩ else .error e

/-- A query as printed. -/
def text (p : Printing) (q : ContainerQuery) : String :=
  String.intercalate " " ((q.name.map writeIdent).toList ++
    (q.condition.map (Condition.text (ContainerTest.printer p))).toList)

end ContainerQuery

end StyleBuild.Css
