import StyleBuild.Css.Declaration.Printer

/-!
# Pages

`@page` says how printed pages look: which pages it is about, declarations for the page, and
declarations for the boxes in its margin.
-/

namespace StyleBuild.Css

/-- Which pages a rule is about: those of a name, or of some kinds. -/
structure PageSelector where
  name : Option String
  kinds : List String
  deriving DecidableEq, Repr, Inhabited

namespace PageSelector

/-- The kinds of pages. -/
def allKinds : List String := ["left", "right", "first", "last", "blank"]

/-- The kinds in front, each behind a colon, and what follows; the number bounds how many. -/
def readKinds : Nat → Components → Except SyntaxError (List String × Components)
  | 0, cs => .ok ([], cs)
  | n + 1, .token .colon _ rest =>
    match readKeywordOf allKinds rest with
    | some (k, rest) => (readKinds n rest).map fun (ks, rest) => (k :: ks, rest)
    | none => .error rest.unexpected
  | _ + 1, cs => .ok ([], cs)

/-- The selector in front, and what follows. -/
def read (cs : Components) : Except SyntaxError (PageSelector × Components) := do
  let (name, rest) := match cs.skipBlank with
    | .token (.ident n) _ rest => (some n, rest)
    | cs => (none, cs)
  let (kinds, rest) ← readKinds rest.size rest
  if name.isNone && kinds.isEmpty then throw ⟨.pageSelector, rest.start⟩
  return (⟨name, kinds⟩, rest)

/-- Read a selector that fills a level. -/
def readWhole (cs : Components) : Except SyntaxError PageSelector := do
  let (s, rest) ← read cs
  expectNothing rest
  return s

/-- The selectors in front, and what follows; selectors with a fault are none at all. -/
def readList (cs : Components) : List PageSelector × Components :=
  match cs.splitCommas.mapM readWhole with
  | .ok ss => (ss, .done cs.stop)
  | .error _ => ([], cs)

/-- The printed form. -/
def text (s : PageSelector) : String :=
  ((s.name.map writeIdent).getD "") ++ String.join (s.kinds.map (":" ++ ·))

end PageSelector

/-- A box in the margin of a page. -/
structure MarginBox where
  name : String
  block : Block
  deriving BEq, Repr, Inhabited

/-- The names of the boxes in the margin of a page. -/
def marginBoxes : List String :=
  ["top-left-corner", "top-left", "top-center", "top-right", "top-right-corner", "left-top",
   "left-middle", "left-bottom", "right-top", "right-middle", "right-bottom",
   "bottom-left-corner", "bottom-left", "bottom-center", "bottom-right", "bottom-right-corner"]

/-- A rule for pages. -/
structure Page where
  selectors : List PageSelector
  block : Block := {}
  boxes : List MarginBox := []
  deriving BEq, Repr, Inhabited

namespace Page

/-- The body of a box in front, behind nothing but white space. -/
def readBox : Components → Except SyntaxError Block
  | .token (.blank _) _ rest => readBox rest
  | .block (.plain .curly) _ body _ => readDeclarations body
  | .done p => .error ⟨.unexpectedToken .semicolon, p⟩
  | cs => .error cs.unexpected

/-- Add items to a page: declarations, and boxes in its margin. -/
def addItems (page : Page) : List Components → Except SyntaxError Page
  | [] => .ok page
  | cs :: rest =>
    match cs with
    | .token (.atKeyword name) _ tail =>
      if marginBoxes.contains name.toLower then do
        let block ← readBox tail
        addItems { page with boxes := page.boxes ++ [⟨name.toLower, block⟩] } rest
      else .error ⟨.unknownAtRule name, tail.start⟩
    | cs => do
      let (d, isImportant) ← readItem cs
      addItems { page with block := page.block.push d isImportant } rest

/-- Read the body of a rule for some pages. -/
def read (selectors : List PageSelector) (body : Components) : Except SyntaxError Page :=
  addItems { selectors } body.items

/-- The selectors as printed behind the keyword; only a name needs a space before it. -/
def selectorsText (l : Layout) (ss : List PageSelector) : String :=
  match ss with
  | [] => ""
  | s :: _ => (if s.name.isSome then " " else l.space) ++ l.commas (ss.map PageSelector.text)

/-- A box, at an indentation. -/
def boxText (p : Printing) (depth : Nat) (b : MarginBox) : String :=
  "@" ++ b.name ++ b.block.print p depth

/-- The printed form, at an indentation. -/
def text (p : Printing) (depth : Nat) (page : Page) : String :=
  let l := p.layout
  let closed : Bool := l == .pretty || !page.boxes.isEmpty
  "@page" ++ selectorsText l page.selectors ++ l.space ++ "\x7b" ++
    printLines l (depth + 1) closed (page.block.texts p) ++
    (if page.boxes.isEmpty then ""
     else
      (if page.block.isEmpty then "" else l.lineEnd) ++ l.newline (depth + 1) ++
        String.intercalate (l.lineEnd ++ l.newline (depth + 1))
          (page.boxes.map (boxText p (depth + 1)))) ++
    l.newline depth ++ "\x7d"

end Page

end StyleBuild.Css
