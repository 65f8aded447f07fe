import StyleBuild.Css.Condition
import StyleBuild.Css.Declaration.Parser
import StyleBuild.Css.Fallback

/-!
# Support queries

`@supports` asks whether declarations, selectors and other things are understood. Except for the
names of properties all is kept letter by letter, since what is not understood must not be
respelled.
-/

namespace StyleBuild.Css

/-- A test of what is understood. -/
inductive SupportsTest where
  | declaration (property : PropertyId) (value : String)
  | selector (text : String)
  /-- Anything else, as it is written. -/
  | verbatim (text : String)
  deriving BEq, Repr, Inhabited

/-- A support query. -/
abbrev SupportsQuery := Condition SupportsTest

namespace SupportsTest

/-! ## Reading -/

/-- Expect no token that is an error in itself. -/
def expectSound : Components → Except SyntaxError Unit
  | .done _ => .ok ()
  | .token t _ rest =>
    if t.isBad then .error ⟨.unexpectedToken t, rest.start⟩ else expectSound rest
  | .block _ _ body rest => do
    expectSound body
    expectSound rest

/-- The written text of a level from a place on. -/
def writtenFrom (start : Position) (cs : Components) : String :=
  String.ofList (start.slice cs.stop)

/-- Read a declaration that fills a level. -/
def readDeclaration (cs : Components) : Except SyntaxError SupportsTest :=
  match cs.skipBlank with
  | .token (.ident n) _ rest =>
    match rest.skipBlank with
    | .token .colon _ rest => do
      expectSound rest
      return .declaration (.ofName n) (writtenFrom rest.skipBlank.start rest)
    | _ => .error rest.unexpected
  | _ => .error cs.unexpected

/-- The test that is written as a block: the text from its start up to what follows. -/
def readVerbatim (start : Position) (body rest : Components) : Except SyntaxError SupportsTest := do
  expectSound body
  return .verbatim (String.ofList (start.slice rest.start))

/-- The test that is written as a function. -/
def readCall (name : String) (start : Position) (body rest : Components) :
    Except SyntaxError SupportsTest :=
  if name.toLower = "selector" then do
    expectSound body
    return .selector (writtenFrom body.start body)
  else readVerbatim start body rest

end SupportsTest

/-- Add spellings to the first declaration of the same property and value. -/
def joinDeclaration (property : PropertyId) (value : String) :
    List SupportsQuery → Option (List SupportsQuery)
  | [] => none
  | .test (.declaration q v) :: cs =>
    if v = value ∧ q.unprefixed = property.unprefixed then
      some (.test (.declaration (q.withSpellings property) v) :: cs)
    else (joinDeclaration property value cs).map (.test (.declaration q v) :: ·)
  | c :: cs => (joinDeclaration property value cs).map (c :: ·)

/-- Add a part to the parts of a query; a declaration in another spelling joins the first. -/
def addSupportsPart (parts : List SupportsQuery) (c : SupportsQuery) : List SupportsQuery :=
  match c with
  | .test (.declaration property value) =>
    (joinDeclaration property value parts).getD (parts ++ [c])
  | c => parts ++ [c]

/-- Join the parts of a query. -/
def joinSupports (k : Connective) : List SupportsQuery → SupportsQuery
  | [] => .test (.verbatim "")
  | c :: cs => cs.foldl (Condition.join k) c

mutual

/-- Read a support query in front. The number bounds the depth of the reading. -/
def readSupportsWithin : Nat → Components → Except SyntaxError (SupportsQuery × Components)
  | 0, cs => .error cs.unexpected
  | fuel + 1, cs =>
    match readKeyword cs with
    | some ("not", rest) => (readSupportsPart fuel rest).map fun (c, rest) => (.not c, rest)
    | _ => do
      let (c, rest) ← readSupportsPart fuel cs
      match rest.connective? with
      | none => return (c, rest)
      | some (k, _) =>
        let (parts, rest) := readSupportsParts fuel k [c] rest
        return (joinSupports k parts, rest)

/-- Read the parts that a connective joins to others, as far as they can be read. -/
def readSupportsParts : Nat → Connective → List SupportsQuery → Components →
    List SupportsQuery × Components
  | 0, _, parts, cs => (parts, cs)
  | fuel + 1, k, parts, cs =>
    match cs.connective? with
    | none => (parts, cs)
    | some (j, rest) =>
      if j = k then
        match readSupportsPart fuel rest with
        | .ok (c, rest) => readSupportsParts fuel k (addSupportsPart parts c) rest
        | .error _ => (parts, cs)
      else (parts, cs)

/-- Read one part of a support query. -/
def readSupportsPart : Nat → Components → Except SyntaxError (SupportsQuery × Components)
  | 0, cs => .error cs.unexpected
  | fuel + 1, cs =>
    let cs := cs.skipBlank
    match cs with
    | .block (.plain .round) p body rest =>
      match readSupportsWithin fuel body with
      | .ok (c, tail) =>
        if tail.isBlank then .ok (c, rest)
        else (SupportsTest.readVerbatim p body rest).map fun t => (.test t, rest)
      | .error _ =>
        match SupportsTest.readDeclaration body with
        | .ok t => .ok (.test t, rest)
        | .error _ => (SupportsTest.readVerbatim p body rest).map fun t => (.test t, rest)
    | .block (.function n) p body rest =>
      (SupportsTest.readCall n p body rest).map fun t => (.test t, rest)
    | _ => .error cs.unexpected

end

/-- Read a support query in front. -/
def readSupports (cs : Components) : Except SyntaxError (SupportsQuery × Components) :=
  readSupportsWithin (2 * cs.size + 4) cs

namespace SupportsTest

/-! ## Printing -/

/-- A declaration in one spelling. -/
def spellingText (p : Printing) (name value : String) : String :=
  String.ofList (writeName name.toList) ++ p.layout.after ":" ++ value

/-- A test as printed; a declaration in vendor spellings is an alternative of them. -/
def text (p : Printing) : SupportsTest → String
  | .verbatim t => t
  | .selector t => "selector(" ++ t ++ ")"
  | .declaration property value =>
    match property with
    | .custom name => "(" ++ spellingText p name value ++ ")"
    | .known q =>
      let spellings := q.prefixes.members.map fun m => spellingText p (m.text ++ q.name) value
      if q.prefixes = .standard then "(" ++ String.intercalate ") or (" spellings ++ ")"
      else "((" ++ String.intercalate ") or (" spellings ++ "))"

/-- How support queries are printed. -/
def printer (p : Printing) : TestPrinter SupportsTest := { text := text p }

/-- A test with the spellings that targets need. -/
def forTargets (targets : Option Browsers) : SupportsTest → SupportsTest
  | .declaration (.known q) v => .declaration (.known (q.forTargets targets)) v
  | t => t

end SupportsTest

/-! ## What a query says about browsers -/

namespace SupportsQuery

/-- The features that a browser has if it answers a query with yes, unless the query has a
negation or alternatives. -/
def grants? : SupportsQuery → Option (List Feature)
  | .test (.declaration _ value) =>
    match readRaw (components value.toList) with
    | .ok ps => some (Raw.features ps)
    | .error _ => some []
  | .test _ => some []
  | .both a b =>
    match grants? a, grants? b with
    | some fs, some gs => some (fs ++ gs)
    | _, _ => none
  | .not _ => none
  | .either _ _ => none

/-- The features that a browser has if it answers a query with yes, as far as that is known. -/
def grants (c : SupportsQuery) : List Feature := (grants? c).getD []

end SupportsQuery

end StyleBuild.Css
