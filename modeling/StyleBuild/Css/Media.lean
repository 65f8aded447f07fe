import StyleBuild.Css.Component
import StyleBuild.Css.Media.Feature

/-!
# Media queries

A media query asks for a medium and for features of it. A list of queries holds where one of them
does; a list that ends too early ends before the query that is missing.
-/

namespace StyleBuild.Css

/-- What may stand before a medium. -/
inductive Qualifier where
  | only
  | not
  deriving DecidableEq, Repr, Inhabited

/-- A media query; the medium `all` is `none`. -/
structure MediaQuery where
  qualifier : Option Qualifier
  medium : Option String
  condition : Option (Condition FeatureTest)
  deriving BEq, Repr, Inhabited

namespace MediaQuery

/-- Whether the query holds everywhere. -/
def alwaysMatches (q : MediaQuery) : Bool :=
  q.qualifier.isNone && q.medium.isNone && q.condition.isNone

/-- Whether the query holds nowhere. -/
def neverMatches (q : MediaQuery) : Bool :=
  q.qualifier == some .not && q.medium.isNone && q.condition.isNone

/-- The qualifier in front, and what follows. -/
def readQualifier (cs : Components) : Option Qualifier × Components :=
  match readKeyword cs with
  | some ("only", rest) => (some .only, rest)
  | some ("not", rest) => (some .not, rest)
  | _ => (none, cs)

/-- A medium by its name. -/
def mediumOf (name : String) : Option String :=
  match name.toLower with
  | "all" => none
  | "print" => some "print"
  | "screen" => some "screen"
  | _ => some name

/-- Read one query in front. -/
def read (cs : Components) : Except SyntaxError (MediaQuery × Components) :=
  let condition (orAllowed : Bool) (cs : Components) :
      Except SyntaxError (Condition FeatureTest × Components) :=
    Condition.read (FeatureTest.grammar mediaFeatures) orAllowed cs
  let (qualifier, rest) := readQualifier cs
  match rest.skipBlank with
  | .token (.ident n) _ rest =>
    match readKeyword rest with
    | some ("and", tail) =>
      (condition false tail).map fun (c, rest) => (⟨qualifier, mediumOf n, some c⟩, rest)
    | _ => .ok (⟨qualifier, mediumOf n, none⟩, rest)
  | _ => (condition true cs).map fun (c, rest) => (⟨none, none, some c⟩, rest)

/-- How the tests of media are printed. -/
def printer (p : Printing) : TestPrinter FeatureTest :=
  { FeatureTest.printer p with turns := true, contrary? := FeatureTest.contrary? }

/-- Print a query. -/
def text (p : Printing) (q : MediaQuery) : String :=
  let qualifier := match q.qualifier with
    | some .only => "only "
    | some .not => "not "
    | none => ""
  let named : Bool := q.medium.isSome || q.qualifier.isSome
  let medium := match q.medium with
    | some m => writeIdent m
    | none => if named || q.condition.isNone then "all" else ""
  let condition := match q.condition with
    | none => ""
    | some c =>
      (if named then " and " else "") ++
        parenthesized (named && c.connective? == some .or) (c.text (printer p))
  qualifier ++ medium ++ condition

/-- The vendor spellings of a query that targets need. -/
def spellings (targets : Option Browsers) (q : MediaQuery) : List Prefixes :=
  if q.condition.any (·.any FeatureTest.comparesResolution) then
    { Prefixes.standard.forTargets .resolutionQuery targets with plain := false }.members
  else []

/-- A query in a vendor spelling. -/
def spelled (vendor : Prefixes) (q : MediaQuery) : MediaQuery :=
  { q with condition := q.condition.map (·.map (FeatureTest.asPixelRatio vendor)) }

/-- Put the vendor spellings that targets need before each query of a list. A spelling that is
there already is not put there again, and the query behind it is passed over. `before` holds the
queries that are done, and the number bounds those that are left. -/
def spellFrom (targets : Option Browsers) : Nat → List MediaQuery → List MediaQuery →
    List MediaQuery
  | 0, before, rest => before ++ rest
  | _ + 1, before, [] => before
  | n + 1, before, q :: rest =>
    let all := (q.spellings targets).map (spelled · q)
    let new := all.filter fun r => !(before ++ q :: rest).contains r
    let passed := all.length - new.length
    spellFrom targets n (before ++ new ++ q :: rest.take passed) (rest.drop passed)

end MediaQuery

/-- A list of media queries in the spellings that targets need. -/
def spellMedia (targets : Option Browsers) (qs : List MediaQuery) : List MediaQuery :=
  MediaQuery.spellFrom targets qs.length [] qs

/-- Read a list of media queries. -/
def readMediaList (cs : Components) : Except SyntaxError (List MediaQuery) :=
  if cs.isBlank then .ok [] else (readItems MediaQuery.read cs.splitCommas).map (·.1)

/-- Print a list of media queries; an empty one that has to be printed holds nowhere. -/
def mediaText (p : Printing) (qs : List MediaQuery) : String :=
  if qs.isEmpty then "not all" else p.layout.commas (qs.map (MediaQuery.text p))

end StyleBuild.Css
