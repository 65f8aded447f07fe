import StyleBuild.Browsers.Releases
import StyleBuild.Text.Blank

/-!
# Browser queries

A query is a list of terms such as `safari 10`, `ie 9-11` or `not ie 11`, joined by commas, `or`
and `and`. Where no term can be read the text up to the next connective, that included, is a term
that means nothing. A query has to be read to its end.
-/

namespace StyleBuild

/-- Why a query cannot be answered. -/
inductive QueryError where
  | noQuery
  | unreadable (rest : String)
  | negatedFirst (term : String)
  | unknownBrowser (name : String)
  | unknownVersion (name version : String)
  | unknownFrame (version : String)
  | unknownServer (version : String)
  | unknownTerm (term : String)
  deriving DecidableEq, Repr

/-- The error in words. -/
def QueryError.message : QueryError → String
  | .noQuery => "targets must contain at least one browserslist query"
  | .unreadable rest =>
    "invalid browser targets: failed to parse the rest of input: ...'" ++ rest ++ "'"
  | .negatedFirst term =>
    "invalid browser targets: query cannot start with 'not'; add any other queries before '" ++
      term ++ "'"
  | .unknownBrowser name => "invalid browser targets: unknown browser: '" ++ name ++ "'"
  | .unknownVersion name version =>
    "invalid browser targets: unknown version '" ++ version ++ "' of browser '" ++ name ++ "'"
  | .unknownFrame version =>
    "invalid browser targets: unknown Electron version: " ++ version
  | .unknownServer version =>
    "invalid browser targets: unknown Node.js version: " ++ version
  | .unknownTerm term => "invalid browser targets: unknown browser query: '" ++ term ++ "'"

/-- How a version is compared. -/
inductive Comparison where
  | atLeast
  | atMost
  | above
  | below
  deriving DecidableEq, Repr

/-- Which versions are meant. -/
inductive VersionRange where
  | exactly (version : String)
  | between (first last : String)
  | compared (comparison : Comparison) (version : String)
  deriving DecidableEq, Repr

/-- A term of a query. -/
inductive QueryTerm where
  | defaults
  | dead
  | longSupport
  | mini
  | serverSupport
  | phantom (second : Bool)
  | latest (count : Nat) (majors : Bool) (name : Option String)
  | frame (range : VersionRange)
  | server (range : VersionRange)
  | browser (name : String) (range : VersionRange)
  | unknown (text : String)
  deriving DecidableEq, Repr

/-- How a term changes the releases found so far. -/
inductive QueryJoin where
  | add
  | keep
  deriving DecidableEq, Repr

/-- A term with its connective and its text. -/
structure QueryPart where
  join : QueryJoin
  negated : Bool
  term : QueryTerm
  text : String
  deriving DecidableEq, Repr

/-! ## Reading

Readers take a value off the front of a text and leave the rest. -/

namespace QueryPart

/-- Whether a character separates words. -/
def isGap (c : Char) : Bool := c == ' ' || c == '\t'

/-- Read a word in either case. -/
def readWord (word : String) (cs : List Char) : Option (List Char) :=
  let n := word.length
  if (cs.take n).map Char.toLower = word.toList then some (cs.drop n) else none

/-- Read one gap or more. -/
def readGap (cs : List Char) : Option (List Char) :=
  if cs.head?.any isGap then some (cs.dropWhile isGap) else none

/-- Read words with gaps between them. -/
def readWords : List String → List Char → Option (List Char)
  | [], cs => some cs
  | [w], cs => readWord w cs
  | w :: ws, cs => do readWords ws (← readGap (← readWord w cs))

/-- Read the characters that pass a test, at least one. -/
def readSome (p : Char → Bool) (cs : List Char) : Option (String × List Char) :=
  match cs.takeWhile p with
  | [] => none
  | w => some (String.ofList w, cs.dropWhile p)

/-- Read the name of a browser. -/
def readName : List Char → Option (String × List Char) := readSome fun c => c.isAlpha || c == '_'

/-- Read a version. -/
def readVersion : List Char → Option (String × List Char) := readSome fun c => c.isDigit || c == '.'

/-- Read a comparison. -/
def readComparison : List Char → Option (Comparison × List Char)
  | '>' :: '=' :: cs => some (.atLeast, cs)
  | '<' :: '=' :: cs => some (.atMost, cs)
  | '>' :: cs => some (.above, cs)
  | '<' :: cs => some (.below, cs)
  | _ => none

/-- Read a version, two of them around a dash, or a comparison with one. -/
def readRange (cs : List Char) : Option (VersionRange × List Char) :=
  match readComparison cs, readVersion cs with
  | some (c, rest), _ =>
    (readVersion (rest.dropWhile isGap)).map fun (v, rest) => (.compared c v, rest)
  | none, some (v, rest) =>
    match rest.dropWhile isGap with
    | '-' :: more =>
      match readVersion (more.dropWhile isGap) with
      | some (w, more) => some (.between v w, more)
      | none => some (.exactly v, rest)
    | _ => some (.exactly v, rest)
  | none, none => (readWord "tp" cs).map fun rest => (.exactly "TP", rest)

/-- Read `or` or a comma, or `and`. -/
def readJoin (cs : List Char) : Option (QueryJoin × List Char) :=
  match readGap cs >>= readWord "and" >>= readGap, cs.dropWhile isGap with
  | some rest, _ => some (.keep, rest)
  | none, ',' :: rest => some (.add, rest.dropWhile isGap)
  | none, _ => (readGap cs >>= readWord "or" >>= readGap).map (.add, ·)

/-- The text through the next connective, last character first. -/
def unknownText (seen : List Char) : List Char → Option (List Char × List Char)
  | [] => none
  | c :: cs =>
    match readJoin (c :: cs) with
    | some (_, rest) => some (((c :: cs).take (cs.length + 1 - rest.length)).reverse ++ seen, rest)
    | none => unknownText (c :: seen) cs

/-- Read the number of releases that are the last ones. -/
def readLatest (cs : List Char) : Option (QueryTerm × List Char) := do
  let (ds, cs) ← readSome Char.isDigit (← readGap (← readWord "last" cs))
  let n := valueOfDigits 10 ds.toList
  if Nat.pow 2 16 ≤ n then none
  let cs ← readGap cs
  let named : Option (String × List Char) := do
    let (name, cs) ← readName cs
    if ["major", "version", "versions"].contains name.toLower then none
    return (name, ← readGap cs)
  let cs := (named.map Prod.snd).getD cs
  let major := readWord "major" cs >>= readGap
  let cs ← readWord "version" (major.getD cs)
  return (.latest n major.isSome (named.map Prod.fst), (readWord "s" cs).getD cs)

/-- The readers of the terms, in the order in which they are tried. -/
def termReaders : List (List Char → Option (QueryTerm × List Char)) :=
  [readLatest,
    fun cs => do
      let (r, cs) ← readRange (← readGap (← readWord "electron" cs))
      return (.frame r, cs),
    fun cs => do
      let (r, cs) ← readRange (← readGap (← readWord "node" cs))
      return (.server r, cs),
    fun cs => (["firefox", "fx", "ff"].findSome? fun n => readWords [n, "esr"] cs).map
      (.longSupport, ·),
    fun cs => (["operamini", "op_mini"].findSome? fun n => readWords [n, "all"] cs).map
      (.mini, ·),
    fun cs => (readWords ["maintained", "node", "versions"] cs).map (.serverSupport, ·),
    fun cs => (readWords ["phantomjs", "1.9"] cs).map (.phantom false, ·),
    fun cs => (readWords ["phantomjs", "2.1"] cs).map (.phantom true, ·),
    fun cs => (readWord "defaults" cs).map (.defaults, ·),
    fun cs => (readWord "dead" cs).map (.dead, ·),
    fun cs => do
      let (name, cs) ← readName cs
      let (r, cs) ← readRange (← readGap cs)
      return (.browser name r, cs),
    fun cs => (unknownText [] cs).map fun (text, rest) =>
      (.unknown (String.ofList text.reverse), rest)]

/-- Read a term. -/
def readTerm (cs : List Char) : Option (QueryTerm × List Char) :=
  termReaders.findSome? fun read => read cs

/-- Read a term that may be negated. -/
def read (join : QueryJoin) (cs : List Char) : Option (QueryPart × List Char) :=
  let negation := readWord "not" cs >>= readGap
  (readTerm (negation.getD cs)).map fun (term, rest) =>
    (⟨join, negation.isSome, term, String.ofList (cs.take (cs.length - rest.length))⟩, rest)

/-- Read the terms behind the first, as long as there are any. -/
def readMore : Nat → List Char → List QueryPart × List Char
  | 0, cs => ([], cs)
  | fuel + 1, cs =>
    match (readJoin cs).bind fun (join, rest) => read join rest with
    | some (part, rest) =>
      let (parts, left) := readMore fuel rest
      (part :: parts, left)
    | none => ([], cs)

end QueryPart

/-- Read a query. -/
def readQuery (text : String) : Except QueryError (List QueryPart) :=
  let cs := trimBlank text.toList
  if cs.isEmpty then .ok []
  else match QueryPart.read .add cs with
    | none => .error (.unreadable "")
    | some (part, rest) =>
      let (parts, left) := QueryPart.readMore rest.length rest
      if left.isEmpty then .ok (part :: parts) else .error (.unreadable (String.ofList left))

end StyleBuild
