import StyleBuild.Text.Split

/-!
# Paths

A path is a text. It names a file by the parts between its slashes; repeated slashes, slashes at
its end and dots inside it name nothing. Paths are ordered by their parts and not by their
characters, so that `a/z` comes before `a-b`.
-/

namespace StyleBuild

namespace Path

/-- A part of a path. -/
inductive Part where
  | root
  | here
  | parent
  | name (s : String)
  deriving DecidableEq, Repr, Inhabited

/-- The place of a part among parts of other kinds. -/
def Part.rank : Part → Nat
  | .root => 0
  | .here => 1
  | .parent => 2
  | .name _ => 3

/-- Whether a part comes before another. -/
def Part.before : Part → Part → Bool
  | .name a, .name b => a < b
  | a, b => a.rank < b.rank

/-- Whether a path starts at the root. -/
def isAbsolute (p : String) : Bool := p.startsWith "/"

/-- The texts between the slashes of a path. -/
def pieces (p : String) : List String := (splitAtChar '/' p.toList).map String.ofList

/-- The part that a piece stands for behind the first one. -/
def part? (piece : String) : Option Part :=
  if piece = "" ∨ piece = "." then none
  else if piece = ".." then some .parent
  else some (.name piece)

/-- The parts of a path. -/
def parts (p : String) : List Part :=
  match pieces p with
  | [] => []
  | first :: rest =>
    let head :=
      if isAbsolute p then [.root] else if first = "." then [.here] else (part? first).toList
    head ++ rest.filterMap part?

/-- Whether a list of parts comes before another. -/
def partsBefore : List Part → List Part → Bool
  | [], [] => false
  | [], _ :: _ => true
  | _ :: _, [] => false
  | a :: as, b :: bs => if a = b then partsBefore as bs else a.before b

/-- Whether a path comes before another. -/
def before (p q : String) : Bool := partsBefore (parts p) (parts q)

/-- A path taken from another. -/
def join (p q : String) : String :=
  if isAbsolute q || p.isEmpty then q
  else if p.endsWith "/" then p ++ q
  else p ++ "/" ++ q

/-- The last part of a path, if it is a name. -/
def fileName? (p : String) : Option String :=
  match (parts p).getLast? with
  | some (.name s) => some s
  | _ => none

/-- Pieces without those at their end that name nothing. -/
def dropSilent (pieces : List String) : List String :=
  (pieces.reverse.dropWhile fun s => s = "" ∨ s = ".").reverse

/-- The path without its last part, if it has one that can be left off. -/
def parent? (p : String) : Option String :=
  match pieces p with
  | [] => none
  | first :: rest =>
    match dropSilent rest, isAbsolute p with
    | [], true => none
    | [], false => if first.isEmpty then none else some ""
    | kept, true =>
      let left := dropSilent kept.dropLast
      some (if left.isEmpty then "/" else "/" ++ String.intercalate "/" left)
    | kept, false => some (String.intercalate "/" (first :: dropSilent kept.dropLast))

end Path

end StyleBuild
