import StyleBuild.Files.Path
import StyleBuild.Text.Digits
import StyleBuild.Text.Utf8

/-!
# File trees

A file tree says what is at each location. A location is the list of names that leads to it from
the root; a path is walked to a location from the current folder, through links.
-/

namespace StyleBuild

/-- Why something cannot be done with a file. -/
inductive FileError where
  | notFound
  | fault
  | exists
  | notFolder
  | isFolder
  | nameTooLong
  | tooManyLinks
  | notText
  | badName
  deriving DecidableEq, Repr, Inhabited

/-- The error in words. -/
def FileError.message : FileError → String
  | .notFound => "No such file or directory (os error 2)"
  | .fault => "Input/output error (os error 5)"
  | .exists => "File exists (os error 17)"
  | .notFolder => "Not a directory (os error 20)"
  | .isFolder => "Is a directory (os error 21)"
  | .nameTooLong => "File name too long (os error 36)"
  | .tooManyLinks => "Too many levels of symbolic links (os error 40)"
  | .notText => "stream did not contain valid UTF-8"
  | .badName => "file name contained an unexpected NUL byte"

/-- The names that lead to a place from the root. -/
abbrev Location := List String

/-- What is at a location. -/
inductive Node where
  | file (bytes : List UInt8)
  /-- A file that cannot be read. -/
  | faulty
  | folder
  | link (target : String)
  deriving DecidableEq, Repr, Inhabited

/-- What is at each location, and the current folder. -/
structure FileTree where
  nodes : List (Location × Node) := []
  current : Location := []
  deriving DecidableEq, Repr, Inhabited

namespace FileTree

/-- What is at a location. The root is a folder. -/
def node? (t : FileTree) (at_ : Location) : Option Node :=
  if at_ = [] then some .folder else t.nodes.lookup at_

/-- Replace what is at a location in a list of nodes. -/
def putIn (at_ : Location) (n : Node) : List (Location × Node) → List (Location × Node)
  | [] => [(at_, n)]
  | (l, m) :: rest => if l = at_ then (l, n) :: rest else (l, m) :: putIn at_ n rest

/-- Put something at a location. -/
def put (t : FileTree) (at_ : Location) (n : Node) : FileTree :=
  { t with nodes := putIn at_ n t.nodes }

/-- A step of a walk: to stay, which only a folder allows, to go up, or to go to a name. -/
inductive Step where
  | stay
  | up
  | name (s : String)
  deriving DecidableEq, Repr

/-- The steps of a path. -/
def steps (p : String) : List Step :=
  let pieces := Path.pieces p
  (if Path.isAbsolute p then pieces.drop 1 else pieces).map fun s =>
    if s = "" ∨ s = "." then .stay else if s = ".." then .up else .name s

/-- How a walk ends: whether the last link is followed, and whether the last name may be new. -/
structure Ending where
  follows : Bool := true
  creates : Bool := false

/-- The number of bytes that a name may have. -/
def longestName : Nat := 255

/-- Walk from a location, through at most `links` links. -/
def walk (t : FileTree) (e : Ending) (at_ : Location) (links : Nat) :
    List Step → Except FileError Location
  | [] => .ok at_
  | s :: rest =>
    if t.node? at_ ≠ some .folder then .error .notFolder
    else match s with
      | .stay => walk t e at_ links rest
      | .up => walk t e at_.dropLast links rest
      | .name n =>
        if n.utf8ByteSize > longestName then .error .nameTooLong
        else match t.node? (at_ ++ [n]) with
          | none =>
            if e.creates ∧ rest = [] then .ok (at_ ++ [n])
            else if e.creates ∧ rest = [.stay] then .error .isFolder
            else .error .notFound
          | some (.link target) =>
            if rest = [] ∧ !e.follows then .ok (at_ ++ [n])
            else match links with
              | 0 => .error .tooManyLinks
              | links + 1 =>
                if target.isEmpty then .error .notFound
                else walk t e (if Path.isAbsolute target then [] else at_) links
                  (steps target ++ rest)
          | some _ => walk t e (at_ ++ [n]) links rest
  termination_by todo => (links, todo.length)

/-- The number of links that a walk may go through. -/
def mostLinks : Nat := 40

/-- The number of bytes that a path may have. -/
def longestPath : Nat := 4095

/-- The location of a path. -/
def locate (t : FileTree) (p : String) (e : Ending := {}) : Except FileError Location :=
  if p.contains '\x00' then .error .badName
  else if p.isEmpty then .error .notFound
  else if p.utf8ByteSize > longestPath then .error .nameTooLong
  else t.walk e (if Path.isAbsolute p then [] else t.current) mostLinks (steps p)

/-- What a path leads to. -/
def at? (t : FileTree) (p : String) (e : Ending := {}) : Option Node :=
  match t.locate p e with
  | .ok l => t.node? l
  | .error _ => none

/-- Whether a path leads to a folder. -/
def isFolder (t : FileTree) (p : String) : Bool := t.at? p == some .folder

/-- Whether a path leads to a file. -/
def isFile (t : FileTree) (p : String) : Bool :=
  match t.at? p with
  | some (.file _) | some .faulty => true
  | _ => false

/-- Whether a path leads to something, or to a link that leads nowhere. -/
def isThere (t : FileTree) (p : String) : Bool := (t.at? p { follows := false }).isSome

/-- Put a name among ascending names. -/
def insertName (n : String) : List String → List String
  | [] => [n]
  | m :: ms => if n < m then n :: m :: ms else m :: insertName n ms

/-- The names in the folder at a location, in ascending order. -/
def namesAt (t : FileTree) (at_ : Location) : List String :=
  (t.nodes.filterMap fun (l, _) => if l ≠ [] ∧ l.dropLast = at_ then l.getLast? else none).foldr
    insertName []

/-- The names in the folder that a path leads to, in ascending order. -/
def names (t : FileTree) (p : String) : List String :=
  match t.locate p with
  | .ok l => if t.node? l = some .folder then t.namesAt l else []
  | .error _ => []

/-- The bytes of a file. -/
def read (t : FileTree) (p : String) : Except FileError (List UInt8) := do
  match t.node? (← t.locate p) with
  | some (.file bytes) => .ok bytes
  | some .folder => .error .isFolder
  | some .faulty => .error .fault
  | _ => .error .notFound

/-- The text of a file. -/
def readText (t : FileTree) (p : String) : Except FileError String := do
  match Utf8.read (← t.read p) with
  | some cs => .ok (String.ofList cs)
  | none => .error .notText

/-- Write a file. -/
def write (t : FileTree) (p : String) (bytes : List UInt8) : Except FileError FileTree := do
  let l ← t.locate p { creates := true }
  match t.node? l with
  | some .folder => .error .isFolder
  | some .faulty => if bytes.isEmpty then .ok t else .error .fault
  | _ => .ok (t.put l (.file bytes))

/-- Make a folder. -/
def makeFolder (t : FileTree) (p : String) : Except FileError FileTree := do
  let bare := (p.dropEndWhile '/').toString
  let l ← t.locate (if bare.isEmpty then p else bare) { follows := false, creates := true }
  match t.node? l with
  | some _ => .error .exists
  | none => .ok (t.put l .folder)

/-- The tree that is left when making a folder has come to something, and what is wrong then. A
folder that is there already will do. -/
def orThere (t : FileTree) (p : String) : Except FileError FileTree → FileTree × Option FileError
  | .ok made => (made, none)
  | .error e => (t, if t.isFolder p then none else some e)

/-- Make a folder and those that lead to it, going up at most `fuel` times: the tree that is left,
and what is wrong with it. -/
def layFoldersFrom (t : FileTree) (p : String) : Nat → FileTree × Option FileError
  | 0 => (t, some .notFound)
  | fuel + 1 =>
    if p.isEmpty then (t, none)
    else match t.makeFolder p, Path.parent? p with
      | .error .notFound, some parent =>
        match t.layFoldersFrom parent fuel with
        | (above, none) => above.orThere p (above.makeFolder p)
        | (above, some e) => (above, some e)
      | made, _ => t.orThere p made

/-- Make a folder and those that lead to it. Those that could be made stay where one could not. -/
def layFolders (t : FileTree) (p : String) : FileTree × Option FileError :=
  t.layFoldersFrom p (p.length + 1)

/-- Make a folder and those that lead to it, or none of them. -/
def makeFolders (t : FileTree) (p : String) : Except FileError FileTree :=
  match t.layFolders p with
  | (made, none) => .ok made
  | (_, some e) => .error e

end FileTree

end StyleBuild
