import StyleBuild.Files.Tree
import StyleBuild.Glob.Pattern

/-!
# Expanding globs

A glob is expanded part by part: a part without wildcards is looked up, and any other part is
compared with the names in a folder. The paths are found in the order of a walk that goes through
folders from the least name on.
-/

namespace StyleBuild.Glob

/-- A part of a glob between slashes. -/
inductive Part where
  | literal (name : String)
  | folders
  | wild (tokens : List Token)
  deriving DecidableEq, Repr, Inhabited

/-- The character that a token stands for alone. -/
def Token.char? : Token → Option Char
  | .char c => some c
  | _ => none

/-- The text of tokens that are all characters. -/
def literalText? (ts : List Token) : Option String := (ts.mapM Token.char?).map String.ofList

/-- The part that tokens make up. -/
def Part.ofTokens (ts : List Token) : Part :=
  if ts.contains .folders then .folders
  else match literalText? ts with
    | some s => .literal s
    | none => .wild ts

/-- Whether a part describes a name. -/
def Part.describes (name : String) : Part → Bool
  | .literal s => s == name
  | .folders => true
  | .wild ts => Glob.describes ts name.toList

/-- The special names that a part asks for; they are found only if the part starts with a dot. -/
def Part.specials : Part → List String
  | .wild (.char '.' :: ts) => ["..", "."].filter fun s => Glob.describes (.char '.' :: ts) s.toList
  | _ => []

/-- Whether a path names the current folder. -/
def isHere (path : String) : Bool := Path.parts path == [.here]

/-- A name taken from a path; the current folder is left out. -/
def below (path name : String) : String := if isHere path then name else Path.join path name

/-- Paths that lead to a folder, if only folders are wanted. -/
def wanted (t : FileTree) (foldersOnly : Bool) (path : String) : List String :=
  if foldersOnly && !t.isFolder path then [] else [path]

mutual

/-- The paths below a path that the parts describe. -/
def search (t : FileTree) (foldersOnly : Bool) (fuel : Nat) (path : String)
    (parts : List Part) : List String :=
  match fuel, parts with
  | 0, _ | _, [] => []
  | fuel + 1, .literal s :: rest =>
    let next := below path s
    let found := if s = "." ∨ s = ".." then t.isFolder path else t.isThere next
    if !found then []
    else if rest = [] then wanted t foldersOnly next
    else search t foldersOnly fuel next rest
  | fuel + 1, part :: rest =>
    if !t.isFolder path then []
    else
      (part.specials.flatMap fun s =>
        if rest = [] then wanted t foldersOnly (Path.join path s)
        else search t foldersOnly fuel (Path.join path s) rest) ++
      (t.names path).flatMap fun n => visit t foldersOnly fuel (below path n) (part :: rest)

/-- The paths from an entry of a folder on that the parts describe. -/
def visit (t : FileTree) (foldersOnly : Bool) (fuel : Nat) (path : String)
    (parts : List Part) : List String :=
  match fuel, parts with
  | 0, _ | _, [] => []
  | fuel + 1, .folders :: rest =>
    let later := rest.dropWhile (· == .folders)
    let itself := match later with
      | [] => if t.isFolder path then [path] else []
      | part :: after => enter t foldersOnly fuel path part after
    itself ++ if t.isFolder path then search t foldersOnly fuel path (.folders :: later) else []
  | fuel + 1, part :: rest => enter t foldersOnly fuel path part rest

/-- The paths from an entry of a folder on, whose name the part has to describe. -/
def enter (t : FileTree) (foldersOnly : Bool) (fuel : Nat) (path : String) (part : Part)
    (rest : List Part) : List String :=
  match fuel with
  | 0 => []
  | fuel + 1 =>
    if !((Path.fileName? path).any part.describes) then []
    else if rest = [] then wanted t foldersOnly path
    else search t foldersOnly fuel path rest

end

/-- The pieces of a glob between slashes; a slash at the end ends the last piece. -/
def pieces (pattern : String) : List String :=
  let all := Path.pieces pattern
  if all.getLast? = some "" then all.dropLast else all

/-- The parts of a glob behind the root. -/
def parts (pattern : String) : Except Fault (List Part) := do
  let inner := if Path.isAbsolute pattern then (pattern.drop 1).toString else pattern
  let found ← (pieces inner).mapM fun p => Part.ofTokens <$> read p
  return if inner.isEmpty then [.literal ""] else found

/-- How deep a search can go: links lead back up only as often as they are followed. -/
def depthBound (t : FileTree) (ps : List Part) : Nat :=
  3 * ((FileTree.mostLinks + 2) * (t.nodes.length + 2) + ps.length)

/-- The paths that a glob describes. -/
def expand (t : FileTree) (pattern : String) : Except Fault (List String) := do
  discard (read pattern)
  let ps ← parts pattern
  let start := if Path.isAbsolute pattern then "/" else "."
  return search t (pattern.endsWith "/") (depthBound t ps) start ps

end StyleBuild.Glob
