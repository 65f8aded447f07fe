import StyleBuild.Command.Program

/-!
# The executable

The folders that a command may look into are read into a file tree, the command runs on that, and
what it printed and changed is carried out. The clock stands still meanwhile.
-/

namespace StyleBuild

/-- The names in a path that starts at the root. -/
def locationOf (path : String) : Location :=
  (Path.pieces path).filter fun s => s ≠ ""

/-- The path of a location. -/
def pathOf (at_ : Location) : String := "/" ++ String.intercalate "/" at_

/-- Put the folders that lead to a location into a tree. -/
def putAbove (t : FileTree) (at_ : Location) : FileTree :=
  (List.range at_.length).foldl (fun t n => if n = 0 then t else t.put (at_.take n) .folder) t

/-- Read what is at a location, and below it, into a tree. -/
partial def readInto (t : FileTree) (at_ : Location) : IO FileTree := do
  if (t.node? at_).isSome && at_ ≠ [] then return t
  let here := (← IO.currentDir) / pathOf at_
  let kind ← try some <$> here.symlinkMetadata catch _ => pure none
  match kind.map fun m => m.type with
  | some IO.FS.FileType.dir =>
    let mut t := if at_ = [] then t else t.put at_ .folder
    for entry in (← try here.readDir catch _ => pure #[]) do
      t ← readInto t (at_ ++ [entry.fileName])
    return t
  | some IO.FS.FileType.symlink =>
    match ← try some <$> IO.FS.realPath here catch _ => pure none with
    | some target =>
      let target := locationOf target.toString
      readInto (t.put at_ (.link (pathOf target))) target
    | none => return t.put at_ (.link (pathOf at_))
  | some IO.FS.FileType.file =>
    match ← try some <$> IO.FS.readBinFile here catch _ => pure none with
    | some bytes => return t.put at_ (.file bytes.toList)
    | none => return t.put at_ .faulty
  | some IO.FS.FileType.other => return t.put at_ .faulty
  | none => return t

/-- Read a path and what is below it into a tree. -/
def readPath (t : FileTree) (path : String) : IO FileTree := do
  let whole := (← IO.currentDir) / path
  match ← try some <$> IO.FS.realPath whole catch _ => pure none with
  | some real =>
    let at_ := locationOf real.toString
    readInto (putAbove t at_) at_
  | none => return t

/-- Write what differs between two trees. -/
def writeChanges (old new : FileTree) : IO Unit := do
  let root ← IO.currentDir
  for (at_, n) in new.nodes do
    if old.node? at_ ≠ some n then
      match n with
      | .folder => IO.FS.createDirAll (root / pathOf at_)
      | .file bytes => IO.FS.writeBinFile (root / pathOf at_) ⟨bytes.toArray⟩
      | _ => pure ()

/-- Read a stream to its end. -/
partial def readAll (stream : IO.FS.Stream) (read : ByteArray) : IO ByteArray := do
  let more ← stream.read 65536
  if more.isEmpty then return read else readAll stream (read ++ more)

/-- The identifier of a new build. -/
def newId : IO Uuid := do
  return .ofBits ((← IO.getRandomBytes 16).toList.foldl (fun n b => n * 256 + b.toNat) 0)

/-- The files that a command may look into. -/
def filesFor (c : Command) : IO FileTree := do
  let current ← IO.FS.realPath (← IO.currentDir)
  let start : FileTree := { current := locationOf current.toString }
  let folders := c.paths.filterMap Path.parent?
  (["."] ++ folders.filter (!·.isEmpty) ++ c.paths).foldlM readPath start

/-- The session of a command. -/
def sessionFor (c : Command) : IO Session := do
  let stdin ← if c.readsInput then readAll (← IO.getStdin) .empty else pure .empty
  return { files := ← filesFor c, stdin := stdin.toList, id := ← newId }

end StyleBuild

open StyleBuild in
/-- Run the program. -/
def main (words : List String) : IO UInt32 := do
  let session ← match Invocation.read words with
    | .ok i => sessionFor i.command
    | .error _ => pure { files := {} }
  let filter := (← IO.getEnv "STYLEPIPE_LOG").bind LogFilter.ofName?
  let f := Program.run filter session words
  let out ← IO.getStdout
  let err ← IO.getStderr
  for p in f.printed do
    match p.channel with
    | .out => out.putStr p.text
    | .err => err.putStr p.text
  out.flush
  writeChanges session.files f.files
  return f.exit.toUInt32
