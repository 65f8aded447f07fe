import StyleBuild.Files.Tree
import StyleBuild.Pipeline.Config.Reading

/-!
# Configuration files

A configuration read from a file looks for content in the folder of that file.
-/

namespace StyleBuild

/-- Why a configuration cannot be read from a file. -/
inductive LoadError where
  | unreadable (path : String) (error : FileError)
  | unfit (path : String) (error : ConfigError)
  deriving Inhabited

/-- The error in words, from what was tried to what went wrong. -/
def LoadError.chain : LoadError → List String
  | .unreadable p e => ["Failed to read " ++ p, e.message]
  | .unfit p e => ["Invalid pipeline config " ++ p, e.message]

/-- The folder of a file; the current one if its path names none. -/
def folderOf (path : String) : String :=
  match Path.parent? path with
  | none | some "" => "."
  | some p => p

/-- Read a configuration from a file. -/
def Config.load (t : FileTree) (path : String) : Except LoadError Config := do
  let text ← (t.readText path).mapError (.unreadable path)
  let c ← (Config.read text).mapError (.unfit path)
  return c.withBase (folderOf path)

end StyleBuild
