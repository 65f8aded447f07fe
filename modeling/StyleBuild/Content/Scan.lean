import StyleBuild.Content.Source
import StyleBuild.Glob.Expansion
import StyleBuild.Log

/-!
# Scanning content

A scan expands the globs of a content source in order, then reads the files found in the order of
their paths. It fails with the first glob that cannot be expanded, else with the first file that
cannot be read; the file is blamed on the first glob that found it.
-/

namespace StyleBuild

/-- What a scan of content found: the files read, the classes used in them, and the patterns
that matched nothing. -/
structure Scan where
  files : List String := []
  classes : NameSet := .empty
  unmatched : List String := []
  deriving DecidableEq, Repr, Inhabited

/-- Why a scan fails. -/
inductive ScanCause where
  | glob (fault : Glob.Fault)
  | file (error : FileError)
  | other (reason : String)
  deriving DecidableEq, Repr, Inhabited

/-- The cause in words. -/
def ScanCause.message : ScanCause → String
  | .glob f => f.message
  | .file e => e.message
  | .other r => r

/-- Why a scan fails, and the pattern that led there. -/
structure ScanFault where
  pattern : String
  cause : ScanCause
  deriving DecidableEq, Repr, Inhabited

/-- The fault in words. -/
def ScanFault.message (f : ScanFault) : String :=
  "failed to read content matched by '" ++ f.pattern ++ "': " ++ f.cause.message

/-- What comes of a scan: its result, and what it noted down. -/
structure Scanned where
  result : Except ScanFault Scan
  notes : List LogEntry := []

namespace Scan

/-- A pattern seen from a folder, whose name is taken literally. -/
def resolve (base pattern : String) : String :=
  if Path.isAbsolute pattern then pattern
  else ((Glob.escape base).dropEndWhile '/').toString ++ "/" ++ pattern

/-- The files that a pattern finds from a folder. -/
def matched (t : FileTree) (base pattern : String) : Except ScanFault (List String) :=
  match Glob.expand t (resolve base pattern) with
  | .ok paths => .ok (paths.filter t.isFile)
  | .error f => .error ⟨pattern, .glob f⟩

/-- Files in the order of their paths, each with the pattern that found it first. -/
abbrev Index := List (String × String)

/-- Add a file unless it is there already. -/
def Index.add (pattern path : String) : Index → Index
  | [] => [(path, pattern)]
  | (p, q) :: rest =>
    if Path.before path p then (path, pattern) :: (p, q) :: rest
    else if Path.before p path then (p, q) :: Index.add pattern path rest
    else (p, q) :: rest

/-- The note on what a pattern found. -/
def note (pattern : String) (count : Nat) : LogEntry :=
  ⟨.debug, "stylepipe::content",
    "Content pattern " ++ pattern ++ " matched " ++ decimalText count ++ " files"⟩

/-- What the patterns of a source found: the files, and the patterns that found none. -/
structure Finding where
  index : Index := []
  unmatched : List String := []
  notes : List LogEntry := []

/-- Add what a pattern found. -/
def Finding.add (f : Finding) (pattern : String) (paths : List String) : Finding :=
  { index := paths.foldl (fun i p => i.add pattern p) f.index
    unmatched := if paths.isEmpty then f.unmatched ++ [pattern] else f.unmatched
    notes := f.notes ++ [note pattern paths.length] }

/-- Expand patterns in order. -/
def find (t : FileTree) (base : String) (f : Finding) : List String → Finding × Option ScanFault
  | [] => (f, none)
  | p :: ps =>
    match matched t base p with
    | .error e => (f, some e)
    | .ok paths => find t base (f.add p paths) ps

/-- The classes in some files, read in order. -/
def readFiles (t : FileTree) (e : Extractor) (found : NameSet) : Index → Except ScanFault NameSet
  | [] => .ok found
  | (path, pattern) :: rest =>
    match t.read path with
    | .error cause => .error ⟨pattern, .file cause⟩
    | .ok bytes =>
      readFiles t e (found.insertAll (e.tokens (String.ofList (Utf8.readLenient bytes)))) rest

end Scan

/-- Scan the files of a source from a folder. -/
def ContentSource.scan (s : ContentSource) (t : FileTree) (base : String) : Scanned :=
  match Scan.find t base {} s.patterns with
  | (f, some e) => ⟨.error e, f.notes⟩
  | (f, none) =>
    match Scan.readFiles t s.extractor .empty f.index with
    | .error e => ⟨.error e, f.notes⟩
    | .ok classes =>
      ⟨.ok { files := f.index.map Prod.fst, classes, unmatched := f.unmatched }, f.notes⟩

end StyleBuild
