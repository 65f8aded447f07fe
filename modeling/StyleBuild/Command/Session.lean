import StyleBuild.Build.Run
import StyleBuild.Console.Report
import StyleBuild.Pipeline.Config.File
import StyleBuild.Text.Utf8

/-!
# Sessions

A command runs in a session, which holds all that it can see: the files, what is on standard input,
the clock, the identifier of a build, and which notes to show. It ends with a code, what it printed,
and the files as they are then. `Session.refuse` ends it with an error and leaves the files alone.
-/

namespace StyleBuild

/-- Where something is printed. -/
inductive Channel where
  | out
  | err
  deriving DecidableEq, Repr, Inhabited

/-- Something printed. -/
structure Printed where
  channel : Channel
  text : String
  deriving DecidableEq, Repr, Inhabited

namespace Printed

/-- A line on standard output. -/
def out (line : String) : Printed := ⟨.out, line ++ "\n"⟩

/-- A line on standard error. -/
def err (line : String) : Printed := ⟨.err, line ++ "\n"⟩

/-- All that was printed in one place. -/
def on (c : Channel) (ps : List Printed) : String :=
  String.join ((ps.filter fun p => p.channel = c).map Printed.text)

end Printed

/-- What a command can see. -/
structure Session where
  files : FileTree
  stdin : List UInt8 := []
  clock : Clock := {}
  id : Uuid := default
  filter : LogFilter := ⟨some .info⟩
  console : Console := {}
  deriving Inhabited

/-- How a command ends. -/
structure Finish where
  exit : Nat
  printed : List Printed
  files : FileTree
  deriving Inhabited

/-- What was printed on standard output. -/
def Finish.stdout (f : Finish) : String := Printed.on .out f.printed

/-- What was printed on standard error. -/
def Finish.stderr (f : Finish) : String := Printed.on .err f.printed

/-! ## Errors -/

/-- A text whose lines but the first stand behind a number of spaces. -/
def indented (spaces : Nat) (text : String) : String :=
  String.intercalate ("\n" ++ String.ofList (List.replicate spaces ' '))
    ((splitAtChar '\n' text.toList).map String.ofList)

/-- A cause with its number. -/
def numberedCause (index : Nat) (text : String) : String :=
  let n := decimalText index
  String.ofList (List.replicate (5 - n.length) ' ') ++ n ++ ": " ++ indented 7 text

/-- An error and what caused it, from what was tried to what went wrong. -/
def errorReport : List String → String
  | [] => "Error: "
  | [e] => "Error: " ++ e
  | [e, cause] => "Error: " ++ e ++ "\n\nCaused by:\n    " ++ indented 4 cause
  | e :: causes =>
    "Error: " ++ e ++ "\n\nCaused by:\n" ++
      String.intercalate "\n" (causes.mapIdx numberedCause)

/-- A build error and what caused it. -/
def BuildError.chain (e : BuildError) : List String := e.message :: e.cause.toList

namespace Session

/-- The notes that are shown. -/
def shownNotes (s : Session) (notes : List LogEntry) : List Printed :=
  (notes.filter fun n => s.filter.shows n.level).map fun n => .err n.line

/-- End with an error after what was printed. -/
def refuse (s : Session) (printed : List Printed) (chain : List String) : Finish :=
  ⟨1, printed ++ [.err (errorReport chain)], s.files⟩

/-- End well after what was printed. -/
def accept (s : Session) (printed : List Printed) : Finish := ⟨0, printed, s.files⟩

/-- Load a configuration; content may be looked for in another folder than its own. -/
def loadConfig (s : Session) (path : String) (baseDir : Option String) :
    Except (List String) Config :=
  match Config.load s.files path with
  | .error e => .error ("Failed to load pipeline config" :: e.chain)
  | .ok c =>
    .ok (match baseDir with
      | some dir => c.withBase dir
      | none => c)

/-- Compose the pipeline of a configuration from the kinds that every build knows. -/
def compose (c : Config) : Except (List String) Pipeline :=
  (Pipeline.compose c .builtin).mapError fun e => "Failed to compose pipeline" :: e.chain

/-- The notes on composing that are shown. -/
def composeNotes (s : Session) (c : Config) : List Printed :=
  s.shownNotes (Pipeline.composeNotes c .builtin)

end Session

end StyleBuild
