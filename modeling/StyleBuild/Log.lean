/-!
# Log entries

What the program notes down while it works. Whether an entry is shown depends on its level.
-/

namespace StyleBuild

/-- How important an entry is. -/
inductive LogLevel where
  | error
  | warn
  | info
  | debug
  deriving DecidableEq, Repr, Inhabited

/-- The level as written in a log line. -/
def LogLevel.text : LogLevel → String
  | .error => "ERROR"
  | .warn => "WARN"
  | .info => "INFO"
  | .debug => "DEBUG"

/-- How many levels are at least as important. -/
def LogLevel.rank : LogLevel → Nat
  | .error => 1
  | .warn => 2
  | .info => 3
  | .debug => 4

/-- Which entries are shown: those of a level and of all that are more important, or none. -/
structure LogFilter where
  level : Option LogLevel
  deriving DecidableEq, Repr, Inhabited

/-- The filter of a name. -/
def LogFilter.ofName? (name : String) : Option LogFilter :=
  match name.toLower with
  | "off" => some ⟨none⟩
  | "error" => some ⟨some .error⟩
  | "warn" => some ⟨some .warn⟩
  | "info" => some ⟨some .info⟩
  | "debug" | "trace" => some ⟨some .debug⟩
  | _ => none

/-- Whether an entry of a level is shown. -/
def LogFilter.shows (f : LogFilter) (l : LogLevel) : Bool :=
  match f.level with
  | some most => l.rank ≤ most.rank
  | none => false

/-- An entry: how important it is, which part of the program wrote it, and what it says. -/
structure LogEntry where
  level : LogLevel
  topic : String
  text : String
  deriving DecidableEq, Repr, Inhabited

/-- The entry as a line. -/
def LogEntry.line (e : LogEntry) : String := e.level.text ++ " " ++ e.topic ++ ": " ++ e.text

end StyleBuild
