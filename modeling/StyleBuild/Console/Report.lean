import StyleBuild.Build.State

/-!
# Reports

How sizes, durations, lists, states and events are shown on a terminal. Each kind of line starts
with a mark of its own.

Text for a terminal may be styled. Where styles are off, it is left as it is.
-/

namespace StyleBuild

/-! ## Styled text -/

/-- A style of text. -/
inductive TextStyle where
  | bold
  | dim
  | red
  | green
  | yellow
  | cyan
  deriving DecidableEq, Repr

/-- The code that switches a style on. -/
def TextStyle.code : TextStyle → String
  | .bold => "1"
  | .dim => "2"
  | .red => "31"
  | .green => "32"
  | .yellow => "33"
  | .cyan => "36"

/-- A terminal, which shows styles or not. -/
structure Console where
  styled : Bool := false
  deriving DecidableEq, Repr, Inhabited

/-- A text in a style. -/
def Console.paint (c : Console) (s : TextStyle) (text : String) : String :=
  if c.styled then "\x1b[" ++ s.code ++ "m" ++ text ++ "\x1b[0m" else text

@[simp] theorem Console.paint_plain (s : TextStyle) (text : String) :
    ({} : Console).paint s text = text := rfl

/-! ## Reports -/

/-- The marks that lines start with. -/
inductive Mark where
  | good
  | bad
  | running
  | info
  | warning
  | start
  | search
  deriving DecidableEq, Repr

/-- A mark with the space it carries. -/
def Mark.text : Mark → String
  | .good => "✓ "
  | .bad => "✗ "
  | .running => "~ "
  | .info => "i "
  | .warning => "!"
  | .start => "> "
  | .search => "? "

/-- A line behind a mark. -/
def Mark.line (m : Mark) (text : String) : String := m.text ++ " " ++ text

/-- A size: bytes below 1024, else multiples of 1024 with one place behind the point. -/
def sizeText (bytes : Nat) : String :=
  if bytes < 1024 then decimalText bytes ++ " B"
  else ((Binary64.ofNat bytes).quotient (.ofNat 1024)).fixed 1 ++ " KiB"

/-- A duration: milliseconds below a second, else seconds with two places behind the point. -/
def durationText (nanos : Nat) : String :=
  if nanos / 1000000 < 1000 then decimalText (nanos / 1000000) ++ "ms"
  else
    let part := (Binary64.ofNat (nanos % 1000000000)).quotient (.ofNat 1000000000)
    ((Binary64.ofNat (nanos / 1000000000)).sum part).fixed 2 ++ "s"

namespace Console

variable (c : Console)

/-- The first items of a list, and how many more there are. -/
def list (items : List String) (most : Nat) : String :=
  if items.length ≤ most then String.intercalate ", " items
  else String.intercalate ", " (items.take most) ++ ", " ++
    c.paint .dim ("... (" ++ decimalText (items.length - most) ++ " more)")

/-- A status. -/
def status : BuildStatus → String
  | .pending => c.paint .dim "PENDING"
  | .running => c.paint .yellow "RUNNING"
  | .completed => c.paint .green "COMPLETED"
  | .failed => c.paint .red "FAILED"

/-- What became of a stage. -/
def stageState : StageState → String
  | .pending => c.paint .dim "PENDING"
  | .running _ => c.paint .yellow "RUNNING"
  | .completed bytesIn bytesOut _ _ =>
    c.paint .green "COMPLETED" ++ " " ++
      c.paint .dim (sizeText bytesIn ++ " → " ++ sizeText bytesOut)
  | .failed .. => c.paint .red "FAILED"
  | .skipped _ => c.paint .dim "SKIPPED"

/-- A build in one line. -/
def summary (s : BuildState) : String :=
  (if s.status = .completed then Mark.good else Mark.bad).text ++ c.paint .bold s.pipeline ++ " " ++
    c.status s.status ++ " (" ++ decimalText s.completedStages ++ "/" ++
    decimalText s.stages.length ++ " stages, " ++ decimalText s.warnings.length ++ " warnings)"

/-- How a build ended, in words. -/
def ending : BuildStatus → String
  | .completed => c.paint .green "successfully" ++ " completed"
  | .failed => c.paint .red "failed"
  | s => s.name

/-- An event in one line. -/
def event : BuildEvent → String
  | .started id pipeline stages =>
    Mark.start.line ("Building " ++ c.paint .bold pipeline ++ " with " ++ decimalText stages ++
      " stages (" ++ c.paint .dim id.short ++ ")")
  | .scanned stage files classes =>
    Mark.search.line ("Stage " ++ decimalText stage ++ ": " ++
      c.paint .cyan (decimalText files) ++ " files, " ++
      c.paint .cyan (decimalText classes) ++ " candidate classes")
  | .warned w => Mark.warning.line (c.paint .yellow w.message)
  | .stageStarted stage label =>
    Mark.running.line ("[" ++ decimalText stage ++ "] " ++ c.paint .cyan label)
  | .stageCompleted stage bytesIn bytesOut nanos =>
    Mark.good.line ("[" ++ decimalText stage ++ "] " ++ sizeText bytesIn ++ " → " ++
      c.paint .green (sizeText bytesOut) ++ " in " ++ c.paint .dim (durationText nanos))
  | .stageFailed stage error =>
    Mark.bad.line ("[" ++ c.paint .red (decimalText stage) ++ "] " ++ c.paint .dim error)
  | .finished id s =>
    Mark.info.line ("Build (" ++ c.paint .dim id.short ++ ") " ++ c.ending s)

end Console

end StyleBuild
