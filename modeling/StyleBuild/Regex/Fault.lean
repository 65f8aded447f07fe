import StyleBuild.Text.Digits

/-!
# Faults in regular expressions

What can be wrong with the text of a regular expression, where it is wrong, and the report that
shows the text with the place marked.
-/

namespace StyleBuild.Regex

/-- A place in the text: its line and its column, both counted from one. -/
structure Mark where
  line : Nat := 1
  column : Nat := 1
  deriving DecidableEq, Repr, Inhabited

/-- The place after a character. -/
def Mark.after (m : Mark) (c : Char) : Mark :=
  if c = '\n' then ⟨m.line + 1, 1⟩ else ⟨m.line, m.column + 1⟩

/-- Whether a place comes before another. -/
def Mark.before (a b : Mark) : Bool :=
  a.line < b.line || (a.line == b.line && a.column < b.column)

/-- A part of the text. -/
structure Span where
  start : Mark
  stop : Mark
  deriving DecidableEq, Repr, Inhabited

/-- What is wrong. -/
inductive Cause where
  | invalidClassEscape
  | invalidClassRange
  | classRangeNotLiteral
  | unclosedClass
  | decimalEmpty
  | decimalInvalid
  | hexEmpty
  | hexInvalid
  | hexDigit
  | endInEscape
  | unknownEscape
  | flagDangling
  | flagTwice
  | flagNegatedTwice
  | endInFlags
  | unknownFlag
  | groupNameTwice
  | groupNameEmpty
  | groupNameInvalid
  | unclosedGroupName
  | unclosedGroup
  | unopenedGroup
  | countInvalid
  | countEmpty
  | unclosedCount
  | nothingToRepeat
  | unclosedWordPlace
  | unknownWordPlace
  | endInWordPlace
  | invalidProperty
  | backreference
  | lookAround
  | unicodeNotAllowed
  | notUnicode
  | unknownProperty
  | unknownPropertyValue
  | tooDeep
  deriving DecidableEq, Repr, Inhabited

/-- How deep brackets and operators may be nested. -/
def nestingLimit : Nat := 250

/-- What is wrong, in words. -/
def Cause.message : Cause → String
  | .invalidClassEscape => "invalid escape sequence found in character class"
  | .invalidClassRange => "invalid character class range, the start must be <= the end"
  | .classRangeNotLiteral => "invalid range boundary, must be a literal"
  | .unclosedClass => "unclosed character class"
  | .decimalEmpty => "decimal literal empty"
  | .decimalInvalid => "decimal literal invalid"
  | .hexEmpty => "hexadecimal literal empty"
  | .hexInvalid => "hexadecimal literal is not a Unicode scalar value"
  | .hexDigit => "invalid hexadecimal digit"
  | .endInEscape => "incomplete escape sequence, reached end of pattern prematurely"
  | .unknownEscape => "unrecognized escape sequence"
  | .flagDangling => "dangling flag negation operator"
  | .flagTwice => "duplicate flag"
  | .flagNegatedTwice => "flag negation operator repeated"
  | .endInFlags => "expected flag but got end of regex"
  | .unknownFlag => "unrecognized flag"
  | .groupNameTwice => "duplicate capture group name"
  | .groupNameEmpty => "empty capture group name"
  | .groupNameInvalid => "invalid capture group character"
  | .unclosedGroupName => "unclosed capture group name"
  | .unclosedGroup => "unclosed group"
  | .unopenedGroup => "unopened group"
  | .countInvalid => "invalid repetition count range, the start must be <= the end"
  | .countEmpty => "repetition quantifier expects a valid decimal"
  | .unclosedCount => "unclosed counted repetition"
  | .nothingToRepeat => "repetition operator missing expression"
  | .unclosedWordPlace =>
    "special word boundary assertion is either unclosed or contains an invalid character"
  | .unknownWordPlace =>
    "unrecognized special word boundary assertion, valid choices are: start, end, start-half or " ++
      "end-half"
  | .endInWordPlace =>
    "found either the beginning of a special word boundary or a bounded repetition on a \\b " ++
      "with an opening brace, but no closing brace"
  | .invalidProperty => "invalid Unicode character class"
  | .backreference => "backreferences are not supported"
  | .lookAround => "look-around, including look-ahead and look-behind, is not supported"
  | .unicodeNotAllowed => "Unicode not allowed here"
  | .notUnicode => "pattern can match invalid UTF-8"
  | .unknownProperty => "Unicode property not found"
  | .unknownPropertyValue => "Unicode property value not found"
  | .tooDeep =>
    "exceed the maximum number of nested parentheses/brackets (" ++ decimalText nestingLimit ++ ")"

/-- A fault: what is wrong, where, and which earlier place it clashes with. -/
structure Fault where
  cause : Cause
  span : Span
  clash : Option Span := none
  deriving DecidableEq, Repr, Inhabited

/-- The places of a fault that lie on one line, from left to right. -/
def Fault.marked (f : Fault) : List Span :=
  let spans := match f.clash with
    | some s => if f.span.start.before s.start then [f.span, s] else [s, f.span]
    | none => [f.span]
  spans.filter fun s => s.start.line == s.stop.line

/-- The places of a fault that go over several lines. -/
def Fault.broad (f : Fault) : List Span :=
  ([f.span] ++ f.clash.toList).filter fun s => s.start.line != s.stop.line

/-- Marks under the columns that spans cover, from a column on. -/
def underline (column : Nat) : List Span → String
  | [] => ""
  | s :: rest =>
    let width := max 1 (s.stop.column - s.start.column)
    "".pushn ' ' (s.start.column - column) ++ "".pushn '^' width ++
      underline (max column s.start.column + width) rest

/-- A line without a carriage return at its end. -/
def dropReturn (line : String) : String :=
  if line.endsWith "\r" then (line.dropEnd 1).toString else line

/-- The lines of a text; a line break at the end starts no line. -/
def linesOf (text : String) : List String :=
  let parts := text.splitOn "\n"
  let last := parts.getLast?.getD ""
  parts.dropLast.map dropReturn ++ if last.isEmpty then [] else [last]

/-- The text with its faulty places marked; lines are numbered if there are several. -/
def Fault.notated (f : Fault) (pattern : String) : String :=
  let lines := linesOf pattern
  let count := lines.length + if pattern.endsWith "\n" then 1 else 0
  let width := if count ≤ 1 then 0 else (decimalText count).length
  let line := fun (text, i) =>
    let number := decimalText (i + 1)
    let head := if width = 0 then "    "
      else "".pushn ' ' (width - number.length) ++ number ++ ": "
    let spans := f.marked.filter fun s => s.start.line == i + 1
    head ++ text ++ "\n" ++
      if spans.isEmpty then "" else "".pushn ' ' head.length ++ underline 1 spans ++ "\n"
  String.join (lines.zipIdx.map line)

/-- A place that goes over several lines, in words. -/
def Span.message (s : Span) : String :=
  "on line " ++ decimalText s.start.line ++ " (column " ++ decimalText s.start.column ++
    ") through line " ++ decimalText s.stop.line ++ " (column " ++
    decimalText (s.stop.column - 1) ++ ")"

/-- The report of a fault. -/
def Fault.report (f : Fault) (pattern : String) : String :=
  let rule := "".pushn '~' 79 ++ "\n"
  let broad := if f.broad.isEmpty then ""
    else String.intercalate "\n" (f.broad.map Span.message) ++ "\n"
  let shown := f.notated pattern
  "regex parse error:\n" ++
    (if pattern.contains '\n' then rule ++ shown ++ rule ++ broad else shown) ++
    "error: " ++ f.cause.message

/-- The greatest size in bytes that a compiled expression may have. -/
def sizeLimit : Nat := 10485760

/-- Why a text is not taken as a regular expression. -/
inductive Refusal where
  | malformed (fault : Fault)
  | tooLarge
  deriving DecidableEq, Repr, Inhabited

/-- The report of a refusal. -/
def Refusal.report (r : Refusal) (pattern : String) : String :=
  match r with
  | .malformed f => f.report pattern
  | .tooLarge => "Compiled regex exceeds size limit of " ++ decimalText sizeLimit ++ " bytes."

end StyleBuild.Regex
