import StyleBuild.Text.Digits

/-!
# Tokens of the data format

The text of a document is a sequence of tokens: indicators, scalars, and the starts and ends of
blocks that indentation shows.

A cursor is what is left of a text and the place where it starts. Moving on keeps the place
right: a line break of any form starts a new line.
-/

namespace StyleBuild.Yaml

/-! ## Tokens -/

/-- A place in a text: characters, lines and columns before it. -/
structure Mark where
  index : Nat := 0
  line : Nat := 0
  column : Nat := 0
  deriving DecidableEq, Repr, Inhabited

/-- The place in words, counted from one. -/
def Mark.text (m : Mark) : String :=
  "line " ++ decimalText (m.line + 1) ++ " column " ++ decimalText (m.column + 1)

/-- A token. -/
inductive Token where
  | version (major minor : Nat)
  | tagShorthand (handle expansion : String)
  | documentStart
  | documentEnd
  | blockSequenceStart
  | blockMappingStart
  | blockEnd
  | flowSequenceStart
  | flowSequenceEnd
  | flowMappingStart
  | flowMappingEnd
  | blockEntry
  | flowEntry
  | key
  | value
  | alias (name : String)
  | anchor (name : String)
  | tag (handle suffix : String)
  | scalar (text : String) (isPlain : Bool)
  | streamEnd
  deriving DecidableEq, Repr, Inhabited

/-- A token with its start and its end. -/
structure Placed where
  token : Token
  start : Mark
  stop : Mark
  deriving DecidableEq, Repr, Inhabited

/-! ## Cursors -/

/-- What is left of a text, and its place. -/
structure Cursor where
  rest : List Char
  mark : Mark := {}
  deriving Repr, Inhabited

/-- Whether a character breaks a line. -/
def isBreak (c : Char) : Bool :=
  c == '\n' || c == '\r' || c == '\u0085' || c == '\u2028' || c == '\u2029'

/-- Whether a character is a space or a tab. -/
def isGap (c : Char) : Bool := c == ' ' || c == '\t'

/-- Whether a character may stand in the name of an anchor. -/
def isWord (c : Char) : Bool := c.isAlphanum || c == '-' || c == '_'

/-- Whether a character may stand in a text at all. -/
def isAllowed (c : Char) : Bool :=
  let n := c.toNat
  n == 9 || n == 10 || n == 13 || (32 ≤ n && n ≤ 126) || n == 0x85 || (0xA0 ≤ n && n ≤ 0xD7FF) ||
    (0xE000 ≤ n && n ≤ 0xFFFD) || (0x10000 ≤ n && n ≤ 0x10FFFF)

/-- Whether a text is at its end, or goes on with white space. -/
def endsWord : List Char → Bool
  | [] => true
  | c :: _ => isGap c || isBreak c

/-- Whether a text is at its end, or goes on with a line break. -/
def endsLine : List Char → Bool
  | [] => true
  | c :: _ => isBreak c

namespace Cursor

/-- The column of the cursor. -/
def column (c : Cursor) : Nat := c.mark.column

/-- Move on within a line. -/
def skip (n : Nat) (c : Cursor) : Cursor :=
  ⟨c.rest.drop n, ⟨c.mark.index + n, c.mark.line, c.mark.column + n⟩⟩

/-- Move on over the characters that pass a test. -/
def skipWhile (p : Char → Bool) (c : Cursor) : Cursor := c.skip (c.rest.takeWhile p).length

/-- Move on over a line break; also the characters that it counts as. -/
def takeBreak (c : Cursor) : List Char × Cursor :=
  match c.rest with
  | '\r' :: '\n' :: rest => (['\n'], ⟨rest, ⟨c.mark.index + 2, c.mark.line + 1, 0⟩⟩)
  | b :: rest =>
    ([if b == '\u2028' || b == '\u2029' then b else '\n'],
      ⟨rest, ⟨c.mark.index + 1, c.mark.line + 1, 0⟩⟩)
  | [] => ([], c)

/-- Move on over a line break. -/
def skipBreak (c : Cursor) : Cursor := c.takeBreak.2

/-- Whether a line starts with three given characters as a word of their own. -/
def startsWith3 (c : Cursor) (x : Char) : Bool :=
  c.column == 0 && (match c.rest with
    | a :: b :: d :: rest => a == x && b == x && d == x && endsWord rest
    | _ => false)

/-- Whether a line starts with the mark between documents. -/
def atDocumentMark (c : Cursor) : Bool := c.startsWith3 '-' || c.startsWith3 '.'

end Cursor

end StyleBuild.Yaml
