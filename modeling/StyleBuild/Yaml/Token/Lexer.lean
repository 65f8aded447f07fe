import StyleBuild.Yaml.Token.Scalar

/-!
# Splitting a text into tokens

Indentation opens and closes blocks, and a colon may turn out to follow a key: the mark of that
key is then put before tokens that have been read already. A `Lexer` keeps what these decisions
need. Every step fails where the text is malformed; how, does not matter to anyone.
-/

namespace StyleBuild.Yaml

/-- A token that may turn out to start a key. -/
structure KeyStart where
  /-- The number of tokens before it. -/
  before : Nat
  mark : Mark
  /-- Whether nothing else is possible at this place. -/
  isRequired : Bool
  deriving Repr, Inhabited

/-- The state between two tokens. -/
structure Lexer where
  cursor : Cursor
  /-- The tokens read, latest first, and their number. -/
  tokens : List Placed := []
  count : Nat := 0
  /-- The indentation of the open blocks, innermost first. -/
  blocks : List Nat := []
  /-- The possible key at each level of flow collections, innermost first; the last level is
  that of blocks. -/
  keys : List (Option KeyStart) := [none]
  /-- Whether a key may start here. -/
  keyAllowed : Bool := true
  deriving Inhabited

namespace Lexer

/-- Whether the lexer is in a flow collection. -/
def inFlow (s : Lexer) : Bool := 1 < s.keys.length

/-- The indentation of the innermost block. -/
def indent (s : Lexer) : Option Nat := s.blocks.head?

/-- The indentation that further lines of a plain scalar need. -/
def nextIndent (s : Lexer) : Nat :=
  match s.indent with
  | some n => n + 1
  | none => 0

/-- Add a token at the end. -/
def emit (t : Token) (start stop : Mark) (s : Lexer) : Lexer :=
  { s with tokens := ⟨t, start, stop⟩ :: s.tokens, count := s.count + 1 }

/-- Add a token behind the first `before` ones. -/
def insert (before : Nat) (t : Token) (mark : Mark) (s : Lexer) : Lexer :=
  let n := s.count - before
  { s with
    tokens := s.tokens.take n ++ ⟨t, mark, mark⟩ :: s.tokens.drop n
    count := s.count + 1 }

/-- Read a token of `n` characters. -/
def take (t : Token) (n : Nat) (s : Lexer) : Lexer :=
  let c := s.cursor.skip n
  { s.emit t s.cursor.mark c.mark with cursor := c }

/-- Give up the possible keys that are on an earlier line or too far back. -/
def dropStale (s : Lexer) : Option Lexer := do
  let here := s.cursor.mark
  let keys ← s.keys.mapM fun
    | none => some none
    | some k =>
      if k.mark.line < here.line ∨ k.mark.index + 1024 < here.index then
        if k.isRequired then none else some none
      else some (some k)
  return { s with keys }

/-- Give up the possible key of the innermost level. -/
def dropKey (s : Lexer) : Option Lexer :=
  match s.keys with
  | some k :: rest => if k.isRequired then none else some { s with keys := none :: rest }
  | _ => some s

/-- Note that the next token may start a key. -/
def noteKey (s : Lexer) : Option Lexer :=
  if !s.keyAllowed then some s
  else do
    let s ← s.dropKey
    let isRequired := !s.inFlow && s.indent == some s.cursor.column
    return { s with keys := some ⟨s.count, s.cursor.mark, isRequired⟩ :: s.keys.drop 1 }

/-- Open a block if the column is beyond the indentation; `before` tokens precede it. -/
def openBlock (column before : Nat) (t : Token) (mark : Mark) (s : Lexer) : Lexer :=
  if s.inFlow || s.indent.any (column ≤ ·) then s
  else { s.insert before t mark with blocks := column :: s.blocks }

/-- Close the blocks whose indentation is beyond a column; all of them without a column. -/
def closeBlocks (column : Option Nat) (s : Lexer) : Lexer :=
  if s.inFlow then s
  else
    let isClosed (n : Nat) : Bool := column.all (· < n)
    let n := (s.blocks.takeWhile isClosed).length
    let mark := s.cursor.mark
    { s with
      blocks := s.blocks.drop n
      tokens := List.replicate n ⟨.blockEnd, mark, mark⟩ ++ s.tokens
      count := s.count + n }

/-- Move on over white space and comments. A byte-order mark may start a line. -/
def skipSpace : Nat → Lexer → Lexer
  | 0, s => s
  | n + 1, s =>
    let c := s.cursor
    let c := if c.column = 0 ∧ c.rest.head? = some '\uFEFF' then c.skip 1 else c
    let c := c.skipWhile fun x => x == ' ' || ((s.inFlow || !s.keyAllowed) && x == '\t')
    let c := if c.rest.head? = some '#' then c.skipWhile fun x => !isBreak x else c
    if c.rest.head?.any isBreak then
      skipSpace n { s with cursor := c.skipBreak, keyAllowed := s.keyAllowed || !s.inFlow }
    else { s with cursor := c }

/-! ## Directives -/

/-- Read a number of at most nine digits. -/
def readNumber (c : Cursor) : Option (Nat × Cursor) :=
  let ds := c.rest.takeWhile Char.isDigit
  if ds.isEmpty ∨ 9 < ds.length then none else some (valueOfDigits 10 ds, c.skip ds.length)

/-- A character that may stand in a tag. -/
def isTagChar (verbatim : Bool) (c : Char) : Bool :=
  isWord c || [';', '/', '?', ':', '@', '&', '=', '+', '$', '.', '!', '~', '*', '\'', '(',
    ')'].contains c || (verbatim && [',', '[', ']'].contains c)

/-- A byte written as two hexadecimal digits behind a percent sign. -/
def readByte : List Char → Option (Nat × List Char)
  | '%' :: a :: b :: rest =>
    match digitValue? a, digitValue? b with
    | some x, some y => if x < 16 ∧ y < 16 then some (16 * x + y, rest) else none
    | _, _ => none
  | _ => none

/-- Read `n` bytes that continue a character. -/
def readContinuation : Nat → Nat → List Char → Option (Nat × List Char)
  | 0, v, cs => some (v, cs)
  | n + 1, v, cs => do
    let (b, cs) ← readByte cs
    if b / 64 = 2 then readContinuation n (64 * v + b % 64) cs else none

/-- Read a character written as bytes. -/
def readEscapedChar (cs : List Char) : Option (Char × List Char) := do
  let (b, cs) ← readByte cs
  let (n, v) ←
    if b < 0x80 then some (0, b)
    else if b / 32 = 6 then some (1, b % 32)
    else if b / 16 = 14 then some (2, b % 16)
    else if b / 8 = 30 then some (3, b % 8)
    else none
  let (v, cs) ← readContinuation n v cs
  return (charOfCode v, cs)

/-- Read the characters of a tag. -/
def tagChars (verbatim : Bool) : Nat → List Char → Option (List Char × List Char)
  | 0, cs => some ([], cs)
  | n + 1, cs =>
    match cs with
    | [] => some ([], [])
    | c :: rest =>
      if c = '%' then do
        let (x, cs) ← readEscapedChar cs
        let (xs, cs) ← tagChars verbatim n cs
        return (x :: xs, cs)
      else if isTagChar verbatim c then do
        let (xs, cs) ← tagChars verbatim n rest
        return (c :: xs, cs)
      else some ([], cs)

/-- Read the characters of a tag from a cursor. -/
def readTagChars (verbatim : Bool) (c : Cursor) : Option (List Char × Cursor) := do
  let (xs, rest) ← tagChars verbatim c.rest.length c.rest
  return (xs, c.skip (c.rest.length - rest.length))

/-- Read a handle of tags: `!`, or a word between two exclamation marks. -/
def readHandle (c : Cursor) : Option (List Char × Cursor) :=
  match c.rest with
  | '!' :: rest =>
    let word := rest.takeWhile isWord
    match rest.drop word.length with
    | '!' :: _ => some ('!' :: word ++ ['!'], c.skip (word.length + 2))
    | _ => some ('!' :: word, c.skip (word.length + 1))
  | _ => none

/-- Read a directive. -/
def readDirective (c : Cursor) : Option (Token × Cursor) := do
  let c := c.skip 1
  let name := c.rest.takeWhile isWord
  let c := c.skip name.length
  if !endsWord c.rest then none
  let c := c.skipWhile isGap
  match String.ofList name with
  | "YAML" =>
    let (major, c) ← readNumber c
    if c.rest.head? ≠ some '.' then none
    let (minor, c) ← readNumber (c.skip 1)
    return (.version major minor, c)
  | "TAG" =>
    let (handle, c) ← readHandle c
    if handle ≠ ['!'] ∧ handle.getLast? ≠ some '!' then none
    if !(c.rest.head?.any isGap) then none
    let (expansion, c) ← readTagChars true (c.skipWhile isGap)
    if expansion.isEmpty ∨ !endsWord c.rest then none
    return (.tagShorthand (String.ofList handle) (String.ofList expansion), c)
  | _ => none

/-- Read a directive line. -/
def directive (s : Lexer) : Option Lexer := do
  let s ← (s.closeBlocks none).dropKey
  let (t, c) ← readDirective s.cursor
  let s := s.emit t s.cursor.mark c.mark
  let c := c.skipWhile isGap
  let c := if c.rest.head? = some '#' then c.skipWhile fun x => !isBreak x else c
  if !endsLine c.rest then none
  return { s with cursor := if c.rest.isEmpty then c else c.skipBreak, keyAllowed := false }

/-! ## Properties of nodes -/

/-- Read the name of an anchor. -/
def readAnchorName (c : Cursor) : Option (String × Cursor) :=
  let name := c.rest.takeWhile isWord
  let c := c.skip name.length
  let isEnd := endsWord c.rest ||
    c.rest.head?.any fun x => ['?', ':', ',', ']', '\x7d', '%', '@', '\x60'].contains x
  if name.isEmpty || !isEnd then none else some (String.ofList name, c)

/-- Read a tag. -/
def readTag (inFlow : Bool) (c : Cursor) : Option (Token × Cursor) := do
  let (t, c) ← if c.rest.drop 1 |>.head? |>.any (· == '<') then do
      let (suffix, c) ← readTagChars true (c.skip 2)
      if suffix.isEmpty ∨ c.rest.head? ≠ some '>' then none
      pure (Token.tag "" (String.ofList suffix), c.skip 1)
    else do
      let (handle, c) ← readHandle c
      let (suffix, c) ← readTagChars false c
      if 1 < handle.length ∧ handle.getLast? = some '!' then
        if suffix.isEmpty then none
        pure (Token.tag (String.ofList handle) (String.ofList suffix), c)
      else
        let suffix := handle.drop 1 ++ suffix
        pure (if suffix.isEmpty then Token.tag "" "!" else Token.tag "!" (String.ofList suffix), c)
  if endsWord c.rest || (inFlow && c.rest.head? == some ',') then some (t, c) else none

/-! ## Steps -/

/-- Add a scalar that has been read. -/
def addScalar (isPlain : Bool) (r : ReadScalar) (s : Lexer) : Lexer :=
  { s.emit (.scalar (String.ofList r.text) isPlain) s.cursor.mark r.stop with cursor := r.cursor }

/-- Read the start of a flow collection. -/
def openFlow (t : Token) (s : Lexer) : Option Lexer := do
  let s ← s.noteKey
  return { s.take t 1 with keys := none :: s.keys, keyAllowed := true }

/-- Read the end of a flow collection. -/
def closeFlow (t : Token) (s : Lexer) : Option Lexer := do
  let s ← s.dropKey
  let keys := if s.inFlow then s.keys.drop 1 else s.keys
  return { s.take t 1 with keys, keyAllowed := false }

/-- Read a dash that starts an entry. -/
def blockEntry (s : Lexer) : Option Lexer := do
  if !s.inFlow && !s.keyAllowed then none
  let s := s.openBlock s.cursor.column s.count .blockSequenceStart s.cursor.mark
  let s ← s.dropKey
  return { s.take .blockEntry 1 with keyAllowed := true }

/-- Read a question mark that starts a key. -/
def explicitKey (s : Lexer) : Option Lexer := do
  if !s.inFlow && !s.keyAllowed then none
  let s := s.openBlock s.cursor.column s.count .blockMappingStart s.cursor.mark
  let s ← s.dropKey
  return { s.take .key 1 with keyAllowed := !s.inFlow }

/-- Read a colon that starts a value. -/
def value (s : Lexer) : Option Lexer :=
  match s.keys with
  | some k :: rest =>
    let s := s.insert k.before .key k.mark
    let s := s.openBlock k.mark.column k.before .blockMappingStart k.mark
    some { s.take .value 1 with keys := none :: rest, keyAllowed := false }
  | _ => do
    if !s.inFlow && !s.keyAllowed then none
    let s := s.openBlock s.cursor.column s.count .blockMappingStart s.cursor.mark
    return { s.take .value 1 with keyAllowed := !s.inFlow }

/-- Read a scalar that may be a key. -/
def keyScalar (isPlain : Bool) (read : Cursor → Option ReadScalar) (s : Lexer) :
    Option Lexer := do
  let s ← s.noteKey
  let r ← read s.cursor
  return { s.addScalar isPlain r with keyAllowed := r.broken }

/-- Read a block scalar. -/
def blockScalar (folds : Bool) (s : Lexer) : Option Lexer := do
  let s ← s.dropKey
  let r ← readBlock folds s.indent s.cursor
  return { s.addScalar false r with keyAllowed := true }

/-- Read a property of a node. -/
def property (read : Cursor → Option (Token × Cursor)) (s : Lexer) : Option Lexer := do
  let s ← s.noteKey
  let (t, c) ← read s.cursor
  return { s.emit t s.cursor.mark c.mark with cursor := c, keyAllowed := false }

/-- Whether a plain scalar starts here. -/
def startsPlain (inFlow : Bool) : List Char → Bool
  | [] => false
  | c :: rest =>
    if c = '-' then !(rest.head?.any isGap)
    else if c = '?' ∨ c = ':' then !inFlow && !endsWord rest
    else !isGap c && !isBreak c && !isFlowIndicator c &&
      !(['#', '&', '*', '!', '|', '>', '\'', '"', '%', '@', '\x60'].contains c)

/-- Read the next token; the flag tells that the end has been reached. -/
def step (s : Lexer) : Option (Lexer × Bool) := do
  let s ← (s.skipSpace (s.cursor.rest.length + 1)).dropStale
  let s := s.closeBlocks (some s.cursor.column)
  let c := s.cursor
  let go (r : Option Lexer) : Option (Lexer × Bool) := r.map (·, false)
  match c.rest with
  | [] =>
    let m := if c.column = 0 then c.mark else ⟨c.mark.index, c.mark.line + 1, 0⟩
    let s ← ({ s with cursor := ⟨[], m⟩ }.closeBlocks none).dropKey
    return (s.emit .streamEnd m m, true)
  | x :: rest =>
    if x = '%' ∧ c.column = 0 then go s.directive
    else if c.startsWith3 '-' then go do
      let s ← (s.closeBlocks none).dropKey
      return { s.take .documentStart 3 with keyAllowed := false }
    else if c.startsWith3 '.' then go do
      let s ← (s.closeBlocks none).dropKey
      return { s.take .documentEnd 3 with keyAllowed := false }
    else if x = '[' then go (s.openFlow .flowSequenceStart)
    else if x = '\x7b' then go (s.openFlow .flowMappingStart)
    else if x = ']' then go (s.closeFlow .flowSequenceEnd)
    else if x = '\x7d' then go (s.closeFlow .flowMappingEnd)
    else if x = ',' then go do
      let s ← s.dropKey
      return { s.take .flowEntry 1 with keyAllowed := true }
    else if x = '-' ∧ endsWord rest then go s.blockEntry
    else if x = '?' ∧ (s.inFlow ∨ endsWord rest) then go s.explicitKey
    else if x = ':' ∧ (s.inFlow ∨ endsWord rest) then go s.value
    else if x = '*' then go (s.property fun c =>
      (readAnchorName (c.skip 1)).map fun (n, c) => (.alias n, c))
    else if x = '&' then go (s.property fun c =>
      (readAnchorName (c.skip 1)).map fun (n, c) => (.anchor n, c))
    else if x = '!' then go (s.property (readTag s.inFlow))
    else if x = '|' ∧ !s.inFlow then go (s.blockScalar false)
    else if x = '>' ∧ !s.inFlow then go (s.blockScalar true)
    else if x = '\'' ∨ x = '"' then go (s.keyScalar false (readQuoted x))
    else if startsPlain s.inFlow c.rest then
      go (s.keyScalar true (readPlain s.inFlow s.nextIndent))
    else none

/-- Read tokens up to the end. -/
def run : Nat → Lexer → Option (List Placed)
  | 0, _ => none
  | n + 1, s =>
    match s.step with
    | none => none
    | some (s, true) => some s.tokens.reverse
    | some (s, false) => run n s

end Lexer

/-- The tokens of a text, unless it is malformed. -/
def tokenize (text : String) : Option (List Placed) :=
  let cs := text.toList
  if cs.all isAllowed then Lexer.run (cs.length + 1) { cursor := ⟨cs, {}⟩ } else none

end StyleBuild.Yaml
