import StyleBuild.Data.Reading

/-!
# Reading JSON text

A reader takes its value off the front of a text and keeps count of the place, so that a fault can
be named with the line and the column where it was found. Columns count bytes. Data that is well
formed but does not fit may be noticed before its place is known; whoever reads the brackets around
it gives it one.
-/

namespace StyleBuild.Json

/-- A place in a text: its line, and the bytes before it in that line. -/
structure Place where
  line : Nat := 1
  column : Nat := 0
  deriving DecidableEq, Repr, Inhabited

/-- The place behind a character. -/
def Place.after (p : Place) (c : Char) : Place :=
  if c = '\n' then ⟨p.line + 1, 0⟩ else ⟨p.line, p.column + c.utf8Size⟩

/-- The place behind a number of bytes. -/
def Place.afterBytes (p : Place) : Nat → List Char → Place
  | 0, _ | _, [] => p
  | n + 1, c :: cs =>
    if c = '\n' then Place.afterBytes ⟨p.line + 1, 0⟩ n cs
    else if c.utf8Size ≤ n + 1 then
      Place.afterBytes ⟨p.line, p.column + c.utf8Size⟩ (n + 1 - c.utf8Size) cs
    else ⟨p.line, p.column + (n + 1)⟩
  termination_by _ cs => cs.length

/-- What is left of a text, and its place. -/
structure Cursor where
  rest : List Char
  place : Place := {}
  deriving DecidableEq, Repr, Inhabited

/-- Whether a character is white space. -/
def isSpace (c : Char) : Bool := c == ' ' || c == '\n' || c == '\t' || c == '\r'

namespace Cursor

/-- Move on behind the next characters. -/
def skip (n : Nat) (c : Cursor) : Cursor :=
  ⟨c.rest.drop n, (c.rest.take n).foldl Place.after c.place⟩

/-- Move on behind the next character. -/
def next (c : Cursor) : Cursor := c.skip 1

/-- Move on over white space. -/
def skipSpace (c : Cursor) : Cursor := c.skip (c.rest.takeWhile isSpace).length

/-- The place behind the next byte. -/
def ahead (c : Cursor) : Place := c.place.afterBytes 1 c.rest

end Cursor

/-- What is wrong with a text. -/
inductive Flaw where
  | endOfList
  | endOfObject
  | endOfText
  | endOfValue
  | noColon
  | noItem
  | noEntry
  | noWord
  | noValue
  | escape
  | number
  | range
  | control
  | keyNotText
  | loneSurrogate
  | unfinishedEscape
  | trailingComma
  | trailing
  deriving DecidableEq, Repr, Inhabited

/-- The flaw in words. -/
def Flaw.message : Flaw → String
  | .endOfList => "EOF while parsing a list"
  | .endOfObject => "EOF while parsing an object"
  | .endOfText => "EOF while parsing a string"
  | .endOfValue => "EOF while parsing a value"
  | .noColon => "expected \x60:\x60"
  | .noItem => "expected \x60,\x60 or \x60]\x60"
  | .noEntry => "expected \x60,\x60 or \x60\x7d\x60"
  | .noWord => "expected ident"
  | .noValue => "expected value"
  | .escape => "invalid escape"
  | .number => "invalid number"
  | .range => "number out of range"
  | .control => "control character (\\u0000-\\u001F) found while parsing a string"
  | .keyNotText => "key must be a string"
  | .loneSurrogate => "lone leading surrogate in hex escape"
  | .unfinishedEscape => "unexpected end of hex escape"
  | .trailingComma => "trailing comma"
  | .trailing => "trailing characters"

/-- Why reading stops. -/
inductive Stop where
  /-- The text is at fault. -/
  | flawed (flaw : Flaw) (place : Place)
  /-- The data does not fit. -/
  | unfit (mismatch : Mismatch) (place : Place)
  /-- The data does not fit; its place is still open. -/
  | open_ (mismatch : Mismatch) (cursor : Cursor)
  deriving Inhabited

/-- A text followed by a place. -/
def Place.label (p : Place) (text : String) : String :=
  text ++ " at line " ++ decimalText p.line ++ " column " ++ decimalText p.column

/-- Why reading stops, in words. -/
def Stop.message : Stop → String
  | .flawed f p => p.label f.message
  | .unfit m p => p.label m.message
  | .open_ m _ => m.message

/-- What takes a value off the front of a text. -/
abbrev Reader (α : Type) := StateT Cursor (Except Stop) α

namespace Reader

/-- The next character. -/
def peek : Reader (Option Char) := return (← get).rest.head?

/-- Move on behind the next character. -/
def advance : Reader Unit := modify Cursor.next

/-- Move on over white space, up to the next character. -/
def peekBehindSpace : Reader (Option Char) := do
  modify Cursor.skipSpace
  peek

/-- Stop at this place. -/
def flawHere {α : Type} (f : Flaw) : Reader α := do throw (.flawed f (← get).place)

/-- Stop behind the next byte. -/
def flawAhead {α : Type} (f : Flaw) : Reader α := do throw (.flawed f (← get).ahead)

/-- Stop at this place because the data does not fit. -/
def unfitHere {α : Type} (m : Mismatch) : Reader α := do throw (.unfit m (← get).place)

/-- Stop because the data does not fit, and leave the place open. -/
def unfitSomewhere {α : Type} (m : Mismatch) : Reader α := do throw (.open_ m (← get))

/-- Take the characters that pass a test. -/
def takeWhile (p : Char → Bool) : Reader (List Char) := do
  let cs := (← get).rest.takeWhile p
  modify (Cursor.skip cs.length)
  return cs

/-- Read the letters of a word. -/
def word : List Char → Reader Unit
  | [] => return ()
  | c :: cs => do
    match ← peek with
    | none => flawHere .endOfValue
    | some d => if d = c then do advance; word cs else flawAhead .noWord

/-- Read the end of an object, if it is there: where reading goes on, and the flaw if not. -/
def closeObject (c : Cursor) : Option Stop × Cursor :=
  let c := c.skipSpace
  match c.rest.head? with
  | some '\x7d' => (none, c.next)
  | some ',' => (some (.flawed .trailingComma c.ahead), c)
  | some _ => (some (.flawed .trailing c.ahead), c)
  | none => (some (.flawed .endOfObject c.ahead), c)

/-- Read the end of a list, if it is there: where reading goes on, and the flaw if not. -/
def closeList (c : Cursor) : Option Stop × Cursor :=
  let c := c.skipSpace
  match c.rest.head? with
  | some ']' => (none, c.next)
  | some ',' =>
    let c := c.next.skipSpace
    (some (.flawed (if c.rest.head? = some ']' then .trailingComma else .trailing) c.ahead), c)
  | some _ => (some (.flawed .trailing c.ahead), c)
  | none => (some (.flawed .endOfList c.ahead), c)

/-- Read something up to the bracket that closes it. An open place is the one behind that
bracket, or where the bracket should be. -/
def enclosed {α : Type} (body : Reader α) (close : Cursor → Option Stop × Cursor) : Reader α :=
  fun c =>
    match body c with
    | .ok (x, c) =>
      match close c with
      | (none, c) => .ok (x, c)
      | (some s, _) => .error s
    | .error (.open_ m c) => .error (.unfit m (close c).2.place)
    | .error s => .error s

/-- Whether a list goes on with an item; go to the item if so. -/
def moreItems (first : Bool) : Reader Bool := do
  match ← peekBehindSpace with
  | none => flawAhead .endOfList
  | some ']' => return false
  | some c =>
    if first then return true
    else if c = ',' then do
      advance
      match ← peekBehindSpace with
      | some ']' => flawAhead .trailingComma
      | some _ => return true
      | none => flawAhead .endOfValue
    else flawAhead .noItem

/-- Whether an object goes on with an entry; go to the quote of its key if so. -/
def moreEntries (first : Bool) : Reader Bool := do
  match ← peekBehindSpace with
  | none => flawAhead .endOfObject
  | some '\x7d' => return false
  | some c =>
    if first then (if c = '"' then return true else flawAhead .keyNotText)
    else if c = ',' then do
      advance
      match ← peekBehindSpace with
      | some '"' => return true
      | some '\x7d' => flawAhead .trailingComma
      | some _ => flawAhead .keyNotText
      | none => flawAhead .endOfValue
    else flawAhead .noEntry

/-- Read the colon behind a key. -/
def colon : Reader Unit := do
  match ← peekBehindSpace with
  | some ':' => advance
  | some _ => flawAhead .noColon
  | none => flawAhead .endOfObject

end Reader

end StyleBuild.Json
