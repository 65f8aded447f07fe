import StyleBuild.Regex.Bulk
import StyleBuild.Regex.CaseFold
import StyleBuild.Regex.Matching
import StyleBuild.Regex.Property
import StyleBuild.Text.Blank

/-!
# Reading regular expressions

The text of a regular expression is read from left to right. Groups that are not closed yet are
kept on a stack. A doubt about the meaning of a part, such as a property that is not known, counts
only when the whole text has been read.
-/

namespace StyleBuild.Regex

/-- The switches of the notation. -/
structure Flags where
  ignoreCase : Bool := false
  multiLine : Bool := false
  dotAll : Bool := false
  swapGreed : Bool := false
  unicode : Bool := true
  anyLineBreak : Bool := false
  verbose : Bool := false
  deriving Repr, Inhabited

/-- What is left to read, and what has been learnt from what was read. -/
structure Reader where
  rest : List Char
  here : Mark := {}
  flags : Flags := {}
  names : List (String × Span) := []
  doubt : Option Fault := none
  deriving Inhabited

/-- A part of the reading. -/
abbrev Reading := StateT Reader (Except Fault)

namespace Reading

/-- Fail at a span. -/
def fail {α : Type} (cause : Cause) (span : Span) (clash : Option Span := none) : Reading α :=
  throw ⟨cause, span, clash⟩

/-- Note a doubt; the first one counts. -/
def doubt (cause : Cause) (span : Span) : Reading Unit :=
  modify fun r => { r with doubt := r.doubt <|> some ⟨cause, span, none⟩ }

/-- The next character. -/
def peek : Reading (Option Char) := return (← get).rest.head?

/-- The character after the next. -/
def peekSecond : Reading (Option Char) := return (← get).rest[1]?

/-- The place of the next character. -/
def here : Reading Mark := return (← get).here

/-- The empty span in front of the next character. -/
def spot : Reading Span := return ⟨(← here), (← here)⟩

/-- The span of the next character. -/
def charSpan : Reading Span := do
  let r ← get
  return ⟨r.here, (r.rest.head?.map r.here.after).getD r.here⟩

/-- The span from a place to the next character. -/
def since (start : Mark) : Reading Span := return ⟨start, (← here)⟩

/-- Pass the next character. -/
def bump : Reading Unit :=
  modify fun r => match r.rest with
    | [] => r
    | c :: cs => { r with rest := cs, here := r.here.after c }

/-- Whether all is read. -/
def atEnd : Reading Bool := return (← get).rest.isEmpty

/-- Pass some characters that come next. -/
def bumpAll (n : Nat) : Reading Unit := n.forM fun _ _ => bump

/-- Pass a text if it comes next. -/
def bumpIf (text : String) : Reading Bool := do
  if text.toList.isPrefixOf (← get).rest then
    bumpAll text.length
    return true
  return false

/-- Pass the first of some texts that comes next. -/
def bumpAny : List String → Reading Bool
  | [] => return false
  | t :: ts => do
    if ← bumpIf t then return true
    bumpAny ts

/-- The length of the white space and comments in front of a text. -/
def blankLength (inComment : Bool) : List Char → Nat
  | [] => 0
  | c :: cs =>
    if inComment then 1 + blankLength (c != '\n') cs
    else if isBlank c then 1 + blankLength false cs
    else if c == '#' then 1 + blankLength true cs
    else 0

/-- Pass white space and comments where these are ignored. -/
def skip : Reading Unit := do
  let r ← get
  if r.flags.verbose then bumpAll (blankLength false r.rest)

/-- Pass the next character and what is ignored after it; tells whether there is more. -/
def bumpSkip : Reading Bool := do
  bump
  if ← atEnd then return false
  skip
  return !(← atEnd)

/-- The character after the next that is not ignored. -/
def peekSkip : Reading (Option Char) := do
  let r ← get
  let after := r.rest.drop 1
  if !r.flags.verbose then return after.head?
  match after.dropWhile isBlank with
  | '#' :: cs =>
    match cs.dropWhile isBlank with
    | [] => return after.head?
    | c :: _ => return some c
  | [] => return after.head?
  | c :: _ => return some c

/-- Pass characters that fit while there are any. -/
def bumpWhile (p : Char → Bool) : Reading (List Char) := do
  let taken := (← get).rest.takeWhile p
  bumpAll taken.length
  return taken

end Reading

open Reading

/-! ## Single characters and sets -/

/-- A part that stands for one place in the text. -/
inductive Atom where
  | literal (c : Char) (byte : Bool)
  | set (s : CharSet)
  | place (p : Place)
  | dot

/-- Whether a character has a meaning of its own. -/
def isMeta (c : Char) : Bool := "\\.+*?()|[]\x7b\x7d^$#&-~".toList.contains c

/-- Whether a character may stand behind a backslash for itself. -/
def isEscapable (c : Char) : Bool :=
  c.toNat < 128 && !c.isAlphanum && c != '<' && c != '>'

/-- The character of a hexadecimal code. -/
def codeChar? (digits : List Char) : Option Char :=
  let n := valueOfDigits 16 digits
  if n < 0xD800 ∨ (0xDFFF < n ∧ n ≤ 0x10FFFF) then some (Char.ofNat n) else none

/-- Read `count` hexadecimal digits. -/
def hexDigits : Nat → Reading (List Char)
  | 0 => return []
  | n + 1 => do
    match ← peek with
    | none => fail .endInEscape (← spot)
    | some c =>
      if !isHexDigit c then fail .hexDigit (← charSpan)
      if n = 0 then
        discard bumpSkip
        return [c]
      else
        if !(← bumpSkip) then fail .endInEscape (← spot)
        return c :: (← hexDigits n)

/-- Read hexadecimal digits up to a closing brace. -/
def hexInBraces (opening : Mark) : Nat → Reading (List Char)
  | 0 => do fail .endInEscape (← since opening)
  | fuel + 1 => do
    if !(← bumpSkip) then fail .endInEscape (← since opening)
    match ← peek with
    | some '\x7d' => return []
    | some c =>
      if !isHexDigit c then fail .hexDigit (← charSpan)
      return c :: (← hexInBraces opening fuel)
    | none => fail .endInEscape (← since opening)

/-- Read a code behind `x`, `u` or `U`. -/
def hexEscape (width : Nat) : Reading Atom := do
  if !(← bumpSkip) then fail .endInEscape (← spot)
  if (← peek) = some '\x7b' then
    let opening ← here
    let start := (← charSpan).stop
    let digits ← hexInBraces opening ((← get).rest.length + 1)
    let stop ← here
    discard bumpSkip
    if digits.isEmpty then fail .hexEmpty (← since opening)
    match codeChar? digits with
    | some c => return .literal c false
    | none => fail .hexInvalid ⟨start, stop⟩
  else
    let start ← here
    let digits ← hexDigits width
    match codeChar? digits with
    | some c => return .literal c (width = 2)
    | none => fail .hexInvalid (← since start)

/-- The set of a property and whether it is the characters without it. -/
def propertySet (name : String) (negated : Bool) : Except Cause (CharSet × Bool) :=
  let valued (op : String) : Option (String × String) :=
    match name.splitOn op with
    | a :: b :: rest => some (a, String.intercalate op (b :: rest))
    | _ => none
  let cause : CharSet.PropertyFault → Cause
    | .property => .unknownProperty
    | .value => .unknownPropertyValue
  let find (a b : String) (negated : Bool) : Except Cause (CharSet × Bool) :=
    match CharSet.ofPropertyValue a b with
    | .ok s => .ok (s, negated)
    | .error e => .error (cause e)
  match valued "!=", valued ":", valued "=" with
  | some (a, b), _, _ => find a b (!negated)
  | none, some (a, b), _ => find a b negated
  | none, none, some (a, b) => find a b negated
  | none, none, none =>
    match CharSet.ofProperty name with
    | .ok s => .ok (s, negated)
    | .error e => .error (cause e)

/-- A set with case and negation as the switches say. -/
def Flags.close (f : Flags) (negated : Bool) (s : CharSet) : CharSet :=
  let s := if !f.ignoreCase then s else if f.unicode then s.foldCase else s.foldAscii
  if negated then s.complement else s

/-- Read the name in braces of a property. -/
def propertyName : Nat → Reading (List Char)
  | 0 => do fail .endInEscape (← spot)
  | fuel + 1 => do
    if !(← bumpSkip) then fail .endInEscape (← spot)
    match ← peek with
    | some '\x7d' => return []
    | some c => return c :: (← propertyName fuel)
    | none => fail .endInEscape (← spot)

/-- Read a property behind `p` or `P`. Inside a class, case is left to the class. -/
def propertyEscape (start : Mark) (negated inClass : Bool) : Reading Atom := do
  if !(← bumpSkip) then fail .endInEscape (← spot)
  let name ← match ← peek with
    | some '\x7b' => do
      let name ← propertyName ((← get).rest.length + 1)
      bump
      pure name
    | some '\\' => fail .invalidProperty (← charSpan)
    | some c => do
      discard bumpSkip
      pure [c]
    | none => pure []
  let span ← since start
  let flags := (← get).flags
  if !flags.unicode then
    doubt .unicodeNotAllowed span
    return .set {}
  match propertySet (String.ofList name) negated with
  | .error cause => do
    doubt cause span
    return .set {}
  | .ok (s, negated) =>
    return .set ({ flags with ignoreCase := flags.ignoreCase && !inClass }.close negated s)

/-- The set of one of the letters `d`, `s` and `w`, of which a capital letter stands for the
other characters. -/
def letterSet (c : Char) (unicode : Bool) : CharSet :=
  let s : CharSet := match c.toLower with
    | 'd' => if unicode then .digit else ⟨[(48, 57)]⟩
    | 's' => if unicode then .space else ⟨[(9, 13), (32, 32)]⟩
    | _ => if unicode then .word else ⟨[(48, 57), (65, 90), (95, 95), (97, 122)]⟩
  if c.isUpper then s.complement else s

/-- The characters of words. -/
def Flags.letters (f : Flags) : CharSet := letterSet 'w' f.unicode

/-- Read the name in braces behind a word edge. -/
def wordPlaceName (opening : Mark) : Nat → Reading (List Char)
  | 0 => return []
  | fuel + 1 => do
    match ← peek with
    | none => return []
    | some c =>
      if c.isAlpha || c == '-' then
        discard bumpSkip
        return c :: (← wordPlaceName opening fuel)
      else return []

/-- Read what stands in braces behind a word edge; digits there are a repetition. -/
def wordPlace (start : Mark) : Reading WordPlace := do
  if (← peek) ≠ some '\x7b' then return .edge
  let back ← get
  let opening ← here
  if !(← bumpSkip) then fail .endInWordPlace (← since start)
  let contents ← here
  if !((← peek).any fun c => c.isAlpha || c == '-') then
    set back
    return .edge
  let name ← wordPlaceName opening ((← get).rest.length + 1)
  if (← peek) ≠ some '\x7d' then fail .unclosedWordPlace (← since opening)
  let stop ← here
  bump
  match String.ofList name with
  | "start" => return .start
  | "end" => return .finish
  | "start-half" => return .startHalf
  | "end-half" => return .finishHalf
  | _ => fail .unknownWordPlace ⟨contents, stop⟩

/-- Read what stands behind a backslash. -/
def escape (inClass : Bool) : Reading Atom := do
  let start ← here
  bump
  match ← peek with
  | none => fail .endInEscape (← since start)
  | some c =>
    if c.isDigit then fail .backreference ⟨start, (← charSpan).stop⟩
    match c with
    | 'x' => hexEscape 2
    | 'u' => hexEscape 4
    | 'U' => hexEscape 8
    | 'p' => propertyEscape start false inClass
    | 'P' => propertyEscape start true inClass
    | 'd' | 's' | 'w' | 'D' | 'S' | 'W' => do
      bump
      let flags := (← get).flags
      let s := letterSet c flags.unicode
      if !flags.unicode && !s.isAscii then doubt .notUnicode (← since start)
      return .set s
    | _ => do
      bump
      let span ← since start
      if isMeta c || isEscapable c then return .literal c false
      let letters := (← get).flags.letters
      match c with
      | 'a' => return .literal '\x07' false
      | 'f' => return .literal '\x0c' false
      | 't' => return .literal '\t' false
      | 'n' => return .literal '\n' false
      | 'r' => return .literal '\r' false
      | 'v' => return .literal '\x0b' false
      | 'A' => return .place .start
      | 'z' => return .place .finish
      | 'b' => return .place (.word (← wordPlace start) letters)
      | 'B' => return .place (.word .inside letters)
      | '<' => return .place (.word .start letters)
      | '>' => return .place (.word .finish letters)
      | _ => fail .unknownEscape span

/-! ## Classes -/

/-- The operations between the parts of a class. -/
inductive SetOp where
  | inter
  | diff
  | symmDiff

/-- The result of an operation. -/
def SetOp.apply : SetOp → CharSet → CharSet → CharSet
  | .inter, a, b => a.inter b
  | .diff, a, b => a.diff b
  | .symmDiff, a, b => a.symmDiff b

/-- Items of a class side by side: their set, how many they are, their places, and how deep they
are nested. -/
structure Items where
  set : CharSet := {}
  count : Nat := 0
  span : Span
  depths : Depths := []

namespace Items

/-- No items, at a place. -/
def opened (here : Mark) : Items := { span := ⟨here, here⟩ }

/-- Items followed by one more. -/
def push (k : Items) (set : CharSet) (span : Span) (depths : Depths) : Items :=
  { set := k.set.union set
    count := k.count + 1
    span := ⟨if k.count = 0 then span.start else k.span.start, span.stop⟩
    depths := k.depths.beside depths }

/-- How deep the items are nested as one part of a class. -/
def nested (k : Items) : Depths := if k.count < 2 then k.depths else k.span :: k.depths

end Items

/-- What is read of a class: the operation that waits for its second part, with the first, and the
items being read. -/
structure Class where
  waiting : Option (Items × SetOp) := .none
  items : Items

/-- The parts of a class so far as one. -/
def Class.value (flags : Flags) (k : Class) : Items :=
  match k.waiting with
  | none => { k.items with depths := k.items.nested, count := 1 }
  | some (first, op) =>
    let span : Span := ⟨first.span.start, k.items.span.stop⟩
    { set := op.apply (flags.close false first.set) (flags.close false k.items.set)
      count := 1
      span := span
      depths := span :: first.depths.beside k.items.nested }

/-- The sets with names in classes. -/
def classNamed : String → Option (List (Nat × Nat))
  | "alnum" => some [(48, 57), (65, 90), (97, 122)]
  | "alpha" => some [(65, 90), (97, 122)]
  | "ascii" => some [(0, 127)]
  | "blank" => some [(9, 9), (32, 32)]
  | "cntrl" => some [(0, 31), (127, 127)]
  | "digit" => some [(48, 57)]
  | "graph" => some [(33, 126)]
  | "lower" => some [(97, 122)]
  | "print" => some [(32, 126)]
  | "punct" => some [(33, 47), (58, 64), (91, 96), (123, 126)]
  | "space" => some [(9, 13), (32, 32)]
  | "upper" => some [(65, 90)]
  | "word" => some [(48, 57), (65, 90), (95, 95), (97, 122)]
  | "xdigit" => some [(48, 57), (65, 70), (97, 102)]
  | _ => none

/-- Read a named set such as `[:alpha:]` if one comes next. -/
def namedSet? : Reading (Option CharSet) := do
  let back ← get
  let start ← here
  bump
  if !(← bumpIf ":") then
    set back
    return none
  let negated ← bumpIf "^"
  let name ← bumpWhile (· != ':')
  let closed ← bumpIf ":]"
  match if closed then classNamed (String.ofList name) else none with
  | none => do
    set back
    return none
  | some rs =>
    let s := if negated then CharSet.complement ⟨rs⟩ else ⟨rs⟩
    if !(← get).flags.unicode && !s.isAscii then doubt .notUnicode (← since start)
    return some s

/-- Read one part of a class, with its span. -/
def classAtom : Reading (Atom × Span) := do
  let start ← here
  match ← peek with
  | some '\\' =>
    let a ← escape true
    return (a, ← since start)
  | some c =>
    bump
    return (.literal c false, ← since start)
  | none => return (.dot, ← spot)

/-- Doubt a character that cannot be written as a byte where bytes count. -/
def checkByte (c : Char) (byte : Bool) (span : Span) : Reading Unit := do
  if !(← get).flags.unicode && c.toNat ≥ 128 && !byte then doubt .unicodeNotAllowed span

/-- The character of a bound of a range. -/
def bound : Atom × Span → Reading Char
  | (.literal c byte, span) => do
    checkByte c byte span
    return c
  | (_, span) => fail .classRangeNotLiteral span

/-- The set of a part that is not a range. -/
def classItem : Atom × Span → Reading CharSet
  | (.literal c byte, span) => do
    checkByte c byte span
    return .single c
  | (.set s, _) => return s
  | (_, span) => fail .invalidClassEscape span

/-- Read a part of a class or a range of characters, with its span; `opening` is the span of the
bracket. -/
def classRange (opening : Span) : Reading (CharSet × Span) := do
  let first ← classAtom
  skip
  if ← atEnd then fail .unclosedClass opening
  let next ← peekSkip
  if (← peek) ≠ some '-' || next = some ']' || next = some '-' then
    return (← classItem first, first.2)
  else
    if !(← bumpSkip) then fail .unclosedClass opening
    let second ← classAtom
    let lo ← bound first
    let hi ← bound second
    let span : Span := ⟨first.2.start, second.2.stop⟩
    if hi < lo then fail .invalidClassRange span
    return (⟨[(lo.toNat, hi.toNat)]⟩, span)

/-- Read the dashes at the start of a class, which stand for themselves. -/
def leadingDashes (start : Mark) : Nat → Items → Reading Items
  | 0, k => return k
  | fuel + 1, k => do
    if (← peek) = some '-' then
      let span ← charSpan
      if !(← bumpSkip) then fail .unclosedClass ⟨start, start⟩
      leadingDashes start fuel (k.push (.single '-') span [])
    else return k

/-- Read the opening bracket of a class and what has a special meaning right behind it: its span,
whether the class is negated, and the items read. -/
def classOpening : Reading (Span × Bool × Items) := do
  let start ← here
  if !(← bumpSkip) then fail .unclosedClass (← since start)
  let negated := (← peek) = some '^'
  if negated then
    if !(← bumpSkip) then fail .unclosedClass (← since start)
  let dashes ← leadingDashes start ((← get).rest.length + 1) (.opened (← here))
  if dashes.count = 0 && (← peek) = some ']' then
    let span ← charSpan
    if !(← bumpSkip) then fail .unclosedClass (← since start)
    return (← since start, negated, dashes.push (.single ']') span [])
  return (← since start, negated, dashes)

mutual

/-- Read a class in brackets, with its span and its depths. -/
def bracketed : Nat → Reading (CharSet × Span × Depths)
  | 0 => do fail .unclosedClass (← spot)
  | fuel + 1 => do
    let (opening, negated, first) ← classOpening
    let k ← classItems opening fuel { items := first }
    bump
    let flags := (← get).flags
    let items := k.value flags
    let s := flags.close negated items.set
    let span ← since opening.start
    if !flags.unicode && !s.isAscii then doubt .notUnicode span
    return (s, span, span :: items.depths)

/-- Read the parts of a class up to its closing bracket. -/
def classItems (opening : Span) : Nat → Class → Reading Class
  | 0, _ => fail .unclosedClass opening
  | fuel + 1, k => do
    skip
    let flags := (← get).flags
    let operator (op : SetOp) : Reading Class := do
      bumpAll 2
      classItems opening fuel ⟨some (k.value flags, op), .opened (← here)⟩
    match ← peek, ← peekSecond with
    | none, _ => fail .unclosedClass opening
    | some ']', _ => return k
    | some '[', _ =>
      let start ← here
      let (s, span, depths) ← match ← namedSet? with
        | some s => pure (s, ← since start, [])
        | none => bracketed fuel
      classItems opening fuel { k with items := k.items.push s span depths }
    | some '&', some '&' => operator .inter
    | some '-', some '-' => operator .diff
    | some '~', some '~' => operator .symmDiff
    | _, _ =>
      let (s, span) ← classRange opening
      classItems opening fuel { k with items := k.items.push s span [] }

end

/-! ## Groups and repetitions -/

/-- A part of a sequence with where it starts. -/
structure Part where
  start : Mark
  outline : Outline
  deriving Inhabited

/-- A group that is being read: the alternatives before and the sequence so far, both in reverse,
each with where it starts. -/
structure Body where
  start : Mark
  branches : List Outline := []
  partsStart : Mark
  parts : List Part := []

namespace Body

/-- A group of which nothing is read. -/
def opened (here : Mark) : Body := { start := here, partsStart := here }

/-- The alternatives read so far in reverse, the last one included, up to a place. -/
def finished (b : Body) (stop : Mark) : List Outline :=
  .ofParts ⟨b.partsStart, stop⟩ (b.parts.reverse.map Part.outline) :: b.branches

/-- The outline of a group that ends at a place. -/
def outline (b : Body) (stop : Mark) : Outline :=
  .ofBranches ⟨b.start, stop⟩ (b.finished stop).reverse

/-- Add a part to a sequence. -/
def push (b : Body) (start : Mark) (p : Outline) : Body := { b with parts := ⟨start, p⟩ :: b.parts }

/-- Go on with the next alternative. -/
def branch (b : Body) (here next : Mark) : Body :=
  { start := b.start, branches := b.finished here, partsStart := next }

end Body

/-- A group that is open: where it was opened, whether it captures, what stands before it, and the
switches to go back to. -/
structure Frame where
  opening : Span
  captures : Bool
  outer : Body
  flags : Flags

/-- The set for a character. -/
def Flags.charSet (f : Flags) (c : Char) : CharSet :=
  let s := CharSet.single c
  if !f.ignoreCase then s else if f.unicode then s.foldCase else s.foldAscii

/-- The outline of an atom. -/
def Atom.outline (a : Atom) (span : Span) : Reading Outline := do
  let flags := (← get).flags
  match a with
  | .literal c byte =>
    if byte && !flags.unicode && c.toNat ≥ 128 then doubt .notUnicode span
    return .char (flags.charSet c)
  | .set s => return .char s
  | .place p => return .at p
  | .dot =>
    if !flags.unicode then doubt .notUnicode span
    return .char (if flags.dotAll then ⟨[(0, CharSet.lastCode)]⟩
      else if flags.anyLineBreak then CharSet.complement ⟨[(10, 10), (13, 13)]⟩
      else CharSet.complement ⟨[(10, 10)]⟩)

/-- The place of a line start. -/
def Flags.lineStart (f : Flags) : Place :=
  if !f.multiLine then .start else if f.anyLineBreak then .anyLineStart else .lineStart

/-- The place of a line end. -/
def Flags.lineFinish (f : Flags) : Place :=
  if !f.multiLine then .finish else if f.anyLineBreak then .anyLineFinish else .lineFinish

/-- Read a part that is no operator. -/
def primitive : Reading Outline := do
  let start ← here
  let flags := (← get).flags
  let a ← match ← peek with
    | some '\\' => escape false
    | some '.' => do bump; pure Atom.dot
    | some '^' => do bump; pure (Atom.place flags.lineStart)
    | some '$' => do bump; pure (Atom.place flags.lineFinish)
    | some c => do bump; pure (Atom.literal c false)
    | none => pure Atom.dot
  a.outline (← since start)

/-- Take the last part of a sequence to repeat it. -/
def Body.pop (b : Body) : Reading (Part × Body) := do
  match b.parts with
  | p :: rest =>
    if p.outline matches .switch then fail .nothingToRepeat (← spot)
    return (p, { b with parts := rest })
  | [] => fail .nothingToRepeat (← spot)

/-- Add rounds of a part to a sequence. -/
def Body.pushRounds (b : Body) (p : Part) (least : Nat) (most : Option Nat) (greedy : Bool) :
    Reading Body := do
  return b.push p.start (.rounds (← since p.start) p.outline least most greedy)

/-- Whether a repetition prefers more rounds, given whether a question mark follows. -/
def greed (lazyMark : Bool) : Reading Bool := return lazyMark == (← get).flags.swapGreed

/-- Read a repetition of one character. -/
def simpleRepetition (b : Body) (least : Nat) (most : Option Nat) : Reading Body := do
  let (p, b) ← b.pop
  bump
  let greedy ← greed (← bumpIf "?")
  b.pushRounds p least most greedy

/-- The largest number of 32 bits. -/
def lastWord : Nat := 4294967295

/-- Read digits between ignored white space. -/
def digits : Nat → Reading (List Char)
  | 0 => return []
  | fuel + 1 => do
    match ← peek with
    | some c =>
      if c.isDigit then
        discard bumpSkip
        return c :: (← digits fuel)
      else return []
    | none => return []

/-- Read a count; what goes wrong is told when the count is needed. -/
def count : Reading (Except Fault Nat) := do
  discard (bumpWhile isBlank)
  let start ← here
  let ds ← digits ((← get).rest.length + 1)
  let span ← since start
  discard (bumpWhile isBlank)
  skip
  if ds.isEmpty then return .error ⟨.countEmpty, span, none⟩
  let n := valueOfDigits 10 ds
  return if n ≤ lastWord then .ok n else .error ⟨.decimalInvalid, span, none⟩

/-- The count, or its fault. -/
def needed (n : Except Fault Nat) : Reading Nat :=
  match n with
  | .ok n => return n
  | .error f => throw f

/-- Read a repetition with counts. -/
def countedRepetition (b : Body) : Reading Body := do
  let start ← here
  let (p, b) ← b.pop
  let unclosed {α : Type} : Reading α := do fail .unclosedCount (← since start)
  if !(← bumpSkip) then unclosed
  let first ← count
  if ← atEnd then unclosed
  let (least, most) ← if (← peek) = some ',' then do
      if !(← bumpSkip) then unclosed
      if (← peek) = some '\x7d' then pure (← needed first, none)
      else
        let least ← needed first
        let last ← count
        pure (least, some (← needed last))
    else do
      let n ← needed first
      pure (n, some n)
  if (← peek) ≠ some '\x7d' then unclosed
  let lazyMark ← if ← bumpSkip then bumpIf "?" else pure false
  let greedy ← greed lazyMark
  if most.any (· < least) then fail .countInvalid (← since start)
  b.pushRounds p least most greedy

/-- A switch set to a value. -/
def Flags.with (f : Flags) (c : Char) (value : Bool) : Option Flags :=
  match c with
  | 'i' => some { f with ignoreCase := value }
  | 'm' => some { f with multiLine := value }
  | 's' => some { f with dotAll := value }
  | 'U' => some { f with swapGreed := value }
  | 'u' => some { f with unicode := value }
  | 'R' => some { f with anyLineBreak := value }
  | 'x' => some { f with verbose := value }
  | _ => none

/-- Read switches up to a colon or a closing parenthesis. `seen` holds the marks read so far,
`negation` the place of the minus sign. -/
def switches (flags : Flags) (seen : List (Char × Span)) (dangling : Option Span) :
    Nat → Reading (Flags × Bool)
  | 0 => do fail .endInFlags (← spot)
  | fuel + 1 => do
    match ← peek with
    | none => fail .endInFlags (← spot)
    | some c =>
      if c == ':' || c == ')' then
        match dangling with
        | some span => fail .flagDangling span
        | none => return (flags, !seen.isEmpty)
      else
        let span ← charSpan
        let earlier := seen.lookup c
        let next ← if c == '-' then
            if earlier.isSome then fail .flagNegatedTwice span earlier else pure flags
          else match flags.with c ((seen.lookup '-').isNone) with
            | none => fail .unknownFlag span
            | some f => if earlier.isSome then fail .flagTwice span earlier else pure f
        bump
        if ← atEnd then fail .endInFlags (← spot)
        switches next (seen ++ [(c, span)]) (if c == '-' then some span else none) fuel

/-- Whether a character may stand in a group name. -/
def isNameChar (c : Char) (first : Bool) : Bool :=
  c == '_' || CharSet.alphabetic.contains c ||
    (!first && (c == '.' || c == '[' || c == ']' ||
      (Category.charSet [.nd, .nl, .no]).contains c))

/-- Read the characters of a group name. -/
def groupNameChars (first : Bool) : Nat → Reading (List Char)
  | 0 => return []
  | fuel + 1 => do
    match ← peek with
    | none => return []
    | some '>' => return []
    | some c =>
      if !isNameChar c first then fail .groupNameInvalid (← charSpan)
      bump
      return c :: (← groupNameChars false fuel)

/-- Read a group name and its closing mark. -/
def groupName : Reading Unit := do
  if ← atEnd then fail .unclosedGroupName (← spot)
  let start ← here
  let name := String.ofList (← groupNameChars true ((← get).rest.length + 1))
  let span ← since start
  if ← atEnd then fail .unclosedGroupName (← spot)
  bump
  if name.isEmpty then fail .groupNameEmpty ⟨start, start⟩
  match (← get).names.lookup name with
  | some earlier => fail .groupNameTwice span (some earlier)
  | none => modify fun r => { r with names := r.names ++ [(name, span)] }

/-- What is read so far: the groups that are open, innermost first, and the body of the
innermost. -/
structure Progress where
  stack : List Frame := []
  body : Body := .opened {}

/-- Open a group. -/
def Progress.enter (p : Progress) (opening : Span) (captures : Bool) (outer inner : Flags) :
    Reading Progress := do
  modify fun r => { r with flags := inner }
  return ⟨⟨opening, captures, p.body, outer⟩ :: p.stack, .opened (← here)⟩

/-- Read an opening parenthesis and what belongs to it. -/
def openGroup (p : Progress) : Reading Progress := do
  let opening ← charSpan
  bump
  skip
  if ← bumpAny ["?=", "?!", "?<=", "?<!"] then
    fail .lookAround ⟨opening.start, (← here)⟩
  let inner ← spot
  let flags := (← get).flags
  if ← bumpAny ["?P<", "?<"] then
    groupName
    p.enter opening true flags flags
  else if ← bumpIf "?" then
    if ← atEnd then fail .unclosedGroup opening
    let (changed, given) ← switches flags [] none ((← get).rest.length + 1)
    let isSwitch := (← peek) = some ')'
    bump
    if isSwitch then
      if !given then fail .nothingToRepeat inner
      modify fun r => { r with flags := changed }
      return { p with body := p.body.push opening.start .switch }
    else p.enter opening false flags changed
  else p.enter opening true flags flags

/-- Read a closing parenthesis. -/
def closeGroup (p : Progress) : Reading Progress := do
  match p.stack with
  | [] => fail .unopenedGroup (← charSpan)
  | f :: stack =>
    let inner := p.body.outline (← here)
    bump
    modify fun r => { r with flags := f.flags }
    let start := f.opening.start
    return ⟨stack, f.outer.push start (.group (← since start) f.captures inner)⟩

/-- Read one part. -/
def part (p : Progress) : Reading Progress := do
  let start ← here
  let onBody (b : Reading Body) : Reading Progress := return { p with body := ← b }
  match ← peek with
  | some '(' => openGroup p
  | some ')' => closeGroup p
  | some '|' =>
    bump
    return { p with body := p.body.branch start (← here) }
  | some '[' => do
    let (set, _, depths) ← bracketed ((← get).rest.length + 1)
    return { p with body := p.body.push start (.bracket depths set) }
  | some '?' => onBody (simpleRepetition p.body 0 (some 1))
  | some '*' => onBody (simpleRepetition p.body 0 none)
  | some '+' => onBody (simpleRepetition p.body 1 none)
  | some '\x7b' => onBody (countedRepetition p.body)
  | _ => onBody (return p.body.push start (← primitive))

/-- Read parts until the end. -/
def parts : Nat → Progress → Reading Progress
  | 0, p => return p
  | fuel + 1, p => do
    skip
    if ← atEnd then return p
    parts fuel (← part p)

/-- Read a whole expression. -/
def whole : Reading Outline := do
  let p ← parts ((← get).rest.length + 1) {}
  match p.stack with
  | f :: _ => fail .unclosedGroup f.opening
  | [] => return p.body.outline (← here)

/-- Read the text of a regular expression. What is nested too deep counts before doubts, and the
size counts last. -/
def read (pattern : String) : Except Refusal Regex :=
  match whole.run { rest := pattern.toList } with
  | .error f => .error (.malformed f)
  | .ok (p, reader) =>
    match (p.depths.tooDeep?.map fun span => ⟨.tooDeep, span, none⟩).or reader.doubt with
    | some f => .error (.malformed f)
    | none => if p.isTooLarge then .error .tooLarge else .ok p.regex

end StyleBuild.Regex
