import StyleBuild.Yaml.Token

/-!
# Scalars

A scalar is plain, quoted, or a block. In the first two a line break between words counts as a
space and further breaks count as themselves; a block keeps its lines, or folds them.
-/

namespace StyleBuild.Yaml

/-- A scalar that has been read: its text, where it stops, what is left, and whether a line
break was passed behind it. -/
structure ReadScalar where
  text : List Char
  stop : Mark
  cursor : Cursor
  broken : Bool := false

/-- The white space between two words of a scalar: blanks, or line breaks. -/
structure Gap where
  blanks : List Char := []
  /-- The first line break, if there is one; an escaped one has no characters. -/
  first : Option (List Char) := none
  more : List Char := []

namespace Gap

/-- Whether a gap holds a line break. -/
def isBroken (g : Gap) : Bool := g.first.isSome

/-- What a gap counts as. -/
def text (g : Gap) : List Char :=
  match g.first with
  | none => g.blanks
  | some b => if b = ['\n'] then if g.more.isEmpty then [' '] else g.more else b ++ g.more

/-- Read white space. In a plain scalar a tab may not stand before the column `limit` of a new
line. -/
def read (limit : Nat) : Nat → Gap → Cursor → Option (Gap × Cursor)
  | 0, g, c => some (g, c)
  | n + 1, g, c =>
    match c.rest with
    | [] => some (g, c)
    | x :: _ =>
      if isGap x then
        if !g.isBroken then read limit n { g with blanks := g.blanks ++ [x] } (c.skip 1)
        else if x = '\t' ∧ c.column < limit then none
        else read limit n g (c.skip 1)
      else if isBreak x then
        let (b, c) := c.takeBreak
        if g.isBroken then read limit n { g with more := g.more ++ b } c
        else read limit n { first := some b } c
      else some (g, c)

end Gap

/-! ## Plain scalars -/

/-- A character that separates the parts of flow collections. -/
def isFlowIndicator (c : Char) : Bool :=
  c == ',' || c == '[' || c == ']' || c == '\x7b' || c == '\x7d'

/-- The characters of a plain scalar up to white space or an indicator. -/
def plainWord (inFlow : Bool) : List Char → Option (List Char)
  | [] => some []
  | c :: rest =>
    if isGap c || isBreak c then some []
    else if inFlow && c == ':' && (match rest with
        | d :: _ => isFlowIndicator d || d == '?'
        | [] => false) then none
    else if (c == ':' && endsWord rest) || (inFlow && isFlowIndicator c) then some []
    else (plainWord inFlow rest).map (c :: ·)

/-- Read a plain scalar whose further lines are indented by `indent` columns or more. -/
def readPlainFrom (inFlow : Bool) (indent : Nat) :
    Nat → List Char → Gap → Mark → Cursor → Option ReadScalar
  | 0, text, g, stop, c => some ⟨text, stop, c, g.isBroken⟩
  | n + 1, text, g, stop, c =>
    if c.atDocumentMark || c.rest.head? == some '#' then some ⟨text, stop, c, g.isBroken⟩
    else match plainWord inFlow c.rest with
      | none => none
      | some word =>
        let c := c.skip word.length
        let (text, g, stop) : List Char × Gap × Mark :=
          if word.isEmpty then (text, g, stop) else (text ++ g.text ++ word, {}, c.mark)
        if !(c.rest.head?.any fun x => isGap x || isBreak x) then
          some ⟨text, stop, c, g.isBroken⟩
        else match Gap.read indent (c.rest.length + 1) g c with
          | none => none
          | some (g, c) =>
            if !inFlow && c.column < indent then some ⟨text, stop, c, g.isBroken⟩
            else readPlainFrom inFlow indent n text g stop c

/-- Read a plain scalar. -/
def readPlain (inFlow : Bool) (indent : Nat) (c : Cursor) : Option ReadScalar :=
  readPlainFrom inFlow indent (c.rest.length + 1) [] {} c.mark c

/-! ## Quoted scalars -/

/-- The character of a hexadecimal escape, if it is one. -/
def hexEscape (digits : List Char) (width : Nat) : Option Char :=
  if digits.length = width ∧ digits.all isHexDigit then
    let n := valueOfDigits 16 digits
    if (0xD800 ≤ n ∧ n ≤ 0xDFFF) ∨ 0x10FFFF < n then none else some (Char.ofNat n)
  else none

/-- What an escape stands for, and how many characters follow the backslash. -/
def readEscape : List Char → Option (Char × Nat)
  | '0' :: _ => some ('\x00', 1)
  | 'a' :: _ => some ('\x07', 1)
  | 'b' :: _ => some ('\x08', 1)
  | 't' :: _ => some ('\t', 1)
  | '\t' :: _ => some ('\t', 1)
  | 'n' :: _ => some ('\n', 1)
  | 'v' :: _ => some ('\x0b', 1)
  | 'f' :: _ => some ('\x0c', 1)
  | 'r' :: _ => some ('\r', 1)
  | 'e' :: _ => some ('\x1b', 1)
  | ' ' :: _ => some (' ', 1)
  | '"' :: _ => some ('"', 1)
  | '/' :: _ => some ('/', 1)
  | '\\' :: _ => some ('\\', 1)
  | 'N' :: _ => some ('\u0085', 1)
  | '_' :: _ => some ('\u00a0', 1)
  | 'L' :: _ => some ('\u2028', 1)
  | 'P' :: _ => some ('\u2029', 1)
  | 'x' :: rest => (hexEscape (rest.take 2) 2).map (·, 3)
  | 'u' :: rest => (hexEscape (rest.take 4) 4).map (·, 5)
  | 'U' :: rest => (hexEscape (rest.take 8) 8).map (·, 9)
  | _ => none

/-- Read a quoted scalar up to white space or its end; also whether an escaped line break was
passed last. -/
def quotedWord (quote : Char) : Nat → List Char → Cursor → Option (List Char × Cursor × Bool)
  | 0, text, c => some (text, c, false)
  | n + 1, text, c =>
    match c.rest with
    | [] => some (text, c, false)
    | x :: rest =>
      if isGap x || isBreak x then some (text, c, false)
      else if quote = '\'' ∧ x = '\'' ∧ rest.head? = some '\'' then
        quotedWord quote n (text ++ ['\'']) (c.skip 2)
      else if x = quote then some (text, c, false)
      else if quote = '"' ∧ x = '\\' then
        if rest.head?.any isBreak then some (text, (c.skip 1).skipBreak, true)
        else match readEscape rest with
          | some (e, k) => quotedWord quote n (text ++ [e]) (c.skip (k + 1))
          | none => none
      else quotedWord quote n (text ++ [x]) (c.skip 1)

/-- Read a quoted scalar behind its first quote. -/
def readQuotedFrom (quote : Char) : Nat → List Char → Cursor → Option ReadScalar
  | 0, _, _ => none
  | n + 1, text, c =>
    if c.atDocumentMark || c.rest.isEmpty then none
    else match quotedWord quote (c.rest.length + 1) text c with
      | none => none
      | some (text, c, escaped) =>
        if c.rest.head? = some quote then
          let c := c.skip 1
          some ⟨text, c.mark, c, false⟩
        else
          let start : Gap := { first := if escaped then some [] else none }
          match Gap.read 0 (c.rest.length + 1) start c with
          | none => none
          | some (g, c) => readQuotedFrom quote n (text ++ g.text) c

/-- Read a quoted scalar. -/
def readQuoted (quote : Char) (c : Cursor) : Option ReadScalar :=
  readQuotedFrom quote (c.rest.length + 1) [] (c.skip 1)

/-! ## Block scalars -/

/-- What becomes of the line breaks at the end of a block. -/
inductive Chomp where
  | strip
  | clip
  | keep
  deriving DecidableEq, Repr

/-- The head of a block: what becomes of its end, and its indentation if it is given. -/
def blockHead (c : Cursor) : Option (Chomp × Option Nat × Cursor) :=
  let chomp? (x : Char) : Option Chomp :=
    if x = '+' then some .keep else if x = '-' then some .strip else none
  let digit? (x : Char) : Option Nat := if x.isDigit then some (x.toNat - 48) else none
  let done (k : Chomp) (i : Option Nat) (n : Nat) : Option (Chomp × Option Nat × Cursor) :=
    if i = some 0 then none else some (k, i, c.skip n)
  match c.rest with
  | a :: rest =>
    match chomp? a, digit? a with
    | some k, _ =>
      match rest.head?.bind digit? with
      | some i => done k (some i) 2
      | none => done k none 1
    | none, some i =>
      match rest.head?.bind chomp? with
      | some k => done k (some i) 2
      | none => done .clip (some i) 1
    | none, none => done .clip none 0
  | [] => done .clip none 0

/-- Read the empty lines of a block. The indentation is unknown while it is zero; the greatest
column seen is passed along. -/
def blockBreaks (indent : Nat) :
    Nat → Nat → List Char → Cursor → Option (List Char × Nat × Cursor)
  | 0, most, breaks, c => some (breaks, most, c)
  | n + 1, most, breaks, c =>
    let spaces := (c.rest.takeWhile (· == ' ')).length
    let c := c.skip (if indent = 0 then spaces else min spaces (indent - c.column))
    let most := max most c.column
    if (indent = 0 ∨ c.column < indent) ∧ c.rest.head? = some '\t' then none
    else if c.rest.head?.any isBreak then
      let (b, c) := c.takeBreak
      blockBreaks indent n most (breaks ++ b) c
    else some (breaks, most, c)

/-- The lines of a block that have been read. -/
structure BlockLines where
  text : List Char := []
  /-- The break behind the last line, and those of the empty lines behind it. -/
  last : List Char := []
  empty : List Char := []
  /-- Whether the last line starts with white space. -/
  indented : Bool := false

/-- Read the lines of a block. -/
def blockLines (folds : Bool) (indent : Nat) :
    Nat → BlockLines → Cursor → Option (BlockLines × Cursor)
  | 0, ls, c => some (ls, c)
  | n + 1, ls, c =>
    if c.column ≠ indent ∨ c.rest.isEmpty then some (ls, c)
    else
      let indented := c.rest.head?.any isGap
      let joint :=
        if folds ∧ ls.last = ['\n'] ∧ !ls.indented ∧ !indented then
          if ls.empty.isEmpty then [' '] else []
        else ls.last
      let line := c.rest.takeWhile fun x => !isBreak x
      let (last, c) := (c.skip line.length).takeBreak
      match blockBreaks indent (c.rest.length + 1) 0 [] c with
      | none => none
      | some (empty, _, c) =>
        blockLines folds indent n ⟨ls.text ++ joint ++ ls.empty ++ line, last, empty, indented⟩ c

/-- Read a block. `outer` is the indentation of the collection around it, if there is one. -/
def readBlock (folds : Bool) (outer : Option Nat) (c : Cursor) : Option ReadScalar :=
  match blockHead (c.skip 1) with
  | none => none
  | some (chomp, given, c) =>
    let c := c.skipWhile isGap
    let c := if c.rest.head? = some '#' then c.skipWhile fun x => !isBreak x else c
    if !endsLine c.rest then none
    else
      let c := c.skipBreak
      let indent := match given with
        | none => 0
        | some k => outer.getD 0 + k
      match blockBreaks indent (c.rest.length + 1) 0 [] c with
      | none => none
      | some (empty, most, c) =>
        let indent := if indent = 0 then
            max most (max 1 (match outer with
              | none => 0
              | some k => k + 1))
          else indent
        match blockLines folds indent (c.rest.length + 1) { empty } c with
        | none => none
        | some (ls, c) =>
          let text := match chomp with
            | .strip => ls.text
            | .clip => ls.text ++ ls.last
            | .keep => ls.text ++ ls.last ++ ls.empty
          some ⟨text, c.mark, c, false⟩

end StyleBuild.Yaml
