import StyleBuild.Css.Token

/-!
# Reading tokens

`tokenize` splits a text into tokens. Every step takes characters from the front and returns
what is left; a bound on the number of steps, the length of the text, makes the recursion
structural. Comments separate tokens and vanish, except that `licenseComments` lists those of
the form `/*! … */` that stand before everything else.
-/

namespace StyleBuild.Css

/-- A character that may stand in a name. -/
def isNameChar (c : Char) : Bool :=
  c.isAlphanum || c == '_' || c == '-' || c.toNat ≥ 128 || c.toNat == 0

/-- A character that may start a name. -/
def isNameStart (c : Char) : Bool :=
  c.isAlpha || c == '_' || c.toNat ≥ 128 || c.toNat == 0

/-- White space of the syntax. -/
def isSpace (c : Char) : Bool :=
  c == ' ' || c == '\t' || c == '\n' || c == '\r' || c == '\x0c'

/-- The ends of lines. -/
def isNewline (c : Char) : Bool := c == '\n' || c == '\r' || c == '\x0c'

/-- The character zero stands for the replacement character. -/
def visible (c : Char) : Char := if c.toNat = 0 then '\uFFFD' else c

/-- Drop one white-space character, a carriage return and line feed counting as one. -/
def dropSpace : List Char → List Char
  | '\r' :: '\n' :: cs => cs
  | c :: cs => if isSpace c then cs else c :: cs
  | [] => []

/-- Read an escape after its backslash: the character meant, and the rest. -/
def readEscape (cs : List Char) : Char × List Char :=
  let digits := (cs.takeWhile isHexDigit).take 6
  if digits.isEmpty then
    match cs with
    | [] => ('\uFFFD', [])
    | c :: cs => (visible c, cs)
  else (charOfCode (valueOfDigits 16 digits), dropSpace (cs.drop digits.length))

/-- Whether the text after a backslash makes an escape. -/
def isEscape : List Char → Bool
  | [] => true
  | c :: _ => !isNewline c

/-- Whether a name starts here. -/
def startsName : List Char → Bool
  | '-' :: '-' :: _ => true
  | '-' :: '\\' :: cs => isEscape cs
  | '-' :: c :: _ => isNameStart c
  | '\\' :: cs => isEscape cs
  | c :: _ => isNameStart c
  | [] => false

/-- Read the longest name. -/
def readName : Nat → List Char → List Char × List Char
  | 0, cs => ([], cs)
  | fuel + 1, cs =>
    match cs with
    | [] => ([], [])
    | '\\' :: rest =>
      if isEscape rest then
        let (c, rest) := readEscape rest
        let (name, rest) := readName fuel rest
        (c :: name, rest)
      else ([], cs)
    | c :: rest =>
      if isNameChar c then
        let (name, rest) := readName fuel rest
        (visible c :: name, rest)
      else ([], cs)

theorem readName_nil (n : Nat) : readName n [] = ([], []) := by cases n <;> rw [readName]

/-- Read a quoted string after its opening quote. A line end breaks the string; the first
result tells whether it did not. -/
def readQuoted (quote : Char) : Nat → List Char → Bool × List Char × List Char
  | 0, cs => (true, [], cs)
  | fuel + 1, cs =>
    match cs with
    | [] => (true, [], [])
    | '\\' :: [] => (true, [], [])
    | '\\' :: c :: rest =>
      if isNewline c then readQuoted quote fuel (dropSpace (c :: rest))
      else
        let (d, rest) := readEscape (c :: rest)
        let (ok, text, rest) := readQuoted quote fuel rest
        (ok, d :: text, rest)
    | c :: rest =>
      if c = quote then (true, [], rest)
      else if isNewline c then (false, [], cs)
      else
        let (ok, text, rest) := readQuoted quote fuel rest
        (ok, visible c :: text, rest)

theorem readQuoted_nil (quote : Char) (n : Nat) : readQuoted quote n [] = (true, [], []) := by
  cases n <;> rw [readQuoted]

/-- What is left of a broken address before its closing parenthesis, and what follows that. -/
def skipBadUrl : Nat → List Char → List Char × List Char
  | 0, cs => ([], cs)
  | _ + 1, [] => ([], [])
  | _ + 1, ')' :: rest => ([], rest)
  | fuel + 1, '\\' :: c :: rest =>
    let (skipped, rest) := skipBadUrl fuel rest
    ('\\' :: c :: skipped, rest)
  | fuel + 1, c :: rest =>
    let (skipped, rest) := skipBadUrl fuel rest
    (c :: skipped, rest)

/-- Read an unquoted address up to its closing parenthesis. The characters of a broken one are
those of the text itself. -/
def readUrl : Nat → List Char → Bool × List Char × List Char
  | 0, cs => (true, [], cs)
  | fuel + 1, cs =>
    let broken (whole : List Char) (passed rest : List Char) : Bool × List Char × List Char :=
      let (skipped, rest) := skipBadUrl rest.length rest
      (false, whole.take passed.length ++ skipped, rest)
    match cs with
    | [] => (true, [], [])
    | ')' :: rest => (true, [], rest)
    | '\\' :: rest =>
      if isEscape rest then
        let (c, rest') := readEscape rest
        let (ok, text, rest'') := readUrl fuel rest'
        (ok, if ok then c :: text else cs.take (cs.length - rest'.length) ++ text, rest'')
      else broken cs ['\\'] rest
    | c :: rest =>
      if isSpace c then
        let blank := cs.takeWhile isSpace
        match cs.dropWhile isSpace with
        | [] => (true, [], [])
        | ')' :: rest => (true, [], rest)
        | rest => broken cs blank rest
      else if c = '"' ∨ c = '\'' ∨ c = '(' ∨ (0 < c.toNat ∧ c.toNat < 32) ∨ c.toNat = 127 then
        broken cs [c] rest
      else
        let (ok, text, rest) := readUrl fuel rest
        (ok, (if ok then visible c else c) :: text, rest)

/-- The digits at the front, and the rest. -/
def readDigits (cs : List Char) : List Char × List Char := cs.span Char.isDigit

/-- The number that a decimal digit stands for. -/
def digitNumber (c : Char) : Float := Float.ofNat (c.toNat - '0'.toNat)

/-- The number of digits before a point, summed up with double precision from the front. -/
def wholeNumber (digits : List Char) : Float :=
  digits.foldl (fun x c => x * 10 + digitNumber c) 0

/-- The number of digits behind a point: each counts a tenth of the one before it. -/
def fractionNumber (digits : List Char) : Float :=
  (digits.foldl (fun (x, w) c => (x + digitNumber c * w, w * 0.1)) (0, 0.1)).1

/-- Split an exponent off: whether it has a minus sign, and its digits. -/
def readExponent (cs : List Char) : Option (Bool × List Char) × List Char :=
  match cs with
  | e :: s :: rest =>
    if e = 'e' ∨ e = 'E' then
      if s.isDigit then
        let (ds, r) := readDigits (s :: rest)
        (some (false, ds), r)
      else if (s = '+' ∨ s = '-') ∧ (rest.head?.map Char.isDigit).getD false then
        let (ds, r) := readDigits rest
        (some (s == '-', ds), r)
      else (none, cs)
    else (none, cs)
  | _ => (none, cs)

/-- Read a number: its sign, its value, and the rest. The value is found with double precision and
rounded once; what is too large for that on the way is infinite, or no number at all. -/
def readNumber (cs : List Char) : Numeric × List Char :=
  let (signed, negative, cs) : Bool × Bool × List Char := match cs with
    | '+' :: r => (true, false, r)
    | '-' :: r => (true, true, r)
    | r => (false, false, r)
  let (whole, cs) := readDigits cs
  let (fraction, cs) : List Char × List Char := match cs with
    | '.' :: d :: r => if d.isDigit then readDigits (d :: r) else ([], cs)
    | _ => ([], cs)
  let (exponent, cs) := readExponent cs
  let size := wholeNumber whole + fractionNumber fraction
  let plain := if negative then -size else size
  let value : Float := match exponent with
    | some (below, ds) =>
      plain * Float.pow 10 (if below then -wholeNumber ds else wholeNumber ds)
    | none => plain
  let shown := if cs.head? = some '%' then value / 100 else value
  let integer : Option Int :=
    if fraction.isEmpty ∧ exponent.isNone then
      let n : Int := valueOfDigits 10 whole
      some (max (-2147483648) (min 2147483647 (if negative then -n else n)))
    else none
  (⟨signed, shown.toFloat32, integer⟩, cs)

/-- Whether a number starts here. -/
def startsNumber : List Char → Bool
  | '+' :: '.' :: d :: _ | '-' :: '.' :: d :: _ => d.isDigit
  | '+' :: d :: _ | '-' :: d :: _ => d.isDigit
  | '.' :: d :: _ => d.isDigit
  | c :: _ => c.isDigit
  | [] => false

/-- Read a name and decide whether it is an identifier, a function or an address. -/
def readWord (cs : List Char) : Token × List Char :=
  let (name, rest) := readName cs.length cs
  match rest with
  | '(' :: rest =>
    if name.map Char.toLower = ['u', 'r', 'l'] then
      let body := rest.dropWhile isSpace
      match body with
      | '"' :: _ | '\'' :: _ => (.opening (.function (String.ofList name)), rest)
      | _ =>
        let (ok, text, rest) := readUrl (body.length + 1) body
        (if ok then .url (String.ofList text) else .badUrl (String.ofList text), rest)
    else (.opening (.function (String.ofList name)), rest)
  | _ => (.ident (String.ofList name), rest)

/-- The end of a comment whose opening has been read. -/
def skipComment : List Char → List Char
  | '*' :: '/' :: rest => rest
  | _ :: rest => skipComment rest
  | [] => []

/-- Read one token; a comment gives none. -/
def readToken : List Char → Option Token × List Char
  | [] => (none, [])
  | '/' :: '*' :: rest => (none, skipComment rest)
  | '"' :: rest =>
    let (ok, text, rest) := readQuoted '"' (rest.length + 1) rest
    (some (if ok then .quoted (String.ofList text) else .badQuoted (String.ofList text)), rest)
  | '\'' :: rest =>
    let (ok, text, rest) := readQuoted '\'' (rest.length + 1) rest
    (some (if ok then .quoted (String.ofList text) else .badQuoted (String.ofList text)), rest)
  | '$' :: '=' :: rest => (some .suffixMatch, rest)
  | '*' :: '=' :: rest => (some .substringMatch, rest)
  | '^' :: '=' :: rest => (some .prefixMatch, rest)
  | '|' :: '=' :: rest => (some .dashMatch, rest)
  | '~' :: '=' :: rest => (some .includeMatch, rest)
  | '<' :: '!' :: '-' :: '-' :: rest => (some .htmlOpen, rest)
  | '-' :: '-' :: '>' :: rest => (some .htmlClose, rest)
  | '(' :: rest => (some (.opening (.plain .round)), rest)
  | '[' :: rest => (some (.opening (.plain .square)), rest)
  | '\x7b' :: rest => (some (.opening (.plain .curly)), rest)
  | ')' :: rest => (some (.closing .round), rest)
  | ']' :: rest => (some (.closing .square), rest)
  | '\x7d' :: rest => (some (.closing .curly), rest)
  | ',' :: rest => (some .comma, rest)
  | ':' :: rest => (some .colon, rest)
  | ';' :: rest => (some .semicolon, rest)
  | c :: rest =>
    let cs := c :: rest
    if isSpace c then
      (some (.blank (String.ofList (cs.takeWhile isSpace))), cs.dropWhile isSpace)
    else if startsNumber cs then
      let (n, rest) := readNumber cs
      match rest with
      | '%' :: rest => (some (.percentage n), rest)
      | _ =>
        if startsName rest then
          let (unit, rest) := readName rest.length rest
          (some (.dimension n (String.ofList unit)), rest)
        else (some (.number n), rest)
    else if c = '#' then
      if startsName rest then
        let (name, rest) := readName rest.length rest
        (some (.idHash (String.ofList name)), rest)
      else match rest with
        | d :: _ =>
          if isNameChar d then
            let (name, rest) := readName rest.length rest
            (some (.hash (String.ofList name)), rest)
          else (some (.delim '#'), rest)
        | [] => (some (.delim '#'), rest)
    else if c = '@' then
      if startsName rest then
        let (name, rest) := readName rest.length rest
        (some (.atKeyword (String.ofList name)), rest)
      else (some (.delim '@'), rest)
    else if startsName cs then
      let (t, rest) := readWord cs
      (some t, rest)
    else (some (.delim c), rest)

/-- Read tokens, at most `fuel` of them, and the place where the text ends. -/
def readTokens : Nat → Position → List Char → List Placed × Position
  | 0, p, _ => ([], p)
  | _ + 1, p, [] => ([], p)
  | fuel + 1, p, cs =>
    let (t, rest) := readToken cs
    let (ts, stop) := readTokens fuel (p.advance (cs.length - rest.length) cs) rest
    match t with
    | some t => (⟨t, p⟩ :: ts, stop)
    | none => (ts, stop)

/-- The tokens of a text, and the place where it ends. -/
def tokenize (cs : List Char) : List Placed × Position := readTokens cs.length ⟨0, 1, cs⟩ cs

/-- The text of a comment whose opening has been read, and what follows it. -/
def readComment : List Char → List Char × List Char
  | '*' :: '/' :: rest => ([], rest)
  | c :: rest =>
    let (text, rest) := readComment rest
    (c :: text, rest)
  | [] => ([], [])

/-- The comments of the form `/*! … */` that stand before everything else. -/
def licensesFrom : Nat → List Char → List String
  | 0, _ => []
  | fuel + 1, cs =>
    match cs.dropWhile isSpace with
    | '/' :: '*' :: '!' :: rest =>
      let (text, rest) := readComment ('!' :: rest)
      String.ofList text :: licensesFrom fuel rest
    | _ => []

/-- The comments of the form `/*! … */` that stand before everything else. -/
def licenseComments (cs : List Char) : List String := licensesFrom cs.length cs

end StyleBuild.Css
