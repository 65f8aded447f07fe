import StyleBuild.Css.Token.Lexer

/-!
# Written names and strings

How a name or a string is spelled in a sheet so that it reads back as itself: characters that
a name may not hold are escaped with a backslash, control characters and a leading digit by
their code.
-/

namespace StyleBuild.Css

/-- A character given by its code. -/
def codeEscape (c : Char) : List Char := '\\' :: (Nat.toDigits 16 c.toNat) ++ [' ']

/-- Whether a character is written by its code. -/
def isControl (c : Char) : Bool := (0 < c.toNat && c.toNat < 32) || c.toNat == 127

/-- One character inside a name. -/
def writeNameChar (c : Char) : List Char :=
  if c.toNat = 0 then ['\uFFFD']
  else if isNameChar c then [c]
  else if isControl c then codeEscape c
  else ['\\', c]

/-- The characters of a name after its start. -/
def writeName (cs : List Char) : List Char := cs.flatMap writeNameChar

/-- The start of a name that follows an optional dash: a digit is written by its code. -/
def writeNameStart : List Char → List Char
  | [] => []
  | c :: cs => if c.isDigit then codeEscape c ++ writeName cs else writeName (c :: cs)

/-- The spelling of a name. -/
def writeIdentChars : List Char → List Char
  | '-' :: '-' :: cs => '-' :: '-' :: writeName cs
  | ['-'] => ['\\', '-']
  | '-' :: cs => '-' :: writeNameStart cs
  | cs => writeNameStart cs

/-- The spelling of a name. -/
def writeIdent (name : String) : String := String.ofList (writeIdentChars name.toList)

/-- One character inside double quotes. -/
def writeQuotedChar (c : Char) : List Char :=
  if c = '"' ∨ c = '\\' then ['\\', c]
  else if c.toNat = 0 then ['\uFFFD']
  else if isControl c then codeEscape c
  else [c]

/-- The spelling of a string. -/
def writeQuoted (text : String) : String :=
  "\"" ++ String.ofList (text.toList.flatMap writeQuotedChar) ++ "\""

/-- One character of an unquoted address. -/
def writeUrlChar (c : Char) : List Char :=
  if isControl c ∨ c.toNat = 0 ∨ c = ' ' then codeEscape c
  else if c = '(' ∨ c = ')' ∨ c = '"' ∨ c = '\'' ∨ c = '\\' then ['\\', c]
  else [c]

/-- How a sheet is laid out: compactly, or with line breaks and indentation. -/
inductive Layout where
  | pretty
  | compact
  deriving DecidableEq, Repr, Inhabited

namespace Layout

/-- An optional space. -/
def space : Layout → String
  | .pretty => " "
  | .compact => ""

/-- A separator with an optional space after it. -/
def after (l : Layout) (sep : String) : String := sep ++ l.space

/-- A separator with optional spaces on both sides. -/
def around (l : Layout) (sep : String) : String := l.space ++ sep ++ l.space

/-- A line break followed by indentation, `depth` steps of two spaces. -/
def newline (l : Layout) (depth : Nat) : String :=
  match l with
  | .pretty => "\n" ++ String.ofList (List.replicate (2 * depth) ' ')
  | .compact => ""

/-- The end of a line without indentation. -/
def lineEnd : Layout → String
  | .pretty => "\n"
  | .compact => ""

/-- The items of a list with commas between them. -/
def commas (l : Layout) (items : List String) : String := String.intercalate (l.after ",") items

end Layout

/-- The spelling of an address: unquoted in compact layout unless quotes are shorter. -/
def writeUrl (l : Layout) (address : String) : String :=
  match l with
  | .pretty => "url(" ++ writeQuoted address ++ ")"
  | .compact =>
    let plain := "url(" ++ String.ofList (address.toList.flatMap writeUrlChar) ++ ")"
    let quoted := writeQuoted address
    if address.utf8ByteSize + 7 < plain.utf8ByteSize ∧
        quoted.utf8ByteSize + 5 < plain.utf8ByteSize then
      "url(" ++ quoted ++ ")"
    else plain

end StyleBuild.Css
