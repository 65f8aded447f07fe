import StyleBuild.Css.Number
import StyleBuild.Text.Quoted

/-!
# Tokens of a style sheet

The tokens of CSS Syntax, without comments, each found at a position. Brackets come as opening
and closing tokens; `StyleBuild.Css.Component` pairs them.
-/

namespace StyleBuild.Css

/-- A place in a text: lines count from zero, columns from one in UTF-16 units, and `text` is what
follows. -/
structure Position where
  line : Nat := 0
  column : Nat := 1
  text : List Char := []
  deriving DecidableEq, Repr, Inhabited

namespace Position

/-- The place after one character, before the text `next`; a carriage return before a line feed
ends no line. -/
def after (p : Position) (c : Char) (next : List Char) : Position :=
  if c = '\n' ∨ c = '\x0c' then ⟨p.line + 1, 1, next⟩
  else if c = '\r' then
    (if next.head? = some '\n' then ⟨p.line, p.column, next⟩ else ⟨p.line + 1, 1, next⟩)
  else ⟨p.line, p.column + (if 0x10000 ≤ c.toNat then 2 else 1), next⟩

/-- The place after `n` characters. -/
def advance (p : Position) : Nat → List Char → Position
  | 0, _ => p
  | _, [] => p
  | n + 1, c :: cs => (p.after c cs).advance n cs

/-- The text between two places. -/
def slice (p q : Position) : List Char := p.text.take (p.text.length - q.text.length)

end Position

/-- The three kinds of bracket. -/
inductive Shape where
  | round
  | square
  | curly
  deriving DecidableEq, Repr, Inhabited

/-- What opens a block: a bracket, or a function name with its parenthesis. -/
inductive Bracket where
  | plain (shape : Shape)
  | function (name : String)
  deriving DecidableEq, Repr, Inhabited

/-- The kind of bracket that closes a block. -/
def Bracket.shape : Bracket → Shape
  | .plain s => s
  | .function _ => .round

/-- A number as written: whether it has a sign, its value, and its integral value if it was
written as an integer. The value of a percentage is its share of one. -/
structure Numeric where
  signed : Bool
  value : Float32
  integer : Option Int
  deriving BEq, Repr, Inhabited

/-- The tokens of a style sheet. -/
inductive Token where
  | ident (name : String)
  | atKeyword (name : String)
  | hash (name : String)
  | idHash (name : String)
  | quoted (text : String)
  | badQuoted (text : String)
  | url (text : String)
  | badUrl (text : String)
  | delim (c : Char)
  | number (n : Numeric)
  | percentage (n : Numeric)
  | dimension (n : Numeric) (unit : String)
  | blank (text : String)
  | colon
  | semicolon
  | comma
  | includeMatch
  | dashMatch
  | prefixMatch
  | suffixMatch
  | substringMatch
  | htmlOpen
  | htmlClose
  | opening (bracket : Bracket)
  | closing (shape : Shape)
  deriving BEq, Repr, Inhabited

namespace Token

/-- Whether the token is white space. -/
def isBlank : Token → Bool
  | .blank _ => true
  | _ => false

/-- Tokens that no declaration value may hold: broken strings and unmatched closers. -/
def isBad : Token → Bool
  | .badQuoted _ | .badUrl _ | .closing _ => true
  | _ => false

end Token

/-- The fields of a number in a message. -/
def Numeric.message (valueName : String) (n : Numeric) : String :=
  "has_sign: " ++ (if n.signed then "true" else "false") ++ ", " ++ valueName ++ ": " ++
    numberMessage n.value ++ ", int_value: " ++
    (match n.integer with
     | some i => "Some(" ++ integerText i ++ ")"
     | none => "None")

/-- The token as error messages name it. -/
def Token.message : Token → String
  | .ident n => "Ident(" ++ quotedText n ++ ")"
  | .atKeyword n => "AtKeyword(" ++ quotedText n ++ ")"
  | .hash n => "Hash(" ++ quotedText n ++ ")"
  | .idHash n => "IDHash(" ++ quotedText n ++ ")"
  | .quoted t => "String(" ++ quotedText t ++ ")"
  | .badQuoted t => "BadString(" ++ quotedText t ++ ")"
  | .url t => "UnquotedUrl(" ++ quotedText t ++ ")"
  | .badUrl t => "BadUrl(" ++ quotedText t ++ ")"
  | .delim c => "Delim(" ++ quotedSymbol c ++ ")"
  | .number n => "Number \x7b " ++ n.message "value" ++ " \x7d"
  | .percentage n => "Percentage \x7b " ++ n.message "unit_value" ++ " \x7d"
  | .dimension n u =>
    "Dimension \x7b " ++ n.message "value" ++ ", unit: " ++ quotedText u ++ " \x7d"
  | .blank t => "WhiteSpace(" ++ quotedText t ++ ")"
  | .colon => "Colon"
  | .semicolon => "Semicolon"
  | .comma => "Comma"
  | .includeMatch => "IncludeMatch"
  | .dashMatch => "DashMatch"
  | .prefixMatch => "PrefixMatch"
  | .suffixMatch => "SuffixMatch"
  | .substringMatch => "SubstringMatch"
  | .htmlOpen => "CDO"
  | .htmlClose => "CDC"
  | .opening (.function n) => "Function(" ++ quotedText n ++ ")"
  | .opening (.plain .round) => "ParenthesisBlock"
  | .opening (.plain .square) => "SquareBracketBlock"
  | .opening (.plain .curly) => "CurlyBracketBlock"
  | .closing .round => "CloseParenthesis"
  | .closing .square => "CloseSquareBracket"
  | .closing .curly => "CloseCurlyBracket"

/-- A token and where it starts. -/
structure Placed where
  token : Token
  at_ : Position
  deriving BEq, Repr, Inhabited

end StyleBuild.Css
