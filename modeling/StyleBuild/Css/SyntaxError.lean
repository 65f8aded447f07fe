import StyleBuild.Css.Component

/-!
# Syntax errors

What can be wrong with the text of a sheet, and the words that say so. Lists and addresses are read
with such errors.
-/

namespace StyleBuild.Css

/-- What is wrong. -/
inductive SyntaxCause where
  | endOfInput
  | unexpectedToken (t : Token)
  | unknownAtRule (name : String)
  | invalidValue
  | invalidDeclaration
  | emptySelector
  | danglingCombinator
  | invalidState
  | classNeedsName (t : Token)
  | pseudoNeedsName (t : Token)
  | attributeNeedsName (t : Token)
  | attributeNeedsBar (t : Token)
  | attributeNameNeeded (t : Token)
  | unexpectedInAttribute (t : Token)
  | badAttributeValue (t : Token)
  | unexpectedInNamespace (t : Token)
  | afterPseudoElement (t : Token)
  | statelessAfterPseudoElement
  | scrollbarStateAlone
  | statelessAfterScrollbar
  | missingNesting
  | ruleBody
  | mediaQuery
  | emptyBrackets
  | tooDeep
  | pageSelector
  | lateImport
  deriving BEq, Repr

/-- A fault and its place. -/
structure SyntaxError where
  cause : SyntaxCause
  place : Position
  deriving BEq, Repr

/-- The fault in words. -/
def SyntaxCause.message : SyntaxCause → String
  | .endOfInput => "Unexpected end of input"
  | .unexpectedToken t => "Unexpected token " ++ t.message
  | .unknownAtRule n => "Unknown at rule: @" ++ n
  | .invalidValue => "Invalid value"
  | .invalidDeclaration => "Invalid declaration"
  | .emptySelector => "Invalid empty selector"
  | .danglingCombinator => "Invalid dangling combinator in selector"
  | .invalidState => "Invalid state"
  | .classNeedsName t => "Expected identifier in class selector, got " ++ t.message
  | .pseudoNeedsName t => "Invalid token in pseudo element: " ++ t.message
  | .attributeNeedsName t =>
    "No qualified name in attribute selector: " ++ t.message ++ "."
  | .attributeNeedsBar t => "Expected | in attribute, got " ++ t.message
  | .attributeNameNeeded t => "Invalid qualified name in attribute selector: " ++ t.message
  | .unexpectedInAttribute t => "Unexpected token in attribute selector: " ++ t.message
  | .badAttributeValue t => "Invalid value in attribute selector: " ++ t.message
  | .unexpectedInNamespace t => "Unexpected token in namespace selector: " ++ t.message
  | .afterPseudoElement t =>
    "Pseudo-elements like '::before' or '::after' can't be followed by selectors like '" ++
      t.message ++ "'"
  | .statelessAfterPseudoElement =>
    "Invalid pseudo class after pseudo element, only user action pseudo classes " ++
      "(e.g. :hover, :active) are allowed"
  | .scrollbarStateAlone => "Pseudo class must be prefixed by a ::-webkit-scrollbar pseudo element"
  | .statelessAfterScrollbar => "Invalid pseudo class after ::-webkit-scrollbar pseudo element"
  | .missingNesting => "A nesting selector (&) is required in each selector of a @nest rule"
  | .ruleBody => "Invalid @ rule body"
  | .mediaQuery => "Invalid media query"
  | .emptyBrackets => "The brackets cannot be empty"
  | .tooDeep => "Overflowed the maximum nesting depth"
  | .pageSelector => "Invalid page selector"
  | .lateImport =>
    "@import rules must precede all rules aside from @charset and @layer statements"

/-- The fault and its place in words. -/
def SyntaxError.message (e : SyntaxError) : String :=
  e.cause.message ++ " at :" ++ decimalText e.place.line ++ ":" ++ decimalText e.place.column

/-- The component in front, past white space, as an error message names it. -/
def Components.head? : Components → Option Token
  | .done _ => none
  | .token (.blank _) _ rest => rest.head?
  | .token t _ _ => some t
  | .block b _ _ _ => some (.opening b)

/-- The error of a kind that names the component in front, past white space, at a place; if
nothing is left, the end is the error. -/
def Components.faultAt (cause : Token → SyntaxCause) (place : Position) (cs : Components) :
    SyntaxError :=
  match cs.head? with
  | none => ⟨.endOfInput, cs.stop⟩
  | some t => ⟨cause t, place⟩

/-- The error of finding something unexpected, or the end, in front; the place is before the white
space that is passed. -/
def Components.unexpected (cs : Components) : SyntaxError :=
  cs.faultAt .unexpectedToken cs.start

/-- The place behind the component in front; a block is entered only. -/
def Components.behind : Components → Position
  | .done p => p
  | .token _ _ rest => rest.start
  | .block _ _ body _ => body.start

/-- The error of finding something unexpected, placed behind it. -/
def Components.unexpectedBehind (cs : Components) : SyntaxError :=
  cs.faultAt .unexpectedToken cs.skipBlank.behind

/-- Expect nothing but white space. -/
def expectNothing (cs : Components) : Except SyntaxError Unit :=
  if cs.isBlank then .ok () else .error cs.unexpected

/-- Read the items of a list that has been split at commas. The result also tells whether the list
is complete: an item that ends too early ends it. -/
def readItems {α : Type} (read : Components → Except SyntaxError (α × Components)) :
    List Components → Except SyntaxError (List α × Bool)
  | [] => .ok ([], true)
  | cs :: rest =>
    match read cs with
    | .ok (a, tail) => do
      expectNothing tail
      (readItems read rest).map fun (as, complete) => (a :: as, complete)
    | .error e =>
      if e.cause != .endOfInput then .error e
      else if rest.isEmpty then .ok ([], false)
      else .error ⟨.unexpectedToken .comma, cs.stop⟩

/-! ## Addresses

An address is written as `url()`, with or without quotes, and at some places as a string alone. -/

/-- The address in front that is written as `url()`, and what follows. -/
def readUrlAddress (cs : Components) : Except SyntaxError (String × Components) :=
  match cs.skipBlank with
  | .token (.url t) _ rest => .ok (t, rest)
  | .block (.function f) _ body rest =>
    if f.toLower = "url" then
      match body.skipBlank with
      | .token (.quoted t) _ tail => (expectNothing tail).map fun _ => (t, rest)
      | _ => .error body.unexpected
    else .error cs.unexpected
  | _ => .error cs.unexpected

/-- The address in front, which may be a string alone, and what follows. -/
def readAddress (cs : Components) : Except SyntaxError (String × Components) :=
  match cs.skipBlank with
  | .token (.quoted t) _ rest => .ok (t, rest)
  | _ => readUrlAddress cs

end StyleBuild.Css
