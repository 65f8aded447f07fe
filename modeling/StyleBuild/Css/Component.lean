import StyleBuild.Css.Token.Lexer

/-!
# Components

A text is read as a forest: tokens, and blocks between paired brackets. `Components` is such a
forest written as a list whose every level ends at a known place, the place of the closing
bracket or of the end of the text; a missing bracket is closed by the end of the text. Since a
level and the inside of a block are of the same type, readers recurse on the data itself.

Keywords are compared without regard to letter case. The wide keywords may be the value of every
property, so that no name may be one of them.
-/

namespace StyleBuild.Css

/-! ## Levels -/

/-- A level of components, and where it ends. -/
inductive Components where
  | done (stop : Position)
  | token (t : Token) (start : Position) (rest : Components)
  | block (bracket : Bracket) (start : Position) (body rest : Components)
  deriving BEq, Repr, Inhabited

/-- One component of a level. -/
inductive Component where
  | token (t : Token) (start : Position)
  | block (bracket : Bracket) (start : Position) (body : Components)
  deriving BEq, Repr, Inhabited

namespace Components

/-- The components of a list, ending at a place. -/
def ofList (stop : Position) : List Component → Components
  | [] => .done stop
  | .token t p :: cs => .token t p (ofList stop cs)
  | .block b p body :: cs => .block b p body (ofList stop cs)

/-- The components of a level as a list. -/
def toList : Components → List Component
  | .done _ => []
  | .token t p rest => .token t p :: rest.toList
  | .block b p body rest => .block b p body :: rest.toList

/-- Where the level ends. -/
def stop : Components → Position
  | .done p => p
  | .token _ _ rest => rest.stop
  | .block _ _ _ rest => rest.stop

/-- Where the next component starts, or the level ends. -/
def start : Components → Position
  | .done p => p
  | .token _ p _ => p
  | .block _ p _ _ => p

/-- Drop leading white space. -/
def skipBlank : Components → Components
  | .token (.blank _) _ rest => rest.skipBlank
  | cs => cs

/-- Whether nothing but white space is left. -/
def isBlank : Components → Bool
  | .done _ => true
  | .token (.blank _) _ rest => rest.isBlank
  | _ => false

/-- The number of components, those inside blocks included. -/
def size : Components → Nat
  | .done _ => 0
  | .token _ _ rest => rest.size + 1
  | .block _ _ body rest => body.size + rest.size + 1

/-- Split at the commas of this level. -/
def splitCommas (cs : Components) : List Components :=
  go cs.stop [] cs.toList
where
  /-- Split a list whose current piece, latest first, is given. -/
  go (stop : Position) (piece : List Component) : List Component → List Components
    | [] => [.ofList stop piece.reverse]
    | .token .comma p :: rest => .ofList p piece.reverse :: go stop [] rest
    | c :: rest => go stop (c :: piece) rest

/-- Split the body of a rule into its items: declarations, which end at semicolons, and at-rules,
which may end with a block. -/
def items (cs : Components) : List Components := go [] cs
where
  /-- Put an item, latest component first, before others unless it is empty. -/
  close (stop : Position) (item : List Component) (rest : List Components) : List Components :=
    if item.isEmpty then rest else .ofList stop item.reverse :: rest
  /-- Whether an item, latest component first, is an at-rule. -/
  isAtRule (item : List Component) : Bool :=
    match item.getLast? with
    | some (.token (.atKeyword _) _) => true
    | _ => false
  /-- Split a level whose current item, latest component first, is given. -/
  go (item : List Component) : Components → List Components
    | .done stop => close stop item []
    | .token t p rest =>
      match t with
      | .semicolon => close p item (go [] rest)
      | .blank s => go (if item.isEmpty then [] else .token (.blank s) p :: item) rest
      | t => go (.token t p :: item) rest
    | .block b p body rest =>
      if b = .plain .curly ∧ isAtRule item then
        close rest.start (.block b p body :: item) (go [] rest)
      else go (.block b p body :: item) rest

/-- What follows the comma in front. -/
def dropComma? (cs : Components) : Option Components :=
  match cs.skipBlank with
  | .token .comma _ rest => some rest
  | _ => none

theorem ofList_toList (cs : Components) : ofList cs.stop cs.toList = cs := by
  induction cs with
  | done p => rfl
  | token t p rest ih => simp [toList, ofList, stop, ih]
  | block b p body rest _ ih => simp [toList, ofList, stop, ih]

theorem toList_ofList (p : Position) (cs : List Component) : (ofList p cs).toList = cs := by
  induction cs with
  | nil => rfl
  | cons c cs ih => cases c <;> simp [toList, ofList, ih]

end Components

/-- An open block: its bracket, its start, and the components before it, latest first. -/
structure OpenBlock where
  bracket : Bracket
  start : Position
  before : List Component

/-- Close every open block at the end of the text. -/
def closeAll (stop : Position) : List OpenBlock → List Component → List Component
  | [], level => level
  | o :: outer, level =>
    closeAll stop outer (.block o.bracket o.start (.ofList stop level.reverse) :: o.before)

/-- Pair the brackets of a token list. `outer` holds the open blocks, innermost first, and
`level` the components of the innermost, latest first. -/
def pair (stop : Position) : List OpenBlock → List Component → List Placed → List Component
  | outer, level, [] => (closeAll stop outer level).reverse
  | outer, level, ⟨.opening b, p⟩ :: ts => pair stop (⟨b, p, level⟩ :: outer) [] ts
  | outer, level, ⟨.closing s, p⟩ :: ts =>
    match outer with
    | o :: outer' =>
      if o.bracket.shape = s then
        pair stop outer' (.block o.bracket o.start (.ofList p level.reverse) :: o.before) ts
      else pair stop outer (.token (.closing s) p :: level) ts
    | [] => pair stop [] (.token (.closing s) p :: level) ts
  | outer, level, ⟨t, p⟩ :: ts => pair stop outer (.token t p :: level) ts

/-- The components of a text. -/
def components (cs : List Char) : Components :=
  let (ts, stop) := tokenize cs
  .ofList stop (pair stop [] [] ts)

/-- A component as an error message names it: a block by what opens it. -/
def Component.token? : Component → Token
  | .token t _ => t
  | .block b _ _ => .opening b

/-- Where a component starts. -/
def Component.start : Component → Position
  | .token _ p => p
  | .block _ p _ => p

/-- Whether a component is white space. -/
def Component.isBlank : Component → Bool
  | .token (.blank _) _ => true
  | _ => false

/-- A list of components without its leading and trailing white space. -/
def trimComponents (cs : List Component) : List Component :=
  ((cs.dropWhile Component.isBlank).reverse.dropWhile Component.isBlank).reverse

/-! ## Keywords -/

/-- The keywords that every property takes. -/
def wideKeywords : List String :=
  ["initial", "inherit", "unset", "default", "revert", "revert-layer"]

/-- The identifier in front, in lower case, and what follows. -/
def readKeyword (cs : Components) : Option (String × Components) :=
  match cs.skipBlank with
  | .token (.ident n) _ rest => some (n.toLower, rest)
  | _ => none

/-- A keyword of a list in front, in lower case, and what follows. -/
def readKeywordOf (allowed : List String) (cs : Components) : Option (String × Components) :=
  match readKeyword cs with
  | some (k, rest) => if allowed.contains k then some (k, rest) else none
  | none => none

/-- The only keyword of a level, in lower case. -/
def onlyKeyword? (cs : Components) : Option String :=
  match readKeyword cs with
  | some (k, rest) => if rest.isBlank then some k else none
  | none => none

/-- The value of a reader if nothing follows. -/
def whole? {α : Type} (r : Option (α × Components)) : Option α :=
  match r with
  | some (a, rest) => if rest.isBlank then some a else none
  | none => none

end StyleBuild.Css
