import StyleBuild.Css.Raw
import StyleBuild.Text.NameSet

/-!
# Selectors

A selector is a sequence of simple selectors and combinators in the order in which they are
written. Pseudo-classes that take selectors, such as `:is()`, `:where()`, `:not()` and `:has()`,
hold selectors again, so the type is a tree; the functions on it recurse through parts, selectors
and selector lists together.

* `Selector.classes` are the class names that a selector refers to: those of its class
  selectors, and those inside `:is()` and `:where()`.
* `Selector.isUnused` says when a selector can match nothing that is in use: one of its parts
  names something unused. `isUnusedList` says so of all selectors of a list.
-/

namespace StyleBuild.Css

/-- How two compound selectors are related. -/
inductive Combinator where
  | descendant
  | child
  | nextSibling
  | laterSibling
  deriving DecidableEq, Repr, Inhabited

/-- How an attribute is compared with a value. -/
inductive AttributeMatch where
  | equal
  | includes
  | dash
  | prefixOf
  | suffixOf
  | substring
  deriving DecidableEq, Repr, Inhabited

/-- The letter case that an attribute selector asks for. -/
inductive CaseFlag where
  | default
  | insensitive
  | sensitive
  deriving DecidableEq, Repr, Inhabited

/-- An attribute selector: a name, perhaps with a namespace, and what its value is compared with. -/
structure Attribute where
  space : Option String := none
  name : String
  test : Option (AttributeMatch × String × CaseFlag)
  deriving DecidableEq, Repr, Inhabited

/-- What the pseudo-classes that count elements count, and from which end. -/
inductive NthKind where
  | child
  | lastChild
  | ofType
  | lastOfType
  | column
  | lastColumn
  deriving DecidableEq, Repr, Inhabited

/-- A simple selector that holds no selectors. -/
inductive Simple where
  /-- The namespace of the type that follows; without a prefix it is none. -/
  | namespace_ (label : Option String)
  | type (name : String)
  | universal
  | nesting
  | cls (name : String)
  | id (name : String)
  | attribute (a : Attribute)
  | pseudoClass (name : String)
  | pseudoCall (name : String) (arguments : Raw)
  | nth (kind : NthKind) (step offset : Int)
  | pseudoElement (name : String)
  | elementCall (name : String) (arguments : Raw)
  | shadowPart (names : List String)
  | placeholder (prefixes : Prefixes)
  deriving BEq, Repr, Inhabited

/-- The pseudo-classes and pseudo-elements that take selectors. -/
inductive Choice where
  | is
  | where_
  | not
  | has
  /-- Elements that are counted among those that the selectors match. -/
  | nth (kind : NthKind) (step offset : Int)
  | host
  | slotted
  /-- Alternatives in the spelling of a vendor. -/
  | anyOf (p : Prefixes)
  deriving DecidableEq, Repr, Inhabited

/-- A part of a selector. -/
inductive Part where
  | combinator (c : Combinator)
  | simple (s : Simple)
  | choice (kind : Choice) (selectors : List (List Part))
  deriving Repr, Inhabited

/-- A selector: its parts in written order. -/
abbrev Selector := List Part

/-! ## Equality -/

mutual

/-- Whether two parts are equal. -/
def Part.beq : Part → Part → Bool
  | .combinator a, .combinator b => a == b
  | .simple a, .simple b => a == b
  | .choice k as, .choice l bs => k == l && beqSelectors as bs
  | _, _ => false

/-- Whether two selectors are equal. -/
def Selector.beq : List Part → List Part → Bool
  | [], [] => true
  | a :: as, b :: bs => a.beq b && Selector.beq as bs
  | _, _ => false

/-- Whether two selector lists are equal. -/
def beqSelectors : List (List Part) → List (List Part) → Bool
  | [], [] => true
  | a :: as, b :: bs => Selector.beq a b && beqSelectors as bs
  | _, _ => false

end

instance : BEq Part := ⟨Part.beq⟩

/-! ## What a selector refers to -/

mutual

/-- The class names that a part refers to. -/
def Part.classes : Part → List String
  | .combinator _ => []
  | .simple (.cls name) => [name]
  | .simple _ => []
  | .choice .is ss => listClasses ss
  | .choice .where_ ss => listClasses ss
  | .choice _ _ => []

/-- The class names that a selector refers to. -/
def Selector.classes : List Part → List String
  | [] => []
  | p :: ps => p.classes ++ Selector.classes ps

/-- The class names that a list of selectors refers to. -/
def listClasses : List (List Part) → List String
  | [] => []
  | s :: ss => Selector.classes s ++ listClasses ss

end

mutual

/-- Whether a part can match nothing in use. `parent` tells whether the rule around is unused,
which decides about the nesting selector. -/
def Part.isUnused (unused : NameSet) (parent : Bool) : Part → Bool
  | .combinator _ => false
  | .simple (.cls name) => unused.contains name
  | .simple (.id name) => unused.contains name
  | .simple .nesting => parent
  | .simple _ => false
  | .choice .is ss => isUnusedList unused parent ss
  | .choice .where_ ss => isUnusedList unused parent ss
  | .choice (.anyOf _) ss => isUnusedList unused parent ss
  | .choice _ _ => false

/-- Whether a selector can match nothing in use: one of its parts cannot. -/
def Selector.isUnused (unused : NameSet) (parent : Bool) : List Part → Bool
  | [] => false
  | p :: ps => p.isUnused unused parent || Selector.isUnused unused parent ps

/-- Whether no selector of a list can match anything in use. -/
def isUnusedList (unused : NameSet) (parent : Bool) : List (List Part) → Bool
  | [] => true
  | s :: ss => Selector.isUnused unused parent s && isUnusedList unused parent ss

end

mutual

/-- Whether a part holds the nesting selector. -/
def Part.hasNesting : Part → Bool
  | .combinator _ => false
  | .simple s => s == .nesting
  | .choice _ ss => listHasNesting ss

/-- Whether a selector holds the nesting selector. -/
def Selector.hasNesting : List Part → Bool
  | [] => false
  | p :: ps => p.hasNesting || Selector.hasNesting ps

/-- Whether some selector of a list holds the nesting selector. -/
def listHasNesting : List (List Part) → Bool
  | [] => false
  | s :: ss => Selector.hasNesting s || listHasNesting ss

end

/-- Whether a part is a combinator. -/
def Part.isCombinator : Part → Bool
  | .combinator _ => true
  | _ => false

/-- Whether a part is a type selector or the universal selector, or starts one. -/
def Part.isType : Part → Bool
  | .simple (.type _) => true
  | .simple .universal => true
  | .simple (.namespace_ _) => true
  | _ => false

/-- The pseudo-elements that may be written with one colon. -/
def isLegacyElement (name : String) : Bool :=
  ["before", "after", "first-line", "first-letter"].contains name

/-- The pseudo-elements that are known, in lower case. -/
def knownElements : List String :=
  ["before", "after", "first-line", "first-letter", "details-content", "target-text",
   "search-text", "cue", "cue-region", "selection", "-moz-selection", "marker", "backdrop",
   "-webkit-backdrop", "file-selector-button", "-webkit-file-upload-button", "-ms-browse",
   "-webkit-scrollbar", "-webkit-scrollbar-button", "-webkit-scrollbar-track",
   "-webkit-scrollbar-track-piece", "-webkit-scrollbar-thumb", "-webkit-scrollbar-corner",
   "-webkit-resizer", "grammar-error", "spelling-error", "view-transition", "picker",
   "picker-icon", "checkmark"]

/-- The pseudo-elements that are scroll bars and their parts. -/
def isScrollbar (name : String) : Bool :=
  (name.toList.take 17 == "-webkit-scrollbar".toList) || name == "-webkit-resizer"

/-- Whether a part is a pseudo-element that is known. -/
def Part.isPseudoElement : Part → Bool
  | .simple (.pseudoElement n) => knownElements.contains n
  | .simple (.elementCall n _) => ["cue", "cue-region"].contains n
  | .simple (.shadowPart _) => true
  | .simple (.placeholder _) => true
  | .choice .slotted _ => true
  | _ => false

namespace Selector

/-- Whether a selector is one compound selector without pseudo-element. -/
def isCompound (s : Selector) : Bool := s.all fun p => !p.isCombinator && !p.isPseudoElement

/-- Whether a selector starts with a type. -/
def startsWithType (s : Selector) : Bool := (s.head?.map Part.isType).getD false

end Selector

/-- Whether `:is()` around a list says no more than the list alone. -/
def canUnwrap : List Selector → Bool
  | [s] => !s.startsWithType && s.isCompound
  | _ => false

/-- Whether a part is a pseudo-element of any name. -/
def Part.isElement : Part → Bool
  | .simple (.pseudoElement _) | .simple (.elementCall _ _) | .simple (.placeholder _) => true
  | _ => false

/-- The parts of a selector in the order in which an element is tested: the last compound selector
first, a pseudo-element being one of its own. `done` holds the compound selectors passed, and
`current` the parts of the one at hand, latest first. -/
def testOrder (done current : List Part) : List Part → List Part
  | [] => current.reverse ++ done
  | p :: ps =>
    if p.isCombinator then testOrder (current.reverse ++ done) [] ps
    else if p.isElement then testOrder (current.reverse ++ done) [p] ps
    else testOrder done (p :: current) ps

/-- Add the spellings that a part stands for to those found before, unless two vendors clash.
Pseudo-classes of alternatives have a standard spelling beside any other. -/
def addPrefixes (found : Option Prefixes) (p : Part) : Option Prefixes :=
  let checked (own : Prefixes) : Option Prefixes :=
    match found with
    | none => none
    | some found =>
      let vendors := { found with plain := false }
      if vendors.isEmpty || vendors == own then some (found.union own) else none
  match p with
  | .simple (.placeholder own) => checked own
  | .choice (.anyOf own) _ => checked own
  | .choice .is _ | .choice .where_ _ | .choice .not _ | .choice .has _ =>
    found.map (·.union .standard)
  | _ => found

/-- The spellings that a list of selectors stands for; none when vendors clash. -/
def listPrefixes (ss : List Selector) : Prefixes :=
  ((ss.flatMap (testOrder [] [])).foldl addPrefixes (some .none)).getD .none

mutual

/-- A part without its vendor spelling. -/
def Part.unprefixed : Part → Part
  | .simple (.placeholder _) => .simple (.placeholder .standard)
  | .choice .is ss => .choice .is (listUnprefixed ss)
  | .choice (.anyOf _) ss => .choice .is (listUnprefixed ss)
  | p => p

/-- A selector without vendor spellings. -/
def Selector.unprefixed : List Part → List Part
  | [] => []
  | p :: ps => p.unprefixed :: Selector.unprefixed ps

/-- Selectors without vendor spellings. -/
def listUnprefixed : List (List Part) → List (List Part)
  | [] => []
  | s :: ss => Selector.unprefixed s :: listUnprefixed ss

end

/-- Whether two selector lists differ in vendor spellings only. -/
def isEquivalentList (ss ts : List Selector) : Bool := listUnprefixed ss == listUnprefixed ts

end StyleBuild.Css
