import StyleBuild.Css.Selector.Basic
import StyleBuild.Css.SyntaxError

/-!
# Reading selectors

`readSelectors` reads a comma-separated list of selectors from a level of components. What may
follow depends on what has been read: behind a pseudo-element only some pseudo-classes make
sense, and inside `:is()` and its kin there are no pseudo-elements. A `SelectorState` keeps that.
-/

namespace StyleBuild.Css

/-- Where a selector list stands. -/
inductive SelectorPlace where
  /-- At the top of a sheet: nothing is implied. -/
  | top
  /-- Inside a style rule: a selector without `&` is a descendant of it. -/
  | nested
  /-- Behind `@nest`: every selector needs `&`. -/
  | marked
  /-- Inside `:is()` and `:where()`: a selector with a fault is left out. -/
  | forgiving
  /-- Inside `:has()` and `@scope`: a selector may start with a combinator, too. -/
  | relative
  deriving DecidableEq, Repr

/-- What has been read of a selector. -/
structure SelectorState where
  afterElement : Bool := false
  afterShadow : Bool := false
  afterSlotted : Bool := false
  afterScrollbar : Bool := false
  /-- Whether pseudo-elements are out of place. -/
  plain : Bool := false
  /-- Whether combinators are out of place. -/
  single : Bool := false
  deriving DecidableEq, Repr, Inhabited

/-- Whether a pseudo-element that is known has been read. -/
def SelectorState.isAfter (st : SelectorState) : Bool :=
  st.afterElement || st.afterShadow || st.afterSlotted

/-! ## Names -/

/-- The combinator that a character stands for. -/
def combinatorOf? : Char → Option Combinator
  | '>' => some .child
  | '+' => some .nextSibling
  | '~' => some .laterSibling
  | _ => none

/-- The states of scroll bars. -/
def scrollbarStates : List String :=
  ["horizontal", "vertical", "decrement", "increment", "start", "end", "double-button",
   "single-button", "no-button", "corner-present", "window-inactive"]

/-- The states that a user brings about. -/
def userActions : List String := ["active", "hover", "focus", "focus-within", "focus-visible"]

/-- The pseudo-classes of the place in the tree that take no arguments. -/
def treeClasses : List String :=
  ["first-child", "last-child", "only-child", "root", "empty", "scope", "host", "first-of-type",
   "last-of-type", "only-of-type"]

/-- The other pseudo-classes that are known, in lower case. -/
def stateClasses : List String :=
  userActions ++ scrollbarStates ++
  ["current", "past", "future", "playing", "paused", "seeking", "buffering", "stalled", "muted",
   "volume-locked", "fullscreen", "-webkit-full-screen", "-moz-full-screen", "-ms-fullscreen",
   "open", "closed", "modal", "picture-in-picture", "popover-open", "defined", "any-link",
   "-webkit-any-link", "-moz-any-link", "link", "local-link", "target", "target-within",
   "visited", "enabled", "disabled", "read-only", "-moz-read-only", "read-write",
   "-moz-read-write", "placeholder-shown", "-moz-placeholder-shown", "-ms-input-placeholder",
   "default", "checked", "indeterminate", "blank", "valid", "invalid", "in-range",
   "out-of-range", "required", "optional", "user-valid", "user-invalid", "autofill",
   "-webkit-autofill", "-o-autofill", "active-view-transition"]

/-- A pseudo-class of the place in the tree, by its name in lower case. -/
def treeClassOf (name : String) : Simple :=
  match name with
  | "first-child" => .nth .child 0 1
  | "last-child" => .nth .lastChild 0 1
  | "first-of-type" => .nth .ofType 0 1
  | "last-of-type" => .nth .lastOfType 0 1
  | n => .pseudoClass n

/-- A pseudo-element by its written name; the known ones are in lower case. -/
def pseudoElementOf (name : String) : Simple :=
  match name.toLower with
  | "placeholder" => .placeholder .standard
  | "-webkit-input-placeholder" => .placeholder { webkit := true }
  | "-moz-placeholder" => .placeholder { moz := true }
  | "-ms-input-placeholder" => .placeholder { ms := true }
  | lower => .pseudoElement (if knownElements.contains lower then lower else name)

/-- What the pseudo-classes that count elements count, by name. -/
def nthKindOf? (name : String) : Option NthKind :=
  match name with
  | "nth-child" => some .child
  | "nth-last-child" => some .lastChild
  | "nth-of-type" => some .ofType
  | "nth-last-of-type" => some .lastOfType
  | "nth-col" => some .column
  | "nth-last-col" => some .lastColumn
  | _ => none

/-! ## Attributes -/

/-- The component in front as an error message names it, white space included. -/
def Components.front? : Components → Option Token
  | .done _ => none
  | .token t _ _ => some t
  | .block b _ _ _ => some (.opening b)

/-- The error of a kind that names the component in front, white space included. -/
def Components.frontFault (cause : Token → SyntaxCause) (place : Position) (cs : Components) :
    SyntaxError :=
  match cs.front? with
  | none => ⟨.endOfInput, cs.stop⟩
  | some t => ⟨cause t, place⟩

/-- How an attribute is compared, by the token that says so. -/
def matchOf? : Token → Option AttributeMatch
  | .delim '=' => some .equal
  | .includeMatch => some .includes
  | .dashMatch => some .dash
  | .prefixMatch => some .prefixOf
  | .suffixMatch => some .suffixOf
  | .substringMatch => some .substring
  | _ => none

/-- The name of an attribute with its namespace, and what follows. -/
def readAttributeName (cs : Components) :
    Except SyntaxError ((Option String × String) × Components) :=
  let named (space : Option String) (cs : Components) :
      Except SyntaxError ((Option String × String) × Components) :=
    match cs with
    | .token (.ident n) _ rest => .ok ((space, n), rest)
    | cs => .error (cs.frontFault .attributeNameNeeded cs.start)
  match cs with
  | .token (.ident n) _ (.token (.delim '|') _ rest) => named (some n) rest
  | .token (.ident n) _ rest => .ok ((none, n), rest)
  | .token (.delim '*') _ (.token (.delim '|') _ rest) => named (some "*") rest
  | .token (.delim '*') _ rest => .error (rest.frontFault .attributeNeedsBar rest.start)
  | .token (.delim '|') _ rest => named none rest
  | cs => .error (cs.frontFault .attributeNeedsName cs.start)

/-- The letter case that the end of an attribute selector asks for. -/
def readCaseFlag (cs : Components) : Except SyntaxError CaseFlag :=
  match cs.skipBlank with
  | .done _ => .ok .default
  | .token (.ident f) _ rest =>
    let flag : Option CaseFlag :=
      match f.toLower with
      | "i" => some .insensitive
      | "s" => some .sensitive
      | _ => none
    match flag with
    | some flag => (expectNothing rest).map fun _ => flag
    | none => .error cs.unexpected
  | _ => .error cs.unexpected

/-- The inside of an attribute selector. -/
def readAttribute (cs : Components) : Except SyntaxError Attribute := do
  let ((space, name), rest) ← readAttributeName cs.skipBlank
  match rest.skipBlank with
  | .done _ => return ⟨space, name, none⟩
  | .token t _ tail =>
    match matchOf? t with
    | none => .error (rest.faultAt .unexpectedInAttribute rest.start)
    | some m =>
      match tail.skipBlank with
      | .token (.ident v) _ rest => return ⟨space, name, some (m, v, ← readCaseFlag rest)⟩
      | .token (.quoted v) _ rest => return ⟨space, name, some (m, v, ← readCaseFlag rest)⟩
      | _ => .error (tail.faultAt .badAttributeValue tail.start)
  | .block _ _ _ _ => .error (rest.faultAt .unexpectedInAttribute rest.start)

/-! ## Counting -/

/-- An unsigned integer with a sign before it. -/
def readUnsigned (step sign : Int) (cs : Components) :
    Except SyntaxError ((Int × Int) × Components) :=
  match cs.skipBlank with
  | .token (.number n) _ rest =>
    match n.signed, n.integer with
    | false, some b => .ok ((step, sign * b), rest)
    | _, _ => .error cs.unexpectedBehind
  | _ => .error cs.unexpectedBehind

/-- The offset behind the letter `n`, if there is one. -/
def readOffset (step : Int) (cs : Components) : Except SyntaxError ((Int × Int) × Components) :=
  match cs.skipBlank with
  | .token (.delim '+') _ rest => readUnsigned step 1 rest
  | .token (.delim '-') _ rest => readUnsigned step (-1) rest
  | .token (.number n) _ rest =>
    match n.signed, n.integer with
    | true, some b => .ok ((step, b), rest)
    | _, _ => .ok ((step, 0), cs)
  | _ => .ok ((step, 0), cs)

/-- The step and offset after the letter `n` of a unit or name, such as `-3` in `2n-3`. -/
def readSteps (step : Int) (letters : List Char) (fault : SyntaxError) (rest : Components) :
    Except SyntaxError ((Int × Int) × Components) :=
  match letters with
  | ['n'] => readOffset step rest
  | ['n', '-'] => readUnsigned step (-1) rest
  | 'n' :: '-' :: ds =>
    if ds.all Char.isDigit then
      .ok ((step, -(min (valueOfDigits 10 ds) 2147483648 : Nat)), rest)
    else .error fault
  | _ => .error fault

/-- The numbers of `:nth-child()` and its kin: an integer, `odd`, `even`, or a step and an
offset. -/
def readNth (cs : Components) : Except SyntaxError ((Int × Int) × Components) :=
  match cs.skipBlank with
  | .token (.number n) _ rest =>
    match n.integer with
    | some b => .ok ((0, b), rest)
    | none => .error cs.unexpectedBehind
  | .token (.dimension n u) _ rest =>
    match n.integer with
    | some step =>
      readSteps step u.toLower.toList ⟨.unexpectedToken (.ident u), rest.start⟩ rest
    | none => .error cs.unexpectedBehind
  | .token (.ident name) _ rest =>
    let fault : SyntaxError := ⟨.unexpectedToken (.ident name), rest.start⟩
    match name.toLower.toList with
    | ['e', 'v', 'e', 'n'] => .ok ((2, 0), rest)
    | ['o', 'd', 'd'] => .ok ((2, 1), rest)
    | '-' :: letters => readSteps (-1) letters fault rest
    | letters => readSteps 1 letters fault rest
  | .token (.delim '+') _ (.token (.ident name) _ rest) =>
    let fault : SyntaxError := ⟨.unexpectedToken (.ident name), rest.start⟩
    match name.toLower.toList with
    | ['e', 'v', 'e', 'n'] => .ok ((2, 0), rest)
    | ['o', 'd', 'd'] => .ok ((2, 1), rest)
    | letters => readSteps 1 letters fault rest
  | .token (.delim '+') _ rest => .error (rest.frontFault .unexpectedToken rest.behind)
  | _ => .error cs.unexpectedBehind

/-! ## Simple selectors -/

/-- All tokens of a level as they are. -/
def plainTokens (acc : Raw) : Components → Except SyntaxError Raw
  | .done _ => .ok acc
  | .token t p rest =>
    if t.isBad then .error ⟨.unexpectedToken t, p⟩
    else plainTokens (.token (match t with
      | .idHash h => .hash h
      | t => t) :: acc) rest
  | .block b _ body rest => do
    let acc ← plainTokens (.token (.opening b) :: acc) body
    plainTokens (.token (.closing b.shape) :: acc) rest

/-- The arguments of a function that is not known. -/
def readPlain (cs : Components) : Except SyntaxError Raw := (plainTokens [] cs).map List.reverse

/-- The identifiers of a level, at least one. -/
def readIdents (cs : Components) : Except SyntaxError (List String) :=
  match cs.skipBlank with
  | .token (.ident n) _ rest =>
    if rest.isBlank then .ok [n] else go [n] cs.size rest
  | _ => .error cs.unexpected
where
  /-- Read further identifiers behind others, latest first. -/
  go (found : List String) : Nat → Components → Except SyntaxError (List String)
    | 0, cs => (expectNothing cs).map fun _ => found.reverse
    | fuel + 1, cs =>
      match cs.skipBlank with
      | .done _ => .ok found.reverse
      | .token (.ident n) _ rest => go (n :: found) fuel rest
      | _ => .error cs.unexpected

/-- The languages of `:lang()`: names or strings with commas between them. -/
def readLanguages (cs : Components) : Except SyntaxError Raw := do
  let items ← cs.splitCommas.mapM fun piece =>
    match piece.skipBlank with
    | .token (.ident n) _ rest => (expectNothing rest).map fun _ => n
    | .token (.quoted n) _ rest => (expectNothing rest).map fun _ => n
    | _ => .error piece.unexpected
  return (items.map fun n => [RawPiece.token (.ident n)]).intersperse [.separator] |>.flatten

/-- A pseudo-class without arguments; `place` is behind its colon. -/
def readPseudoClass (st : SelectorState) (place : Position) (name : String) :
    Except SyntaxError Simple :=
  let lower := name.toLower
  if st.afterSlotted then .error ⟨.invalidState, place⟩
  else if !st.isAfter && treeClasses.contains lower then .ok (treeClassOf lower)
  else
    let known := stateClasses.contains lower
    let own : Simple := .pseudoClass (if known then lower else name)
    if st.afterScrollbar then
      if (scrollbarStates ++ ["enabled", "disabled", "hover", "active"]).contains lower then .ok own
      else .error ⟨.statelessAfterScrollbar, place⟩
    else if st.afterElement then
      if userActions.contains lower then .ok own else .error ⟨.statelessAfterPseudoElement, place⟩
    else if scrollbarStates.contains lower then .error ⟨.scrollbarStateAlone, place⟩
    else .ok own

/-- What is known behind a pseudo-element. -/
def SelectorState.behindElement (st : SelectorState) : Simple → SelectorState
  | .pseudoElement n =>
    { st with
      afterElement := st.afterElement || knownElements.contains n
      afterScrollbar := st.afterScrollbar || (knownElements.contains n && isScrollbar n) }
  | .elementCall n _ =>
    { st with afterElement := st.afterElement || ["cue", "cue-region"].contains n }
  | .shadowPart _ => { st with afterShadow := true }
  | _ => { st with afterElement := true }

/-- The type selector in front, if there is one, and what follows. -/
def readType (st : SelectorState) (cs : Components) :
    Except SyntaxError (List Part × Components) :=
  let checked (parts : List Simple) (rest : Components) :
      Except SyntaxError (List Part × Components) :=
    if st.isAfter then .error ⟨.invalidState, rest.start⟩
    else .ok (parts.map Part.simple, rest)
  let named (head : List Simple) (cs : Components) :
      Except SyntaxError (List Part × Components) :=
    match cs with
    | .token (.delim '*') _ rest => checked (head ++ [.universal]) rest
    | .token (.ident n) _ rest => checked (head ++ [.type n]) rest
    | .done _ => .ok ([], cs)
    | cs => .error (cs.frontFault .unexpectedInNamespace cs.start)
  match cs with
  | .token (.ident n) _ (.token (.delim '|') _ rest) => named [.namespace_ (some n)] rest
  | .token (.ident n) _ rest => checked [.type n] rest
  | .token (.delim '*') _ (.token (.delim '|') _ rest) => named [] rest
  | .token (.delim '*') _ rest => checked [.universal] rest
  | .token (.delim '|') _ rest => named [.namespace_ none] rest
  | cs => .ok ([], cs)

/-- Whether a selector is implied to be relative to the rule around. -/
def implyNesting (place : SelectorPlace) (s : Selector) : Selector :=
  if place = .nested ∧ !Selector.hasNesting s then
    .simple .nesting :: .combinator .descendant :: s
  else s

/-- The kind of pseudo-class that takes alternatives, by name, and where its selectors stand. -/
def alternativesOf? (name : String) : Option (Choice × SelectorPlace) :=
  match name with
  | "is" => some (.is, .forgiving)
  | "where" => some (.where_, .forgiving)
  | "not" => some (.not, .top)
  | "has" => some (.has, .relative)
  | "-webkit-any" => some (.anyOf { webkit := true }, .forgiving)
  | "-moz-any" => some (.anyOf { moz := true }, .forgiving)
  | _ => none

/-! ## Selectors -/

/-- The combinator in front, and what follows. -/
def Components.leadCombinator? (cs : Components) : Option (Combinator × Components) :=
  match cs.skipBlank with
  | .token (.delim c) _ rest => (combinatorOf? c).map (·, rest)
  | _ => none

/-- The combinator behind a compound selector, and what follows; white space before something
else is one. -/
def Components.nextCombinator? (cs : Components) : Option (Combinator × Components) :=
  match cs.leadCombinator?, cs with
  | some r, _ => some r
  | none, .token (.blank _) _ _ => if cs.isBlank then none else some (.descendant, cs.skipBlank)
  | none, _ => none

/-- What a step of reading a compound selector gives: nothing if no simple selector is in front. -/
abbrev SimpleStep := Except SyntaxError (Option (Part × SelectorState × Components))

mutual

/-- Read one simple selector other than a type. The number bounds the depth of the reading. -/
def readSimple : Nat → SelectorState → Components → SimpleStep
  | 0, _, _ => .ok none
  | fuel + 1, st, cs =>
    match cs with
    | .token (.idHash n) p rest =>
      if st.isAfter then .error ⟨.afterPseudoElement (.idHash n), p⟩
      else .ok (some (.simple (.id n), st, rest))
    | .token (.delim '.') p rest =>
      if st.isAfter then .error ⟨.afterPseudoElement (.delim '.'), p⟩
      else match rest with
        | .token (.ident n) _ rest => .ok (some (.simple (.cls n), st, rest))
        | rest => .error (rest.frontFault .classNeedsName rest.start)
    | .token (.delim '&') _ rest => .ok (some (.simple .nesting, st, rest))
    | .block (.plain .square) p body rest =>
      if st.isAfter then .error ⟨.afterPseudoElement (.opening (.plain .square)), p⟩
      else (readAttribute body).map fun a => some (.simple (.attribute a), st, rest)
    | .token .colon _ rest =>
      match rest with
      | .token .colon _ (.token (.ident n) _ tail) => readElement st n tail
      | .token .colon _ (.block (.function n) _ body tail) => readElementCall fuel st n body tail
      | .token .colon _ tail => .error (tail.frontFault .pseudoNeedsName tail.behind)
      | .token (.ident n) _ tail =>
        if isLegacyElement n.toLower then readElement st n tail
        else (readPseudoClass st rest.start n).map fun s => some (.simple s, st, tail)
      | .block (.function n) _ body tail =>
        if isLegacyElement n.toLower then readElementCall fuel st n body tail
        else (readCall fuel st n body).map fun q => some (q, st, tail)
      | rest => .error (rest.frontFault .pseudoNeedsName rest.behind)
    | _ => .ok none
where
  /-- A pseudo-element by its name. -/
  readElement (st : SelectorState) (name : String) (tail : Components) : SimpleStep :=
    if st.plain || st.afterElement then .error ⟨.invalidState, tail.start⟩
    else
      let s := pseudoElementOf name
      .ok (some (.simple s, st.behindElement s, tail))

/-- Read a pseudo-element with arguments. -/
def readElementCall : Nat → SelectorState → String → Components → Components → SimpleStep
  | 0, _, _, _, _ => .ok none
  | fuel + 1, st, name, body, tail =>
    let lower := name.toLower
    if st.plain || st.afterElement then .error ⟨.invalidState, body.start⟩
    else if lower = "part" then
      if st.isAfter then .error ⟨.invalidState, body.start⟩
      else do
        let s : Simple := .shadowPart (← readIdents body)
        return some (.simple s, st.behindElement s, tail)
    else if lower = "slotted" then
      if st.isAfter then .error ⟨.invalidState, body.start⟩
      else do
        let s ← readInner fuel st body
        return some (.choice .slotted [s], { st with afterSlotted := true }, tail)
    else do
      let known := ["cue", "cue-region"].contains lower
      let s : Simple := .elementCall (if known then lower else name) (← readPlain body)
      return some (.simple s, st.behindElement s, tail)

/-- Read a pseudo-class with arguments. -/
def readCall : Nat → SelectorState → String → Components → Except SyntaxError Part
  | 0, _, _, body => .error body.unexpected
  | fuel + 1, st, name, body =>
    let lower := name.toLower
    match alternativesOf? lower, nthKindOf? lower with
    | some (k, place), _ =>
      let st := if k = .has then st else { st with plain := true }
      (readListWithin fuel st place body).map (.choice k)
    | none, some kind =>
      if st.isAfter then .error ⟨.invalidState, body.start⟩
      else do
        let ((a, b), rest) ← readNth body
        match kind, rest.skipBlank with
        | .child, .token (.ident n) _ tail =>
          if n.toLower = "of" then
            (readListWithin fuel { st with plain := true } .forgiving tail).map
              (.choice (.nth .child a b))
          else .error rest.unexpected
        | .lastChild, .token (.ident n) _ tail =>
          if n.toLower = "of" then
            (readListWithin fuel { st with plain := true } .forgiving tail).map
              (.choice (.nth .lastChild a b))
          else .error rest.unexpected
        | _, _ =>
          expectNothing rest
          return .simple (.nth kind a b)
    | none, none =>
      if st.isAfter then .error ⟨.invalidState, body.start⟩
      else if lower = "host" then do return .choice .host [← readInner fuel st body]
      else if lower = "lang" then do return .simple (.pseudoCall lower (← readLanguages body))
      else if lower = "dir" then
        match body.skipBlank with
        | .token (.ident n) _ rest =>
          if ["ltr", "rtl"].contains n.toLower then do
            expectNothing rest
            return .simple (.pseudoCall lower [.token (.ident n.toLower)])
          else .error ⟨.unexpectedToken (.ident n), body.start⟩
        | _ => .error body.unexpected
      else do return .simple (.pseudoCall name (← readPlain body))

/-- Read one compound selector that fills a level. -/
def readInner : Nat → SelectorState → Components → Except SyntaxError Selector
  | 0, _, cs => .error cs.unexpected
  | fuel + 1, st, cs => do
    let (s, rest) ← readSequence fuel { st with plain := true, single := true } [] cs
    expectNothing rest
    return s

/-- Read simple selectors behind others, latest first. -/
def readSimples : Nat → SelectorState → Selector → Components →
    Except SyntaxError (Selector × SelectorState × Components)
  | 0, st, parts, cs => .ok (parts, st, cs)
  | fuel + 1, st, parts, cs => do
    match ← readSimple fuel st cs with
    | none => return (parts, st, cs)
    | some (q, st, rest) => readSimples fuel st (q :: parts) rest

/-- Read compound selectors and combinators behind others, latest first. -/
def readSequence : Nat → SelectorState → Selector → Components →
    Except SyntaxError (Selector × Components)
  | 0, _, parts, cs => .ok (parts.reverse, cs)
  | fuel + 1, st, parts, cs => do
    let cs := cs.skipBlank
    let (head, rest) := match cs with
      | .token (.delim '&') _ rest => ([Part.simple .nesting], rest)
      | cs => ([], cs)
    let (type, rest) ← readType st rest
    let (found, st, rest) ← readSimples fuel st (type.reverse ++ head) rest
    if found.isEmpty then
      throw ⟨if parts.isEmpty then .emptySelector else .danglingCombinator, rest.start⟩
    let parts := found ++ parts
    if st.isAfter then
      if rest.isBlank then return (parts.reverse, rest)
      else throw (rest.faultAt .afterPseudoElement rest.start)
    match rest.nextCombinator? with
    | none => return (parts.reverse, rest)
    | some (k, after) =>
      if st.single then throw ⟨.invalidState, after.start⟩
      readSequence fuel st (.combinator k :: parts) after

/-- Read one selector that fills a level. -/
def readSelector : Nat → SelectorState → SelectorPlace → Components →
    Except SyntaxError Selector
  | 0, _, _, cs => .error cs.unexpected
  | fuel + 1, st, place, cs => do
    let relative : Bool := place == .nested || place == .relative
    if relative && cs.isBlank then throw ⟨.endOfInput, cs.stop⟩
    match if relative then cs.leadCombinator? else none with
    | some (k, rest) =>
      let (s, rest) ← readSequence fuel st [] rest
      expectNothing rest
      let anchor : Simple := if place = .nested then .nesting else .pseudoClass "scope"
      return .simple anchor :: .combinator k :: s
    | none =>
      let (s, rest) ← readSequence fuel st [] cs
      if place = .marked ∧ !Selector.hasNesting s then throw ⟨.missingNesting, rest.start⟩
      expectNothing rest
      return implyNesting place s

/-- Read the selectors of a list. -/
def readListWithin : Nat → SelectorState → SelectorPlace → Components →
    Except SyntaxError (List Selector)
  | 0, _, _, _ => .ok []
  | fuel + 1, st, place, cs => readPieces fuel st place cs.splitCommas

/-- Read selectors that have been split at commas. -/
def readPieces : Nat → SelectorState → SelectorPlace → List Components →
    Except SyntaxError (List Selector)
  | 0, _, _, _ => .ok []
  | _ + 1, _, _, [] => .ok []
  | fuel + 1, st, place, cs :: rest =>
    match readSelector fuel st place cs with
    | .ok s => (readPieces fuel st place rest).map (s :: ·)
    | .error e =>
      if place = .forgiving ∨ place = .relative then readPieces fuel st place rest else .error e

end

/-- Read a comma-separated list of selectors. -/
def readSelectors (place : SelectorPlace) (cs : Components) :
    Except SyntaxError (List Selector) :=
  readListWithin (8 * cs.size + 16) {} place cs

end StyleBuild.Css
