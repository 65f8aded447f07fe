import StyleBuild.Css.Selector.Basic

/-!
# What targets make of selectors

A browser that does not know one selector of a list drops the whole rule, so it matters which
selectors every target knows (`listIsKnown`). `spellSelectors` writes selectors in the vendor
spellings that targets need. The specificity of a selector decides which of two rules wins, and
so whether selectors can stand together as alternatives.
-/

namespace StyleBuild.Css

/-- Which browsers understand something: all, those that have a feature, or none. -/
inductive Support where
  | all
  | since (f : Feature)
  | none
  deriving DecidableEq, Repr

/-- Whether every target understands it. -/
def Support.isUsable (targets : Option Browsers) : Support → Bool
  | .all => true
  | .since f => f.isUsable targets
  | .none => false

/-- The attributes of HTML whose values are compared without regard to letter case. -/
def looseAttributes : List String :=
  ["accept", "accept-charset", "align", "alink", "axis", "bgcolor", "charset", "checked", "clear",
   "codetype", "color", "compact", "declare", "defer", "dir", "direction", "disabled", "enctype",
   "face", "frame", "hreflang", "http-equiv", "lang", "language", "link", "media", "method",
   "multiple", "nohref", "noresize", "noshade", "nowrap", "readonly", "rel", "rev", "rules",
   "scope", "scrolling", "selected", "shape", "target", "text", "type", "valign", "valuetype",
   "vlink"]

/-- The support of an attribute selector. -/
def Attribute.support (a : Attribute) : Support :=
  match a.test with
  | none => .since .selectors2
  | some (m, _, flag) =>
    if flag ≠ .default ∨ (a.space.isNone ∧ looseAttributes.contains a.name.toLower) then
      .since .caseFlags
    else match m with
      | .prefixOf | .suffixOf | .substring => .since .selectors3
      | .equal | .includes | .dash => .since .selectors2

/-- The support of a pseudo-class without arguments. -/
def pseudoClassSupport (name : String) : Support :=
  match name with
  | "link" | "visited" | "active" | "hover" | "focus" => .since .selectors2
  | "root" | "empty" | "checked" | "disabled" | "enabled" | "target" | "only-child"
  | "only-of-type" => .since .selectors3
  | "scope" | "host" => .since .shadowTree
  | "any-link" => .since .anyLink
  | "indeterminate" => .since .indeterminate
  | "fullscreen" => .since .fullscreen
  | "focus-visible" => .since .focusVisible
  | "focus-within" => .since .focusWithin
  | "default" => .since .defaultState
  | "optional" => .since .optionalState
  | "placeholder-shown" => .since .placeholderShown
  | "read-only" | "read-write" => .since .readWrite
  | "valid" | "invalid" | "required" => .since .formValidation
  | "in-range" | "out-of-range" => .since .inRange
  | "autofill" => .since .autofill
  | _ => .none

/-- The support of a pseudo-element without arguments. -/
def pseudoElementSupport (name : String) : Support :=
  match name with
  | "before" | "after" => .since .generatedContent
  | "first-line" => .since .firstLine
  | "first-letter" => .since .firstLetter
  | "selection" => .since .selection
  | "marker" => .since .markerElement
  | "backdrop" => .since .backdrop
  | "cue" => .since .cue
  | _ => .none

/-- The support of a simple selector. -/
def Simple.support : Simple → Support
  | .type _ | .cls _ | .id _ => .all
  | .namespace_ _ => .since .namespaces
  | .universal => .since .selectors2
  | .nesting => .since .isSelector
  | .attribute a => a.support
  | .pseudoClass n => pseudoClassSupport n
  | .pseudoCall n _ =>
    if n = "lang" then .since .selectors2 else if n = "dir" then .since .dirSelector else .none
  | .nth kind a b =>
    match kind with
    | .column | .lastColumn => .none
    | .child => if a = 0 ∧ b = 1 then .since .selectors2 else .since .selectors3
    | _ => .since .selectors3
  | .pseudoElement n => pseudoElementSupport n
  | .elementCall n _ => if n = "cue" then .since .cueCall else .none
  | .shadowPart _ => .since .shadowPart
  | .placeholder q => if q = .standard then .since .placeholder else .none

mutual

/-- Whether every target understands a part of a selector. -/
def Part.isKnown (targets : Option Browsers) : Part → Bool
  | .combinator .descendant => true
  | .combinator .laterSibling => Feature.selectors3.isUsable targets
  | .combinator _ => Feature.selectors2.isUsable targets
  | .simple s => s.support.isUsable targets
  | .choice .is ss =>
    (canUnwrap ss && listIsKnown targets ss) || Feature.isSelector.isUsable targets
  | .choice .where_ _ => Feature.isSelector.isUsable targets
  | .choice .not ss => Feature.selectors3.isUsable targets && listIsKnown targets ss
  | .choice .has ss => Feature.hasSelector.isUsable targets && listIsKnown targets ss
  | .choice (.nth _ _ _) ss => Feature.nthOfSelector.isUsable targets && listIsKnown targets ss
  | .choice .host _ => Feature.shadowTree.isUsable targets
  | .choice .slotted _ => Feature.shadowTree.isUsable targets
  | .choice (.anyOf _) _ => false

/-- Whether every target understands a selector. -/
def Selector.isKnown (targets : Option Browsers) : List Part → Bool
  | [] => true
  | p :: ps => p.isKnown targets && Selector.isKnown targets ps

/-- Whether every target understands the selectors of a list. -/
def listIsKnown (targets : Option Browsers) : List (List Part) → Bool
  | [] => true
  | s :: ss => Selector.isKnown targets s && listIsKnown targets ss

end

/-! ## Specificity -/

/-- How specific a selector is: its identifiers, classes and types. -/
structure Specificity where
  ids : Nat := 0
  classes : Nat := 0
  types : Nat := 0
  deriving DecidableEq, Repr, Inhabited

namespace Specificity

/-- The sum of two. -/
def add (a b : Specificity) : Specificity :=
  ⟨a.ids + b.ids, a.classes + b.classes, a.types + b.types⟩

/-- The greater of two. -/
def max (a b : Specificity) : Specificity :=
  if a.ids < b.ids ∨ (a.ids = b.ids ∧ (a.classes < b.classes ∨
      (a.classes = b.classes ∧ a.types < b.types))) then b else a

end Specificity

mutual

/-- How specific a part is. -/
def Part.specificity : Part → Specificity
  | .combinator _ => {}
  | .simple s => match s with
    | .type _ | .pseudoElement _ | .elementCall _ _ | .placeholder _ | .shadowPart _ =>
      { types := 1 }
    | .universal | .nesting | .namespace_ _ => {}
    | .id _ => { ids := 1 }
    | .cls _ | .attribute _ | .pseudoClass _ | .pseudoCall _ _ | .nth _ _ _ => { classes := 1 }
  | .choice .where_ _ => {}
  | .choice .has _ => {}
  | .choice (.nth _ _ _) ss => (listSpecificity ss).add { classes := 1 }
  | .choice .host ss => (listSpecificity ss).add { classes := 1 }
  | .choice .slotted ss => (listSpecificity ss).add { types := 1 }
  | .choice _ ss => listSpecificity ss

/-- How specific a selector is. -/
def Selector.specificity : List Part → Specificity
  | [] => {}
  | p :: ps => p.specificity.add (Selector.specificity ps)

/-- The greatest specificity in a list. -/
def listSpecificity : List (List Part) → Specificity
  | [] => {}
  | s :: ss => (Selector.specificity s).max (listSpecificity ss)

end

/-! ## Vendor spellings -/

/-- The spellings of alternatives that targets need. -/
def alternativesSpellings (bs : Browsers) : Prefixes :=
  if Feature.isSelector.isSupported bs then .standard
  else Prefixes.standard.forTargets .anyOf (some bs)

mutual

/-- A part with the vendor spellings that targets need, and these spellings. -/
def Part.forTargets (bs : Browsers) : Part → Part × Prefixes
  | .combinator c => (.combinator c, .none)
  | .simple (.placeholder q) =>
    let q := q.forTargets .placeholder (some bs)
    (.simple (.placeholder q), q)
  | .simple s => (.simple s, .none)
  | .choice k ss =>
    let (ss', q) := listForTargets bs ss
    match k with
    | .is =>
      let simple := !canUnwrap ss && ss.all fun s => !s.any Part.isCombinator
      (.choice .is ss', q.union (if simple then alternativesSpellings bs else .standard))
    | .not =>
      if !Feature.notSelectorList.isSupported bs && 1 < ss.length then
        (.choice .not [[.choice .is ss']], q.union (alternativesSpellings bs))
      else (.choice .not ss', q)
    | .where_ | .has | .anyOf _ => (.choice k ss', q)
    | .nth _ _ _ | .host | .slotted => (.choice k ss, .none)

/-- A selector with the vendor spellings that targets need. -/
def Selector.forTargets (bs : Browsers) : List Part → List Part × Prefixes
  | [] => ([], .none)
  | p :: ps =>
    let (p, q) := p.forTargets bs
    let (ps, q') := Selector.forTargets bs ps
    (p :: ps, q.union q')

/-- Selectors with the vendor spellings that targets need. -/
def listForTargets (bs : Browsers) : List (List Part) → List (List Part) × Prefixes
  | [] => ([], .none)
  | s :: ss =>
    let (s, q) := Selector.forTargets bs s
    let (ss, q') := listForTargets bs ss
    (s :: ss, q.union q')

end

/-- The selectors of a style rule in the spellings in which the rule is printed. -/
def spellSelectors (targets : Option Browsers) (ss : List Selector) :
    List Selector × Prefixes :=
  let own := listPrefixes ss
  match targets with
  | some bs => if own.plain then listForTargets bs ss else (ss, own)
  | none => (ss, own)

end StyleBuild.Css
