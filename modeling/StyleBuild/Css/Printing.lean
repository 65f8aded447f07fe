import StyleBuild.Browsers.Feature
import StyleBuild.Browsers.Prefixed
import StyleBuild.Css.Written

/-!
# The setting of a printer

What the printed form of a part of a sheet depends on: the layout, the targets, the vendor
spelling being printed, and the selectors that the nesting selector stands for when nested
rules are written out one after the other.

The set of vendor prefixes under which one thing is written. Targets decide which spellings
are needed; without targets the given ones stay.
-/

namespace StyleBuild.Css

/-! ## Vendor spellings -/

/-- The vendor prefixes under which a feature is written; `plain` is the feature itself. -/
structure Prefixes where
  webkit : Bool := false
  moz : Bool := false
  ms : Bool := false
  opera : Bool := false
  plain : Bool := false
  deriving DecidableEq, Repr, Inhabited

namespace Prefixes

/-- No spelling. -/
def none : Prefixes := {}

/-- The feature itself. -/
def standard : Prefixes := { plain := true }

/-- The spellings of either set. -/
def union (a b : Prefixes) : Prefixes :=
  ⟨a.webkit || b.webkit, a.moz || b.moz, a.ms || b.ms, a.opera || b.opera, a.plain || b.plain⟩

/-- The spellings of both sets. -/
def inter (a b : Prefixes) : Prefixes :=
  ⟨a.webkit && b.webkit, a.moz && b.moz, a.ms && b.ms, a.opera && b.opera, a.plain && b.plain⟩

/-- Whether there is no spelling. -/
def isEmpty (a : Prefixes) : Bool := a == none

/-- The sets of one spelling each, in the order in which they are printed. -/
def members (a : Prefixes) : List Prefixes :=
  (if a.webkit then [{ webkit := true }] else []) ++ (if a.moz then [{ moz := true }] else []) ++
    (if a.ms then [{ ms := true }] else []) ++ (if a.opera then [{ opera := true }] else []) ++
    (if a.plain then [standard] else [])

/-- The text put before a name; of several spellings the first. -/
def text (a : Prefixes) : String :=
  if a.webkit then "-webkit-" else if a.moz then "-moz-" else if a.ms then "-ms-"
  else if a.opera then "-o-" else ""

/-- Split the vendor prefix off a name. -/
def split (name : List Char) : Prefixes × List Char :=
  match name with
  | '-' :: 'w' :: 'e' :: 'b' :: 'k' :: 'i' :: 't' :: '-' :: r => ({ webkit := true }, r)
  | '-' :: 'm' :: 'o' :: 'z' :: '-' :: r => ({ moz := true }, r)
  | '-' :: 'm' :: 's' :: '-' :: r => ({ ms := true }, r)
  | '-' :: 'o' :: '-' :: r => ({ opera := true }, r)
  | r => (standard, r)

end Prefixes

/-- The spellings of a feature for some targets; given spellings without the plain one stay. -/
def Prefixes.forTargets (f : Prefixed) (targets : Option Browsers) (p : Prefixes) : Prefixes :=
  match targets with
  | some bs =>
    if p.plain then
      ⟨f.needs .webkit bs, f.needs .moz bs, f.needs .ms bs, f.needs .opera bs, true⟩
    else p
  | .none => p

/-! ## Printing -/

/-- What `&` is written as: the selectors of the rule around. -/
structure Parent where
  /-- The selectors as printed in a vendor spelling. -/
  texts : Prefixes → List String
  /-- Whether there is one selector that may stand at any place of a compound selector. -/
  anywhere : Bool
  deriving Inhabited

/-- The setting of a printer. -/
structure Printing extends Audience where
  layout : Layout
  vendor : Prefixes := .none
  parent : Option Parent := none
  deriving Inhabited

/-- Whether nested rules have to be written out. -/
def Printing.flattens (p : Printing) : Bool := !Feature.nesting.isUsable p.targets

end StyleBuild.Css
