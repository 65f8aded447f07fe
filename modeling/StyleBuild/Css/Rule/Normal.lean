import StyleBuild.Css.Rule.Built

/-!
# The normal form of rules

`normalizeRules` brings a list of rules into normal form for a `Goal`: rules that can match
nothing in use go, neighbours that say the same are merged, overridden rules are taken out, and
vendor spellings are added for the targets. Children are normalised by the same function with a
smaller bound on their depth.
-/

namespace StyleBuild.Css

/-- Whether a goal leaves the selectors of a rule without use. -/
def Goal.isUnused (goal : Goal) (parentUnused : Bool) (ss : List Selector) : Bool :=
  !goal.unused.names.isEmpty && isUnusedList goal.unused parentUnused ss

/-- How the rules inside of a rule are normalised: for a goal; whether the rule around them is
unused; and with the declarations that wait for a style rule. -/
abbrev Normalizer := Goal → Bool → List Upgrade → List Rule → List Rule × List Upgrade

namespace Built

/-- Normalise the rules inside of a rule that is about to be added. -/
def within (b : Built) (inner : List Upgrade → List Rule → List Rule × List Upgrade)
    (rules : List Rule) (add : Built → List Rule → Built) : Built :=
  let (rules, upgrades) := inner b.upgrades rules
  add { b with upgrades } rules

end Built

/-- Normalise a block and the rules nested in it. -/
def normalizeBody (goal : Goal) (inner : Normalizer) (gone : Bool) (b : Built) (block : Block)
    (rules : List Rule) : Built × Block × List Rule :=
  let (block, upgrades) :=
    if gone then ({}, b.upgrades) else block.normalize goal .style b.upgrades
  ({ b with upgrades }, block, if rules.isEmpty then [] else (inner goal gone [] rules).1)

/-- Add a rule in normal form behind others. `inner` normalises the rules in it. -/
def addRule (goal : Goal) (inner : Normalizer) (parentUnused : Bool) (b : Built) (r : Rule) :
    Built :=
  let inside := inner goal parentUnused
  match r with
  | .style ss block rules _ =>
    if parentUnused then b
    else
      let gone := goal.isUnused parentUnused ss
      let (b, block, rules) := normalizeBody goal inner gone b block rules
      if gone && rules.isEmpty then b else b.addStyle goal ss block rules
  | .nesting ss block rules =>
    let gone := goal.isUnused parentUnused ss
    let (b, block, rules) := normalizeBody goal inner gone b block rules
    if gone && rules.isEmpty then b else b.push (.nesting ss block rules)
  | .declarations block =>
    if parentUnused then b
    else
      let (block, upgrades) := block.normalize goal .style b.upgrades
      { b with upgrades }.push (.declarations block)
  | .media queries rules =>
    match b.rules with
    | .media q old :: rest =>
      if q == queries then
        { b with rules := rest }.within inside (old ++ rules) fun b rules => b.push (.media q rules)
      else b.within inside rules (Built.pushMedia goal.targets queries)
    | _ => b.within inside rules (Built.pushMedia goal.targets queries)
  | .supports c rules =>
    let inside := inner { goal with granted := goal.granted ++ SupportsQuery.grants c }
      parentUnused
    let spelled := c.map (SupportsTest.forTargets goal.targets)
    match b.rules with
    | .supports d old :: rest =>
      if d == c then
        { b with rules := rest }.within inside (old ++ rules) fun b rules =>
          b.push (.supports d rules)
      else b.within inside rules (Built.pushUnlessEmpty (.supports spelled))
    | _ => b.within inside rules (Built.pushUnlessEmpty (.supports spelled))
  | .container q rules =>
    match b.rules with
    | .container q' old :: rest =>
      if q' == q then
        { b with rules := rest }.within inside (old ++ rules) fun b rules =>
          b.push (.container q' rules)
      else b.within inside rules (Built.pushUnlessEmpty (.container q))
    | _ => b.within inside rules (Built.pushUnlessEmpty (.container q))
  | .layer (some name) rules => b.addLayer name rules
  | .layer none rules => b.push (.layer none rules)
  | .layerNames names => names.foldl Built.declareLayer b
  | .scope root limit rules =>
    b.within (inner goal false) rules fun b rules => b.push (.scope root limit rules)
  | .startingStyle rules => b.within inside rules (Built.pushUnlessEmpty .startingStyle)
  | .keyframes name q frames =>
    if goal.unused.contains name.value then b else b.addKeyframes goal name q frames
  | .registered p =>
    if goal.unused.contains p.name then b
    else b.replaceOr (fun
      | .registered q => q.name == p.name
      | _ => false) (.registered p)
  | r => b.push r

/-! ## Layers -/

/-- Whether some rule is the block of a named layer. -/
def hasNamedLayer (rules : List Rule) : Bool := rules.any fun
  | .layer (some _) _ => true
  | _ => false

/-- A list whose layers are being settled: its rules, latest first, the layers declared, and the
place from the start of the statement that declares further ones. Declarations that wait for a
style rule go on from one layer to the next. -/
structure Layered where
  rules : List Rule := []
  declared : List LayerName := []
  statement : Option Nat := none
  upgrades : List Upgrade := []

namespace Layered

/-- Add a rule at the end. -/
def push (l : Layered) (r : Rule) : Layered := { l with rules := r :: l.rules }

/-- Add a name to the statement at a place. -/
def extend (l : Layered) (i : Nat) (name : LayerName) : Layered :=
  let j := l.rules.length - 1 - i
  match l.rules[j]? with
  | some (.layerNames ns) => { l with rules := l.rules.set j (.layerNames (ns ++ [name])) }
  | _ => l

/-- Settle one rule: an empty layer becomes a name in a statement. -/
def add (inner : List Upgrade → List Rule → List Rule × List Upgrade) (l : Layered) (r : Rule) :
    Layered :=
  match r with
  | .layer name rules =>
    let (rules, upgrades) := inner l.upgrades rules
    let l := { l with upgrades }
    if !rules.isEmpty then { l.push (.layer name rules) with statement := none }
    else match name with
      | none => l.push .removed
      | some n =>
        if l.declared.contains n then l.push .removed
        else
          let l := { l with declared := n :: l.declared }
          match l.statement with
          | some i => (l.extend i n).push .removed
          | none => { l.push (.layerNames [n]) with statement := some l.rules.length }
  | .import_ i =>
    match i.layer with
    | none => l.push r
    | some n => { l.push r with statement := none, declared := n.toList ++ l.declared }
  | r => l.push r

end Layered

/-- Settle the layers of a list. Without a named layer all stay as they are. -/
def settleLayers (inner : List Upgrade → List Rule → List Rule × List Upgrade) (b : Built) :
    List Rule × List Upgrade :=
  let rules := b.rules.reverse
  if hasNamedLayer rules then
    let l := rules.foldl (Layered.add inner) { upgrades := b.upgrades }
    (l.rules.reverse, l.upgrades)
  else (rules, b.upgrades)

/-- Rules in normal form, up to a depth of nesting. -/
def normalizeTo : Nat → Normalizer
  | 0, _, _, upgrades, rules => (rules, upgrades)
  | depth + 1, goal, parentUnused, upgrades, rules =>
    let built := rules.foldl (addRule goal (normalizeTo depth) parentUnused) { upgrades }
    settleLayers (normalizeTo depth goal parentUnused) built

/-- The normal form of a list of rules. -/
def normalizeRules (goal : Goal) (rules : List Rule) : List Rule :=
  (normalizeTo (rulesDepth rules) goal false [] rules).1

end StyleBuild.Css
