import StyleBuild.Css.Declaration.Normal
import StyleBuild.Css.Rule.Basic
import StyleBuild.Css.Selector.Support

/-!
# Lists of rules under construction

Rules in normal form are added to a `Built` from left to right. A style rule is merged into the one
before it if the two say the same, and takes the place of an earlier one that it overrides.
-/

namespace StyleBuild.Css

/-! ## Style rules -/

/-- A style rule without its place in the tree. -/
structure Style where
  selectors : List Selector
  block : Block
  rules : List Rule
  spellings : Prefixes
  deriving Inhabited

namespace Style

/-- The style rule as a rule. -/
def toRule (s : Style) : Rule := .style s.selectors s.block s.rules s.spellings

/-- Whether the rule says nothing. -/
def isEmpty (s : Style) : Bool :=
  s.selectors.isEmpty || (s.block.isEmpty && s.rules.isEmpty)

/-- Whether the rule can be merged with others as far as the targets go. -/
def isKnown (targets : Option Browsers) (s : Style) : Bool := listIsKnown targets s.selectors

/-- The spellings of two rules that become one. -/
def joinSpellings (targets : Option Browsers) (old new : Prefixes) : Prefixes :=
  if new.plain && targets.isSome then new else old.union new

/-- A rule merged into the one before it: that one as it is then, and what is left of the merged
rule. -/
structure Merger where
  kept : Style
  left : Style

/-- Merge a rule into the one before it: equal selectors take the declarations of both, equal
declarations the selectors of both. -/
def mergeInto? (goal : Goal) (last new : Style) : Option Merger :=
  let flat := new.rules.isEmpty && last.rules.isEmpty
  let known := new.isKnown goal.targets && last.isKnown goal.targets
  if new.selectors == last.selectors && known && flat then
    let (block, _) := (last.block.append new.block).normalize goal .merged []
    some ⟨{ last with block }, { new with block := {} }⟩
  else if new.block == last.block && flat then
    let spellings := joinSpellings goal.targets last.spellings new.spellings
    if !new.spellings.isEmpty ∧ !last.spellings.isEmpty ∧
        isEquivalentList new.selectors last.selectors then
      some ⟨{ last with spellings }, new⟩
    else if known then
      some ⟨{ last with selectors := last.selectors ++ new.selectors, spellings },
        { new with selectors := [] }⟩
    else none
  else none

/-- What two rules share when the later one overrides the earlier: their selectors and the
properties that they set. -/
def key (s : Style) : List Selector × List PropertyId :=
  (s.selectors, s.block.all.map Declaration.property)

end Style

/-- A style rule among rules. -/
def Rule.style? : Rule → Option Style
  | .style ss b rs q => some ⟨ss, b, rs, q⟩
  | _ => none

/-! ## Building a list -/

/-- A list under construction: its rules, latest first, and for each style rule added on its own
what it was then and its place from the start. -/
structure Built where
  rules : List Rule := []
  keys : List ((List Selector × List PropertyId) × Nat) := []
  /-- Declarations that wait for the end of the next style rule. -/
  upgrades : List Upgrade := []

namespace Built

/-- Add a rule at the end. -/
def push (b : Built) (r : Rule) : Built := { b with rules := r :: b.rules }

/-- Replace the rule at a place from the start. -/
def setAt (b : Built) (i : Nat) (r : Rule) : Built :=
  { b with rules := b.rules.set (b.rules.length - 1 - i) r }

/-- The rule at a place from the start. -/
def at? (b : Built) (i : Nat) : Option Rule :=
  if i < b.rules.length then b.rules[b.rules.length - 1 - i]? else none

/-- Merge a style rule into the rules before it, as long as that works. -/
def settle (goal : Goal) (last : Style) : List Rule → List Rule
  | [] => [last.toRule]
  | r :: rs =>
    match r.style?.bind (·.mergeInto? goal last) with
    | some m => settle goal m.kept rs
    | none => last.toRule :: r :: rs

/-- Merge a style rule into the last rule, if that works; also gives what is left of the style
rule. -/
def merge? (goal : Goal) (b : Built) (s : Style) : Option (Built × Style) :=
  match b.rules with
  | [] => none
  | r :: rs =>
    (r.style?.bind (·.mergeInto? goal s)).map fun m =>
      ({ b with rules := settle goal m.kept rs }, m.left)

/-- Whether the rule at a place has a key. -/
def hasKey (b : Built) (key : List Selector × List PropertyId) (i : Nat) : Bool :=
  match (b.at? i).bind Rule.style? with
  | some s => s.key == key
  | none => false

/-- Add a style rule at the end. An earlier rule with the same selectors and properties is taken
out, because the new one overrides it. -/
def pushStyle (b : Built) (s : Style) : Built :=
  let i := b.rules.length
  let b := b.push s.toRule
  if !s.rules.isEmpty then b
  else
    let key := s.key
    match if i = 0 then none else b.keys.find? fun (k, j) => k == key && b.hasKey key j with
    | some (_, j) =>
      let b := b.setAt j .removed
      { b with keys := (key, i) :: b.keys.filter fun (k, l) => !(k == key && l == j) }
    | none => { b with keys := (key, i) :: b.keys }

/-- Add rules at the end. -/
def pushAll (b : Built) (rs : List Rule) : Built := rs.foldl push b

/-- Replace the first rule that a test selects, or add it at the end. -/
def replaceOr (b : Built) (test : Rule → Bool) (r : Rule) : Built :=
  match b.rules.findIdx? test with
  | some i => { b with rules := b.rules.set i r }
  | none => b.push r

/-- Add a rule with rules in it unless nothing is left in it. -/
def pushUnlessEmpty (make : List Rule → Rule) (b : Built) (rules : List Rule) : Built :=
  if rules.isEmpty then b else b.push (make rules)

/-- Add `@media` unless nothing is left in it or it holds nowhere. -/
def pushMedia (targets : Option Browsers) (queries : List MediaQuery) (b : Built)
    (rules : List Rule) : Built :=
  if !queries.isEmpty && queries.all MediaQuery.neverMatches then b
  else b.pushUnlessEmpty (.media (spellMedia targets queries)) rules

end Built

/-! ## Selectors that some targets do not know -/

/-- Divide the selectors of a style rule for the targets: those of the rule itself, and those
that need rules of their own, since a target that does not know one drops the whole rule. -/
def divideSelectors (targets : Option Browsers) (ss : List Selector) :
    List Selector × List Selector :=
  if ss.length ≤ 1 || targets.isNone || listIsKnown targets ss then (ss, [])
  else if Feature.isSelector.isUsable targets && !ss.any (·.any Part.isPseudoElement) &&
      ss.all (fun s => Selector.specificity s == Selector.specificity (ss.headD [])) then
    ([[.choice .is ss]], [])
  else (ss.filter (listIsKnown targets [·]), ss.filter (!listIsKnown targets [·]))

/-- The style rule of some selectors alone, with the declarations and rules of another one. -/
def Style.withSelectors (goal : Goal) (s : Style) (ss : List Selector) : Style :=
  let (selectors, spellings) := spellSelectors goal.targets ss
  { s with selectors, spellings }

/-- The query for browsers that know the colours of a level. -/
def ColorLevel.query (l : ColorLevel) : SupportsQuery :=
  .test (.declaration (.known .color) (match l with
    | .rgb | .p3 => "color(display-p3 0 0 0)"
    | .lab | .oklab => "lab(0% 0 0)"))

/-- The support queries with the declarations for browsers that know more colours. -/
def Style.upgraded (us : List Upgrade) (s : Style) : List Rule :=
  us.map fun u => .supports u.level.query [.style s.selectors u.block [] .standard]

/-- Add a style rule whose declarations and nested rules are in normal form. It is followed by the
declarations for browsers that know more colours, and by rules for those of its selectors that
some targets do not know; rules nested in it come last. -/
def Built.addStyle (goal : Goal) (b : Built) (ss : List Selector) (block : Block)
    (rules : List Rule) : Built :=
  let upgrades := b.upgrades
  let b := { b with upgrades := [] }
  let (own, others) := divideSelectors goal.targets ss
  let style := (Style.mk [] block rules .none).withSelectors goal own
  let merged := b.merge? goal style
  let (b, style) := merged.getD (b, style)
  let above := style.upgraded upgrades
  let alone := others.map fun s => style.withSelectors goal [s]
  let divides := !style.rules.isEmpty && !style.selectors.isEmpty &&
    !(above.isEmpty && alone.isEmpty)
  let nested : List Rule := if divides then [{ style with block := {} }.toRule] else []
  let style := if divides then { style with rules := [] } else style
  let b := if merged.isSome || style.isEmpty then b else b.pushStyle style
  (b.pushAll above).pushAll
    ((alone.flatMap fun s => (if s.isEmpty then [] else [s.toRule]) ++ s.upgraded upgrades) ++
      nested)

/-! ## Keyframes -/

/-- A keyframe in normal form. -/
def Keyframe.normalize (goal : Goal) (f : Keyframe) : Keyframe :=
  { f with block := (f.block.normalize goal .keyframe []).1 }

/-- The levels in which an audience needs the colours of a value that is not understood. -/
def Declaration.rawLevels (for_ : Audience) : Declaration → ColorLevels
  | .custom _ v | .unread _ v => Raw.levels for_ v
  | _ => {}

/-- A declaration whose value, if it is not understood, is lowered to a level. -/
def Declaration.lowered (l : ColorLevel) : Declaration → Declaration
  | .custom n v => .custom n (Raw.lowered l v)
  | .unread p v => .unread p (Raw.lowered l v)
  | d => d

/-- A keyframe with its values lowered to a level. -/
def Keyframe.lowered (l : ColorLevel) (f : Keyframe) : Keyframe :=
  { f with block := { f.block with normal := f.block.normal.map (Declaration.lowered l) } }

/-- A keyframe as it stands in a support query, with its values lowered to a level. -/
def Keyframe.upgraded (l : ColorLevel) (f : Keyframe) : Keyframe :=
  { f with block := { normal := f.block.normal.map (Declaration.lowered l) } }

/-- Keyframes in the lowest level of colours that the audience needs, and those in further
levels. -/
def keyframesFallbacks (for_ : Audience) (frames : List Keyframe) :
    List Keyframe × List (ColorLevel × List Keyframe) :=
  let declarations := frames.flatMap (·.block.normal)
  let needed : ColorLevels :=
    declarations.foldl (fun found d => found.union (d.rawLevels for_)) {}
  let more := needed.dropLowest
  let lab := more.lab || !(needed.lowest? = none || needed.lowest? = some .lab)
  let at_ (l : ColorLevel) : ColorLevel × List Keyframe := (l, frames.map (Keyframe.upgraded l))
  ((needed.lowest?.map fun l => frames.map (Keyframe.lowered l)).getD frames,
    (if more.p3 then [at_ .p3] else []) ++ (if lab then [at_ .lab] else []))

/-- Add a `@keyframes` block: it replaces an earlier one of its name and spellings, and joins an
equal one of other spellings. -/
def Built.addKeyframes (goal : Goal) (b : Built) (name : KeyframesName) (q : Prefixes)
    (frames : List Keyframe) : Built :=
  let frames := frames.map (Keyframe.normalize goal)
  let spell (q : Prefixes) : Prefixes := q.forTargets .animation goal.targets
  let isNamed : Rule → Bool
    | .keyframes n _ _ => n == name
    | _ => false
  let new : Built :=
    let (lowest, more) := keyframesFallbacks goal.toAudience frames
    (b.push (.keyframes name (spell q) lowest)).pushAll (more.map fun (l, frames) =>
      .supports l.query [.keyframes name (spell q) frames])
  match b.rules.findIdx? isNamed with
  | some i =>
    match b.rules[i]? with
    | some (.keyframes _ old oldFrames) =>
      if old = q then { b with rules := b.rules.set i (.keyframes name q frames) }
      else if oldFrames == frames then
        { b with rules := b.rules.set i (.keyframes name (spell (old.union q)) frames) }
      else new
    | _ => new
  | none => new

/-! ## Layer blocks -/

/-- Whether a rule is the block of a layer. -/
def isLayerBlock (name : LayerName) : Rule → Bool
  | .layer (some n) _ => n == name
  | _ => false

/-- Whether a rule is an import. -/
def Rule.isImport : Rule → Bool
  | .import_ _ => true
  | _ => false

/-- The block of a layer behind the last import, in a list with the latest rule first. -/
def findLayer (name : LayerName) (rules : List Rule) : Option Nat :=
  (rules.takeWhile fun r => !r.isImport).findIdx? (isLayerBlock name)

/-- Add the block of a layer: its rules go behind those of an earlier block of the layer. -/
def Built.addLayer (b : Built) (name : LayerName) (rules : List Rule) : Built :=
  match findLayer name b.rules with
  | some i =>
    match b.rules[i]? with
    | some (.layer n old) => { b with rules := b.rules.set i (.layer n (old ++ rules)) }
    | _ => b
  | none => b.push (.layer (some name) rules)

/-- Declare a layer: an empty block holds its place. -/
def Built.declareLayer (b : Built) (name : LayerName) : Built :=
  match findLayer name b.rules with
  | some _ => b
  | none => b.push (.layer (some name) [])

end StyleBuild.Css
