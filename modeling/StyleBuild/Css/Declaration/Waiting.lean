import StyleBuild.Css.Declaration.Parser
import StyleBuild.Css.Fallback
import StyleBuild.Text.NameSet

/-!
# Waiting values

The values of some properties wait for the end of their block, so that a later value replaces an
earlier one. A value is released before the end where both have to stay: the later one is not known
to all targets, or the two stand for different spellings.
-/

namespace StyleBuild.Css

/-- What the declarations of a rule are normalised for. -/
structure Goal extends Audience where
  unused : NameSet := .empty
  deriving DecidableEq, Repr, Inhabited

namespace Goal

/-- Whether all targets know what needs some features. -/
def knows (goal : Goal) (needs : List Feature) : Bool := Feature.areUsable goal.targets needs

end Goal

/-! ## Spellings -/

/-- A value that waits, in the spellings in which it is given. -/
abbrev Spelled (α : Type) := Option (α × Prefixes)

/-- Whether a set of spellings is part of another. -/
def Prefixes.subset (a b : Prefixes) : Bool := a.inter b == a

/-- Put a value behind one that waits, and give what is released: the earlier value, if it is
another one and the spelling of the later is new. -/
def Spelled.put {α : Type} (same : α → α → Bool) (w : Spelled α) (v : α) (p : Prefixes) :
    Spelled α × Spelled α :=
  match w with
  | some (old, q) =>
    if !same old v && !p.subset q then (some (v, p), w) else (some (v, q.union p), none)
  | none => (some (v, p), none)

/-- The declaration of a value in the spellings that targets need. -/
def Spelled.release {α : Type} (goal : Goal) (f : Prefixed) (make : α → Prefixes → Declaration) :
    Spelled α → List Declaration
  | some (v, p) => [make v (p.forTargets f goal.targets)]
  | none => []

/-! ## Order -/

/-- The orders that wait: that of the standard and those of the two drafts before it. -/
structure WaitingOrder where
  group : Spelled Int := none
  flex : Option Int := none
  order : Spelled Int := none
  deriving BEq, Repr, Inhabited

namespace WaitingOrder

/-- The declarations of an order for targets: those that know a draft only have its property, and
one of them is no spelling of the standard. -/
def respell (goal : Goal) (v : Int) (p : Prefixes) : List Declaration :=
  let q := p.forTargets .order goal.targets
  let drafts : Prefixes := match goal.targets with
    | some bs => { webkit := needsOldFlex bs, moz := q.moz }
    | none => .none
  (if q.plain && !drafts.isEmpty then [.ordinalGroup v drafts] else []) ++
    (if q.ms then [.flexOrder v] else []) ++ [.order v { q with ms := false, moz := false }]

/-- The declarations that release the orders. -/
def release (goal : Goal) (w : WaitingOrder) : List Declaration :=
  (match w.group with
   | some (v, p) => [.ordinalGroup v p]
   | none => []) ++ (w.flex.map .flexOrder).toList ++
    (match w.order with
     | some (v, p) => respell goal v p
     | none => [])

/-- Take an order of the first draft, and give what is released. -/
def takeGroup (w : WaitingOrder) (v : Int) (p : Prefixes) : WaitingOrder × WaitingOrder :=
  match w.group.put (· == ·) v p with
  | (group, none) => ({ w with group }, {})
  | (group, some _) => ({ group }, w)

/-- Take an order, and give what is released. For targets it replaces those of the drafts. -/
def take (goal : Goal) (w : WaitingOrder) (v : Int) (p : Prefixes) : WaitingOrder × WaitingOrder :=
  let w := if goal.targets.isSome then { w with group := none, flex := none } else w
  match w.order.put (· == ·) v p with
  | (order, none) => ({ w with order }, {})
  | (order, some _) => ({ order }, w)

end WaitingOrder

/-! ## Sides -/

/-- The distances of sides that wait. -/
structure WaitingSides where
  top : Option Side := none
  right : Option Side := none
  bottom : Option Side := none
  left : Option Side := none
  deriving BEq, Repr, Inhabited

namespace WaitingSides

/-- The distance that waits at a side. -/
def side (w : WaitingSides) : Edge → Option Side
  | .top => w.top
  | .right => w.right
  | .bottom => w.bottom
  | .left => w.left

/-- Put a distance at a side. -/
def put (w : WaitingSides) (v : Side) : Edge → WaitingSides
  | .top => { w with top := some v }
  | .right => { w with right := some v }
  | .bottom => { w with bottom := some v }
  | .left => { w with left := some v }

/-- The declarations that release the distances: a single one if all sides have one. -/
def release (layer : BoxLayer) (w : WaitingSides) : List Declaration :=
  match w.top, w.right, w.bottom, w.left with
  | some t, some r, some b, some l => [.sides layer ⟨t, r, b, l⟩]
  | t, r, b, l =>
    (t.map (.side layer .top)).toList ++ (b.map (.side layer .bottom)).toList ++
      (l.map (.side layer .left)).toList ++ (r.map (.side layer .right)).toList

/-- Whether a distance must not replace the one that waits at a side. -/
def keeps (goal : Goal) (w : WaitingSides) (e : Edge) (v : Side) : Bool :=
  (w.side e).isSome && !goal.knows v.needs

/-- Take the distance of one side, and give what is released. -/
def takeSide (goal : Goal) (layer : BoxLayer) (w : WaitingSides) (e : Edge) (v : Side) :
    WaitingSides × List Declaration :=
  if w.keeps goal e v then ({ : WaitingSides }.put v e, w.release layer) else (w.put v e, [])

/-- Take the distances of all sides, and give what is released. -/
def takeAll (goal : Goal) (layer : BoxLayer) (w : WaitingSides) (s : Sides) :
    WaitingSides × List Declaration :=
  let all : WaitingSides := ⟨some s.top, some s.right, some s.bottom, some s.left⟩
  if [Edge.top, .right, .bottom, .left].any fun e => w.keeps goal e (s.side e) then
    (all, w.release layer)
  else (all, [])

end WaitingSides

/-! ## Values that replace each other -/

/-- Put a value behind one that waits, and give what is released: the earlier value, if it is
another one and the later is not known to all targets. -/
def replaceKnown {α : Type} [BEq α] (goal : Goal) (needs : α → List Feature) (w : Option α)
    (v : α) : Option α × Option α :=
  match w with
  | some old => if old != v && !goal.knows (needs v) then (some v, w) else (some v, none)
  | none => (some v, none)

/-! ## Font families -/

/-- The first fonts of systems, in the order in which they are tried. -/
def systemFonts : List String :=
  ["-apple-system", "BlinkMacSystemFont", "Segoe UI", "Roboto", "Noto Sans", "Ubuntu",
   "Cantarell", "Helvetica Neue"]

/-- Font families with the fonts of systems behind the first `system-ui`. -/
def expandSystemFont : List Family → List Family
  | [] => []
  | f :: fs =>
    if f = .generic "system-ui" then f :: systemFonts.map .named ++ fs
    else f :: expandSystemFont fs

/-- Font families without repetitions; where the targets lack the font of the system, those of
systems stand behind it if `expands` says so. -/
def normalFamilies (goal : Goal) (expands : Bool) (fs : List Family) : List Family :=
  (if expands && goal.lacks .systemUiFont then expandSystemFont fs else fs).eraseDups

/-! ## Animations -/

/-- Animations that wait, and their timelines. -/
structure WaitingAnimations where
  items : Spelled (List Animation) := none
  timelines : Option (List Timeline) := none
  deriving BEq, Repr, Inhabited

namespace WaitingAnimations

/-- Take animations, and give what waited before if it is released. The timelines are always
those of the later animations. -/
def take (w : WaitingAnimations) (as : List Animation) (p : Prefixes) :
    WaitingAnimations × WaitingAnimations :=
  let (items, out) := w.items.put (· == ·) (as.map Animation.withoutTimeline) p
  (⟨items, some (as.map Animation.timeline)⟩, if out.isSome then w else {})

/-- The declarations that release animations. The timelines get a declaration of their own where
they cannot stand with the rest in all spellings and for all targets. -/
def release (goal : Goal) (w : WaitingAnimations) : List Declaration :=
  match w.items with
  | none => (w.timelines.map .animationTimeline).toList
  | some (as, p) =>
    let spell (as : List Animation) : Declaration :=
      .animation as (p.forTargets .animation goal.targets)
    match w.timelines with
    | none => [spell as]
    | some ts =>
      if ts.all (· == .auto) then [spell as]
      else if p == .standard && Feature.animationTimelines.isUsable goal.targets &&
          ts.length == as.length then
        [spell (as.zipWith (fun a t => { a with timeline := t }) ts)]
      else [spell as, .animationTimeline ts]

end WaitingAnimations

/-- The value of `animation` where it is not understood: what can only be the name of an animation
is written as one. -/
def nameAnimations (ps : Raw) : Raw :=
  let opensCall : RawPiece → Bool
    | .token (.opening (.function _)) | .openColor _ _ | .openPair => true
    | _ => false
  go opensCall 0 ps
where
  /-- Go through the pieces; `hidden` counts the open brackets of a function. -/
  go (hides : RawPiece → Bool) : Nat → Raw → Raw
    | _, [] => []
    | hidden, p :: ps =>
      (match hidden, p with
       | 0, .token (.quoted t) =>
         .token (if Animation.quotedNames.contains t.toLower then .quoted t else .ident t)
       | _, p => p) :: go hides (p.hiddenBehind hides hidden) ps

/-! ## Display types -/

/-- A display type that waits, and the other spellings of it that stand before. -/
structure WaitingDisplay where
  value : Option Display := none
  earlier : List Display := []
  deriving BEq, Repr, Inhabited

namespace WaitingDisplay

/-- Take a display type. -/
def take (goal : Goal) (w : WaitingDisplay) (d : Display) : WaitingDisplay :=
  match w.value with
  | none => { w with value := some d }
  | some old =>
    if old.isRespelled d then
      if goal.targets.isSome && d.isStandardFlex then ⟨some d, []⟩
      else if goal.targets.isNone || !old.isStandardFlex then ⟨some d, w.earlier ++ [old]⟩
      else { w with value := some d }
    else { w with value := some d }

/-- The declarations that release a display type. -/
def release (goal : Goal) (w : WaitingDisplay) : List Declaration :=
  match w.value with
  | none => []
  | some d => (w.earlier ++ d.spellings goal.targets).map .display

end WaitingDisplay

end StyleBuild.Css
