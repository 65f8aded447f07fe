import StyleBuild.Css.Declaration.Waiting

/-!
# The normal form of declarations

`Block.normalize` removes overridden declarations, adds vendor spellings and gives colours that
some targets lack in lower levels. Declarations of some properties wait while a block is read and
are put at its end, in the fixed order of the fields of `Gathered`; the others stay at their
places.
-/

namespace StyleBuild.Css

/-- Where a block stands: in a rule that can be followed by a support query, in a keyframe, or in a
rule that takes in the declarations of another one. -/
inductive BlockPlace where
  | style
  | keyframe
  | merged
  deriving DecidableEq, Repr, Inhabited

/-- Declarations for the browsers that know the colours of a level. -/
structure Upgrade where
  level : ColorLevel
  block : Block
  deriving BEq, Repr, Inhabited

/-- Add a declaration to those of a level. -/
def addUpgrade (isImportant : Bool) (l : ColorLevel) (d : Declaration) :
    List Upgrade → List Upgrade
  | [] => [⟨l, Block.push {} d isImportant⟩]
  | u :: us =>
    if u.level = l then { u with block := u.block.push d isImportant } :: us
    else u :: addUpgrade isImportant l d us

/-- The declarations put in place so far, those that wait, and those that take the place of some
for browsers that know more colours. -/
structure Gathered where
  placed : List Declaration := []
  /-- The place of the last declaration of `color`. -/
  color : Option Nat := none
  order : WaitingOrder := {}
  margin : WaitingSides := {}
  padding : WaitingSides := {}
  family : Option (List Family) := none
  /-- Whether font families have been released before the end. -/
  familyReleased : Bool := false
  marker : Option Marker := none
  animation : WaitingAnimations := {}
  display : WaitingDisplay := {}
  transform : Spelled (List Transform) := none
  upgrades : List (ColorLevel × Declaration) := []
  deriving BEq, Repr, Inhabited

namespace Gathered

/-- Put declarations in place. -/
def place (g : Gathered) (ds : List Declaration) : Gathered := { g with placed := g.placed ++ ds }

/-! ## Releasing -/

/-- Release the orders. -/
def releaseOrder (goal : Goal) (g : Gathered) : Gathered :=
  { g.place (g.order.release goal) with order := {} }

/-- Release the sides of a layer. -/
def releaseSides (layer : BoxLayer) (g : Gathered) : Gathered :=
  match layer with
  | .margin => { g.place (g.margin.release .margin) with margin := {} }
  | .padding => { g.place (g.padding.release .padding) with padding := {} }

/-- Release the font families. -/
def releaseFamily (goal : Goal) (g : Gathered) : Gathered :=
  match g.family with
  | none => g
  | some fs =>
    { g.place [.fontFamily (normalFamilies goal (!g.familyReleased) fs)] with
      family := none, familyReleased := true }

/-- Release the list marker. -/
def releaseMarker (g : Gathered) : Gathered :=
  { g.place (g.marker.map .listStyleType).toList with marker := none }

/-- Release the animations. -/
def releaseAnimation (goal : Goal) (g : Gathered) : Gathered :=
  { g.place (g.animation.release goal) with animation := {} }

/-- Release the display type. -/
def releaseDisplay (goal : Goal) (g : Gathered) : Gathered :=
  { g.place (g.display.release goal) with display := {} }

/-- Release the transformations. -/
def releaseTransform (goal : Goal) (g : Gathered) : Gathered :=
  { g.place (g.transform.release goal .transform .transform) with transform := none }

/-! ## Selection -/

/-- Replace the first declaration in place that a test selects, or add a new one. -/
def replaceFirst (test : Declaration → Bool) (d : Declaration) : List Declaration → List Declaration
  | [] => [d]
  | x :: xs => if test x then d :: xs else x :: replaceFirst test d xs

/-- Replace the last declaration in place that a test selects. -/
def replaceLast (test : Declaration → Bool) (d : Declaration) (xs : List Declaration) :
    List Declaration :=
  (replaceFirst test d xs.reverse).reverse

/-- The last selection among the declarations in place. -/
def lastSelection? (g : Gathered) : Option (String × Prefixes) :=
  g.placed.foldl (fun found d => match d with
    | .userSelect k p => some (k, p)
    | _ => found) none

/-- Whether a declaration is one of selection. -/
def isSelection : Declaration → Bool
  | .userSelect _ _ => true
  | _ => false

/-- Take a declaration of selection: it joins the last one if the value is the same or the
spelling is there already. -/
def takeSelection (goal : Goal) (g : Gathered) (k : String) (p : Prefixes) : Gathered :=
  match g.lastSelection? with
  | some (old, q) =>
    if old = k ∨ p.subset q then
      let all := (q.union p).forTargets .userSelect goal.targets
      { g with placed := replaceLast isSelection (.userSelect k all) g.placed }
    else g.place [.userSelect k (p.forTargets .userSelect goal.targets)]
  | none => g.place [.userSelect k (p.forTargets .userSelect goal.targets)]

/-! ## Colours -/

/-- Put a declaration of `color` at the place of the last one, or at the end. -/
def putColor (g : Gathered) (d : Declaration) : Gathered :=
  match g.color with
  | some i => { g with placed := g.placed.set i d }
  | none => { g.place [d] with color := some g.placed.length }

/-- Take a colour. The first one comes with its fallbacks; a later one takes its place, unless not
all targets know it. -/
def takeColor (goal : Goal) (g : Gathered) (c : Color) : Gathered :=
  match g.color with
  | none =>
    let ds := (c.fallbacks goal.toAudience).map Declaration.color
    { g.place ds with color := some (g.placed.length + ds.length - 1) }
  | some _ =>
    if goal.knows c.needs then g.putColor (.color c)
    else { g.place [.color c] with color := some g.placed.length }

/-- A raw value in the lowest level of colours that the audience needs; the other levels are
noted where a support query can hold them. -/
def lower (goal : Goal) (position : BlockPlace) (make : Raw → Declaration) (g : Gathered)
    (v : Raw) : Gathered × Declaration :=
  let (v, more) := Raw.fallbacks goal.toAudience v
  (if position = .style then
    { g with upgrades := g.upgrades ++ more.map fun (l, v) => (l, make v) }
   else g, make v)

/-- Take a custom property: it replaces the one of its name. -/
def takeCustom (goal : Goal) (position : BlockPlace) (g : Gathered) (name : String) (v : Raw) :
    Gathered :=
  if g.placed.contains (.custom name v) then g
  else
    let (g, d) :=
      if position = .keyframe then (g, .custom name v) else g.lower goal position (.custom name) v
    { g with placed := replaceFirst (fun x => x.property == .custom name) d g.placed }

/-- A value that is not understood, in the lowest level of colours if a support query can hold the
others. -/
def lowerUnread (goal : Goal) (position : BlockPlace) (g : Gathered) (q : Property) (v : Raw) :
    Gathered × Declaration :=
  if position = .style then g.lower goal position (.unread q) v else (g, .unread q v)

/-! ## Taking declarations -/

/-- Take a declaration whose value is not understood: what waits for its property is released. -/
def takeUnread (goal : Goal) (position : BlockPlace) (g : Gathered) (q : Property) (v : Raw) :
    Gathered :=
  let spelled : Declaration := .unread (q.forTargets goal.targets) v
  match q with
  | .order _ | .flexOrder | .ordinalGroup _ => (g.releaseOrder goal).place [.unread q v]
  | .sides l | .side l _ => (g.releaseSides l).place [spelled]
  | .fontFamily => { (g.releaseFamily goal).place [spelled] with familyReleased := true }
  | .listStyleType =>
    let (g, d) := g.releaseMarker.lowerUnread goal position q v
    g.place [d]
  | .animation _ =>
    (g.releaseAnimation goal).place [.unread (q.forTargets goal.targets) (nameAnimations v)]
  | .animationTimeline => (g.releaseAnimation goal).place [spelled]
  | .display => (g.releaseDisplay goal).place [spelled]
  | .transform _ => (g.releaseTransform goal).place [spelled]
  | .color =>
    let (g, d) := g.lowerUnread goal position q v
    g.putColor d
  | .userSelect _ | .zIndex | .opacity => g.place [spelled]

/-- Take one declaration. -/
def take (goal : Goal) (position : BlockPlace) (g : Gathered) (d : Declaration) : Gathered :=
  match d with
  | .order v p =>
    let (w, out) := g.order.take goal v p
    { g.place (out.release goal) with order := w }
  | .ordinalGroup v p =>
    let (w, out) := g.order.takeGroup v p
    { g.place (out.release goal) with order := w }
  | .flexOrder v => { g with order := { g.order with flex := some v } }
  | .sides layer s =>
    match layer with
    | .margin =>
      let (w, out) := g.margin.takeAll goal layer s
      { g.place out with margin := w }
    | .padding =>
      let (w, out) := g.padding.takeAll goal layer s
      { g.place out with padding := w }
  | .side layer e v =>
    match layer with
    | .margin =>
      let (w, out) := g.margin.takeSide goal layer e v
      { g.place out with margin := w }
    | .padding =>
      let (w, out) := g.padding.takeSide goal layer e v
      { g.place out with padding := w }
  | .fontFamily fs =>
    let (w, out) := replaceKnown goal (fun fs => fs.flatMap Family.needs) g.family fs
    { if out.isSome then g.releaseFamily goal else g with family := w }
  | .listStyleType m =>
    let (w, out) := replaceKnown goal Marker.needs g.marker m
    { g.place (out.map .listStyleType).toList with marker := w }
  | .animation as p =>
    let (w, out) := g.animation.take as p
    { g.place (out.release goal) with animation := w }
  | .animationTimeline ts => { g with animation := { g.animation with timelines := some ts } }
  | .display v => { g with display := g.display.take goal v }
  | .transform fs p =>
    let (w, out) := g.transform.put (· == ·) fs p
    { g.place (out.release goal .transform .transform) with transform := w }
  | .color c => g.takeColor goal c
  | .userSelect k p => g.takeSelection goal k p
  | .custom name v =>
    if goal.unused.contains name then g
    else if isCustomName name then g.takeCustom goal position name v
    else g.place [d]
  | .unread q v => g.takeUnread goal position q v
  | .zIndex _ | .opacity _ => g.place [d]

/-- The declarations in place, followed by those that wait. -/
def finish (goal : Goal) (g : Gathered) : List Declaration :=
  (((((((g.releaseOrder goal).releaseSides .margin).releaseSides .padding).releaseFamily
    goal).releaseMarker.releaseAnimation goal).releaseDisplay goal).releaseTransform goal).placed

end Gathered

/-- The normal form of a list of declarations of one importance, and the declarations for browsers
that know more colours. -/
def normalizeDeclarations (goal : Goal) (position : BlockPlace) (ds : List Declaration) :
    List Declaration × List (ColorLevel × Declaration) :=
  let g := ds.foldl (Gathered.take goal position) {}
  (g.finish goal, g.upgrades)

/-- The normal form of a block, and the declarations for browsers that know more colours, behind
those that there were before. -/
def Block.normalize (goal : Goal) (position : BlockPlace) (b : Block) (before : List Upgrade) :
    Block × List Upgrade :=
  let (important, above) := normalizeDeclarations goal position b.important
  let (normal, below) := normalizeDeclarations goal position b.normal
  let add (isImportant : Bool) (us : List Upgrade) (u : ColorLevel × Declaration) : List Upgrade :=
    addUpgrade isImportant u.1 u.2 us
  (⟨normal, important⟩, below.foldl (add false) (above.foldl (add true) before))

end StyleBuild.Css
