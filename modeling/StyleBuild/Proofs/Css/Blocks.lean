import Mathlib.Data.List.Basic
import StyleBuild.Proofs.Css.Declared

/-!
# What a block declares in normal form

The normal form of a block declares what the block declares, up to which known properties it
declares, and less the custom properties that nothing uses (`Block.declares_normalize_iff`): a
declaration that was taken is in place or waits (`has_take_iff`), and those that wait are released
at the end.
-/

namespace StyleBuild.Css

variable {goal : Goal} {position : BlockPlace} {d : Declaration} {g : Gathered}

/-! ## Declarations that wait -/

/-- The declarations that wait, in the order in which they are released at the end. -/
def Gathered.pending (goal : Goal) (g : Gathered) : List Declaration :=
  g.order.release goal ++ g.margin.release .margin ++ g.padding.release .padding ++
    (g.family.map fun fs => .fontFamily (normalFamilies goal (!g.familyReleased) fs)).toList ++
    (g.marker.map .listStyleType).toList ++ g.animation.release goal ++ g.display.release goal ++
    g.transform.release goal .transform .transform

theorem allKnown_pending (g : Gathered) : AllKnown (g.pending goal) :=
  ((((((((allKnown_order _).append (allKnown_sides _ _)).append (allKnown_sides _ _)).append
    (.toList (fun _ => rfl) _)).append (.toList (fun _ => rfl) _)).append
    (allKnown_animation _)).append (allKnown_display _)).append
    (allKnown_spelled (fun _ _ => rfl) _))

theorem finish_eq (g : Gathered) : g.finish goal = g.placed ++ g.pending goal := by
  unfold Gathered.finish Gathered.pending Gathered.releaseFamily
  cases h : g.family with
  | none =>
    simp [Gathered.releaseOrder, Gathered.releaseSides, Gathered.releaseMarker,
      Gathered.releaseAnimation, Gathered.releaseDisplay, Gathered.releaseTransform,
      Gathered.place, h]
  | some fs =>
    simp [Gathered.releaseOrder, Gathered.releaseSides, Gathered.releaseMarker,
      Gathered.releaseAnimation, Gathered.releaseDisplay, Gathered.releaseTransform,
      Gathered.place, h]

theorem pending_eq_nil_iff :
    g.pending goal = [] ↔ g.order.release goal = [] ∧ g.margin.release .margin = [] ∧
      g.padding.release .padding = [] ∧ g.family = none ∧ g.marker = none ∧
      g.animation.release goal = [] ∧ g.display.release goal = [] ∧
      g.transform.release goal .transform .transform = [] := by
  simp only [Gathered.pending, List.append_eq_nil_iff, Option.toList_eq_nil_iff,
    Option.map_eq_none_iff, and_assoc]

theorem put_ne_none {α : Type} (same : α → α → Bool) (w : Spelled α) (v : α) (p : Prefixes) :
    (w.put same v p).1 ≠ none := by
  unfold Spelled.put
  split
  · split <;> simp
  · simp

theorem replaceKnown_ne_none {α : Type} [BEq α] (needs : α → List Feature) (w : Option α) (v : α) :
    (replaceKnown goal needs w v).1 ≠ none := by
  unfold replaceKnown
  split
  · split <;> simp
  · simp

theorem release_spelled_ne_nil {α : Type} {f : Prefixed} {make : α → Prefixes → Declaration}
    {w : Spelled α} (h : w ≠ none) : w.release goal f make ≠ [] := by
  unfold Spelled.release
  split
  · simp
  · exact absurd rfl h

theorem release_order_ne_nil {w : WaitingOrder} (h : w.order ≠ none) : w.release goal ≠ [] := by
  obtain ⟨group, flex, order⟩ := w
  cases order with
  | none => exact absurd rfl h
  | some u => simp [WaitingOrder.release, WaitingOrder.respell]

theorem release_group_ne_nil {w : WaitingOrder} (h : w.group ≠ none) : w.release goal ≠ [] := by
  obtain ⟨group, flex, order⟩ := w
  cases group with
  | none => exact absurd rfl h
  | some u => simp [WaitingOrder.release]

theorem order_take_ne_none (w : WaitingOrder) (v : Int) (p : Prefixes) :
    (w.take goal v p).1.order ≠ none := by
  unfold WaitingOrder.take
  dsimp only
  split
  · next hput => exact fun h => put_ne_none _ _ _ _ ((congrArg Prod.fst hput).trans h)
  · next hput => exact fun h => put_ne_none _ _ _ _ ((congrArg Prod.fst hput).trans h)

theorem group_takeGroup_ne_none (w : WaitingOrder) (v : Int) (p : Prefixes) :
    (w.takeGroup v p).1.group ≠ none := by
  unfold WaitingOrder.takeGroup
  split
  · next hput => exact fun h => put_ne_none _ _ _ _ ((congrArg Prod.fst hput).trans h)
  · next hput => exact fun h => put_ne_none _ _ _ _ ((congrArg Prod.fst hput).trans h)

theorem release_sides_ne_nil {layer : BoxLayer} {w : WaitingSides} {e : Edge}
    (h : w.side e ≠ none) : w.release layer ≠ [] := by
  obtain ⟨t, r, b, l⟩ := w
  unfold WaitingSides.release
  split
  · simp
  · cases e <;> simp_all [WaitingSides.side]

theorem side_put_ne_none (w : WaitingSides) (e : Edge) (v : Side) : (w.put v e).side e ≠ none := by
  cases e <;> exact nofun

theorem takeSide_ne_none (layer : BoxLayer) (w : WaitingSides) (e : Edge) (v : Side) :
    (w.takeSide goal layer e v).1.side e ≠ none := by
  unfold WaitingSides.takeSide
  split
  · exact side_put_ne_none _ e v
  · exact side_put_ne_none _ e v

theorem takeAll_ne_none (layer : BoxLayer) (w : WaitingSides) (s : Sides) :
    (w.takeAll goal layer s).1.side .top ≠ none := by
  unfold WaitingSides.takeAll
  dsimp only
  split <;> exact nofun

theorem release_animation_ne_nil {w : WaitingAnimations} (h : w.items ≠ none ∨ w.timelines ≠ none) :
    w.release goal ≠ [] := by
  obtain ⟨items, timelines⟩ := w
  unfold WaitingAnimations.release
  dsimp only
  rcases items with _ | ⟨as, p⟩ <;> rcases timelines with _ | ts
  · simp at h
  · simp
  · simp
  · dsimp only
    split
    · simp
    · split <;> simp

theorem spellings_ne_nil (targets : Option Browsers) (v : Display) : v.spellings targets ≠ [] := by
  unfold Display.spellings
  split
  · split <;> simp
  · simp

theorem release_display_ne_nil {w : WaitingDisplay} (h : w.value ≠ none) :
    w.release goal ≠ [] := by
  unfold WaitingDisplay.release
  split
  · contradiction
  · simp [spellings_ne_nil]

theorem display_take_ne_none (w : WaitingDisplay) (v : Display) : (w.take goal v).value ≠ none := by
  unfold WaitingDisplay.take
  repeat' split
  all_goals simp

/-- A colour is put in place. -/
theorem declares_of_color_ne_none (hg : g.ColorSound) (h : g.color ≠ none) :
    Declares g.placed none := by
  obtain ⟨i, hi⟩ := Option.ne_none_iff_exists'.1 h
  rw [declares_iff]
  exact List.mem_of_getElem? (hg i hi)

theorem color_putColor_ne_none (d : Declaration) : (g.putColor d).color ≠ none := by
  unfold Gathered.putColor
  split
  · next h => simp [h]
  · simp

theorem color_takeColor_ne_none (c : Color) : (g.takeColor goal c).color ≠ none := by
  unfold Gathered.takeColor
  split
  · exact nofun
  · split
    · exact color_putColor_ne_none _
    · exact nofun

theorem declares_takeSelection (k : String) (p : Prefixes) :
    Declares (g.takeSelection goal k p).placed none := by
  unfold Gathered.takeSelection
  split
  · next old q h =>
    obtain ⟨x, hx, hs⟩ := isSelection_of_lastSelection? h
    split
    · exact (extends_replaceLast h).declares ⟨x, hx, customName?_of_isSelection hs⟩
    · exact ⟨_, List.mem_append_right _ List.mem_cons_self, rfl⟩
  · exact ⟨_, List.mem_append_right _ List.mem_cons_self, rfl⟩

theorem declares_place (hd : d.customName? = none) : Declares (g.place [d]).placed none :=
  ⟨d, List.mem_append_right _ List.mem_cons_self, hd⟩

theorem declares_takeUnread (hg : g.ColorSound) (q : Property) (v : Raw) :
    Declares (g.takeUnread goal position q v).placed none := by
  cases q with
  | color =>
    have hc : (g.lowerUnread goal position .color v).1.ColorSound :=
      colorSound_lowerUnread hg .color v
    exact declares_of_color_ne_none
      (colorSound_putColor hc (customName?_lowerUnread _ _ _ _ _)) (color_putColor_ne_none _)
  | listStyleType => exact declares_place (customName?_lowerUnread _ _ _ _ _)
  | sides l => cases l <;> exact declares_place rfl
  | side l e => cases l <;> exact declares_place rfl
  | _ => exact declares_place rfl

/-- Taking a known property places something or lets it wait. -/
theorem declares_or_pending_ne_nil (hg : g.ColorSound) (hd : d.customName? = none) :
    Declares (g.take goal position d).placed none ∨
      (g.take goal position d).pending goal ≠ [] := by
  rw [Ne, pending_eq_nil_iff]
  cases d with
  | order v p => exact .inr fun h => release_order_ne_nil (order_take_ne_none _ v p) h.1
  | ordinalGroup v p =>
    exact .inr fun h => release_group_ne_nil (group_takeGroup_ne_none _ v p) h.1
  | flexOrder v => exact .inr fun h => by simpa [Gathered.take, WaitingOrder.release] using h.1
  | sides l s =>
    cases l with
    | margin => exact .inr fun h => release_sides_ne_nil (takeAll_ne_none .margin _ s) h.2.1
    | padding => exact .inr fun h => release_sides_ne_nil (takeAll_ne_none .padding _ s) h.2.2.1
  | side l e v =>
    cases l with
    | margin => exact .inr fun h => release_sides_ne_nil (takeSide_ne_none .margin _ e v) h.2.1
    | padding => exact .inr fun h => release_sides_ne_nil (takeSide_ne_none .padding _ e v) h.2.2.1
  | fontFamily fs => exact .inr fun h => replaceKnown_ne_none _ _ fs h.2.2.2.1
  | listStyleType m => exact .inr fun h => replaceKnown_ne_none _ _ m h.2.2.2.2.1
  | animation as p =>
    exact .inr fun h => release_animation_ne_nil (.inl (put_ne_none _ _ _ p)) h.2.2.2.2.2.1
  | animationTimeline ts =>
    exact .inr fun h => release_animation_ne_nil (.inr (Option.some_ne_none ts)) h.2.2.2.2.2.1
  | display v =>
    exact .inr fun h => release_display_ne_nil (display_take_ne_none _ v) h.2.2.2.2.2.2.1
  | transform fs p =>
    exact .inr fun h => release_spelled_ne_nil (put_ne_none _ _ fs p) h.2.2.2.2.2.2.2
  | color c =>
    exact .inl (declares_of_color_ne_none (colorSound_takeColor hg c) (color_takeColor_ne_none c))
  | userSelect k p => exact .inl (declares_takeSelection k p)
  | custom name v => cases hd
  | unread q v => exact .inl (declares_takeUnread hg q v)
  | zIndex v => exact .inl (declares_place rfl)
  | opacity v => exact .inl (declares_place rfl)

/-! ## Custom properties -/

theorem customName?_eq_of_beq {d d' : Declaration} (h : (d == d') = true) :
    d.customName? = d'.customName? := by
  cases d <;> cases d' <;> try rfl
  case custom.custom n v m w =>
    have h : (n == m && v == w) = true := h
    rw [Bool.and_eq_true, beq_iff_eq] at h
    rw [Declaration.customName?, Declaration.customName?, h.1]
  all_goals cases h

theorem declares_takeCustom (name : String) (v : Raw) :
    Declares (g.takeCustom goal position name v).placed (some name) := by
  have hsame : ∀ x : Declaration, (x.property == .custom name) = true →
      x.customName? = some name := fun x h => customName?_of_property h
  have hmem : ∀ (ds : List Declaration) (test : Declaration → Bool) (d : Declaration),
      d ∈ Gathered.replaceFirst test d ds := by
    intro ds test d
    induction ds with
    | nil => exact List.mem_cons_self
    | cons x xs ih =>
      rw [Gathered.replaceFirst]
      split
      · exact List.mem_cons_self
      · exact List.mem_cons_of_mem _ ih
  unfold Gathered.takeCustom
  split
  · next h =>
    rw [List.contains_iff_exists_mem_beq] at h
    obtain ⟨x, hx, h⟩ := h
    exact ⟨x, hx, (customName?_eq_of_beq h).symm⟩
  · by_cases hp : position = .keyframe
    · rw [if_pos hp]
      exact ⟨_, hmem _ _ _, rfl⟩
    · rw [if_neg hp]
      exact ⟨_, hmem _ _ _, rfl⟩

theorem pending_takeCustom (name : String) (v : Raw) :
    (g.takeCustom goal position name v).pending goal = g.pending goal := by
  unfold Gathered.takeCustom
  split
  · rfl
  · by_cases hp : position = .keyframe
    · rw [if_pos hp]
      rfl
    · rw [if_neg hp]
      unfold Gathered.lower
      dsimp only
      split <;> rfl

/-- Custom properties do not wait. -/
theorem pending_take_custom (name : String) (v : Raw) :
    (g.take goal position (.custom name v)).pending goal = g.pending goal := by
  rw [Gathered.take]
  split
  · rfl
  · split
    · exact pending_takeCustom name v
    · rfl

/-! ## Normal forms -/

/-- Whether a goal leaves declarations of a name: known ones, and custom properties in use. -/
def Goal.leaves (goal : Goal) (name : Option String) : Bool :=
  name.all fun n => !goal.unused.contains n

/-- A declaration of a name is in place or waits. -/
def Gathered.Has (goal : Goal) (g : Gathered) (name : Option String) : Prop :=
  Declares g.placed name ∨ name = none ∧ g.pending goal ≠ []

theorem declares_take_custom {n : String} (hn : goal.leaves (some n) = true) (v : Raw) :
    Declares (g.take goal position (.custom n v)).placed (some n) := by
  have hn : ¬ goal.unused.contains n = true := by simpa [Goal.leaves] using hn
  rw [Gathered.take, if_neg hn]
  split
  · exact declares_takeCustom n v
  · exact ⟨_, List.mem_append_right _ List.mem_cons_self, rfl⟩

theorem take_of_unused {n : String} (hn : goal.leaves (some n) = false) (v : Raw) :
    g.take goal position (.custom n v) = g := by
  have hn : goal.unused.contains n = true := by simpa [Goal.leaves] using hn
  rw [Gathered.take, if_pos hn]

theorem has_take_known_iff (hg : g.ColorSound) (hd : d.customName? = none)
    {name : Option String} :
    (g.take goal position d).Has goal name ↔ g.Has goal name ∨ name = none := by
  have hext : Extends d.customName? g.placed (g.take goal position d).placed := extends_take hg d
  rw [hd] at hext
  constructor
  · rintro (h | ⟨h, -⟩)
    · exact (hext.of_declares h).imp_left .inl
    · exact .inr h
  · rintro ((h | ⟨h, -⟩) | h)
    · exact .inl (hext.declares h)
    all_goals exact h ▸ (declares_or_pending_ne_nil hg hd).imp_right fun h => ⟨rfl, h⟩

theorem has_take_custom_iff (hg : g.ColorSound) {n : String}
    (hn : goal.leaves (some n) = true) (v : Raw) {name : Option String} :
    (g.take goal position (.custom n v)).Has goal name ↔ g.Has goal name ∨ name = some n := by
  have hext : Extends (some n) g.placed (g.take goal position (.custom n v)).placed :=
    extends_take hg (.custom n v)
  rw [Gathered.Has, Gathered.Has, pending_take_custom]
  constructor
  · rintro (h | h)
    · exact (hext.of_declares h).imp_left .inl
    · exact .inl (.inr h)
  · rintro ((h | h) | rfl)
    · exact .inl (hext.declares h)
    · exact .inr h
    · exact .inl (declares_take_custom hn v)

/-- **Taking a declaration adds one of its name**, if the goal leaves it. -/
theorem has_take_iff (hg : g.ColorSound) (d : Declaration) {name : Option String} :
    (g.take goal position d).Has goal name ↔
      g.Has goal name ∨ d.customName? = name ∧ goal.leaves name = true := by
  cases hd : d.customName? with
  | none =>
    rw [has_take_known_iff hg hd]
    refine or_congr_right ⟨?_, fun h => h.1.symm⟩
    rintro rfl
    exact ⟨rfl, rfl⟩
  | some n =>
    obtain ⟨v, rfl⟩ : ∃ v, d = .custom n v := by
      cases d <;> simp_all [Declaration.customName?]
    cases hn : goal.leaves (some n) with
    | false =>
      rw [take_of_unused hn]
      refine ⟨.inl, fun h => h.elim id ?_⟩
      rintro ⟨rfl, hl⟩
      rw [hn] at hl
      cases hl
    | true =>
      rw [has_take_custom_iff hg hn]
      refine or_congr_right ⟨?_, fun h => h.1.symm⟩
      rintro rfl
      exact ⟨rfl, hn⟩

theorem has_foldl_take_iff (hg : g.ColorSound) (ds : List Declaration) {name : Option String} :
    (ds.foldl (Gathered.take goal position) g).Has goal name ↔
      g.Has goal name ∨ Declares ds name ∧ goal.leaves name = true := by
  induction ds generalizing g with
  | nil => simp [Declares]
  | cons d ds ih =>
    rw [List.foldl_cons, ih (colorSound_take hg d), has_take_iff hg]
    rw [declares_cons, or_and_right, or_assoc]

theorem declares_finish_iff {name : Option String} :
    Declares (g.finish goal) name ↔ g.Has goal name := by
  rw [finish_eq, declares_append, Gathered.Has]
  refine or_congr_right ⟨?_, ?_⟩
  · rintro ⟨d, hd, rfl⟩
    exact ⟨allKnown_pending g d hd, List.ne_nil_of_mem hd⟩
  · rintro ⟨rfl, h⟩
    obtain ⟨d, hd⟩ := List.exists_mem_of_ne_nil _ h
    exact ⟨d, hd, allKnown_pending g d hd⟩

/-- The normal form of a list of declarations declares what the list declares, as far as the goal
leaves it. -/
theorem declares_normalizeDeclarations_iff {ds : List Declaration} {name : Option String} :
    Declares (normalizeDeclarations goal position ds).1 name ↔
      Declares ds name ∧ goal.leaves name = true := by
  have hg : Gathered.ColorSound {} := nofun
  have hempty : ¬ ({} : Gathered).Has goal name := by
    rintro (⟨d, hd, -⟩ | ⟨-, h⟩)
    · cases hd
    · exact h rfl
  show Declares ((ds.foldl (Gathered.take goal position) {}).finish goal) name ↔ _
  rw [declares_finish_iff, has_foldl_take_iff hg, or_iff_right hempty]

theorem namesOf_eq_of_beq {ds es : List Declaration} (h : (ds == es) = true) :
    namesOf ds = namesOf es := by
  induction ds generalizing es with
  | nil =>
    cases es with
    | nil => rfl
    | cons e es => cases h
  | cons d ds ih =>
    cases es with
    | nil => cases h
    | cons e es =>
      rw [List.cons_beq_cons, Bool.and_eq_true] at h
      rw [namesOf_cons, namesOf_cons, customName?_eq_of_beq h.1, ih h.2]

theorem namesOf_eq_map_property (ds : List Declaration) :
    namesOf ds = (ds.map Declaration.property).map fun
      | .custom name => some name
      | .known _ => none := by
  rw [namesOf, List.map_map]
  refine List.map_congr_left fun d _ => ?_
  cases d <;> rfl

/-! ## Without targets -/

theorem lacks_eq_false {a : Audience} (h : a.targets = none) (f : Feature) : a.lacks f = false := by
  simp [Audience.lacks, h, Feature.isUsable]

theorem levels_eq_empty {a : Audience} (h : a.targets = none) (c : Color) : c.levels a = {} := by
  induction c with
  | lightDark x y hx hy => simp [Color.levels, hx, hy, ColorLevels.union]
  | placed s p q =>
    have hs : s.lackingLevel? a = none := by
      cases s <;> simp [ColorSpace.lackingLevel?, lacks_eq_false h]
    rw [Color.levels, hs]
  | _ => rfl

theorem rawLevels_eq_empty {a : Audience} (h : a.targets = none) (v : Raw) :
    Raw.levels a v = {} := by
  unfold Raw.levels
  refine List.foldl_fixed' (fun p => ?_) _
  cases p with
  | color c =>
    dsimp only
    rw [levels_eq_empty h]
    rfl
  | _ => rfl

theorem upgrades_lower (ht : goal.targets = none) (make : Raw → Declaration) (v : Raw) :
    (g.lower goal position make v).1.upgrades = g.upgrades := by
  unfold Gathered.lower Raw.fallbacks
  rw [rawLevels_eq_empty ht]
  dsimp only
  split
  · simp [ColorLevels.dropLowest, ColorLevels.lowest?]
  · rfl

theorem upgrades_lowerUnread (ht : goal.targets = none) (q : Property) (v : Raw) :
    (g.lowerUnread goal position q v).1.upgrades = g.upgrades := by
  unfold Gathered.lowerUnread
  split
  · exact upgrades_lower ht _ v
  · rfl

theorem upgrades_putColor (d : Declaration) : (g.putColor d).upgrades = g.upgrades := by
  unfold Gathered.putColor
  split <;> rfl

theorem upgrades_releaseFamily : (g.releaseFamily goal).upgrades = g.upgrades := by
  unfold Gathered.releaseFamily
  split <;> rfl

theorem upgrades_takeUnread (ht : goal.targets = none) (q : Property) (v : Raw) :
    (g.takeUnread goal position q v).upgrades = g.upgrades := by
  cases q with
  | color =>
    exact (upgrades_putColor _).trans (upgrades_lowerUnread ht .color v)
  | listStyleType => exact upgrades_lowerUnread (g := g.releaseMarker) ht .listStyleType v
  | fontFamily => exact upgrades_releaseFamily (g := g)
  | sides l => cases l <;> rfl
  | side l e => cases l <;> rfl
  | _ => rfl

theorem upgrades_takeCustom (ht : goal.targets = none) (name : String) (v : Raw) :
    (g.takeCustom goal position name v).upgrades = g.upgrades := by
  unfold Gathered.takeCustom
  split
  · rfl
  · by_cases hp : position = .keyframe
    · rw [if_pos hp]
    · rw [if_neg hp]
      exact upgrades_lower ht _ v

theorem upgrades_take (ht : goal.targets = none) (d : Declaration) :
    (g.take goal position d).upgrades = g.upgrades := by
  cases d with
  | sides l s => cases l <;> rfl
  | side l e v => cases l <;> rfl
  | fontFamily fs =>
    rw [Gathered.take]
    dsimp only
    split
    · exact upgrades_releaseFamily
    · rfl
  | color c =>
    rw [Gathered.take, Gathered.takeColor]
    split
    · rfl
    · split
      · exact upgrades_putColor _
      · rfl
  | userSelect k p =>
    rw [Gathered.take, Gathered.takeSelection]
    split
    · split <;> rfl
    · rfl
  | custom n v =>
    rw [Gathered.take]
    split
    · rfl
    · split
      · exact upgrades_takeCustom ht n v
      · rfl
  | unread q v => exact upgrades_takeUnread ht q v
  | _ => rfl

theorem upgrades_normalizeDeclarations (ht : goal.targets = none) (ds : List Declaration) :
    (normalizeDeclarations goal position ds).2 = [] := by
  have hfold : ∀ (ds : List Declaration) (g : Gathered),
      (ds.foldl (Gathered.take goal position) g).upgrades = g.upgrades := by
    intro ds
    induction ds with
    | nil => exact fun _ => rfl
    | cons d ds ih => exact fun g => (ih _).trans (upgrades_take ht d)
  exact hfold ds {}

/-! ## Goals that differ in unused names -/

namespace Block

/-- A block declares a property of a name: of a custom property, or, without a name, of some known
one. -/
def Declares (b : Block) (name : Option String) : Prop := Css.Declares b.all name

/-- **The normal form of a block declares what the block declares**, as far as the goal leaves
it. -/
theorem declares_normalize_iff {b : Block} {before : List Upgrade} {name : Option String} :
    (b.normalize goal position before).1.Declares name ↔
      b.Declares name ∧ goal.leaves name = true := by
  rw [Declares, Declares, Block.all, Block.all, declares_append, declares_append, or_and_right]
  exact or_congr declares_normalizeDeclarations_iff declares_normalizeDeclarations_iff

theorem declares_append_iff {b c : Block} {name : Option String} :
    (b.append c).Declares name ↔ b.Declares name ∨ c.Declares name := by
  simp only [Declares, Block.all, Block.append, declares_append]
  exact or_or_or_comm

theorem not_declares_empty {name : Option String} : ¬ ({} : Block).Declares name := by
  rintro ⟨d, hd, -⟩
  cases hd

theorem isEmpty_eq_false_of_declares {b : Block} {name : Option String} (h : b.Declares name) :
    b.isEmpty = false := by
  cases he : b.isEmpty with
  | false => rfl
  | true =>
    rw [Block.isEmpty, Bool.and_eq_true, List.isEmpty_iff, List.isEmpty_iff] at he
    obtain ⟨d, hd, -⟩ := h
    rw [Block.all, he.1, he.2] at hd
    cases hd

theorem exists_declares {b : Block} (h : b.isEmpty = false) : ∃ name, b.Declares name := by
  have hne : b.all ≠ [] := by
    simpa [isEmpty, all, ← Bool.not_eq_true, or_iff_not_imp_left] using h
  obtain ⟨d, hd⟩ := List.exists_mem_of_ne_nil b.all hne
  exact ⟨_, d, hd, rfl⟩

/-- Equal blocks declare the same. -/
theorem declares_iff_of_beq {b c : Block} (h : (b == c) = true) {name : Option String} :
    b.Declares name ↔ c.Declares name := by
  have h : (b.normal == c.normal && b.important == c.important) = true := h
  rw [Bool.and_eq_true] at h
  simp only [Declares, declares_iff, Block.all, namesOf_append, namesOf_eq_of_beq h.1,
    namesOf_eq_of_beq h.2]

/-- Blocks that set the same properties declare the same. -/
theorem declares_iff_of_properties {b c : Block}
    (h : b.all.map Declaration.property = c.all.map Declaration.property) {name : Option String} :
    b.Declares name ↔ c.Declares name := by
  simp only [Declares, declares_iff, namesOf_eq_map_property, h]

/-- Without targets nothing is put into support queries. -/
theorem upgrades_normalize {b : Block} {before : List Upgrade} (ht : goal.targets = none) :
    (b.normalize goal position before).2 = before := by
  simp [Block.normalize, upgrades_normalizeDeclarations ht]

end Block

end StyleBuild.Css
