import StyleBuild.Css.Declaration.Normal

/-!
# The names of the declarations in place

While a block is read, declarations are put in place one after the other. Taking a declaration adds
its name to those in place, if it changes them at all (`extends_take`): a custom property has a name
of its own, and known properties are not told apart.
-/

namespace StyleBuild.Css

/-- The name of the custom or unknown property that is declared. -/
def Declaration.customName? : Declaration → Option String
  | .custom name _ => some name
  | _ => none

/-- The custom property with a name is declared; without a name, some known property. -/
def Declares (ds : List Declaration) (name : Option String) : Prop :=
  ∃ d ∈ ds, d.customName? = name

/-- The names of declarations. -/
def namesOf (ds : List Declaration) : List (Option String) := ds.map Declaration.customName?

theorem declares_iff {ds : List Declaration} {name : Option String} :
    Declares ds name ↔ name ∈ namesOf ds := by
  simp [Declares, namesOf]

theorem declares_cons {d : Declaration} {ds : List Declaration} {name : Option String} :
    Declares (d :: ds) name ↔ d.customName? = name ∨ Declares ds name := by
  simp [Declares]

theorem declares_append {ds es : List Declaration} {name : Option String} :
    Declares (ds ++ es) name ↔ Declares ds name ∨ Declares es name := by
  simp only [Declares, List.mem_append, or_and_right, exists_or]

@[simp] theorem namesOf_nil : namesOf [] = [] := rfl

@[simp] theorem namesOf_cons (d : Declaration) (ds : List Declaration) :
    namesOf (d :: ds) = d.customName? :: namesOf ds := rfl

@[simp] theorem namesOf_append (ds es : List Declaration) :
    namesOf (ds ++ es) = namesOf ds ++ namesOf es := List.map_append

@[simp] theorem length_namesOf (ds : List Declaration) : (namesOf ds).length = ds.length :=
  List.length_map _

variable {goal : Goal} {position : BlockPlace} {d : Declaration} {g : Gathered}

/-! ## Declarations that have waited -/

/-- All declarations are of known properties. -/
def AllKnown (ds : List Declaration) : Prop := ∀ d ∈ ds, d.customName? = none

theorem AllKnown.nil : AllKnown [] := nofun

theorem AllKnown.singleton (h : d.customName? = none) : AllKnown [d] := by
  simpa [AllKnown] using h

theorem AllKnown.append {ds es : List Declaration} (hd : AllKnown ds) (he : AllKnown es) :
    AllKnown (ds ++ es) := fun d h => (List.mem_append.1 h).elim (hd d) (he d)

theorem AllKnown.map {α : Type} {make : α → Declaration} (h : ∀ v, (make v).customName? = none)
    (vs : List α) : AllKnown (vs.map make) := by
  intro d hd
  obtain ⟨v, -, rfl⟩ := List.mem_map.1 hd
  exact h v

theorem AllKnown.toList {α : Type} {make : α → Declaration} (h : ∀ v, (make v).customName? = none)
    (w : Option α) : AllKnown (w.map make).toList := by
  cases w with
  | none => exact nil
  | some v => exact singleton (h v)

theorem AllKnown.namesOf_eq {ds : List Declaration} (h : AllKnown ds) :
    namesOf ds = List.replicate ds.length none := by
  rw [List.eq_replicate_iff]
  refine ⟨length_namesOf ds, fun name hname => ?_⟩
  obtain ⟨d, hd, rfl⟩ := List.mem_map.1 hname
  exact h d hd

theorem allKnown_respell (v : Int) (p : Prefixes) : AllKnown (WaitingOrder.respell goal v p) := by
  unfold WaitingOrder.respell
  intro d hd
  grind [Declaration.customName?]

theorem allKnown_order (w : WaitingOrder) : AllKnown (w.release goal) := by
  rw [WaitingOrder.release]
  refine (AllKnown.append ?_ (.toList (fun _ => rfl) _)).append ?_
  · split
    · exact .singleton rfl
    · exact .nil
  · split
    · exact allKnown_respell _ _
    · exact .nil

theorem allKnown_sides (layer : BoxLayer) (w : WaitingSides) : AllKnown (w.release layer) := by
  rw [WaitingSides.release]
  split
  · exact .singleton rfl
  · exact (((AllKnown.toList (fun _ => rfl) _).append (.toList (fun _ => rfl) _)).append
      (.toList (fun _ => rfl) _)).append (.toList (fun _ => rfl) _)

theorem allKnown_takeAll (layer : BoxLayer) (w : WaitingSides) (s : Sides) :
    AllKnown (w.takeAll goal layer s).2 := by
  unfold WaitingSides.takeAll
  split
  · exact allKnown_sides layer w
  · exact .nil

theorem allKnown_takeSide (layer : BoxLayer) (w : WaitingSides) (e : Edge) (v : Side) :
    AllKnown (w.takeSide goal layer e v).2 := by
  rw [WaitingSides.takeSide]
  split
  · exact allKnown_sides layer w
  · exact .nil

theorem allKnown_animation (w : WaitingAnimations) : AllKnown (w.release goal) := by
  unfold WaitingAnimations.release
  split
  · exact .toList (fun _ => rfl) _
  · intro d hd
    grind [Declaration.customName?]

theorem allKnown_display (w : WaitingDisplay) : AllKnown (w.release goal) := by
  unfold WaitingDisplay.release
  split
  · exact .nil
  · exact .map (fun _ => rfl) _

theorem allKnown_spelled {α : Type} {f : Prefixed} {make : α → Prefixes → Declaration}
    (h : ∀ v p, (make v p).customName? = none) (w : Spelled α) :
    AllKnown (w.release goal f make) := by
  unfold Spelled.release
  split
  · exact .singleton (h _ _)
  · exact .nil

/-! ## Declarations in place -/

/-- The names of declarations, with more of the same name behind them. -/
def Extends (name : Option String) (ds es : List Declaration) : Prop :=
  ∃ k, namesOf es = namesOf ds ++ List.replicate k name

namespace Extends

variable {name : Option String} {as bs cs ds : List Declaration}

theorem refl (name : Option String) (ds : List Declaration) : Extends name ds ds :=
  ⟨0, by simp⟩

theorem trans (h : Extends name as bs) (h' : Extends name bs cs) : Extends name as cs := by
  obtain ⟨k, h⟩ := h
  obtain ⟨l, h'⟩ := h'
  exact ⟨k + l, by rw [h', h, List.append_assoc, List.replicate_append_replicate]⟩

theorem place_one (h : d.customName? = name) : Extends name as (as ++ [d]) :=
  ⟨1, by simp [h]⟩

theorem place_known (h : AllKnown ds) : Extends none as (as ++ ds) :=
  ⟨ds.length, by rw [namesOf_append, h.namesOf_eq]⟩

/-- Declarations of the same name as another one replace it. -/
theorem replaceFirst {test : Declaration → Bool} (h : ∀ x, test x = true → x.customName? = name)
    (hd : d.customName? = name) : Extends name as (Gathered.replaceFirst test d as) := by
  induction as with
  | nil => exact place_one hd
  | cons x xs ih =>
    rw [Gathered.replaceFirst]
    split
    · next hx => exact ⟨0, by simp [hd, h x hx]⟩
    · obtain ⟨k, ih⟩ := ih
      exact ⟨k, by simp [ih]⟩

theorem set {i : Nat} (h : (namesOf as)[i]? = some name) (hd : d.customName? = name) :
    Extends name as (as.set i d) := by
  obtain ⟨hi, h⟩ := List.getElem?_eq_some_iff.1 h
  refine ⟨0, ?_⟩
  rw [namesOf, List.map_set, ← namesOf, hd, ← h, List.set_getElem_self, List.replicate_zero,
    List.append_nil]

theorem getElem? (h : Extends name as bs) {i : Nat} {n : Option String}
    (hi : (namesOf as)[i]? = some n) : (namesOf bs)[i]? = some n := by
  obtain ⟨k, h⟩ := h
  obtain ⟨hlt, -⟩ := List.getElem?_eq_some_iff.1 hi
  rw [h, List.getElem?_append_left hlt, hi]

theorem declares (h : Extends name as bs) {n : Option String} (hn : Declares as n) :
    Declares bs n := by
  obtain ⟨k, h⟩ := h
  rw [declares_iff] at hn ⊢
  rw [h]
  exact List.mem_append_left _ hn

theorem of_declares (h : Extends name as bs) {n : Option String} (hn : Declares bs n) :
    Declares as n ∨ n = name := by
  obtain ⟨k, h⟩ := h
  rw [declares_iff] at hn ⊢
  rw [h, List.mem_append] at hn
  exact hn.imp_right List.eq_of_mem_replicate

end Extends

theorem namesOf_replaceFirst {test : Declaration → Bool} {as : List Declaration}
    (h : ∀ x, test x = true → x.customName? = d.customName?) (hm : ∃ x ∈ as, test x = true) :
    namesOf (Gathered.replaceFirst test d as) = namesOf as := by
  induction as with
  | nil => simp at hm
  | cons x xs ih =>
    rw [Gathered.replaceFirst]
    split
    · next hx => simp [h x hx]
    · next hx =>
      have hm : ∃ x ∈ xs, test x = true := by simpa [hx] using hm
      simp [ih hm]

theorem customName?_of_isSelection (h : Gathered.isSelection d = true) : d.customName? = none := by
  unfold Gathered.isSelection at h
  split at h
  · rfl
  · cases h

theorem isSelection_of_lastSelection? {v : String × Prefixes} (h : g.lastSelection? = some v) :
    ∃ x ∈ g.placed, Gathered.isSelection x = true := by
  refine List.foldlRecOn
    (motive := fun found => found = some v → ∃ x ∈ g.placed, Gathered.isSelection x = true)
    g.placed _ (by simp) (fun found ih d hd => ?_) h
  split
  · exact fun _ => ⟨_, hd, rfl⟩
  · exact ih

theorem extends_replaceLast {v : String × Prefixes} (h : g.lastSelection? = some v) {k : String}
    {p : Prefixes} :
    Extends none g.placed
      (Gathered.replaceLast Gathered.isSelection (.userSelect k p) g.placed) := by
  obtain ⟨x, hx, hs⟩ := isSelection_of_lastSelection? h
  refine ⟨0, ?_⟩
  have h : namesOf (Gathered.replaceFirst Gathered.isSelection (.userSelect k p) g.placed.reverse) =
      namesOf g.placed.reverse :=
    namesOf_replaceFirst (fun x h => customName?_of_isSelection h)
      ⟨x, List.mem_reverse.2 hx, hs⟩
  rw [Gathered.replaceLast, namesOf, List.map_reverse, ← namesOf, h, namesOf, List.map_reverse,
    List.reverse_reverse, List.replicate_zero, List.append_nil, namesOf]

/-! ## Taking a declaration -/

/-- The place of the last colour, if there is one, is that of a known property. -/
def Gathered.ColorSound (g : Gathered) : Prop :=
  ∀ i, g.color = some i → (namesOf g.placed)[i]? = some none

theorem extends_putColor (hg : g.ColorSound) (hd : d.customName? = none) :
    Extends none g.placed (g.putColor d).placed := by
  rw [Gathered.putColor]
  split
  · next i hi => exact .set (hg i hi) hd
  · exact .place_one hd

theorem extends_takeColor (hg : g.ColorSound) (c : Color) :
    Extends none g.placed (g.takeColor goal c).placed := by
  rw [Gathered.takeColor]
  split
  · exact .place_known (.map (fun _ => rfl) _)
  · split
    · exact extends_putColor hg rfl
    · exact .place_one rfl

theorem extends_takeSelection (k : String) (p : Prefixes) :
    Extends none g.placed (g.takeSelection goal k p).placed := by
  rw [Gathered.takeSelection]
  split
  · next old q h =>
    split
    · exact extends_replaceLast h
    · exact .place_one rfl
  · exact .place_one rfl

theorem placed_lower (make : Raw → Declaration) (v : Raw) :
    (g.lower goal position make v).1.placed = g.placed := by
  rw [Gathered.lower]
  dsimp only
  split <;> rfl

theorem customName?_of_property {name : String} (h : (d.property == .custom name) = true) :
    d.customName? = some name := by
  cases d <;> simp_all [Declaration.property, Declaration.customName?]

theorem extends_takeCustom (name : String) (v : Raw) :
    Extends (some name) g.placed (g.takeCustom goal position name v).placed := by
  have hsame : ∀ x : Declaration, (x.property == .custom name) = true →
      x.customName? = some name := fun x h => customName?_of_property h
  rw [Gathered.takeCustom]
  split
  · exact .refl _ _
  · by_cases hp : position = .keyframe
    · rw [if_pos hp]
      exact .replaceFirst hsame rfl
    · rw [if_neg hp]
      show Extends (some name) g.placed (Gathered.replaceFirst _
        (g.lower goal position (.custom name) v).2
        (g.lower goal position (.custom name) v).1.placed)
      rw [placed_lower]
      exact .replaceFirst hsame rfl

theorem placed_lowerUnread (q : Property) (v : Raw) :
    (g.lowerUnread goal position q v).1.placed = g.placed := by
  rw [Gathered.lowerUnread]
  split
  · exact placed_lower _ v
  · rfl

theorem customName?_lowerUnread (goal : Goal) (position : BlockPlace) (g : Gathered)
    (q : Property) (v : Raw) : (g.lowerUnread goal position q v).2.customName? = none := by
  rw [Gathered.lowerUnread]
  split <;> rfl

theorem color_lowerUnread (q : Property) (v : Raw) :
    (g.lowerUnread goal position q v).1.color = g.color := by
  rw [Gathered.lowerUnread, Gathered.lower]
  dsimp only
  split <;> rfl

theorem extends_releaseFamily : Extends none g.placed (g.releaseFamily goal).placed := by
  rw [Gathered.releaseFamily]
  split
  · exact .refl _ _
  · exact .place_one rfl

theorem colorSound_lowerUnread (hg : g.ColorSound) (q : Property) (v : Raw) :
    (g.lowerUnread goal position q v).1.ColorSound := by
  rw [Gathered.ColorSound, color_lowerUnread, placed_lowerUnread]
  exact hg

/-- Placing a known declaration behind what has waited extends the names by known ones. -/
theorem extends_release {out : List Declaration} (h : AllKnown out) (hd : d.customName? = none) :
    Extends none g.placed (g.placed ++ out ++ [d]) :=
  (Extends.place_known h).trans (.place_one hd)

theorem extends_takeUnread (hg : g.ColorSound) (q : Property) (v : Raw) :
    Extends none g.placed (g.takeUnread goal position q v).placed := by
  cases q with
  | order p => exact extends_release (allKnown_order _) rfl
  | flexOrder => exact extends_release (allKnown_order _) rfl
  | ordinalGroup p => exact extends_release (allKnown_order _) rfl
  | sides l => cases l <;> exact extends_release (allKnown_sides _ _) rfl
  | side l e => cases l <;> exact extends_release (allKnown_sides _ _) rfl
  | fontFamily => exact extends_releaseFamily.trans (.place_one rfl)
  | listStyleType =>
    have hm : Extends none g.placed g.releaseMarker.placed :=
      .place_known (.toList (fun _ => rfl) _)
    have hp : Extends none (g.releaseMarker.lowerUnread goal position .listStyleType v).1.placed
        ((g.releaseMarker.lowerUnread goal position .listStyleType v).1.place
          [(g.releaseMarker.lowerUnread goal position .listStyleType v).2]).placed :=
      .place_one (customName?_lowerUnread _ _ _ _ _)
    rw [placed_lowerUnread] at hp
    exact hm.trans hp
  | animation p => exact extends_release (allKnown_animation _) rfl
  | animationTimeline => exact extends_release (allKnown_animation _) rfl
  | display => exact extends_release (allKnown_display _) rfl
  | transform p => exact extends_release (allKnown_spelled (fun _ _ => rfl) _) rfl
  | color =>
    have h : Extends none (g.lowerUnread goal position .color v).1.placed
        (((g.lowerUnread goal position .color v).1.putColor
          (g.lowerUnread goal position .color v).2)).placed :=
      extends_putColor (colorSound_lowerUnread hg .color v) (customName?_lowerUnread _ _ _ _ _)
    rwa [placed_lowerUnread] at h
  | userSelect p => exact .place_one rfl
  | zIndex => exact .place_one rfl
  | opacity => exact .place_one rfl

/-- **Taking a declaration adds its name**, if it changes the names at all. -/
theorem extends_take (hg : g.ColorSound) (d : Declaration) :
    Extends d.customName? g.placed (g.take goal position d).placed := by
  cases d with
  | order v p => exact .place_known (allKnown_order _)
  | ordinalGroup v p => exact .place_known (allKnown_order _)
  | flexOrder v => exact .refl _ _
  | sides l s => cases l <;> exact .place_known (allKnown_takeAll _ _ _)
  | side l e v => cases l <;> exact .place_known (allKnown_takeSide _ _ _ _)
  | fontFamily fs =>
    rw [Gathered.take]
    dsimp only
    split
    · exact extends_releaseFamily
    · exact .refl _ _
  | listStyleType m => exact .place_known (.toList (fun _ => rfl) _)
  | animation as p => exact .place_known (allKnown_animation _)
  | animationTimeline ts => exact .refl _ _
  | display v => exact .refl _ _
  | transform fs p => exact .place_known (allKnown_spelled (fun _ _ => rfl) _)
  | color c => exact extends_takeColor hg c
  | userSelect k p => exact extends_takeSelection k p
  | custom name v =>
    rw [Gathered.take]
    split
    · exact .refl _ _
    · split
      · exact extends_takeCustom name v
      · exact .place_one rfl
  | unread q v => exact extends_takeUnread hg q v
  | zIndex v => exact .place_one rfl
  | opacity v => exact .place_one rfl

theorem color_takeUnread (q : Property) (v : Raw) :
    (g.takeUnread goal position q v).color = g.color ∨ q = .color := by
  cases q with
  | color => exact .inr rfl
  | sides l => cases l <;> exact .inl rfl
  | side l e => cases l <;> exact .inl rfl
  | fontFamily =>
    left
    rw [Gathered.takeUnread, Gathered.releaseFamily]
    dsimp only
    split <;> rfl
  | listStyleType => exact .inl (color_lowerUnread (g := g.releaseMarker) .listStyleType v)
  | _ => exact .inl rfl

theorem Gathered.ColorSound.of_extends {g' : Gathered} {name : Option String} (hg : g.ColorSound)
    (h : Extends name g.placed g'.placed) (hc : g'.color = g.color) : g'.ColorSound :=
  fun i hi => h.getElem? (hg i (hc ▸ hi))

theorem colorSound_putColor (hg : g.ColorSound) (hd : d.customName? = none) :
    (g.putColor d).ColorSound := by
  have h := extends_putColor hg hd
  cases hc : g.color with
  | some i =>
    refine hg.of_extends h ?_
    rw [Gathered.putColor, hc]
  | none =>
    intro i hi
    rw [Gathered.putColor, hc] at hi ⊢
    cases hi
    simp [Gathered.place, hd]

theorem fallbacks_ne_nil (a : Audience) (c : Color) : c.fallbacks a ≠ [] := by
  simp [Color.fallbacks]

theorem colorSound_takeColor (hg : g.ColorSound) (c : Color) :
    (g.takeColor goal c).ColorSound := by
  rw [Gathered.takeColor]
  split
  · intro i hi
    have hne := List.length_pos_iff.2 (fallbacks_ne_nil goal.toAudience c)
    have hk : AllKnown ((c.fallbacks goal.toAudience).map .color) := .map (fun _ => rfl) _
    cases hi
    have hlen : ((c.fallbacks goal.toAudience).map Declaration.color).length =
        (c.fallbacks goal.toAudience).length := List.length_map _
    show (namesOf (g.placed ++ (c.fallbacks goal.toAudience).map .color))[_]? = some none
    rw [namesOf_append, hk.namesOf_eq, hlen, List.getElem?_append_right, length_namesOf,
      List.getElem?_replicate, if_pos]
    · omega
    · rw [length_namesOf]
      omega
  · split
    · exact colorSound_putColor hg rfl
    · intro i hi
      cases hi
      simp [Gathered.place, Declaration.customName?]

theorem color_takeSelection (k : String) (p : Prefixes) :
    (g.takeSelection goal k p).color = g.color := by
  rw [Gathered.takeSelection]
  split
  · split <;> rfl
  · rfl

theorem color_takeCustom (name : String) (v : Raw) :
    (g.takeCustom goal position name v).color = g.color := by
  rw [Gathered.takeCustom]
  split
  · rfl
  · by_cases hp : position = .keyframe
    · rw [if_pos hp]
    · rw [if_neg hp]
      show (g.lower goal position (.custom name) v).1.color = g.color
      rw [Gathered.lower]
      dsimp only
      split <;> rfl

/-- Declarations of all properties but `color` leave the place of the last colour. -/
theorem color_take (d : Declaration) :
    (g.take goal position d).color = g.color ∨
      (∃ c, d = .color c) ∨ ∃ v, d = .unread .color v := by
  cases d with
  | color c => exact .inr (.inl ⟨c, rfl⟩)
  | unread q v =>
    rcases color_takeUnread (g := g) q v with hc | rfl
    · exact .inl hc
    · exact .inr (.inr ⟨v, rfl⟩)
  | sides l s => cases l <;> exact .inl rfl
  | side l e v => cases l <;> exact .inl rfl
  | fontFamily fs =>
    left
    rw [Gathered.take]
    dsimp only
    split
    · rw [Gathered.releaseFamily]
      split <;> rfl
    · rfl
  | custom name v =>
    left
    rw [Gathered.take]
    split
    · rfl
    · split
      · exact color_takeCustom name v
      · rfl
  | userSelect k p => exact .inl (color_takeSelection k p)
  | _ => exact .inl rfl

/-- The place of the last colour stays that of a known property. -/
theorem colorSound_take (hg : g.ColorSound) (d : Declaration) :
    (g.take goal position d).ColorSound := by
  have hcolor : (g.take goal position d).color = g.color ∨ (∃ c, d = .color c) ∨
      ∃ v, d = .unread .color v := color_take d
  rcases hcolor with hc | ⟨c, rfl⟩ | ⟨v, rfl⟩
  · exact hg.of_extends (extends_take hg d) hc
  · exact colorSound_takeColor hg c
  · exact colorSound_putColor (colorSound_lowerUnread hg .color v)
      (customName?_lowerUnread _ _ _ _ _)

end StyleBuild.Css
