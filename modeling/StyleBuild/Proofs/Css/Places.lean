import Mathlib.Logic.Relation
import StyleBuild.Css.Rule.Normal

/-!
# Places in a sheet

A place in a list of rules is told by the rules around it, from the outside in. `Has` says that a
rule with some property stands at a place; places are the same if the rules around them are equal
as rules go (`Frame.Same`).
-/

namespace StyleBuild.Css

/-- What a rule that holds rules says around them. -/
inductive Frame where
  | media (queries : List MediaQuery)
  | supports (query : SupportsQuery)
  | container (query : ContainerQuery)
  | layer (name : Option LayerName)
  | scope (root limit : Option (List Selector))
  | startingStyle
  /-- Inside of a style rule. -/
  | nested
  deriving BEq

namespace Frame

/-- Whether two frames are equal, equality being closed to an equivalence. -/
def Same : Frame → Frame → Prop := Relation.EqvGen fun f g => (f == g) = true

namespace Same

variable {f g k : Frame}

theorem refl (f : Frame) : f.Same f := Relation.EqvGen.refl f

theorem symm (h : f.Same g) : g.Same f := Relation.EqvGen.symm _ _ h

theorem trans (h : f.Same g) (h' : g.Same k) : f.Same k := Relation.EqvGen.trans _ _ _ h h'

theorem of_beq (h : (f == g) = true) : f.Same g := Relation.EqvGen.rel _ _ h

/-- What agrees on equal frames agrees on frames that are the same. -/
theorem map_eq {α : Type} {F : Frame → α} (hF : ∀ {f g}, (f == g) = true → F f = F g)
    (h : f.Same g) : F f = F g := by
  induction h with
  | rel f g h => exact hF h
  | refl f => rfl
  | symm f g _ ih => exact ih.symm
  | trans f g k _ _ ih ih' => exact ih.trans ih'

end Same

/-- Whether rules at a frame are normalised and kept: those of style rules may be overridden with
them, and a media query that holds nowhere takes its rules away. -/
def isLive : Frame → Bool
  | .nested => false
  | .media qs => qs.isEmpty || !qs.all MediaQuery.neverMatches
  | _ => true

theorem neverMatches_eq_of_beq {q r : MediaQuery} (h : (q == r) = true) :
    q.neverMatches = r.neverMatches := by
  obtain ⟨a, b, c⟩ := q
  obtain ⟨a', b', c'⟩ := r
  have hq : (a == a' && (b == b' && c == c')) = true := h
  rw [Bool.and_eq_true, Bool.and_eq_true, beq_iff_eq, beq_iff_eq] at hq
  obtain ⟨rfl, rfl, hc⟩ := hq
  have hn : c.isNone = c'.isNone := by
    cases c <;> cases c' <;> first | rfl | cases hc
  rw [MediaQuery.neverMatches, MediaQuery.neverMatches, hn]

theorem all_neverMatches_eq_of_beq {qs rs : List MediaQuery} (h : (qs == rs) = true) :
    qs.isEmpty = rs.isEmpty ∧
      qs.all MediaQuery.neverMatches = rs.all MediaQuery.neverMatches := by
  induction qs generalizing rs with
  | nil =>
    cases rs with
    | nil => exact ⟨rfl, rfl⟩
    | cons r rs => cases h
  | cons q qs ih =>
    cases rs with
    | nil => cases h
    | cons r rs =>
      rw [List.cons_beq_cons, Bool.and_eq_true] at h
      rw [List.all_cons, List.all_cons, neverMatches_eq_of_beq h.1, (ih h.2).2]
      exact ⟨rfl, rfl⟩

theorem isLive_eq_of_beq {f g : Frame} (h : (f == g) = true) : f.isLive = g.isLive := by
  cases f <;> cases g <;> try rfl
  case media.media qs rs =>
    have h : (qs == rs) = true := h
    obtain ⟨hempty, hall⟩ := all_neverMatches_eq_of_beq h
    rw [isLive, isLive, hempty, hall]
  all_goals cases h

theorem Same.isLive_eq {f g : Frame} (h : f.Same g) : f.isLive = g.isLive :=
  h.map_eq isLive_eq_of_beq

/-- Whether a frame is inside of a style rule. -/
def isNested : Frame → Bool
  | .nested => true
  | _ => false

theorem isNested_eq_of_beq {f g : Frame} (h : (f == g) = true) : f.isNested = g.isNested := by
  cases f <;> cases g <;> first | rfl | cases h

theorem Same.isNested_eq {f g : Frame} (h : f.Same g) : f.isNested = g.isNested :=
  h.map_eq isNested_eq_of_beq

end Frame

/-- The frame of a rule that holds rules, and these. -/
def Rule.inside? : Rule → Option (Frame × List Rule)
  | .style _ _ rules _ => some (.nested, rules)
  | .nesting _ _ rules => some (.nested, rules)
  | .media queries rules => some (.media queries, rules)
  | .supports query rules => some (.supports query, rules)
  | .container query rules => some (.container query, rules)
  | .layer name rules => some (.layer name, rules)
  | .scope root limit rules => some (.scope root limit, rules)
  | .startingStyle rules => some (.startingStyle, rules)
  | _ => none

/-- A rule without the rules in it and the spellings in which it is printed. -/
def Rule.shell : Rule → Rule
  | .style ss block _ _ => .style ss block [] .none
  | .nesting ss block _ => .nesting ss block []
  | .media queries _ => .media queries []
  | .supports query _ => .supports query []
  | .container query _ => .container query []
  | .layer name _ => .layer name []
  | .scope root limit _ => .scope root limit []
  | .startingStyle _ => .startingStyle []
  | r => r

/-- Whether a rule does nothing but to hold rules under some condition. -/
def Rule.isConditional : Rule → Bool
  | .media _ _ | .supports _ _ | .container _ _ | .startingStyle _ => true
  | _ => false

/-- A rule with a property stands at a place in a rule. -/
def Rule.Holds (P : Rule → Prop) : List Frame → Rule → Prop
  | [], r => P r
  | f :: path, r => ∃ g rules, r.inside? = some (g, rules) ∧ g.Same f ∧ ∃ s ∈ rules, s.Holds P path

/-- A rule with a property stands at a place in a list of rules. -/
def Has (P : Rule → Prop) (path : List Frame) (rules : List Rule) : Prop :=
  ∃ r ∈ rules, r.Holds P path

variable {P : Rule → Prop} {path : List Frame} {r : Rule} {rules : List Rule}

theorem holds_cons_of_inside {f g : Frame} (h : r.inside? = some (g, rules)) :
    r.Holds P (f :: path) ↔ g.Same f ∧ Has P path rules := by
  constructor
  · rintro ⟨g', rules', h', hs, hr⟩
    obtain ⟨rfl, rfl⟩ : g = g' ∧ rules = rules' := by simpa [h] using h'
    exact ⟨hs, hr⟩
  · rintro ⟨hs, hr⟩
    exact ⟨g, rules, h, hs, hr⟩

theorem not_holds_cons_of_inside_none {f : Frame} (h : r.inside? = none) :
    ¬ r.Holds P (f :: path) := by
  rintro ⟨g, rules, h', -⟩
  rw [h] at h'
  cases h'

/-- In a rule that holds no rules nothing stands but itself. -/
theorem holds_of_inside_none (hr : r.inside? = none) (h : r.Holds P path) : path = [] ∧ P r := by
  cases path with
  | nil => exact ⟨rfl, h⟩
  | cons f path => exact absurd h (not_holds_cons_of_inside_none hr)

/-- What stands at a place has all that follows from it. -/
theorem Rule.Holds.mono {Q : Rule → Prop} (h : ∀ {r}, P r → Q r) (hr : r.Holds P path) :
    r.Holds Q path := by
  induction path generalizing r with
  | nil => exact h hr
  | cons f path ih =>
    obtain ⟨g, rules, hin, hs, s, hmem, hs'⟩ := hr
    exact ⟨g, rules, hin, hs, s, hmem, ih hs'⟩

theorem Rule.depth_of_inside {f : Frame} (h : r.inside? = some (f, rules)) :
    r.depth = rulesDepth rules + 1 := by
  cases r <;> cases h <;> rfl

theorem Rule.depth_le_of_mem (hr : r ∈ rules) : r.depth ≤ rulesDepth rules := by
  induction rules with
  | nil => cases hr
  | cons a rules ih =>
    rw [rulesDepth]
    rcases List.mem_cons.1 hr with rfl | hr
    · exact Nat.le_max_left _ _
    · exact Nat.le_trans (ih hr) (Nat.le_max_right _ _)

namespace Has

variable {as bs : List Rule}

theorem not_nil : ¬ Has P path [] := by
  rintro ⟨r, hr, -⟩
  cases hr

theorem ne_nil (h : Has P path as) : as ≠ [] := by
  rintro rfl
  exact not_nil h

/-- What stands at a place is there. -/
theorem exists_rule (h : Has P path as) : ∃ r, P r := by
  induction path generalizing as with
  | nil =>
    obtain ⟨r, -, hr⟩ := h
    exact ⟨r, hr⟩
  | cons f path ih =>
    obtain ⟨r, -, g, rules, -, -, hs⟩ := h
    exact ih hs

theorem mono {Q : Rule → Prop} (h : ∀ {r}, P r → Q r) (ha : Has P path as) : Has Q path as := by
  obtain ⟨r, hr, hP⟩ := ha
  exact ⟨r, hr, hP.mono h⟩

/-- A place is no deeper than the rules are. -/
theorem length_lt (h : Has P path as) : path.length < rulesDepth as := by
  induction path generalizing as with
  | nil =>
    obtain ⟨r, hr, -⟩ := h
    have hpos : 0 < r.depth := by
      cases r <;> exact Nat.succ_pos _
    exact Nat.lt_of_lt_of_le hpos (Rule.depth_le_of_mem hr)
  | cons f path ih =>
    obtain ⟨r, hr, g, rules, hin, -, hs⟩ := h
    have hdepth := Rule.depth_le_of_mem hr
    have hlen := ih hs
    rw [Rule.depth_of_inside hin] at hdepth
    rw [List.length_cons]
    omega

theorem cons_iff : Has P path (r :: as) ↔ r.Holds P path ∨ Has P path as := by
  simp [Has]

theorem append_iff : Has P path (as ++ bs) ↔ Has P path as ∨ Has P path bs := by
  simp only [Has, List.mem_append, or_and_right, exists_or]

theorem reverse_iff : Has P path as.reverse ↔ Has P path as := by
  simp [Has]

end Has

end StyleBuild.Css
