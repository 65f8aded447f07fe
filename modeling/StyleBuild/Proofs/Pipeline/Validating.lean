import Mathlib.Order.Bounds.Basic
import StyleBuild.Pipeline.Config

/-!
# Valid configurations

A stage is at fault if its kind is blank or a stage before it has its name (`IsFaulty`). Validating
passes the stages in order and remembers the names of those it has passed (`Remembers`). One step
either blames the stage at hand or finds no fault with it and remembers its name
(`validateFrom_cons`), so that a run ends at the first stage at fault, if there is one
(`validateFrom_ends`). Hence a configuration is valid if all its kinds are more than white space and
its names are distinct, and otherwise the first stage at fault is blamed (`Config.validate_blames`).
-/

namespace StyleBuild

/-! ## Stages at fault -/

/-- There is a stage at a place whose kind holds nothing but white space. -/
def HasBlankKind (stages : List StageSpec) (i : Nat) : Prop :=
  ∃ s, stages[i]? = some s ∧ ∀ ch ∈ s.kind.toList, isBlank ch = true

/-- The stage at a place has a name that a stage before it has. -/
def RepeatsName (stages : List StageSpec) (i : Nat) (name : String) : Prop :=
  ∃ s, stages[i]? = some s ∧ s.name = some name ∧
    ∃ j < i, ∃ t, stages[j]? = some t ∧ t.name = some name

/-- The stage at a place is at fault. -/
def IsFaulty (stages : List StageSpec) (i : Nat) : Prop :=
  HasBlankKind stages i ∨ ∃ name, RepeatsName stages i name

/-- What the stage at a place is blamed for. A blank kind comes first. -/
inductive Blames (stages : List StageSpec) (i : Nat) : ConfigFault → Prop
  | blankKind (hkind : HasBlankKind stages i) : Blames stages i (.blankKind i)
  | repeatedName {name : String} (hkind : ¬HasBlankKind stages i)
      (hname : RepeatsName stages i name) : Blames stages i (.repeatedName name)

variable {stages front rest : List StageSpec} {s : StageSpec} {seen : List String} {i : Nat}
  {name : String} {fault fault' : ConfigFault}

theorem Blames.isFaulty (h : Blames stages i fault) : IsFaulty stages i := by
  cases h with
  | blankKind hkind => exact .inl hkind
  | repeatedName _ hname => exact .inr ⟨_, hname⟩

/-- A stage is blamed for one thing. -/
theorem Blames.unique (h : Blames stages i fault) (h' : Blames stages i fault') :
    fault = fault' := by
  cases h with
  | blankKind hkind =>
    cases h' with
    | blankKind _ => rfl
    | repeatedName hkind' _ => exact absurd hkind hkind'
  | repeatedName hkind hname =>
    cases h' with
    | blankKind hkind' => exact absurd hkind' hkind
    | repeatedName _ hname' =>
      obtain ⟨s, hs, hn, -⟩ := hname
      obtain ⟨t, ht, hn', -⟩ := hname'
      obtain rfl : s = t := Option.some.inj (hs.symm.trans ht)
      rw [Option.some.inj (hn.symm.trans hn')]

theorem IsFaulty.lt_length (h : IsFaulty stages i) : i < stages.length := by
  rcases h with ⟨s, hs, -⟩ | ⟨name, s, hs, -⟩ <;> exact (List.getElem?_eq_some_iff.1 hs).1

theorem forall_not_hasBlankKind_iff : (∀ i, ¬HasBlankKind stages i) ↔
    ∀ s ∈ stages, ∃ ch ∈ s.kind.toList, isBlank ch = false := by
  simp only [HasBlankKind, List.mem_iff_getElem?]
  constructor
  · rintro h s ⟨i, hs⟩
    by_contra hblank
    refine h i ⟨s, hs, fun ch hch => ?_⟩
    by_contra hne
    exact hblank ⟨ch, hch, Bool.eq_false_iff.2 hne⟩
  · rintro h i ⟨s, hs, hblank⟩
    obtain ⟨ch, hch, hne⟩ := h s ⟨i, hs⟩
    rw [hblank ch hch] at hne
    cases hne

theorem forall_not_repeatsName_iff : (∀ i name, ¬RepeatsName stages i name) ↔
    (stages.filterMap (·.name)).Nodup := by
  rw [List.Nodup, List.pairwise_filterMap, List.pairwise_iff_getElem]
  constructor
  · rintro h j i hj hi hji n hn m hm rfl
    exact h i n ⟨_, List.getElem?_eq_getElem hi, hm, j, hji, _, List.getElem?_eq_getElem hj, hn⟩
  · rintro h i n ⟨s, hs, hn, j, hji, t, ht, hm⟩
    obtain ⟨hi, rfl⟩ := List.getElem?_eq_some_iff.1 hs
    obtain ⟨hj, rfl⟩ := List.getElem?_eq_some_iff.1 ht
    exact h j i hj hi hji n hm n hn rfl

theorem forall_not_isFaulty_iff : (∀ i, ¬IsFaulty stages i) ↔
    (∀ s ∈ stages, ∃ ch ∈ s.kind.toList, isBlank ch = false) ∧
      (stages.filterMap (·.name)).Nodup := by
  simp only [IsFaulty, not_or, not_exists, forall_and, forall_not_hasBlankKind_iff,
    forall_not_repeatsName_iff]

/-! ## Validating -/

/-- Names are those of the stages in front. -/
def Remembers (seen : List String) (front : List StageSpec) : Prop :=
  ∀ name, name ∈ seen ↔ ∃ s ∈ front, s.name = some name

theorem Remembers.of_none (h : Remembers seen front) (hs : s.name = none) :
    Remembers seen (front ++ [s]) := by
  intro n
  simp [h n, or_and_right, exists_or, hs]

theorem Remembers.of_some (h : Remembers seen front) (hs : s.name = some name) :
    Remembers (name :: seen) (front ++ [s]) := by
  intro n
  rw [List.mem_cons, h n, or_comm, eq_comm]
  simp only [List.mem_append, List.mem_singleton, or_and_right, exists_or, exists_eq_left, hs,
    Option.some.injEq]

theorem hasBlankKind_append :
    HasBlankKind (front ++ s :: rest) front.length ↔ isBlankText s.kind = true := by
  simp [HasBlankKind, isBlankText]

theorem repeatsName_append (h : Remembers seen front) :
    RepeatsName (front ++ s :: rest) front.length name ↔ s.name = some name ∧ name ∈ seen := by
  have hplace : (front ++ s :: rest)[front.length]? = some s := by simp
  have hfront : (∃ j < front.length, ∃ t, (front ++ s :: rest)[j]? = some t ∧ t.name = some name) ↔
      ∃ t ∈ front, t.name = some name := by
    constructor
    · rintro ⟨j, hj, t, ht, hn⟩
      rw [List.getElem?_append_left hj] at ht
      exact ⟨t, List.mem_of_getElem? ht, hn⟩
    · rintro ⟨t, ht, hn⟩
      obtain ⟨j, hj, rfl⟩ := List.mem_iff_getElem.1 ht
      exact ⟨j, hj, _, by rw [List.getElem?_append_left hj, List.getElem?_eq_getElem hj], hn⟩
  simp only [RepeatsName, hplace, Option.some.injEq, exists_eq_left', hfront, h name]

/-- **One step** blames the stage at hand, or finds it without fault and remembers its name. -/
theorem validateFrom_cons (h : Remembers seen front) (s : StageSpec) (rest : List StageSpec) :
    (∃ fault, Blames (front ++ s :: rest) front.length fault ∧
      validateFrom front.length seen (s :: rest) = .error fault) ∨
    (¬IsFaulty (front ++ s :: rest) front.length ∧ ∃ seen', Remembers seen' (front ++ [s]) ∧
      validateFrom front.length seen (s :: rest) =
        validateFrom (front ++ [s]).length seen' rest) := by
  have hrepeats (n : String) : RepeatsName (front ++ s :: rest) front.length n ↔
      s.name = some n ∧ n ∈ seen := repeatsName_append h
  rw [validateFrom, List.length_append, List.length_singleton]
  by_cases hkind : isBlankText s.kind = true
  · exact .inl ⟨_, .blankKind (hasBlankKind_append.2 hkind), if_pos hkind⟩
  have hblank : ¬HasBlankKind (front ++ s :: rest) front.length :=
    fun hb => hkind (hasBlankKind_append.1 hb)
  rw [if_neg hkind]
  cases hname : s.name with
  | none =>
    refine .inr ⟨?_, seen, h.of_none hname, rfl⟩
    rintro (hb | ⟨n, hn⟩)
    · exact hblank hb
    · have hn := ((hrepeats n).1 hn).1
      rw [hname] at hn
      cases hn
  | some n =>
    by_cases hseen : n ∈ seen
    · refine .inl ⟨.repeatedName n, .repeatedName hblank ((hrepeats n).2 ⟨hname, hseen⟩), ?_⟩
      exact if_pos (List.contains_iff_mem.2 hseen)
    · refine .inr ⟨?_, n :: seen, h.of_some hname, ?_⟩
      · rintro (hb | ⟨m, hm⟩)
        · exact hblank hb
        · obtain ⟨hm, hmem⟩ := (hrepeats m).1 hm
          obtain rfl : n = m := Option.some.inj (hname.symm.trans hm)
          exact hseen hmem
      · exact if_neg fun hc => hseen (List.contains_iff_mem.1 hc)

/-- **A run** behind stages without fault succeeds if the others are without fault too, and else
blames the first one at fault. -/
theorem validateFrom_ends (h : Remembers seen front)
    (hfront : ∀ i < front.length, ¬IsFaulty (front ++ rest) i) :
    (validateFrom front.length seen rest = .ok () ∧ ∀ i, ¬IsFaulty (front ++ rest) i) ∨
    ∃ i fault, IsLeast {j | IsFaulty (front ++ rest) j} i ∧ Blames (front ++ rest) i fault ∧
      validateFrom front.length seen rest = .error fault := by
  -- the stages in front grow as the rest shrinks: they stay remembered and without fault
  induction rest generalizing front seen with
  | nil =>
    refine .inl ⟨rfl, fun i hi => hfront i ?_ hi⟩
    simpa using hi.lt_length
  | cons s rest ih =>
    rcases validateFrom_cons h s rest with ⟨fault, hb, herror⟩ | ⟨hs, seen', h', hnext⟩
    · refine .inr ⟨front.length, fault, ⟨hb.isFaulty, fun j hj => ?_⟩, hb, herror⟩
      exact Nat.not_lt.1 fun hlt => hfront j hlt hj
    · rw [List.append_cons] at hfront hs ⊢
      rw [hnext]
      refine ih h' fun i hi => ?_
      rw [List.length_append, List.length_singleton, Nat.lt_succ_iff_lt_or_eq] at hi
      rcases hi with hi | rfl
      · exact hfront i hi
      · exact hs

namespace Config

/-- **A configuration is valid** exactly if all kinds of its stages hold a character other than white
space and the names that stages have are distinct. If it is not, what is blamed is the first stage
that has a blank kind or the name of a stage before it, for its kind if that is blank. -/
theorem validate_blames (c : Config) :
    (c.validate = .ok () ↔
      (∀ s ∈ c.stages, ∃ ch ∈ s.kind.toList, isBlank ch = false) ∧
        (c.stages.filterMap (·.name)).Nodup) ∧
    ∀ fault, c.validate = .error fault ↔
      ∃ i, IsLeast {j | IsFaulty c.stages j} i ∧ Blames c.stages i fault := by
  have hstart : Remembers [] [] := by simp [Remembers]
  have hends : (c.validate = .ok () ∧ ∀ i, ¬IsFaulty c.stages i) ∨
      ∃ i fault, IsLeast {j | IsFaulty c.stages j} i ∧ Blames c.stages i fault ∧
        c.validate = .error fault := validateFrom_ends hstart (by simp)
  rw [← forall_not_isFaulty_iff]
  rcases hends with ⟨hok, hall⟩ | ⟨i, fault, hleast, hb, herror⟩
  · refine ⟨iff_of_true hok hall, fun fault => iff_of_false (by simp [hok]) ?_⟩
    rintro ⟨i, hi, -⟩
    exact hall i hi.1
  · refine ⟨iff_of_false (by simp [herror]) fun hall => hall i hleast.1, fun fault' => ?_⟩
    constructor
    · intro h
      obtain rfl : fault = fault' := Except.error.inj (herror.symm.trans h)
      exact ⟨i, hleast, hb⟩
    · rintro ⟨i', hleast', hb'⟩
      obtain rfl : i = i' := hleast.unique hleast'
      rw [herror, hb.unique hb']

/-- A stage that has both faults is blamed for its kind, and a later one is not blamed. -/
example : validate { name := "site", stages :=
    [{ kind := "a", name := some "n" }, { kind := " \t", name := some "n" }, { kind := "" }] } =
      .error (.blankKind 1) := by
  rfl

end Config

end StyleBuild
