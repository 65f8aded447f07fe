import StyleBuild.Proofs.Css.Unused
import StyleBuild.Proofs.Css.WithoutTargets

/-!
# Rules of which something is left

A rule survives for some unused names if adding it to a list in normal form leaves something there,
whatever stands around it. Whether a style rule does depends on its own declarations and on the
rules nested in it, for which it counts whether the rule around them is unused. With more unused
names less survives (`survivesIn_of_more`), and a list survives as much as its normal form does
(`survivesIn_normalizeTo_iff`).
-/

namespace StyleBuild.Css

variable {unused : NameSet} {p : Bool}

/-! ## Surviving -/

/-- Some selector of a list is in use. -/
def InUse (unused : NameSet) (ss : List Selector) : Prop :=
  ∃ s ∈ ss, ({ unused } : Goal).isUnused false [s] = false

/-- A block has a declaration that is not of an unused custom property. -/
def Block.Leaves (unused : NameSet) (b : Block) : Prop :=
  ∃ name, b.Declares name ∧ ({ unused } : Goal).leaves name = true

mutual

/-- Something of a rule is left in normal form; `parent` tells whether the rule around is unused. -/
def Rule.Survives (unused : NameSet) (parent : Bool) : Rule → Prop
  | .style ss block rules _ => parent = false ∧
    (InUse unused ss ∧ block.Leaves unused ∨
      ss ≠ [] ∧ SurvivesIn unused (({ unused } : Goal).isUnused false ss) rules)
  | .nesting ss _ rules => ({ unused } : Goal).isUnused parent ss = false ∨
    SurvivesIn unused (({ unused } : Goal).isUnused parent ss) rules
  | .declarations _ => parent = false
  | .media queries rules =>
    (Frame.media queries).isLive = true ∧ SurvivesIn unused parent rules
  | .supports _ rules | .container _ rules | .startingStyle rules => SurvivesIn unused parent rules
  | .layerNames names => names ≠ []
  | .keyframes name _ _ => unused.contains name.value = false
  | .registered r => unused.contains r.name = false
  | _ => True

/-- Something of a list of rules is left in normal form. -/
def SurvivesIn (unused : NameSet) (parent : Bool) : List Rule → Prop
  | [] => False
  | r :: rules => r.Survives unused parent ∨ SurvivesIn unused parent rules

end

theorem survivesIn_iff {rules : List Rule} :
    SurvivesIn unused p rules ↔ Has (Rule.Survives unused p) [] rules := by
  induction rules with
  | nil => exact iff_of_false id Has.not_nil
  | cons r rules ih => rw [SurvivesIn, ih, Has.cons_iff]; rfl

theorem survivesIn_append {as bs : List Rule} :
    SurvivesIn unused p (as ++ bs) ↔ SurvivesIn unused p as ∨ SurvivesIn unused p bs := by
  simp only [survivesIn_iff, Has.append_iff]

theorem SurvivesIn.ne_nil {rules : List Rule} (h : SurvivesIn unused p rules) : rules ≠ [] :=
  (survivesIn_iff.1 h).ne_nil

/-! ## Selectors and blocks -/

namespace Goal

variable {goal : Goal} {ss ts : List Selector}

theorem isUnused_eq (hu : goal.unused = unused) (parent : Bool) (ss : List Selector) :
    goal.isUnused parent ss = ({ unused } : Goal).isUnused parent ss := by
  rw [isUnused, isUnused, hu]

theorem leaves_eq (hu : goal.unused = unused) (name : Option String) :
    goal.leaves name = ({ unused } : Goal).leaves name := by
  rw [leaves, leaves, hu]

/-- If one of two rules is in use, so is a rule with the selectors of both. -/
theorem isUnused_append (h : goal.isUnused false ss = false ∨ goal.isUnused false ts = false) :
    goal.isUnused false (ss ++ ts) = false := by
  simp only [isUnused, Bool.and_eq_false_iff, isUnusedList_append] at h ⊢
  grind

theorem isUnused_eq_of_forall₂ (h : List.Forall₂ Selector.Same ss ts) :
    goal.isUnused false ss = goal.isUnused false ts := by
  rw [isUnused, isUnused, isUnusedList_eq_of_forall₂ h]

theorem isUnused_mono {more : NameSet} (h : ∀ n ∈ unused, n ∈ more) {p' : Bool}
    (hp : p = true → p' = true) (hs : ({ unused } : Goal).isUnused p ss = true) :
    ({ unused := more } : Goal).isUnused p' ss = true := by
  rw [isUnused, Bool.and_eq_true] at hs ⊢
  refine ⟨?_, isUnusedList_mono h hp ss hs.2⟩
  obtain ⟨n, hn⟩ := List.exists_mem_of_ne_nil unused.names (by simpa using hs.1)
  simpa using List.ne_nil_of_mem (h n hn)

theorem leaves_mono {more : NameSet} (h : ∀ n ∈ unused, n ∈ more) {name : Option String}
    (hl : ({ unused := more } : Goal).leaves name = true) :
    ({ unused } : Goal).leaves name = true := by
  cases name with
  | none => rfl
  | some n =>
    have hl : (!more.contains n) = true := hl
    change (!unused.contains n) = true
    rw [Bool.not_eq_true'] at hl ⊢
    exact contains_eq_false_of_more h hl

end Goal

theorem isUnused_false_iff {ss : List Selector} :
    ({ unused } : Goal).isUnused p ss = false ↔
      unused.names = [] ∨ ∃ s ∈ ss, Selector.isUnused unused p s = false := by
  rw [Goal.isUnused, Bool.and_eq_false_iff, isUnusedList_eq_all, List.all_eq_false,
    Bool.not_eq_false', List.isEmpty_iff]
  simp only [Bool.not_eq_true]

theorem inUse_iff {ss : List Selector} :
    InUse unused ss ↔ ss ≠ [] ∧ ({ unused } : Goal).isUnused false ss = false := by
  simp only [InUse, isUnused_false_iff, List.mem_singleton, exists_eq_left]
  constructor
  · rintro ⟨s, hs, h⟩
    exact ⟨List.ne_nil_of_mem hs, h.imp_right fun h => ⟨s, hs, h⟩⟩
  · rintro ⟨hne, h | ⟨s, hs, h⟩⟩
    · obtain ⟨s, hs⟩ := List.exists_mem_of_ne_nil ss hne
      exact ⟨s, hs, .inl h⟩
    · exact ⟨s, hs, .inr h⟩

theorem inUse_append {ss ts : List Selector} :
    InUse unused (ss ++ ts) ↔ InUse unused ss ∨ InUse unused ts := by
  simp only [InUse, List.mem_append, or_and_right, exists_or]

theorem InUse.of_forall₂ {ss ts : List Selector} (h : List.Forall₂ Selector.Same ss ts)
    (hs : InUse unused ss) : InUse unused ts := by
  rw [inUse_iff] at hs ⊢
  refine ⟨?_, (Goal.isUnused_eq_of_forall₂ h).symm.trans hs.2⟩
  rintro rfl
  exact hs.1 (List.forall₂_nil_right_iff.1 h)

theorem inUse_iff_of_forall₂ {ss ts : List Selector} (h : List.Forall₂ Selector.Same ss ts) :
    InUse unused ss ↔ InUse unused ts :=
  ⟨.of_forall₂ h, .of_forall₂ (forall₂_same_symm h)⟩

namespace Block

variable {goal : Goal} {b c : Block}

theorem leaves_normalize_iff (hu : goal.unused = unused) {position : BlockPlace}
    {before : List Upgrade} :
    (b.normalize goal position before).1.Leaves unused ↔ b.Leaves unused := by
  simp only [Leaves, declares_normalize_iff, Goal.leaves_eq hu, and_assoc, and_self]

theorem leaves_append_iff : (b.append c).Leaves unused ↔ b.Leaves unused ∨ c.Leaves unused := by
  simp only [Leaves, declares_append_iff, or_and_right, exists_or]

theorem leaves_iff_of_beq (h : (b == c) = true) : b.Leaves unused ↔ c.Leaves unused := by
  simp only [Leaves, declares_iff_of_beq h]

end Block

/-! ## Fewer unused names -/

section More

variable {more : NameSet} {p' : Bool}

theorem InUse.of_more (h : ∀ n ∈ unused, n ∈ more) {ss : List Selector} (hs : InUse more ss) :
    InUse unused ss := by
  obtain ⟨s, hs, huse⟩ := hs
  exact ⟨s, hs, Bool.eq_false_iff.2 fun hc =>
    Bool.eq_false_iff.1 huse (Goal.isUnused_mono h id hc)⟩

theorem Block.Leaves.of_more (h : ∀ n ∈ unused, n ∈ more) {b : Block} (hb : b.Leaves more) :
    b.Leaves unused := by
  obtain ⟨name, hd, hl⟩ := hb
  exact ⟨name, hd, Goal.leaves_mono h hl⟩

theorem eq_false_of_more (hp : p = true → p' = true) (h : p' = false) : p = false := by
  cases p with
  | true => rw [← h, hp rfl]
  | false => rfl

mutual

/-- What survives for some unused names survives for fewer. -/
theorem Rule.Survives.of_more (h : ∀ n ∈ unused, n ∈ more) :
    (r : Rule) → {p p' : Bool} → (p = true → p' = true) → r.Survives more p' →
      r.Survives unused p
  | .style _ _ rules _, _, _, hp, ⟨hparent, hr⟩ =>
    ⟨eq_false_of_more hp hparent, hr.imp (And.imp (.of_more h) (.of_more h))
      (And.imp_right (survivesIn_of_more h rules (Goal.isUnused_mono h id)))⟩
  | .nesting _ _ rules, _, _, hp, hr => Or.imp (eq_false_of_more (Goal.isUnused_mono h hp))
      (survivesIn_of_more h rules (Goal.isUnused_mono h hp)) hr
  | .declarations _, _, _, hp, hr => eq_false_of_more hp hr
  | .media _ rules, _, _, hp, ⟨hlive, hr⟩ => ⟨hlive, survivesIn_of_more h rules hp hr⟩
  | .supports _ rules, _, _, hp, hr => survivesIn_of_more h rules hp hr
  | .container _ rules, _, _, hp, hr => survivesIn_of_more h rules hp hr
  | .startingStyle rules, _, _, hp, hr => survivesIn_of_more h rules hp hr
  | .layerNames _, _, _, _, hr => hr
  | .keyframes _ _ _, _, _, _, hr => contains_eq_false_of_more h hr
  | .registered _, _, _, _, hr => contains_eq_false_of_more h hr
  | .layer _ _, _, _, _, _ | .scope _ _ _, _, _, _, _ | .fontFace _, _, _, _, _
  | .page _, _, _, _, _ | .import_ _, _, _, _, _ | .unknown _ _ _, _, _, _, _
  | .removed, _, _, _, _ => trivial

/-- A list of which something survives for some unused names is one of which something does for
fewer. -/
theorem survivesIn_of_more (h : ∀ n ∈ unused, n ∈ more) :
    (rules : List Rule) → {p p' : Bool} → (p = true → p' = true) → SurvivesIn more p' rules →
      SurvivesIn unused p rules
  | [], _, _, _, hr => hr
  | r :: rules, _, _, hp, hr =>
    Or.imp (Rule.Survives.of_more h r hp) (survivesIn_of_more h rules hp) hr

end

end More

/-! ## Style rules -/

section Styles

variable {goal : Goal} {last new s : Style}

theorem Style.survives_iff_of_flat (h : s.rules = []) :
    s.toRule.Survives unused false ↔ InUse unused s.selectors ∧ s.block.Leaves unused := by
  rw [toRule, h, Rule.Survives, SurvivesIn]
  simp

/-- What merging two style rules leaves is what is left of one of them. -/
theorem survives_merge_iff (hu : goal.unused = unused) {m : Style.Merger}
    (hm : last.mergeInto? goal new = some m) :
    m.kept.toRule.Survives unused false ↔
      last.toRule.Survives unused false ∨ new.toRule.Survives unused false := by
  obtain ⟨hnew, hlast, hkept, hcases⟩ := Style.mergeInto?_cases hm
  rw [Style.survives_iff_of_flat hkept, Style.survives_iff_of_flat hlast,
    Style.survives_iff_of_flat hnew]
  obtain ⟨hs, hss, hb⟩ | ⟨hb, hbb, ⟨he, hss⟩ | hss⟩ := hcases
  · rw [hss, hb, Block.leaves_normalize_iff hu, Block.leaves_append_iff,
      inUse_iff_of_forall₂ (forall₂_same_of_beq hs), and_or_left]
  · rw [hss, hbb, Block.leaves_iff_of_beq hb,
      inUse_iff_of_forall₂ (forall₂_same_of_isEquivalentList he), or_self]
  · rw [hss, hbb, Block.leaves_iff_of_beq hb, inUse_append, or_and_right]

theorem survives_settle_iff (hu : goal.unused = unused) {rules : List Rule} :
    Has (Rule.Survives unused false) [] (Built.settle goal last rules) ↔
      last.toRule.Survives unused false ∨ Has (Rule.Survives unused false) [] rules := by
  induction rules generalizing last with
  | nil => rw [Built.settle, Has.cons_iff]; rfl
  | cons r rules ih =>
    rcases Built.settle_cons goal last r rules with ⟨s, m, rfl, hm, hsettle⟩ | hsettle
    · rw [hsettle, ih, survives_merge_iff hu hm, Has.cons_iff, ← or_assoc]
      exact or_congr_left or_comm
    · rw [hsettle, Has.cons_iff]; rfl

variable {b : Built}

theorem survives_merge?_iff (hu : goal.unused = unused) {m : Built × Style}
    (hm : b.merge? goal s = some m) :
    Has (Rule.Survives unused false) [] m.1.rules ↔
      Has (Rule.Survives unused false) [] b.rules ∨ s.toRule.Survives unused false := by
  obtain ⟨last, rest, k, hr, hk, rfl⟩ := Built.merge?_cases hm
  rw [survives_settle_iff hu, survives_merge_iff hu hk, hr, Has.cons_iff, or_right_comm]
  rfl

/-- A rule that overrides another one survives, so that it counts as much as what is taken out. -/
theorem survives_pushed_iff {b' : Built} (h : b.Pushed s b')
    (hs : s.rules = [] → s.toRule.Survives unused false) :
    Has (Rule.Survives unused false) [] b'.rules ↔
      Has (Rule.Survives unused false) [] b.rules ∨ s.toRule.Survives unused false := by
  cases h with
  | nested | noted => exact Has.cons_iff.trans or_comm
  | overriding hflat _ _ _ hi =>
    have hremoved := List.mem_set (List.getElem?_eq_some_iff.1 hi).1 Rule.removed
    exact iff_of_true ⟨.removed, hremoved, trivial⟩ (.inr (hs hflat))

/-- What is declared in the normal form of a body is left of a rule in use. -/
theorem Goal.declares_body (hu : goal.unused = unused) {gone : Bool} {block : Block}
    {name : Option String} (h : (goal.body gone block).Declares name) :
    gone = false ∧ block.Declares name ∧ ({ unused } : Goal).leaves name = true := by
  cases gone with
  | true => exact absurd h Block.not_declares_empty
  | false =>
    obtain ⟨hd, hl⟩ := Block.declares_normalize_iff.1 h
    exact ⟨rfl, hd, Goal.leaves_eq hu name ▸ hl⟩

variable {ss : List Selector} {block : Block} {rules rules' : List Rule} {q q' : Prefixes}

/-- A style rule survives as much as its normal form does. -/
theorem survives_body_iff (hu : goal.unused = unused)
    (hrules : SurvivesIn unused (({ unused } : Goal).isUnused false ss) rules' ↔
      SurvivesIn unused (({ unused } : Goal).isUnused false ss) rules) :
    (Rule.style ss (goal.body (goal.isUnused false ss) block) rules' q').Survives unused p ↔
      (Rule.style ss block rules q).Survives unused p := by
  rw [Rule.Survives, Rule.Survives, hrules, Goal.isUnused_eq hu]
  have hbody : InUse unused ss →
      ((goal.body (({ unused } : Goal).isUnused false ss) block).Leaves unused ↔
        block.Leaves unused) := fun h => by
    rw [(inUse_iff.1 h).2]
    exact Block.leaves_normalize_iff hu
  rw [and_congr_right hbody]

theorem Style.isEmpty_eq_false_of_survives (h : s.toRule.Survives unused p) :
    s.isEmpty = false := by
  obtain ⟨-, ⟨⟨t, ht, -⟩, name, hd, -⟩ | ⟨hss, hrules⟩⟩ := h
  · simp [isEmpty, List.ne_nil_of_mem ht, Block.isEmpty_eq_false_of_declares hd]
  · simp [isEmpty, hss, hrules.ne_nil]

/-- A style rule in normal form without rules in it survives if there is anything in it. -/
theorem survives_written (hu : goal.unused = unused) {gone : Bool}
    (hg : goal.isUnused false ss = gone)
    (h : (Style.written ss (goal.body gone block) []).isEmpty = false) :
    (Style.written ss (goal.body gone block) []).toRule.Survives unused false := by
  simp only [Style.isEmpty, Style.written, List.isEmpty_nil, Bool.and_true, Bool.or_eq_false_iff,
    List.isEmpty_eq_false_iff] at h
  obtain ⟨name, hd⟩ := Block.exists_declares h.2
  obtain ⟨rfl, -, hl⟩ := Goal.declares_body hu hd
  rw [Style.survives_iff_of_flat rfl]
  exact ⟨inUse_iff.2 ⟨h.1, Goal.isUnused_eq hu false ss ▸ hg⟩, name, hd, hl⟩

theorem survives_addStyle_iff (ht : goal.targets = none) (hu : goal.unused = unused)
    (hup : b.upgrades = []) {gone : Bool} (hg : goal.isUnused false ss = gone) :
    Has (Rule.Survives unused false) [] (b.addStyle goal ss (goal.body gone block) rules).rules ↔
      Has (Rule.Survives unused false) [] b.rules ∨
        (Style.written ss (goal.body gone block) rules).toRule.Survives unused false := by
  rw [addStyle_eq ht hup]
  split
  · next m hm => exact survives_merge?_iff hu hm
  · split
    · next hempty =>
      refine (or_iff_left fun h => ?_).symm
      rw [Style.isEmpty_eq_false_of_survives h] at hempty
      cases hempty
    · next hempty =>
      refine survives_pushed_iff (b.pushed_pushStyle _) fun hflat => ?_
      obtain rfl : rules = [] := hflat
      exact survives_written hu hg (Bool.eq_false_iff.2 hempty)

end Styles

/-! ## Other rules -/

/-- Whether a frame is that of a rule that does nothing but to hold rules under some condition. -/
def Frame.isConditional : Frame → Bool
  | .media _ | .supports _ | .container _ | .startingStyle => true
  | _ => false

theorem Frame.isConditional_eq_of_beq {f g : Frame} (h : (f == g) = true) :
    f.isConditional = g.isConditional := by
  cases f <;> cases g <;> first | rfl | cases h

theorem Frame.isPlain_eq_of_beq {f g : Frame} (h : (f == g) = true) : f.isPlain = g.isPlain := by
  cases f <;> cases g <;> first | rfl | cases h

theorem Rule.isConditional_eq_of_inside {r : Rule} {f : Frame} {rules : List Rule}
    (h : r.inside? = some (f, rules)) : r.isConditional = f.isConditional := by
  cases r <;> cases h <;> rfl

/-- A rule that does nothing but to hold rules survives as much as these do, but a scope stays. -/
theorem Rule.survives_iff_of_inside {r : Rule} {f : Frame} {rules : List Rule}
    (h : r.inside? = some (f, rules)) (hf : f.isPlain = true) :
    r.Survives unused p ↔
      (f.isConditional = true → f.isLive = true ∧ SurvivesIn unused p rules) := by
  cases r <;> cases h <;> first
    | exact absurd hf Bool.false_ne_true
    | simp [Rule.Survives, Frame.isConditional, Frame.isLive]

section Rules

variable {goal : Goal} {b b' : Built} {r : Rule}

theorem survives_added_iff {normal : List Rule → List Rule} {f : Frame} {rules : List Rule}
    (hn : f.isConditional = true →
      ∀ rules, SurvivesIn unused p (normal rules) ↔ SurvivesIn unused p rules)
    (hf : f.isPlain = true) (hr : r.inside? = some (f, rules)) (ha : Added normal b r f rules b') :
    Has (Rule.Survives unused p) [] b'.rules ↔
      Has (Rule.Survives unused p) [] b.rules ∨ r.Survives unused p := by
  cases ha with
  | @joined last last' g old rest hcond hb hl hg hs hin =>
    rw [Rule.isConditional_eq_of_inside hr] at hcond
    have hgcond := (Frame.isConditional_eq_of_beq hg).trans hcond
    have hgplain := (Frame.isPlain_eq_of_beq hg).trans hf
    have hlast : last'.Survives unused p ↔ last.Survives unused p ∨ r.Survives unused p := by
      rw [Rule.survives_iff_of_inside hin hgplain, Rule.survives_iff_of_inside hl hgplain,
        Rule.survives_iff_of_inside hr hf, hn hcond, survivesIn_append,
        Frame.isLive_eq_of_beq hg, hgcond, hcond]
      simp only [forall_const, and_or_left]
    rw [hb, Has.cons_iff, Has.cons_iff, or_right_comm]
    exact or_congr_left hlast
  | @behind r' hlive hs hin =>
    have hr' : r'.Survives unused p ↔ r.Survives unused p := by
      rw [Rule.survives_iff_of_inside hin hf, Rule.survives_iff_of_inside hr hf]
      exact forall_congr' fun hcond => by rw [hn hcond]
    exact (Has.cons_iff.trans or_comm).trans (or_congr_right hr')
  | nothing hcond hgone =>
    refine (or_iff_left fun h => ?_).symm
    rw [Rule.isConditional_eq_of_inside hr] at hcond
    obtain ⟨hlive, hrules⟩ := (Rule.survives_iff_of_inside hr hf).1 h hcond
    rw [← hn hcond] at hrules
    rcases hgone with hgone | hdead
    · exact hrules.ne_nil hgone
    · rw [hlive] at hdead
      cases hdead

theorem survives_declareLayers_iff (names : List LayerName) :
    Has (Rule.Survives unused p) [] (names.foldl Built.declareLayer b).rules ↔
      Has (Rule.Survives unused p) [] b.rules ∨ names ≠ [] := by
  induction names generalizing b with
  | nil => simp
  | cons n names ih =>
    obtain ⟨old, -, hput⟩ := b.put_addLayer n []
    rw [List.foldl_cons, ih, Built.declareLayer_eq]
    exact iff_of_true (.inl (hput.has trivial)) (.inr (List.cons_ne_nil _ _))

/-! ## Lists -/

/-- A normaliser without targets that leaves something of a list if anything of it survives. -/
def Normalizer.Preserves (unused : NameSet) (inner : Normalizer) : Prop :=
  ∀ goal : Goal, goal.targets = none → goal.unused = unused → ∀ p rules,
    SurvivesIn unused p (inner goal p [] rules).1 ↔ SurvivesIn unused p rules

variable {inner : Normalizer}

theorem survivesIn_children_iff (ht : goal.targets = none) (hu : goal.unused = unused)
    (hn : inner.Preserves unused) {gone : Bool} {rules : List Rule} :
    SurvivesIn unused gone (inner.children goal gone rules) ↔ SurvivesIn unused gone rules := by
  unfold Normalizer.children
  split
  · next h => rw [List.isEmpty_iff.1 h]
  · exact hn goal ht hu gone rules

theorem survives_addRule_iff (ht : goal.targets = none) (hu : goal.unused = unused)
    (hi : inner.IsPlain) (hn : inner.Preserves unused) (hup : b.upgrades = []) :
    Has (Rule.Survives unused p) [] (addRule goal inner p b r).rules ↔
      Has (Rule.Survives unused p) [] b.rules ∨ r.Survives unused p := by
  have hpush : ∀ {r' : Rule}, (r'.Survives unused p ↔ r.Survives unused p) →
      (Has (Rule.Survives unused p) [] (b.push r').rules ↔
        Has (Rule.Survives unused p) [] b.rules ∨ r.Survives unused p) :=
    fun h => (Has.cons_iff.trans or_comm).trans (or_congr_right h)
  have hframe : ∀ {f rules}, r.inside? = some (f, rules) → f.isPlain = true →
      (Has (Rule.Survives unused p) [] (addRule goal inner p b r).rules ↔
        Has (Rule.Survives unused p) [] b.rules ∨ r.Survives unused p) := by
    intro f rules hr hf
    obtain ⟨goal', parent', ht', hu', hp, ha⟩ := addRule_frame p ht hi hup hr hf
    refine survives_added_iff (fun hcond => ?_) hf hr ha
    rw [Rule.isConditional_eq_of_inside hr, hcond, Bool.true_and] at hp
    exact hp ▸ hn goal' ht' (hu'.trans hu) parent'
  have hgone : ∀ {ss rules}, (goal.isUnused p ss &&
        (inner.children goal (goal.isUnused p ss) rules).isEmpty) = true →
      ({ unused } : Goal).isUnused p ss = true ∧
        ¬ SurvivesIn unused (({ unused } : Goal).isUnused p ss) rules := by
    intro ss rules h
    rw [Bool.and_eq_true, List.isEmpty_iff] at h
    refine ⟨Goal.isUnused_eq hu p ss ▸ h.1, fun hs => ?_⟩
    rw [← Goal.isUnused_eq hu, ← survivesIn_children_iff ht hu hn, h.2] at hs
    exact hs
  cases r
  case style ss block rules q =>
    rw [addRule_style ht hup rfl]
    cases p with
    | true => exact (or_iff_left fun h => Bool.false_ne_true h.1.symm).symm
    | false =>
      rw [if_neg Bool.false_ne_true]
      split
      · next h =>
        obtain ⟨hunused, hrules⟩ := hgone h
        refine (or_iff_left fun h => ?_).symm
        rcases h.2 with ⟨huse, -⟩ | ⟨-, hs⟩
        · rw [(inUse_iff.1 huse).2] at hunused
          cases hunused
        · exact hrules hs
      · rw [survives_addStyle_iff ht hu hup rfl]
        refine or_congr_right (survives_body_iff hu ?_)
        rw [← Goal.isUnused_eq hu]
        exact survivesIn_children_iff ht hu hn
  case nesting ss block rules =>
    rw [addRule_nesting ht hup rfl]
    split
    · next h =>
      obtain ⟨hunused, hrules⟩ := hgone h
      refine (or_iff_left fun h => ?_).symm
      rcases h with h | h
      · rw [hunused] at h
        cases h
      · exact hrules h
    · refine hpush (or_congr_right ?_)
      rw [← Goal.isUnused_eq hu]
      exact survivesIn_children_iff ht hu hn
  case declarations block =>
    rw [addRule_declarations ht hup]
    cases p with
    | true => exact (or_iff_left fun h => Bool.false_ne_true h.symm).symm
    | false => exact hpush Iff.rfl
  case layer name rules =>
    cases name with
    | none => exact hpush Iff.rfl
    | some n =>
      obtain ⟨old, -, hput⟩ := b.put_addLayer n rules
      exact iff_of_true (hput.has trivial) (.inr trivial)
  case layerNames names => exact survives_declareLayers_iff names
  case keyframes name q frames =>
    rw [addRule, hu]
    split
    · next h => exact (or_iff_left fun hs => Bool.false_ne_true (hs.symm.trans h)).symm
    · next h =>
      rw [Bool.not_eq_true] at h
      obtain ⟨q', hput⟩ := b.put_addKeyframes ht name q frames
      exact iff_of_true (hput.has h) (.inr h)
  case registered r =>
    rw [addRule, hu]
    split
    · next h => exact (or_iff_left fun hs => Bool.false_ne_true (hs.symm.trans h)).symm
    · next h =>
      rw [Bool.not_eq_true] at h
      exact iff_of_true ((b.put_replaceOr _ _).has h) (.inr h)
  all_goals first
    | exact hframe rfl rfl
    | exact hpush Iff.rfl

theorem survives_foldl_addRule_iff (ht : goal.targets = none) (hu : goal.unused = unused)
    (hi : inner.IsPlain) (hn : inner.Preserves unused) (hup : b.upgrades = [])
    {rules : List Rule} :
    Has (Rule.Survives unused p) [] (rules.foldl (addRule goal inner p) b).rules ↔
      Has (Rule.Survives unused p) [] b.rules ∨ SurvivesIn unused p rules := by
  induction rules generalizing b with
  | nil => exact (or_iff_left id).symm
  | cons r rules ih =>
    rw [List.foldl_cons, ih (upgrades_addRule ht hi hup r), survives_addRule_iff ht hu hi hn hup,
      or_assoc]
    rfl

end Rules

/-! ## Layers -/

theorem survives_addLayered_iff {inner : List Upgrade → List Rule → List Rule × List Upgrade}
    (hi : ∀ rules, (inner [] rules).2 = []) {l : Layered} (hup : l.upgrades = []) {r : Rule} :
    Has (Rule.Survives unused p) [] (l.add inner r).rules ↔
      Has (Rule.Survives unused p) [] l.rules ∨ r.Survives unused p := by
  have hpush : Has (Rule.Survives unused p) [] (r :: l.rules) ↔
      Has (Rule.Survives unused p) [] l.rules ∨ r.Survives unused p :=
    Has.cons_iff.trans or_comm
  cases r
  case layer name rules =>
    refine iff_of_true ?_ (.inr trivial)
    rw [Layered.add_layer hi hup]
    repeat' split
    all_goals refine Has.cons_iff.2 (.inl ?_)
    all_goals first
      | trivial
      | exact List.cons_ne_nil _ _
  case import_ i =>
    rw [Layered.add]
    split <;> exact hpush
  all_goals exact hpush

theorem survives_settleLayers_iff {inner : List Upgrade → List Rule → List Rule × List Upgrade}
    (hi : ∀ rules, (inner [] rules).2 = []) {b : Built} (hup : b.upgrades = []) :
    Has (Rule.Survives unused p) [] (settleLayers inner b).1 ↔
      Has (Rule.Survives unused p) [] b.rules := by
  have hfold : ∀ (rules : List Rule) (l : Layered), l.upgrades = [] →
      (Has (Rule.Survives unused p) [] (rules.foldl (Layered.add inner) l).rules ↔
        Has (Rule.Survives unused p) [] l.rules ∨ Has (Rule.Survives unused p) [] rules) := by
    intro rules
    induction rules with
    | nil => exact fun l _ => (or_iff_left Has.not_nil).symm
    | cons r rules ih =>
      intro l hup
      rw [List.foldl_cons, ih _ (Layered.upgrades_add hi hup r), survives_addLayered_iff hi hup,
        Has.cons_iff, or_assoc]
      rfl
  unfold settleLayers
  dsimp only
  split
  · rw [Has.reverse_iff, hfold _ _ hup, or_iff_right Has.not_nil, Has.reverse_iff]
  · exact Has.reverse_iff

/-- **Of a list something survives if and only if something of its normal form does.** -/
theorem survivesIn_normalizeTo_iff (depth : Nat) : (normalizeTo depth).Preserves unused := by
  induction depth with
  | zero => exact fun _ _ _ _ _ => Iff.rfl
  | succ depth ih =>
    intro goal ht hu p rules
    have hi := normalizeTo_isPlain depth
    have hup := upgrades_foldl_addRule p ht hi (b := { upgrades := [] }) rfl rules
    rw [survivesIn_iff, normalizeTo, survives_settleLayers_iff (hi goal ht p) hup,
      survives_foldl_addRule_iff ht hu hi ih rfl, or_iff_right Has.not_nil]

end StyleBuild.Css
