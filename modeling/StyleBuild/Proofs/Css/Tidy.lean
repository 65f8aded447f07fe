import StyleBuild.Proofs.Css.Dropping

/-!
# Tidy rules

A rule is tidy for some unused names if it survives, declares nothing that is not left, and the
rules in it are tidy again (`Tidy`). Normal forms are tidy (`tidy_normalizeRules`), apart from what
stands in unnamed layers of a list without a named one. The bound on the depth that normalising
recurses on is large enough throughout, as normalising does not nest rules any deeper.
-/

namespace StyleBuild.Css

variable {goal : Goal} {unused : NameSet} {p : Bool} {depth : Nat}

/-! ## Tidiness -/

/-- Whether the rules in a rule count as being inside of an unused one. -/
def Rule.isUnusedInside (unused : NameSet) (parent : Bool) : Rule → Bool
  | .style ss _ _ _ | .nesting ss _ _ => ({ unused } : Goal).isUnused parent ss
  | .scope _ _ _ => false
  | _ => parent

/-- A rule declares something of its own although it is unused, or something of an unused name. -/
def Rule.Wastes (unused : NameSet) (parent : Bool) : Rule → Prop
  | .style ss block _ _ | .nesting ss block _ => ∃ name, block.Declares name ∧
    ¬(({ unused } : Goal).isUnused parent ss = false ∧ ({ unused } : Goal).leaves name = true)
  | .declarations block => ∃ name, block.Declares name ∧ ¬({ unused } : Goal).leaves name = true
  | _ => False

/-- Whether a rule names layers. -/
def Rule.namesLayer : Rule → Bool
  | .layer (some _) _ | .layerNames _ => true
  | _ => false

/-- Whether a rule does nothing but to name layers. -/
def Rule.isNames : Rule → Bool
  | .layerNames _ => true
  | _ => false

/-- Whether a rule is the block of a layer without a name. -/
def Rule.isUnnamedLayer : Rule → Bool
  | .layer none _ => true
  | _ => false

theorem Rule.isLayer_eq_false {r : Rule} (hunnamed : r.isUnnamedLayer = false)
    (hnames : r.namesLayer = false) : r.isLayer = false := by
  cases r with
  | layer name rules =>
    cases name with
    | none => exact absurd hunnamed.symm Bool.false_ne_true
    | some n => exact absurd hnames.symm Bool.false_ne_true
  | _ => rfl

/-- A rule of a list is no unnamed layer, unless the list names one. -/
def Rule.IsSettledIn (rules : List Rule) (r : Rule) : Prop :=
  r.isUnnamedLayer = false ∨ rules.any Rule.namesLayer = true

/-- A rule survives, wastes nothing, and holds such rules only. -/
inductive Tidy (unused : NameSet) : Bool → Rule → Prop
  | intro {p : Bool} {r : Rule} (survives : r.Survives unused p) (wastes : ¬ r.Wastes unused p)
    (inside : ∀ f rules, r.inside? = some (f, rules) → ∀ s ∈ rules, s.IsSettledIn rules →
      Tidy unused (r.isUnusedInside unused p) s) : Tidy unused p r

/-- The rules of a list are tidy. -/
def TidyIn (unused : NameSet) (p : Bool) (rules : List Rule) : Prop :=
  ∀ r ∈ rules, r.IsSettledIn rules → Tidy unused p r

namespace Tidy

variable {r : Rule}

theorem survives (h : Tidy unused p r) : r.Survives unused p := by
  cases h
  assumption

theorem not_wastes (h : Tidy unused p r) : ¬ r.Wastes unused p := by
  cases h
  assumption

theorem inside (h : Tidy unused p r) {f : Frame} {rules : List Rule}
    (hr : r.inside? = some (f, rules)) : TidyIn unused (r.isUnusedInside unused p) rules := by
  obtain ⟨-, -, hin⟩ := h
  exact hin f rules hr

theorem of_inside (hs : r.Survives unused p) (hw : ¬ r.Wastes unused p) {f : Frame}
    {rules : List Rule} (hr : r.inside? = some (f, rules))
    (h : TidyIn unused (r.isUnusedInside unused p) rules) : Tidy unused p r := by
  refine ⟨hs, hw, fun g rules' hr' => ?_⟩
  obtain ⟨rfl, rfl⟩ : f = g ∧ rules = rules' := by simpa [hr] using hr'
  exact h

theorem of_inside_none (hs : r.Survives unused p) (hw : ¬ r.Wastes unused p)
    (hr : r.inside? = none) : Tidy unused p r :=
  ⟨hs, hw, fun f rules h => by simp [hr] at h⟩

end Tidy

/-- Of a list that is tidy and not empty something survives. -/
theorem TidyIn.survivesIn {rules : List Rule} (h : TidyIn unused p rules) (hne : rules ≠ []) :
    SurvivesIn unused p rules := by
  obtain ⟨r, hr⟩ := List.exists_mem_of_ne_nil rules hne
  refine survivesIn_iff.2 ⟨r, hr, ?_⟩
  cases hunnamed : r.isUnnamedLayer with
  | false => exact (h r hr (.inl hunnamed)).survives
  | true => cases r <;> trivial

theorem rulesDepth_le_iff {rules : List Rule} :
    rulesDepth rules ≤ depth ↔ ∀ r ∈ rules, r.depth ≤ depth := by
  induction rules with
  | nil => simp [rulesDepth]
  | cons r rules ih => rw [rulesDepth, Nat.max_le, ih, List.forall_mem_cons]

theorem rulesDepth_append (as bs : List Rule) :
    rulesDepth (as ++ bs) = max (rulesDepth as) (rulesDepth bs) := by
  induction as with
  | nil => simp [rulesDepth]
  | cons a as ih => rw [List.cons_append, rulesDepth, rulesDepth, ih, Nat.max_assoc]

theorem Rule.depth_of_inside_none {r : Rule} (h : r.inside? = none) : r.depth = 1 := by
  cases r <;> first | rfl | cases h

/-! ## Lists under construction -/

/-- A rule of a list under construction: it is not too deep and names no layers, and if it is no
layer, which would still have to be settled, then it is tidy. -/
structure Rule.IsBuilt (unused : NameSet) (p : Bool) (depth : Nat) (r : Rule) : Prop where
  depth_le : r.depth ≤ depth + 1
  isNames_eq : r.isNames = false
  tidy : r.isLayer = false → Tidy unused p r

theorem Rule.IsBuilt.of_inside_none {r : Rule} (hr : r.inside? = none)
    (hnames : r.isNames = false) (hs : r.Survives unused p) (hw : ¬ r.Wastes unused p) :
    r.IsBuilt unused p depth :=
  ⟨by rw [depth_of_inside_none hr]; omega, hnames, fun _ => .of_inside_none hs hw hr⟩

theorem Rule.IsBuilt.of_isLayer {r : Rule} (h : r.isLayer = true) (hr : r.depth ≤ depth + 1) :
    r.IsBuilt unused p depth := by
  refine ⟨hr, ?_, fun hlayer => absurd (hlayer.symm.trans h) Bool.false_ne_true⟩
  cases r <;> first | rfl | cases h

/-- A normaliser brings rules that are not too deep into tidy ones that are not either. -/
def Normalizer.Tidies (unused : NameSet) (depth : Nat) (inner : Normalizer) : Prop :=
  ∀ goal : Goal, goal.targets = none → goal.unused = unused → ∀ p rules,
    rulesDepth rules ≤ depth → rulesDepth (inner goal p [] rules).1 ≤ depth ∧
      TidyIn unused p (inner goal p [] rules).1

section Styles

variable {s last new : Style} {b : Built}

theorem Rule.IsBuilt.of_flat (hs : s.toRule.Survives unused false)
    (hw : ¬ s.toRule.Wastes unused false) (hflat : s.rules = []) :
    s.toRule.IsBuilt unused false depth := by
  have hin : s.toRule.inside? = some (.nested, s.rules) := rfl
  refine ⟨?_, rfl, fun _ => .of_inside hs hw hin ?_⟩
  · rw [depth_of_inside hin, hflat, rulesDepth]
    omega
  · rw [hflat]
    exact List.forall_mem_nil _

/-- Merging wastes nothing. -/
theorem not_wastes_merge {m : Style.Merger}
    (hm : last.mergeInto? goal new = some m) (hlast : ¬ last.toRule.Wastes unused false)
    (hnew : ¬ new.toRule.Wastes unused false) : ¬ m.kept.toRule.Wastes unused false := by
  rintro ⟨name, hd, hnot⟩
  have hleft : ∀ {s : Style}, ¬ s.toRule.Wastes unused false → s.block.Declares name →
      ({ unused } : Goal).isUnused false s.selectors = false ∧
        ({ unused } : Goal).leaves name = true :=
    fun hs h => by_contra fun hn => hs ⟨name, h, hn⟩
  refine hnot ?_
  obtain ⟨-, -, -, ⟨hs, hss, hb⟩ | ⟨hb, hbb, hss⟩⟩ := Style.mergeInto?_cases hm
  · rw [hb, Block.declares_normalize_iff, Block.declares_append_iff] at hd
    rw [hss]
    rcases hd.1 with h | h
    · exact hleft hlast h
    · rw [← Goal.isUnused_eq_of_forall₂ (forall₂_same_of_beq hs)]
      exact hleft hnew h
  · rw [hbb] at hd
    rcases hss with ⟨-, hss⟩ | hss
    · exact hss ▸ hleft hlast hd
    · obtain ⟨huse, hl⟩ := hleft hlast hd
      exact hss ▸ ⟨Goal.isUnused_append (.inl huse), hl⟩

theorem isBuilt_merge (hu : goal.unused = unused) {m : Style.Merger}
    (hm : last.mergeInto? goal new = some m) (hlast : last.toRule.IsBuilt unused false depth)
    (hnew : ¬ new.toRule.Wastes unused false) : m.kept.toRule.IsBuilt unused false depth :=
  .of_flat ((survives_merge_iff hu hm).2 (.inl (hlast.tidy rfl).survives))
    (not_wastes_merge hm (hlast.tidy rfl).not_wastes hnew) (Style.mergeInto?_cases hm).2.2.1

theorem isBuilt_settle (hu : goal.unused = unused) {rules : List Rule}
    (hlast : last.toRule.IsBuilt unused false depth)
    (hrules : ∀ r ∈ rules, r.IsBuilt unused false depth) :
    ∀ r ∈ Built.settle goal last rules, r.IsBuilt unused false depth := by
  induction rules generalizing last with
  | nil => simpa [Built.settle] using hlast
  | cons r rules ih =>
    obtain ⟨hr, hrest⟩ := List.forall_mem_cons.1 hrules
    rcases Built.settle_cons goal last r rules with ⟨s, m, rfl, hm, hsettle⟩ | hsettle
    · rw [hsettle]
      exact ih (isBuilt_merge hu hm hr (hlast.tidy rfl).not_wastes) hrest
    · rw [hsettle]
      exact List.forall_mem_cons.2 ⟨hlast, hrules⟩

theorem isBuilt_merge? (hu : goal.unused = unused) {m : Built × Style}
    (hm : b.merge? goal s = some m) (hb : ∀ r ∈ b.rules, r.IsBuilt unused false depth)
    (hs : ¬ s.toRule.Wastes unused false) : ∀ r ∈ m.1.rules, r.IsBuilt unused false depth := by
  obtain ⟨last, rest, k, hr, hk, rfl⟩ := Built.merge?_cases hm
  rw [hr] at hb
  obtain ⟨hlast, hrest⟩ := List.forall_mem_cons.1 hb
  exact isBuilt_settle hu (isBuilt_merge hu hk hlast hs) hrest

theorem isBuilt_pushed {b' : Built} (h : b.Pushed s b')
    (hb : ∀ r ∈ b.rules, r.IsBuilt unused p depth) (hs : s.toRule.IsBuilt unused p depth) :
    ∀ r ∈ b'.rules, r.IsBuilt unused p depth := by
  have hpush : ∀ r ∈ s.toRule :: b.rules, r.IsBuilt unused p depth :=
    List.forall_mem_cons.2 ⟨hs, hb⟩
  cases h with
  | nested | noted => exact hpush
  | overriding =>
    have hremoved : Rule.removed.IsBuilt unused p depth := .of_inside_none rfl rfl trivial id
    exact forall_mem_set hpush hremoved _

variable {ss : List Selector} {block : Block} {rules : List Rule}

/-- The body of a style rule in normal form wastes nothing. -/
theorem not_wastes_body (hu : goal.unused = unused) :
    ¬ ∃ name, (goal.body (goal.isUnused p ss) block).Declares name ∧
      ¬(({ unused } : Goal).isUnused p ss = false ∧ ({ unused } : Goal).leaves name = true) := by
  rintro ⟨name, hd, hnot⟩
  obtain ⟨hg, -, hl⟩ := Goal.declares_body hu hd
  exact hnot ⟨Goal.isUnused_eq hu p ss ▸ hg, hl⟩

theorem isBuilt_addStyle (ht : goal.targets = none) (hu : goal.unused = unused)
    (hup : b.upgrades = []) (hb : ∀ r ∈ b.rules, r.IsBuilt unused false depth)
    (hdepth : rulesDepth rules ≤ depth)
    (hrules : TidyIn unused (({ unused } : Goal).isUnused false ss) rules) :
    ∀ r ∈ (b.addStyle goal ss (goal.body (goal.isUnused false ss) block) rules).rules,
      r.IsBuilt unused false depth := by
  have hw : ¬ (Style.written ss (goal.body (goal.isUnused false ss) block)
      rules).toRule.Wastes unused false := not_wastes_body hu
  have hin : (Style.written ss (goal.body (goal.isUnused false ss) block) rules).toRule.inside? =
    some (.nested, rules) := rfl
  rw [addStyle_eq ht hup]
  split
  · next m hm => exact isBuilt_merge? hu hm hb hw
  · split
    · exact hb
    · next hempty =>
      refine isBuilt_pushed (b.pushed_pushStyle _) hb
        ⟨?_, rfl, fun _ => .of_inside ?_ hw hin hrules⟩
      · rw [Rule.depth_of_inside hin]
        omega
      · -- a rule without nested rules that is not empty declares something, which is left
        rw [Bool.not_eq_true] at hempty
        by_cases hflat : rules = []
        · subst hflat
          exact survives_written hu rfl hempty
        · refine ⟨rfl, .inr ⟨?_, hrules.survivesIn hflat⟩⟩
          rintro rfl
          cases hempty

end Styles

/-! ## Other rules -/

section Rules

variable {b b' : Built} {r : Rule} {inner : Normalizer}

theorem isBuilt_addLayer (hb : ∀ r ∈ b.rules, r.IsBuilt unused p depth) (name : LayerName)
    {rules : List Rule} (hdepth : rulesDepth rules ≤ depth) :
    ∀ r ∈ (b.addLayer name rules).rules, r.IsBuilt unused p depth := by
  obtain ⟨old, hold, hput⟩ := b.put_addLayer name rules
  refine hput.forall_mem hb (.of_isLayer rfl (Nat.succ_le_succ ?_))
  rw [rulesDepth_append, Nat.max_le]
  refine ⟨?_, hdepth⟩
  rcases hold with rfl | hold
  · exact Nat.zero_le _
  · exact Nat.le_of_succ_le_succ (hb _ hold).depth_le

theorem isBuilt_declareLayers (hb : ∀ r ∈ b.rules, r.IsBuilt unused p depth)
    (names : List LayerName) :
    ∀ r ∈ (names.foldl Built.declareLayer b).rules, r.IsBuilt unused p depth := by
  induction names generalizing b with
  | nil => exact hb
  | cons n names ih =>
    rw [List.foldl_cons, Built.declareLayer_eq]
    exact ih (isBuilt_addLayer hb n (Nat.zero_le _))

theorem Rule.isUnusedInside_of_inside {f : Frame} {rules : List Rule}
    (h : r.inside? = some (f, rules)) (hf : f.isPlain = true) :
    r.isUnusedInside unused p = (f.isConditional && p) := by
  cases r <;> cases h <;> first
    | exact absurd hf Bool.false_ne_true
    | rfl

theorem Rule.not_wastes_of_inside {f : Frame} {rules : List Rule}
    (h : r.inside? = some (f, rules)) (hf : f.isPlain = true) : ¬ r.Wastes unused p := by
  cases r <;> cases h <;> first
    | exact absurd hf Bool.false_ne_true
    | exact id

theorem Rule.isBuilt_of_inside {f : Frame} {rules : List Rule} (h : r.inside? = some (f, rules))
    (hf : f.isPlain = true) (hs : f.isConditional = true → f.isLive = true ∧
      SurvivesIn unused p rules) (hdepth : rulesDepth rules ≤ depth)
    (hrules : TidyIn unused (f.isConditional && p) rules) : r.IsBuilt unused p depth := by
  refine ⟨?_, ?_, fun _ => .of_inside ((survives_iff_of_inside h hf).2 hs)
    (not_wastes_of_inside h hf) h ?_⟩
  · rw [depth_of_inside h]
    omega
  · cases r <;> first | rfl | cases h
  · rw [isUnusedInside_of_inside h hf]
    exact hrules

theorem isBuilt_added {normal : List Rule → List Rule} {f : Frame} {rules : List Rule}
    (hf : f.isPlain = true)
    (hn : ∀ rules, rulesDepth rules ≤ depth →
      rulesDepth (normal rules) ≤ depth ∧ TidyIn unused (f.isConditional && p) (normal rules))
    (hsame : f.isConditional = true →
      ∀ rules, SurvivesIn unused p (normal rules) ↔ SurvivesIn unused p rules)
    (hdepth : rulesDepth rules ≤ depth) (hr : r.inside? = some (f, rules))
    (hb : ∀ r ∈ b.rules, r.IsBuilt unused p depth) (ha : Added normal b r f rules b') :
    ∀ r ∈ b'.rules, r.IsBuilt unused p depth := by
  cases ha with
  | @joined last last' g old rest hcond hlast hl hg hs hin =>
    rw [hlast] at hb
    obtain ⟨hb, hrest⟩ := List.forall_mem_cons.1 hb
    have hgplain := (Frame.isPlain_eq_of_beq hg).trans hf
    have hgcond := Frame.isConditional_eq_of_beq hg
    have hold := hb.depth_le
    rw [Rule.depth_of_inside hl] at hold
    obtain ⟨hnormal, htidy⟩ := hn (old ++ rules) (by rw [rulesDepth_append]; omega)
    refine List.forall_mem_cons.2 ⟨Rule.isBuilt_of_inside hin hgplain (fun hc => ?_) hnormal
      (hgcond ▸ htidy), hrest⟩
    have hlayer : last.isLayer = false := by
      rw [isLayer_of_inside hl]
      exact isLayer_eq_false_of_isPlain hgplain
    obtain ⟨hlive, hsurvives⟩ :=
      (Rule.survives_iff_of_inside hl hgplain).1 (hb.tidy hlayer).survives hc
    exact ⟨hlive, (hsame (hgcond ▸ hc) _).2 (survivesIn_append.2 (.inl hsurvives))⟩
  | @behind r' hlive hs hin hne =>
    obtain ⟨hnormal, htidy⟩ := hn rules hdepth
    refine List.forall_mem_cons.2 ⟨Rule.isBuilt_of_inside hin hf (fun hc => ⟨hlive, ?_⟩) hnormal
      htidy, hb⟩
    rw [hc, Bool.true_and] at htidy
    exact htidy.survivesIn (hne (Rule.isConditional_eq_of_inside hr ▸ hc))
  | nothing => exact hb

theorem tidyIn_children (ht : goal.targets = none) (hu : goal.unused = unused)
    (hn : inner.Tidies unused depth) (gone : Bool) {rules : List Rule}
    (hdepth : rulesDepth rules ≤ depth) :
    rulesDepth (inner.children goal gone rules) ≤ depth ∧
      TidyIn unused gone (inner.children goal gone rules) := by
  unfold Normalizer.children
  split
  · exact ⟨Nat.zero_le _, List.forall_mem_nil _⟩
  · exact hn goal ht hu gone rules hdepth

theorem isBuilt_addRule (ht : goal.targets = none) (hu : goal.unused = unused)
    (hi : inner.IsPlain) (hp : inner.Preserves unused) (hn : inner.Tidies unused depth)
    (hup : b.upgrades = []) (hb : ∀ r ∈ b.rules, r.IsBuilt unused p depth)
    (hr : r.depth ≤ depth + 1) :
    ∀ x ∈ (addRule goal inner p b r).rules, x.IsBuilt unused p depth := by
  have hpush : ∀ {r' : Rule}, r'.IsBuilt unused p depth →
      ∀ x ∈ (b.push r').rules, x.IsBuilt unused p depth :=
    fun h => List.forall_mem_cons.2 ⟨h, hb⟩
  have hinside : ∀ {f rules}, r.inside? = some (f, rules) → rulesDepth rules ≤ depth := by
    intro f rules h
    rw [Rule.depth_of_inside h] at hr
    omega
  have hframe : ∀ {f rules}, r.inside? = some (f, rules) → f.isPlain = true →
      ∀ x ∈ (addRule goal inner p b r).rules, x.IsBuilt unused p depth := by
    intro f rules h hf
    obtain ⟨goal', parent', ht', hu', hparent, ha⟩ := addRule_frame p ht hi hup h hf
    rw [Rule.isConditional_eq_of_inside h] at hparent
    subst hparent
    refine isBuilt_added hf (hn goal' ht' (hu'.trans hu) _) (fun hc => ?_) (hinside h) h hb ha
    rw [hc, Bool.true_and]
    exact hp goal' ht' (hu'.trans hu) p
  cases r
  case style ss block rules q =>
    have hchildren := tidyIn_children ht hu hn (goal.isUnused p ss) (hinside rfl)
    rw [addRule_style ht hup rfl]
    cases p with
    | true => exact hb
    | false =>
      rw [if_neg Bool.false_ne_true]
      split
      · exact hb
      · exact isBuilt_addStyle ht hu hup hb hchildren.1 (Goal.isUnused_eq hu false ss ▸ hchildren.2)
  case nesting ss block rules =>
    obtain ⟨hdepth, hchildren⟩ := tidyIn_children ht hu hn (goal.isUnused p ss) (hinside rfl)
    rw [addRule_nesting ht hup rfl]
    split
    · exact hb
    · next hleft =>
      refine hpush ⟨Nat.succ_le_succ hdepth, rfl, fun _ => .of_inside ?_ ?_ rfl ?_⟩
      · rw [Rule.Survives, ← Goal.isUnused_eq hu]
        cases hg : goal.isUnused p ss with
        | false => exact .inl rfl
        | true =>
          rw [hg] at hchildren
          refine .inr (hchildren.survivesIn fun hnil => hleft ?_)
          rw [hg, hnil]
          rfl
      · exact not_wastes_body hu
      · rw [Rule.isUnusedInside, ← Goal.isUnused_eq hu]
        exact hchildren
  case declarations block =>
    rw [addRule_declarations ht hup]
    cases p with
    | true => exact hb
    | false =>
      refine hpush (.of_inside_none rfl rfl rfl ?_)
      rintro ⟨name, hd, hnot⟩
      exact hnot (Goal.leaves_eq hu name ▸ (Block.declares_normalize_iff.1 hd).2)
  case layer name rules =>
    cases name with
    | none => exact hpush (.of_isLayer rfl hr)
    | some n => exact isBuilt_addLayer hb n (hinside rfl)
  case layerNames names => exact isBuilt_declareLayers hb names
  case keyframes name q frames =>
    rw [addRule, hu]
    split
    · exact hb
    · next h =>
      obtain ⟨q', hput⟩ := b.put_addKeyframes ht name q frames
      exact hput.forall_mem hb (.of_inside_none rfl rfl (Bool.eq_false_iff.2 h) id)
  case registered r =>
    rw [addRule, hu]
    split
    · exact hb
    · next h =>
      exact (b.put_replaceOr _ _).forall_mem hb
        (.of_inside_none rfl rfl (Bool.eq_false_iff.2 h) id)
  all_goals first
    | exact hframe rfl rfl
    | exact hpush (.of_inside_none rfl rfl trivial id)

theorem isBuilt_foldl_addRule (ht : goal.targets = none) (hu : goal.unused = unused)
    (hi : inner.IsPlain) (hp : inner.Preserves unused) (hn : inner.Tidies unused depth)
    (hup : b.upgrades = []) (hb : ∀ r ∈ b.rules, r.IsBuilt unused p depth) {rules : List Rule}
    (hr : ∀ r ∈ rules, r.depth ≤ depth + 1) :
    ∀ r ∈ (rules.foldl (addRule goal inner p) b).rules, r.IsBuilt unused p depth := by
  induction rules generalizing b with
  | nil => exact hb
  | cons r rules ih =>
    obtain ⟨hr, hrest⟩ := List.forall_mem_cons.1 hr
    exact ih (upgrades_addRule ht hi hup r) (isBuilt_addRule ht hu hi hp hn hup hb hr) hrest

end Rules

/-! ## Layers -/

theorem tidy_layerNames {names : List LayerName} (h : names ≠ []) :
    Tidy unused p (.layerNames names) := .of_inside_none h id rfl

theorem tidy_extend {l : Layered} (h : ∀ r ∈ l.rules, r.depth ≤ depth + 1 ∧ Tidy unused p r)
    (i : Nat) (n : LayerName) :
    ∀ r ∈ (l.extend i n).rules, r.depth ≤ depth + 1 ∧ Tidy unused p r := by
  have hset : ∀ names j, ∀ r ∈ l.rules.set j (.layerNames (names ++ [n])),
      r.depth ≤ depth + 1 ∧ Tidy unused p r := fun names =>
    forall_mem_set h ⟨Nat.succ_le_succ (Nat.zero_le _), tidy_layerNames (by simp)⟩
  unfold Layered.extend
  dsimp only
  split
  · exact hset _ _
  · exact h

theorem tidy_addLayered {inner : List Upgrade → List Rule → List Rule × List Upgrade}
    (hi : ∀ rules, (inner [] rules).2 = [])
    (hn : ∀ rules, rulesDepth rules ≤ depth →
      rulesDepth (inner [] rules).1 ≤ depth ∧ TidyIn unused p (inner [] rules).1)
    {l : Layered} (hup : l.upgrades = [])
    (hl : ∀ r ∈ l.rules, r.depth ≤ depth + 1 ∧ Tidy unused p r) {r : Rule}
    (hr : r.IsBuilt unused p depth) :
    ∀ x ∈ (l.add inner r).rules, x.depth ≤ depth + 1 ∧ Tidy unused p x := by
  have hpush : r.isLayer = false →
      ∀ x ∈ r :: l.rules, x.depth ≤ depth + 1 ∧ Tidy unused p x :=
    fun h => List.forall_mem_cons.2 ⟨⟨hr.depth_le, hr.tidy h⟩, hl⟩
  have hremoved : Rule.removed.depth ≤ depth + 1 ∧ Tidy unused p .removed :=
    ⟨Nat.succ_le_succ (Nat.zero_le _), .of_inside_none trivial id rfl⟩
  cases r
  case layer name rules =>
    obtain ⟨hdepth, htidy⟩ := hn rules (Nat.le_of_succ_le_succ hr.depth_le)
    rw [Layered.add_layer hi hup]
    split
    · exact List.forall_mem_cons.2
        ⟨⟨Nat.succ_le_succ hdepth, .of_inside trivial id rfl htidy⟩, hl⟩
    · split
      · exact List.forall_mem_cons.2 ⟨hremoved, hl⟩
      · split
        · exact List.forall_mem_cons.2 ⟨hremoved, hl⟩
        · split
          · exact List.forall_mem_cons.2
              ⟨hremoved, tidy_extend (l := { l with declared := _ :: l.declared }) hl _ _⟩
          · exact List.forall_mem_cons.2
              ⟨⟨Nat.succ_le_succ (Nat.zero_le _), tidy_layerNames (by simp)⟩, hl⟩
  case import_ i =>
    rw [Layered.add]
    split <;> exact hpush rfl
  all_goals exact hpush rfl

theorem tidy_settleLayers {inner : List Upgrade → List Rule → List Rule × List Upgrade}
    (hi : ∀ rules, (inner [] rules).2 = [])
    (hn : ∀ rules, rulesDepth rules ≤ depth →
      rulesDepth (inner [] rules).1 ≤ depth ∧ TidyIn unused p (inner [] rules).1)
    {b : Built} (hup : b.upgrades = []) (hb : ∀ r ∈ b.rules, r.IsBuilt unused p depth) :
    rulesDepth (settleLayers inner b).1 ≤ depth + 1 ∧
      TidyIn unused p (settleLayers inner b).1 := by
  have hfold : ∀ (rules : List Rule) (l : Layered), l.upgrades = [] →
      (∀ r ∈ l.rules, r.depth ≤ depth + 1 ∧ Tidy unused p r) →
      (∀ r ∈ rules, r.IsBuilt unused p depth) →
      ∀ r ∈ (rules.foldl (Layered.add inner) l).rules, r.depth ≤ depth + 1 ∧ Tidy unused p r := by
    intro rules
    induction rules with
    | nil => exact fun _ _ h _ => h
    | cons r rules ih =>
      intro l hup hl hrules
      obtain ⟨hr, hrest⟩ := List.forall_mem_cons.1 hrules
      exact ih _ (Layered.upgrades_add hi hup r) (tidy_addLayered hi hn hup hl hr) hrest
  have hb' : ∀ r ∈ b.rules.reverse, r.IsBuilt unused p depth := fun r hr =>
    hb r (List.mem_reverse.1 hr)
  unfold settleLayers
  dsimp only
  split
  · have hall := hfold b.rules.reverse { upgrades := b.upgrades } hup (List.forall_mem_nil _) hb'
    constructor
    · rw [rulesDepth_le_iff]
      exact fun r hr => (hall r (List.mem_reverse.1 hr)).1
    · exact fun r hr _ => (hall r (List.mem_reverse.1 hr)).2
  · next hnamed =>
    refine ⟨rulesDepth_le_iff.2 fun r hr => (hb' r hr).depth_le, fun r hr hset => ?_⟩
    refine (hb' r hr).tidy ?_
    have hnone : ∀ x ∈ b.rules.reverse, x.namesLayer = false := by
      intro x hx
      have hnames := (hb' x hx).isNames_eq
      rw [hasNamedLayer, Bool.not_eq_true, List.any_eq_false] at hnamed
      have hx := hnamed x hx
      cases x with
      | layer name rules =>
        cases name with
        | none => rfl
        | some n => exact absurd rfl hx
      | layerNames names => exact hnames
      | _ => rfl
    rcases hset with h | h
    · exact Rule.isLayer_eq_false h (hnone r hr)
    · obtain ⟨x, hx, hnames⟩ := List.any_eq_true.1 h
      rw [hnone x hx] at hnames
      cases hnames

/-! ## Normal forms -/

theorem tidies_normalizeTo (unused : NameSet) (depth : Nat) :
    (normalizeTo depth).Tidies unused depth := by
  induction depth with
  | zero =>
    intro goal _ _ p rules hdepth
    refine ⟨hdepth, fun r hr => ?_⟩
    have hpos : 0 < r.depth := by cases r <;> exact Nat.succ_pos _
    have hle := rulesDepth_le_iff.1 hdepth r hr
    omega
  | succ depth ih =>
    intro goal ht hu p rules hdepth
    have hi := normalizeTo_isPlain depth
    have hup := upgrades_foldl_addRule p ht hi (b := { upgrades := [] }) rfl rules
    exact tidy_settleLayers (hi goal ht p) (ih goal ht hu p) hup
      (isBuilt_foldl_addRule ht hu hi (survivesIn_normalizeTo_iff depth) ih rfl
        (List.forall_mem_nil _) (rulesDepth_le_iff.1 hdepth))

/-- **Normal forms are tidy.** -/
theorem tidy_normalizeRules (ht : goal.targets = none) (rules : List Rule) :
    TidyIn goal.unused false (normalizeRules goal rules) :=
  (tidies_normalizeTo goal.unused (rulesDepth rules) goal ht rfl false rules (Nat.le_refl _)).2

end StyleBuild.Css
