import StyleBuild.Proofs.Css.Surviving

/-!
# Where rules in normal form come from

What a rule of a list in normal form says at a place, some rule of the list says at that place
before (`Traced.normalizeTo`). A property of rules is `Traced` if that holds of the single steps:
of the normal form of a block, of merging two style rules and of settling a layer.
-/

namespace StyleBuild.Css

variable {goal : Goal} {unused : NameSet} {P : Rule → Prop} {path : List Frame}

/-! ## Properties that are traced -/

/-- Whether a rule is a style rule. -/
def Rule.isStyle : Rule → Bool
  | .style _ _ _ _ | .nesting _ _ _ => true
  | _ => false

theorem Rule.isStyle_of_inside {r : Rule} {f : Frame} {rules : List Rule}
    (h : r.inside? = some (f, rules)) (hf : f.isPlain = true) : r.isStyle = false := by
  cases r <;> cases h <;> first | rfl | cases hf

/-- What holds of a rule that some step of normalising for unused names made holds of a rule that
the step was given. Of the rules nested in a style rule it may matter whether any survive. -/
structure Traced (unused : NameSet) (P : Rule → Prop) : Prop where
  shell : ∀ {r r' : Rule}, r.isStyle = false → P r → r.shell = r'.shell → P r'
  removed : ¬ P .removed
  style : ∀ {goal : Goal} {ss block rules rules' q q'}, goal.unused = unused →
    (SurvivesIn unused (goal.isUnused false ss) rules' ↔
      SurvivesIn unused (goal.isUnused false ss) rules) →
    P (.style ss (goal.body (goal.isUnused false ss) block) rules' q') →
      P (.style ss block rules q)
  nesting : ∀ {goal : Goal} {gone ss block rules rules'},
    P (.nesting ss (goal.body gone block) rules') → P (.nesting ss block rules)
  declarations : ∀ {goal block position},
    P (.declarations (Block.normalize goal position block []).1) → P (.declarations block)
  merge : ∀ {goal last new m}, Style.mergeInto? goal last new = some m →
    P m.kept.toRule → P last.toRule ∨ P new.toRule
  keyframes : ∀ {goal name p q frames},
    P (.keyframes name p (frames.map (Keyframe.normalize goal))) → P (.keyframes name q frames)
  declared : ∀ {names n}, n ∈ names → P (.layer (some n) []) → P (.layerNames names)
  settled : ∀ {n}, P (.layerNames [n]) → P (.layer (some n) [])
  extended : ∀ {names n}, P (.layerNames (names ++ [n])) →
    P (.layerNames names) ∨ P (.layer (some n) [])

/-- A normaliser without targets whose rules come from those that it is given. -/
def Normalizer.Traces (unused : NameSet) (P : Rule → Prop) (inner : Normalizer) : Prop :=
  ∀ goal : Goal, goal.targets = none → goal.unused = unused → ∀ parentUnused rules path,
    Has P path (inner goal parentUnused [] rules).1 → Has P path rules

/-- A rule stands where another one with the same shell does, if what is in it stands there too. -/
theorem Rule.Holds.of_shell {r r' : Rule} (hP : P r → r.shell = r'.shell → P r')
    (hr : r.Holds P path) (hs : r.shell = r'.shell) {f : Frame} {rules rules' : List Rule}
    (h : r.inside? = some (f, rules)) (h' : r'.inside? = some (f, rules'))
    (hin : ∀ path, Has P path rules → Has P path rules') : r'.Holds P path := by
  cases path with
  | nil => exact hP hr hs
  | cons g path =>
    rw [holds_cons_of_inside h] at hr
    rw [holds_cons_of_inside h']
    exact ⟨hr.1, hin path hr.2⟩

theorem Has.of_declareLayer {b : Built} {name : LayerName}
    (h : Has P path (b.declareLayer name).rules) :
    Has P path b.rules ∨ path = [] ∧ P (.layer (some name) []) := by
  rw [Built.declareLayer_eq] at h
  obtain ⟨old, hold, hput⟩ := b.put_addLayer name []
  refine (hput.of_has h).elim .inl fun h => ?_
  rw [List.append_nil] at h
  rcases hold with rfl | hold
  · cases path with
    | nil => exact .inr ⟨rfl, h⟩
    | cons f path => exact absurd ((holds_cons_of_inside rfl).1 h).2 Has.not_nil
  · exact .inl ⟨_, hold, h⟩

/-- What stands in layers after a layer was added stood in one before, or in the new one. -/
theorem Has.of_addLayer {b : Built} {name : LayerName} {rules : List Rule} {f : Frame}
    (h : Has P (f :: path) (b.addLayer name rules).rules) :
    Has P (f :: path) b.rules ∨ (Rule.layer (some name) rules).Holds P (f :: path) := by
  obtain ⟨old, hold, hput⟩ := b.put_addLayer name rules
  refine (hput.of_has h).elim .inl fun h => ?_
  obtain ⟨hs, h⟩ := (holds_cons_of_inside rfl).1 h
  rcases Has.append_iff.1 h with h | h
  · rcases hold with rfl | hold
    · exact absurd h Has.not_nil
    · exact .inl ⟨_, hold, (holds_cons_of_inside rfl).2 ⟨hs, h⟩⟩
  · exact .inr ((holds_cons_of_inside rfl).2 ⟨hs, h⟩)

namespace Traced

variable (hP : Traced unused P)
include hP

theorem holds_of_merge {last new : Style} {m : Style.Merger}
    (h : last.mergeInto? goal new = some m) (hm : m.kept.toRule.Holds P path) :
    last.toRule.Holds P path ∨ new.toRule.Holds P path := by
  cases path with
  | nil => exact hP.merge h hm
  | cons f path =>
    obtain ⟨-, -, hk, -⟩ := Style.mergeInto?_cases h
    have hin : m.kept.toRule.inside? = some (.nested, m.kept.rules) := rfl
    have hm := (holds_cons_of_inside hin).1 hm
    rw [hk] at hm
    exact absurd hm.2 Has.not_nil

theorem settle {last : Style} {rules : List Rule}
    (h : Has P path (Built.settle goal last rules)) :
    last.toRule.Holds P path ∨ Has P path rules := by
  induction rules generalizing last with
  | nil => simpa [Built.settle, Has] using h
  | cons r rules ih =>
    rcases Built.settle_cons goal last r rules with ⟨s, m, rfl, hm, hsettle⟩ | hsettle
    · rw [hsettle] at h
      rw [Has.cons_iff]
      rcases ih h with h | h
      · rcases hP.holds_of_merge hm h with h | h
        · exact .inr (.inl h)
        · exact .inl h
      · exact .inr (.inr h)
    · rwa [hsettle, Has.cons_iff] at h

theorem merge? {b : Built} {s : Style} {m : Built × Style} (hm : b.merge? goal s = some m)
    (h : Has P path m.1.rules) : Has P path b.rules ∨ s.toRule.Holds P path := by
  obtain ⟨last, rest, k, hr, hk, rfl⟩ := Built.merge?_cases hm
  rw [hr, Has.cons_iff]
  rcases hP.settle h with h | h
  · exact (hP.holds_of_merge hk h).imp_left .inl
  · exact .inl (.inr h)

theorem not_holds_removed : ¬ Rule.Holds P path .removed :=
  fun h => hP.removed (holds_of_inside_none rfl h).2

theorem pushed {b b' : Built} {s : Style} (hb : b.Pushed s b') (h : Has P path b'.rules) :
    Has P path b.rules ∨ s.toRule.Holds P path := by
  cases hb with
  | nested | noted => exact (Has.cons_iff.1 h).symm
  | overriding =>
    rcases Has.of_set h with h | h
    · exact (Has.cons_iff.1 h).symm
    · exact absurd h hP.not_holds_removed

theorem addStyle (ht : goal.targets = none) {b : Built} (hb : b.upgrades = [])
    {ss : List Selector} {block : Block} {rules : List Rule}
    (h : Has P path (b.addStyle goal ss block rules).rules) :
    Has P path b.rules ∨ (Style.written ss block rules).toRule.Holds P path := by
  rw [addStyle_eq ht hb] at h
  split at h
  · next m hm => exact hP.merge? hm h
  · split at h
    · exact .inl h
    · exact hP.pushed (b.pushed_pushStyle _) h

theorem addLayer {b : Built} {name : LayerName} {rules : List Rule}
    (h : Has P path (b.addLayer name rules).rules) :
    Has P path b.rules ∨ (Rule.layer (some name) rules).Holds P path := by
  cases path with
  | cons f path => exact Has.of_addLayer h
  | nil =>
    obtain ⟨old, -, hput⟩ := b.put_addLayer name rules
    exact (hput.of_has h).imp_right fun h =>
      hP.shell (r := .layer (some name) (old ++ rules)) rfl h rfl

theorem declareLayers {b : Built} {names : List LayerName}
    (h : Has P path (names.foldl Built.declareLayer b).rules) :
    Has P path b.rules ∨ (Rule.layerNames names).Holds P path := by
  have hfold : ∀ (rest : List LayerName) (b : Built), (∀ n ∈ rest, n ∈ names) →
      Has P path (rest.foldl Built.declareLayer b).rules →
      Has P path b.rules ∨ (Rule.layerNames names).Holds P path := by
    intro rest
    induction rest with
    | nil => exact fun _ _ h => .inl h
    | cons n rest ih =>
      intro b hn hb
      rcases ih _ (fun m hm => hn m (List.mem_cons_of_mem _ hm)) hb with hb | hb
      · rcases Has.of_declareLayer hb with hb | ⟨hpath, hname⟩
        · exact .inl hb
        · subst hpath
          exact .inr (hP.declared (hn n List.mem_cons_self) hname)
      · exact .inr hb
  exact hfold names b (fun _ h => h) h

theorem addKeyframes (ht : goal.targets = none) {b : Built} {name : KeyframesName} {q : Prefixes}
    {frames : List Keyframe} (h : Has P path (b.addKeyframes goal name q frames).rules) :
    Has P path b.rules ∨ (Rule.keyframes name q frames).Holds P path := by
  obtain ⟨q', hput⟩ := b.put_addKeyframes ht name q frames
  refine (hput.of_has h).imp_right fun h => ?_
  obtain ⟨rfl, h⟩ := holds_of_inside_none rfl h
  exact hP.keyframes h

/-! ## Rules and lists -/

variable {inner : Normalizer} {parentUnused : Bool} {b : Built} {r : Rule}

omit hP in
theorem children (ht : goal.targets = none) (hu : goal.unused = unused)
    (hn : inner.Traces unused P) {gone : Bool} {rules : List Rule}
    (h : Has P path (inner.children goal gone rules)) :
    Has P path rules := by
  unfold Normalizer.children at h
  split at h
  · exact absurd h Has.not_nil
  · exact hn goal ht hu gone rules path h

theorem added {normal : List Rule → List Rule} {b' : Built} {f : Frame} {rules : List Rule}
    (hn : ∀ rules path, Has P path (normal rules) → Has P path rules)
    (hr : r.inside? = some (f, rules)) (hf : f.isPlain = true) (ha : Added normal b r f rules b')
    (h : Has P path b'.rules) : Has P path b.rules ∨ r.Holds P path := by
  cases ha with
  | joined _ hb hl hg hs hin =>
    have hstyle := Rule.isStyle_of_inside hin ((Frame.isPlain_eq_of_beq hg).trans hf)
    rw [hb, Has.cons_iff]
    rcases Has.cons_iff.1 h with h | h
    · cases path with
      | nil => exact .inl (.inl (hP.shell hstyle h hs))
      | cons k path =>
        obtain ⟨hk, h⟩ := (holds_cons_of_inside hin).1 h
        rcases Has.append_iff.1 (hn _ _ h) with h | h
        · exact .inl (.inl ((holds_cons_of_inside hl).2 ⟨hk, h⟩))
        · exact .inr ((holds_cons_of_inside hr).2 ⟨(Frame.Same.of_beq hg).symm.trans hk, h⟩)
    · exact .inl (.inr h)
  | behind _ hs hin =>
    rcases Has.cons_iff.1 h with h | h
    · exact .inr (Rule.Holds.of_shell (hP.shell (Rule.isStyle_of_inside hin hf)) h hs hin hr
        (hn _))
    · exact .inl h
  | nothing => exact .inl h

theorem addRule (ht : goal.targets = none) (hu : goal.unused = unused) (hi : inner.IsPlain)
    (hp : inner.Preserves unused) (hn : inner.Traces unused P) (hb : b.upgrades = [])
    (h : Has P path (addRule goal inner parentUnused b r).rules) :
    Has P path b.rules ∨ r.Holds P path := by
  have hpush : ∀ {r' : Rule}, Has P path (b.push r').rules → Has P path b.rules ∨ r'.Holds P path :=
    fun h => (Has.cons_iff.1 h).symm
  have hframe : ∀ {f rules}, r.inside? = some (f, rules) → f.isPlain = true →
      Has P path b.rules ∨ r.Holds P path := by
    intro f rules hr hf
    obtain ⟨goal', parent', ht', hu', -, ha⟩ := addRule_frame parentUnused ht hi hb hr hf
    exact hP.added (hn goal' ht' (hu'.trans hu) parent') hr hf ha h
  cases r
  case style ss block rules q =>
    rw [addRule_style ht hb rfl] at h
    cases parentUnused with
    | true => exact .inl h
    | false =>
      rw [if_neg Bool.false_ne_true] at h
      split at h
      · exact .inl h
      · refine (hP.addStyle ht hb h).imp_right fun h => ?_
        cases path with
        | nil => exact hP.style hu (survivesIn_children_iff ht hu hp) h
        | cons f path =>
          obtain ⟨hf, h⟩ := (holds_cons_of_inside rfl).1 h
          exact (holds_cons_of_inside rfl).2 ⟨hf, children ht hu hn h⟩
  case nesting ss block rules =>
    rw [addRule_nesting ht hb rfl] at h
    split at h
    · exact .inl h
    · refine (hpush h).imp_right fun h => ?_
      cases path with
      | nil => exact hP.nesting h
      | cons f path =>
        obtain ⟨hf, h⟩ := (holds_cons_of_inside rfl).1 h
        exact (holds_cons_of_inside rfl).2 ⟨hf, children ht hu hn h⟩
  case declarations block =>
    rw [addRule_declarations ht hb] at h
    split at h
    · exact .inl h
    · refine (hpush h).imp_right fun h => ?_
      obtain ⟨rfl, h⟩ := holds_of_inside_none rfl h
      exact hP.declarations h
  case layer name rules =>
    cases name with
    | none => exact hpush h
    | some n => exact hP.addLayer h
  case layerNames names => exact hP.declareLayers h
  case keyframes name q frames =>
    rw [Css.addRule] at h
    split at h
    · exact .inl h
    · exact hP.addKeyframes ht h
  case registered p =>
    rw [Css.addRule] at h
    split at h
    · exact .inl h
    · exact (b.put_replaceOr _ _).of_has h
  all_goals first
    | exact hframe rfl rfl
    | exact hpush h

theorem foldl_addRule (ht : goal.targets = none) (hu : goal.unused = unused) (hi : inner.IsPlain)
    (hp : inner.Preserves unused) (hn : inner.Traces unused P) (hb : b.upgrades = [])
    {rules : List Rule}
    (h : Has P path (rules.foldl (Css.addRule goal inner parentUnused) b).rules) :
    Has P path b.rules ∨ Has P path rules := by
  induction rules generalizing b with
  | nil => exact .inl h
  | cons r rules ih =>
    rw [Has.cons_iff]
    rcases ih (upgrades_addRule ht hi hb r) h with h | h
    · exact (hP.addRule ht hu hi hp hn hb h).imp_right .inl
    · exact .inr (.inr h)

/-! ## Layers -/

theorem extend {l : Layered} {i : Nat} {n : LayerName} (h : Has P path (l.extend i n).rules) :
    Has P path l.rules ∨ path = [] ∧ P (.layer (some n) []) := by
  unfold Layered.extend at h
  dsimp only at h
  split at h
  · next names hj =>
    rcases Has.of_set h with h | h
    · exact .inl h
    · obtain ⟨rfl, h⟩ := holds_of_inside_none rfl h
      exact (hP.extended h).imp (fun h => ⟨_, List.mem_of_getElem? hj, h⟩) fun h => ⟨rfl, h⟩
  · exact .inl h

theorem addLayered {inner : List Upgrade → List Rule → List Rule × List Upgrade}
    (hi : ∀ rules, (inner [] rules).2 = [])
    (hn : ∀ rules path, Has P path (inner [] rules).1 → Has P path rules) {l : Layered}
    (hl : l.upgrades = []) (h : Has P path (l.add inner r).rules) :
    Has P path l.rules ∨ r.Holds P path := by
  have hremoved : Has P path (.removed :: l.rules) → Has P path l.rules :=
    fun h => (Has.cons_iff.1 h).resolve_left hP.not_holds_removed
  cases r
  case layer name rules =>
    have hempty : path = [] ∧ P (.layer name []) → (Rule.layer name rules).Holds P path := by
      rintro ⟨rfl, hempty⟩
      exact hP.shell rfl hempty rfl
    rw [Layered.add_layer hi hl] at h
    split at h
    · rcases Has.cons_iff.1 h with h | h
      · exact .inr (Rule.Holds.of_shell (hP.shell rfl) h rfl rfl rfl (hn rules))
      · exact .inl h
    · split at h
      · exact .inl (hremoved h)
      · split at h
        · exact .inl (hremoved h)
        · split at h
          · rcases Has.cons_iff.1 h with h | h
            · exact absurd h hP.not_holds_removed
            · exact (hP.extend h).imp_right hempty
          · rcases Has.cons_iff.1 h with h | h
            · obtain ⟨rfl, h⟩ := holds_of_inside_none rfl h
              exact .inr (hempty ⟨rfl, hP.settled h⟩)
            · exact .inl h
  case import_ i =>
    rw [Layered.add] at h
    split at h <;> exact (Has.cons_iff.1 h).symm
  all_goals exact (Has.cons_iff.1 h).symm

theorem settleLayers {inner : List Upgrade → List Rule → List Rule × List Upgrade}
    (hi : ∀ rules, (inner [] rules).2 = [])
    (hn : ∀ rules path, Has P path (inner [] rules).1 → Has P path rules) {b : Built}
    (hb : b.upgrades = []) (h : Has P path (Css.settleLayers inner b).1) : Has P path b.rules := by
  have hfold : ∀ (rules : List Rule) (l : Layered), l.upgrades = [] →
      Has P path (rules.foldl (Layered.add inner) l).rules →
      Has P path l.rules ∨ Has P path rules := by
    intro rules
    induction rules with
    | nil => exact fun _ _ h => .inl h
    | cons r rules ih =>
      intro l hl h
      rw [Has.cons_iff]
      rcases ih _ (Layered.upgrades_add hi hl r) h with h | h
      · exact (hP.addLayered hi hn hl h).imp_right .inl
      · exact .inr (.inr h)
  unfold Css.settleLayers at h
  dsimp only at h
  split at h
  · rw [Has.reverse_iff] at h
    exact Has.reverse_iff.1 ((hfold _ _ hb h).resolve_left Has.not_nil)
  · exact Has.reverse_iff.1 h

/-- Where a rule in normal form stands, one stood before. -/
theorem normalizeTo (depth : Nat) : (Css.normalizeTo depth).Traces unused P := by
  induction depth with
  | zero => exact fun _ _ _ _ _ _ h => h
  | succ depth ih =>
    intro goal ht hu parentUnused rules path h
    have hi := normalizeTo_isPlain depth
    have hb := upgrades_foldl_addRule parentUnused ht hi (b := { upgrades := [] }) rfl rules
    have h := hP.settleLayers (hi goal ht parentUnused) (ih goal ht hu parentUnused) hb h
    exact (hP.foldl_addRule ht hu hi (survivesIn_normalizeTo_iff depth) ih rfl h).resolve_left
      Has.not_nil

end Traced

end StyleBuild.Css
