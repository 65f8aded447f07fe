import StyleBuild.Proofs.Css.Tracing

/-!
# What rules in normal form keep

What a rule of a list says at a place, some rule of the list in normal form still says at that
place (`Lasting.normalizeTo`). A property of rules is `Lasting` for some unused names if that holds
of the single steps, and if no rule with the property is dropped as unused or empty. The places are
those behind live frames: the rules of a media query that holds nowhere go, and those nested in a
style rule go with it when it is overridden.
-/

namespace StyleBuild.Css

variable {goal : Goal} {unused : NameSet} {P : Rule → Prop} {path : List Frame}

/-- Two style rules have the same key if they set the same properties for the same selectors, vendor
spellings aside. -/
def SameKey (k l : List Selector × List PropertyId) : Prop :=
  List.Forall₂ Selector.Same k.1 l.1 ∧ k.2 = l.2

namespace SameKey

variable {k l : List Selector × List PropertyId}

theorem symm (h : SameKey k l) : SameKey l k := ⟨forall₂_same_symm h.1, h.2.symm⟩

theorem of_beq (h : (k == l) = true) : SameKey k l := by
  have h : (k.1 == l.1 && k.2 == l.2) = true := h
  rw [Bool.and_eq_true] at h
  exact ⟨forall₂_same_of_beq h.1, eq_of_beq h.2⟩

end SameKey

/-- Normalising for some unused names leaves what a rule says, or hands it to another rule. Of the
rules nested in a style rule it may matter whether any survive. -/
structure Lasting (unused : NameSet) (P : Rule → Prop) : Prop where
  shell : ∀ {r r' : Rule}, r.isStyle = false → P r → r.shell = r'.shell → P r'
  conditional : ∀ {r : Rule}, P r → r.isConditional = false
  unnamed : ¬ P (.layer none [])
  nesting : ∀ {ss block rules}, ¬ P (.nesting ss block rules)
  declarations : ∀ {block}, ¬ P (.declarations block)
  keyframes : ∀ {name q frames}, P (.keyframes name q frames) →
    unused.contains name.value = false ∧ ∀ q frames, P (.keyframes name q frames)
  style : ∀ {goal : Goal} {ss block rules rules' q q'}, goal.unused = unused →
    (SurvivesIn unused (goal.isUnused false ss) rules' ↔
      SurvivesIn unused (goal.isUnused false ss) rules) →
    P (.style ss block rules q) → (goal.isUnused false ss && rules'.isEmpty) = false ∧
      P (.style ss (goal.body (goal.isUnused false ss) block) rules' q')
  nonempty : ∀ {s : Style}, P s.toRule → s.isEmpty = false
  merge : ∀ {goal last new m}, goal.unused = unused → Style.mergeInto? goal last new = some m →
    P last.toRule ∨ P new.toRule → P m.kept.toRule
  key : ∀ {s t : Style}, s.rules = [] → s.toRule.Survives unused false → SameKey t.key s.key →
    P t.toRule → P s.toRule
  named : ∀ {names}, P (.layerNames names) → ∃ n ∈ names, P (.layer (some n) [])
  declared : ∀ {names n}, n ∈ names → P (.layer (some n) []) → P (.layerNames names)
  imported : ∀ {i n}, i.layer = some (some n) → P (.layer (some n) []) → P (.import_ i)
  registered : ∀ {p}, P (.registered p) → unused.contains p.name = false
  replaced : ∀ {p q : Registered}, p.name = q.name → P (.registered p) → P (.registered q)

/-- All frames of a place are live. -/
def IsLive (path : List Frame) : Prop := ∀ f ∈ path, f.isLive = true

theorem IsLive.nil : IsLive [] := List.forall_mem_nil _

theorem IsLive.tail {f : Frame} (h : IsLive (f :: path)) : IsLive path :=
  fun g hg => h g (List.mem_cons_of_mem _ hg)

theorem IsLive.head {f : Frame} (h : IsLive (f :: path)) : f.isLive = true :=
  h f List.mem_cons_self

/-- A normaliser without targets that leaves what rules say at live places. -/
def Normalizer.Keeps (unused : NameSet) (P : Rule → Prop) (inner : Normalizer) : Prop :=
  ∀ goal : Goal, goal.targets = none → goal.unused = unused → ∀ rules path, IsLive path →
    Has P path rules → Has P path (inner goal false [] rules).1

/-- For every key that a list remembers, what a style rule of this key says is said in the list. The
rule for which the key was noted need not stand at its place any more. -/
def Built.Remembers (P : Rule → Prop) (b : Built) : Prop :=
  ∀ k ∈ b.keys, ∀ s : Style, SameKey s.key k.1 → P s.toRule → Has P [] b.rules

/-- A list says all that another one said, and remembers keys as it should. -/
structure Built.Keeps (P : Rule → Prop) (b b' : Built) : Prop where
  has : ∀ path, IsLive path → Has P path b.rules → Has P path b'.rules
  remembers : b'.Remembers P

/-- At a live place nothing stands in a style rule but itself. -/
theorem holds_of_nested {r : Rule} {rules : List Rule} (hr : r.inside? = some (.nested, rules))
    (hlive : IsLive path) (h : r.Holds P path) : path = [] ∧ P r := by
  cases path with
  | nil => exact ⟨rfl, h⟩
  | cons f path =>
    have hf := hlive.head
    rw [← ((holds_cons_of_inside hr).1 h).1.isLive_eq] at hf
    cases hf

namespace Built.Keeps

variable {b b' b'' : Built}

theorem trans (h : b.Keeps P b') (h' : b'.Keeps P b'') : b.Keeps P b'' :=
  ⟨fun path hp hb => h'.has path hp (h.has path hp hb), h'.remembers⟩

theorem refl (hb : b.Remembers P) : b.Keeps P b := ⟨fun _ _ h => h, hb⟩

/-- A list that keeps its keys remembers what it should if it says what was said. -/
theorem of_keys (hb : b.Remembers P) (hk : b'.keys = b.keys)
    (h : ∀ path, IsLive path → Has P path b.rules → Has P path b'.rules) : b.Keeps P b' := by
  refine ⟨h, fun k hmem => ?_⟩
  rw [hk] at hmem
  exact fun s hs hP => h [] .nil (hb k hmem s hs hP)

theorem push (hb : b.Remembers P) (r : Rule) : b.Keeps P (b.push r) :=
  of_keys hb rfl fun _ _ h => Has.cons_iff.2 (.inr h)

/-- Putting a rule into a list keeps what the list says if the rule says what those say in the place
of which it may come. -/
theorem put (hb : b.Remembers P) {old : Rule → Prop} {r : Rule} (h : b.Put old r b')
    (hold : ∀ x path, old x → x.Holds P path → r.Holds P path) : b.Keeps P b' :=
  of_keys hb h.keys_eq fun path _ hhas => h.keeps (hold · path) hhas

end Built.Keeps

/-- The layers that count as declared are declared by some rule, and the place of the statement for
further ones is one of a statement. -/
structure Layered.Sound (P : Rule → Prop) (l : Layered) : Prop where
  declared : ∀ n ∈ l.declared, P (.layer (some n) []) → Has P [] l.rules
  statement : ∀ i, l.statement = some i →
    i < l.rules.length ∧ ∃ names, l.rules[l.rules.length - 1 - i]? = some (.layerNames names)

theorem Layered.Sound.nil {upgrades : List Upgrade} : Layered.Sound P { upgrades } where
  declared := List.forall_mem_nil _
  statement := by simp

theorem Layered.Sound.push {l : Layered} (hl : l.Sound P) (r : Rule) : (l.push r).Sound P where
  declared n hn h := Has.cons_iff.2 (.inr (hl.declared n hn h))
  statement i hi := by
    obtain ⟨hlt, names, hget⟩ := hl.statement i hi
    refine ⟨Nat.lt_succ_of_lt hlt, names, ?_⟩
    have hplace : (l.push r).rules.length - 1 - i = l.rules.length - 1 - i + 1 := by
      change l.rules.length + 1 - 1 - i = _
      omega
    rw [hplace]
    exact hget

namespace Lasting

variable (hP : Lasting unused P)
include hP

/-! ## Style rules -/

theorem settle (hu : goal.unused = unused) (hlive : IsLive path) {last : Style}
    {rules : List Rule} (h : last.toRule.Holds P path ∨ Has P path rules) :
    Has P path (Built.settle goal last rules) := by
  induction rules generalizing last with
  | nil =>
    rw [Built.settle]
    exact Has.cons_iff.2 h
  | cons r rules ih =>
    rcases Built.settle_cons goal last r rules with ⟨s, m, rfl, hm, hsettle⟩ | hsettle
    · rw [Has.cons_iff, ← or_assoc] at h
      rw [hsettle]
      refine ih (h.imp_left fun h => ?_)
      obtain rfl : path = [] := by
        rcases h with h | h <;> exact (holds_of_nested rfl hlive h).1
      exact hP.merge hu hm h.symm
    · rw [hsettle]
      exact Has.cons_iff.2 h

theorem merge? (hu : goal.unused = unused) (hlive : IsLive path) {b : Built} {s : Style}
    {m : Built × Style} (hm : b.merge? goal s = some m)
    (h : Has P path b.rules ∨ s.toRule.Holds P path) : Has P path m.1.rules := by
  obtain ⟨last, rest, k, hr, hk, rfl⟩ := Built.merge?_cases hm
  rw [hr, Has.cons_iff, or_right_comm] at h
  refine hP.settle hu hlive (h.imp_left fun h => ?_)
  obtain rfl : path = [] := by
    rcases h with h | h <;> exact (holds_of_nested rfl hlive h).1
  exact hP.merge hu hk h

/-- An overridden rule said what the rule behind says. If the place that was noted is that of the
new rule itself, then what the rule that was noted said is said elsewhere. -/
theorem override {b : Built} (hb : b.Remembers P) {s t : Style} (hflat : s.rules = [])
    (hs : s.toRule.Survives unused false) {k : (List Selector × List PropertyId) × Nat}
    (hmem : k ∈ b.keys) (hk : (k.1 == s.key) = true) {i : Nat}
    (hi : (s.toRule :: b.rules)[i]? = some t.toRule) (ht : (t.key == s.key) = true)
    (hlive : IsLive path) (h : Has P path (s.toRule :: b.rules)) :
    Has P path ((s.toRule :: b.rules).set i .removed) := by
  refine h.set fun x hx hold => ?_
  obtain rfl := Option.some.inj (hi.symm.trans hx)
  obtain ⟨rfl, hold⟩ := holds_of_nested rfl hlive hold
  have hnew : P s.toRule := hP.key hflat hs (.of_beq ht) hold
  cases i with
  | zero => exact Has.cons_iff.2 (.inr (hb _ hmem s (SameKey.of_beq hk).symm hnew))
  | succ i => exact Has.cons_iff.2 (.inl hnew)

theorem pushed {b b' : Built} (hb : b.Remembers P) {s : Style} (hb' : b.Pushed s b')
    (hs : s.rules = [] → s.toRule.Survives unused false) :
    b.Keeps P b' ∧ ∀ path, IsLive path → s.toRule.Holds P path → Has P path b'.rules := by
  -- the rule is new, so that its key may be noted once it is known to be said
  have hkeep : s.rules = [] → ∀ {rules : List Rule}
      {keys : List ((List Selector × List PropertyId) × Nat)},
      (∀ k ∈ keys, k.1 = s.key ∨ k ∈ b.keys) →
      (∀ path, IsLive path → Has P path (s.toRule :: b.rules) → Has P path rules) →
      b.Keeps P { b with rules, keys } ∧
        ∀ path, IsLive path → s.toRule.Holds P path → Has P path rules := by
    intro hflat rules keys hkeys hrules
    refine ⟨⟨fun path hp h => hrules path hp (Has.cons_iff.2 (.inr h)), fun k hk t ht hP' => ?_⟩,
      fun path hp h => hrules path hp (Has.cons_iff.2 (.inl h))⟩
    refine hrules [] .nil (Has.cons_iff.2 ?_)
    rcases hkeys k hk with hk | hk
    · exact .inl (hP.key hflat (hs hflat) (hk ▸ ht) hP')
    · exact .inr (hb k hk t ht hP')
  cases hb' with
  | nested => exact ⟨.push hb _, fun _ _ h => Has.cons_iff.2 (.inl h)⟩
  | noted hflat hkeys => exact hkeep hflat hkeys fun path _ h => h
  | overriding hflat hkeys hmem hk hi ht =>
    exact hkeep hflat hkeys fun path hp => hP.override hb hflat (hs hflat) hmem hk hi ht hp

theorem addStyle (ht : goal.targets = none) (hu : goal.unused = unused) {b : Built}
    (hb : b.Remembers P) (hup : b.upgrades = []) {gone : Bool} {ss : List Selector}
    (hg : goal.isUnused false ss = gone) (block : Block) (rules : List Rule) :
    b.Keeps P (b.addStyle goal ss (goal.body gone block) rules) ∧
      (P (Style.written ss (goal.body gone block) rules).toRule →
        Has P [] (b.addStyle goal ss (goal.body gone block) rules).rules) := by
  rw [addStyle_eq ht hup]
  split
  · next m hm =>
    have hmerge := fun path (hp : IsLive path) => hP.merge? hu hp hm
    refine ⟨.of_keys hb ?_ fun path hp h => hmerge path hp (.inl h),
      fun h => hmerge [] .nil (.inr h)⟩
    obtain ⟨last, rest, k, -, -, rfl⟩ := Built.merge?_cases hm
    rfl
  · split
    · next hempty =>
      refine ⟨.refl hb, fun h => ?_⟩
      rw [hP.nonempty h] at hempty
      cases hempty
    · next hempty =>
      have hsurvives : rules = [] →
          (Style.written ss (goal.body gone block) rules).toRule.Survives unused false := by
        rintro rfl
        exact survives_written hu hg (Bool.eq_false_iff.2 hempty)
      obtain ⟨hkeep, hnew⟩ := hP.pushed hb (b.pushed_pushStyle (.written ss _ rules)) hsurvives
      exact ⟨hkeep, fun h => hnew [] .nil h⟩

/-! ## Other rules -/

theorem addLayer {b : Built} (hb : b.Remembers P) (name : LayerName) (rules : List Rule) :
    b.Keeps P (b.addLayer name rules) ∧ ∀ path,
      (Rule.layer (some name) rules).Holds P path → Has P path (b.addLayer name rules).rules := by
  obtain ⟨old, -, hput⟩ := b.put_addLayer name rules
  have hold : ∀ {rs path}, rs = old ∨ rs = rules → (Rule.layer (some name) rs).Holds P path →
      (Rule.layer (some name) (old ++ rules)).Holds P path := by
    intro rs path hrs h
    cases path with
    | nil => exact hP.shell rfl h rfl
    | cons f path =>
      obtain ⟨hf, h⟩ := (holds_cons_of_inside rfl).1 h
      exact (holds_cons_of_inside rfl).2 ⟨hf, Has.append_iff.2 (hrs.imp (· ▸ h) (· ▸ h))⟩
  refine ⟨.put hb hput ?_, fun path h => hput.has (hold (.inr rfl) h)⟩
  rintro x path rfl h
  exact hold (.inl rfl) h

theorem declareLayers {b : Built} (hb : b.Remembers P) (names : List LayerName) :
    b.Keeps P (names.foldl Built.declareLayer b) ∧ ∀ n ∈ names, P (.layer (some n) []) →
      Has P [] (names.foldl Built.declareLayer b).rules := by
  induction names generalizing b with
  | nil => exact ⟨.refl hb, List.forall_mem_nil _⟩
  | cons n names ih =>
    obtain ⟨hkeep, hnew⟩ := hP.addLayer hb n []
    rw [List.foldl_cons, Built.declareLayer_eq]
    obtain ⟨hkeep', hnew'⟩ := ih hkeep.remembers
    refine ⟨hkeep.trans hkeep', fun m hm h => ?_⟩
    rcases List.mem_cons.1 hm with rfl | hm
    · exact hkeep'.has [] .nil (hnew [] h)
    · exact hnew' m hm h

theorem addKeyframes (ht : goal.targets = none) {b : Built} (hb : b.Remembers P)
    (name : KeyframesName) (q : Prefixes) (frames : List Keyframe) :
    b.Keeps P (b.addKeyframes goal name q frames) ∧
      (P (.keyframes name q frames) → Has P [] (b.addKeyframes goal name q frames).rules) := by
  obtain ⟨q', hput⟩ := b.put_addKeyframes ht name q frames
  refine ⟨.put hb hput ?_, fun h => hput.has ((hP.keyframes h).2 q' _)⟩
  rintro _ path ⟨old, oldFrames, rfl⟩ h
  obtain ⟨rfl, h⟩ := holds_of_inside_none rfl h
  exact (hP.keyframes h).2 q' _

theorem addRegistered {b : Built} (hb : b.Remembers P) (p : Registered) :
    b.Keeps P (b.replaceOr (fun
        | .registered q => q.name == p.name
        | _ => false) (.registered p)) ∧
      (P (.registered p) → Has P [] (b.replaceOr (fun
        | .registered q => q.name == p.name
        | _ => false) (.registered p)).rules) := by
  refine ⟨.put hb (b.put_replaceOr _ _) fun x path hx h => ?_,
    fun h => (b.put_replaceOr _ _).has h⟩
  obtain ⟨q, rfl, hname⟩ : ∃ q : Registered, x = .registered q ∧ q.name = p.name := by
    split at hx
    · next q => exact ⟨q, rfl, eq_of_beq hx⟩
    · cases hx
  obtain ⟨rfl, h⟩ := holds_of_inside_none rfl h
  exact hP.replaced hname h

theorem added {normal : List Rule → List Rule} {b b' : Built} {r : Rule} {f : Frame}
    {rules : List Rule} (hb : b.Remembers P)
    (hn : ∀ rules path, IsLive path → Has P path rules → Has P path (normal rules))
    (hr : r.inside? = some (f, rules)) (hf : f.isPlain = true)
    (ha : Added normal b r f rules b') :
    b.Keeps P b' ∧ ∀ path, IsLive path → r.Holds P path → Has P path b'.rules := by
  have hcond : ∀ {path}, r.isConditional = true → r.Holds P path → path ≠ [] := by
    rintro path hc h rfl
    have h : P r := h
    rw [hP.conditional h] at hc
    cases hc
  cases ha with
  | @joined last last' g old rest hc hlast hl hg hs hin =>
    have hstyle := Rule.isStyle_of_inside hl ((Frame.isPlain_eq_of_beq hg).trans hf)
    refine ⟨.of_keys hb rfl fun path hp h => ?_, fun path hp h => Has.cons_iff.2 (.inl ?_)⟩
    · rw [hlast, Has.cons_iff] at h
      refine Has.cons_iff.2 (h.imp_left fun h => ?_)
      cases path with
      | nil => exact hP.shell hstyle h hs.symm
      | cons k path =>
        obtain ⟨hk, h⟩ := (holds_cons_of_inside hl).1 h
        exact (holds_cons_of_inside hin).2
          ⟨hk, hn _ _ hp.tail (Has.append_iff.2 (.inl h))⟩
    · cases path with
      | nil => exact absurd rfl (hcond hc h)
      | cons k path =>
        obtain ⟨hk, h⟩ := (holds_cons_of_inside hr).1 h
        exact (holds_cons_of_inside hin).2
          ⟨(Frame.Same.of_beq hg).trans hk, hn _ _ hp.tail (Has.append_iff.2 (.inr h))⟩
  | behind _ hs hin =>
    refine ⟨.push hb _, fun path hp h => Has.cons_iff.2 (.inl ?_)⟩
    cases path with
    | nil => exact hP.shell (Rule.isStyle_of_inside hr hf) h hs.symm
    | cons k path =>
      obtain ⟨hk, h⟩ := (holds_cons_of_inside hr).1 h
      exact (holds_cons_of_inside hin).2 ⟨hk, hn _ _ hp.tail h⟩
  | nothing hc hgone =>
    refine ⟨.refl hb, fun path hp h => ?_⟩
    cases path with
    | nil => exact absurd rfl (hcond hc h)
    | cons k path =>
      obtain ⟨hk, h⟩ := (holds_cons_of_inside hr).1 h
      rcases hgone with hgone | hdead
      · exact absurd hgone (hn _ _ hp.tail h).ne_nil
      · rw [hk.isLive_eq, hp.head] at hdead
        cases hdead

/-! ## Rules and lists -/

variable {inner : Normalizer} {b : Built}

theorem addRule (ht : goal.targets = none) (hu : goal.unused = unused) (hi : inner.IsPlain)
    (hpres : inner.Preserves unused) (hn : inner.Keeps unused P) (hb : b.Remembers P)
    (hup : b.upgrades = []) (r : Rule) :
    b.Keeps P (addRule goal inner false b r) ∧ ∀ path, IsLive path → r.Holds P path →
      Has P path (addRule goal inner false b r).rules := by
  have hpush : ∀ {r' : Rule}, (∀ path, IsLive path → r.Holds P path → r'.Holds P path) →
      b.Keeps P (b.push r') ∧ ∀ path, IsLive path → r.Holds P path →
        Has P path (b.push r').rules :=
    fun h => ⟨.push hb _, fun path hp hr => Has.cons_iff.2 (.inl (h path hp hr))⟩
  have hframe : ∀ {f rules}, r.inside? = some (f, rules) → f.isPlain = true →
      b.Keeps P (Css.addRule goal inner false b r) ∧ ∀ path, IsLive path → r.Holds P path →
        Has P path (Css.addRule goal inner false b r).rules := by
    intro f rules hr hf
    obtain ⟨goal', parent', ht', hu', hp, ha⟩ := addRule_frame false ht hi hup hr hf
    rw [Bool.and_false] at hp
    subst hp
    exact hP.added hb (hn goal' ht' (hu'.trans hu)) hr hf ha
  have hnever : (∀ path, IsLive path → ¬ r.Holds P path) →
      ∀ {b' : Built}, b.Keeps P b' → b.Keeps P b' ∧ ∀ path, IsLive path → r.Holds P path →
        Has P path b'.rules :=
    fun h _ hk => ⟨hk, fun path hp hr => absurd hr (h path hp)⟩
  cases r
  case style ss block rules q =>
    have hstyle : ∀ q', P (.style ss block rules q) →
        (goal.isUnused false ss &&
            (inner.children goal (goal.isUnused false ss) rules).isEmpty) = false ∧
          P (.style ss (goal.body (goal.isUnused false ss) block)
            (inner.children goal (goal.isUnused false ss) rules) q') :=
      fun q' => hP.style hu (survivesIn_children_iff ht hu hpres)
    rw [addRule_style ht hup rfl, if_neg Bool.false_ne_true]
    split
    · next hgone =>
      refine hnever (fun path hp h => ?_) (.refl hb)
      rw [(hstyle q (holds_of_nested rfl hp h).2).1] at hgone
      cases hgone
    · obtain ⟨hk, hnew⟩ := hP.addStyle ht hu hb hup rfl block
        (inner.children goal (goal.isUnused false ss) rules)
      refine ⟨hk, fun path hp h => ?_⟩
      obtain ⟨rfl, h⟩ := holds_of_nested rfl hp h
      exact hnew (hstyle _ h).2
  case nesting ss block rules =>
    refine hnever (fun path hp h => hP.nesting (holds_of_nested rfl hp h).2) ?_
    rw [addRule_nesting ht hup rfl]
    split
    · exact .refl hb
    · exact .push hb _
  case declarations block =>
    refine hnever (fun path _ h => hP.declarations (holds_of_inside_none rfl h).2) ?_
    rw [addRule_declarations ht hup]
    exact .push hb _
  case layer name rules =>
    cases name with
    | none => exact hpush fun _ _ h => h
    | some n =>
      obtain ⟨hk, hnew⟩ := hP.addLayer hb n rules
      exact ⟨hk, fun path _ h => hnew path h⟩
  case layerNames names =>
    obtain ⟨hk, hnew⟩ := hP.declareLayers hb names
    refine ⟨hk, fun path _ h => ?_⟩
    obtain ⟨rfl, h⟩ := holds_of_inside_none rfl h
    obtain ⟨n, hmem, hlayer⟩ := hP.named h
    exact hnew n hmem hlayer
  case keyframes name q frames =>
    rw [Css.addRule]
    split
    · next hunused =>
      refine hnever (fun path _ h => ?_) (.refl hb)
      rw [hu, (hP.keyframes (holds_of_inside_none rfl h).2).1] at hunused
      cases hunused
    · obtain ⟨hk, hnew⟩ := hP.addKeyframes ht hb name q frames
      refine ⟨hk, fun path _ h => ?_⟩
      obtain ⟨rfl, h⟩ := holds_of_inside_none rfl h
      exact hnew h
  case registered p =>
    rw [Css.addRule]
    split
    · next hunused =>
      refine hnever (fun path _ h => ?_) (.refl hb)
      rw [hu, hP.registered (holds_of_inside_none rfl h).2] at hunused
      cases hunused
    · obtain ⟨hk, hnew⟩ := hP.addRegistered hb p
      refine ⟨hk, fun path _ h => ?_⟩
      obtain ⟨rfl, h⟩ := holds_of_inside_none rfl h
      exact hnew h
  all_goals first
    | exact hframe rfl rfl
    | exact hpush fun _ _ h => h

theorem foldl_addRule (ht : goal.targets = none) (hu : goal.unused = unused) (hi : inner.IsPlain)
    (hpres : inner.Preserves unused) (hn : inner.Keeps unused P) (hb : b.Remembers P)
    (hup : b.upgrades = []) (hlive : IsLive path) {rules : List Rule}
    (h : Has P path b.rules ∨ Has P path rules) :
    Has P path (rules.foldl (Css.addRule goal inner false) b).rules := by
  induction rules generalizing b with
  | nil => exact h.resolve_right Has.not_nil
  | cons r rules ih =>
    obtain ⟨hk, hnew⟩ := hP.addRule ht hu hi hpres hn hb hup r
    refine ih hk.remembers (upgrades_addRule ht hi hup r) ?_
    rw [Has.cons_iff] at h
    rcases h with h | h | h
    · exact .inl (hk.has path hlive h)
    · exact .inl (hnew path hlive h)
    · exact .inr h

/-! ## Layers -/

theorem extend {l : Layered} (hl : l.Sound P) {i : Nat} (hi : l.statement = some i)
    (n : LayerName) :
    Layered.Sound P ({ l with declared := n :: l.declared }.extend i n) ∧
      (∀ path, Has P path l.rules →
        Has P path ({ l with declared := n :: l.declared }.extend i n).rules) ∧
      (P (.layer (some n) []) →
        Has P [] ({ l with declared := n :: l.declared }.extend i n).rules) := by
  obtain ⟨hlt, names, hget⟩ := hl.statement i hi
  have hextend : { l with declared := n :: l.declared }.extend i n =
      { l with
        declared := n :: l.declared
        rules := l.rules.set (l.rules.length - 1 - i) (.layerNames (names ++ [n])) } := by
    unfold Layered.extend
    dsimp only
    rw [hget]
  have hnew : P (.layer (some n) []) → P (.layerNames (names ++ [n])) :=
    hP.declared (List.mem_append_right _ List.mem_cons_self)
  have hset : ∀ path, Has P path l.rules ∨ (Rule.layerNames (names ++ [n])).Holds P path →
      Has P path (l.rules.set (l.rules.length - 1 - i) (.layerNames (names ++ [n]))) := by
    refine fun path h => Has.set_of_holds hget h fun hold => ?_
    obtain ⟨rfl, hold⟩ := holds_of_inside_none rfl hold
    obtain ⟨m, hm, hlayer⟩ := hP.named hold
    exact hP.declared (List.mem_append_left _ hm) hlayer
  rw [hextend]
  refine ⟨⟨fun m hm h => ?_, fun k hk => ?_⟩, fun path h => hset path (.inl h),
    fun h => hset [] (.inr (hnew h))⟩
  · rcases List.mem_cons.1 hm with rfl | hm
    · exact hset [] (.inr (hnew h))
    · exact hset [] (.inl (hl.declared m hm h))
  · obtain rfl := Option.some.inj (hi.symm.trans hk)
    rw [List.length_set]
    exact ⟨hlt, _, List.getElem?_set_self (by omega)⟩

theorem addLayered {inner : List Upgrade → List Rule → List Rule × List Upgrade}
    (hi : ∀ rules, (inner [] rules).2 = [])
    (hn : ∀ rules path, IsLive path → Has P path rules → Has P path (inner [] rules).1)
    {l : Layered} (hl : l.Sound P) (hup : l.upgrades = []) (r : Rule) :
    (l.add inner r).Sound P ∧ ∀ path, IsLive path → Has P path l.rules ∨ r.Holds P path →
      Has P path (l.add inner r).rules := by
  have hpush : ∀ r : Rule, (l.push r).Sound P ∧
      ∀ path, IsLive path → Has P path l.rules ∨ r.Holds P path → Has P path (l.push r).rules :=
    fun r => ⟨hl.push r, fun path _ h => Has.cons_iff.2 h.symm⟩
  cases r
  case layer name rules =>
    rw [Layered.add_layer hi hup]
    split
    · refine ⟨⟨(hl.push _).declared, by simp⟩, fun path hp h => Has.cons_iff.2 ?_⟩
      refine h.symm.imp_left fun h => ?_
      cases path with
      | nil => exact hP.shell rfl h rfl
      | cons f path =>
        obtain ⟨hf, h⟩ := (holds_cons_of_inside rfl).1 h
        exact (holds_cons_of_inside rfl).2 ⟨hf, hn _ _ hp.tail h⟩
    · next hempty =>
      -- nothing is left in the layer, so that only the layer itself can be what is said
      have hself : ∀ path, IsLive path → (Rule.layer name rules).Holds P path →
          path = [] ∧ P (.layer name []) := by
        intro path hp h
        cases path with
        | nil => exact ⟨rfl, hP.shell rfl h rfl⟩
        | cons f path =>
          obtain ⟨hf, h⟩ := (holds_cons_of_inside rfl).1 h
          refine absurd (hn _ _ hp.tail h).ne_nil ?_
          simpa using hempty
      cases name with
      | none =>
        refine ⟨hl.push _, fun path hp h => Has.cons_iff.2 (.inr ?_)⟩
        exact h.resolve_right fun h => hP.unnamed (hself path hp h).2
      | some n =>
        dsimp only
        split
        · next hmem =>
          refine ⟨hl.push _, fun path hp h => Has.cons_iff.2 (.inr ?_)⟩
          rcases h with h | h
          · exact h
          · obtain ⟨rfl, hempty⟩ := hself path hp h
            exact hl.declared n (by simpa using hmem) hempty
        · split
          · next i hstatement =>
            obtain ⟨hsound, hold, hnew⟩ := hP.extend hl hstatement n
            refine ⟨hsound.push _, fun path hp h => Has.cons_iff.2 (.inr ?_)⟩
            rcases h with h | h
            · exact hold path h
            · obtain ⟨rfl, hempty⟩ := hself path hp h
              exact hnew hempty
          · have hsaid : P (.layer (some n) []) → P (.layerNames [n]) :=
              hP.declared List.mem_cons_self
            refine ⟨⟨fun m hm h => Has.cons_iff.2 ?_, fun i hi => ?_⟩,
              fun path hp h => Has.cons_iff.2 ?_⟩
            · rcases List.mem_cons.1 hm with rfl | hm
              · exact .inl (hsaid h)
              · exact .inr (hl.declared m hm h)
            · obtain rfl := Option.some.inj hi
              change l.rules.length < l.rules.length + 1 ∧ ∃ names,
                (Rule.layerNames [n] :: l.rules)[l.rules.length + 1 - 1 - l.rules.length]? =
                  some (.layerNames names)
              rw [Nat.add_sub_cancel, Nat.sub_self]
              exact ⟨Nat.lt_succ_self _, [n], rfl⟩
            · rcases h with h | h
              · exact .inr h
              · obtain ⟨rfl, hempty⟩ := hself path hp h
                exact .inl (hsaid hempty)
  case import_ i =>
    rw [Layered.add]
    split
    · exact hpush _
    · next n hlayer =>
      refine ⟨⟨fun m hm h => Has.cons_iff.2 ?_, by simp⟩, (hpush _).2⟩
      rcases List.mem_append.1 hm with hm | hm
      · obtain rfl : n = some m := by simpa using hm
        exact .inl (hP.imported hlayer h)
      · exact .inr (hl.declared m hm h)
  all_goals exact hpush _

theorem settleLayers {inner : List Upgrade → List Rule → List Rule × List Upgrade}
    (hi : ∀ rules, (inner [] rules).2 = [])
    (hn : ∀ rules path, IsLive path → Has P path rules → Has P path (inner [] rules).1)
    {b : Built} (hup : b.upgrades = []) (hlive : IsLive path) (h : Has P path b.rules) :
    Has P path (Css.settleLayers inner b).1 := by
  have hfold : ∀ (rules : List Rule) (l : Layered), l.Sound P → l.upgrades = [] →
      Has P path l.rules ∨ Has P path rules →
      Has P path (rules.foldl (Layered.add inner) l).rules := by
    intro rules
    induction rules with
    | nil => exact fun _ _ _ h => h.resolve_right Has.not_nil
    | cons r rules ih =>
      intro l hl hup h
      obtain ⟨hsound, hkeep⟩ := hP.addLayered hi hn hl hup r
      refine ih _ hsound (Layered.upgrades_add hi hup r) ?_
      rw [Has.cons_iff, ← or_assoc] at h
      exact h.imp_left (hkeep path hlive)
  unfold Css.settleLayers
  dsimp only
  split
  · rw [Has.reverse_iff]
    exact hfold _ _ .nil hup (.inr (Has.reverse_iff.2 h))
  · exact Has.reverse_iff.2 h

/-- Where a rule stands at a live place, one stands in normal form. -/
theorem normalizeTo (depth : Nat) : (Css.normalizeTo depth).Keeps unused P := by
  induction depth with
  | zero => exact fun _ _ _ _ _ _ h => h
  | succ depth ih =>
    intro goal ht hu rules path hlive h
    have hi := normalizeTo_isPlain depth
    have hup := upgrades_foldl_addRule false ht hi (b := { upgrades := [] }) rfl rules
    have hfold := hP.foldl_addRule ht hu hi (survivesIn_normalizeTo_iff depth) ih
      (b := { upgrades := [] }) (List.forall_mem_nil _) rfl hlive (.inr h)
    exact hP.settleLayers (hi goal ht false) (ih goal ht hu) hup hlive hfold

end Lasting

end StyleBuild.Css
