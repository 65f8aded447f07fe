import StyleBuild.Proofs.Css.Keeping

/-!
# What normalising drops

What stands at a place in normal form with some property had another one before, if that holds of
the single steps (`Dropped.normalizeTo`). This does not hold inside of unnamed layers, which are
left as they are where there is no named one.
-/

namespace StyleBuild.Css

variable {goal : Goal} {unused : NameSet} {R K : Rule → Prop} {path : List Frame}

namespace Frame

/-- Whether a frame is a layer. -/
def isLayer : Frame → Bool
  | .layer _ => true
  | _ => false

/-- Whether rules at a frame are normalised in any case. -/
def isSettled : Frame → Bool
  | .layer none => false
  | _ => true

theorem isLayer_eq_of_beq {f g : Frame} (h : (f == g) = true) : f.isLayer = g.isLayer := by
  cases f <;> cases g <;> first | rfl | cases h

theorem isSettled_eq_of_beq {f g : Frame} (h : (f == g) = true) : f.isSettled = g.isSettled := by
  cases f <;> cases g <;> try rfl
  case layer.layer m n =>
    have h : (m == n) = true := h
    obtain rfl := eq_of_beq h
    rfl
  all_goals cases h

theorem Same.isLayer_eq {f g : Frame} (h : f.Same g) : f.isLayer = g.isLayer :=
  h.map_eq isLayer_eq_of_beq

theorem Same.isSettled_eq {f g : Frame} (h : f.Same g) : f.isSettled = g.isSettled :=
  h.map_eq isSettled_eq_of_beq

end Frame

/-- All frames of a place are settled. -/
def IsSettled (path : List Frame) : Prop := ∀ f ∈ path, f.isSettled = true

theorem IsSettled.tail {f : Frame} (h : IsSettled (f :: path)) : IsSettled path :=
  fun g hg => h g (List.mem_cons_of_mem _ hg)

/-! ## Layers in a list -/

/-- Whether a rule is the block of a layer. -/
def Rule.isLayer : Rule → Bool
  | .layer _ _ => true
  | _ => false

theorem isLayer_of_holds {r : Rule} {f : Frame} (hf : f.isLayer = true)
    (h : r.Holds R (f :: path)) : r.isLayer = true := by
  obtain ⟨g, rules, hr, hs, -⟩ := h
  rw [← hs.isLayer_eq] at hf
  cases r <;> cases hr <;> first | rfl | cases hf

/-- What stands in layers is up to the layers of a list. -/
theorem has_filter_isLayer {f : Frame} (hf : f.isLayer = true) {rules : List Rule} :
    Has R (f :: path) (rules.filter Rule.isLayer) ↔ Has R (f :: path) rules := by
  constructor
  · rintro ⟨r, hr, h⟩
    exact ⟨r, (List.mem_filter.1 hr).1, h⟩
  · rintro ⟨r, hr, h⟩
    exact ⟨r, List.mem_filter.2 ⟨hr, isLayer_of_holds hf h⟩, h⟩

/-- The layers of a list stay if a rule that is none takes the place of another one. -/
theorem filter_isLayer_set {rules : List Rule} {i : Nat} {r : Rule} (hr : r.isLayer = false)
    (hi : ∀ x, rules[i]? = some x → x.isLayer = false) :
    (rules.set i r).filter Rule.isLayer = rules.filter Rule.isLayer := by
  induction rules generalizing i with
  | nil => rfl
  | cons x rules ih =>
    cases i with
    | zero =>
      have hx := hi x rfl
      simp [hr, hx]
    | succ i =>
      simp only [List.set_cons_succ, List.filter_cons]
      rw [ih hi]

theorem filter_isLayer_settle (last : Style) (rules : List Rule) :
    (Built.settle goal last rules).filter Rule.isLayer = rules.filter Rule.isLayer := by
  induction rules generalizing last with
  | nil => rfl
  | cons r rules ih =>
    rcases Built.settle_cons goal last r rules with ⟨s, m, rfl, -, hsettle⟩ | hsettle
    · rw [hsettle, ih]
      rfl
    · rw [hsettle]
      rfl

namespace Built

variable {b : Built}

theorem filter_isLayer_merge? {s : Style} {m : Built × Style} (hm : b.merge? goal s = some m) :
    m.1.rules.filter Rule.isLayer = b.rules.filter Rule.isLayer := by
  obtain ⟨last, rest, k, hr, -, rfl⟩ := merge?_cases hm
  rw [filter_isLayer_settle, hr]
  rfl

theorem Pushed.filter_isLayer {s : Style} {b' : Built} (h : b.Pushed s b') :
    b'.rules.filter Rule.isLayer = b.rules.filter Rule.isLayer := by
  cases h with
  | nested | noted => rfl
  | overriding _ _ _ _ hi =>
    refine (filter_isLayer_set rfl fun x hx => ?_).trans rfl
    obtain rfl := Option.some.inj (hi.symm.trans hx)
    rfl

/-- The layers of a list stay if a rule that is none is put into the place of none. -/
theorem Put.filter_isLayer {old : Rule → Prop} {r : Rule} {b' : Built} (h : b.Put old r b')
    (hr : r.isLayer = false) (hold : ∀ x, old x → x.isLayer = false) :
    b'.rules.filter Rule.isLayer = b.rules.filter Rule.isLayer := by
  cases h with
  | @place i x hi hx =>
    refine filter_isLayer_set hr fun y hy => hold y ?_
    obtain rfl := Option.some.inj (hi.symm.trans hy)
    exact hx
  | behind => simp [push, hr]

theorem filter_isLayer_addStyle (ht : goal.targets = none) (hup : b.upgrades = [])
    (ss : List Selector) (block : Block) (rules : List Rule) :
    (b.addStyle goal ss block rules).rules.filter Rule.isLayer = b.rules.filter Rule.isLayer := by
  rw [addStyle_eq ht hup]
  split
  · next m hm => exact filter_isLayer_merge? hm
  · split
    · rfl
    · exact (b.pushed_pushStyle _).filter_isLayer

end Built

theorem isLayer_of_inside {r : Rule} {f : Frame} {rules : List Rule}
    (h : r.inside? = some (f, rules)) : r.isLayer = f.isLayer := by
  cases r <;> cases h <;> rfl

theorem isLayer_eq_false_of_isPlain {f : Frame} (h : f.isPlain = true) : f.isLayer = false := by
  cases f <;> first | rfl | cases h

theorem Added.filter_isLayer {normal : List Rule → List Rule} {b b' : Built} {r : Rule}
    {f : Frame} {rules : List Rule} (hf : f.isPlain = true)
    (h : Added normal b r f rules b') :
    b'.rules.filter Rule.isLayer = b.rules.filter Rule.isLayer := by
  have hf := isLayer_eq_false_of_isPlain hf
  cases h with
  | @joined last last' g old rest _ hlast hl hg _ hin =>
    have hg : g.isLayer = false := (Frame.isLayer_eq_of_beq hg).trans hf
    rw [hlast]
    simp [isLayer_of_inside hl, isLayer_of_inside hin, hg]
  | behind _ _ hin => simp [Built.push, isLayer_of_inside hin, hf]
  | nothing => rfl

/-- Adding a rule that is neither a layer nor declares some does nothing to the layers of a list. -/
theorem filter_isLayer_addRule {inner : Normalizer} {parentUnused : Bool} {b : Built} {r : Rule}
    (ht : goal.targets = none) (hi : inner.IsPlain) (hup : b.upgrades = [])
    (hr : r.isLayer = false) (hnames : ∀ names, r ≠ .layerNames names) :
    (addRule goal inner parentUnused b r).rules.filter Rule.isLayer =
      b.rules.filter Rule.isLayer := by
  have hpush : ∀ {r' : Rule}, r'.isLayer = false →
      (b.push r').rules.filter Rule.isLayer = b.rules.filter Rule.isLayer := by
    intro r' hr'
    simp [Built.push, hr']
  have hframe : ∀ {f rules}, r.inside? = some (f, rules) → f.isPlain = true →
      (addRule goal inner parentUnused b r).rules.filter Rule.isLayer =
        b.rules.filter Rule.isLayer := by
    intro f rules hin hf
    obtain ⟨_, _, -, -, -, ha⟩ := addRule_frame parentUnused ht hi hup hin hf
    exact ha.filter_isLayer hf
  cases r
  case style ss block rules q =>
    rw [addRule_style ht hup rfl]
    split
    · rfl
    · split
      · rfl
      · exact Built.filter_isLayer_addStyle ht hup _ _ _
  case nesting ss block rules =>
    rw [addRule_nesting ht hup rfl]
    split
    · rfl
    · exact hpush rfl
  case declarations block =>
    rw [addRule_declarations ht hup]
    split
    · rfl
    · exact hpush rfl
  case layer => cases hr
  case layerNames names => exact absurd rfl (hnames names)
  case keyframes name q frames =>
    rw [addRule]
    split
    · rfl
    · obtain ⟨q', hput⟩ := b.put_addKeyframes ht name q frames
      refine hput.filter_isLayer rfl ?_
      rintro _ ⟨old, oldFrames, rfl⟩
      rfl
  case registered p =>
    rw [addRule]
    split
    · rfl
    · refine (b.put_replaceOr _ _).filter_isLayer rfl fun x hx => ?_
      cases x <;> first | rfl | cases hx
  all_goals first
    | exact hframe rfl rfl
    | exact hpush rfl

theorem Has.of_declareLayers {b : Built} {f : Frame} {names : List LayerName}
    (h : Has R (f :: path) (names.foldl Built.declareLayer b).rules) :
    Has R (f :: path) b.rules := by
  induction names generalizing b with
  | nil => exact h
  | cons n names ih =>
    rcases Has.of_declareLayer (ih h) with h | ⟨hpath, -⟩
    · exact h
    · cases hpath

/-- What stands in layers after a rule was added stood there before, or in the new rule. -/
theorem Has.of_addRule {inner : Normalizer} {parentUnused : Bool} {b : Built} {r : Rule}
    (ht : goal.targets = none) (hi : inner.IsPlain) (hup : b.upgrades = []) {f : Frame}
    (hf : f.isLayer = true) (h : Has R (f :: path) (addRule goal inner parentUnused b r).rules) :
    Has R (f :: path) b.rules ∨ r.Holds R (f :: path) := by
  by_cases hlayer : r.isLayer = true
  · cases r <;> cases hlayer
    next name rules =>
      cases name with
      | none => exact (Has.cons_iff.1 h).symm
      | some name => exact Has.of_addLayer h
  · by_cases hnames : ∃ names, r = .layerNames names
    · obtain ⟨names, rfl⟩ := hnames
      exact .inl (Has.of_declareLayers h)
    · rw [Bool.not_eq_true] at hlayer
      rw [← has_filter_isLayer hf, filter_isLayer_addRule ht hi hup hlayer
        (fun names hr => hnames ⟨names, hr⟩), has_filter_isLayer hf] at h
      exact .inl h

/-! ## Properties that are dropped -/

/-- Whether normalising takes nothing from a rule, the rules in it aside: style rules lose
declarations, and registrations and media queries go. -/
def Rule.isSpared : Rule → Bool
  | .style _ _ _ _ | .registered _ | .media _ _ => false
  | _ => true

/-- What some step of normalising for unused names leaves with one property had another one before
that step. -/
structure Dropped (unused : NameSet) (R K : Rule → Prop) : Prop where
  traced : Traced unused R
  weaken : ∀ {r}, K r → R r
  style : ∀ {goal : Goal} {ss block rules rules' q q'}, goal.unused = unused →
    (SurvivesIn unused (goal.isUnused false ss) rules' ↔
      SurvivesIn unused (goal.isUnused false ss) rules) →
    R (.style ss (goal.body (goal.isUnused false ss) block) rules' q') →
      K (.style ss block rules q)
  registered : ∀ {p}, unused.contains p.name = false → R (.registered p) → K (.registered p)
  media : ∀ {queries rules}, (Frame.media queries).isLive = true → R (.media queries rules) →
    K (.media queries rules)
  spared : ∀ {r}, r.isSpared = true → R r → K r

/-- What counts as the property at a place of a list under construction: the rules in layers wait to
be settled, so that they are still those of the list before. -/
def Shown (R K : Rule → Prop) : List Frame → Rule → Prop
  | .layer _ :: _ => K
  | _ => R

theorem shown_of_isLayer {f : Frame} (h : f.isLayer = true) : Shown R K (f :: path) = K := by
  cases f <;> first | rfl | cases h

theorem shown_of_not_isLayer {f : Frame} (h : f.isLayer = false) : Shown R K (f :: path) = R := by
  cases f <;> first | rfl | cases h

/-- A normaliser that up to a depth drops all that has one property and not the other. -/
def Normalizer.Drops (unused : NameSet) (R K : Rule → Prop) (depth : Nat)
    (inner : Normalizer) : Prop :=
  ∀ goal : Goal, goal.targets = none → goal.unused = unused → ∀ parentUnused rules path,
    path.length < depth → IsSettled path →
      Has R path (inner goal parentUnused [] rules).1 → Has K path rules

namespace Dropped

variable (hd : Dropped unused R K)
include hd

variable {inner : Normalizer} {parentUnused : Bool} {b : Built} {r : Rule} {depth : Nat}

/-- What a list shows of a rule that holds rules was shown before, or it is kept if it is live. -/
theorem added_nil {normal : List Rule → List Rule} {b' : Built} {f : Frame} {rules : List Rule}
    (hf : f.isPlain = true) (hk : f.isLive = true → R r → K r) (ha : Added normal b r f rules b')
    (h : Has R [] b'.rules) : Has R [] b.rules ∨ K r := by
  cases ha with
  | joined _ hb _ hg hs hin =>
    have hstyle := Rule.isStyle_of_inside hin ((Frame.isPlain_eq_of_beq hg).trans hf)
    rw [hb, Has.cons_iff]
    exact .inl ((Has.cons_iff.1 h).imp_left (hd.traced.shell hstyle · hs))
  | behind hlive hs hin =>
    rcases Has.cons_iff.1 h with h | h
    · exact .inr (hk hlive (hd.traced.shell (Rule.isStyle_of_inside hin hf) h hs))
    · exact .inl h
  | nothing => exact .inl h

/-- What a frame shows inside of it after a rule was added was shown before, or it is kept. -/
theorem added {normal : List Rule → List Rule} {b' : Built} {f : Frame} {rules : List Rule}
    (hn : ∀ rules, Has R path (normal rules) → Has K path rules) {k : Frame}
    (hr : r.inside? = some (f, rules)) (ha : Added normal b r f rules b')
    (h : Has R (k :: path) b'.rules) :
    Has R (k :: path) b.rules ∨ r.Holds K (k :: path) := by
  cases ha with
  | joined _ hb hl hg hs hin =>
    rw [hb, Has.cons_iff]
    rcases Has.cons_iff.1 h with h | h
    · obtain ⟨hk, h⟩ := (holds_cons_of_inside hin).1 h
      rcases Has.append_iff.1 (hn _ h) with h | h
      · exact .inl (.inl ((holds_cons_of_inside hl).2 ⟨hk, h.mono hd.weaken⟩))
      · exact .inr ((holds_cons_of_inside hr).2 ⟨(Frame.Same.of_beq hg).symm.trans hk, h⟩)
    · exact .inl (.inr h)
  | behind _ hs hin =>
    rcases Has.cons_iff.1 h with h | h
    · obtain ⟨hk, h⟩ := (holds_cons_of_inside hin).1 h
      exact .inr ((holds_cons_of_inside hr).2 ⟨hk, hn _ h⟩)
    · exact .inl h
  | nothing => exact .inl h

omit hd in
theorem children (ht : goal.targets = none) (hu : goal.unused = unused)
    (hn : inner.Drops unused R K depth) (hlen : path.length < depth) (hset : IsSettled path)
    {gone : Bool} {rules : List Rule} (h : Has R path (inner.children goal gone rules)) :
    Has K path rules := by
  unfold Normalizer.children at h
  split at h
  · exact absurd h Has.not_nil
  · exact hn goal ht hu gone rules path hlen hset h

/-- What a list shows of its own rules was shown before, or the new rule keeps it. -/
theorem addRule_nil (ht : goal.targets = none) (hu : goal.unused = unused)
    (hi : inner.IsPlain) (hp : inner.Preserves unused) (htr : inner.Traces unused R)
    (hup : b.upgrades = []) (h : Has R [] (Css.addRule goal inner parentUnused b r).rules) :
    Has R [] b.rules ∨ K r := by
  cases r
  case style ss block rules q =>
    rw [addRule_style ht hup rfl] at h
    split at h
    · exact .inl h
    · next hparent =>
      rw [Bool.not_eq_true] at hparent
      subst hparent
      split at h
      · exact .inl h
      · exact (hd.traced.addStyle ht hup h).imp_right fun h =>
          hd.style hu (survivesIn_children_iff ht hu hp) h
  case registered p =>
    rw [Css.addRule] at h
    split at h
    · exact .inl h
    · next hunused =>
      rw [hu, Bool.not_eq_true] at hunused
      exact ((b.put_replaceOr _ _).of_has h).imp_right (hd.registered hunused)
  case media queries rules =>
    obtain ⟨_, _, -, -, -, ha⟩ := addRule_frame parentUnused ht hi hup
      (r := .media queries rules) rfl rfl
    exact hd.added_nil rfl hd.media ha h
  all_goals exact (hd.traced.addRule ht hu hi hp htr hup h).imp_right (hd.spared rfl)

/-- What a list shows inside of its rules was shown before, or the new rule keeps it. -/
theorem addRule_cons (ht : goal.targets = none) (hu : goal.unused = unused)
    (hi : inner.IsPlain) (hp : inner.Preserves unused) (htr : inner.Traces unused R)
    (hn : inner.Drops unused R K depth) (hup : b.upgrades = []) (hlen : path.length < depth)
    (hset : IsSettled path) {k : Frame} (hk : k.isLayer = false)
    (h : Has R (k :: path) (Css.addRule goal inner parentUnused b r).rules) :
    Has R (k :: path) b.rules ∨ r.Holds K (k :: path) := by
  have hframe : ∀ {f rules}, r.inside? = some (f, rules) → f.isPlain = true →
      Has R (k :: path) b.rules ∨ r.Holds K (k :: path) := by
    intro f rules hr hf
    obtain ⟨goal', parent', ht', hu', -, ha⟩ := addRule_frame parentUnused ht hi hup hr hf
    exact hd.added (hn goal' ht' (hu'.trans hu) parent' · path hlen hset) hr ha h
  cases r
  case style ss block rules q =>
    rw [addRule_style ht hup rfl] at h
    split at h
    · exact .inl h
    · split at h
      · exact .inl h
      · refine (hd.traced.addStyle ht hup h).imp_right fun h => ?_
        obtain ⟨hf, h⟩ := (holds_cons_of_inside rfl).1 h
        exact (holds_cons_of_inside rfl).2 ⟨hf, children ht hu hn hlen hset h⟩
  case nesting ss block rules =>
    rw [addRule_nesting ht hup rfl] at h
    split at h
    · exact .inl h
    · refine (Has.cons_iff.1 h).symm.imp_right fun h => ?_
      obtain ⟨hf, h⟩ := (holds_cons_of_inside rfl).1 h
      exact (holds_cons_of_inside rfl).2 ⟨hf, children ht hu hn hlen hset h⟩
  case layer name rules =>
    refine (hd.traced.addRule ht hu hi hp htr hup h).imp_right fun h => ?_
    obtain ⟨hf, -⟩ := (holds_cons_of_inside rfl).1 h
    rw [← hf.isLayer_eq] at hk
    cases hk
  all_goals first
    | exact hframe rfl rfl
    | exact (hd.traced.addRule ht hu hi hp htr hup h).imp_right
        fun h => absurd h (not_holds_cons_of_inside_none rfl)

theorem addRule (ht : goal.targets = none) (hu : goal.unused = unused) (hi : inner.IsPlain)
    (hp : inner.Preserves unused) (htr : inner.Traces unused R)
    (hn : inner.Drops unused R K depth) (hup : b.upgrades = []) (hlen : path.length < depth + 1)
    (hset : IsSettled path)
    (h : Has (Shown R K path) path (Css.addRule goal inner parentUnused b r).rules) :
    Has (Shown R K path) path b.rules ∨ r.Holds K path := by
  cases path with
  | nil => exact hd.addRule_nil ht hu hi hp htr hup h
  | cons k path =>
    cases hk : k.isLayer with
    | true =>
      rw [shown_of_isLayer hk] at h ⊢
      exact Has.of_addRule ht hi hup hk h
    | false =>
      rw [shown_of_not_isLayer hk] at h ⊢
      exact hd.addRule_cons ht hu hi hp htr hn hup (Nat.lt_of_succ_lt_succ hlen) hset.tail hk h

theorem foldl_addRule (ht : goal.targets = none) (hu : goal.unused = unused) (hi : inner.IsPlain)
    (hp : inner.Preserves unused) (htr : inner.Traces unused R)
    (hn : inner.Drops unused R K depth) (hup : b.upgrades = []) (hlen : path.length < depth + 1)
    (hset : IsSettled path) {rules : List Rule}
    (h : Has (Shown R K path) path
      (rules.foldl (Css.addRule goal inner parentUnused) b).rules) :
    Has (Shown R K path) path b.rules ∨ Has K path rules := by
  induction rules generalizing b with
  | nil => exact .inl h
  | cons r rules ih =>
    rw [Has.cons_iff]
    rcases ih (upgrades_addRule ht hi hup r) h with h | h
    · exact (hd.addRule ht hu hi hp htr hn hup hlen hset h).imp_right .inl
    · exact .inr (.inr h)

/-! ## Settled layers -/

section Settling

variable {inner : List Upgrade → List Rule → List Rule × List Upgrade} {l : Layered}

/-- What stands in layers after a rule was settled stood there before, or the rule is a layer and it
is left of the rules in it. -/
theorem addLayered_layer (hi : ∀ rules, (inner [] rules).2 = [])
    (hn : ∀ rules, Has R path (inner [] rules).1 → Has K path rules)
    (hup : l.upgrades = []) {k : Frame} (hk : k.isLayer = true)
    (h : Has R (k :: path) (l.add inner r).rules) :
    Has R (k :: path) l.rules ∨ r.Holds K (k :: path) := by
  have hpush : ∀ {r : Rule} {rules : List Rule}, r.isLayer = false →
      Has R (k :: path) (r :: rules) → Has R (k :: path) rules := by
    intro r rules hr h
    refine (Has.cons_iff.1 h).resolve_left fun h => ?_
    rw [isLayer_of_holds hk h] at hr
    cases hr
  cases r
  case layer name rules =>
    rw [Layered.add_layer hi hup] at h
    split at h
    · rcases Has.cons_iff.1 h with h | h
      · obtain ⟨hf, h⟩ := (holds_cons_of_inside rfl).1 h
        exact .inr ((holds_cons_of_inside rfl).2 ⟨hf, hn rules h⟩)
      · exact .inl h
    · split at h
      · exact .inl (hpush rfl h)
      · split at h
        · exact .inl (hpush rfl h)
        · split at h
          · rcases hd.traced.extend (hpush rfl h) with h | ⟨hpath, -⟩
            · exact .inl h
            · cases hpath
          · exact .inl (hpush rfl h)
  case import_ i =>
    rw [Layered.add] at h
    split at h <;> exact .inl (hpush rfl h)
  all_goals exact .inl (hpush rfl h)

/-- What stands in a list whose layers are being settled stood there before, or the rule that is
settled shows it. -/
theorem addLayered (hi : ∀ rules, (inner [] rules).2 = [])
    (htr : ∀ rules path, Has R path (inner [] rules).1 → Has R path rules)
    (hn : ∀ rules path, path.length < depth → IsSettled path →
      Has R path (inner [] rules).1 → Has K path rules)
    (hup : l.upgrades = []) (hlen : path.length < depth + 1) (hset : IsSettled path)
    (h : Has R path (l.add inner r).rules) :
    Has R path l.rules ∨ r.Holds (Shown R K path) path := by
  cases path with
  | nil => exact hd.traced.addLayered hi htr hup h
  | cons k path =>
    cases hk : k.isLayer with
    | false =>
      rw [shown_of_not_isLayer hk]
      exact hd.traced.addLayered hi htr hup h
    | true =>
      rw [shown_of_isLayer hk]
      exact hd.addLayered_layer hi (hn · path (Nat.lt_of_succ_lt_succ hlen) hset.tail) hup hk h

theorem settleLayers (hi : ∀ rules, (inner [] rules).2 = [])
    (htr : ∀ rules path, Has R path (inner [] rules).1 → Has R path rules)
    (hn : ∀ rules path, path.length < depth → IsSettled path →
      Has R path (inner [] rules).1 → Has K path rules)
    {b : Built} (hup : b.upgrades = []) (hlen : path.length < depth + 1) (hset : IsSettled path)
    (h : Has R path (Css.settleLayers inner b).1) : Has (Shown R K path) path b.rules := by
  have hfold : ∀ (rules : List Rule) (l : Layered), l.upgrades = [] →
      Has R path (rules.foldl (Layered.add inner) l).rules →
      Has R path l.rules ∨ Has (Shown R K path) path rules := by
    intro rules
    induction rules with
    | nil => exact fun _ _ h => .inl h
    | cons r rules ih =>
      intro l hup h
      rw [Has.cons_iff]
      rcases ih _ (Layered.upgrades_add hi hup r) h with h | h
      · exact (hd.addLayered hi htr hn hup hlen hset h).imp_right .inl
      · exact .inr (.inr h)
  unfold Css.settleLayers at h
  dsimp only at h
  split at h
  · rw [Has.reverse_iff] at h
    exact Has.reverse_iff.1 ((hfold _ _ hup h).resolve_left Has.not_nil)
  · next hnamed =>
    cases path with
    | nil => exact Has.reverse_iff.1 h
    | cons k path =>
      cases hk : k.isLayer with
      | false =>
        rw [shown_of_not_isLayer hk]
        exact Has.reverse_iff.1 h
      | true =>
        -- the place is in a named layer, but there is none
        obtain ⟨x, hx, g, rules, hin, hs, -⟩ := h
        have hg : g.isLayer = true ∧ g.isSettled = true := by
          rw [hs.isLayer_eq, hs.isSettled_eq]
          exact ⟨hk, hset k List.mem_cons_self⟩
        refine absurd (List.any_eq_true.2 ⟨x, hx, ?_⟩) hnamed
        cases x <;> cases hin <;> first
          | exact absurd hg.1 Bool.false_ne_true
          | skip
        next name =>
          cases name with
          | none => exact absurd hg.2 Bool.false_ne_true
          | some n => rfl

end Settling

/-- **What stands in normal form was kept.** -/
theorem normalizeTo (depth : Nat) : (Css.normalizeTo depth).Drops unused R K depth := by
  induction depth with
  | zero => exact fun _ _ _ _ _ _ hlen => absurd hlen (Nat.not_lt_zero _)
  | succ depth ih =>
    intro goal ht hu parentUnused rules path hlen hset h
    have hi := normalizeTo_isPlain depth
    have htr := hd.traced.normalizeTo depth
    have hup := upgrades_foldl_addRule parentUnused ht hi (b := { upgrades := [] }) rfl rules
    have h := hd.settleLayers (hi goal ht parentUnused) (htr goal ht hu parentUnused)
      (ih goal ht hu parentUnused) hup hlen hset h
    exact (hd.foldl_addRule ht hu hi (survivesIn_normalizeTo_iff depth) htr ih rfl hlen hset
      h).resolve_left Has.not_nil

/-- What stands in the normal form of a list at a settled place was kept by some rule there. -/
theorem has_of_normalizeRules (ht : goal.targets = none) (hu : goal.unused = unused)
    (hset : IsSettled path) {rules : List Rule} (h : Has R path (normalizeRules goal rules)) :
    Has K path rules := by
  have hlen := (hd.traced.normalizeTo _ goal ht hu false rules path h).length_lt
  exact hd.normalizeTo _ goal ht hu false rules path hlen hset h

end Dropped

end StyleBuild.Css
