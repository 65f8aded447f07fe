import StyleBuild.Proofs.Css.Dropping
import StyleBuild.Proofs.Css.Marks

/-!
# What a normal form says

A list in normal form has a mark at a place if and only if a rule of the list has it there and the
unused names do not take it away (`Mark.has_normalizeRules_iff`). The place has to be live and
settled. Open places at which something is left are live (`IsOpen.isLive`): outside of style rules
only media queries that never match are not, and these are dropped (`dropped_dead`).
-/

namespace StyleBuild.Css

variable {goal : Goal} {unused : NameSet} {R : Rule → Prop} {path : List Frame}

/-! ## Marks -/

namespace Mark

variable {m : Mark}

/-- What a style rule leaves of a mark of its own is kept. -/
theorem kept_of_body (hu : goal.unused = unused) {ss : List Selector} {block : Block}
    {rules rules' : List Rule} {q q' : Prefixes} {gone : Bool}
    (hg : goal.isUnused false ss = gone) (h : m.On (.style ss (goal.body gone block) rules q)) :
    m.Kept unused (.style ss block rules' q') := by
  obtain ⟨s, name, rfl⟩ := exists_selector_of_on (t := ⟨ss, _, rules, q⟩) h
  obtain ⟨rfl, hdecl, hleaves⟩ := Goal.declares_body hu h.2
  rw [Goal.isUnused_eq hu] at hg
  exact ⟨⟨h.1, hdecl⟩, hg, hleaves⟩

/-- **Normalising drops the marks that unused names take away.** -/
theorem dropped (m : Mark) (unused : NameSet) : Dropped unused m.On (m.Kept unused) where
  traced := traced m
  weaken h := h.on
  style hu _ h := kept_of_body hu rfl h
  registered hp h := by
    obtain rfl := eq_registered_of_on h
    exact ⟨h, hp⟩
  media _ h := absurd h (not_on rfl)
  spared {r} hr h := by
    refine ⟨h, ?_⟩
    cases m with
    | selector s name => cases r <;> trivial
    | registered name => cases r <;> first | exact h.elim | cases hr
    | _ => trivial

/-- **What a list in normal form says at a place is what the list kept there.** -/
theorem has_normalizeRules_iff (ht : goal.targets = none) (hlive : IsLive path)
    (hset : IsSettled path) {rules : List Rule} :
    Has m.On path (normalizeRules goal rules) ↔ Has (m.Kept goal.unused) path rules := by
  constructor
  · exact (dropped m goal.unused).has_of_normalizeRules ht rfl hset
  · intro h
    have h := (lasting m goal.unused).normalizeTo (rulesDepth rules) goal ht rfl rules path hlive h
    exact h.mono fun h => h.on

/-- A mark that every rule keeps lasts, also inside of unnamed layers. -/
theorem has_normalizeRules_of_kept (ht : goal.targets = none) (hlive : IsLive path)
    (hm : ∀ {r}, m.On r → m.Kept goal.unused r) {rules : List Rule} :
    Has m.On path (normalizeRules goal rules) ↔ Has m.On path rules := by
  constructor
  · exact (traced m).normalizeTo _ goal ht rfl false rules path
  · intro h
    have h := (lasting m goal.unused).normalizeTo (rulesDepth rules) goal ht rfl rules path hlive
      (h.mono hm)
    exact h.mono fun h => h.on

end Mark

/-! ## Media queries that never match -/

/-- Whether a rule is a media query that never matches. -/
def Rule.isDead : Rule → Bool
  | .media queries _ => !(Frame.media queries).isLive
  | _ => false

theorem Rule.isDead_shell (r : Rule) : r.shell.isDead = r.isDead := by
  cases r <;> rfl

/-- A rule that holds rules, but not behind a live frame, is dead unless these are nested. -/
theorem Rule.isDead_of_inside {r : Rule} {f : Frame} {rules : List Rule}
    (h : r.inside? = some (f, rules)) (hn : f.isNested = false) (hf : f.isLive = false) :
    r.isDead = true := by
  cases r <;> cases h <;> first
    | exact Bool.not_eq_true' _ ▸ hf
    | exact absurd hn.symm Bool.false_ne_true
    | exact absurd hf.symm Bool.false_ne_true

theorem traced_dead : Traced unused (·.isDead = true) where
  shell _ h hs := by rwa [← Rule.isDead_shell, ← hs, Rule.isDead_shell]
  removed := Bool.false_ne_true
  style _ _ h := absurd h Bool.false_ne_true
  nesting h := absurd h Bool.false_ne_true
  declarations h := absurd h Bool.false_ne_true
  merge _ h := absurd h Bool.false_ne_true
  keyframes h := absurd h Bool.false_ne_true
  declared _ h := absurd h Bool.false_ne_true
  settled h := absurd h Bool.false_ne_true
  extended h := absurd h Bool.false_ne_true

/-- **Normalising drops the media queries that never match.** -/
theorem dropped_dead (unused : NameSet) : Dropped unused (·.isDead = true) (fun _ => False) where
  traced := traced_dead
  weaken h := h.elim
  style _ _ h := absurd h Bool.false_ne_true
  registered _ h := absurd h Bool.false_ne_true
  media hlive h := by
    rw [Rule.isDead, hlive] at h
    cases h
  spared {r} hr h := by
    cases r <;> first
      | exact absurd h Bool.false_ne_true
      | exact absurd hr Bool.false_ne_true

/-- What stands at the end of a place stands, as part of a rule, at the start of it. -/
theorem Has.append_place {rules : List Rule} {path' : List Frame}
    (h : Has R (path ++ path') rules) : Has (·.Holds R path') path rules := by
  induction path generalizing rules with
  | nil => exact h
  | cons f path ih =>
    obtain ⟨r, hr, g, inner, hin, hs, h⟩ := h
    exact ⟨r, hr, g, inner, hin, hs, ih h⟩

/-- Where something is left outside of style rules at a settled place, all frames are live. -/
theorem isLive_of_has_normalizeRules (ht : goal.targets = none) (hset : IsSettled path)
    (hn : ∀ f ∈ path, f.isNested = false) {rules : List Rule}
    (h : Has R path (normalizeRules goal rules)) : IsLive path := by
  intro f hf
  have hnested := hn f hf
  by_contra hdead
  rw [Bool.not_eq_true] at hdead
  obtain ⟨before, behind, rfl⟩ := List.append_of_mem hf
  have hhas : Has (·.isDead = true) before (normalizeRules goal rules) := by
    refine h.append_place.mono fun {r} h => ?_
    obtain ⟨g, inner, hin, hs, -⟩ := h
    exact Rule.isDead_of_inside hin (hs.isNested_eq.trans hnested) (hs.isLive_eq.trans hdead)
  obtain ⟨r, h⟩ := ((dropped_dead goal.unused).has_of_normalizeRules ht rfl
    (fun g hg => hset g (List.mem_append_left _ hg)) hhas).exists_rule
  exact h

/-- A place outside of style rules and, inside of unnamed layers, of media queries that never match.
-/
def IsOpen (path : List Frame) : Prop :=
  IsLive path ∨ IsSettled path ∧ ∀ f ∈ path, f.isNested = false

/-- An open place at which something is left is live. -/
theorem IsOpen.isLive (ho : IsOpen path) (ht : goal.targets = none) {rules : List Rule}
    (h : Has R path (normalizeRules goal rules)) : IsLive path := by
  rcases ho with hlive | ⟨hset, hn⟩
  · exact hlive
  · exact isLive_of_has_normalizeRules ht hset hn h

end StyleBuild.Css
