import StyleBuild.Proofs.Css.Blocks
import StyleBuild.Proofs.Css.Putting

/-!
# Rules in normal form without targets

Without targets conditions and selectors stay as they are written, and nothing is put into support
queries, so that adding a style rule is merging it into the last rule or putting it behind
(`addStyle_eq`).
-/

namespace StyleBuild.Css

variable {goal : Goal}

/-! ## Spellings -/

theorem forTargets_none (q : Property) : q.forTargets none = q := by
  cases q <;> rfl

theorem supportsTest_forTargets_none (t : SupportsTest) : t.forTargets none = t := by
  unfold SupportsTest.forTargets
  split
  · rw [forTargets_none]
  · rfl

theorem map_forTargets_none (c : SupportsQuery) : c.map (SupportsTest.forTargets none) = c := by
  induction c with
  | test t => rw [Condition.map, supportsTest_forTargets_none]
  | not c ih => rw [Condition.map, ih]
  | both a b iha ihb => rw [Condition.map, iha, ihb]
  | either a b iha ihb => rw [Condition.map, iha, ihb]

theorem spellings_none (q : MediaQuery) : q.spellings none = [] := by
  unfold MediaQuery.spellings
  split <;> rfl

theorem spellFrom_none (n : Nat) (before rest : List MediaQuery) :
    MediaQuery.spellFrom none n before rest = before ++ rest := by
  induction n generalizing before rest with
  | zero => rfl
  | succ n ih =>
    cases rest with
    | nil => rw [MediaQuery.spellFrom, List.append_nil]
    | cons q rest =>
      rw [MediaQuery.spellFrom, spellings_none]
      simp [ih]

theorem spellMedia_none (qs : List MediaQuery) : spellMedia none qs = qs := by
  rw [spellMedia, spellFrom_none, List.nil_append]

theorem divideSelectors_none (ss : List Selector) : divideSelectors none ss = (ss, []) := by
  simp [divideSelectors]

/-! ## Style rules -/

/-- A style rule as it is written: without targets its spellings are those of its selectors. -/
def Style.written (ss : List Selector) (block : Block) (rules : List Rule) : Style :=
  ⟨ss, block, rules, listPrefixes ss⟩

/-- Without targets a style rule is merged into the last rule, or put behind unless it is empty. -/
theorem addStyle_eq (ht : goal.targets = none) {b : Built} (hb : b.upgrades = [])
    (ss : List Selector) (block : Block) (rules : List Rule) :
    b.addStyle goal ss block rules =
      match b.merge? goal (.written ss block rules) with
      | some m => m.1
      | none =>
        if (Style.written ss block rules).isEmpty then b
        else b.pushStyle (.written ss block rules) := by
  have hw : (Style.mk [] block rules .none).withSelectors goal ss = .written ss block rules := by
    rw [Style.withSelectors, ht]
    rfl
  obtain ⟨rs, keys, upgrades⟩ := b
  obtain rfl : upgrades = [] := hb
  rw [Built.addStyle, ht, divideSelectors_none]
  dsimp only
  rw [hw]
  cases hm : Built.merge? goal ⟨rs, keys, []⟩ (.written ss block rules) with
  | some m =>
    simp [Style.upgraded, Built.pushAll]
  | none =>
    simp [Style.upgraded, Built.pushAll]

/-! ## Keyframes -/

theorem keyframesFallbacks_none {a : Audience} (ha : a.targets = none) (frames : List Keyframe) :
    keyframesFallbacks a frames = (frames, []) := by
  have hlevels : ∀ d : Declaration, d.rawLevels a = {} := by
    intro d
    unfold Declaration.rawLevels
    split
    · exact rawLevels_eq_empty ha _
    · exact rawLevels_eq_empty ha _
    · rfl
  have hfold : ∀ ds : List Declaration,
      ds.foldl (fun found d => found.union (d.rawLevels a)) ({} : ColorLevels) = {} := by
    intro ds
    induction ds with
    | nil => rfl
    | cons d ds ih =>
      rw [List.foldl_cons, hlevels]
      exact ih
  unfold keyframesFallbacks
  simp [hfold, ColorLevels.dropLowest, ColorLevels.lowest?]

/-- Without targets keyframes take the place of others of their name, or go behind. -/
theorem Built.put_addKeyframes (ht : goal.targets = none) (b : Built) (name : KeyframesName)
    (q : Prefixes) (frames : List Keyframe) :
    ∃ q', b.Put (fun r => ∃ old oldFrames, r = .keyframes name old oldFrames)
      (.keyframes name q' (frames.map (Keyframe.normalize goal)))
      (b.addKeyframes goal name q frames) := by
  unfold addKeyframes
  dsimp only
  simp only [keyframesFallbacks_none (a := goal.toAudience) ht]
  split
  · next i hfind =>
    split
    · next n old oldFrames hi =>
      obtain rfl : n = name := by
        obtain ⟨hlt, htest, -⟩ := List.findIdx?_eq_some_iff_getElem.1 hfind
        rw [List.getElem?_eq_getElem hlt] at hi
        rw [Option.some.inj hi] at htest
        exact eq_of_beq htest
      split
      · exact ⟨_, .place hi ⟨old, oldFrames, rfl⟩⟩
      · split
        · exact ⟨_, .place hi ⟨old, oldFrames, rfl⟩⟩
        · exact ⟨_, .behind⟩
    · exact ⟨_, .behind⟩
  · exact ⟨_, .behind⟩

/-! ## Rules inside of others -/

/-- A normaliser that leaves no declarations waiting if there are no targets. -/
def Normalizer.IsPlain (inner : Normalizer) : Prop :=
  ∀ goal, goal.targets = none → ∀ parentUnused rules, (inner goal parentUnused [] rules).2 = []

section Inside

variable {inner : Normalizer} {parentUnused : Bool} {b : Built}

/-- Without targets a body is normalised on its own. -/
theorem normalizeBody_eq (ht : goal.targets = none) (hb : b.upgrades = []) (gone : Bool)
    (block : Block) (rules : List Rule) :
    normalizeBody goal inner gone b block rules =
      (b, if gone then {} else (block.normalize goal .style []).1,
        if rules.isEmpty then [] else (inner goal gone [] rules).1) := by
  obtain ⟨rs, keys, upgrades⟩ := b
  obtain rfl : upgrades = [] := hb
  cases gone with
  | true => rfl
  | false =>
    have hu : (block.normalize goal .style []).2 = [] := Block.upgrades_normalize ht
    simp [normalizeBody, hu]

/-- The block of a style rule in normal form; of an unused rule nothing is left. -/
def Goal.body (goal : Goal) (gone : Bool) (block : Block) : Block :=
  if gone then {} else (block.normalize goal .style []).1

/-- The rules nested in a style rule in normal form. -/
def Normalizer.children (inner : Normalizer) (goal : Goal) (gone : Bool) (rules : List Rule) :
    List Rule :=
  if rules.isEmpty then [] else (inner goal gone [] rules).1

theorem addRule_style (ht : goal.targets = none) (hb : b.upgrades = []) {gone : Bool}
    {ss : List Selector} (hg : goal.isUnused parentUnused ss = gone) (block : Block)
    (rules : List Rule) (q : Prefixes) :
    addRule goal inner parentUnused b (.style ss block rules q) =
      if parentUnused then b
      else if gone && (inner.children goal gone rules).isEmpty then b
      else b.addStyle goal ss (goal.body gone block) (inner.children goal gone rules) := by
  rw [addRule]
  dsimp only
  rw [normalizeBody_eq ht hb, hg]
  rfl

theorem addRule_nesting (ht : goal.targets = none) (hb : b.upgrades = []) {gone : Bool}
    {ss : List Selector} (hg : goal.isUnused parentUnused ss = gone) (block : Block)
    (rules : List Rule) :
    addRule goal inner parentUnused b (.nesting ss block rules) =
      if gone && (inner.children goal gone rules).isEmpty then b
      else b.push (.nesting ss (goal.body gone block) (inner.children goal gone rules)) := by
  rw [addRule]
  dsimp only
  rw [normalizeBody_eq ht hb, hg]
  rfl

theorem addRule_declarations (ht : goal.targets = none) (hb : b.upgrades = []) (block : Block) :
    addRule goal inner parentUnused b (.declarations block) =
      if parentUnused then b else b.push (.declarations (block.normalize goal .style []).1) := by
  obtain ⟨rs, keys, upgrades⟩ := b
  obtain rfl : upgrades = [] := hb
  have hu : (block.normalize goal .style []).2 = [] := Block.upgrades_normalize ht
  rw [addRule]
  dsimp only
  rw [hu]

/-- Without targets the rules inside of a rule are normalised on their own. -/
theorem within_eq (ht : goal.targets = none) (hi : inner.IsPlain) (hb : b.upgrades = [])
    (rules : List Rule) (add : Built → List Rule → Built) :
    b.within (inner goal parentUnused) rules add =
      add b (inner goal parentUnused [] rules).1 := by
  obtain ⟨rs, keys, upgrades⟩ := b
  obtain rfl : upgrades = [] := hb
  rw [Built.within]
  dsimp only
  rw [hi goal ht]

/-- Whether rules at a frame are normalised when the rule that makes the frame is added, and the
rule does nothing but to hold them. -/
def Frame.isPlain : Frame → Bool
  | .nested | .layer _ => false
  | _ => true

/-- What adding a rule that holds rules makes of a list under construction, `normal` being what
normalising makes of the rules in it. -/
inductive Added (normal : List Rule → List Rule) (b : Built) (r : Rule) (f : Frame)
    (rules : List Rule) : Built → Prop
  /-- The rules go behind those of the last rule, and all are normalised again. -/
  | joined {last last' : Rule} {g : Frame} {old rest : List Rule}
      (hr : r.isConditional = true) (hb : b.rules = last :: rest)
      (hl : last.inside? = some (g, old)) (hg : (g == f) = true) (hs : last'.shell = last.shell)
      (hin : last'.inside? = some (g, normal (old ++ rules))) :
      Added normal b r f rules { b with rules := last' :: rest }
  | behind {r' : Rule} (hlive : f.isLive = true) (hs : r'.shell = r.shell)
      (hin : r'.inside? = some (f, normal rules))
      (hne : r.isConditional = true → normal rules ≠ []) : Added normal b r f rules (b.push r')
  | nothing (hr : r.isConditional = true) (h : normal rules = [] ∨ f.isLive = false) :
      Added normal b r f rules b

theorem Added.pushUnlessEmpty {normal : List Rule → List Rule} {r : Rule} {f : Frame}
    {rules : List Rule} {make : List Rule → Rule} (hr : r.isConditional = true)
    (hlive : f.isLive = true) (hs : (make (normal rules)).shell = r.shell)
    (hin : (make (normal rules)).inside? = some (f, normal rules)) :
    Added normal b r f rules (b.pushUnlessEmpty make (normal rules)) := by
  unfold Built.pushUnlessEmpty
  split
  · next h => exact .nothing hr (.inl (List.isEmpty_iff.1 h))
  · next h => exact .behind hlive hs hin fun _ hnil => h (List.isEmpty_iff.2 hnil)

theorem Added.pushMedia {normal : List Rule → List Rule} {queries : List MediaQuery}
    {rules : List Rule} :
    Added normal b (.media queries rules) (.media queries) rules
      (b.pushMedia none queries (normal rules)) := by
  unfold Built.pushMedia
  split
  · next h => exact .nothing rfl (.inr (by simpa [Frame.isLive] using h))
  · next h =>
    rw [spellMedia_none]
    exact .pushUnlessEmpty rfl (by simpa [Frame.isLive, or_iff_not_imp_left] using h) rfl rfl

variable (parentUnused) in
/-- Without targets a rule that holds rules joins the last rule if that makes an equal frame, and
stands behind it or goes otherwise. The rules in it are normalised for the same unused names, and
count as being inside of an unused rule if the rule does, unless they have a scope of their own. -/
theorem addRule_frame (ht : goal.targets = none) (hi : inner.IsPlain) (hb : b.upgrades = [])
    {r : Rule} {f : Frame} {rules : List Rule} (hr : r.inside? = some (f, rules))
    (hf : f.isPlain = true) :
    ∃ goal' parent', goal'.targets = none ∧ goal'.unused = goal.unused ∧
      parent' = (r.isConditional && parentUnused) ∧
      Added (fun rs => (inner goal' parent' [] rs).1) b r f rules
        (addRule goal inner parentUnused b r) := by
  have hwithin : ∀ {goal' : Goal} {parent' : Bool} {rest rs : List Rule}
      {add : Built → List Rule → Built}, goal'.targets = none →
      Built.within { b with rules := rest } (inner goal' parent') rs add =
        add { b with rules := rest } (inner goal' parent' [] rs).1 :=
    fun {_ _ rest _ _} ht => within_eq (b := { b with rules := rest }) ht hi hb _ _
  have hwithin' : ∀ {goal' : Goal} {parent' : Bool} {rs : List Rule}
      {add : Built → List Rule → Built}, goal'.targets = none →
      b.within (inner goal' parent') rs add = add b (inner goal' parent' [] rs).1 :=
    fun ht => within_eq ht hi hb _ _
  cases r <;> cases hr <;> try cases hf
  case media queries =>
    refine ⟨goal, parentUnused, ht, rfl, rfl, ?_⟩
    rw [addRule, ht]
    split
    · next q old rest hrules =>
      split
      · next heq =>
        rw [hwithin ht]
        exact .joined rfl hrules rfl heq rfl rfl
      · rw [hwithin' ht]
        exact .pushMedia
    · rw [hwithin' ht]
      exact .pushMedia
  case supports c =>
    refine ⟨{ goal with granted := goal.granted ++ c.grants }, parentUnused, ht, rfl, rfl, ?_⟩
    rw [addRule, ht, map_forTargets_none]
    split
    · next d old rest hrules =>
      split
      · next heq =>
        rw [hwithin rfl]
        exact .joined rfl hrules rfl heq rfl rfl
      · rw [hwithin' rfl]
        exact .pushUnlessEmpty rfl rfl rfl rfl
    · rw [hwithin' rfl]
      exact .pushUnlessEmpty rfl rfl rfl rfl
  case container q =>
    refine ⟨goal, parentUnused, ht, rfl, rfl, ?_⟩
    rw [addRule]
    split
    · next d old rest hrules =>
      split
      · next heq =>
        rw [hwithin ht]
        exact .joined rfl hrules rfl heq rfl rfl
      · rw [hwithin' ht]
        exact .pushUnlessEmpty rfl rfl rfl rfl
    · rw [hwithin' ht]
      exact .pushUnlessEmpty rfl rfl rfl rfl
  case scope root limit =>
    refine ⟨goal, false, ht, rfl, rfl, ?_⟩
    rw [addRule, hwithin' ht]
    exact .behind rfl rfl rfl nofun
  case startingStyle =>
    refine ⟨goal, parentUnused, ht, rfl, rfl, ?_⟩
    rw [addRule, hwithin' ht]
    exact .pushUnlessEmpty rfl rfl rfl rfl

/-! ## Nothing waits -/

theorem Built.Pushed.upgrades_eq {s : Style} {b' : Built} (h : b.Pushed s b') :
    b'.upgrades = b.upgrades := by
  cases h <;> rfl

theorem Built.upgrades_addStyle (ht : goal.targets = none) (hb : b.upgrades = [])
    (ss : List Selector) (block : Block) (rules : List Rule) :
    (b.addStyle goal ss block rules).upgrades = [] := by
  rw [addStyle_eq ht hb]
  split
  · next m hm =>
    obtain ⟨last, rest, k, -, -, rfl⟩ := merge?_cases hm
    exact hb
  · split
    · exact hb
    · rw [(pushed_pushStyle b _).upgrades_eq, hb]

theorem Built.upgrades_addLayer (name : LayerName) (rules : List Rule) :
    (b.addLayer name rules).upgrades = b.upgrades := by
  obtain ⟨old, -, hput⟩ := b.put_addLayer name rules
  exact hput.upgrades_eq

theorem Built.upgrades_declareLayers (names : List LayerName) :
    (names.foldl Built.declareLayer b).upgrades = b.upgrades := by
  induction names generalizing b with
  | nil => rfl
  | cons n names ih => rw [List.foldl_cons, ih, declareLayer_eq, upgrades_addLayer]

theorem Added.upgrades_eq {normal : List Rule → List Rule} {b' : Built} {r : Rule} {f : Frame}
    {rules : List Rule} (h : Added normal b r f rules b') : b'.upgrades = b.upgrades := by
  cases h <;> rfl

theorem upgrades_addRule (ht : goal.targets = none) (hi : inner.IsPlain) (hb : b.upgrades = [])
    (r : Rule) : (addRule goal inner parentUnused b r).upgrades = [] := by
  have hframe : ∀ {f rules}, r.inside? = some (f, rules) → f.isPlain = true →
      (addRule goal inner parentUnused b r).upgrades = [] := by
    intro f rules hr hf
    obtain ⟨_, _, -, -, -, h⟩ := addRule_frame parentUnused ht hi hb hr hf
    rw [h.upgrades_eq, hb]
  cases r
  case style ss block rules q =>
    rw [addRule_style ht hb rfl]
    split
    · exact hb
    · split
      · exact hb
      · exact Built.upgrades_addStyle ht hb _ _ _
  case nesting ss block rules =>
    rw [addRule_nesting ht hb rfl]
    split <;> exact hb
  case declarations block =>
    rw [addRule_declarations ht hb]
    split <;> exact hb
  case layer name rules =>
    cases name with
    | none => exact hb
    | some n => exact (Built.upgrades_addLayer n rules).trans hb
  case layerNames names => exact (Built.upgrades_declareLayers names).trans hb
  case keyframes name q frames =>
    rw [addRule]
    split
    · exact hb
    · obtain ⟨q', hput⟩ := b.put_addKeyframes ht name q frames
      exact hput.upgrades_eq.trans hb
  case registered p =>
    rw [addRule]
    split
    · exact hb
    · exact (b.put_replaceOr _ _).upgrades_eq.trans hb
  all_goals first
    | exact hb
    | exact hframe rfl rfl

variable (parentUnused) in
theorem upgrades_foldl_addRule (ht : goal.targets = none) (hi : inner.IsPlain)
    (hb : b.upgrades = []) (rules : List Rule) :
    (rules.foldl (addRule goal inner parentUnused) b).upgrades = [] := by
  induction rules generalizing b with
  | nil => exact hb
  | cons r rules ih => exact ih (upgrades_addRule ht hi hb r)

end Inside

section Layered

variable {inner : List Upgrade → List Rule → List Rule × List Upgrade} {l : Layered}

theorem Layered.add_layer (hi : ∀ rules, (inner [] rules).2 = []) (hl : l.upgrades = [])
    (name : Option LayerName) (rules : List Rule) :
    l.add inner (.layer name rules) =
      if !(inner [] rules).1.isEmpty then
        { l.push (.layer name (inner [] rules).1) with statement := none }
      else match name with
        | none => l.push .removed
        | some n =>
          if l.declared.contains n then l.push .removed
          else match l.statement with
            | some i => ({ l with declared := n :: l.declared }.extend i n).push .removed
            | none => { { l with declared := n :: l.declared }.push (.layerNames [n]) with
                statement := some l.rules.length } := by
  obtain ⟨rs, declared, statement, upgrades⟩ := l
  obtain rfl : upgrades = [] := hl
  rw [Layered.add]
  dsimp only
  rewrite [hi]
  rfl

@[simp] theorem Layered.upgrades_extend (i : Nat) (n : LayerName) :
    (l.extend i n).upgrades = l.upgrades := by
  unfold Layered.extend
  dsimp only
  split <;> rfl

theorem Layered.upgrades_add (hi : ∀ rules, (inner [] rules).2 = []) (hl : l.upgrades = [])
    (r : Rule) : (l.add inner r).upgrades = [] := by
  cases r
  case layer name rules =>
    rw [Layered.add_layer hi hl]
    repeat' split
    all_goals first
      | exact hl
      | exact (Layered.upgrades_extend _ _).trans hl
  case import_ i =>
    rw [Layered.add]
    split <;> exact hl
  all_goals exact hl

end Layered

theorem upgrades_settleLayers {inner : List Upgrade → List Rule → List Rule × List Upgrade}
    (hi : ∀ rules, (inner [] rules).2 = []) {b : Built} (hb : b.upgrades = []) :
    (settleLayers inner b).2 = [] := by
  have hfold : ∀ (rules : List Rule) (l : Layered), l.upgrades = [] →
      (rules.foldl (Layered.add inner) l).upgrades = [] := by
    intro rules
    induction rules with
    | nil => exact fun _ h => h
    | cons r rules ih => exact fun l hl => ih _ (Layered.upgrades_add hi hl r)
  unfold settleLayers
  dsimp only
  split
  · exact hfold _ _ hb
  · exact hb

/-- Without targets no declarations wait behind rules in normal form. -/
theorem normalizeTo_isPlain (depth : Nat) : (normalizeTo depth).IsPlain := by
  induction depth with
  | zero => exact fun _ _ _ _ => rfl
  | succ depth ih =>
    intro goal ht parentUnused rules
    exact upgrades_settleLayers (ih goal ht parentUnused)
      (upgrades_foldl_addRule parentUnused ht ih rfl rules)

end StyleBuild.Css
