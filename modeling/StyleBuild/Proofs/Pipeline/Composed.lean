import Mathlib
import StyleBuild.Pipeline.Basic
import StyleBuild.Proofs.Except

/-!
# Composed pipelines

What composing says about the stages that it makes: each knows its place (`Composed.index_eq`), and
the content that it asks for has been read (`Composed.isRead`), so that two content sources with
the same key are the same source (`ContentSource.eq_of_key_eq`). The stages that every build knows
are of this sort (`Registry.readsSources_builtin`).

A stage of a kind that every build knows is one of four, and its options say which
(`Transformer.isBuiltIn_of_bind`). None of them looks at its place, and of the classes that content
uses generation looks at those of its theme only, and pruning at those of its input
(`Transformer.IsBuiltIn.result_run_congr`).
-/

namespace StyleBuild

/-! ## Content sources -/

namespace Extractor

theorem pattern_of_read {pattern : String} {e : Extractor} (h : read pattern = .ok e) :
    e.pattern = pattern := by
  unfold read at h
  split at h
  · cases h
    rfl
  · cases h

/-- The standard extractor is the one that its pattern describes. -/
theorem read_standard : read standard.pattern = .ok standard := by cbv

end Extractor

namespace ContentSource

/-- A content source that has been read. Patterns are checked, and an extractor is compiled, nowhere
else. -/
def IsRead (s : ContentSource) : Prop :=
  ∃ patterns extractor, read patterns extractor = .ok s

theorem IsRead.read_extractor {s : ContentSource} (h : s.IsRead) :
    Extractor.read s.extractor.pattern = .ok s.extractor := by
  obtain ⟨patterns, extractor, h⟩ := h
  unfold read at h
  split at h
  · cases h
  · cases h
    exact Extractor.read_standard
  · split at h
    · next e he =>
      cases h
      rw [Extractor.pattern_of_read he, he]
    · cases h

/-- **The key of a content source determines it.** -/
theorem eq_of_key_eq {s s' : ContentSource} (h : s.IsRead) (h' : s'.IsRead) (hk : s.key = s'.key) :
    s = s' := by
  obtain ⟨hp, he⟩ := Prod.mk.inj hk
  have hr : Except.ok s.extractor = Except.ok (ε := Regex.Refusal) s'.extractor := by
    rw [← h.read_extractor, he, h'.read_extractor]
  cases s
  cases s'
  cases hp
  cases hr
  rfl

end ContentSource

/-! ## Registries -/

/-- A registry whose stages ask for no content but what has been read. -/
def Registry.ReadsSources (r : Registry) : Prop :=
  ∀ kind options theme t source, r.bind kind options theme = some (.ok t) →
    t.content = some source → source.IsRead

theorem content_makeMinification {options : Options} {theme : Option Theme} {t : Transformer}
    (h : makeMinification options theme = .ok t) : t.content = none := by
  obtain ⟨preset, -, h⟩ := exists_of_bind_eq_ok h
  cases h
  rfl

theorem content_makePrefixing {options : Options} {theme : Option Theme} {t : Transformer}
    (h : makePrefixing options theme = .ok t) : t.content = none := by
  obtain ⟨targets, -, h⟩ := exists_of_bind_eq_ok h
  obtain ⟨browsers, -, h⟩ := exists_of_bind_eq_ok h
  cases h
  rfl

theorem isRead_makePruning {options : Options} {theme : Option Theme} {t : Transformer}
    {source : ContentSource} (h : makePruning options theme = .ok t)
    (hc : t.content = some source) : source.IsRead := by
  obtain ⟨o, -, h⟩ := exists_of_bind_eq_ok h
  obtain ⟨s, hs, h⟩ := exists_of_bind_eq_ok h
  cases h
  cases hc
  exact ⟨_, _, eq_ok_of_mapError hs⟩

theorem isRead_makeGeneration {options : Options} {theme : Option Theme} {t : Transformer}
    {source : ContentSource} (h : makeGeneration options theme = .ok t)
    (hc : t.content = some source) : source.IsRead := by
  obtain ⟨o, -, h⟩ := exists_of_bind_eq_ok h
  obtain ⟨s, hs, h⟩ := exists_of_bind_eq_ok h
  cases h
  cases hc
  exact ⟨_, _, eq_ok_of_mapError hs⟩

namespace Registry

theorem readsSources_empty : ({} : Registry).ReadsSources := by
  intro kind options theme t source hb
  cases hb

theorem ReadsSources.register {r : Registry} (h : r.ReadsSources) {kind : String}
    {make : StageMaker}
    (hm : ∀ options theme t source, make options theme = .ok t → t.content = some source →
      source.IsRead) : (r.register kind make).ReadsSources := by
  intro kind' options theme t source hb hc
  simp only [Registry.bind, Registry.register, Ordered.get?_insert] at hb
  split at hb
  · exact hm options theme t source (by simpa using hb) hc
  · exact h kind' options theme t source hb hc

/-- The kinds that every build knows read the content that they ask for. -/
theorem readsSources_builtin : builtin.ReadsSources :=
  (((readsSources_empty.register fun _ _ _ _ h hc => isRead_makeGeneration h hc).register
    fun _ _ _ _ h hc => by simp [content_makePrefixing h] at hc).register
    fun _ _ _ _ h hc => isRead_makePruning h hc).register
    fun _ _ _ _ h hc => by simp [content_makeMinification h] at hc

end Registry

/-! ## Pipelines -/

namespace Pipeline

/-- Stages that know their places from a place on. -/
def IsIndexed (n : Nat) (stages : List BoundStage) : Prop :=
  ∀ i s, stages[i]? = some s → s.index = n + i

/-- A pipeline that has been composed, from any configuration and with stages of any kinds. -/
def Composed (p : Pipeline) : Prop :=
  ∃ (c : Config) (r : Registry), r.ReadsSources ∧ compose c r = .ok p

theorem IsIndexed.tail {n : Nat} {s : BoundStage} {stages : List BoundStage}
    (h : IsIndexed n (s :: stages)) : IsIndexed (n + 1) stages := by
  intro i s' hs
  have := h (i + 1) s' (by simpa using hs)
  omega

theorem IsIndexed.head {n : Nat} {s : BoundStage} {stages : List BoundStage}
    (h : IsIndexed n (s :: stages)) : s.index = n := h 0 s rfl

theorem bindStage_inv {r : Registry} {theme : Option Theme} {n : Nat} {spec : StageSpec}
    {s : BoundStage} (h : bindStage r theme n spec = .ok s) :
    s.index = n ∧ r.bind spec.kind spec.options theme = some (.ok s.transformer) := by
  unfold bindStage at h
  split at h
  · cases h
  · cases h
  · next t ht =>
    cases h
    exact ⟨rfl, ht⟩

theorem bindStages_cons_inv {r : Registry} {theme : Option Theme} {n : Nat} {spec : StageSpec}
    {specs : List StageSpec} {stages : List BoundStage}
    (h : bindStages r theme n (spec :: specs) = .ok stages) :
    ∃ s rest, bindStage r theme n spec = .ok s ∧ bindStages r theme (n + 1) specs = .ok rest ∧
      stages = s :: rest := by
  obtain ⟨s, hs, h⟩ := exists_of_bind_eq_ok h
  obtain ⟨rest, hr, h⟩ := exists_of_bind_eq_ok h
  cases h
  exact ⟨s, rest, hs, hr, rfl⟩

theorem isIndexed_of_bindStages {r : Registry} {theme : Option Theme} {n : Nat}
    {specs : List StageSpec} {stages : List BoundStage}
    (h : bindStages r theme n specs = .ok stages) : IsIndexed n stages := by
  induction specs generalizing n stages with
  | nil =>
    cases h
    intro i s hs
    simp at hs
  | cons spec specs ih =>
    obtain ⟨s, rest, hs, hr, rfl⟩ := bindStages_cons_inv h
    intro i s' hi
    cases i with
    | zero =>
      obtain rfl : s = s' := by simpa using hi
      exact (bindStage_inv hs).1
    | succ i =>
      have := ih hr i s' (by simpa using hi)
      omega

theorem bind_of_mem_bindStages {r : Registry} {theme : Option Theme} {n : Nat}
    {specs : List StageSpec} {stages : List BoundStage}
    (h : bindStages r theme n specs = .ok stages) {s : BoundStage} (hs : s ∈ stages) :
    ∃ spec : StageSpec, r.bind spec.kind spec.options theme = some (.ok s.transformer) := by
  induction specs generalizing n stages with
  | nil =>
    cases h
    simp at hs
  | cons spec specs ih =>
    obtain ⟨first, rest, hf, hr, rfl⟩ := bindStages_cons_inv h
    rcases List.mem_cons.1 hs with rfl | hs
    · exact ⟨spec, (bindStage_inv hf).2⟩
    · exact ih hr hs

/-- Making stages makes each of them in its place. -/
theorem bindStages_eq_ok {r : Registry} {theme : Option Theme} {n : Nat} {specs : List StageSpec}
    {stages : List BoundStage} (h : bindStages r theme n specs = .ok stages) :
    stages.length = specs.length ∧ ∀ i spec, specs[i]? = some spec →
      ∃ s, stages[i]? = some s ∧ bindStage r theme (n + i) spec = .ok s := by
  induction specs generalizing n stages with
  | nil =>
    cases h
    simp
  | cons first specs ih =>
    obtain ⟨s, rest, hs, hr, rfl⟩ := bindStages_cons_inv h
    obtain ⟨hl, hrest⟩ := ih hr
    refine ⟨by simp [hl], fun i spec hi => ?_⟩
    cases i with
    | zero =>
      cases hi
      exact ⟨s, rfl, hs⟩
    | succ i =>
      obtain ⟨s', hs', hb⟩ := hrest i spec (by simpa using hi)
      exact ⟨s', by simpa using hs', by rwa [show n + (i + 1) = n + 1 + i by omega]⟩

/-- A pipeline that can be composed has stages, and takes its name and its folder from the
configuration. Its stages are those that can be made. -/
theorem compose_eq_ok {c : Config} {r : Registry} {p : Pipeline} (h : compose c r = .ok p) :
    c.stages ≠ [] ∧ p.name = c.name ∧ p.baseDir = c.base ∧
      bindStages r c.theme 0 c.stages = .ok p.stages := by
  unfold compose at h
  split at h
  · cases h
  · next hne =>
    cases hs : bindStages r c.theme 0 c.stages with
    | error e => rw [hs] at h; cases h
    | ok stages =>
      rw [hs] at h
      cases h
      exact ⟨by simpa using hne, rfl, rfl, rfl⟩

/-- Composing is making all stages. -/
theorem bindStages_of_compose {c : Config} {r : Registry} {p : Pipeline}
    (h : compose c r = .ok p) : bindStages r c.theme 0 c.stages = .ok p.stages :=
  (compose_eq_ok h).2.2.2

namespace Composed

variable {p : Pipeline}

theorem isIndexed (h : p.Composed) : IsIndexed 0 p.stages := by
  obtain ⟨c, r, -, h⟩ := h
  exact isIndexed_of_bindStages (bindStages_of_compose h)

/-- A stage of a composed pipeline knows its place. -/
theorem index_eq (h : p.Composed) {i : Nat} {s : BoundStage} (hs : p.stages[i]? = some s) :
    s.index = i := by
  simpa using h.isIndexed i s hs

/-- The content that a stage of a composed pipeline asks for has been read. -/
theorem isRead (h : p.Composed) {s : BoundStage} (hs : s ∈ p.stages) {source : ContentSource}
    (hc : s.transformer.content = some source) : source.IsRead := by
  obtain ⟨c, r, hr, h⟩ := h
  obtain ⟨spec, hb⟩ := bind_of_mem_bindStages (bindStages_of_compose h) hs
  exact hr _ _ _ _ _ hb hc

end Composed

/-! ## An example -/

/-- A configuration with a stage that asks for content and passes its input on, one that reads its
input as a sheet, and one more behind it. -/
def sampleConfig : Config :=
  let noContent : Options := ({} : Options).insert "content" (.list [])
  { name := "site"
    stages := [
      { kind := "utility-generation", options := noContent },
      { kind := "rule-pruning", options := noContent },
      { kind := "minification", name := some "last" }] }

/-- The pipeline of the configuration. -/
def sample : Pipeline :=
  ⟨"site", ".", [
    ⟨0, "utility-generation", "utility-generation",
      Generation.transformer .empty .empty ⟨[], .standard⟩⟩,
    ⟨1, "rule-pruning", "rule-pruning", Pruning.transformer .empty ⟨[], .standard⟩⟩,
    ⟨2, "minification", "last", Preset.default.pass.transformer⟩]⟩

theorem composed_sample : sample.Composed :=
  ⟨sampleConfig, .builtin, Registry.readsSources_builtin, rfl⟩

end Pipeline

end StyleBuild

/-! ## The stages that every build knows -/

namespace StyleBuild

/-- The theme of a utility-generation stage: its own, or else that of the configuration. -/
def StageSpec.theme (c : Config) (spec : StageSpec) : Theme :=
  match GenerationOptions.ofOptions spec.options with
  | .ok o => (o.theme.or c.theme).getD .empty
  | .error _ => .empty

/-! ## What stages see -/

/-- The content of two contexts uses the same of some names. -/
def StageContext.AgreesOn (ctx ctx' : StageContext) (names : List String) : Prop :=
  ∀ name ∈ names, ctx.uses name = ctx'.uses name

theorem StageContext.agreesOn_of_content_eq {ctx ctx' : StageContext}
    (h : ctx.content = ctx'.content) (names : List String) : ctx.AgreesOn ctx' names := by
  intro name _
  rw [uses, uses, h]

/-- Generation looks at the utilities of its theme. -/
theorem Generation.result_run_congr {theme : Theme} {ctx ctx' : StageContext}
    (h : ctx.AgreesOn ctx' (theme.utilities.map Utility.name)) (safelist : NameSet) (css : String) :
    (run theme safelist ctx css).result = (run theme safelist ctx' css).result := by
  have hg : generated theme safelist ctx = generated theme safelist ctx' := by
    rw [generated, generated]
    congr 2
    refine List.filter_congr fun u hu => ?_
    rw [h u.name (List.mem_map_of_mem hu)]
  rw [run, run]
  cases unknownLayer? (Directive.pieces css.toList) with
  | some layer => rfl
  | none => simp only [hg]

/-- Pruning looks at the classes of its input. -/
theorem Pruning.result_run_congr {ctx ctx' : StageContext} {css : String}
    (h : ∀ sheet, readSheet css = .ok sheet → ctx.AgreesOn ctx' sheet.classes.names)
    (allowed : NameSet) : (run allowed ctx css).result = (run allowed ctx' css).result := by
  rw [run, run]
  cases hs : readSheet css with
  | error e => rfl
  | ok sheet =>
    have hu : unusedIn allowed ctx sheet = unusedIn allowed ctx' sheet := by
      refine congrArg NameSet.mk (List.filter_congr fun name hname => ?_)
      rw [h sheet hs name hname]
    simp only [hu]

/-! ## Kinds -/

namespace Transformer

/-- The stages that every build knows, by their kind: what their options and the theme of the
configuration make of them. -/
inductive IsBuiltIn (c : Config) (spec : StageSpec) : Transformer → Prop
  | generation (safelist : NameSet) (content : ContentSource)
      (kind : spec.kind = "utility-generation") :
      IsBuiltIn c spec (Generation.transformer (spec.theme c) safelist content)
  | prefixing (targets : Option Browsers) (kind : spec.kind = "vendor-prefixing") :
      IsBuiltIn c spec (prefixingPass targets).transformer
  | pruning (allowed : NameSet) (content : ContentSource) (kind : spec.kind = "rule-pruning") :
      IsBuiltIn c spec (Pruning.transformer allowed content)
  | minification (preset : Preset) (kind : spec.kind = "minification") :
      IsBuiltIn c spec preset.pass.transformer

variable {c : Config} {spec : StageSpec} {t : Transformer}

theorem isBuiltIn_of_makeGeneration (hk : spec.kind = "utility-generation")
    (h : makeGeneration spec.options c.theme = .ok t) : IsBuiltIn c spec t := by
  obtain ⟨o, ho, h⟩ := exists_of_bind_eq_ok h
  obtain ⟨content, -, h⟩ := exists_of_bind_eq_ok h
  cases h
  have ht : (o.theme.or c.theme).getD .empty = spec.theme c := by
    rw [StageSpec.theme, eq_ok_of_mapError ho]
  rw [ht]
  exact .generation _ content hk

theorem isBuiltIn_of_makePrefixing (hk : spec.kind = "vendor-prefixing")
    (h : makePrefixing spec.options c.theme = .ok t) : IsBuiltIn c spec t := by
  obtain ⟨targets, -, h⟩ := exists_of_bind_eq_ok h
  obtain ⟨browsers, -, h⟩ := exists_of_bind_eq_ok h
  cases h
  exact .prefixing browsers hk

theorem isBuiltIn_of_makePruning (hk : spec.kind = "rule-pruning")
    (h : makePruning spec.options c.theme = .ok t) : IsBuiltIn c spec t := by
  obtain ⟨o, -, h⟩ := exists_of_bind_eq_ok h
  obtain ⟨content, -, h⟩ := exists_of_bind_eq_ok h
  cases h
  exact .pruning _ content hk

theorem isBuiltIn_of_makeMinification (hk : spec.kind = "minification")
    (h : makeMinification spec.options c.theme = .ok t) : IsBuiltIn c spec t := by
  obtain ⟨preset, -, h⟩ := exists_of_bind_eq_ok h
  cases h
  exact .minification preset hk

/-- **A stage of a kind that every build knows is one of four.** -/
theorem isBuiltIn_of_bind
    (h : Registry.builtin.bind spec.kind spec.options c.theme = some (.ok t)) :
    IsBuiltIn c spec t := by
  obtain ⟨make, hm, h⟩ := Option.map_eq_some_iff.1 h
  simp only [Registry.builtin, Registry.register, Ordered.get?_insert] at hm
  split at hm
  · next hk =>
    cases hm
    exact isBuiltIn_of_makeMinification hk h
  split at hm
  · next hk =>
    cases hm
    exact isBuiltIn_of_makePruning hk h
  split at hm
  · next hk =>
    cases hm
    exact isBuiltIn_of_makePrefixing hk h
  split at hm
  · next hk =>
    cases hm
    exact isBuiltIn_of_makeGeneration hk h
  · cases hm

/-- **What a stage that every build knows looks at**, besides its input: the classes of its theme if
it generates utilities, and those of its input if it prunes. -/
theorem IsBuiltIn.result_run_congr (ht : IsBuiltIn c spec t) {ctx ctx' : StageContext}
    {css : String}
    (hg : spec.kind = "utility-generation" →
      ctx.AgreesOn ctx' ((spec.theme c).utilities.map Utility.name))
    (hp : spec.kind = "rule-pruning" →
      ∀ sheet, readSheet css = .ok sheet → ctx.AgreesOn ctx' sheet.classes.names) :
    (t.run ctx css).result = (t.run ctx' css).result := by
  cases ht with
  | generation safelist content kind => exact Generation.result_run_congr (hg kind) safelist css
  | prefixing targets => rfl
  | pruning allowed content kind => exact Pruning.result_run_congr (hp kind) allowed
  | minification preset => rfl

/-- A stage that every build knows does not look at its place. -/
theorem IsBuiltIn.result_run_index (ht : IsBuiltIn c spec t) (i j : Nat) (content : Option Scan)
    (css : String) : (t.run ⟨i, content⟩ css).result = (t.run ⟨j, content⟩ css).result :=
  ht.result_run_congr (fun _ => StageContext.agreesOn_of_content_eq rfl _)
    fun _ _ _ => StageContext.agreesOn_of_content_eq rfl _

end Transformer

/-! ## Pipelines -/

namespace Pipeline

variable {c : Config} {n i : Nat} {specs : List StageSpec} {stages : List BoundStage}
  {spec : StageSpec} {s : BoundStage}

theorem kind_of_bindStage {r : Registry} {theme : Option Theme}
    (h : bindStage r theme n spec = .ok s) : s.kind = spec.kind := by
  unfold bindStage at h
  split at h <;> cases h
  rfl

theorem isBuiltIn_of_bindStages (h : bindStages .builtin c.theme n specs = .ok stages)
    (hs : stages[i]? = some s) :
    ∃ spec, specs[i]? = some spec ∧ s.kind = spec.kind ∧ s.transformer.IsBuiltIn c spec := by
  obtain ⟨hl, hb⟩ := bindStages_eq_ok h
  obtain ⟨hi, -⟩ := List.getElem?_eq_some_iff.1 hs
  have hspec : specs[i]? = some specs[i] := List.getElem?_eq_getElem (hl ▸ hi)
  obtain ⟨s', hs', hb⟩ := hb i _ hspec
  obtain rfl : s = s' := Option.some.inj (hs.symm.trans hs')
  exact ⟨_, hspec, kind_of_bindStage hb, Transformer.isBuiltIn_of_bind (bindStage_inv hb).2⟩

end Pipeline

end StyleBuild
