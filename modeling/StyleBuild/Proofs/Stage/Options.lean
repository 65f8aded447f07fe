import Mathlib.Data.List.Nodup
import Mathlib.Data.List.Perm.Basic
import StyleBuild.Pipeline.Basic
import StyleBuild.Proofs.Except

/-!
# Reading stage options

Options are read one after another, each into a field of its own. So their order makes no difference
to what is read (`Options.readInto_of_perm`), and any of them may be taken to be read last
(`Options.exists_readEntries_last`): one that is refused is refused wherever it stands.

`StageKind.bind_reads` puts together what this says of the stages that every build knows.
-/

namespace StyleBuild

/-! ## Options in general -/

namespace Options

variable {α : Type} {set : α → String → Value → Except Mismatch α} {o o' : Options} {d d' : α}
  {es es' : List (String × Value)}

/-- Two options of different names may be read in either order. -/
def Commute (set : α → String → Value → Except Mismatch α) : Prop :=
  ∀ ⦃d d₁ d₂ k v k' v'⦄, k ≠ k' → set d k v = .ok d₁ → set d₁ k' v' = .ok d₂ →
    ∃ d₁', set d k' v' = .ok d₁' ∧ set d₁' k v = .ok d₂

/-- Read some entries in order. -/
def readEntries (set : α → String → Value → Except Mismatch α) (d : α)
    (es : List (String × Value)) : Except Mismatch α :=
  es.foldlM (fun d e => set d e.1 e.2) d

theorem readInto_eq (o : Options) (set : α → String → Value → Except Mismatch α) (d : α) :
    o.readInto set d = readEntries set d o.entries := rfl

theorem readEntries_cons_eq_ok {e : String × Value} :
    readEntries set d (e :: es) = .ok d' ↔
      ∃ d₁, set d e.1 e.2 = .ok d₁ ∧ readEntries set d₁ es = .ok d' := by
  rw [readEntries, List.foldlM_cons]
  constructor
  · exact exists_of_bind_eq_ok
  · rintro ⟨d₁, h₁, h⟩
    exact (bind_eq_ok h₁).trans h

theorem readEntries_of_perm (hset : Commute set) (h : es.Perm es')
    (hn : (es.map Prod.fst).Nodup) (hd : readEntries set d es = .ok d') :
    readEntries set d es' = .ok d' := by
  induction h generalizing d with
  | nil => exact hd
  | cons e h ih =>
    obtain ⟨d₁, h₁, hd⟩ := readEntries_cons_eq_ok.1 hd
    exact readEntries_cons_eq_ok.2 ⟨d₁, h₁, ih (List.nodup_cons.1 hn).2 hd⟩
  | swap e e' es =>
    obtain ⟨d₁, h₁, hd⟩ := readEntries_cons_eq_ok.1 hd
    obtain ⟨d₂, h₂, hd⟩ := readEntries_cons_eq_ok.1 hd
    have hne : e'.1 ≠ e.1 := fun heq => by simp [heq] at hn
    obtain ⟨d₁', h₁', h₂'⟩ := hset hne h₁ h₂
    exact readEntries_cons_eq_ok.2 ⟨d₁', h₁', readEntries_cons_eq_ok.2 ⟨d₂, h₂', hd⟩⟩
  | trans h h' ih ih' => exact ih' ((h.map Prod.fst).nodup_iff.1 hn) (ih hn hd)

/-- **The order of options makes no difference to what is read.** -/
theorem readInto_of_perm (hset : Commute set) (h : o.entries.Perm o'.entries) :
    o.readInto set d = .ok d' ↔ o'.readInto set d = .ok d' :=
  ⟨readEntries_of_perm hset h o.nodup, readEntries_of_perm hset h.symm o'.nodup⟩

/-- **Any entry may be read last**, wherever it stands. -/
theorem exists_readEntries_last (hset : Commute set) (hn : (es.map Prod.fst).Nodup)
    (hd : readEntries set d es = .ok d') {e : String × Value} (he : e ∈ es) :
    ∃ rest d₁, es.Perm (rest ++ [e]) ∧ readEntries set d rest = .ok d₁ ∧
      set d₁ e.1 e.2 = .ok d' := by
  obtain ⟨before, behind, rfl⟩ := List.append_of_mem he
  have hperm : (before ++ e :: behind).Perm (before ++ behind ++ [e]) :=
    List.perm_middle.trans (List.perm_append_singleton e _).symm
  have hlast := readEntries_of_perm hset hperm hn hd
  rw [readEntries, List.foldlM_append] at hlast
  obtain ⟨d₁, h₁, hlast⟩ := exists_of_bind_eq_ok hlast
  obtain ⟨d₂, h₂, hlast⟩ := readEntries_cons_eq_ok.1 hlast
  cases hlast
  exact ⟨_, d₁, hperm, h₁, h₂⟩

/-- A part of a draft that no option touches is as it was. -/
theorem readInto_keeps {β : Type} {view : α → β}
    (hset : ∀ ⦃d d' k v⦄, k ∈ o.keys → set d k v = .ok d' → view d' = view d)
    (h : o.readInto set d = .ok d') : view d' = view d := by
  rw [readInto_eq] at h
  rw [Ordered.keys] at hset
  generalize o.entries = es at hset h
  induction es generalizing d with
  | nil =>
    cases h
    rfl
  | cons e es ih =>
    obtain ⟨d₁, h₁, h⟩ := readEntries_cons_eq_ok.1 h
    exact (ih (fun _ _ _ _ hk => hset (List.mem_cons_of_mem _ hk)) h).trans
      (hset List.mem_cons_self h₁)

/-- **What is read holds known options only.** -/
theorem mem_of_readInto {names : List String} (hset : Commute set)
    (hnames : ∀ ⦃d d' k v⦄, set d k v = .ok d' → k ∈ names) (hd : o.readInto set d = .ok d') :
    ∀ key ∈ o.keys, key ∈ names := by
  intro key hkey
  obtain ⟨e, he, rfl⟩ := List.mem_map.1 hkey
  obtain ⟨rest, d₁, -, -, hlast⟩ := exists_readEntries_last hset o.nodup hd he
  exact hnames hlast

/-- Options under other names that are read alike come to the same. -/
theorem readInto_rename {rename : String → String}
    (hset : ∀ d k v, set d (rename k) v = set d k v)
    (h : o'.entries = o.entries.map fun e => (rename e.1, e.2)) :
    o'.readInto set d = o.readInto set d := by
  simp only [readInto_eq, readEntries, h, List.foldlM_map, hset]

theorem eq_of_single {name key : String} {r : Except Mismatch α} {fault : Mismatch}
    (h : (if key = name then r else .error fault) = .ok d) : key = name := by
  by_contra hkey
  rw [if_neg hkey] at h
  cases h

/-- A kind that knows a single option reads it in any order with others. -/
theorem commute_single (name : String) (read : Value → Except Mismatch α)
    (fault : String → Mismatch) :
    Commute fun _ k v => if k = name then read v else .error (fault k) :=
  fun _ _ _ _ _ _ _ hne h₁ h₂ => absurd ((eq_of_single h₁).trans (eq_of_single h₂).symm) hne

end Options

/-! ## Rule pruning -/

namespace PruningOptions

/-- What reading one option does. -/
inductive Draft.Sets (d : Draft) (v : Value) : String → Draft → Prop
  | content {texts : List String} (h : v.readTexts = .ok texts) :
      Sets d v "content" { d with content := some texts }
  | allowed {key : String} {texts : List String} (hkey : key = "allow-list" ∨ key = "whitelist")
      (hd : d.allowed = none) (h : v.readTexts = .ok texts) :
      Sets d v key { d with allowed := some texts }
  | extractor {pattern : Option String}
      (h : (v.readOptional fun v => v.readText "a string") = .ok pattern) :
      Sets d v "extractor" { d with extractor := pattern }

theorem Draft.set_allowed {d d' : Draft} {key : String} {v : Value}
    (hkey : key = "allow-list" ∨ key = "whitelist") :
    d.set key v = .ok d' ↔ d.allowed = none ∧ ∃ texts, v.readTexts = .ok texts ∧
      d' = { d with allowed := some texts } := by
  obtain ⟨content, allowed, extractor⟩ := d
  have hset : set ⟨content, allowed, extractor⟩ key v =
      if allowed.isSome then .error (.duplicateField "allow-list")
      else v.readTexts.map fun texts => ⟨content, some texts, extractor⟩ := by
    rcases hkey with rfl | rfl <;> cases allowed <;> rfl
  rw [hset]
  cases allowed with
  | some _ => simp
  | none => cases v.readTexts <;> simp [Except.map, eq_comm]

theorem Draft.set_eq_ok_iff {d d' : Draft} {key : String} {v : Value} :
    d.set key v = .ok d' ↔ d.Sets v key d' := by
  constructor
  · intro h
    by_cases hkey : key = "allow-list" ∨ key = "whitelist"
    · obtain ⟨hd, texts, htexts, rfl⟩ := (set_allowed hkey).1 h
      exact .allowed hkey hd htexts
    unfold set at h
    split at h
    · obtain ⟨texts, htexts, h⟩ := exists_of_bind_eq_ok h
      cases h
      exact .content htexts
    · exact absurd (.inl rfl) hkey
    · exact absurd (.inr rfl) hkey
    · obtain ⟨pattern, hpattern, h⟩ := exists_of_bind_eq_ok h
      cases h
      exact .extractor hpattern
    · cases h
  · rintro (h | ⟨hkey, hd, h⟩ | h)
    · exact bind_eq_ok h
    · exact (set_allowed hkey).2 ⟨hd, _, h, rfl⟩
    · exact bind_eq_ok h

theorem Draft.commute_set : Options.Commute set := by
  intro d d₁ d₂ k v k' v' hne h₁ h₂
  simp only [set_eq_ok_iff] at h₁ h₂ ⊢
  cases h₁ with
  | content h₁ =>
    cases h₂ with
    | content h₂ => exact absurd rfl hne
    | allowed hkey hd h₂ => exact ⟨_, .allowed hkey hd h₂, .content h₁⟩
    | extractor h₂ => exact ⟨_, .extractor h₂, .content h₁⟩
  | allowed hkey hd h₁ =>
    cases h₂ with
    | content h₂ => exact ⟨_, .content h₂, .allowed hkey hd h₁⟩
    | allowed hkey' hd' h₂ => cases hd'
    | extractor h₂ => exact ⟨_, .extractor h₂, .allowed hkey hd h₁⟩
  | extractor h₁ =>
    cases h₂ with
    | content h₂ => exact ⟨_, .content h₂, .extractor h₁⟩
    | allowed hkey hd h₂ => exact ⟨_, .allowed hkey hd h₂, .extractor h₁⟩
    | extractor h₂ => exact absurd rfl hne

theorem Draft.Sets.mem_fields {d d' : Draft} {key : String} {v : Value} (h : d.Sets v key d') :
    key ∈ fields := by
  cases h with
  | content => decide
  | allowed hkey => rcases hkey with rfl | rfl <;> decide
  | extractor => decide

theorem Draft.Sets.content_eq {d d' : Draft} {key : String} {v : Value} (h : d.Sets v key d')
    (hkey : key ≠ "content") : d'.content = d.content := by
  cases h with
  | content => exact absurd rfl hkey
  | _ => rfl

/-- Both names of the allow-list at once are refused: whichever is read last finds the list
given. -/
theorem readInto_ne_ok_of_both {o : Options} {d : Draft} (ha : "allow-list" ∈ o.keys)
    (hw : "whitelist" ∈ o.keys) : o.readInto Draft.set {} ≠ .ok d := by
  intro hd
  obtain ⟨⟨_, v⟩, ha, rfl⟩ := List.mem_map.1 ha
  obtain ⟨⟨_, w⟩, hw, hwname⟩ := List.mem_map.1 hw
  obtain rfl : _ = "whitelist" := hwname
  obtain ⟨rest, d₁, hperm, hrest, hlast⟩ :=
    Options.exists_readEntries_last Draft.commute_set o.nodup hd ha
  have hnodup : (rest.map Prod.fst).Nodup :=
    ((hperm.map Prod.fst).nodup_iff.1 o.nodup).sublist
      ((List.sublist_append_left rest _).map Prod.fst)
  have hmem : ("whitelist", w) ∈ rest := by simpa using hperm.mem_iff.1 hw
  obtain ⟨-, d₂, -, -, hbefore⟩ :=
    Options.exists_readEntries_last Draft.commute_set hnodup hrest hmem
  obtain ⟨-, texts, -, rfl⟩ := (Draft.set_allowed (.inr rfl)).1 hbefore
  obtain ⟨hnone, -⟩ := (Draft.set_allowed (.inl rfl)).1 hlast
  cases hnone

/-- The two names of the allow-list mean the same. -/
theorem ofOptions_rename {o o' : Options}
    (h : o'.entries = o.entries.map fun e =>
      (if e.1 = "allow-list" then "whitelist" else e.1, e.2)) : ofOptions o' = ofOptions o := by
  have hset : ∀ (d : Draft) k v,
      d.set (if k = "allow-list" then "whitelist" else k) v = d.set k v := by
    intro d k v
    split
    · next hk =>
      subst hk
      rfl
    · rfl
  rw [ofOptions, ofOptions, Options.readInto_rename hset h]

end PruningOptions

/-! ## Utility generation -/

namespace GenerationOptions

/-- What reading one option does. -/
inductive Draft.Sets (d : Draft) (v : Value) : String → Draft → Prop
  | content {texts : List String} (h : v.readTexts = .ok texts) :
      Sets d v "content" { d with content := some texts }
  | theme {theme : Option Theme} (h : v.readOptional Value.readTheme = .ok theme) :
      Sets d v "theme" { d with theme }
  | safelist {texts : List String} (h : v.readTexts = .ok texts) :
      Sets d v "safelist" { d with safelist := texts }
  | extractor {pattern : Option String}
      (h : (v.readOptional fun v => v.readText "a string") = .ok pattern) :
      Sets d v "extractor" { d with extractor := pattern }

theorem Draft.set_eq_ok_iff {d d' : Draft} {key : String} {v : Value} :
    d.set key v = .ok d' ↔ d.Sets v key d' := by
  constructor
  · intro h
    unfold set at h
    split at h
    · obtain ⟨texts, htexts, h⟩ := exists_of_bind_eq_ok h
      cases h
      exact .content htexts
    · obtain ⟨theme, htheme, h⟩ := exists_of_bind_eq_ok h
      cases h
      exact .theme htheme
    · obtain ⟨texts, htexts, h⟩ := exists_of_bind_eq_ok h
      cases h
      exact .safelist htexts
    · obtain ⟨pattern, hpattern, h⟩ := exists_of_bind_eq_ok h
      cases h
      exact .extractor hpattern
    · cases h
  · rintro (h | h | h | h) <;> exact bind_eq_ok h

theorem Draft.commute_set : Options.Commute set := by
  intro d d₁ d₂ k v k' v' hne h₁ h₂
  simp only [set_eq_ok_iff] at h₁ h₂ ⊢
  cases h₁ with
  | content h₁ =>
    cases h₂ with
    | content h₂ => exact absurd rfl hne
    | theme h₂ => exact ⟨_, .theme h₂, .content h₁⟩
    | safelist h₂ => exact ⟨_, .safelist h₂, .content h₁⟩
    | extractor h₂ => exact ⟨_, .extractor h₂, .content h₁⟩
  | theme h₁ =>
    cases h₂ with
    | content h₂ => exact ⟨_, .content h₂, .theme h₁⟩
    | theme h₂ => exact absurd rfl hne
    | safelist h₂ => exact ⟨_, .safelist h₂, .theme h₁⟩
    | extractor h₂ => exact ⟨_, .extractor h₂, .theme h₁⟩
  | safelist h₁ =>
    cases h₂ with
    | content h₂ => exact ⟨_, .content h₂, .safelist h₁⟩
    | theme h₂ => exact ⟨_, .theme h₂, .safelist h₁⟩
    | safelist h₂ => exact absurd rfl hne
    | extractor h₂ => exact ⟨_, .extractor h₂, .safelist h₁⟩
  | extractor h₁ =>
    cases h₂ with
    | content h₂ => exact ⟨_, .content h₂, .extractor h₁⟩
    | theme h₂ => exact ⟨_, .theme h₂, .extractor h₁⟩
    | safelist h₂ => exact ⟨_, .safelist h₂, .extractor h₁⟩
    | extractor h₂ => exact absurd rfl hne

theorem Draft.Sets.mem_fields {d d' : Draft} {key : String} {v : Value} (h : d.Sets v key d') :
    key ∈ fields := by
  cases h <;> decide

theorem Draft.Sets.content_eq {d d' : Draft} {key : String} {v : Value} (h : d.Sets v key d')
    (hkey : key ≠ "content") : d'.content = d.content := by
  cases h with
  | content => exact absurd rfl hkey
  | _ => rfl

end GenerationOptions

/-! ## The kinds that every build knows -/

/-- The kinds of stages that every build knows. -/
inductive StageKind where
  | generation
  | prefixing
  | pruning
  | minification
  deriving DecidableEq, Repr

namespace StageKind

/-- The name of a kind. -/
def name : StageKind → String
  | generation => "utility-generation"
  | prefixing => "vendor-prefixing"
  | pruning => "rule-pruning"
  | minification => "minification"

/-- The options that a kind knows. -/
def known : StageKind → List String
  | generation => GenerationOptions.fields
  | prefixing => ["targets"]
  | pruning => PruningOptions.fields
  | minification => ["preset"]

/-- What a kind's options are once they are read. -/
def Typed : StageKind → Type
  | generation => GenerationOptions
  | prefixing => Targets
  | pruning => PruningOptions
  | minification => Preset

/-- Read the options of a kind. -/
def read : (k : StageKind) → Options → Except Mismatch k.Typed
  | generation => GenerationOptions.ofOptions
  | prefixing => Targets.ofOptions
  | pruning => PruningOptions.ofOptions
  | minification => Preset.ofOptions

/-- Make a stage of options that have been read. -/
def make (theme : Option Theme) : (k : StageKind) → k.Typed → Except OptionFault Transformer
  | generation, o => do
    let content ← (ContentSource.read o.content o.extractor).mapError .content
    return Generation.transformer ((o.theme.or theme).getD .empty) (.ofList o.safelist) content
  | prefixing, targets => do
    let browsers ← (resolve targets.queries).mapError .targets
    return (prefixingPass browsers).transformer
  | pruning, o => do
    let content ← (ContentSource.read o.content o.extractor).mapError .content
    return Pruning.transformer (.ofList o.allowed) content
  | minification, preset => .ok preset.pass.transformer

variable {k : StageKind} {o o' : Options} {theme : Option Theme} {x : k.Typed} {t : Transformer}

/-- A stage is made of its options once they are read. -/
theorem bind_builtin (k : StageKind) (o : Options) (theme : Option Theme) :
    Registry.builtin.bind k.name o theme =
      some ((k.read o).mapError .unfit >>= k.make theme) := by
  cases k <;> rfl

theorem bind_eq_ok_iff :
    Registry.builtin.bind k.name o theme = some (.ok t) ↔
      ∃ x, k.read o = .ok x ∧ k.make theme x = .ok t := by
  rw [bind_builtin, Option.some_inj]
  constructor
  · intro h
    obtain ⟨x, hx, h⟩ := exists_of_bind_eq_ok h
    exact ⟨x, eq_ok_of_mapError hx, h⟩
  · rintro ⟨x, hx, h⟩
    rw [hx]
    exact h

/-- Where options are not read, no stage is made. -/
theorem exists_bind_eq_error (h : ∀ x, k.read o ≠ .ok x) (theme : Option Theme) :
    ∃ f, Registry.builtin.bind k.name o theme = some (.error f) := by
  cases hb : (k.read o).mapError .unfit >>= k.make theme with
  | error f => exact ⟨f, (bind_builtin k o theme).trans (congrArg some hb)⟩
  | ok t =>
    obtain ⟨x, hx, -⟩ := bind_eq_ok_iff.1 ((bind_builtin k o theme).trans (congrArg some hb))
    exact absurd hx (h x)

/-! ### How options are read -/

/-- What has been read of a kind's options. -/
def Draft : StageKind → Type
  | generation => GenerationOptions.Draft
  | prefixing => Targets
  | pruning => PruningOptions.Draft
  | minification => Preset

/-- Nothing has been read yet. -/
def start : (k : StageKind) → k.Draft
  | generation => ({} : GenerationOptions.Draft)
  | prefixing => Targets.standard
  | pruning => ({} : PruningOptions.Draft)
  | minification => Preset.default

/-- Read one option of a kind. -/
def set : (k : StageKind) → k.Draft → String → Value → Except Mismatch k.Draft
  | generation => GenerationOptions.Draft.set
  | prefixing => fun _ key v =>
    if key = "targets" then Targets.ofValue v else .error (.unknownField key ["targets"])
  | pruning => PruningOptions.Draft.set
  | minification => fun _ key v =>
    if key = "preset" then v.readPreset else .error (.unknownField key ["preset"])

/-- All options of a kind have been read. -/
def finish : (k : StageKind) → k.Draft → Except Mismatch k.Typed
  | generation => fun d => match d.content with
    | none => throw (.missing "content")
    | some content => return ⟨content, d.theme, d.safelist, d.extractor⟩
  | prefixing => .ok
  | pruning => fun d => match d.content with
    | none => throw (.missing "content")
    | some content => return ⟨content, d.allowed.getD [], d.extractor⟩
  | minification => .ok

theorem read_eq_ok_iff :
    k.read o = .ok x ↔ ∃ d, o.readInto k.set k.start = .ok d ∧ k.finish d = .ok x := by
  have hread : k.read o = o.readInto k.set k.start >>= k.finish := by
    cases k with
    | generation => rfl
    | prefixing => exact (bind_pure (o.readInto (set prefixing) _)).symm
    | pruning => rfl
    | minification => exact (bind_pure (o.readInto (set minification) _)).symm
  rw [hread]
  constructor
  · exact exists_of_bind_eq_ok
  · rintro ⟨d, hd, h⟩
    exact (bind_eq_ok hd).trans h

theorem commute_set : (k : StageKind) → Options.Commute k.set
  | generation => GenerationOptions.Draft.commute_set
  | prefixing => Options.commute_single ..
  | pruning => PruningOptions.Draft.commute_set
  | minification => Options.commute_single ..

theorem mem_known_of_set {d d' : k.Draft} {key : String} {v : Value} (h : k.set d key v = .ok d') :
    key ∈ k.known := by
  cases k with
  | generation => exact (GenerationOptions.Draft.set_eq_ok_iff.1 h).mem_fields
  | pruning => exact (PruningOptions.Draft.set_eq_ok_iff.1 h).mem_fields
  | prefixing => exact List.mem_singleton.2 (Options.eq_of_single h)
  | minification => exact List.mem_singleton.2 (Options.eq_of_single h)

theorem read_of_perm (h : o.entries.Perm o'.entries) : k.read o = .ok x ↔ k.read o' = .ok x := by
  simp only [read_eq_ok_iff, Options.readInto_of_perm k.commute_set h]

theorem mem_known_of_read (h : k.read o = .ok x) : ∀ key ∈ o.keys, key ∈ k.known := by
  obtain ⟨d, hd, -⟩ := read_eq_ok_iff.1 h
  exact Options.mem_of_readInto k.commute_set (fun _ _ _ _ => mem_known_of_set) hd

/-- The patterns of content have to be given where a stage asks for content. -/
theorem content_mem_of_read (hk : k = generation ∨ k = pruning) (h : k.read o = .ok x) :
    "content" ∈ o.keys := by
  obtain ⟨d, hd, hfinish⟩ := read_eq_ok_iff.1 h
  by_contra hnone
  have hne {key : String} (hkey : key ∈ o.keys) : key ≠ "content" := fun heq => hnone (heq ▸ hkey)
  rcases hk with rfl | rfl
  · have hkeeps : d.content = none := Options.readInto_keeps (fun _ _ _ _ hkey hset =>
      (GenerationOptions.Draft.set_eq_ok_iff.1 hset).content_eq (hne hkey)) hd
    simp only [finish, hkeeps] at hfinish
    cases hfinish
  · have hkeeps : d.content = none := Options.readInto_keeps (fun _ _ _ _ hkey hset =>
      (PruningOptions.Draft.set_eq_ok_iff.1 hset).content_eq (hne hkey)) hd
    simp only [finish, hkeeps] at hfinish
    cases hfinish

/-- **How options make a stage.** In any order they come to the same stage, and are read as the same
typed options, or are refused. An option that the kind does not know is refused whatever the others
are and wherever it stands. The allow-list of pruning may go by either of its names, but not by both
at once. Content has to be given where a stage asks for it. -/
theorem bind_reads :
    (∀ (k : StageKind) (o o' : Options), o.entries.Perm o'.entries →
      (∀ x, k.read o = .ok x ↔ k.read o' = .ok x) ∧
      ∀ theme t, Registry.builtin.bind k.name o theme = some (.ok t) ↔
        Registry.builtin.bind k.name o' theme = some (.ok t)) ∧
    (∀ (k : StageKind) (o : Options) theme, ∀ key ∈ o.keys, key ∉ k.known →
      ∃ f, Registry.builtin.bind k.name o theme = some (.error f)) ∧
    (∀ (o o' : Options) theme,
      (o'.entries = o.entries.map fun e =>
        (if e.1 = "allow-list" then "whitelist" else e.1, e.2)) →
      PruningOptions.ofOptions o' = PruningOptions.ofOptions o ∧
        Registry.builtin.bind "rule-pruning" o' theme =
          Registry.builtin.bind "rule-pruning" o theme) ∧
    (∀ (o : Options) theme, "allow-list" ∈ o.keys → "whitelist" ∈ o.keys →
      ∃ f, Registry.builtin.bind "rule-pruning" o theme = some (.error f)) ∧
    ∀ (o : Options) theme, "content" ∉ o.keys →
      (∃ f, Registry.builtin.bind "utility-generation" o theme = some (.error f)) ∧
        ∃ f, Registry.builtin.bind "rule-pruning" o theme = some (.error f) := by
  refine ⟨fun k o o' h => ⟨fun x => read_of_perm h, fun theme t => ?_⟩,
    fun k o theme key hkey hunknown => ?_, fun o o' theme h => ?_, fun o theme ha hw => ?_,
    fun o theme hnone => ⟨?_, ?_⟩⟩
  · simp only [bind_eq_ok_iff, read_of_perm h]
  · exact exists_bind_eq_error (fun x hx => hunknown (mem_known_of_read hx key hkey)) theme
  · have hread := PruningOptions.ofOptions_rename h
    have hbind := fun o => bind_builtin pruning o theme
    exact ⟨hread, (hbind o').trans (.trans (congrArg (fun r => some (Except.mapError .unfit r >>=
      make theme pruning)) hread) (hbind o).symm)⟩
  · refine exists_bind_eq_error (k := pruning) (fun x hx => ?_) theme
    obtain ⟨d, hd, -⟩ := read_eq_ok_iff.1 hx
    exact PruningOptions.readInto_ne_ok_of_both ha hw hd
  · exact exists_bind_eq_error (k := generation)
      (fun x hx => hnone (content_mem_of_read (.inl rfl) hx)) theme
  · exact exists_bind_eq_error (k := pruning)
      (fun x hx => hnone (content_mem_of_read (.inr rfl) hx)) theme

/-- Options of pruning in another order, under the other name of the allow-list, under both names,
with one that is not known, and without content. -/
theorem bind_reads_pruning :
    let files : Value := .list [.text "out/*.html"]
    let card : Value := .list [.text "card"]
    let typed : PruningOptions := ⟨["out/*.html"], ["card"], none⟩
    let o : Options := { entries := [("content", files), ("allow-list", card)] }
    let shuffled : Options := { entries := [("allow-list", card), ("content", files)] }
    let renamed : Options := { entries := [("content", files), ("whitelist", card)] }
    let both : Options :=
      { entries := [("whitelist", card), ("content", files), ("allow-list", card)] }
    let stray : Options := { entries := [("preset", .null), ("content", files)] }
    o.entries.Perm shuffled.entries ∧ pruning.read shuffled = .ok typed ∧
      (∃ t, Registry.builtin.bind "rule-pruning" shuffled none = some (.ok t)) ∧
      PruningOptions.ofOptions renamed = .ok typed ∧
      (∃ f, Registry.builtin.bind "rule-pruning" both none = some (.error f)) ∧
      (∃ f, Registry.builtin.bind "rule-pruning" stray none = some (.error f)) ∧
      ∃ f, Registry.builtin.bind "rule-pruning" { entries := [("allow-list", card)] } none =
        some (.error f) := by
  intro files card typed o shuffled renamed both stray
  obtain ⟨horder, hunknown, hrename, hboth, hcontent⟩ := bind_reads
  have hperm : o.entries.Perm shuffled.entries := List.Perm.swap ..
  obtain ⟨hread, hbind⟩ := horder pruning o shuffled hperm
  have hsource : ContentSource.read ["out/*.html"] none = .ok ⟨["out/*.html"], .standard⟩ := by
    cbv
  have hmade : make none pruning typed =
      .ok (Pruning.transformer (.ofList ["card"]) ⟨["out/*.html"], .standard⟩) :=
    bind_eq_ok (congrArg (Except.mapError OptionFault.content) hsource)
  exact ⟨hperm, (hread typed).1 rfl, ⟨_, (hbind none _).1 (bind_eq_ok_iff.2 ⟨typed, rfl, hmade⟩)⟩,
    (hrename o renamed none rfl).1,
    hboth both none (by decide) (by decide),
    hunknown pruning stray none "preset" (by decide) (by decide), (hcontent _ none (by decide)).2⟩

end StageKind

end StyleBuild
