import StyleBuild.Command.Inspect
import StyleBuild.Proofs.Command.Building
import StyleBuild.Proofs.Pipeline.Rereading
import StyleBuild.Proofs.Stage.Options

/-!
# What a valid configuration is

The commands agree on which configurations are valid (`Session.commands_agree`). What validation
checks is what the other commands do before they go on. That it also prints the configuration as
JSON makes no difference: the options that stages take are plain data
(`StageKind.plain_of_read`), and plain data is JSON.
-/

namespace StyleBuild

/-! ## Plain data -/

theorem exists_of_mapM_eq_ok {ε α β : Type} {f : α → Except ε β} {xs : List α} {ys : List β}
    (h : xs.mapM f = .ok ys) : ∀ x ∈ xs, ∃ y, f x = .ok y :=
  Yaml.forall_mem_of_forall₂ (mapM_eq_ok_iff.1 h).flip fun y _ _ hy => ⟨y, hy⟩

namespace Value

open Yaml

variable {v : Value}

/-- A map from names to plain data is plain. -/
theorem plain_map {es : List (Value × Value)}
    (h : ∀ e ∈ es, (∃ name, e.1 = .text name) ∧ e.2.Plain) : (Value.map es).Plain := by
  have hentries : ∀ e ∈ es, ∃ e' : String × Value, e = (.text e'.1, e'.2) ∧ e'.2.Plain := by
    rintro ⟨key, value⟩ he
    obtain ⟨⟨name, rfl⟩, hplain⟩ := h _ he
    exact ⟨(name, value), rfl, hplain⟩
  obtain ⟨es', hes'⟩ := exists_forall₂ hentries
  have heq : es = es'.map fun e => (.text e.1, e.2) := by
    rw [← List.forall₂_eq_eq_eq, List.forall₂_map_right_iff]
    exact hes'.imp fun _ _ he => he.1
  rw [heq]
  exact .map (forall_mem_of_forall₂ hes' fun _ _ _ he => he.2)

/-- Plain data is JSON. -/
theorem Plain.exists_toJson (h : v.Plain) : ∃ j, v.toJson = .ok j := by
  induction h with
  | null => exact ⟨_, rfl⟩
  | bool b => exact ⟨_, rfl⟩
  | integer n => exact ⟨_, rfl⟩
  | text s => exact ⟨_, rfl⟩
  | list _ ih =>
    obtain ⟨js, hjs⟩ := exists_forall₂ ih
    refine ⟨.array js, ?_⟩
    rw [toJson, itemsToJson_eq_ok hjs]
    rfl
  | @map es _ ih =>
    have hnamed : ∀ e ∈ es, ∃ j : String × Json, j.1 = e.1 ∧ e.2.toJson = .ok j.2 := by
      intro e he
      obtain ⟨j, hj⟩ := ih e he
      exact ⟨(e.1, j), rfl, hj⟩
    obtain ⟨js, hjs⟩ := exists_forall₂ hnamed
    refine ⟨.object js, ?_⟩
    rw [toJson, entriesToJson_eq_ok hjs]
    rfl

/-! ## What is read from plain data -/

theorem eq_text_of_readText {expected text : String} (h : v.readText expected = .ok text) :
    v = .text text := by
  unfold readText at h
  split at h
  · cases h
    rfl
  · cases h

theorem plain_of_readText {expected text : String} (h : v.readText expected = .ok text) :
    v.Plain := by
  rw [eq_text_of_readText h]
  exact .text text

theorem plain_of_readTexts {texts : List String} (h : v.readTexts = .ok texts) : v.Plain := by
  obtain ⟨vs, hvs, htexts⟩ := exists_of_bind_eq_ok h
  unfold readList at hvs
  split at hvs
  · cases hvs
    refine .list fun w hw => ?_
    obtain ⟨text, htext⟩ := exists_of_mapM_eq_ok htexts w hw
    exact plain_of_readText htext
  · exact .null
  · cases hvs

theorem plain_of_readOptional {α : Type} {read : Value → Except Mismatch α} {x : Option α}
    (hread : ∀ y, read v = .ok y → v.Plain) (h : v.readOptional read = .ok x) : v.Plain := by
  unfold readOptional at h
  split at h
  · exact .null
  · obtain ⟨y, hy, -⟩ := exists_of_map_eq_ok h
    exact hread y hy

theorem plain_of_readMap {expected : String} {es : List (Value × Value)}
    (h : v.readMap expected = .ok es)
    (hes : ∀ e ∈ es, (∃ name, e.1 = .text name) ∧ e.2.Plain) : v.Plain := by
  unfold readMap at h
  split at h
  · cases h
    exact plain_map hes
  · exact .null
  · cases h

theorem plain_of_readOrdered {α : Type} {read : Value → Except Mismatch α} {m : Ordered α}
    (hread : ∀ w x, read w = .ok x → w.Plain) (h : v.readOrdered read = .ok m) : v.Plain := by
  obtain ⟨es, hes, h⟩ := exists_of_bind_eq_ok h
  obtain ⟨entries, hentries, -⟩ := exists_of_bind_eq_ok h
  refine plain_of_readMap hes fun e he => ?_
  obtain ⟨y, hy⟩ := exists_of_mapM_eq_ok hentries e he
  obtain ⟨name, hname, hy⟩ := exists_of_bind_eq_ok hy
  obtain ⟨x, hx, -⟩ := exists_of_bind_eq_ok hy
  exact ⟨⟨name, eq_text_of_readText hname⟩, hread e.2 x hx⟩

theorem plain_of_readThemeFields {d : ThemeDraft} {es : List (Value × Value)} {t : Theme}
    (h : readThemeFields d es = .ok t) :
    ∀ e ∈ es, (∃ name, e.1 = .text name) ∧ e.2.Plain := by
  induction es generalizing d with
  | nil => exact nofun
  | cons e es ih =>
    obtain ⟨k, w⟩ := e
    rw [readThemeFields] at h
    obtain ⟨name, hname, h⟩ := exists_of_bind_eq_ok h
    have hrest {d' : ThemeDraft} (hw : w.Plain) (h : readThemeFields d' es = .ok t) :
        ∀ e ∈ (k, w) :: es, (∃ name, e.1 = .text name) ∧ e.2.Plain :=
      List.forall_mem_cons.2 ⟨⟨⟨name, eq_text_of_readText hname⟩, hw⟩, ih h⟩
    split at h
    · split at h
      · cases h
      · obtain ⟨fonts, hfonts, h⟩ := exists_of_bind_eq_ok h
        exact hrest (plain_of_readOrdered (fun _ _ => plain_of_readTexts) hfonts) h
    · split at h
      · split at h
        · cases h
        · obtain ⟨markers, hmarkers, h⟩ := exists_of_bind_eq_ok h
          exact hrest (plain_of_readOrdered (fun _ _ => plain_of_readText) hmarkers) h
      · cases h

theorem plain_of_readTheme {t : Theme} (h : v.readTheme = .ok t) : v.Plain := by
  obtain ⟨es, hes, h⟩ := exists_of_bind_eq_ok h
  exact plain_of_readMap hes (plain_of_readThemeFields h)

theorem plain_of_readPreset {preset : Preset} (h : v.readPreset = .ok preset) : v.Plain := by
  unfold readPreset at h
  split at h
  · exact .text _
  · cases h

theorem plain_of_mapM_textOf {vs : List Value} {texts : List String}
    (h : vs.mapM Targets.textOf? = some texts) : ∀ w ∈ vs, w.Plain := by
  induction vs generalizing texts with
  | nil => exact nofun
  | cons w vs ih =>
    rw [List.mapM_cons] at h
    obtain ⟨text, htext, h⟩ := Option.bind_eq_some_iff.1 h
    obtain ⟨rest, hrest, -⟩ := Option.bind_eq_some_iff.1 h
    refine List.forall_mem_cons.2 ⟨?_, ih hrest⟩
    unfold Targets.textOf? at htext
    split at htext
    · exact .text _
    · cases htext

theorem plain_of_targets {targets : Targets} (h : Targets.ofValue v = .ok targets) : v.Plain := by
  unfold Targets.ofValue at h
  split at h
  · exact .text _
  · next vs =>
    split at h
    · next queries hqueries => exact .list (plain_of_mapM_textOf hqueries)
    · cases h
  · cases h

end Value

/-! ## What stages take -/

namespace StageKind

variable {k : StageKind} {o : Options} {x : k.Typed}

theorem plain_of_set {d d' : k.Draft} {key : String} {v : Value} (h : k.set d key v = .ok d') :
    v.Plain := by
  cases k with
  | generation =>
    cases GenerationOptions.Draft.set_eq_ok_iff.1 h with
    | content hread => exact Value.plain_of_readTexts hread
    | theme hread => exact Value.plain_of_readOptional (fun _ => Value.plain_of_readTheme) hread
    | safelist hread => exact Value.plain_of_readTexts hread
    | extractor hread => exact Value.plain_of_readOptional (fun _ => Value.plain_of_readText) hread
  | prefixing =>
    obtain rfl := Options.eq_of_single h
    exact Value.plain_of_targets h
  | pruning =>
    cases PruningOptions.Draft.set_eq_ok_iff.1 h with
    | content hread => exact Value.plain_of_readTexts hread
    | allowed _ _ hread => exact Value.plain_of_readTexts hread
    | extractor hread => exact Value.plain_of_readOptional (fun _ => Value.plain_of_readText) hread
  | minification =>
    obtain rfl := Options.eq_of_single h
    exact Value.plain_of_readPreset h

/-- **The options that a stage takes are plain data.** -/
theorem plain_of_read (h : k.read o = .ok x) : ∀ e ∈ o.entries, e.2.Plain := by
  intro e he
  obtain ⟨d, hd, -⟩ := read_eq_ok_iff.1 h
  obtain ⟨rest, d₁, -, -, hlast⟩ := Options.exists_readEntries_last k.commute_set o.nodup hd he
  exact plain_of_set hlast

end StageKind

namespace Pipeline

variable {c : Config} {spec : StageSpec} {p : Pipeline}

theorem exists_kind_of_isBuiltIn {t : Transformer} (h : t.IsBuiltIn c spec) :
    ∃ k : StageKind, spec.kind = k.name := by
  cases h with
  | generation _ _ hkind => exact ⟨.generation, hkind⟩
  | prefixing _ hkind => exact ⟨.prefixing, hkind⟩
  | pruning _ _ hkind => exact ⟨.pruning, hkind⟩
  | minification _ hkind => exact ⟨.minification, hkind⟩

theorem plain_of_bind {t : Transformer}
    (h : Registry.builtin.bind spec.kind spec.options c.theme = some (.ok t)) :
    ∀ e ∈ spec.options.entries, e.2.Plain := by
  obtain ⟨k, hk⟩ := exists_kind_of_isBuiltIn (Transformer.isBuiltIn_of_bind h)
  rw [hk] at h
  obtain ⟨x, hx, -⟩ := StageKind.bind_eq_ok_iff.1 h
  exact StageKind.plain_of_read hx

/-- The options of a configuration whose pipeline can be composed are plain data. -/
theorem plain_of_compose (h : compose c .builtin = .ok p) :
    ∀ spec ∈ c.stages, ∀ e ∈ spec.options.entries, e.2.Plain := by
  intro spec hspec
  obtain ⟨i, hi⟩ := List.mem_iff_getElem?.1 hspec
  obtain ⟨s, -, hs⟩ := (bindStages_eq_ok (bindStages_of_compose h)).2 i spec hi
  exact plain_of_bind (bindStage_inv hs).2

end Pipeline

theorem StageSpec.exists_toJson {spec : StageSpec} (h : ∀ e ∈ spec.options.entries, e.2.Plain) :
    ∃ j, spec.toJson = .ok j := by
  have hentries : ∀ e ∈ spec.options.entries, ∃ j : String × Json,
      (do return (e.1, ← e.2.toJson) : Except KeyFault (String × Json)) = .ok j := by
    intro e he
    obtain ⟨j, hj⟩ := (h e he).exists_toJson
    exact ⟨(e.1, j), bind_eq_ok hj⟩
  obtain ⟨js, hjs⟩ := Yaml.exists_forall₂ hentries
  exact ⟨_, bind_eq_ok (mapM_eq_ok_iff.2 hjs)⟩

/-- A configuration whose pipeline can be composed is JSON. -/
theorem Config.exists_toJson {c : Config} {p : Pipeline}
    (h : Pipeline.compose c .builtin = .ok p) : ∃ j, c.toJson = .ok j := by
  have hspecs : ∀ spec ∈ c.stages, ∃ j, spec.toJson = .ok j := fun spec hspec =>
    StageSpec.exists_toJson (Pipeline.plain_of_compose h spec hspec)
  obtain ⟨js, hjs⟩ := Yaml.exists_forall₂ hspecs
  exact ⟨_, bind_eq_ok (mapM_eq_ok_iff.2 hjs)⟩

/-! ## Loading and composing -/

theorem Pipeline.compose_withBase (c : Config) (dir : String) (r : Registry) :
    compose (c.withBase dir) r = (compose c r).map fun p => { p with baseDir := dir } := by
  unfold compose
  split
  · next hnone =>
    rw [if_pos (show c.stages.isEmpty = true from hnone)]
    rfl
  · next hsome =>
    rw [if_neg (show ¬c.stages.isEmpty = true from hsome)]
    change (bindStages r c.theme 0 c.stages).map _ = _
    cases bindStages r c.theme 0 c.stages <;> rfl

namespace Session

variable {s s' : Session} {path path' : String} {baseDir : Option String} {c : Config}
  {p : Pipeline} {chain : List String}

/-- What a command tries before it goes on. -/
def attempts : List String := ["Failed to load pipeline config", "Failed to compose pipeline"]

/-- Load a configuration and compose its pipeline. -/
def prepare (s : Session) (path : String) (baseDir : Option String) :
    Except (List String) Pipeline := do
  Session.compose (← s.loadConfig path baseDir)

theorem compose_withBase (c : Config) (dir : String) :
    Session.compose (c.withBase dir) =
      (Session.compose c).map fun p => { p with baseDir := dir } := by
  rw [compose, compose, Pipeline.compose_withBase]
  cases Pipeline.compose c .builtin <;> rfl

/-- A configuration that is loaded is what the text of its file says, with a base directory. -/
theorem loadConfig_eq_ok_iff :
    s.loadConfig path baseDir = .ok c ↔ ∃ text c₀, s.files.readText path = .ok text ∧
      Config.read text = .ok c₀ ∧ c = c₀.withBase (baseDir.getD (folderOf path)) := by
  constructor
  · intro h
    unfold loadConfig at h
    split at h
    · cases h
    · next loaded hload =>
      obtain ⟨text, htext, hload⟩ := exists_of_bind_eq_ok hload
      obtain ⟨c₀, hread, hload⟩ := exists_of_bind_eq_ok hload
      cases hload
      cases h
      refine ⟨text, c₀, eq_ok_of_mapError htext, eq_ok_of_mapError hread, ?_⟩
      cases baseDir <;> rfl
  · rintro ⟨text, c₀, htext, hread, rfl⟩
    have hload : Config.load s.files path = .ok (c₀.withBase (folderOf path)) := by
      rw [Config.load, htext]
      change Except.mapError _ (Config.read text) >>= _ = _
      rw [hread]
      rfl
    rw [loadConfig, hload]
    cases baseDir <;> rfl

/-- Another base directory is all that a command adds to what it loads. -/
theorem prepare_of_load {loaded : Config} (h : Config.load s.files path = .ok loaded)
    (baseDir : Option String) :
    s.prepare path baseDir = (Session.compose loaded).map fun p =>
      { p with baseDir := baseDir.getD p.baseDir } := by
  rw [prepare, loadConfig, h]
  cases baseDir with
  | none =>
    change Session.compose loaded = _
    cases Session.compose loaded <;> rfl
  | some dir => exact compose_withBase loaded dir

/-- **Composing depends on the text of the configuration only.** -/
theorem compose_of_loadConfig (h : s.loadConfig path baseDir = .ok c)
    (htext : s'.files.readText path' = s.files.readText path) (baseDir' : Option String) :
    ∃ c', s'.loadConfig path' baseDir' = .ok c' ∧
      Session.compose c' = (Session.compose c).map fun p => { p with baseDir := c'.base } := by
  obtain ⟨text, c₀, hfile, hread, rfl⟩ := loadConfig_eq_ok_iff.1 h
  refine ⟨c₀.withBase (baseDir'.getD (folderOf path')),
    loadConfig_eq_ok_iff.2 ⟨text, c₀, htext.trans hfile, hread, rfl⟩, ?_⟩
  rw [compose_withBase, compose_withBase]
  cases Session.compose c₀ <;> rfl

/-! ### Going on -/

/-- Load a configuration, print something, compose the pipeline and go on with it. -/
def onPipeline (s : Session) (path : String) (baseDir : Option String)
    (opening : Config → List Printed) (goOn : List Printed → Pipeline → Finish) : Finish :=
  match s.loadConfig path baseDir with
  | .error chain => s.refuse [] chain
  | .ok config =>
    match Session.compose config with
    | .error chain => s.refuse (opening config) chain
    | .ok p => goOn (opening config) p

variable {opening : Config → List Printed} {goOn : List Printed → Pipeline → Finish}

theorem onPipeline_of_prepare (h : s.prepare path baseDir = .ok p) :
    ∃ printed, s.onPipeline path baseDir opening goOn = goOn printed p := by
  obtain ⟨c, hload, hcompose⟩ := exists_of_bind_eq_ok h
  refine ⟨opening c, ?_⟩
  rw [onPipeline, hload]
  dsimp only
  rw [hcompose]

theorem onPipeline_of_prepare_error (h : s.prepare path baseDir = .error chain) :
    ∃ printed, s.onPipeline path baseDir opening goOn = s.refuse printed chain := by
  unfold prepare at h
  unfold onPipeline
  cases hload : s.loadConfig path baseDir with
  | error loading =>
    rw [hload] at h
    cases h
    exact ⟨[], rfl⟩
  | ok c =>
    rw [hload] at h
    refine ⟨opening c, ?_⟩
    dsimp only
    rw [show Session.compose c = .error chain from h]

theorem exists_onPipeline_iff :
    (∃ p printed, s.prepare path baseDir = .ok p ∧
      s.onPipeline path baseDir opening goOn = goOn printed p) ↔
    ∃ p, s.prepare path baseDir = .ok p := by
  constructor
  · rintro ⟨p, -, hp, -⟩
    exact ⟨p, hp⟩
  · rintro ⟨p, hp⟩
    obtain ⟨printed, hrun⟩ := onPipeline_of_prepare hp
    exact ⟨p, printed, hp, hrun⟩

end Session

/-! ## Validation -/

namespace ValidateCommand

variable {v : ValidateCommand} {s : Session} {c : Config} {p : Pipeline} {chain : List String}

/-- Tell of a configuration that is not valid. -/
def reject (s : Session) (printed : List Printed) (chain : List String) : Finish :=
  ⟨1, printed ++ [.out (Mark.bad.line "Validation failed:"),
    .out ("  " ++ s.console.paint .red (String.intercalate ": " chain))], s.files⟩

/-- What validation checks is what other commands do before they go on. -/
theorem exists_prepare_of_check (h : v.check s = .ok (c, p)) (baseDir : Option String) :
    ∃ p', s.prepare v.config baseDir = .ok p' := by
  obtain ⟨loaded, hload, h⟩ := exists_of_bind_eq_ok h
  obtain ⟨composed, hcompose, -⟩ := exists_of_bind_eq_ok h
  have hc : Session.compose loaded = .ok composed := by
    rw [Session.compose, eq_ok_of_mapError hcompose]
    rfl
  rw [Session.prepare_of_load (eq_ok_of_mapError hload), hc]
  exact ⟨_, rfl⟩

/-- Where validation finds an error, that error stops the other commands. -/
theorem exists_prepare_of_check_error (h : v.check s = .error chain) :
    ∃ tried ∈ Session.attempts,
      ∀ baseDir, s.prepare v.config baseDir = .error (tried :: chain) := by
  unfold check at h
  cases hload : Config.load s.files v.config with
  | error e =>
    rw [hload] at h
    cases h
    refine ⟨_, List.mem_cons_self, fun baseDir => ?_⟩
    rw [Session.prepare, Session.loadConfig, hload]
    rfl
  | ok loaded =>
    rw [hload] at h
    change Except.mapError _ (Pipeline.compose loaded .builtin) >>= _ = _ at h
    refine ⟨_, List.mem_cons_of_mem _ List.mem_cons_self, fun baseDir => ?_⟩
    cases hcompose : Pipeline.compose loaded .builtin with
    | ok composed =>
      rw [hcompose] at h
      cases h
    | error e =>
      rw [hcompose] at h
      cases h
      have hc : Session.compose loaded = .error ("Failed to compose pipeline" :: e.chain) := by
        rw [Session.compose, hcompose]
        rfl
      rw [Session.prepare_of_load hload, hc]
      rfl

/-- A configuration that is found valid can be printed. -/
theorem exit_run_of_check (h : v.check s = .ok (c, p)) : (v.run s).exit = 0 := by
  have hcompose : Pipeline.compose c .builtin = .ok p := by
    obtain ⟨loaded, -, h⟩ := exists_of_bind_eq_ok h
    obtain ⟨composed, hcompose, h⟩ := exists_of_bind_eq_ok h
    cases h
    exact eq_ok_of_mapError hcompose
  obtain ⟨j, hj⟩ := Config.exists_toJson hcompose
  simp only [run, h, hj]
  split <;> rfl

theorem run_of_check_error (h : v.check s = .error chain) :
    ∃ printed, v.run s = reject s printed chain := by
  refine ⟨.out (Mark.info.line "Validating pipeline...") :: v.notes s, ?_⟩
  rw [run, h]
  rfl

theorem exit_run_eq_zero_iff (v : ValidateCommand) (s : Session) (baseDir : Option String) :
    (v.run s).exit = 0 ↔ ∃ p, s.prepare v.config baseDir = .ok p := by
  cases hcheck : v.check s with
  | ok found =>
    obtain ⟨c, p⟩ := found
    exact iff_of_true (exit_run_of_check hcheck) (exists_prepare_of_check hcheck baseDir)
  | error chain =>
    obtain ⟨printed, hrun⟩ := run_of_check_error hcheck
    obtain ⟨tried, -, hprepare⟩ := exists_prepare_of_check_error hcheck
    refine iff_of_false ?_ ?_
    · rw [hrun]
      exact Nat.one_ne_zero
    · rintro ⟨p, hp⟩
      rw [hprepare baseDir] at hp
      cases hp

end ValidateCommand

/-! ## The commands that go on -/

namespace BuildCommand

variable (b : BuildCommand) (s : Session)

/-- Read the style sheet and run a pipeline on it. -/
def goOn (printed : List Printed) (p : Pipeline) : Finish :=
  match b.readSource s with
  | .error chain => s.refuse printed chain
  | .ok source => runPipeline b s printed p source

theorem run_eq : b.run s = s.onPipeline b.config b.baseDir (opening s) (b.goOn s) := rfl

/-- A build gets past loading and composing. -/
def GoesOn : Prop :=
  ∃ p printed, s.prepare b.config b.baseDir = .ok p ∧ b.run s = b.goOn s printed p

theorem goesOn_iff : b.GoesOn s ↔ ∃ p, s.prepare b.config b.baseDir = .ok p := by
  rw [GoesOn, b.run_eq]
  exact Session.exists_onPipeline_iff

end BuildCommand

namespace ScanCommand

variable (t : ScanCommand) (s : Session)

/-- Scan the content of a pipeline. -/
def goOn (printed : List Printed) (p : Pipeline) : Finish :=
  let (v, stop) := survey s.files p.baseDir {} p.stages
  let printed := printed ++ s.shownNotes v.notes
  match stop with
  | some (index, f) =>
    s.refuse printed ["Failed to scan content for stage " ++ decimalText index, f.message,
      f.cause.message]
  | none => s.accept (printed ++ shown t s v.findings)

theorem run_eq : t.run s = s.onPipeline t.config t.baseDir s.composeNotes (t.goOn s) := rfl

/-- A scan gets past loading and composing. -/
def GoesOn : Prop :=
  ∃ p printed, s.prepare t.config t.baseDir = .ok p ∧ t.run s = t.goOn s printed p

theorem goesOn_iff : t.GoesOn s ↔ ∃ p, s.prepare t.config t.baseDir = .ok p := by
  rw [GoesOn, t.run_eq]
  exact Session.exists_onPipeline_iff

end ScanCommand

/-! ## The commands together -/

namespace Session

/-- **The commands agree on what a valid configuration is**, whatever the base directories are. The
error that validation finds is what stops the others. What composing comes to depends on the text
of the configuration only: another session that has the text, under another path and for another
base directory, composes the same stages, or finds the same error. -/
theorem commands_agree (s : Session) {v : ValidateCommand} {b : BuildCommand} {t : ScanCommand}
    (hb : b.config = v.config) (ht : t.config = v.config) :
    ((v.run s).exit = 0 ↔ b.GoesOn s) ∧ ((v.run s).exit = 0 ↔ t.GoesOn s) ∧
    ((v.run s).exit ≠ 0 → ∃ chain, v.check s = .error chain ∧
      (∃ printed, v.run s = ValidateCommand.reject s printed chain) ∧
      ∃ tried ∈ attempts, (∃ printed, b.run s = s.refuse printed (tried :: chain)) ∧
        ∃ printed, t.run s = s.refuse printed (tried :: chain)) ∧
    ∀ (s' : Session) path' baseDir baseDir' c,
      s'.files.readText path' = s.files.readText v.config →
      s.loadConfig v.config baseDir = .ok c → ∃ c', s'.loadConfig path' baseDir' = .ok c' ∧
        Session.compose c' = (Session.compose c).map fun p => { p with baseDir := c'.base } := by
  refine ⟨?_, ?_, fun hexit => ?_, fun s' path' baseDir baseDir' c htext hload => ?_⟩
  · rw [v.exit_run_eq_zero_iff s b.baseDir, b.goesOn_iff, hb]
  · rw [v.exit_run_eq_zero_iff s t.baseDir, t.goesOn_iff, ht]
  · cases hcheck : v.check s with
    | ok found => exact absurd (ValidateCommand.exit_run_of_check hcheck) hexit
    | error chain =>
      obtain ⟨tried, htried, hprepare⟩ := ValidateCommand.exists_prepare_of_check_error hcheck
      refine ⟨chain, rfl, ValidateCommand.run_of_check_error hcheck, tried, htried, ?_, ?_⟩
      · rw [b.run_eq, hb]
        exact onPipeline_of_prepare_error (hprepare b.baseDir)
      · rw [t.run_eq, ht]
        exact onPipeline_of_prepare_error (hprepare t.baseDir)
  · exact compose_of_loadConfig hload htext baseDir'

/-- A configuration of a stage that is not known. -/
def unknownText : String := "name: p\nstages:\n  - kind: nope\n"

/-- A session with that configuration. -/
def unknown : Session where
  files := { nodes := [(["p.yaml"], .file (Utf8.bytes unknownText))] }

/-- Another session with it, under another name and beside content. -/
def renamed : Session where
  files := { nodes := [(["q.yaml"], .file (Utf8.bytes unknownText)), (["a.html"], .file [])] }

theorem readText_unknown : unknown.files.readText "p.yaml" = .ok unknownText := by cbv

theorem loadConfig_unknown :
    unknown.loadConfig "p.yaml" none = .ok ((Config.single "p" "nope").withBase ".") := by
  have hread : Config.read unknownText = .ok (.single "p" "nope") :=
    Config.eq_of_isSingle (by decide +kernel)
  have hfolder : folderOf "p.yaml" = "." := by decide +kernel
  refine loadConfig_eq_ok_iff.2 ⟨_, _, readText_unknown, hread, ?_⟩
  rw [hfolder]
  rfl

/-- A configuration that is valid, one that is not, and the same one in another session. -/
theorem commands_agree_unknown :
    let v : ValidateCommand := { config := "p.yaml" }
    let b : BuildCommand := { config := "p.yaml", baseDir := some "site" }
    let t : ScanCommand := { config := "p.yaml" }
    let fault := "Stage 0: unknown stage kind 'nope'"
    b.config = v.config ∧ t.config = v.config ∧
    ((v.run unreadable).exit = 0 ∧ b.GoesOn unreadable ∧ t.GoesOn unreadable) ∧
    (∃ tried ∈ attempts,
      (∃ printed, v.run unknown = ValidateCommand.reject unknown printed [fault]) ∧
      (∃ printed, b.run unknown = unknown.refuse printed [tried, fault]) ∧
      ∃ printed, t.run unknown = unknown.refuse printed [tried, fault]) ∧
    ∃ c, renamed.loadConfig "q.yaml" (some "site") = .ok c ∧
      Session.compose c = .error ["Failed to compose pipeline", fault] := by
  intro v b t fault
  obtain ⟨hbuild, hscan, -⟩ := commands_agree unreadable (v := v) (b := b) (t := t) rfl rfl
  have hvalid : t.GoesOn unreadable := by
    refine (t.goesOn_iff _).2 ⟨.minifying, ?_⟩
    rw [prepare, loadConfig_unreadable]
    rfl
  have hexit := hscan.2 hvalid
  refine ⟨rfl, rfl, ⟨hexit, hbuild.1 hexit, hvalid⟩, ?_⟩
  have hcompose : Session.compose ((Config.single "p" "nope").withBase ".") =
      .error ["Failed to compose pipeline", fault] := rfl
  have hprepare : unknown.prepare "p.yaml" none =
      .error ["Failed to compose pipeline", fault] := by
    rw [prepare, loadConfig_unknown]
    exact hcompose
  obtain ⟨-, hscan, hstop, hsame⟩ := commands_agree unknown (v := v) (b := b) (t := t) rfl rfl
  have hstops : ¬t.GoesOn unknown := fun hgoes => by
    obtain ⟨p, hp⟩ := (t.goesOn_iff _).1 hgoes
    cases hprepare.symm.trans hp
  constructor
  · obtain ⟨chain, hcheck, hrun, tried, htried, hothers⟩ :=
      hstop fun hexit => hstops (hscan.1 hexit)
    obtain ⟨_, -, hchain⟩ := ValidateCommand.exists_prepare_of_check_error hcheck
    cases hprepare.symm.trans (hchain none)
    exact ⟨tried, htried, hrun, hothers⟩
  · have htext : renamed.files.readText "q.yaml" = unknown.files.readText "p.yaml" := by
      rw [readText_unknown]
      cbv
    obtain ⟨c, hload, hc⟩ := hsame renamed "q.yaml" none (some "site") _ htext loadConfig_unknown
    refine ⟨c, hload, ?_⟩
    rw [hc, hcompose]
    rfl

end Session

end StyleBuild
