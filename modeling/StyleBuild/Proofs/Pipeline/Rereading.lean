import StyleBuild.Pipeline.Config.Printer
import StyleBuild.Pipeline.Config.Reading
import StyleBuild.Proofs.Yaml.Reading

/-!
# Reading configurations again

A configuration that was read from a document, written as JSON and read from there is the same
configuration (`Config.rereads`), if its options are plain data. The options of a stage are the
entries of its mapping other than the kind and the name, in the order in which they are written
(`Yaml.Spot.Declares`).
-/

namespace StyleBuild

/-! ## Entries -/

namespace Ordered

variable {α : Type} {es : List (String × α)} {e : String × α}

theorem put_eq_append {key : String} {value : α} (h : key ∉ es.map Prod.fst) :
    put key value es = es ++ [(key, value)] := by
  induction es with
  | nil => rfl
  | cons e es ih =>
    rw [List.map_cons, List.mem_cons, not_or] at h
    rw [put, if_neg (Ne.symm h.1), ih h.2, List.cons_append]

theorem mem_of_mem_put {key : String} {value : α} (h : e ∈ put key value es) :
    e = (key, value) ∨ e ∈ es := by
  induction es with
  | nil => exact .inl (List.mem_singleton.1 h)
  | cons first es ih =>
    rw [put] at h
    split at h
    · rcases List.mem_cons.1 h with h | h
      · exact .inl h
      · exact .inr (List.mem_cons_of_mem _ h)
    · rcases List.mem_cons.1 h with h | h
      · exact .inr (h ▸ List.mem_cons_self ..)
      · exact (ih h).imp id (List.mem_cons_of_mem _)

/-- Entries whose names differ are the entries of the map that they make. -/
theorem entries_ofList_of_nodup (h : (es.map Prod.fst).Nodup) : (ofList es).entries = es := by
  induction es using List.reverseRecOn with
  | nil => rfl
  | append_singleton es e ih =>
    rw [List.map_append, List.map_singleton, List.nodup_append] at h
    have hentries := ih h.1
    have hnew : e.1 ∉ es.map Prod.fst := fun hmem =>
      h.2.2 e.1 hmem e.1 (List.mem_singleton_self _) rfl
    rw [ofList_append_singleton]
    change put e.1 e.2 (ofList es).entries = _
    rw [hentries]
    exact put_eq_append hnew

theorem ofList_entries (m : Ordered α) : ofList m.entries = m := by
  have hentries := entries_ofList_of_nodup m.nodup
  obtain ⟨es, h⟩ := m
  cases hm : ofList es
  simp_all

theorem mem_of_mem_ofList (h : e ∈ (ofList es).entries) : e ∈ es := by
  induction es using List.reverseRecOn with
  | nil => exact h
  | append_singleton es last ih =>
    rw [ofList_append_singleton] at h
    rcases mem_of_mem_put h with rfl | h
    · exact List.mem_append_right _ (List.mem_singleton_self _)
    · exact List.mem_append_left _ (ih h)

end Ordered

namespace Yaml

/-! ## Fields -/

section Fields

variable {α : Type} {a : α} {c : Prop} [Decidable c] {m : Mismatch} {f : Unit → Read α}
  {s : Spot} {name : String}

theorem Gives.guard (hc : ¬c) (h : Gives (f ()) a) :
    Gives (if c then mismatch m >>= f else f ()) a := by
  rw [if_neg hc]
  exact h

theorem Reads.of_guard (h : Reads (if c then mismatch m >>= f else f ()) a) :
    ¬c ∧ Reads (f ()) a := by
  split at h
  · obtain ⟨_, hm, -⟩ := h.of_bind
    exact absurd hm not_reads_mismatch
  · next hc => exact ⟨hc, h⟩

theorem Reads.of_textWith {expected : String} {read : String → Read α}
    (h : Reads (s.textWith expected read) a) : ∃ t, Reads s.text t ∧ Reads (read t) a := by
  obtain ⟨n, m, h⟩ := h
  obtain ⟨t, k, ht, hread⟩ := Spot.exists_text h
  exact ⟨t, ⟨n, k, ht⟩, k, m, hread⟩

theorem Reads.of_map {expected : String} {read : List (Spot × Spot) → Read α}
    (h : Reads (s.map expected read) a) : ∃ ps, Reads s.held ps ∧ Reads (read ps) a := by
  obtain ⟨n, m, h⟩ := h
  obtain ⟨ps, k, hps, hread⟩ := Spot.exists_held h
  exact ⟨ps, ⟨n, k, hps⟩, k, m, hread⟩

end Fields

/-! ## Themes -/

namespace Spot.Shows

variable {α : Type} {s : Spot} {depth : Nat}

theorem texts {names : List String} (h : s.Shows (.array (names.map .text)) (depth + 1)) :
    Gives s.texts names := by
  refine h.list fun ts hts => Gives.mapM ?_
  exact (List.forall₂_map_right_iff.1 hts).imp fun _ _ ht => ht.text

theorem ordered {m : Ordered α} {toJson : α → Json} {read : Spot → Read α}
    (h : s.Shows (.object (m.entries.map fun e => (e.1, toJson e.2))) (depth + 1))
    (hread : ∀ t x, t.Shows (toJson x) depth → Gives (read t) x) : Gives (s.ordered read) m := by
  refine h.map fun ps hps => ?_
  have hm : Gives (pure (Ordered.ofList m.entries)) m := by
    rw [Ordered.ofList_entries]
    exact gives_pure m
  refine Gives.bind (Gives.mapM ((List.forall₂_map_right_iff.1 hps).imp fun p e he => ?_)) hm
  exact he.1.text.bind ((hread p.2 e.2 he.2).bind (gives_pure _))

end Spot.Shows

section ThemeFields

variable {d : ThemeDraft} {k v : Spot} {ps : List (Spot × Spot)} {t : Theme} {depth : Nat}

theorem gives_fonts {fonts : Ordered (List String)} (hk : k.Shows (.text "fontFamily") depth)
    (hv : Gives (v.ordered Spot.texts) fonts) (hd : d.fonts = none)
    (h : Gives (readThemeFields { d with fonts := some fonts } ps) t) :
    Gives (readThemeFields d ((k, v) :: ps)) t := by
  rw [readThemeFields]
  refine (hk.textWith (a := "fontFamily") ?_).bind ?_
  · exact gives_pure _
  rw [if_pos rfl]
  exact Gives.guard (by simp [hd]) (hv.bind h)

theorem gives_markers {markers : Ordered String} (hk : k.Shows (.text "listStyleType") depth)
    (hv : Gives (v.ordered Spot.text) markers) (hd : d.markers = none)
    (h : Gives (readThemeFields { d with markers := some markers } ps) t) :
    Gives (readThemeFields d ((k, v) :: ps)) t := by
  rw [readThemeFields]
  refine (hk.textWith (a := "listStyleType") ?_).bind ?_
  · exact gives_pure _
  rw [if_neg (by decide)]
  exact Gives.guard (by simp [hd]) (hv.bind h)

/-- A theme is read back from its JSON. -/
theorem gives_theme {s : Spot} (h : s.Shows t.toJson (depth + 3)) : Gives s.theme t := by
  refine h.map fun ps hps => ?_
  obtain _ | ⟨⟨hkey, hfonts⟩, hps⟩ := hps
  obtain _ | ⟨⟨hkey', hmarkers⟩, hps⟩ := hps
  cases hps
  have hf : Gives _ t.fonts := hfonts.ordered fun u x hu => hu.texts
  have hm : Gives _ t.markers := hmarkers.ordered fun u x hu => hu.text
  exact gives_fonts hkey hf rfl (gives_markers hkey' hm rfl (gives_pure t))

end ThemeFields

/-! ## Stages -/

/-- Fail if a map in the values of some options has a key twice. -/
def checkAll (es : List (String × Value)) : Read Unit := do
  for (_, v) in es do
    match checkKeys v with
    | .ok _ => pure ()
    | .error m => mismatch m

theorem gives_checkAll {es : List (String × Value)} (h : ∀ e ∈ es, checkKeys e.2 = .ok ()) :
    Gives (checkAll es) () := by
  induction es with
  | nil => exact gives_pure ()
  | cons e es ih =>
    rw [List.forall_mem_cons] at h
    rw [checkAll, List.forIn_cons]
    simp only [h.1, pure_bind]
    exact ih h.2

theorem checked_of_reads {es : List (String × Value)} {u : Unit} (h : Reads (checkAll es) u) :
    ∀ e ∈ es, checkKeys e.2 = .ok () := by
  induction es with
  | nil => exact nofun
  | cons e es ih =>
    rw [checkAll, List.forIn_cons] at h
    rw [List.forall_mem_cons]
    cases he : checkKeys e.2 with
    | ok _ =>
      simp only [he, pure_bind] at h
      exact ⟨rfl, ih h⟩
    | error m =>
      simp only [he, bind_assoc] at h
      obtain ⟨_, hm, -⟩ := h.of_bind
      exact absurd hm not_reads_mismatch

/-- The stage of a draft with a kind. -/
theorem StageDraft.stage_eq {d : StageDraft} {kind : String} (h : d.kind = some kind) :
    d.stage = do
      checkAll d.options.reverse
      return ⟨kind, d.name.getD none, .ofList d.options.reverse⟩ := by
  rw [StageDraft.stage, h, checkAll]
  dsimp only
  rw [pure_bind]
  refine .trans ?_ (bind_assoc (m := Read) _ _ _).symm
  rfl

theorem StageDraft.kind_of_reads {d : StageDraft} {spec : StageSpec} (h : Reads d.stage spec) :
    ∃ kind, d.kind = some kind := by
  cases hkind : d.kind with
  | some kind => exact ⟨kind, rfl⟩
  | none =>
    simp only [StageDraft.stage, hkind] at h
    obtain ⟨_, hm, -⟩ := h.of_bind
    exact absurd hm not_reads_mismatch

section StageFields

variable {d : StageDraft} {k v : Spot} {ps : List (Spot × Spot)} {spec : StageSpec} {depth : Nat}

theorem gives_kind {kind : String} (hk : k.Shows (.text "kind") depth) (hv : Gives v.text kind)
    (hd : d.kind = none) (h : Gives (readStageFields { d with kind := some kind } ps) spec) :
    Gives (readStageFields d ((k, v) :: ps)) spec := by
  rw [readStageFields]
  refine (hk.textWith (gives_pure _)).bind ?_
  rw [if_pos rfl]
  exact Gives.guard (by simp [hd]) (hv.bind h)

theorem gives_name {name : Option String} (hk : k.Shows (.text "name") depth)
    (hv : Gives (v.optional Spot.text) name) (hd : d.name = none)
    (h : Gives (readStageFields { d with name := some name } ps) spec) :
    Gives (readStageFields d ((k, v) :: ps)) spec := by
  rw [readStageFields]
  refine (hk.textWith (gives_pure _)).bind ?_
  rw [if_neg (by decide), if_pos rfl]
  exact Gives.guard (by simp [hd]) (hv.bind h)

/-- Whether a field of a stage is an option. -/
def IsOption (name : String) : Prop := name ≠ "kind" ∧ name ≠ "name"

instance : DecidablePred IsOption := fun _ => inferInstanceAs (Decidable (_ ∧ _))

theorem gives_option {name : String} {value : Value} (hk : k.Shows (.text name) depth)
    (hname : IsOption name) (hv : Gives v.value value)
    (h : Gives (readStageFields { d with options := (name, value) :: d.options } ps) spec) :
    Gives (readStageFields d ((k, v) :: ps)) spec := by
  rw [readStageFields]
  refine (hk.textWith (gives_pure _)).bind ?_
  rw [if_neg hname.1, if_neg hname.2]
  exact hv.bind h

theorem gives_options {es : List (String × Value)} {js : List (String × Json)}
    (hps : Spot.ShowEntries ps js depth) (hnames : ∀ e ∈ es, IsOption e.1)
    (hjs : List.Forall₂ (fun e j => j.1 = e.1 ∧ e.2.Shown j.2 depth) es js)
    (h : Gives { d with options := es.reverse ++ d.options }.stage spec) :
    Gives (readStageFields d ps) spec := by
  induction hjs generalizing d ps with
  | nil =>
    cases hps
    exact h
  | @cons e j es js he _ ih =>
    obtain ⟨hname, hshown⟩ := he
    obtain _ | ⟨⟨hkey, hvalue⟩, hps⟩ := hps
    rw [List.forall_mem_cons] at hnames
    refine gives_option (hname ▸ hkey) hnames.1 (hshown.2 _ hvalue) (ih hps hnames.2 ?_)
    rwa [List.reverse_cons, List.append_assoc] at h

/-- Fields with their names read. -/
def Named (ps : List (Spot × Spot)) (fields : List (String × Spot)) : Prop :=
  List.Forall₂ (fun p f => Reads p.1.text f.1 ∧ p.2 = f.2) ps fields

/-- Options are the data in some fields, those of the kind and the name excepted. -/
def OptionsOf (fields : List (String × Spot)) (es : List (String × Value)) : Prop :=
  List.Forall₂ (fun f e => e.1 = f.1 ∧ Reads f.2.value e.2)
    (fields.filter fun f => IsOption f.1) es

theorem OptionsOf.skip {fields : List (String × Spot)} {es : List (String × Value)}
    {f : String × Spot} (h : OptionsOf fields es) (hf : ¬IsOption f.1) :
    OptionsOf (f :: fields) es := by
  rw [OptionsOf, List.filter_cons_of_neg (by simpa using hf)]
  exact h

theorem OptionsOf.cons {fields : List (String × Spot)} {es : List (String × Value)}
    {f : String × Spot} {e : String × Value} (h : OptionsOf fields es) (hf : IsOption f.1)
    (hname : e.1 = f.1) (hvalue : Reads f.2.value e.2) : OptionsOf (f :: fields) (e :: es) := by
  rw [OptionsOf, List.filter_cons_of_pos (by simpa using hf)]
  exact .cons ⟨hname, hvalue⟩ h

/-- What the fields of a stage say of its options, behind those of a draft. -/
theorem exists_of_readStageFields (h : Reads (readStageFields d ps) spec) :
    ∃ fields es, Named ps fields ∧ OptionsOf fields es ∧
      spec.options = .ofList (d.options.reverse ++ es) ∧
      ∀ e ∈ d.options.reverse ++ es, checkKeys e.2 = .ok () := by
  induction ps generalizing d with
  | nil =>
    rw [readStageFields] at h
    obtain ⟨kind, hkind⟩ := StageDraft.kind_of_reads h
    rw [StageDraft.stage_eq hkind] at h
    obtain ⟨_, hchecked, h⟩ := h.of_bind
    refine ⟨[], [], .nil, .nil, ?_, ?_⟩
    · rw [h.of_pure, List.append_nil]
    · rw [List.append_nil]
      exact checked_of_reads hchecked
  | cons p ps ih =>
    rw [readStageFields] at h
    obtain ⟨key, hkey, h⟩ := h.of_bind
    obtain ⟨name, hname, hpure⟩ := hkey.of_textWith
    cases hpure.of_pure
    split at h
    · next hkind =>
      obtain ⟨-, h⟩ := h.of_guard
      obtain ⟨_, -, h⟩ := h.of_bind
      obtain ⟨fields, es, hfields, hes, hspec, hchecked⟩ := ih h
      exact ⟨(key, p.2) :: fields, es, .cons ⟨hname, rfl⟩ hfields, hes.skip fun h => h.1 hkind,
        hspec, hchecked⟩
    · next hkind =>
      split at h
      · next hlabel =>
        obtain ⟨-, h⟩ := h.of_guard
        obtain ⟨_, -, h⟩ := h.of_bind
        obtain ⟨fields, es, hfields, hes, hspec, hchecked⟩ := ih h
        exact ⟨(key, p.2) :: fields, es, .cons ⟨hname, rfl⟩ hfields, hes.skip fun h => h.2 hlabel,
          hspec, hchecked⟩
      · next hlabel =>
        obtain ⟨value, hvalue, h⟩ := h.of_bind
        obtain ⟨fields, es, hfields, hes, hspec, hchecked⟩ := ih h
        rw [List.reverse_cons, List.append_assoc] at hspec hchecked
        exact ⟨(key, p.2) :: fields, (key, value) :: es, .cons ⟨hname, rfl⟩ hfields,
          hes.cons ⟨hkind, hlabel⟩ rfl hvalue, hspec, hchecked⟩

end StageFields

/-- The options of a stage are the data in the entries of the mapping at a spot, the kind and the
name excepted, in the order in which they are written. -/
def Spot.Declares (s : Spot) (spec : StageSpec) : Prop :=
  ∃ ps fields es, Reads s.held ps ∧ Named ps fields ∧ OptionsOf fields es ∧
    spec.options = .ofList es ∧ ((es.map Prod.fst).Nodup → spec.options.entries = es)

/-- The options of a stage that was read: none of them is called like a field, and their values are
no deeper than the document allows and repeat no key. -/
structure IsSound (spec : StageSpec) (depth : Nat) : Prop where
  isOption : ∀ e ∈ spec.options.entries, IsOption e.1
  fits : ∀ e ∈ spec.options.entries, e.2.Fits depth
  checked : ∀ e ∈ spec.options.entries, checkKeys e.2 = .ok ()

/-- The items that a spot holds. -/
def Spot.listed (s : Spot) : Read (List Spot) := s.list pure

theorem not_reads_wrongType {α : Type} {node : Node} {expected : String} {a : α} :
    ¬Reads (wrongType node expected) a := fun ⟨_, _, h⟩ => wrongType_ne_ok node expected h

/-- What is read as a list is the items that the spot holds, each a level below it. -/
theorem Reads.of_list {α : Type} {s : Spot} {read : List Spot → Read α} {a : α}
    (h : Reads (s.list read) a) :
    ∃ ts, Reads s.listed ts ∧ (∀ t ∈ ts, t.depth + 1 = s.depth) ∧ Reads (read ts) a := by
  obtain ⟨n, m, h⟩ := h
  obtain ⟨t, k, ht, h⟩ := exists_of_bind_eq_read h
  have hdepth := Spot.depth_of_target ⟨n, k, ht⟩
  rw [Spot.locate_eq_ok] at h
  have hlisted : s.listed n = _ := bind_eq_read ht
  cases hnode : t.node with
  | sequence l ns =>
    simp only [hnode] at h hlisted
    obtain ⟨depth, k', hbelow, h⟩ := exists_of_bind_eq_read h
    have hlevel := Spot.depth_of_below ⟨k, k', hbelow⟩
    refine ⟨t.items depth ns, ⟨n, k', hlisted.trans ?_⟩, ?_, k', m, h⟩
    · rw [Spot.locate_eq_ok]
      exact bind_eq_read hbelow
    · intro u hu
      rw [Spot.depth_of_mem_items hu, ← hdepth, hlevel]
  | _ =>
    simp only [hnode] at h hlisted
    obtain ⟨hvoid, h⟩ := of_void_eq_ok h
    refine ⟨[], ⟨n, k, hlisted.trans ?_⟩, nofun, k, m, h⟩
    rw [Spot.locate_eq_ok, if_pos hvoid]
    rfl

theorem depth_of_held {s : Spot} {ps : List (Spot × Spot)} (h : Reads s.held ps) :
    ∀ p ∈ ps, p.2.depth + 1 = s.depth := by
  obtain ⟨t, ht, h⟩ := h.of_bind
  have hdepth := Spot.depth_of_target ht
  have h := h.of_locate
  split at h
  · obtain ⟨depth, hbelow, h⟩ := h.of_bind
    rw [h.of_pure]
    intro p hp
    rw [(Spot.depth_of_mem_entries hp).2, ← hdepth, Spot.depth_of_below hbelow]
  · split at h
    · rw [h.of_pure]
      exact nofun
    · exact absurd h not_reads_wrongType

section Stages

variable {s : Spot} {spec : StageSpec} {depth : Nat}

/-- A stage that is read at a spot is sound, and its options are those declared there. -/
theorem sound_of_stage (h : Reads s.stage spec) (hdepth : s.depth = depth + 1) :
    IsSound spec depth ∧ s.Declares spec := by
  obtain ⟨ps, hps, h⟩ := h.of_map
  obtain ⟨fields, es, hnamed, hes, hspec, hchecked⟩ := exists_of_readStageFields h
  have hlevel : ∀ p ∈ ps, p.2.depth = depth := fun p hp => by
    have := depth_of_held hps p hp
    omega
  have hfield : ∀ f ∈ fields, f.2.depth = depth :=
    forall_mem_of_forall₂ hnamed fun p hp f hf => hf.2 ▸ hlevel p hp
  have hoptions : ∀ e ∈ es, IsOption e.1 ∧ e.2.Fits depth := by
    refine forall_mem_of_forall₂ hes fun f hf e he => ?_
    obtain ⟨hmem, hoption⟩ := List.mem_filter.1 hf
    refine ⟨he.1 ▸ of_decide_eq_true hoption, ?_⟩
    exact hfield f hmem ▸ Value.fits_of_value he.2
  have hentries : ∀ e ∈ spec.options.entries, e ∈ es := fun e he =>
    Ordered.mem_of_mem_ofList (hspec ▸ he)
  refine ⟨⟨fun e he => (hoptions e (hentries e he)).1, fun e he => (hoptions e (hentries e he)).2,
    fun e he => hchecked e (hentries e he)⟩, ps, fields, es, hps, hnamed, hes, hspec,
    fun hnodup => ?_⟩
  rw [hspec]
  exact Ordered.entries_ofList_of_nodup hnodup

/-- A sound stage whose options are plain data is read back from its JSON. -/
theorem exists_gives_stage (hspec : IsSound spec depth)
    (hplain : ∀ e ∈ spec.options.entries, e.2.Plain) :
    ∃ j, spec.toJson = .ok j ∧ ∀ s : Spot, s.Shows j (depth + 1) → Gives s.stage spec := by
  have hexists : ∀ e ∈ spec.options.entries,
      ∃ j : String × Json, j.1 = e.1 ∧ e.2.Shown j.2 depth := by
    intro e he
    obtain ⟨j, hj⟩ := (hplain e he).exists_shown (hspec.fits e he)
    exact ⟨(e.1, j), rfl, hj⟩
  obtain ⟨js, hjs⟩ := exists_forall₂ hexists
  have hjson : (spec.options.entries.mapM fun (k, v) => do return (k, ← v.toJson)) = .ok js := by
    refine mapM_eq_ok_iff.2 (hjs.imp fun e j hj => (bind_eq_ok hj.2.1).trans ?_)
    rw [← hj.1]
    rfl
  refine ⟨_, (bind_eq_ok hjson).trans rfl, ?_⟩
  refine fun s hs => hs.map fun ps hps => ?_
  have hdraft : ∀ name : Option (Option String), name.getD none = spec.name →
      Gives (StageDraft.stage ⟨some spec.kind, name, spec.options.entries.reverse ++ []⟩) spec := by
    intro name hname
    rw [StageDraft.stage_eq rfl, List.append_nil, List.reverse_reverse, Ordered.ofList_entries,
      hname]
    exact (gives_checkAll hspec.checked).bind (gives_pure spec)
  obtain _ | ⟨⟨hkey, hkind⟩, hps⟩ := hps
  refine gives_kind hkey hkind.text rfl ?_
  cases hname : spec.name with
  | none =>
    rw [hname] at hps
    exact gives_options hps hspec.isOption hjs (hdraft none hname.symm)
  | some name =>
    rw [hname] at hps
    obtain _ | ⟨⟨hkey', hvalue⟩, hps⟩ := hps
    refine gives_name hkey' (hvalue.optional_text hvalue.text) rfl ?_
    exact gives_options hps hspec.isOption hjs (hdraft (some (some name)) hname.symm)

end Stages

/-! ## Configurations -/

section ConfigFields

variable {d : ConfigDraft} {k v : Spot} {ps : List (Spot × Spot)} {es : List (String × Json)}
  {c : Config} {depth : Nat}

theorem gives_label {name : String} (hk : k.Shows (.text "name") depth) (hv : Gives v.text name)
    (hd : d.name = none) (h : Gives (readConfigFields { d with name := some name } ps) c) :
    Gives (readConfigFields d ((k, v) :: ps)) c := by
  rw [readConfigFields]
  refine (hk.textWith (gives_pure _)).bind ?_
  exact Gives.guard (by simp [hd]) (hv.bind h)

theorem gives_stages {stages : List StageSpec} (hk : k.Shows (.text "stages") depth)
    (hv : Gives (v.list fun xs => xs.mapM Spot.stage) stages) (hd : d.stages = none)
    (h : Gives (readConfigFields { d with stages := some stages } ps) c) :
    Gives (readConfigFields d ((k, v) :: ps)) c := by
  rw [readConfigFields]
  refine (hk.textWith (gives_pure _)).bind ?_
  exact Gives.guard (by simp [hd]) (hv.bind h)

theorem gives_description {text : Option String}
    (hps : Spot.ShowEntries ps (optionalField "description" .text text ++ es) depth)
    (hd : d.description = none)
    (h : ∀ qs, Spot.ShowEntries qs es depth →
      Gives (readConfigFields { d with description := text.map some } qs) c) :
    Gives (readConfigFields d ps) c := by
  cases text with
  | none =>
    have hnone := h ps hps
    rwa [Option.map_none, ← hd] at hnone
  | some text =>
    obtain _ | ⟨⟨hk, hv⟩, hps⟩ := hps
    rw [readConfigFields]
    refine (hk.textWith (gives_pure _)).bind ?_
    exact Gives.guard (by simp [hd]) ((hv.optional_text hv.text).bind (h _ hps))

theorem gives_optionalTheme {theme : Option Theme}
    (hps : Spot.ShowEntries ps (optionalField "theme" Theme.toJson theme ++ es) (depth + 3))
    (hd : d.theme = none)
    (h : ∀ qs, Spot.ShowEntries qs es (depth + 3) →
      Gives (readConfigFields { d with theme := theme.map some } qs) c) :
    Gives (readConfigFields d ps) c := by
  cases theme with
  | none =>
    have hnone := h ps hps
    rwa [Option.map_none, ← hd] at hnone
  | some theme =>
    obtain _ | ⟨⟨hk, hv⟩, hps⟩ := hps
    rw [readConfigFields]
    refine (hk.textWith (gives_pure _)).bind ?_
    exact Gives.guard (by simp [hd]) ((hv.optional_object (gives_theme hv)).bind (h _ hps))

/-- A configuration of sound stages whose options are plain data is read back from its JSON. -/
theorem exists_gives_config (hstages : ∀ spec ∈ c.stages, IsSound spec (depth + 1))
    (hplain : ∀ spec ∈ c.stages, ∀ e ∈ spec.options.entries, e.2.Plain) (hbase : c.baseDir = none) :
    ∃ j, c.toJson = .ok j ∧ ∀ s : Spot, s.Shows j (depth + 4) → Gives s.config c := by
  obtain ⟨js, hjs⟩ := exists_forall₂ fun spec hspec =>
    exists_gives_stage (hstages spec hspec) (hplain spec hspec)
  have hjson : c.stages.mapM StageSpec.toJson = .ok js :=
    mapM_eq_ok_iff.2 (hjs.imp fun _ _ h => h.1)
  refine ⟨_, (bind_eq_ok hjson).trans rfl, fun s hs => hs.map fun ps hps => ?_⟩
  rw [List.cons_append, List.cons_append, List.append_assoc] at hps
  obtain _ | ⟨⟨hkey, hname⟩, hps⟩ := hps
  refine gives_label hkey hname.text rfl ?_
  refine gives_description hps rfl fun ps hps => ?_
  refine gives_optionalTheme hps rfl fun ps hps => ?_
  obtain _ | ⟨⟨hkey', hlist⟩, hps⟩ := hps
  cases hps
  have hread : Gives _ c.stages := hlist.list fun ts hts => Gives.mapM <|
    forall₂_of_common hts hjs fun t spec j ht hspec => hspec.2 t ht
  refine gives_stages hkey' hread rfl ?_
  obtain ⟨name, description, theme, stages, baseDir⟩ := c
  cases hbase
  cases description <;> cases theme <;> exact gives_pure _

/-- What the fields of a configuration say of its stages, behind those of a draft. -/
theorem exists_of_readConfigFields (h : Reads (readConfigFields d ps) c) :
    c.baseDir = none ∧ ∃ fields, Named ps fields ∧ (d.stages = some c.stages ∨
      ∃ v, ("stages", v) ∈ fields ∧ Reads (v.list fun xs => xs.mapM Spot.stage) c.stages) := by
  induction ps generalizing d with
  | nil =>
    rw [readConfigFields, ConfigDraft.config] at h
    split at h
    · exact absurd h not_reads_mismatch
    · exact absurd h not_reads_mismatch
    · next hstages =>
      rw [h.of_pure]
      exact ⟨rfl, [], .nil, .inl hstages⟩
  | cons p ps ih =>
    -- a field that is read before the others keeps its name and is found behind it
    have hstep : ∀ {d' : ConfigDraft} {key : String}, Reads p.1.text key →
        Reads (readConfigFields d' ps) c →
        (d'.stages = some c.stages → d.stages = some c.stages ∨ key = "stages" ∧
          Reads (p.2.list fun xs => xs.mapM Spot.stage) c.stages) →
        c.baseDir = none ∧ ∃ fields, Named (p :: ps) fields ∧ (d.stages = some c.stages ∨
          ∃ v, ("stages", v) ∈ fields ∧ Reads (v.list fun xs => xs.mapM Spot.stage) c.stages) := by
      intro d' key hkey hrest hown
      obtain ⟨hbase, fields, hnamed, hstages⟩ := ih hrest
      refine ⟨hbase, (key, p.2) :: fields, .cons ⟨hkey, rfl⟩ hnamed, ?_⟩
      rcases hstages with hdraft | ⟨v, hv, hread⟩
      · rcases hown hdraft with hdraft | ⟨rfl, hread⟩
        · exact .inl hdraft
        · exact .inr ⟨p.2, List.mem_cons_self .., hread⟩
      · exact .inr ⟨v, List.mem_cons_of_mem _ hv, hread⟩
    rw [readConfigFields] at h
    obtain ⟨key, hkey, h⟩ := h.of_bind
    obtain ⟨name, hname, hpure⟩ := hkey.of_textWith
    cases hpure.of_pure
    split at h
    · obtain ⟨_, -, h⟩ := h.of_guard.2.of_bind
      exact hstep hname h .inl
    · obtain ⟨_, -, h⟩ := h.of_guard.2.of_bind
      exact hstep hname h .inl
    · obtain ⟨_, -, h⟩ := h.of_guard.2.of_bind
      exact hstep hname h .inl
    · obtain ⟨stages, hlist, h⟩ := h.of_guard.2.of_bind
      refine hstep hname h fun heq => .inr ⟨rfl, ?_⟩
      rwa [← Option.some.inj heq]
    · exact hstep hname h .inl

end ConfigFields

end Yaml

namespace Config

open Yaml

theorem ofDocument_eq_ok {d : Document} {c : Config} :
    ofDocument d = .ok c ↔ (∃ m, (Spot.root d).config 0 = .ok (c, m)) ∧ c.validate = .ok () := by
  constructor
  · intro h
    obtain ⟨c', hread, h⟩ := exists_of_bind_eq_ok h
    obtain ⟨_, hvalid, h⟩ := exists_of_bind_eq_ok h
    cases h
    refine ⟨?_, eq_ok_of_mapError hvalid⟩
    have hread := eq_ok_of_mapError hread
    unfold Document.readWith at hread
    split at hread
    · next m hconfig =>
      cases hread
      exact ⟨m, hconfig⟩
    · cases hread
  · rintro ⟨⟨m, hconfig⟩, hvalid⟩
    have hread : d.readWith Spot.config = .ok c := by
      rw [Document.readWith, show (Spot.root d).config.run 0 = _ from hconfig]
    rw [ofDocument, hread]
    exact bind_eq_ok (congrArg (Except.mapError ConfigError.invalid) hvalid)

theorem exists_document {text : String} {c : Config} (h : Config.read text = .ok c) :
    ∃ d, Document.read text = some d ∧ ofDocument d = .ok c := by
  unfold Config.read at h
  split at h
  · cases h
  · next d hd => exact ⟨d, hd, h⟩

/-- **Configurations survive their JSON.** If the options of a configuration that was read are plain
data, then it is JSON, whatever the base directory, and reading that JSON gives the same
configuration. The options of its stages are those declared by the items of the field `stages`. -/
theorem rereads {text : String} {c : Config} (h : Config.read text = .ok c) :
    ((∀ spec ∈ c.stages, ∀ e ∈ spec.options.entries, e.2.Plain) →
      ∃ j, c.toJson = .ok j ∧ (∀ dir, (c.withBase dir).toJson = .ok j) ∧
        Config.ofDocument j.document = .ok c) ∧
    ∃ d ps fields v items, Document.read text = some d ∧ Reads (Spot.root d).held ps ∧
      Named ps fields ∧ ("stages", v) ∈ fields ∧ Reads v.listed items ∧
      List.Forall₂ Spot.Declares items c.stages := by
  obtain ⟨d, hd, hc⟩ := exists_document h
  obtain ⟨⟨m, hread⟩, hvalid⟩ := ofDocument_eq_ok.1 hc
  obtain ⟨ps, hps, hfields⟩ := Reads.of_map ⟨0, m, hread⟩
  obtain ⟨hbase, fields, hnamed, hdraft | ⟨v, hv, hstages⟩⟩ := exists_of_readConfigFields hfields
  · cases hdraft
  obtain ⟨items, hitems, hbelow, hstages⟩ := hstages.of_list
  have hdepth : v.depth + 1 = 128 := by
    have hfield : ∀ f ∈ fields, f.2.depth + 1 = 128 :=
      forall_mem_of_forall₂ hnamed fun p hp f hf => hf.2 ▸ depth_of_held hps p hp
    exact hfield _ hv
  have hsound : List.Forall₂ (fun s spec => IsSound spec 125 ∧ s.Declares spec) items c.stages :=
    ((List.forall₂_and_left _ _).2 ⟨hbelow, hstages.of_mapM⟩).imp fun t spec ⟨ht, hspec⟩ =>
      sound_of_stage hspec (by omega)
  refine ⟨fun hplain => ?_, d, ps, fields, v, items, hd, hps, hnamed, hv, hitems,
    hsound.imp fun _ _ h => h.2⟩
  have hall : ∀ spec ∈ c.stages, IsSound spec 125 :=
    forall_mem_of_forall₂ hsound fun _ _ _ h => h.1
  obtain ⟨j, hj, hgives⟩ := exists_gives_config hall hplain hbase
  refine ⟨j, hj, fun _ => hj, ofDocument_eq_ok.2 ⟨⟨0, ?_⟩, hvalid⟩⟩
  exact hgives (Spot.root j.document) ⟨rfl, rfl⟩ 0

/-- A configuration with one stage that has options. -/
def tagged (name kind : String) (size : Int) (tag : String) : Config where
  name := name
  stages := [⟨kind, none, ⟨[("size", .number (.integer size)), ("tags", .list [.text tag, .null])],
    by simp⟩⟩]

/-- Whether such a configuration was read. -/
def isTagged (name kind : String) (size : Int) (tag : String) : Except ConfigError Config → Bool
  | .ok ⟨n, none, none, [⟨k, none,
      ⟨[("size", .number (.integer i)), ("tags", .list [.text t, .null])], _⟩⟩], none⟩ =>
    n = name ∧ k = kind ∧ i = size ∧ t = tag
  | _ => false

theorem eq_of_isTagged {name kind : String} {size : Int} {tag : String}
    {r : Except ConfigError Config} (h : isTagged name kind size tag r = true) :
    r = .ok (tagged name kind size tag) := by
  unfold isTagged at h
  split at h
  · obtain ⟨rfl, rfl, rfl, rfl⟩ := of_decide_eq_true h
    rfl
  · cases h

theorem plain_of_mem_tagged {name kind : String} {size : Int} {tag : String} :
    ∀ spec ∈ (tagged name kind size tag).stages, ∀ e ∈ spec.options.entries, e.2.Plain := by
  intro spec hspec e he
  rw [List.mem_singleton.1 hspec] at he
  rcases List.mem_pair.1 he with rfl | rfl
  · exact .integer size
  · refine .list fun v hv => ?_
    rcases List.mem_pair.1 hv with rfl | rfl
    · exact .text tag
    · exact .null

theorem rereads_tagged :
    Config.read "name: p\nstages:\n- size: 1\n  kind: k\n  tags: [t, ~]\n" =
        .ok (tagged "p" "k" 1 "t") ∧
      ∃ j, (tagged "p" "k" 1 "t").toJson = .ok j ∧
        Config.ofDocument j.document = .ok (tagged "p" "k" 1 "t") := by
  have hread : Config.read "name: p\nstages:\n- size: 1\n  kind: k\n  tags: [t, ~]\n" =
      .ok (tagged "p" "k" 1 "t") := eq_of_isTagged (by decide +kernel)
  obtain ⟨j, hj, -, hagain⟩ := (rereads hread).1 plain_of_mem_tagged
  exact ⟨hread, j, hj, hagain⟩

end Config

end StyleBuild
