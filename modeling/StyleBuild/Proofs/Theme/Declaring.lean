import Mathlib.Data.List.Basic
import Mathlib.Data.List.Induction
import Mathlib.Data.List.Nodup
import StyleBuild.Data.Ordered
import StyleBuild.Proofs.Except
import StyleBuild.Stage.Generation
import StyleBuild.Theme.Reading

/-!
# Declaring themes

A theme comes from declarations, one after another. A category or token that is declared again
keeps its place and takes the new value (`Theme.utilities_ofDeclarations`), and no two utilities
have one name (`Theme.nodup_utilities`). A theme that is read from a document or from plain data
comes from the declarations there, in the order in which they are written
(`Yaml.Spot.exists_declarations`, `Value.exists_declarations`).

Generation emits the rules of the utilities of a theme that are on the safelist or in the scanned
content, in the order of the theme, and nothing else (`Generation.generated_ofDeclarations`).
-/

/-! ## Entries -/

namespace StyleBuild.Ordered

variable {α : Type}

/-- The names of some entries in the order in which they are first given, each with the value that
it is given last. -/
def settled (es : List (String × α)) : List (String × α) :=
  (es.map Prod.fst).eraseDups.filterMap fun key => (es.reverse.lookup key).map (key, ·)

theorem ofList_append_singleton (es : List (String × α)) (e : String × α) :
    ofList (es ++ [e]) = (ofList es).insert e.1 e.2 := by
  simp [ofList]

theorem keys_ofList (es : List (String × α)) : (ofList es).keys = (es.map Prod.fst).eraseDups := by
  induction es using List.reverseRecOn with
  | nil => rfl
  | append_singleton es e ih =>
    rw [ofList_append_singleton, keys_insert, ih, List.map_append, List.eraseDups_append]
    by_cases h : e.1 ∈ es.map Prod.fst
    · simp [List.removeAll, h]
    · simp [List.removeAll, h, List.eraseDups_cons]

theorem get?_ofList (es : List (String × α)) (key : String) :
    (ofList es).get? key = es.reverse.lookup key := by
  induction es using List.reverseRecOn with
  | nil => rfl
  | append_singleton es e ih =>
    rw [ofList_append_singleton, get?_insert, ih, List.reverse_append, List.reverse_singleton,
      List.singleton_append, lookup_cons]

/-- In entries whose names differ, the value of a name is that of its entry. -/
theorem lookup_of_mem {es : List (String × α)} (h : (es.map Prod.fst).Nodup) {e : String × α}
    (he : e ∈ es) : es.lookup e.1 = some e.2 := by
  induction es with
  | nil => cases he
  | cons first es ih =>
    obtain ⟨hfirst, hrest⟩ := List.nodup_cons.1 h
    rw [lookup_cons]
    rcases List.mem_cons.1 he with rfl | he
    · rw [if_pos rfl]
    · have hne : e.1 ≠ first.1 := fun heq => hfirst (heq ▸ List.mem_map_of_mem he)
      rw [if_neg hne, ih hrest he]

/-- A map is told by its names and their values. -/
theorem entries_eq (m : Ordered α) :
    m.entries = m.keys.filterMap fun key => (m.get? key).map (key, ·) := by
  have hself : ∀ e ∈ m.entries, (m.get? e.1).map (e.1, ·) = some e := fun e he => by
    rw [get?, lookup_of_mem m.nodup he]
    rfl
  rw [keys, List.filterMap_map]
  exact List.filterMap_some.symm.trans (List.filterMap_congr fun e he => (hself e he).symm)

/-- **The entries of the map that a list of entries makes.** -/
theorem entries_ofList (es : List (String × α)) : (ofList es).entries = settled es := by
  rw [entries_eq, keys_ofList, settled]
  simp only [get?_ofList]

/-- A name that is given again keeps its place and takes the new value. -/
example : settled [("a", 1), ("b", 2), ("a", 3)] = [("a", 3), ("b", 2)] := by decide

end StyleBuild.Ordered

namespace StyleBuild

/-! ## Declarations -/

namespace Theme

/-- A declaration: a stack of font families for a category, or a list marker for a token. -/
inductive Declaration where
  | fonts (category : String) (names : List String)
  | marker (token keyword : String)
  deriving DecidableEq, Repr, Inhabited

/-- The category and the families of a declaration of fonts. -/
def Declaration.fonts? : Declaration → Option (String × List String)
  | .fonts category names => some (category, names)
  | .marker _ _ => none

/-- The token and the keyword of a declaration of a list marker. -/
def Declaration.marker? : Declaration → Option (String × String)
  | .fonts _ _ => none
  | .marker token keyword => some (token, keyword)

/-- A theme with one more declaration. -/
def declare (t : Theme) : Declaration → Theme
  | .fonts category names => t.withFonts category names
  | .marker token keyword => t.withMarker token keyword

/-- The theme of declarations. -/
def ofDeclarations (ds : List Declaration) : Theme := ds.foldl declare empty

theorem ofDeclarations_append_singleton (ds : List Declaration) (d : Declaration) :
    ofDeclarations (ds ++ [d]) = (ofDeclarations ds).declare d := by
  simp [ofDeclarations]

theorem fonts_ofDeclarations (ds : List Declaration) :
    (ofDeclarations ds).fonts = .ofList (ds.filterMap Declaration.fonts?) := by
  induction ds using List.reverseRecOn with
  | nil => rfl
  | append_singleton ds d ih =>
    rw [ofDeclarations_append_singleton, List.filterMap_append]
    cases d with
    | fonts category names =>
      change (ofDeclarations ds).fonts.insert category names = _
      rw [ih]
      exact (Ordered.ofList_append_singleton _ (category, names)).symm
    | marker token keyword =>
      rw [show [Declaration.marker token keyword].filterMap Declaration.fonts? = [] from rfl,
        List.append_nil]
      exact ih

theorem markers_ofDeclarations (ds : List Declaration) :
    (ofDeclarations ds).markers = .ofList (ds.filterMap Declaration.marker?) := by
  induction ds using List.reverseRecOn with
  | nil => rfl
  | append_singleton ds d ih =>
    rw [ofDeclarations_append_singleton, List.filterMap_append]
    cases d with
    | fonts category names =>
      rw [show [Declaration.fonts category names].filterMap Declaration.marker? = [] from rfl,
        List.append_nil]
      exact ih
    | marker token keyword =>
      change (ofDeclarations ds).markers.insert token keyword = _
      rw [ih]
      exact (Ordered.ofList_append_singleton _ (token, keyword)).symm

/-! ## Utilities -/

/-- The utilities that declarations ask for: fonts, then list markers, each in the order in which
they are first declared, with the value that is declared last. -/
def declared (ds : List Declaration) : List Utility :=
  (Ordered.settled (ds.filterMap Declaration.fonts?)).map
      (fun (c, names) => ⟨"font-" ++ c, "font-family", fontStack names⟩) ++
    (Ordered.settled (ds.filterMap Declaration.marker?)).map
      fun (k, v) => ⟨"list-" ++ k, "list-style-type", v⟩

theorem utilities_ofDeclarations (ds : List Declaration) :
    (ofDeclarations ds).utilities = declared ds := by
  rw [utilities, fonts_ofDeclarations, markers_ofDeclarations, Ordered.entries_ofList,
    Ordered.entries_ofList, declared]

/-- A category that is declared again keeps its place, and markers come last. -/
example : (declared [.marker "disc" "disc", .fonts "sans" ["Arial"], .fonts "ui" ["Menlo"],
    .fonts "sans" ["Inter"]]).map Utility.rule =
      [".font-sans \x7b\n  font-family: Inter;\n\x7d\n",
        ".font-ui \x7b\n  font-family: Menlo;\n\x7d\n",
        ".list-disc \x7b\n  list-style-type: disc;\n\x7d\n"] := by decide +kernel

theorem nodup_names {α : Type} (m : Ordered α) (prior : String) :
    (m.entries.map fun e => prior ++ e.1).Nodup := by
  have hnames := m.nodup.map fun _ _ => (String.append_right_inj prior).1
  rwa [List.map_map] at hnames

/-- **Names of utilities.** No two utilities of a theme have one name. -/
theorem nodup_utilities (t : Theme) : (t.utilities.map Utility.name).Nodup := by
  rw [utilities, List.map_append, List.map_map, List.map_map]
  refine List.nodup_append.2 ⟨nodup_names t.fonts "font-", nodup_names t.markers "list-", ?_⟩
  intro a ha b hb
  obtain ⟨font, -, rfl⟩ := List.mem_map.1 ha
  obtain ⟨marker, -, rfl⟩ := List.mem_map.1 hb
  intro heq
  simpa using congrArg (fun s => s.toList.head?) heq

end Theme

/-! ## Drafts -/

open Theme (Declaration declare)

/-- Declarations of fonts go to the fonts. -/
theorem foldl_fonts (t : Theme) (es : List (String × List String)) :
    (es.map fun (c, names) => Declaration.fonts c names).foldl declare t =
      { t with fonts := es.foldl (fun m (k, v) => m.insert k v) t.fonts } := by
  induction es generalizing t with
  | nil => rfl
  | cons e es ih => exact ih _

/-- Declarations of list markers go to the markers. -/
theorem foldl_markers (t : Theme) (es : List (String × String)) :
    (es.map fun (token, keyword) => Declaration.marker token keyword).foldl declare t =
      { t with markers := es.foldl (fun m (k, v) => m.insert k v) t.markers } := by
  induction es generalizing t with
  | nil => rfl
  | cons e es ih => exact ih _

/-- A field of fonts in a draft that has none yet declares them. -/
theorem ThemeDraft.declare_fonts {d : ThemeDraft} (h : ¬d.fonts.isSome = true)
    (es : List (String × List String)) :
    (es.map fun (c, names) => Declaration.fonts c names).foldl declare d.theme =
      { d with fonts := some (.ofList es) }.theme := by
  rw [foldl_fonts, theme, Option.not_isSome_iff_eq_none.1 h]
  rfl

/-- A field of list markers in a draft that has none yet declares them. -/
theorem ThemeDraft.declare_markers {d : ThemeDraft} (h : ¬d.markers.isSome = true)
    (es : List (String × String)) :
    (es.map fun (token, keyword) => Declaration.marker token keyword).foldl declare d.theme =
      { d with markers := some (.ofList es) }.theme := by
  rw [foldl_markers, theme, Option.not_isSome_iff_eq_none.1 h]
  rfl

/-! ## Declarations in documents -/

namespace Yaml

variable {α β : Type} {n m : Nat}

theorem exists_of_bind_eq_read {x : Read α} {f : α → Read β} {b : β}
    (h : (x >>= f) n = .ok (b, m)) : ∃ a k, x n = .ok (a, k) ∧ f a k = .ok (b, m) := by
  obtain ⟨⟨a, k⟩, hx, hf⟩ := exists_of_bind_eq_ok h
  exact ⟨a, k, hx, hf⟩

theorem bind_eq_read {x : Read α} {f : α → Read β} {a : α} {k : Nat} (hx : x n = .ok (a, k)) :
    (x >>= f) n = f a k := by
  have hstep : (x n >>= fun r => f r.1 r.2) = f a k := bind_eq_ok hx
  exact hstep

theorem wrongType_ne_ok (node : Node) (expected : String) {x : α × Nat} :
    wrongType node expected n ≠ .ok x := by
  cases node with
  | scalar l text isPlain =>
    rw [wrongType]
    rcases readScalar l.tag text isPlain with m | scalar <;> exact nofun
  | _ => exact nofun

theorem of_void_eq_ok {node : Node} {expected : String} {r : Read α} {x : α × Nat}
    (h : (if isVoid node then r else wrongType node expected) n = .ok x) :
    isVoid node = true ∧ r n = .ok x := by
  split at h
  · next hvoid => exact ⟨hvoid, h⟩
  · exact absurd h (wrongType_ne_ok _ _)

namespace Spot

theorem locate_eq_ok {s : Spot} {r : Read α} {x : α × Nat} :
    s.locate r n = .ok x ↔ r n = .ok x := by
  unfold locate
  split
  · next heq => simp [heq]
  · rfl

/-- The entries that a spot holds. -/
def held (s : Spot) : Read (List (Spot × Spot)) := s.map "a map" pure

/-- What is read as a map is the entries that the spot holds. -/
theorem exists_held {s : Spot} {expected : String} {read : List (Spot × Spot) → Read α} {a : α}
    (h : s.map expected read n = .ok (a, m)) :
    ∃ es k, s.held n = .ok (es, k) ∧ read es k = .ok (a, m) := by
  obtain ⟨t, k, ht, h⟩ := exists_of_bind_eq_read h
  rw [locate_eq_ok] at h
  have hheld : s.held n = _ := bind_eq_read ht
  simp only [hheld, locate_eq_ok]
  cases hnode : t.node with
  | mapping l es =>
    rw [hnode] at h
    obtain ⟨depth, k', hdepth, h⟩ := exists_of_bind_eq_read h
    exact ⟨_, _, bind_eq_read hdepth, h⟩
  | _ =>
    simp only [hnode] at h ⊢
    obtain ⟨hvoid, h⟩ := of_void_eq_ok h
    exact ⟨[], k, by rw [if_pos hvoid]; rfl, h⟩

/-- What is read as a text is the text that the spot holds. -/
theorem exists_text {s : Spot} {expected : String} {read : String → Read α} {a : α}
    (h : s.textWith expected read n = .ok (a, m)) :
    ∃ text k, s.text n = .ok (text, k) ∧ read text k = .ok (a, m) := by
  obtain ⟨t, k, ht, h⟩ := exists_of_bind_eq_read h
  rw [locate_eq_ok] at h
  have htext : s.text n = _ := bind_eq_read ht
  simp only [htext, locate_eq_ok]
  cases hnode : t.node with
  | scalar l text isPlain =>
    rw [hnode] at h
    exact ⟨text, k, rfl, h⟩
  | _ =>
    rw [hnode] at h
    exact absurd h (wrongType_ne_ok _ _)

/-- The names and the data that a spot holds. -/
def named (s : Spot) (read : Spot → Read α) : Read (List (String × α)) := do
  (← s.held).mapM fun (k, v) => do return (← k.text, ← read v)

theorem exists_named {s : Spot} {read : Spot → Read α} {values : Ordered α}
    (h : s.ordered read n = .ok (values, m)) :
    ∃ es, s.named read n = .ok (es, m) ∧ values = .ofList es := by
  obtain ⟨spots, k, hheld, h⟩ := exists_held h
  obtain ⟨es, k', hes, h⟩ := exists_of_bind_eq_read h
  cases h
  exact ⟨es, (bind_eq_read hheld).trans hes, rfl⟩

end Spot

/-- The declarations in the fields of a theme. -/
def declarationsOf : List (Spot × Spot) → Read (List Declaration)
  | [] => return []
  | (k, v) :: es => do
    if (← k.text) = "fontFamily" then
      let fonts ← v.named Spot.texts
      return fonts.map (fun (c, names) => .fonts c names) ++ (← declarationsOf es)
    else
      let markers ← v.named Spot.text
      return markers.map (fun (token, keyword) => .marker token keyword) ++ (← declarationsOf es)

/-- The declarations of a theme, in the order in which they are written. -/
def Spot.declarations (s : Spot) : Read (List Declaration) := do
  declarationsOf (← s.held)

theorem exists_declarationsOf {d : ThemeDraft} {es : List (Spot × Spot)} {t : Theme}
    (h : readThemeFields d es n = .ok (t, m)) :
    ∃ ds, declarationsOf es n = .ok (ds, m) ∧ t = ds.foldl declare d.theme := by
  induction es generalizing d n with
  | nil =>
    cases h
    exact ⟨[], rfl, rfl⟩
  | cons e es ih =>
    rw [readThemeFields] at h
    obtain ⟨name, k, hname, h⟩ := exists_of_bind_eq_read h
    obtain ⟨text, k', htext, hknown⟩ := Spot.exists_text hname
    split at hknown
    · cases hknown
      rw [declarationsOf, bind_eq_read htext]
      split at h
      · next hfonts =>
        rw [if_pos hfonts]
        split at h
        · cases h
        · next hnone =>
          obtain ⟨fonts, k, hordered, h⟩ := exists_of_bind_eq_read h
          obtain ⟨entries, hentries, rfl⟩ := Spot.exists_named hordered
          obtain ⟨ds, hds, rfl⟩ := ih h
          rw [bind_eq_read hentries, bind_eq_read hds]
          exact ⟨_, rfl, by rw [List.foldl_append, ThemeDraft.declare_fonts hnone]⟩
      · next hmarkers =>
        rw [if_neg hmarkers]
        split at h
        · cases h
        · next hnone =>
          obtain ⟨markers, k, hordered, h⟩ := exists_of_bind_eq_read h
          obtain ⟨entries, hentries, rfl⟩ := Spot.exists_named hordered
          obtain ⟨ds, hds, rfl⟩ := ih h
          rw [bind_eq_read hentries, bind_eq_read hds]
          exact ⟨_, rfl, by rw [List.foldl_append, ThemeDraft.declare_markers hnone]⟩
    · cases hknown

/-- **Themes of documents.** A theme that is read comes from the declarations in the document, in
the order in which they are written. -/
theorem Spot.exists_declarations {s : Spot} {t : Theme} (h : s.theme n = .ok (t, m)) :
    ∃ ds, s.declarations n = .ok (ds, m) ∧ t = .ofDeclarations ds := by
  obtain ⟨es, k, hheld, h⟩ := Spot.exists_held h
  obtain ⟨ds, hds, rfl⟩ := exists_declarationsOf h
  exact ⟨ds, (bind_eq_read hheld).trans hds, rfl⟩

end Yaml

/-! ## Declarations in plain data -/

namespace Value

/-- The names and the data that a map holds. -/
def named {α : Type} (v : Value) (read : Value → Except Mismatch α) :
    Except Mismatch (List (String × α)) := do
  (← v.readMap "a map").mapM fun (k, v) => do return (← k.readText "a string", ← read v)

/-- The declarations in the fields of a theme. -/
def declarationsOf : List (Value × Value) → Except Mismatch (List Declaration)
  | [] => return []
  | (k, v) :: es => do
    if (← k.readText "field identifier") = "fontFamily" then
      let fonts ← v.named readTexts
      return fonts.map (fun (c, names) => .fonts c names) ++ (← declarationsOf es)
    else
      let markers ← v.named fun v => v.readText "a string"
      return markers.map (fun (token, keyword) => .marker token keyword) ++ (← declarationsOf es)

/-- The declarations of a theme, in the order in which they are written. -/
def declarations (v : Value) : Except Mismatch (List Declaration) := do
  declarationsOf (← v.readMap themeName)

theorem exists_named {α : Type} {v : Value} {read : Value → Except Mismatch α}
    {values : Ordered α} (h : v.readOrdered read = .ok values) :
    ∃ es, v.named read = .ok es ∧ values = .ofList es := by
  obtain ⟨held, hheld, h⟩ := exists_of_bind_eq_ok h
  obtain ⟨es, hes, h⟩ := exists_of_bind_eq_ok h
  cases h
  exact ⟨es, (bind_eq_ok hheld).trans hes, rfl⟩

theorem exists_declarationsOf {d : ThemeDraft} {es : List (Value × Value)} {t : Theme}
    (h : readThemeFields d es = .ok t) :
    ∃ ds, declarationsOf es = .ok ds ∧ t = ds.foldl declare d.theme := by
  induction es generalizing d with
  | nil =>
    cases h
    exact ⟨[], rfl, rfl⟩
  | cons e es ih =>
    rw [readThemeFields] at h
    obtain ⟨name, hname, h⟩ := exists_of_bind_eq_ok h
    rw [declarationsOf, bind_eq_ok hname]
    split at h
    · next hfonts =>
      rw [if_pos hfonts]
      split at h
      · cases h
      · next hnone =>
        obtain ⟨fonts, hordered, h⟩ := exists_of_bind_eq_ok h
        obtain ⟨entries, hentries, rfl⟩ := exists_named hordered
        obtain ⟨ds, hds, rfl⟩ := ih h
        rw [bind_eq_ok hentries, bind_eq_ok hds]
        exact ⟨_, rfl, by rw [List.foldl_append, ThemeDraft.declare_fonts hnone]⟩
    · next hmarkers =>
      rw [if_neg hmarkers]
      split at h
      · split at h
        · cases h
        · next hnone =>
          obtain ⟨markers, hordered, h⟩ := exists_of_bind_eq_ok h
          obtain ⟨entries, hentries, rfl⟩ := exists_named hordered
          obtain ⟨ds, hds, rfl⟩ := ih h
          rw [bind_eq_ok hentries, bind_eq_ok hds]
          exact ⟨_, rfl, by rw [List.foldl_append, ThemeDraft.declare_markers hnone]⟩
      · cases h

/-- **Themes of plain data.** A theme that is read comes from the declarations in the data, in the
order in which they are written. -/
theorem exists_declarations {v : Value} {t : Theme} (h : v.readTheme = .ok t) :
    ∃ ds, v.declarations = .ok ds ∧ t = .ofDeclarations ds := by
  obtain ⟨es, hes, h⟩ := exists_of_bind_eq_ok h
  obtain ⟨ds, hds, rfl⟩ := exists_declarationsOf h
  exact ⟨ds, (bind_eq_ok hes).trans hds, rfl⟩

end Value

end StyleBuild

/-! ## What is generated -/

namespace StyleBuild.Generation

/-- A safelist or scanned content asks for a name. -/
def Asked (safelist : NameSet) (ctx : StageContext) (name : String) : Prop :=
  name ∈ safelist ∨ ∃ scan, ctx.content = some scan ∧ name ∈ scan.classes

theorem asked_iff {safelist : NameSet} {ctx : StageContext} {name : String} :
    Asked safelist ctx name ↔ (safelist.contains name || ctx.uses name) = true := by
  rw [Asked, Bool.or_eq_true, NameSet.contains_iff, StageContext.uses]
  cases ctx.content with
  | none => simp
  | some scan => simp [NameSet.contains_iff]

/-- Without content, a safelist alone asks for names. -/
theorem asked_of_noContent {safelist : NameSet} {ctx : StageContext} (h : ctx.content = none)
    {name : String} : Asked safelist ctx name ↔ name ∈ safelist := by
  simp [Asked, h]

theorem mem_emitted {t : Theme} {safelist : NameSet} {ctx : StageContext} {u : Utility} :
    u ∈ t.utilities.filter (fun u => safelist.contains u.name || ctx.uses u.name) ↔
      u ∈ t.utilities ∧ Asked safelist ctx u.name := by
  rw [List.mem_filter, asked_iff]

/-- Names that no utility has make no difference. -/
theorem generated_congr {t : Theme} {safelist safelist' : NameSet} {ctx ctx' : StageContext}
    (h : ∀ u ∈ t.utilities, Asked safelist ctx u.name ↔ Asked safelist' ctx' u.name) :
    generated t safelist ctx = generated t safelist' ctx' := by
  have hsame : ∀ u ∈ t.utilities, (safelist.contains u.name || ctx.uses u.name) =
      (safelist'.contains u.name || ctx'.uses u.name) := fun u hu =>
    Bool.eq_iff_iff.2 (asked_iff.symm.trans ((h u hu).trans asked_iff))
  rw [generated, generated, List.filter_congr hsame]

/-- **What is generated.** For the theme of any declarations, it is the rules of the utilities that
the safelist or the content asks for, each once, fonts first and each group in the order of its
first declarations with the values of the last ones; without content, of those on the safelist.
Other names that are asked for make no difference. A theme that is read comes from its declarations
in the order in which they are written. -/
theorem generated_ofDeclarations :
    (∀ ds safelist ctx, ∃ us : List Utility, us.Sublist (Theme.declared ds) ∧
      (∀ u, u ∈ us ↔ u ∈ Theme.declared ds ∧ Asked safelist ctx u.name) ∧
      (ctx.content = none → ∀ u, u ∈ us ↔ u ∈ Theme.declared ds ∧ u.name ∈ safelist) ∧
      generated (.ofDeclarations ds) safelist ctx = String.join (us.map Utility.rule)) ∧
    (∀ ds, (Theme.ofDeclarations ds).utilities = Theme.declared ds ∧
      ((Theme.declared ds).map Utility.name).Nodup) ∧
    (∀ ds safelist safelist' ctx ctx',
      (∀ u ∈ Theme.declared ds, Asked safelist ctx u.name ↔ Asked safelist' ctx' u.name) →
      generated (.ofDeclarations ds) safelist ctx =
        generated (.ofDeclarations ds) safelist' ctx') ∧
    (∀ (s : Yaml.Spot) n t m, s.theme n = .ok (t, m) →
      ∃ ds, s.declarations n = .ok (ds, m) ∧ t = .ofDeclarations ds) ∧
    ∀ (v : Value) t, v.readTheme = .ok t →
      ∃ ds, v.declarations = .ok ds ∧ t = .ofDeclarations ds := by
  refine ⟨fun ds safelist ctx => ?_, fun ds => ?_, fun ds safelist safelist' ctx ctx' h => ?_,
    fun s n t m h => Yaml.Spot.exists_declarations h, fun v t h => Value.exists_declarations h⟩
  · rw [← Theme.utilities_ofDeclarations]
    refine ⟨_, List.filter_sublist, fun u => mem_emitted, fun hcontent u => ?_, rfl⟩
    rw [mem_emitted, asked_of_noContent hcontent]
  · refine ⟨Theme.utilities_ofDeclarations ds, ?_⟩
    rw [← Theme.utilities_ofDeclarations]
    exact Theme.nodup_utilities _
  · rw [← Theme.utilities_ofDeclarations] at h
    exact generated_congr h

/-- A document with a category that is written twice. -/
def twiceDocument : Yaml.Document :=
  let text (t : String) : Yaml.Node := .scalar {} t true
  let stack (t : String) : Yaml.Node := .sequence {} [text t]
  { root := .mapping {} [(text "fontFamily", .mapping {}
      [(text "sans", stack "Arial"), (text "ui", stack "Menlo"), (text "sans", stack "Inter")])] }

/-- The same as plain data. -/
def twiceData : Value :=
  let stack (t : String) : Value := .list [.text t]
  .map [(.text "fontFamily", .map
    [(.text "sans", stack "Arial"), (.text "ui", stack "Menlo"), (.text "sans", stack "Inter")])]

/-- The declarations in both. -/
def twice : List Theme.Declaration :=
  [.fonts "sans" ["Arial"], .fonts "ui" ["Menlo"], .fonts "sans" ["Inter"]]

theorem generated_ofDeclarations_twice :
    let safelist : NameSet := .ofList ["font-ui", "font-sans"]
    let other : NameSet := .ofList ["card", "font-sans", "font-ui"]
    generated (.ofDeclarations twice) safelist {} =
      ".font-sans \x7b\n  font-family: Inter;\n\x7d\n.font-ui \x7b\n  font-family: Menlo;\n\x7d\n" ∧
    (∃ us : List Utility, (∀ u, u ∈ us ↔ u ∈ Theme.declared twice ∧ u.name ∈ safelist) ∧
      generated (.ofDeclarations twice) safelist {} = String.join (us.map Utility.rule)) ∧
    generated (.ofDeclarations twice) safelist {} = generated (.ofDeclarations twice) other {} ∧
    (∃ ds, (Yaml.Spot.root twiceDocument).declarations 0 = .ok (ds, 0) ∧
      Theme.ofDeclarations twice = .ofDeclarations ds) ∧
    ∃ ds, twiceData.declarations = .ok ds ∧ Theme.ofDeclarations twice = .ofDeclarations ds := by
  intro safelist other
  obtain ⟨hrules, -, hcongr, hdocument, hdata⟩ := generated_ofDeclarations
  obtain ⟨us, -, -, hus, htext⟩ := hrules twice safelist {}
  have hnone : ({} : StageContext).content = none := rfl
  refine ⟨by decide +kernel, ⟨us, hus rfl, htext⟩, hcongr twice safelist other {} {} fun u hu => ?_,
    hdocument _ 0 _ 0 rfl, hdata _ _ rfl⟩
  simp only [asked_of_noContent hnone, safelist, other, NameSet.mem_ofList]
  revert u
  decide +kernel

end StyleBuild.Generation
