import StyleBuild.Proofs.Css.Classes
import StyleBuild.Proofs.Css.Nesting
import StyleBuild.Proofs.Css.Selecting
import StyleBuild.Proofs.Stage.Pruning

/-!
# What pruning does not lose

Keyframes are traced back by normalising (`Rule.Animates.traced`) and kept if their name is not
unused (`Rule.Animates.lasting`). The names that a sheet lists for its keyframes are those outside
of scopes and starting styles (`Sheet.mem_keyframes_iff_has`). So keyframes stay where the names of
keyframes are looked for (`run_keeps_keyframes`), but not in scopes (`run_drops_keyframes`). What is
left of a sheet is left as well when more is used (`run_monotone`), though a selector maybe in
another vendor spelling (`run_respells`).
-/

/-! ## Keyframes of a normal form -/

namespace StyleBuild.Css

variable {n : String} {unused : NameSet} {path : List Frame}

/-- A rule has keyframes of a name. -/
def Rule.Animates (n : String) : Rule → Prop
  | .keyframes name _ _ => name.value = n
  | _ => False

namespace Rule.Animates

variable {r : Rule}

theorem of_shell {r' : Rule} (h : r.Animates n) (hs : r.shell = r'.shell) : r'.Animates n := by
  cases r with
  | keyframes name q frames =>
    cases r' <;> first
      | cases hs
        exact h
      | cases hs
  | _ => exact h.elim

/-- Normalising invents no keyframes. -/
theorem traced (n : String) : Traced unused (Rule.Animates n) where
  shell _ := of_shell
  removed := id
  style _ _ := id
  nesting := id
  declarations := id
  merge _ := False.elim
  keyframes := id
  declared _ := id
  settled := id
  extended := False.elim

/-- Normalising keeps keyframes of which the name is not unused. -/
theorem lasting (hn : unused.contains n = false) : Lasting unused (Rule.Animates n) where
  shell _ := of_shell
  conditional {r} h := by cases r <;> first | rfl | exact h.elim
  unnamed := id
  nesting := id
  declarations := id
  keyframes {name q frames} h := by
    obtain rfl : name.value = n := h
    exact ⟨hn, fun _ _ => rfl⟩
  style _ _ := False.elim
  nonempty := False.elim
  merge _ _ h := h.elim id id
  key _ _ _ := id
  named := False.elim
  declared _ := id
  imported _ := id
  registered := False.elim
  replaced _ := id

end Rule.Animates

/-! ## Names that a sheet lists -/

theorem Rule.mem_keyframeNames_iff {r : Rule} : n ∈ r.keyframeNames ↔ r.Animates n ∨
    ∃ f rules, r.inside? = some (f, rules) ∧ f.isTransparent = true ∧
      n ∈ keyframesOfRules rules := by
  cases r
  case keyframes name q frames =>
    refine List.mem_singleton.trans ⟨fun h => .inl h.symm, ?_⟩
    rintro (h | ⟨f, rules, h, -⟩)
    · exact Eq.symm h
    · cases h
  all_goals simp [Rule.keyframeNames, Animates, inside?, Frame.isTransparent]

theorem mem_keyframesOfRules_iff {rules : List Rule} :
    n ∈ keyframesOfRules rules ↔ ∃ r ∈ rules, n ∈ r.keyframeNames := by
  induction rules with
  | nil => simp [keyframesOfRules]
  | cons r rules ih => simp [keyframesOfRules, ih]

/-- The names that a sheet lists for its keyframes are those of keyframes behind transparent frames.
-/
theorem Sheet.mem_keyframes_iff_has {sheet : Sheet} : n ∈ sheet.keyframes ↔
    ∃ path, (∀ f ∈ path, f.isTransparent = true) ∧ Has (Rule.Animates n) path sheet.rules :=
  NameSet.mem_ofList.trans
    (collected_iff_has (fun _ => Rule.mem_keyframeNames_iff) fun _ => mem_keyframesOfRules_iff)

end StyleBuild.Css

namespace StyleBuild.Pruning

open Css

variable {allowed allowed' : NameSet} {ctx ctx' : StageContext}

/-! ## Animations -/

theorem isNestable_of_animates {n : String} {r : Rule} (h : r.Animates n) :
    r.isNestable = false := by
  cases r <;> first | rfl | exact h.elim

/-- The name of keyframes that a sheet lists is not unused. -/
theorem contains_unusedIn_of_mem_keyframes {sheet : Sheet} {n : String} (h : n ∈ sheet.keyframes) :
    (unusedIn allowed ctx sheet).contains n = false :=
  Bool.eq_false_iff.2 fun hc => (contains_unusedIn.1 hc).2.2.2 h

/-- **Pruning keeps animations.** Keyframes that are left when nothing is unused are left at the
same place when unused classes go, whichever of these share their name, unless they stand in a scope
or a starting style, where the names of keyframes are not looked for, or in an unnamed layer behind
a media query that never matches. None stand inside of style rules. In scopes and starting styles
those stay whose name is not that of an unused class. -/
theorem run_keeps_keyframes {css out : String} (h : (run allowed ctx css).result = .ok out) :
    ∃ sheet unused, readSheet css = .ok sheet ∧ unused = unusedIn allowed ctx sheet ∧
      (pass {}).transform css = .ok ((sheet.normalize {}).print { layout := .pretty }) ∧
      out = (sheet.normalize { unused }).print { layout := .pretty } ∧
      ∀ n path, Has (Rule.Animates n) path (sheet.normalize {}).rules →
        (∀ f ∈ path, f.isNested = false) ∧
        ((∀ f ∈ path, f.isTransparent = true) ∨ unused.contains n = false →
          IsLive path ∨ IsSettled path →
            Has (Rule.Animates n) path (sheet.normalize { unused }).rules) := by
  obtain ⟨sheet, hsheet, hout⟩ := run_eq_ok h
  refine ⟨sheet, _, hsheet, rfl, ?_, hout.symm, fun n path hhas => ?_⟩
  · rw [Pass.transform, hsheet]
    rfl
  · have hbefore : Has (Rule.Animates n) path sheet.rules :=
      (Rule.Animates.traced n).normalizeTo _ {} rfl rfl false _ path hhas
    have hn := isNested_of_has_readRules (readSheet_eq_ok hsheet)
      (hbefore.mono isNestable_of_animates)
    refine ⟨hn, fun hname hopen => ?_⟩
    have hlive : IsLive path :=
      hopen.elim id fun hset => isLive_of_has_normalizeRules rfl hset hn hhas
    have hleft : (unusedIn allowed ctx sheet).contains n = false := by
      refine hname.elim (fun hpath => ?_) id
      exact contains_unusedIn_of_mem_keyframes
        (Sheet.mem_keyframes_iff_has.2 ⟨path, hpath, hbefore⟩)
    exact (Rule.Animates.lasting hleft).normalizeTo _ _ rfl rfl _ path hlive hbefore

/-- A class of the name of some keyframes, next to another one. Nothing uses either. -/
theorem run_keeps_keyframes_shared :
    ∃ sheet unused,
      readSheet ".foo\x7bcolor:red\x7d.bar\x7border:2\x7d@keyframes foo\x7bto\x7border:1\x7d\x7d" =
        .ok sheet ∧
      ".foo \x7b\n  color: red;\n\x7d\n\n" ++
          "@keyframes foo \x7b\n  to \x7b\n    order: 1;\n  \x7d\n\x7d\n" =
        (sheet.normalize { unused }).print { layout := .pretty } ∧
      Has (Rule.Animates "foo") [] (sheet.normalize { unused }).rules := by
  have hrun : (run {} idle
      ".foo\x7bcolor:red\x7d.bar\x7border:2\x7d@keyframes foo\x7bto\x7border:1\x7d\x7d").result =
      .ok (".foo \x7b\n  color: red;\n\x7d\n\n" ++
        "@keyframes foo \x7b\n  to \x7b\n    order: 1;\n  \x7d\n\x7d\n") := by
    decide +kernel
  have hfoo : (readSheet
      ".foo\x7bcolor:red\x7d.bar\x7border:2\x7d@keyframes foo\x7bto\x7border:1\x7d\x7d").map
        (fun s => (s.normalize {}).rules.any fun r =>
          r.inside?.isNone && decide ("foo" ∈ r.keyframeNames)) = .ok true := by
    decide +kernel
  obtain ⟨sheet, unused, hsheet, -, -, hout, hkeeps⟩ := run_keeps_keyframes hrun
  rw [hsheet] at hfoo
  obtain ⟨r, hr, hname⟩ := List.any_eq_true.1 (Except.ok.inj hfoo)
  have hhas : Has (Rule.Animates "foo") [] (sheet.normalize {}).rules := by
    rw [Bool.and_eq_true, decide_eq_true_eq] at hname
    rcases Rule.mem_keyframeNames_iff.1 hname.2 with h | ⟨f, rules, hin, -⟩
    · exact ⟨r, hr, h⟩
    · rw [hin] at hname
      exact absurd hname.1 Bool.false_ne_true
  exact ⟨sheet, unused, hsheet, hout,
    (hkeeps "foo" [] hhas).2 (.inl (List.forall_mem_nil _)) (.inl .nil)⟩

/-- Keyframes in a scope go with a class of their name. Those of a media query that never matches,
inside of an unnamed layer, go when this comes to stand beside a named one. -/
theorem run_drops_keyframes :
    ((pass {}).transform
        "@scope (.a)\x7b@keyframes foo\x7bto\x7border:1\x7d\x7d\x7d.foo\x7bcolor:red\x7d" =
        .ok ("@scope (.a) \x7b\n  @keyframes foo \x7b\n    to \x7b\n      order: 1;\n    \x7d\n" ++
          "  \x7d\n\x7d\n\n.foo \x7b\n  color: red;\n\x7d\n") ∧
      (run {} idle
        "@scope (.a)\x7b@keyframes foo\x7bto\x7border:1\x7d\x7d\x7d.foo\x7bcolor:red\x7d").result =
        .ok "@scope (.a) \x7b\n  \n\x7d\n") ∧
      (pass {}).transform ("@media print\x7b@layer\x7b@media not all\x7b@keyframes foo\x7bto" ++
          "\x7border:1\x7d\x7d\x7d\x7d\x7d.u\x7border:1\x7d@media print\x7b@layer a\x7b\x7d\x7d") =
        .ok ("@media print \x7b\n  @layer \x7b\n    @media not all \x7b\n" ++
          "      @keyframes foo \x7b\n        to \x7b\n          order: 1;\n        \x7d\n" ++
          "      \x7d\n    \x7d\n  \x7d\n\x7d\n\n" ++
          ".u \x7b\n  order: 1;\n\x7d\n\n@media print \x7b\n  @layer a;\n\x7d\n") ∧
      (run {} idle ("@media print\x7b@layer\x7b@media not all\x7b@keyframes foo\x7bto" ++
          "\x7border:1\x7d\x7d\x7d\x7d\x7d.u\x7border:1\x7d" ++
          "@media print\x7b@layer a\x7b\x7d\x7d")).result =
        .ok "@media print \x7b\n  @layer a;\n\x7d\n" := by
  decide +kernel

/-! ## Selectors -/

theorem unusedIn_mono (huses : ∀ n, ctx.uses n = true → ctx'.uses n = true)
    (hallowed : ∀ n, allowed.contains n = true → allowed'.contains n = true) {sheet : Sheet} :
    ∀ n ∈ unusedIn allowed' ctx' sheet, n ∈ unusedIn allowed ctx sheet := by
  simp only [← NameSet.contains_iff, contains_unusedIn]
  rintro n ⟨hclass, huse, hallow, hname⟩
  exact ⟨hclass, Bool.eq_false_iff.2 fun h => Bool.eq_false_iff.1 huse (huses n h),
    Bool.eq_false_iff.2 fun h => Bool.eq_false_iff.1 hallow (hallowed n h), hname⟩

/-- **Pruning leaves more if more is used or allowed.** Then fewer classes are unused, and outside
of unnamed layers and of style rules each selector of a style rule is left in some spelling at the
same place. Inside of unnamed layers as well, but not behind media queries that never match, all
stays that the unused classes of the second run do not take away. -/
theorem run_monotone (huses : ∀ n, ctx.uses n = true → ctx'.uses n = true)
    (hallowed : ∀ n, allowed.contains n = true → allowed'.contains n = true)
    {css out out' : String} (h : (run allowed ctx css).result = .ok out)
    (h' : (run allowed' ctx' css).result = .ok out') :
    ∃ sheet unused unused', readSheet css = .ok sheet ∧
      Pruning.unused allowed ctx css = .ok unused ∧
      Pruning.unused allowed' ctx' css = .ok unused' ∧
      out = (sheet.normalize { unused }).print { layout := .pretty } ∧
      out' = (sheet.normalize { unused := unused' }).print { layout := .pretty } ∧
      (∀ n ∈ unused', n ∈ unused) ∧
      (∀ path, IsSettled path → (∀ f ∈ path, f.isNested = false) → ∀ s,
        Has (Rule.Selects s) path (sheet.normalize { unused }).rules →
          Has (Rule.Selects s) path (sheet.normalize { unused := unused' }).rules) ∧
      ∀ path, IsLive path → ∀ m : Mark, m.IsLeft unused' →
        Has m.On path (sheet.normalize { unused }).rules →
          Has m.On path (sheet.normalize { unused := unused' }).rules := by
  obtain ⟨sheet, hsheet, hout⟩ := run_eq_ok h
  obtain ⟨sheet', hsheet', hout'⟩ := run_eq_ok h'
  obtain rfl : sheet = sheet' := Except.ok.inj (hsheet.symm.trans hsheet')
  have hmore : ∀ n ∈ unusedIn allowed' ctx' sheet, n ∈ unusedIn allowed ctx sheet :=
    unusedIn_mono huses hallowed
  refine ⟨sheet, _, _, hsheet, by rw [Pruning.unused, hsheet]; rfl,
    by rw [Pruning.unused, hsheet]; rfl, hout.symm, hout'.symm, hmore,
    fun path hset hn s hhas => ?_, fun path hlive m hm hhas => ?_⟩
  · have hlive := isLive_of_has_normalizeRules rfl hset hn hhas
    refine (has_selects_normalizeRules_iff rfl hlive hset).2 ?_
    exact ((has_selects_normalizeRules_iff rfl hlive hset).1 hhas).mono (.of_more hmore)
  · refine (Mark.has_normalizeRules_of_kept rfl hlive hm.kept).2 ?_
    exact (Mark.traced m).normalizeTo _ _ rfl rfl false _ path hhas

/-- What the stage sees when its content uses some classes. -/
def seeing (classes : List String) : StageContext :=
  { content := some { classes := .ofList classes } }

/-- A second class comes into use. -/
theorem run_monotone_pair :
    ∃ sheet unused unused', readSheet ".a\x7bcolor:red\x7d.b\x7bcolor:blue\x7d" = .ok sheet ∧
      ".a \x7b\n  color: red;\n\x7d\n" =
        (sheet.normalize { unused }).print { layout := .pretty } ∧
      ".a \x7b\n  color: red;\n\x7d\n\n.b \x7b\n  color: #00f;\n\x7d\n" =
        (sheet.normalize { unused := unused' }).print { layout := .pretty } ∧
      (Has (Rule.Selects [.simple (.cls "a")]) [] (sheet.normalize { unused }).rules →
        Has (Rule.Selects [.simple (.cls "a")]) []
          (sheet.normalize { unused := unused' }).rules) := by
  have hfirst : (run {} (seeing ["a"]) ".a\x7bcolor:red\x7d.b\x7bcolor:blue\x7d").result =
      .ok ".a \x7b\n  color: red;\n\x7d\n" := by
    decide +kernel
  have hsecond : (run {} (seeing ["a", "b"]) ".a\x7bcolor:red\x7d.b\x7bcolor:blue\x7d").result =
      .ok ".a \x7b\n  color: red;\n\x7d\n\n.b \x7b\n  color: #00f;\n\x7d\n" := by
    decide +kernel
  have huses : ∀ n, (seeing ["a"]).uses n = true → (seeing ["a", "b"]).uses n = true := by
    intro n hn
    have hn := NameSet.mem_ofList.1 (NameSet.contains_iff.1 hn)
    exact NameSet.contains_iff.2 (NameSet.mem_ofList.2 (List.mem_append_left ["b"] hn))
  obtain ⟨sheet, unused, unused', hsheet, -, -, hout, hout', -, hkeeps, -⟩ :=
    run_monotone huses (fun _ => id) hfirst hsecond
  exact ⟨sheet, unused, unused', hsheet, hout, hout',
    hkeeps [] (List.forall_mem_nil _) (List.forall_mem_nil _) _⟩

/-- A vendor spelling is lost when the class beside it comes into use: the rule is merged with
another one, whose spelling is printed twice. -/
theorem run_respells :
    (run {} (seeing ["a"]) (".a::placeholder\x7bcolor:red\x7d.u\x7bcolor:red\x7d" ++
        ".a::-webkit-input-placeholder,.u\x7bcolor:red\x7d")).result =
        .ok (".a::placeholder \x7b\n  color: red;\n\x7d\n\n" ++
          ".a::-webkit-input-placeholder, .u \x7b\n  color: red;\n\x7d\n") ∧
      (run {} (seeing ["a", "u"]) (".a::placeholder\x7bcolor:red\x7d.u\x7bcolor:red\x7d" ++
        ".a::-webkit-input-placeholder,.u\x7bcolor:red\x7d")).result =
        .ok (".a::placeholder, .u \x7b\n  color: red;\n\x7d\n\n" ++
          ".a::placeholder, .u \x7b\n  color: red;\n\x7d\n") := by
  decide +kernel

end StyleBuild.Pruning
