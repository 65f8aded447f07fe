import StyleBuild.Proofs.Css.Classes
import StyleBuild.Proofs.Css.Tidy
import StyleBuild.Proofs.Stage.Pruning

/-!
# Pruning is thorough

A style rule all of whose selectors refer to classes that nothing uses has no declarations after
pruning, at any place at which the classes of a sheet are looked for (`run_thorough`). Unnamed
layers in a list that names no layer are left as they are, whatever is in them
(`run_keeps_unnamed_layer`).
-/

namespace StyleBuild

namespace Css

variable {unused : NameSet} {p : Bool} {c : String → Bool}

/-! ## Selectors that refer to classes -/

mutual

/-- Whether a part is a class of some kind, or leaves the choice among selectors that all refer to
such a class. -/
def Part.refersTo (c : String → Bool) : Part → Bool
  | .simple (.cls n) => c n
  | .choice .is ss | .choice .where_ ss => !ss.isEmpty && allReferTo c ss
  | _ => false

/-- Whether a selector refers to a class of some kind. -/
def Selector.refersTo (c : String → Bool) : List Part → Bool
  | [] => false
  | p :: ps => p.refersTo c || Selector.refersTo c ps

/-- Whether all selectors of a list refer to a class of some kind. -/
def allReferTo (c : String → Bool) : List (List Part) → Bool
  | [] => true
  | s :: ss => Selector.refersTo c s && allReferTo c ss

end

theorem allReferTo_iff {ss : List Selector} :
    allReferTo c ss = true ↔ ∀ s ∈ ss, Selector.refersTo c s = true := by
  induction ss with
  | nil => simp [allReferTo]
  | cons s ss ih => rw [allReferTo, Bool.and_eq_true, ih, List.forall_mem_cons]

mutual

theorem Part.isUnused_of_refersTo : (q : Part) → q.refersTo c = true →
    (∀ n ∈ q.classes, c n = true → unused.contains n = true) →
      q.isUnused unused p = true ∧ ∃ n ∈ q.classes, unused.contains n = true
  | .combinator _, h, _ => absurd h Bool.false_ne_true
  | .simple s, h, hc => by
    cases s with
    | cls n =>
      have hn := hc n List.mem_cons_self h
      exact ⟨hn, n, List.mem_cons_self, hn⟩
    | _ => exact absurd h Bool.false_ne_true
  | .choice k ss, h, hc => by
    cases k with
    | is | where_ =>
      obtain ⟨hne, hss⟩ := Bool.and_eq_true_iff.1 h
      exact isUnusedList_of_allReferTo ss hss (by simpa using hne) hc
    | _ => exact absurd h Bool.false_ne_true

theorem Selector.isUnused_of_refersTo : (s : List Part) → Selector.refersTo c s = true →
    (∀ n ∈ Selector.classes s, c n = true → unused.contains n = true) →
      Selector.isUnused unused p s = true ∧ ∃ n ∈ Selector.classes s, unused.contains n = true
  | [], h, _ => absurd h Bool.false_ne_true
  | q :: qs, h, hc => by
    rw [Selector.refersTo, Bool.or_eq_true] at h
    rw [Selector.isUnused, Bool.or_eq_true]
    rcases h with h | h
    · obtain ⟨hu, n, hn, hnu⟩ :=
        q.isUnused_of_refersTo h fun n hn => hc n (List.mem_append_left _ hn)
      exact ⟨.inl hu, n, List.mem_append_left _ hn, hnu⟩
    · obtain ⟨hu, n, hn, hnu⟩ :=
        Selector.isUnused_of_refersTo qs h fun n hn => hc n (List.mem_append_right _ hn)
      exact ⟨.inr hu, n, List.mem_append_right _ hn, hnu⟩

/-- A list of selectors that all refer to an unused class is unused. -/
theorem isUnusedList_of_allReferTo : (ss : List (List Part)) → allReferTo c ss = true → ss ≠ [] →
    (∀ n ∈ listClasses ss, c n = true → unused.contains n = true) →
      isUnusedList unused p ss = true ∧ ∃ n ∈ listClasses ss, unused.contains n = true
  | [], _, hne, _ => absurd rfl hne
  | s :: ss, h, _, hc => by
    rw [allReferTo, Bool.and_eq_true] at h
    obtain ⟨hu, n, hn, hnu⟩ :=
      Selector.isUnused_of_refersTo s h.1 fun n hn => hc n (List.mem_append_left _ hn)
    refine ⟨?_, n, List.mem_append_left _ hn, hnu⟩
    rw [isUnusedList, hu, Bool.true_and]
    cases ss with
    | nil => rfl
    | cons t ts =>
      exact (isUnusedList_of_allReferTo (t :: ts) h.2 (List.cons_ne_nil _ _)
        fun n hn => hc n (List.mem_append_right _ hn)).1

end

/-! ## Rules that are reached -/

/-- A rule is reached from a list through rules with frames of some kind, and through unnamed layers
only where the list names a layer as well. -/
inductive Reaches (through : Frame → Bool) : List Rule → Rule → Prop
  | here {rules : List Rule} {r : Rule} (hr : r ∈ rules) : Reaches through rules r
  | inside {rules inner : List Rule} {r s : Rule} {f : Frame} (hr : r ∈ rules)
    (hset : r.IsSettledIn rules) (hin : r.inside? = some (f, inner)) (hf : through f = true)
    (h : Reaches through inner s) : Reaches through rules s

namespace Reaches

variable {through : Frame → Bool} {rules : List Rule} {r : Rule}

theorem has {P : Rule → Prop} (h : Reaches through rules r) (hr : P r) :
    ∃ path, (∀ f ∈ path, through f = true) ∧ Has P path rules := by
  induction h with
  | here hmem => exact ⟨[], List.forall_mem_nil _, _, hmem, hr⟩
  | @inside rules inner s _ f hmem _ hin hf _ ih =>
    obtain ⟨path, hpath, hhas⟩ := ih hr
    exact ⟨f :: path, List.forall_mem_cons.2 ⟨hf, hpath⟩, s, hmem,
      (holds_cons_of_inside hin).2 ⟨.refl f, hhas⟩⟩

/-- What is reached from tidy rules is tidy. -/
theorem tidy (h : Reaches through rules r) (hrules : TidyIn unused p rules)
    (hr : r.isUnnamedLayer = false) : ∃ p', Tidy unused p' r := by
  induction h generalizing p with
  | here hmem => exact ⟨p, hrules _ hmem (.inl hr)⟩
  | inside hmem hset hin _ _ ih => exact ih ((hrules _ hmem hset).inside hin) hr

end Reaches

/-- Whether a rule with a frame puts nothing but conditions or a layer around the declarations
in it. -/
def Frame.isGroup (f : Frame) : Bool := f.isConditional || f.isLayer

theorem Rule.isUnusedInside_of_isGroup {r : Rule} {f : Frame} {rules : List Rule}
    (h : r.inside? = some (f, rules)) (hf : f.isGroup = true) :
    r.isUnusedInside unused p = p := by
  cases r <;> cases h <;> first
    | exact absurd hf Bool.false_ne_true
    | rfl

/-- From the rules in an unused one no declarations are reached that still belong to it. -/
theorem Reaches.not_declarations {rules : List Rule} {block : Block}
    (hrules : TidyIn unused true rules) :
    ¬ Reaches Frame.isGroup rules (.declarations block) := by
  intro h
  generalize hr : Rule.declarations block = r at h
  induction h with
  | here hmem =>
    subst hr
    exact absurd (hrules _ hmem (.inl rfl)).survives.symm Bool.false_ne_true
  | inside hmem hset hin hf _ ih =>
    have hinner := (hrules _ hmem hset).inside hin
    rw [Rule.isUnusedInside_of_isGroup hin hf] at hinner
    exact ih hinner hr

/-! ## Style rules with declarations -/

/-- The selectors of a style rule. -/
def Rule.selectors : Rule → List Selector
  | .style ss _ _ _ | .nesting ss _ _ => ss
  | _ => []

/-- All selectors of a style rule refer to a class of some kind. -/
def Rule.RefersTo (c : String → Bool) (r : Rule) : Prop :=
  r.selectors ≠ [] ∧ ∀ s ∈ r.selectors, Selector.refersTo c s = true

/-- A style rule has a declaration, directly or among the rules in it. -/
def Rule.HasDeclaration : Rule → Prop
  | .style _ block rules _ | .nesting _ block rules => (∃ name, block.Declares name) ∨
    ∃ block name, Reaches Frame.isGroup rules (.declarations block) ∧ Block.Declares block name
  | _ => False

theorem isUnused_of_refersTo {ss : List Selector} (hne : ss ≠ [])
    (h : ∀ s ∈ ss, Selector.refersTo c s = true)
    (hc : ∀ n ∈ listClasses ss, c n = true → unused.contains n = true) :
    ({ unused } : Goal).isUnused p ss = true := by
  obtain ⟨hu, n, -, hn⟩ :=
    isUnusedList_of_allReferTo (p := p) ss (allReferTo_iff.2 h) hne hc
  have hnames : unused.names ≠ [] := List.ne_nil_of_mem (NameSet.contains_iff.1 hn)
  simp [Goal.isUnused, hu, hnames]

/-- Of a tidy rule that refers to unused classes no declaration is left. -/
theorem Tidy.not_hasDeclaration {r : Rule} (h : Tidy unused p r) (hr : r.RefersTo c)
    (hc : ∀ n ∈ r.ownClasses, c n = true → unused.contains n = true) : ¬ r.HasDeclaration := by
  intro hd
  have hunused : ∀ ss, r.selectors = ss → r.ownClasses = listClasses ss →
      ({ unused } : Goal).isUnused p ss = true := by
    rintro ss rfl hclasses
    exact isUnused_of_refersTo hr.1 hr.2 (hclasses ▸ hc)
  cases r with
  | style ss block rules | nesting ss block rules =>
    have hss := hunused ss rfl rfl
    rcases hd with ⟨name, hd⟩ | ⟨block, name, hreach, -⟩
    · exact h.not_wastes ⟨name, hd, fun hleft => Bool.false_ne_true (hleft.1.symm.trans hss)⟩
    · have hinside := h.inside rfl
      rw [Rule.isUnusedInside, hss] at hinside
      exact Reaches.not_declarations hinside hreach
  | _ => exact hd

end Css

namespace Pruning

open Css

variable {allowed : NameSet} {ctx : StageContext}

/-- **Pruning is thorough.** In the printed sheet no style rule with a declaration is left all of
whose selectors refer to classes that are not used, not allowed and not the names of keyframes,
wherever the classes of a sheet are looked for, but for unnamed layers in lists that name no layer.
-/
theorem run_thorough {css out : String} (h : (run allowed ctx css).result = .ok out) :
    ∃ sheet unused, readSheet css = .ok sheet ∧ unused = unusedIn allowed ctx sheet ∧
      out = (sheet.normalize { unused }).print { layout := .pretty } ∧
      ∀ dead : String → Bool, (∀ n, dead n = true →
        ctx.uses n = false ∧ allowed.contains n = false ∧ n ∉ sheet.keyframes) →
      ∀ r, Reaches Frame.isTransparent (sheet.normalize { unused }).rules r →
        r.HasDeclaration → ¬ r.RefersTo dead := by
  obtain ⟨sheet, hsheet, hout⟩ := run_eq_ok h
  refine ⟨sheet, _, hsheet, rfl, hout.symm, fun dead hdead r hreach hd href => ?_⟩
  have hlayer : r.isUnnamedLayer = false := by
    cases r <;> first | rfl | exact hd.elim
  obtain ⟨p, htidy⟩ := hreach.tidy (tidy_normalizeRules rfl sheet.rules) hlayer
  refine htidy.not_hasDeclaration href (fun n hn hdeadn => ?_) hd
  -- the class was one of the sheet before
  obtain ⟨path, hpath, hhas⟩ := hreach.has (P := (n ∈ ·.ownClasses)) hn
  have hclass : n ∈ sheet.classes := Sheet.mem_classes_of_normalize rfl
    (NameSet.mem_ofList.2 (mem_classesOfRules_iff_has.2 ⟨path, hpath, hhas⟩))
  exact contains_unusedIn.2 ⟨hclass, hdead n hdeadn⟩

/-- A class that nothing uses, next to an element. -/
theorem run_thorough_print :
    ∃ sheet unused,
      readSheet ".foo\x7bcolor:red\x7d@media print\x7b.foo\x7border:1\x7dp\x7bcolor:blue\x7d\x7d" =
        .ok sheet ∧
      "@media print \x7b\n  p \x7b\n    color: #00f;\n  \x7d\n\x7d\n" =
        (sheet.normalize { unused }).print { layout := .pretty } ∧
      ∀ r, Reaches Frame.isTransparent (sheet.normalize { unused }).rules r →
        r.HasDeclaration → ¬ r.RefersTo fun _ => true := by
  have hrun : (run {} idle
      ".foo\x7bcolor:red\x7d@media print\x7b.foo\x7border:1\x7dp\x7bcolor:blue\x7d\x7d").result =
      .ok "@media print \x7b\n  p \x7b\n    color: #00f;\n  \x7d\n\x7d\n" := by
    decide +kernel
  have hnone : (readSheet
      ".foo\x7bcolor:red\x7d@media print\x7b.foo\x7border:1\x7dp\x7bcolor:blue\x7d\x7d").map
        (fun s => s.keyframes.names) = .ok [] := by
    decide +kernel
  obtain ⟨sheet, unused, hsheet, -, hout, hthorough⟩ := run_thorough hrun
  rw [hsheet] at hnone
  have hnames : sheet.keyframes.names = [] := Except.ok.inj hnone
  refine ⟨sheet, unused, hsheet, hout, hthorough _ fun n _ => ⟨rfl, rfl, fun hn => ?_⟩⟩
  have hn : n ∈ sheet.keyframes.names := hn
  rw [hnames] at hn
  cases hn

/-- An unnamed layer keeps the rules of classes that nothing uses, unless a named layer stands
beside it. -/
theorem run_keeps_unnamed_layer :
    (run {} idle "@layer\x7b.foo\x7bcolor:red\x7d\x7d").result =
        .ok "@layer \x7b\n  .foo \x7b\n    color: red;\n  \x7d\n\x7d\n" ∧
      (run {} idle "@layer\x7b.foo\x7bcolor:red\x7d\x7d@layer a\x7bp\x7border:1\x7d\x7d").result =
        .ok "@layer a \x7b\n  p \x7b\n    order: 1;\n  \x7d\n\x7d\n" := by
  decide +kernel

end Pruning

end StyleBuild
