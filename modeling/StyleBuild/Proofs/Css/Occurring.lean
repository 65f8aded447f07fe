import StyleBuild.Proofs.Css.Classes

/-!
# Where classes occur

A class occurs in a selector as a component of it, or of a selector inside of `:is()` or `:where()`,
however deep (`Selector.HasClass`). A rule is within a sheet if it stands at the top level or in style
rules, nesting rules, `@media`, `@supports`, `@layer` and `@container`, however deep (`Within`). The
classes of a sheet are those that occur in a selector of a style rule or nesting rule within it
(`Sheet.mem_classes_iff_occurs`). Nothing else in the sheet is of account: its outline, which has no
comments, declarations, other components and other rules, has the same classes
(`Sheet.classes_outline`).
-/

namespace StyleBuild.Css

variable {c : String}

/-! ## Selectors -/

/-- A class occurs in a selector, as a component or inside of `:is()` or `:where()`. -/
inductive Selector.HasClass (c : String) : Selector → Prop
  | component {s : Selector} (hc : .simple (.cls c) ∈ s) : HasClass c s
  | inside {s t : Selector} {kind : Choice} {ss : List Selector} (hkind : kind = .is ∨ kind = .where_)
      (hss : .choice kind ss ∈ s) (ht : t ∈ ss) (hc : HasClass c t) : HasClass c s

/-- What occurs in some parts of a selector occurs in it. -/
theorem Selector.HasClass.mono {s t : Selector} (h : HasClass c s) (hst : ∀ p ∈ s, p ∈ t) :
    HasClass c t := by
  cases h with
  | component hc => exact .component (hst _ hc)
  | inside hkind hss hu hc => exact .inside hkind (hst _ hss) hu hc

theorem Selector.mem_classes_of_mem {s : Selector} {p : Part} (hp : p ∈ s) (hc : c ∈ p.classes) :
    c ∈ Selector.classes s := by
  induction s with
  | nil => cases hp
  | cons q s ih =>
    rw [Selector.classes, List.mem_append]
    rcases List.mem_cons.1 hp with rfl | hp
    · exact .inl hc
    · exact .inr (ih hp)

-- a part is taken for a selector of its own, so that parts, selectors and lists have one statement
mutual

theorem Part.hasClass_of_mem : (p : Part) → c ∈ p.classes → Selector.HasClass c [p]
  | .combinator _, hc => absurd hc List.not_mem_nil
  | .simple s, hc => by
    cases s with
    | cls n =>
      obtain rfl := List.mem_singleton.1 hc
      exact .component (List.mem_singleton_self _)
    | _ => exact absurd hc List.not_mem_nil
  | .choice k ss, hc => by
    have hinner (hkind : k = .is ∨ k = .where_) (hc : c ∈ listClasses ss) :
        Selector.HasClass c [.choice k ss] := by
      obtain ⟨t, ht, hct⟩ := exists_hasClass_of_mem ss hc
      exact .inside hkind (List.mem_singleton_self _) ht hct
    cases k with
    | is => exact hinner (.inl rfl) hc
    | where_ => exact hinner (.inr rfl) hc
    | _ => exact absurd hc List.not_mem_nil

theorem Selector.hasClass_of_mem :
    (s : List Part) → c ∈ Selector.classes s → Selector.HasClass c s
  | [], hc => absurd hc List.not_mem_nil
  | p :: ps, hc => by
    rw [Selector.classes, List.mem_append] at hc
    rcases hc with hc | hc
    · exact (p.hasClass_of_mem hc).mono (by simp)
    · exact (Selector.hasClass_of_mem ps hc).mono fun q hq => List.mem_cons_of_mem p hq

theorem exists_hasClass_of_mem :
    (ss : List (List Part)) → c ∈ listClasses ss → ∃ s ∈ ss, Selector.HasClass c s
  | [], hc => absurd hc List.not_mem_nil
  | s :: ss, hc => by
    rw [listClasses, List.mem_append] at hc
    rcases hc with hc | hc
    · exact ⟨s, List.mem_cons_self, Selector.hasClass_of_mem s hc⟩
    · obtain ⟨t, ht, hct⟩ := exists_hasClass_of_mem ss hc
      exact ⟨t, List.mem_cons_of_mem s ht, hct⟩

end

/-- The classes of a selector are those that occur in it. -/
theorem Selector.mem_classes_iff {s : Selector} : c ∈ Selector.classes s ↔ HasClass c s := by
  refine ⟨Selector.hasClass_of_mem s, fun h => ?_⟩
  induction h with
  | component hc => exact mem_classes_of_mem hc (by simp [Part.classes])
  | inside hkind hss ht _ ih =>
    refine mem_classes_of_mem hss ?_
    rcases hkind with rfl | rfl <;> exact mem_listClasses ht ih

theorem mem_listClasses_iff {ss : List Selector} :
    c ∈ listClasses ss ↔ ∃ s ∈ ss, Selector.HasClass c s := by
  refine ⟨exists_hasClass_of_mem ss, ?_⟩
  rintro ⟨s, hs, hc⟩
  exact mem_listClasses hs (Selector.mem_classes_iff.2 hc)

/-! ## Rules -/

namespace Rule

/-- A rule is of a kind whose rules are looked at for classes, and holds these rules. -/
inductive Opens : Rule → List Rule → Prop
  | style ss block rules q : Opens (.style ss block rules q) rules
  | nesting ss block rules : Opens (.nesting ss block rules) rules
  | media queries rules : Opens (.media queries rules) rules
  | supports query rules : Opens (.supports query rules) rules
  | layer name rules : Opens (.layer name rules) rules
  | container query rules : Opens (.container query rules) rules

/-- A rule is a style rule or a nesting rule with a selector. -/
inductive HasSelector : Rule → Selector → Prop
  | style {ss block rules q s} (hs : s ∈ ss) : HasSelector (.style ss block rules q) s
  | nesting {ss block rules s} (hs : s ∈ ss) : HasSelector (.nesting ss block rules) s

variable {r : Rule} {rules : List Rule}

theorem opens_iff :
    r.Opens rules ↔ ∃ f, r.inside? = some (f, rules) ∧ f.isTransparent = true := by
  constructor
  · intro h
    cases h <;> exact ⟨_, rfl, rfl⟩
  · rintro ⟨f, hinside, hf⟩
    cases r <;> cases hinside <;> first | constructor | cases hf

theorem mem_ownClasses_iff :
    c ∈ r.ownClasses ↔ ∃ s, r.HasSelector s ∧ Selector.HasClass c s := by
  constructor
  · intro hc
    cases r <;> first
      | exact absurd hc List.not_mem_nil
      | obtain ⟨s, hs, hcs⟩ := mem_listClasses_iff.1 hc
        exact ⟨s, by constructor; exact hs, hcs⟩
  · rintro ⟨s, hs, hcs⟩
    cases hs with
    | style hs => exact mem_listClasses_iff.2 ⟨s, hs, hcs⟩
    | nesting hs => exact mem_listClasses_iff.2 ⟨s, hs, hcs⟩

end Rule

/-- A rule is within a list of rules. -/
inductive Within : List Rule → Rule → Prop
  | top {rules : List Rule} {r : Rule} (hr : r ∈ rules) : Within rules r
  | inside {rules inner : List Rule} {s r : Rule} (hs : s ∈ rules) (ho : s.Opens inner)
      (hr : Within inner r) : Within rules r

variable {P : Rule → Prop} {rules : List Rule}

/-- The rules within others are those at the places that do not hide their classes. -/
theorem exists_within_iff_has : (∃ r, Within rules r ∧ P r) ↔
    ∃ path, (∀ f ∈ path, f.isTransparent = true) ∧ Has P path rules := by
  constructor
  · rintro ⟨r, hr, hP⟩
    induction hr with
    | top hr => exact ⟨[], List.forall_mem_nil _, _, hr, hP⟩
    | inside hs ho _ ih =>
      obtain ⟨f, hinside, hf⟩ := Rule.opens_iff.1 ho
      obtain ⟨path, hpath, hhas⟩ := ih hP
      exact ⟨f :: path, List.forall_mem_cons.2 ⟨hf, hpath⟩, _, hs,
        (holds_cons_of_inside hinside).2 ⟨.refl f, hhas⟩⟩
  · rintro ⟨path, hpath, hhas⟩
    induction path generalizing rules with
    | nil =>
      obtain ⟨r, hr, hP⟩ := hhas
      exact ⟨r, .top hr, hP⟩
    | cons f path ih =>
      obtain ⟨hf, hpath⟩ := List.forall_mem_cons.1 hpath
      obtain ⟨s, hs, g, inner, hinside, hsame, hhas⟩ := hhas
      obtain ⟨r, hr, hP⟩ := ih hpath hhas
      have ho : s.Opens inner := Rule.opens_iff.2 ⟨g, hinside, hsame.isTransparent_eq.trans hf⟩
      exact ⟨r, .inside hs ho hr, hP⟩

/-- The classes of rules are those that occur in a selector of a rule within them. -/
theorem mem_classesOfRules_iff_occurs : c ∈ classesOfRules rules ↔
    ∃ r, Within rules r ∧ ∃ s, r.HasSelector s ∧ Selector.HasClass c s := by
  simp only [mem_classesOfRules_iff_has, ← exists_within_iff_has, Rule.mem_ownClasses_iff]

/-! ## Outlines -/

mutual

/-- A part if it is a class or gives alternatives, these as outlines. -/
def Part.outline : Part → List Part
  | .simple (.cls name) => [.simple (.cls name)]
  | .choice .is ss => [.choice .is (outlines ss)]
  | .choice .where_ ss => [.choice .where_ (outlines ss)]
  | _ => []

/-- The classes and alternatives of a selector. -/
def Selector.outline : List Part → List Part
  | [] => []
  | p :: ps => p.outline ++ Selector.outline ps

/-- The outlines of selectors. -/
def outlines : List (List Part) → List (List Part)
  | [] => []
  | s :: ss => Selector.outline s :: outlines ss

end

mutual

/-- The style rules and nesting rules in a rule, without declarations. -/
def Rule.outline : Rule → List Rule
  | .style ss _ rules _ => [.style (outlines ss) {} (outlinesOfRules rules) .none]
  | .nesting ss _ rules => [.nesting (outlines ss) {} (outlinesOfRules rules)]
  | .media _ rules | .supports _ rules | .container _ rules | .layer _ rules =>
    outlinesOfRules rules
  | _ => []

/-- The style rules and nesting rules in a list of rules, without declarations. -/
def outlinesOfRules : List Rule → List Rule
  | [] => []
  | r :: rs => r.outline ++ outlinesOfRules rs

end

/-- The style rules and nesting rules of a sheet, with classes and alternatives as the only parts of
selectors, and without declarations and license comments. -/
def Sheet.outline (sheet : Sheet) : Sheet := ⟨[], outlinesOfRules sheet.rules⟩

theorem Selector.classes_append (s t : Selector) :
    Selector.classes (s ++ t) = Selector.classes s ++ Selector.classes t := by
  induction s with
  | nil => rfl
  | cons p s ih => rw [List.cons_append, Selector.classes, Selector.classes, ih, List.append_assoc]

mutual

theorem Part.classes_outline : (p : Part) → Selector.classes p.outline = p.classes
  | .combinator _ => rfl
  | .simple s => by cases s <;> rfl
  | .choice k ss => by
    have h := listClasses_outlines ss
    cases k <;> simp [Part.outline, Selector.classes, Part.classes, h]

theorem Selector.classes_outline :
    (s : List Part) → Selector.classes (Selector.outline s) = Selector.classes s
  | [] => rfl
  | p :: ps => by
    rw [Selector.outline, Selector.classes_append, p.classes_outline, Selector.classes_outline ps,
      Selector.classes]

theorem listClasses_outlines :
    (ss : List (List Part)) → listClasses (outlines ss) = listClasses ss
  | [] => rfl
  | s :: ss => by
    rw [outlines, listClasses, listClasses, Selector.classes_outline s, listClasses_outlines ss]

end

mutual

theorem Rule.classes_outline : (r : Rule) → classesOfRules r.outline = r.classes
  | .style ss _ rules _ | .nesting ss _ rules => by
    simp [Rule.outline, classesOfRules, Rule.classes, listClasses_outlines,
      classesOfRules_outlines rules]
  | .media _ rules | .supports _ rules | .container _ rules | .layer _ rules =>
    classesOfRules_outlines rules
  | .declarations _ | .layerNames _ | .scope _ _ _ | .startingStyle _ | .keyframes _ _ _
  | .fontFace _ | .page _ | .registered _ | .import_ _ | .unknown _ _ _ | .removed => rfl

theorem classesOfRules_outlines :
    (rules : List Rule) → classesOfRules (outlinesOfRules rules) = classesOfRules rules
  | [] => rfl
  | r :: rules => by
    rw [outlinesOfRules, classesOfRules_append, r.classes_outline, classesOfRules_outlines rules,
      classesOfRules]

end

/-! ## Sheets -/

namespace Sheet

theorem classes_outline (sheet : Sheet) : sheet.outline.classes = sheet.classes :=
  congrArg NameSet.ofList (classesOfRules_outlines sheet.rules)

theorem mem_classes_append (licenses : List String) (as bs : List Rule) :
    c ∈ (Sheet.mk licenses (as ++ bs)).classes ↔
      c ∈ (Sheet.mk licenses as).classes ∨ c ∈ (Sheet.mk licenses bs).classes := by
  simp only [classes, NameSet.mem_ofList, classesOfRules_append, List.mem_append]

/-- **The classes of a sheet** are those that occur in a selector of a style rule or nesting rule
within it. What is not in the outline of the sheet is of no account: comments, declarations,
other rules, and all components of selectors but classes, `:is()` and `:where()`. The classes of two
lists of rules, one behind the other, are those of both. -/
theorem mem_classes_iff_occurs :
    (∀ (sheet : Sheet) (c : String), c ∈ sheet.classes ↔
      ∃ r, Within sheet.rules r ∧ ∃ s, r.HasSelector s ∧ Selector.HasClass c s) ∧
    (∀ sheet : Sheet, sheet.outline.classes = sheet.classes) ∧
    ∀ (licenses : List String) (as bs : List Rule) (c : String),
      c ∈ (Sheet.mk licenses (as ++ bs)).classes ↔
        c ∈ (Sheet.mk licenses as).classes ∨ c ∈ (Sheet.mk licenses bs).classes := by
  refine ⟨fun sheet c => ?_, classes_outline, fun licenses as bs c => mem_classes_append ..⟩
  rw [classes, NameSet.mem_ofList, mem_classesOfRules_iff_occurs]

/-- Comments, strings, `:not()` and `@scope` name no classes, alternatives do. -/
example :
    (read ("/* .a \x7b\x7d */ .b\\:c:not(.d) \x7bcontent: '.e'\x7d [src='.f'] \x7b\x7d" ++
      "@media print \x7b:is(.g, :where(.h > p)) \x7b.i & \x7b\x7d\x7d\x7d @scope \x7b.j \x7b\x7d\x7d")
      ).toOption.map classes = some ⟨["b:c", "g", "h", "i"]⟩ := by
  decide +kernel

end Sheet

end StyleBuild.Css
