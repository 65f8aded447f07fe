import StyleBuild.Proofs.Css.Classes
import StyleBuild.Proofs.Css.Reading.Complete
import StyleBuild.Proofs.Stage.Pruning
import StyleBuild.Proofs.Theme.Rules
import StyleBuild.Stage.Generation

/-!
# Pruning what was generated

The rules that generation emits into a sheet behind complete rules are read as they are, and pruning
for the same content keeps their classes (`Pruning.run_generated`). It can be otherwise where the
text in front of the directive is not one of complete rules for a reader of CSS
(`Pruning.run_generated_comment`).
-/

namespace StyleBuild

open Css

/-! ## Plain themes -/

/-- Whether a theme has names that can stand in a selector, font families that can stand in quotes,
and list markers that are identifiers. -/
def Theme.isPlain (t : Theme) : Bool :=
  t.fonts.entries.all (fun (category, names) => isPlainName category && names.all isQuotable) &&
  t.markers.entries.all fun (token, keyword) => isPlainName token && isWord keyword.toList

theorem isPlainValue_word {v : List Char} (h : isWord v = true) : isPlainValue v = true := by
  obtain ⟨c, u, rfl, hc, -⟩ := isWord_head h
  have hword : Lexes [';'] (c :: u) [(.ident (String.ofList (c :: u)), c :: u)] :=
    .token (v := []) (readToken_word h (breaksName_cons (by decide) (by decide)) (by simp)) .done
  rw [isPlainValue, tokensBefore?_eq rfl (lexes_space hword (by simpa using hc))]
  rfl

theorem isPlainName_append {name prior : String} (hprior : isPlainName prior = true)
    (h : isPlainName name = true) : isPlainName (prior ++ name) = true := by
  rw [isPlainName, String.toList_append, List.all_append, Bool.and_eq_true]
  exact ⟨hprior, h⟩

/-- The rule of a utility is read as a rule, wherever it stands. -/
structure Utility.IsReadable (u : Utility) : Prop where
  name : isWord u.name.toList = true
  property : isWord u.property.toList = true
  known : ∃ q, Property.ofName? u.property = some q
  value : isPlainValue u.value.toList = true

theorem Theme.isReadable_utility {t : Theme} (h : t.isPlain = true) {u : Utility}
    (hu : u ∈ t.utilities) : u.IsReadable := by
  obtain ⟨hfonts, hmarkers⟩ := Bool.and_eq_true_iff.1 h
  obtain ⟨hproperty, hknown⟩ := property_utility hu
  have hplain : isPlainName u.name = true ∧ isPlainValue u.value.toList = true := by
    rcases utility_cases hu with ⟨category, names, hmem, rfl⟩ | ⟨token, keyword, hmem, rfl⟩
    · obtain ⟨hname, hnames⟩ := Bool.and_eq_true_iff.1 (List.all_eq_true.1 hfonts _ hmem)
      exact ⟨isPlainName_append (by decide) hname,
        isPlainValue_fontStack fun n hn => List.all_eq_true.1 hnames n hn⟩
    · obtain ⟨hname, hword⟩ := Bool.and_eq_true_iff.1 (List.all_eq_true.1 hmarkers _ hmem)
      exact ⟨isPlainName_append (by decide) hname, isPlainValue_word hword⟩
  exact ⟨isWord_utility hu hplain.1, hproperty, hknown, hplain.2⟩

/-! ## Emitted rules -/

/-- A rule for the class of a utility, with one declaration of its property. -/
def Utility.IsReadAs (u : Utility) (r : Rule) : Prop :=
  ∃ d : Declaration, d.property = .ofName u.property ∧
    r = .style [[.simple (.cls u.name)]] ⟨[d], []⟩ [] .none

theorem customName?_of_property {d : Declaration} {q : Property} (h : d.property = .known q) :
    d.customName? = none := by
  cases d <;> first | rfl | cases h

/-- In the rule of a utility, its class has a declaration. -/
theorem Utility.IsReadAs.on {u : Utility} {r : Rule} (h : u.IsReadAs r) (hu : u.IsReadable) :
    (Mark.selector [.simple (.cls u.name)] none).On r := by
  obtain ⟨d, hd, rfl⟩ := h
  obtain ⟨q, hq⟩ := hu.known
  rw [PropertyId.ofName, hq] at hd
  exact ⟨⟨_, List.mem_singleton_self _, .refl _⟩, d, by simp [Block.all],
    customName?_of_property hd⟩

theorem Utility.IsReadAs.classes_eq {u : Utility} {r : Rule} (h : u.IsReadAs r) :
    r.classes = [u.name] := by
  obtain ⟨d, -, rfl⟩ := h
  rfl

theorem classesOfRules_of_isReadAs {us : List Utility} {emitted : List Rule}
    (h : List.Forall₂ Utility.IsReadAs us emitted) :
    classesOfRules emitted = us.map Utility.name := by
  induction h with
  | nil => rfl
  | cons hr _ ih => rw [classesOfRules, hr.classes_eq, ih, List.map_cons, List.singleton_append]

theorem exists_rule_of_isReadAs {us : List Utility} {emitted : List Rule}
    (h : List.Forall₂ Utility.IsReadAs us emitted) {u : Utility} (hu : u ∈ us) :
    ∃ r ∈ emitted, u.IsReadAs r := by
  induction h with
  | nil => cases hu
  | cons hr _ ih =>
    rcases List.mem_cons.1 hu with rfl | hu
    · exact ⟨_, List.mem_cons_self, hr⟩
    · obtain ⟨r, hmem, hr⟩ := ih hu
      exact ⟨r, List.mem_cons_of_mem _ hmem, hr⟩

section

variable {progress : Progress} {done rules : List Rule} {p : Position} {u : Utility}
  {us : List Utility} {y : List Char}

theorem rulesFrom_line (hy : ∀ d ∈ y.head?, isSpace d = false) :
    rulesFrom true progress done .nothing (componentsFrom p ('\n' :: y)) =
      rulesFrom true progress done .nothing (componentsFrom (p.advance 1 ('\n' :: y)) y) := by
  obtain ⟨stop, rest, hall, hrest⟩ :=
    (stands_blank (u := ['\n']) (by decide) (by decide) hy p).componentsFrom_append
  rw [List.singleton_append] at hall hrest
  have hrest : componentsFrom (p.advance 1 ('\n' :: y)) y = .ofList stop rest := hrest
  rw [hall, hrest]
  rfl

theorem rulesFrom_utility (hu : u.IsReadable) :
    ∃ r, u.IsReadAs r ∧ rulesFrom true progress done .nothing (componentsFrom p (u.core ++ y)) =
      rulesFrom true .body (r :: done) .nothing
        (componentsFrom (p.advance u.core.length (u.core ++ y)) y) := by
  obtain ⟨q, hq⟩ := hu.known
  obtain ⟨cs, hcore, d, hd, hrule⟩ := stands_core hu.name hu.property hq hu.value p y
  obtain ⟨stop, rest, hall, hrest⟩ := hcore.componentsFrom_append
  refine ⟨_, ⟨d, by rw [hd, PropertyId.ofName, hq], rfl⟩, ?_⟩
  rw [hall, hrest]
  exact hrule true progress done stop rest

theorem dropCharset_utility (hu : u.IsReadable) :
    (componentsFrom p (u.core ++ y)).dropCharset = componentsFrom p (u.core ++ y) := by
  obtain ⟨q, hq⟩ := hu.known
  obtain ⟨cs, hcore, -⟩ := stands_core hu.name hu.property hq hu.value p y
  obtain ⟨stop, rest, hall, -⟩ := hcore.componentsFrom_append
  rw [hall]
  rfl

/-- The rules of utilities, each of them up to the end of its line. -/
def rulesOf (us : List Utility) : List Char := us.flatMap fun u => u.core ++ ['\n']

theorem rulesOf_cons_append (u : Utility) (us : List Utility) (y : List Char) :
    rulesOf (u :: us) ++ y = u.core ++ '\n' :: (rulesOf us ++ y) := by
  simp [rulesOf]

theorem head_rulesOf (hus : us ≠ []) : ∀ d ∈ (rulesOf us ++ y).head?, isSpace d = false := by
  obtain ⟨u, us, rfl⟩ := List.exists_cons_of_ne_nil hus
  rw [rulesOf_cons_append, Utility.core]
  simp
  decide

/-- The rules of utilities are read one after the other. -/
theorem rulesFrom_utilities (progress : Progress) (done : List Rule) (p : Position) (y : List Char)
    (hus : ∀ u ∈ us, u.IsReadable) :
    ∃ emitted progress' p' z, List.Forall₂ Utility.IsReadAs us emitted ∧
      rulesFrom true progress done .nothing (componentsFrom p (rulesOf us ++ y)) =
        rulesFrom true progress' (emitted.reverse ++ done) .nothing (componentsFrom p' z) := by
  induction us generalizing progress done p with
  | nil => exact ⟨[], progress, p, y, .nil, rfl⟩
  | cons u us ih =>
    obtain ⟨r, hr, hfirst⟩ : ∃ r, u.IsReadAs r ∧ rulesFrom true progress done .nothing
        (componentsFrom p (u.core ++ '\n' :: (rulesOf us ++ y))) = _ :=
      rulesFrom_utility (hus u (by simp))
    rw [rulesOf_cons_append, hfirst]
    by_cases hnil : us = []
    · subst hnil
      exact ⟨[r], .body, _, _, .cons hr .nil, rfl⟩
    · rw [rulesFrom_line (head_rulesOf hnil)]
      obtain ⟨emitted, progress', p', z, hemitted, hrest⟩ :=
        ih _ _ _ fun u hu => hus u (by simp [hu])
      refine ⟨r :: emitted, progress', p', z, .cons hr hemitted, ?_⟩
      rw [hrest, List.reverse_cons, List.append_assoc, List.singleton_append]

/-- The rules of utilities that stand behind complete rules. -/
theorem readRules_utilities {front : List Char} (hfront : IsComplete front)
    (hus : ∀ u ∈ us, u.IsReadable)
    (h : readRules (components (front ++ (rulesOf us ++ y))) = .ok rules) :
    ∃ before emitted behind, rules = before ++ emitted ++ behind ∧
      List.Forall₂ Utility.IsReadAs us emitted := by
  by_cases hnil : us = []
  · subst hnil
    exact ⟨rules, [], [], by simp, .nil⟩
  obtain ⟨cs, hcs, hsettled⟩ := stands_of_isComplete hfront (head_rulesOf hnil)
    (p := ⟨0, 1, front ++ (rulesOf us ++ y)⟩) rfl
  obtain ⟨stop, rest, hall, hrest⟩ := hcs.componentsFrom_append
  rw [components_eq, hall] at h
  generalize Position.advance _ front.length _ = p at hrest
  have hdrop : (Components.ofList stop rest).dropCharset = .ofList stop rest := by
    obtain ⟨u, us, rfl⟩ := List.exists_cons_of_ne_nil hnil
    rw [← hrest, rulesOf_cons_append]
    exact dropCharset_utility (hus u (by simp))
  obtain ⟨progress, before, hbehind⟩ := readRules_of_isSettled hdrop hsettled h
  obtain ⟨emitted, progress', p', z, hemitted, hrun⟩ :=
    rulesFrom_utilities progress before p y hus
  rw [← hrest, hrun] at hbehind
  obtain ⟨behind, rfl, -⟩ := rulesFrom_done hbehind
  exact ⟨before.reverse, emitted, behind, by simp, hemitted⟩

end

/-! ## Generation -/

namespace Generation

/-- The utilities whose rules are generated. -/
def emitted (theme : Theme) (safelist : NameSet) (ctx : StageContext) : List Utility :=
  theme.utilities.filter fun u => safelist.contains u.name || ctx.uses u.name

/-- What stands in front of the first directive for utilities, without the other directives. -/
def front : List Directive.Piece → List Char
  | [] => []
  | .other t :: ps => t ++ front ps
  | .directive layer _ :: ps => if layer = utilitiesLayer then [] else front ps

theorem toList_generated (theme : Theme) (safelist : NameSet) (ctx : StageContext) :
    (generated theme safelist ctx).toList = rulesOf (emitted theme safelist ctx) := by
  rw [generated, rulesOf, emitted]
  generalize theme.utilities.filter _ = us
  induction us with
  | nil => rfl
  | cons u us ih => simp [Utility.toList_rule, ih]

/-- The generated text stands behind what is in front of the first directive for utilities, or of
the end. -/
theorem replace_eq (text : List Char) (ps : List Directive.Piece) :
    replace text false ps = (front ps, false) ∨
      ∃ back, replace text false ps = (front ps ++ (text ++ back), true) := by
  have hdone : ∀ ps : List Directive.Piece, (replace text true ps).2 = true := by
    intro ps
    induction ps with
    | nil => rfl
    | cons p ps ih => cases p <;> simp [replace, ih]
  induction ps with
  | nil => exact .inl rfl
  | cons p ps ih =>
    cases p with
    | other t =>
      rcases ih with h | ⟨back, h⟩
      · exact .inl (by simp [replace, front, h])
      · exact .inr ⟨back, by simp [replace, front, h]⟩
    | directive layer t =>
      rw [replace, front]
      by_cases hl : layer = utilitiesLayer
      · rw [if_pos ⟨hl, rfl⟩, if_pos hl, hdone]
        exact .inr ⟨_, rfl⟩
      · rw [if_neg (by simp [hl]), if_neg hl]
        exact ih

theorem expand_eq (text : List Char) (ps : List Directive.Piece) :
    ∃ line back, isSpacing line = true ∧ expand text ps = front ps ++ line ++ (text ++ back) := by
  rcases replace_eq text ps with h | ⟨back, h⟩
  · simp only [expand, h]
    split
    · next htext =>
      rw [List.isEmpty_iff.1 htext]
      exact ⟨[], [], rfl, by simp⟩
    · unfold appendOnNewLine
      split
      · exact ⟨[], [], rfl, by simp⟩
      · exact ⟨['\n'], [], by decide, by simp⟩
  · exact ⟨[], back, rfl, by simp [expand, h]⟩

theorem run_eq_ok {theme : Theme} {safelist : NameSet} {ctx : StageContext} {css mid : String}
    (h : (run theme safelist ctx css).result = .ok mid) :
    mid.toList = expand (rulesOf (emitted theme safelist ctx)) (Directive.pieces css.toList) := by
  unfold run at h
  dsimp only at h
  split at h
  · cases h
  · obtain rfl := Except.ok.inj h
    rw [String.toList_ofList, toList_generated]

end Generation

/-! ## Pruning -/

namespace Pruning

section

variable {theme : Theme} {safelist allowed : NameSet} {content : Option Scan} {i j : Nat}
  {css mid out : String}

/-- **Pruning keeps what was generated.** The rules that generation emits for a plain theme behind
complete rules are read as they are, and if pruning sees the same content and allows what is on the
safelist, their classes are in the sheet that is printed. A class that is neither used nor allowed
is in it only if the sheet around the emitted rules names it. -/
theorem run_generated (htheme : theme.isPlain = true)
    (hallowed : ∀ n, safelist.contains n = true → allowed.contains n = true)
    (hfront : IsComplete (Generation.front (Directive.pieces css.toList)))
    (hgenerated : (Generation.run theme safelist ⟨i, content⟩ css).result = .ok mid)
    (hpruned : (run allowed ⟨j, content⟩ mid).result = .ok out) :
    ∃ sheet unused before emitted behind, readSheet mid = .ok sheet ∧
      sheet.rules = before ++ emitted ++ behind ∧
      List.Forall₂ Utility.IsReadAs (Generation.emitted theme safelist ⟨i, content⟩) emitted ∧
      out = (sheet.normalize { unused }).print { layout := .pretty } ∧
      (∀ u ∈ Generation.emitted theme safelist ⟨i, content⟩,
        u.name ∈ (sheet.normalize { unused }).classes) ∧
      ∀ n, (⟨j, content⟩ : StageContext).uses n = false → allowed.contains n = false →
        n ∈ (sheet.normalize { unused }).classes →
          n ∈ classesOfRules before ++ classesOfRules behind := by
  obtain ⟨sheet, hsheet, hout⟩ := run_eq_ok hpruned
  obtain ⟨line, back, hline, hmid⟩ := Generation.expand_eq
    (rulesOf (Generation.emitted theme safelist ⟨i, content⟩)) (Directive.pieces css.toList)
  have hreadable : ∀ u ∈ Generation.emitted theme safelist ⟨i, content⟩, u.IsReadable :=
    fun u hu => Theme.isReadable_utility htheme (List.mem_of_mem_filter hu)
  have hneeded : ∀ u ∈ Generation.emitted theme safelist ⟨i, content⟩,
      (⟨j, content⟩ : StageContext).uses u.name = true ∨ allowed.contains u.name = true := by
    intro u hu
    have h := (List.mem_filter.1 hu).2
    rw [Bool.or_eq_true] at h
    exact h.symm.imp_right (hallowed _)
  have hrules := readSheet_eq_ok hsheet
  rw [Generation.run_eq_ok hgenerated, hmid] at hrules
  obtain ⟨before, emitted, behind, hparts, hemitted⟩ :=
    readRules_utilities (hfront.append hline) hreadable hrules
  refine ⟨sheet, _, before, emitted, behind, hsheet, hparts, hemitted, hout.symm, ?_, ?_⟩
  · intro u hu
    obtain ⟨r, hr, hread⟩ := exists_rule_of_isReadAs hemitted hu
    have hmem : r ∈ sheet.rules := by simp [hparts, hr]
    refine Sheet.mem_classes_normalize hmem (hread.on (hreadable u hu)) ?_
    by_contra hc
    obtain ⟨-, huses, hallow, -⟩ := contains_unusedIn.1 (Bool.not_eq_false _ ▸ hc)
    rcases hneeded u hu with h | h
    · exact Bool.false_ne_true (huses.symm.trans h)
    · exact Bool.false_ne_true (hallow.symm.trans h)
  · intro n huses hallow hn
    have hclass := NameSet.mem_ofList.1 (Sheet.mem_classes_of_normalize rfl hn)
    rw [hparts, classesOfRules_append, classesOfRules_append, classesOfRules_of_isReadAs hemitted,
      List.mem_append, List.mem_append] at hclass
    rw [List.mem_append]
    rcases hclass with (h | h) | h
    · exact .inl h
    · obtain ⟨u, hu, rfl⟩ := List.mem_map.1 h
      rcases hneeded u hu with h | h
      · exact absurd (huses.symm.trans h) Bool.false_ne_true
      · exact absurd (hallow.symm.trans h) Bool.false_ne_true
    · exact .inr h

end

/-- A theme with one font stack. -/
def sansTheme : Theme := Theme.empty.withFonts "sans" ["Inter", "Open Sans"]

/-- The class of the font stack. -/
def sansList : NameSet := .ofList ["font-sans"]

/-- A generated rule behind another one that is pruned. -/
theorem run_generated_sans :
    ∃ sheet unused,
      readSheet (".a\x7bcolor:red\x7d\n" ++
        ".font-sans \x7b\n  font-family: Inter, \"Open Sans\";\n\x7d\n") = .ok sheet ∧
      ".font-sans \x7b\n  font-family: Inter, Open Sans;\n\x7d\n" =
        (sheet.normalize { unused }).print { layout := .pretty } ∧
      "font-sans" ∈ (sheet.normalize { unused }).classes ∧
      ("a" ∈ (sheet.normalize { unused }).classes → "a" ∈ sheet.classes) := by
  have hfront : IsComplete (Generation.front (Directive.pieces
      ".a\x7bcolor:red\x7d\n@tailwind utilities;".toList)) :=
    .inr ⟨".a\x7bcolor:red".toList, '\x7d', ['\n'], by decide +kernel, by decide +kernel, by decide⟩
  have hgenerated : (Generation.run sansTheme sansList ⟨0, some {}⟩
      ".a\x7bcolor:red\x7d\n@tailwind utilities;").result = .ok (".a\x7bcolor:red\x7d\n" ++
        ".font-sans \x7b\n  font-family: Inter, \"Open Sans\";\n\x7d\n") := by
    decide +kernel
  have hpruned : (run sansList ⟨1, some {}⟩ (".a\x7bcolor:red\x7d\n" ++
      ".font-sans \x7b\n  font-family: Inter, \"Open Sans\";\n\x7d\n")).result =
        .ok ".font-sans \x7b\n  font-family: Inter, Open Sans;\n\x7d\n" := by
    decide +kernel
  obtain ⟨sheet, unused, before, emitted, behind, hsheet, hparts, -, hout, hkeeps, hothers⟩ :=
    run_generated (by decide +kernel) (fun _ h => h) hfront hgenerated hpruned
  have hemitted : ⟨"font-sans", "font-family", "Inter, \"Open Sans\""⟩ ∈
      Generation.emitted sansTheme sansList ⟨0, some {}⟩ := by
    decide +kernel
  refine ⟨sheet, unused, hsheet, hout, hkeeps _ hemitted, fun ha => ?_⟩
  have hmem := hothers "a" (by decide +kernel) (by decide +kernel) ha
  rw [List.mem_append] at hmem
  refine NameSet.mem_ofList.2 ?_
  rw [hparts, classesOfRules_append, classesOfRules_append, List.mem_append, List.mem_append]
  exact hmem.imp_left .inl

/-- The text of a directive in a comment is replaced behind an escaped quote, so that the generated
rules are in the comment. -/
theorem run_generated_comment :
    IsComplete ".a\\\"\x7b color: red; /* \" @tailwind utilities; */ \x7d".toList ∧
    (Generation.emitted sansTheme sansList ⟨0, some {}⟩).map Utility.name = ["font-sans"] ∧
    ((Generation.run sansTheme sansList ⟨0, some {}⟩
        ".a\\\"\x7b color: red; /* \" @tailwind utilities; */ \x7d").result.bind
      fun mid => (run sansList ⟨1, some {}⟩ mid).result) = .ok "\n" ∧
    (readSheet "\n").map (fun sheet => sheet.classes.names) = .ok [] := by
  refine ⟨.inr ⟨".a\\\"\x7b color: red; /* \" @tailwind utilities; */ ".toList, '\x7d', [], ?_, ?_,
    ?_⟩, ?_, ?_, ?_⟩
  · decide +kernel
  · decide +kernel
  · decide +kernel
  · decide +kernel
  · decide +kernel
  · decide +kernel

end Pruning

end StyleBuild
