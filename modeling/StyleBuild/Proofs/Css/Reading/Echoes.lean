import StyleBuild.Proofs.Css.Reading.Lines

/-!
# Rules that read back

In a setting without targets rules are printed one after the other. Inside of a style rule they are
read as they are if each of them is (`readsAs_inside`), and so is the whole inside of a style rule,
its declarations first (`readsAs_bodyText`).

`Rule.Echoes` says that the parts of a rule are printed as texts that are read as the parts:
selectors, declarations and what at-rules say before their blocks, at every depth. Then the rule is
printed as a text that is read as the rule (`Rule.Echoes.echoesAt`). No two lists of declarations
may stand next to each other in it, and in compact layout no media query that always holds may be
left out.
-/

namespace StyleBuild.Css

/-! ## Settings without targets -/

/-- The setting is one without targets, in which nothing stands for something else. -/
structure Printing.IsPlain (p : Printing) : Prop where
  targets : p.targets = none
  vendor : p.vendor = .none
  parent : p.parent = none

namespace Printing.IsPlain

variable {p : Printing} (hp : p.IsPlain)
include hp

theorem flattens_eq : p.flattens = false := by
  rw [Printing.flattens, hp.targets]
  rfl

theorem behind_eq (r : Rule) : p.behind r = p := by
  unfold Printing.behind
  split
  · obtain ⟨a, l, v, parent⟩ := p
    obtain rfl : v = .none := hp.vendor
    rfl
  · rfl

end Printing.IsPlain

/-! ## Lists of rules -/

section

variable {p : Printing} {depth : Nat} {edge : RuleEdge} {r : Rule} {rules : List Rule}

theorem rulesText_cons (hp : p.IsPlain) (hr : r ≠ .removed) :
    (rulesText p depth edge (r :: rules)).toList =
      (edge.text p.layout depth r.isLine).toList ++ ((r.print p depth).toList ++
        ((if r.isLoose p && !rules.isEmpty then [';'] else []) ++
          (rulesText p depth (if r.isLine then .line else .block) rules).toList)) := by
  rw [rulesText]
  · rw [hp.behind_eq]
    split <;> simp
  · exact hr

theorem IsRule.ne_removed {place : RulePlace} (h : IsRule place (r.print p depth).toList r) :
    r ≠ .removed := by
  rintro rfl
  obtain ⟨c, v, hcv, -⟩ := h.start
  cases hcv

theorem Rule.isLoose_eq_false (h : r.isDeclarations = false) : r.isLoose p = false := by
  cases r <;> first | rfl | cases h

/-- A rule is printed, at a place, as a text that is read as the rule; inside of a style rule this
may be some declarations. -/
def EchoesAt (place : RulePlace) (p : Printing) (depth : Nat) (r : Rule) : Prop :=
  (place = .style ∧ ∃ b, r = .declarations b ∧ b.items ≠ [] ∧ b.Echoes p) ∨
    r.isDeclarations = false ∧ IsRule place (r.print p depth).toList r

theorem toList_print_declarations {b : Block} (hp : p.IsPlain) (hb : b.items ≠ []) :
    ((Rule.declarations b).print p depth).toList =
      (joined p.layout depth (b.texts p)).toList ++ if p.layout = .pretty then [';'] else [] := by
  have hempty : b.isEmpty = false := by
    rw [← Bool.not_eq_true, Block.isEmpty_iff_items]
    exact hb
  rw [Rule.print, hp.flattens_eq]
  simp only [hempty, joined, String.toList_append]
  split <;> simp_all

/-- A list of declarations has a semicolon at the end unless it is the last rule in compact layout.
-/
theorem rulesText_declarations {b : Block} (hp : p.IsPlain) (hb : b.items ≠ []) :
    (rulesText p depth edge (.declarations b :: rules)).toList =
      (edge.text p.layout depth false).toList ++ ((joined p.layout depth (b.texts p)).toList ++
        ((if p.layout = .compact ∧ rules = [] then [] else [';']) ++
          (rulesText p depth .block rules).toList)) := by
  have hloose : (Rule.declarations b).isLoose p = (p.layout == .compact) := by
    rw [Rule.isLoose, hp.flattens_eq]
    simp
  rw [rulesText_cons hp (by simp), toList_print_declarations hp hb, hloose]
  rcases p.layout with _ | _ <;> rcases rules with _ | ⟨r, rules⟩ <;> simp [Rule.isLine]

/-- Rules are read inside of a style rule, up to its end. -/
theorem readsAs_inside (hp : p.IsPlain) (h : ∀ r ∈ rules, EchoesAt .style p depth r) (s : Inside)
    (d : Nat) (y : List Char) :
    ReadsAs ((rulesText p depth edge rules).toList ++ (p.layout.newline d).toList) ('\x7d' :: y)
      (EndsStyle s (rules.foldl Inside.step s)) := by
  induction rules generalizing edge s with
  | nil =>
    rw [rulesText]
    exact (readsAs_spacing (isSpacing_newline _ _) (head_brace y)).mono fun _ h => h.endsStyle
  | cons r rules ih =>
    have hrest : ∀ edge, ReadsAs ((rulesText p depth edge rules).toList ++
        (p.layout.newline d).toList) ('\x7d' :: y) _ := fun _ =>
      ih (fun r hr => h r (by simp [hr])) (s.step r)
    rcases h r (by simp) with ⟨-, b, rfl, hb, hecho⟩ | ⟨hr, hrule⟩
    · have hitems := hecho.areItems
      obtain ⟨x, xs, hxs⟩ := List.exists_cons_of_ne_nil hb
      obtain ⟨t, ts, -, -, hts⟩ := List.forall₂_cons_right_iff.1 (hxs ▸ hitems)
      rw [hts] at hitems
      have hbare := startsBare_joined p.layout depth hitems
      rw [rulesText_declarations hp hb, hts]
      by_cases hopen : p.layout = .compact ∧ rules = []
      · obtain ⟨hl, rfl⟩ := hopen
        have hnewline : (p.layout.newline d).toList = [] := by rw [hl]; rfl
        have hline : ReadsAs (joined p.layout depth (t :: ts)).toList ('\x7d' :: y)
            (EndsStyle s _) := readsAs_joined_open hitems (ends_cons rfl)
        have hedge := hline.endsBehind (isSpacing_edge p.layout depth false edge) hbare.head
        simpa [hl, rulesText, Layout.newline, Inside.step] using hedge
      · have hline : ReadsAs ((joined p.layout depth (t :: ts)).toList ++ [';'])
            ((rulesText p depth .block rules).toList ++ (p.layout.newline d).toList ++ '\x7d' :: y)
            (LeadsStyle s _) := readsAs_joined_closed hitems _
        have hall := hline.append (hrest .block) fun _ _ has hbs => has.ends hbs
        rw [if_neg hopen]
        have hedge := hall.endsBehind (isSpacing_edge p.layout depth false edge)
          (by rw [List.append_assoc, List.append_assoc]; exact hbare.head)
        simpa using hedge
    · have hlead := (hrule.reads _).append (hrest (if r.isLine then .line else .block))
        (R := EndsStyle s ((r :: rules).foldl Inside.step s)) (by
          intro as bs has hbs
          rw [List.foldl_cons]
          rw [Inside.step_of_not_declarations hr] at hbs ⊢
          exact (has s).ends hbs)
      rw [rulesText_cons hp hrule.ne_removed, Rule.isLoose_eq_false hr]
      have hedge := hlead.endsBehind (isSpacing_edge p.layout depth r.isLine edge)
        (by rw [List.append_assoc]; exact hrule.start.head)
      simpa using hedge

theorem startsBare_rulesText {place : RulePlace} (hp : p.IsPlain)
    (h : ∀ r ∈ rules, EchoesAt place p depth r) (hne : rules ≠ []) :
    StartsBare (rulesText p depth .start rules).toList := by
  obtain ⟨r, rules, rfl⟩ := List.exists_cons_of_ne_nil hne
  rcases h r (by simp) with ⟨-, b, rfl, hb, hecho⟩ | ⟨hr, hrule⟩
  · have hitems := hecho.areItems
    obtain ⟨x, xs, hxs⟩ := List.exists_cons_of_ne_nil hb
    obtain ⟨t, ts, -, -, hts⟩ := List.forall₂_cons_right_iff.1 (hxs ▸ hitems)
    rw [rulesText_declarations hp hb, hts]
    exact (startsBare_joined _ _ (hts ▸ hitems)).append _
  · rw [rulesText_cons hp hrule.ne_removed]
    exact hrule.start.append _

/-- Rules are read inside of an at-rule in a style rule, between the lines of its braces. -/
theorem readsAs_inside_lines (hp : p.IsPlain) (h : ∀ r ∈ rules, EchoesAt .style p depth r)
    (s : Inside) {w : List Char} (hw : isSpacing w = true) (d : Nat) (y : List Char) :
    ReadsAs (w ++ ((rulesText p depth .start rules).toList ++ (p.layout.newline d).toList))
      ('\x7d' :: y) (EndsStyle s (rules.foldl Inside.step s)) := by
  by_cases hne : rules = []
  · subst hne
    rw [rulesText]
    exact (readsAs_spacing ((isSpacing_append (isSpacing_newline p.layout d)).1 hw)
      (head_brace y)).mono fun _ h => h.endsStyle
  · refine (readsAs_inside hp h s d y).endsBehind hw ?_
    rw [List.append_assoc]
    exact (startsBare_rulesText hp h hne).head

/-! ## Blocks -/

variable {block : Block} {l : Layout}

/-- The lines of a block whose declarations all have their semicolons. -/
theorem readsAs_printLines (h : block.Echoes p) (l : Layout) (depth : Nat) (y : List Char) :
    ReadsAs (printLines l depth true (block.texts p)).toList y
      (LeadsStyle ({}, []) (block, [])) := by
  have hitems := h.areItems
  rw [← foldl_declare_block block]
  generalize block.texts p = ts at hitems ⊢
  rcases ts with _ | ⟨t, ts⟩
  · rw [List.forall₂_nil_left_iff.1 hitems]
    exact readsAs_nil fun _ _ => rfl
  · rw [printLines_eq, if_pos rfl]
    refine (readsAs_joined_closed hitems y).leadsBehind (isSpacing_newline l depth) ?_
    rw [List.append_assoc]
    exact (startsBare_joined l depth hitems).head

/-- The lines of a block in which the last declaration may have no semicolon. -/
theorem readsAs_printLines_open (h : block.Echoes p) (l : Layout) (depth : Nat) {y : List Char}
    (hy : Ends y) :
    ReadsAs (printLines l depth false (block.texts p)).toList y
      (EndsStyle ({}, []) (block, [])) := by
  have hitems := h.areItems
  rw [← foldl_declare_block block]
  generalize block.texts p = ts at hitems ⊢
  rcases ts with _ | ⟨t, ts⟩
  · rw [List.forall₂_nil_left_iff.1 hitems]
    exact readsAs_nil fun _ => rfl
  · rw [printLines_eq, if_neg Bool.false_ne_true, List.append_nil]
    exact (readsAs_joined_open hitems hy).endsBehind (isSpacing_newline l depth)
      (startsBare_joined l depth hitems).head

/-- What stands between the braces of a printed style rule. -/
def bodyText (p : Printing) (depth : Nat) (block : Block) (rules : List Rule) : List Char :=
  if rules.isEmpty then
    (printLines p.layout (depth + 1) (p.layout = .pretty) (block.texts p)).toList ++
      (p.layout.newline depth).toList
  else
    (printLines p.layout (depth + 1) true (block.texts p)).toList ++
      (((if block.isEmpty then "" else p.layout.lineEnd).toList ++
        (p.layout.newline (depth + 1)).toList) ++
          ((rulesText p (depth + 1) .start rules).toList ++ (p.layout.newline depth).toList))

/-- The inside of a printed style rule is read as its declarations and rules. -/
theorem readsAs_bodyText (hp : p.IsPlain) (hblock : block.Echoes p)
    (h : ∀ r ∈ rules, EchoesAt .style p (depth + 1) r) (hapart : areApart rules = true)
    (hfirst : rules.head?.any Rule.isDeclarations = false) (y : List Char) :
    ReadsAs (bodyText p depth block rules) ('\x7d' :: y)
      (EndsStyle ({}, []) (block, rules.reverse)) := by
  unfold bodyText
  split
  · next hempty =>
    obtain rfl := List.isEmpty_iff.1 hempty
    cases hl : p.layout with
    | pretty =>
      exact (readsAs_printLines hblock _ _ _).endsBefore (isSpacing_newline _ _) (head_brace y)
    | compact =>
      have hopen := readsAs_printLines_open hblock .compact (depth + 1)
        (ends_cons (c := '\x7d') (y := y) rfl)
      simpa [Layout.newline] using hopen
  · have hspace : isSpacing ((if block.isEmpty then "" else p.layout.lineEnd).toList ++
        (p.layout.newline (depth + 1)).toList) = true := by
      refine (isSpacing_append (isSpacing_newline _ _)).1 ?_
      split
      · rfl
      · exact isSpacing_lineEnd _
    have hrules := readsAs_inside_lines hp h (block, []) hspace depth y
    rw [foldl_step_block hapart hfirst] at hrules
    exact (readsAs_printLines hblock _ _ _).append hrules fun _ _ has hbs => has.ends hbs

end

end StyleBuild.Css

namespace StyleBuild.Css

/-! ## At-rules around rules -/

/-- An at-rule around rules: what stands before its block, what that says, the setting in which the
rules inside are printed, and the rules. -/
structure AtShell where
  start : String
  head : AtHead
  inner : Printing
  rules : List Rule

/-- The at-rule that a rule is printed as, if it is one around rules. -/
def Rule.atShell? (p : Printing) : Rule → Option AtShell
  | .media queries rules =>
    if p.layout = .compact ∧ queries.all MediaQuery.alwaysMatches then none
    else some ⟨"@media " ++ mediaText p queries ++ p.layout.space, .media queries, p, rules⟩
  | .supports c rules =>
    some ⟨"@supports " ++ c.text (SupportsTest.printer p) ++ p.layout.space, .supports c,
      { p with granted := p.granted ++ SupportsQuery.grants c }, rules⟩
  | .container q rules =>
    some ⟨"@container " ++ q.text p ++ p.layout.space, .container q, p, rules⟩
  | .layer name rules =>
    some ⟨"@layer" ++ (match name with
      | some n => " " ++ n.text
      | none => "") ++ p.layout.space, .layer name.toList, p, rules⟩
  | .scope root limit rules =>
    some ⟨scopeHead p root limit, .scope root limit, { p with parent := none }, rules⟩
  | .startingStyle rules => some ⟨"@starting-style" ++ p.layout.space, .startingStyle, p, rules⟩
  | _ => none

section

variable {p : Printing} {r : Rule} {shell : AtShell} {depth : Nat}

theorem Rule.print_of_atShell (h : r.atShell? p = some shell) (depth : Nat) :
    r.print p depth = shell.start ++
      bracedRules p.layout depth (rulesText shell.inner (depth + 1) .start shell.rules) := by
  cases r
  case media queries rules =>
    rw [atShell?] at h
    split at h
    · cases h
    · next hshown =>
      obtain rfl := Option.some.inj h
      rw [print, if_neg hshown]
  case layer name rules =>
    obtain rfl := Option.some.inj h
    cases name <;> rw [print]
  all_goals first | (obtain rfl := Option.some.inj h; rw [print]) | cases h

theorem Rule.withBlock_of_atShell (h : r.atShell? p = some shell) {place : RulePlace}
    {body : Components} {rules : Unit → Except SyntaxError (List Rule)}
    {style : Unit → Except SyntaxError (Block × List Rule)}
    (hinside : (if place = .style then (style ()).map fun (b, rs) => looseFirst b rs
      else rules ()) = .ok shell.rules) :
    shell.head.withBlock place body rules style = .ok r := by
  cases r
  case media queries rules =>
    rw [atShell?] at h
    split at h
    · cases h
    · obtain rfl := Option.some.inj h
      simp only [AtHead.withBlock, hinside]
      rfl
  case layer name rules =>
    obtain rfl := Option.some.inj h
    cases name <;> simp only [AtHead.withBlock, Option.toList, hinside] <;> rfl
  all_goals first
    | (obtain rfl := Option.some.inj h; simp only [AtHead.withBlock, hinside]; rfl)
    | cases h

theorem Printing.IsPlain.inner (hp : p.IsPlain) (h : r.atShell? p = some shell) :
    shell.inner.IsPlain ∧ shell.inner.layout = p.layout := by
  cases r
  case media queries rules =>
    rw [Rule.atShell?] at h
    split at h
    · cases h
    · obtain rfl := Option.some.inj h
      exact ⟨hp, rfl⟩
  all_goals first
    | (obtain rfl := Option.some.inj h
       exact ⟨⟨hp.targets, hp.vendor, by first | exact hp.parent | rfl⟩, rfl⟩)
    | cases h

theorem Rule.isLine_of_atShell (h : r.atShell? p = some shell) : r.isLine = false := by
  cases r <;> first | rfl | cases h

theorem Rule.isDeclarations_of_atShell (h : r.atShell? p = some shell) :
    r.isDeclarations = false := by
  cases r <;> first | rfl | cases h

end

/-! ## Lists of rules -/

/-- Whether no `@import` of a list stands behind the body of a sheet. -/
def importsFirst : Progress → List Rule → Bool
  | _, [] => true
  | progress, r :: rules =>
    !(progress = .body && r.isImport) && importsFirst (progress.behind (some r)) rules

/-- How far a sheet is behind rules. -/
def Progress.behindAll (progress : Progress) (rules : List Rule) : Progress :=
  rules.foldl (fun progress r => progress.behind (some r)) progress

section

variable {p : Printing} {depth : Nat} {edge : RuleEdge} {r : Rule} {rules : List Rule} {top : Bool}
  {progress : Progress} {w y : List Char}

theorem EchoesAt.isRule (h : EchoesAt (.ofTop top) p depth r) :
    r.isDeclarations = false ∧ IsRule (.ofTop top) (r.print p depth).toList r := by
  rcases h with ⟨hplace, -⟩ | h
  · cases top <;> cases hplace
  · exact h

theorem IsRule.takes {u : List Char} (h : IsRule (.ofTop top) u r) (y : List Char) :
    ReadsAs u y (TakesRule top r) := by
  cases top <;> exact h.reads y

/-- Rules are read one after the other. -/
theorem readsAs_rules (top : Bool) (hp : p.IsPlain)
    (h : ∀ r ∈ rules, EchoesAt (.ofTop top) p depth r)
    (himports : top = true → importsFirst progress rules = true) (hw : isSpacing w = true)
    (hy : ∀ d ∈ y.head?, isSpace d = false) :
    ReadsAs ((rulesText p depth edge rules).toList ++ w) y
      (LeadsRules top progress (progress.behindAll rules) rules.reverse) := by
  induction rules generalizing edge progress with
  | nil =>
    rw [rulesText]
    exact (readsAs_spacing hw hy).mono fun _ h => h.leadsRules
  | cons r rules ih =>
    obtain ⟨hr, hrule⟩ := (h r (by simp)).isRule
    have hfirst : top = true → progress = .body → r.isImport = false := by
      intro htop hbody
      have himports := himports htop
      simp only [importsFirst, hbody, decide_true, Bool.true_and, Bool.and_eq_true,
        Bool.not_eq_true'] at himports
      exact himports.1
    have hrest : ReadsAs
        ((rulesText p depth (if r.isLine then .line else .block) rules).toList ++ w) y
        (LeadsRules top (progress.behind (some r)) _ rules.reverse) :=
      ih (fun r hr => h r (by simp [hr])) fun htop => (Bool.and_eq_true_iff.1 (himports htop)).2
    have hlead := (hrule.takes _).append hrest
      (R := LeadsRules top progress (progress.behindAll (r :: rules)) (r :: rules).reverse) (by
        intro as bs has hbs
        rw [List.reverse_cons]
        exact (has.2 progress hfirst).append hbs)
    rw [rulesText_cons hp hrule.ne_removed, Rule.isLoose_eq_false hr]
    have hedge := hlead.behindSpace (isSpacing_edge p.layout depth r.isLine edge)
      (by rw [List.append_assoc]; exact hrule.start.head)
      fun _ _ has hbs => by simpa using has.leadsRules.append hbs
    simpa using hedge

/-- Rules are read inside of an at-rule, between the lines of its braces. -/
theorem readsAs_rules_lines (progress : Progress) (hp : p.IsPlain)
    (h : ∀ r ∈ rules, EchoesAt .block p depth r) (hw : isSpacing w = true) (d : Nat)
    (y : List Char) :
    ReadsAs (w ++ ((rulesText p depth .start rules).toList ++ (p.layout.newline d).toList))
      ('\x7d' :: y) (LeadsRules false progress (progress.behindAll rules) rules.reverse) := by
  by_cases hne : rules = []
  · subst hne
    rw [rulesText]
    exact (readsAs_spacing ((isSpacing_append (isSpacing_newline p.layout d)).1 hw)
      (head_brace y)).mono fun _ h => h.leadsRules
  · have himports (htop : false = true) : importsFirst progress rules = true :=
      absurd htop Bool.false_ne_true
    refine (readsAs_rules false hp h himports (isSpacing_newline _ _)
      (head_brace y)).behindSpace hw ?_ fun _ _ has hbs => by simpa using has.leadsRules.append hbs
    rw [List.append_assoc]
    exact (startsBare_rulesText hp h hne).head

end

/-! ## Rules -/

/-- The place of what is inside of an at-rule. -/
def RulePlace.inside : RulePlace → RulePlace
  | .style => .style
  | _ => .block

/-- What an at-rule is printed with before its block is read as what it says. -/
def IsAtStart (place : RulePlace) (start : String) (head : AtHead) : Prop :=
  ∃ name w, start.toList = ('@' :: name.toList) ++ w ∧ isWord name.toList = true ∧
    name.toLower ≠ "charset" ∧ name.toLower ≠ "import" ∧ IsAtHead place name '\x7b' w head

/-- Rules whose parts are printed as texts that are read as the parts. -/
inductive Rule.Echoes : RulePlace → Printing → Nat → Rule → Prop
  | whole {place p depth r} : r.isDeclarations = false →
      IsRule place (r.print p depth).toList r → Echoes place p depth r
  | declarations {p depth block} : block.items ≠ [] → block.Echoes p →
      Echoes .style p depth (.declarations block)
  | style {place p depth ss block rules} :
      IsSelectors (if place = .style then .nested else .top)
        (selectorsText p ss ++ p.layout.space).toList ss →
      block.Echoes p → (∀ r ∈ rules, Echoes .style p (depth + 1) r) → areApart rules = true →
      rules.head?.any Rule.isDeclarations = false →
      Echoes place p depth (.style ss block rules .none)
  | nesting {p depth ss block rules} :
      IsAtStart .style ("@nest " ++ selectorsText p ss ++ p.layout.space) (.nest ss) →
      block.Echoes p → (∀ r ∈ rules, Echoes .style p (depth + 1) r) → areApart rules = true →
      rules.head?.any Rule.isDeclarations = false →
      Echoes .style p depth (.nesting ss block rules)
  | around {place p depth r shell} : r.atShell? p = some shell →
      IsAtStart place shell.start shell.head →
      (∀ r ∈ shell.rules, Echoes place.inside shell.inner (depth + 1) r) →
      (place = .style → areApart shell.rules = true) → Echoes place p depth r

section

variable {p : Printing} {depth : Nat} {ss : List Selector} {block : Block} {rules : List Rule}
  {place : RulePlace} {r : Rule}

theorem toList_styleText (hp : p.IsPlain) :
    (if rules.isEmpty then styleText p depth ss block (p.layout = .pretty) ""
      else if p.flattens then
        flatStyleText p depth ss block rules
          (rulesBehind { p with parent := some (.ofSelectors p ss) } depth .start rules)
      else nestedStyleText p depth ss block (rulesText p (depth + 1) .start rules)).toList =
      (selectorsText p ss ++ p.layout.space).toList ++
        '\x7b' :: (bodyText p depth block rules ++ ['\x7d']) := by
  rw [hp.flattens_eq, bodyText]
  split <;> simp [styleText, nestedStyleText]

theorem toList_print_style (hp : p.IsPlain) :
    ((Rule.style ss block rules .none).print p depth).toList =
      (selectorsText p ss ++ p.layout.space).toList ++
        '\x7b' :: (bodyText p depth block rules ++ ['\x7d']) := by
  have hvendor : { p with vendor := p.vendor } = p := rfl
  have hspellings : (Prefixes.none.isEmpty = true) := rfl
  rw [Rule.print, if_pos hspellings, List.map_singleton, separated]
  dsimp only
  rw [hvendor, ← toList_styleText hp]
  simp

theorem toList_print_nesting (hp : p.IsPlain) :
    ((Rule.nesting ss block rules).print p depth).toList =
      ("@nest " ++ selectorsText p ss ++ p.layout.space).toList ++
        '\x7b' :: (bodyText p depth block rules ++ ['\x7d']) := by
  rw [Rule.print, hp.parent, String.toList_append, toList_styleText hp]
  simp

theorem toList_bracedRules (l : Layout) (depth : Nat) (inner : String) :
    (bracedRules l depth inner).toList = '\x7b' :: ((l.newline (depth + 1)).toList ++
      (inner.toList ++ (l.newline depth).toList) ++ ['\x7d']) := by
  simp [bracedRules]

/-- An at-rule whose start and whose block are read. -/
theorem IsAtStart.isRule {start : String} {head : AtHead} {inner : List Char}
    (h : IsAtStart place start head) (hr : r.isLine = false)
    (hbody : ∀ y, ReadsAs inner ('\x7d' :: y) (MakesRule place head r)) :
    IsRule place (start.toList ++ '\x7b' :: (inner ++ ['\x7d'])) r := by
  obtain ⟨name, w, hstart, hname, hcharset, himport, hhead⟩ := h
  rw [hstart, List.append_assoc]
  exact isRule_atBlock hname hcharset himport hhead hr hbody

theorem makesRule_nesting {cs : List Component} (h : EndsStyle ({}, []) (block, rules.reverse) cs) :
    MakesRule .style (.nest ss) (.nesting ss block rules) cs := by
  intro stop
  rw [AtHead.withBlock, h stop, List.reverse_reverse]
  rfl

/-- The block of an at-rule around rules is read as the rules. -/
theorem readsAs_shell {shell : AtShell} (hshell : r.atShell? p = some shell) (hp : p.IsPlain)
    (h : ∀ r ∈ shell.rules, EchoesAt place.inside shell.inner (depth + 1) r)
    (hapart : place = .style → areApart shell.rules = true) (y : List Char) :
    ReadsAs ((p.layout.newline (depth + 1)).toList ++
      ((rulesText shell.inner (depth + 1) .start shell.rules).toList ++
        (p.layout.newline depth).toList)) ('\x7d' :: y) (MakesRule place shell.head r) := by
  obtain ⟨hinner, hlayout⟩ := hp.inner hshell
  rw [← hlayout]
  have hspace := isSpacing_newline shell.inner.layout (depth + 1)
  have hrules : (∀ r ∈ shell.rules, EchoesAt .block shell.inner (depth + 1) r) → place ≠ .style →
      ReadsAs ((shell.inner.layout.newline (depth + 1)).toList ++
        ((rulesText shell.inner (depth + 1) .start shell.rules).toList ++
          (shell.inner.layout.newline depth).toList)) ('\x7d' :: y)
        (MakesRule place shell.head r) := by
    intro h hplace
    refine (readsAs_rules_lines .body hinner h hspace depth y).mono ?_
    intro cs hcs stop
    refine Rule.withBlock_of_atShell hshell ?_
    have hall := hcs [] stop []
    rw [List.append_nil, List.append_nil] at hall
    rw [if_neg hplace, hall, Components.ofList, rulesFrom_end, List.reverse_reverse]
  cases place
  · exact hrules h (by simp)
  · exact hrules h (by simp)
  · refine (readsAs_inside_lines hinner h ({}, []) hspace depth y).mono fun cs hcs stop => ?_
    refine Rule.withBlock_of_atShell hshell ?_
    rw [if_pos rfl, hcs stop]
    exact congrArg Except.ok (foldl_step_looseFirst (hapart rfl))

/-- **Reading a printed rule.** A rule whose parts are read back is read back as a whole. -/
theorem Rule.Echoes.echoesAt (h : r.Echoes place p depth) (hp : p.IsPlain) :
    EchoesAt place p depth r := by
  induction h with
  | whole hr hrule => exact .inr ⟨hr, hrule⟩
  | declarations hb hblock => exact .inl ⟨rfl, _, rfl, hb, hblock⟩
  | style hss hblock _ hapart hfirst ih =>
    refine .inr ⟨rfl, ?_⟩
    rw [toList_print_style hp]
    exact isRule_style hss (readsAs_bodyText hp hblock (fun r hr => ih r hr hp) hapart hfirst)
  | nesting hstart hblock _ hapart hfirst ih =>
    refine .inr ⟨rfl, ?_⟩
    rw [toList_print_nesting hp]
    exact hstart.isRule rfl fun y => (readsAs_bodyText hp hblock (fun r hr => ih r hr hp) hapart
      hfirst y).mono fun _ => makesRule_nesting
  | around hshell hstart _ hapart ih =>
    refine .inr ⟨Rule.isDeclarations_of_atShell hshell, ?_⟩
    have hbody := readsAs_shell hshell hp (fun r hr => ih r hr (hp.inner hshell).1) hapart
    rw [Rule.print_of_atShell hshell, String.toList_append, toList_bracedRules]
    exact hstart.isRule (Rule.isLine_of_atShell hshell) hbody

end

end StyleBuild.Css
