import Mathlib.Data.List.Forall2
import StyleBuild.Proofs.Css.Reading.Texts

/-!
# Lines of declarations

Declarations that are printed on lines are read one after the other, whether the last one has a
semicolon (`readsAs_joined_closed`) or not (`readsAs_joined_open`). They make up the block that was
printed, in front of all rules (`foldl_declare_block`) and among rules (`foldl_step_block`).
-/

namespace StyleBuild.Css

/-! ## White space -/

theorem isSpacing_lineEnd (l : Layout) : isSpacing l.lineEnd.toList = true := by
  cases l <;> decide

theorem isSpacing_spaces (n : Nat) : isSpacing (List.replicate n ' ') = true := by
  induction n with
  | zero => rfl
  | succ n ih => rwa [List.replicate_succ, isSpacing_of_isSpace (by decide)]

theorem isSpacing_newline (l : Layout) (depth : Nat) :
    isSpacing (l.newline depth).toList = true := by
  cases l
  · simp only [Layout.newline, String.toList_append, String.toList_ofList]
    exact (isSpacing_append (isSpacing_spaces _)).1 rfl
  · rfl

theorem isSpacing_edge (l : Layout) (depth : Nat) (isLine : Bool) (edge : RuleEdge) :
    isSpacing (edge.text l depth isLine).toList = true := by
  have hline := isSpacing_newline l depth
  cases edge
  · rfl
  · rw [RuleEdge.text, String.toList_append]
    cases isLine
    · exact (isSpacing_append hline).1 (isSpacing_lineEnd l)
    · exact hline
  · rw [RuleEdge.text, String.toList_append]
    exact (isSpacing_append hline).1 (isSpacing_lineEnd l)

section

variable {u w y : List Char} {s s' : Inside}

theorem ReadsAs.behindSpace {P : List Component → Prop} (h : ReadsAs u y P)
    (hw : isSpacing w = true) (hu : ∀ d ∈ (u ++ y).head?, isSpace d = false)
    (hP : ∀ as bs, AreBlank as → P bs → P (as ++ bs)) : ReadsAs (w ++ u) y P :=
  (readsAs_spacing hw hu).append h hP

theorem ReadsAs.leadsBehind (h : ReadsAs u y (LeadsStyle s s')) (hw : isSpacing w = true)
    (hu : ∀ d ∈ (u ++ y).head?, isSpace d = false) : ReadsAs (w ++ u) y (LeadsStyle s s') :=
  h.behindSpace hw hu fun _ _ has hbs => has.leadsStyle.append hbs

theorem ReadsAs.endsBehind (h : ReadsAs u y (EndsStyle s s')) (hw : isSpacing w = true)
    (hu : ∀ d ∈ (u ++ y).head?, isSpace d = false) : ReadsAs (w ++ u) y (EndsStyle s s') :=
  h.behindSpace hw hu fun _ _ has hbs => has.leadsStyle.ends hbs

theorem ReadsAs.endsBefore (h : ReadsAs u (w ++ y) (LeadsStyle s s')) (hw : isSpacing w = true)
    (hy : ∀ d ∈ y.head?, isSpace d = false) : ReadsAs (u ++ w) y (EndsStyle s s') :=
  h.append (readsAs_spacing hw hy) fun _ _ has hbs => has.ends hbs.endsStyle

theorem head_brace (y : List Char) : ∀ d ∈ ('\x7d' :: y).head?, isSpace d = false := by
  simp
  decide

end

/-! ## Declarations -/

/-- The declarations of a block, and whether they are important. -/
def Block.items (b : Block) : List (Declaration × Bool) :=
  b.normal.map (·, false) ++ b.important.map (·, true)

theorem Block.texts_eq (p : Printing) (b : Block) :
    b.texts p = b.items.flatMap fun x => x.1.texts p x.2 := by
  simp [Block.texts, items, List.flatMap_append, List.flatMap_map]

theorem Block.isEmpty_iff_items (b : Block) : b.isEmpty = true ↔ b.items = [] := by
  simp [Block.isEmpty, items]

/-- A declaration is printed as one text, which is read as the declaration. -/
def EchoesItem (p : Printing) (x : Declaration × Bool) : Prop :=
  ∃ t, x.1.texts p x.2 = [t] ∧ IsItem t.toList x.1 x.2

/-- All declarations of a block are printed as texts that are read as them. -/
def Block.Echoes (p : Printing) (b : Block) : Prop := ∀ x ∈ b.items, EchoesItem p x

/-- Texts that are read as declarations. -/
def AreItems : List String → List (Declaration × Bool) → Prop :=
  List.Forall₂ fun t x => IsItem t.toList x.1 x.2

theorem Block.Echoes.areItems {p : Printing} {b : Block} (h : b.Echoes p) :
    AreItems (b.texts p) b.items := by
  rw [Block.texts_eq]
  suffices hitems : ∀ xs : List (Declaration × Bool), (∀ x ∈ xs, EchoesItem p x) →
      AreItems (xs.flatMap fun x => x.1.texts p x.2) xs from hitems _ h
  intro xs hxs
  induction xs with
  | nil => exact .nil
  | cons x xs ih =>
    obtain ⟨t, ht, hitem⟩ := hxs x (by simp)
    rw [List.flatMap_cons, ht]
    exact .cons hitem (ih fun x hx => hxs x (by simp [hx]))

/-- Declarations on lines, with semicolons between them. -/
def joined (l : Layout) (depth : Nat) (ts : List String) : String :=
  String.intercalate (";" ++ l.newline depth) ts

theorem joined_singleton (l : Layout) (depth : Nat) (t : String) :
    (joined l depth [t]).toList = t.toList := by
  simp [joined]

theorem joined_cons_cons (l : Layout) (depth : Nat) (t t' : String) (ts : List String) :
    (joined l depth (t :: t' :: ts)).toList =
      (t.toList ++ [';']) ++ ((l.newline depth).toList ++ (joined l depth (t' :: ts)).toList) := by
  simp [joined, String.toList_intercalate]

theorem printLines_eq (l : Layout) (depth : Nat) (closed : Bool) (t : String) (ts : List String) :
    (printLines l depth closed (t :: ts)).toList =
      (l.newline depth).toList ++ ((joined l depth (t :: ts)).toList ++
        if closed then [';'] else []) := by
  induction ts generalizing t with
  | nil => cases closed <;> simp [printLines, joined_singleton]
  | cons t' ts ih =>
    rw [printLines]
    · simp [ih, joined_cons_cons]
    · simp

section

variable {t : String} {ts : List String} {x : Declaration × Bool} {xs : List (Declaration × Bool)}
  {s : Inside} {l : Layout} {depth : Nat} {y : List Char}

theorem startsBare_joined (l : Layout) (depth : Nat) (h : AreItems (t :: ts) xs) :
    StartsBare (joined l depth (t :: ts)).toList := by
  cases h with
  | cons hitem _ =>
    rcases ts with _ | ⟨t', ts⟩
    · rw [joined_singleton]
      exact hitem.start
    · obtain ⟨c, v, hcv, hc⟩ := hitem.start
      rw [joined_cons_cons, hcv]
      exact ⟨c, _, rfl, hc⟩

/-- Declarations that all have their semicolons. -/
theorem readsAs_joined_closed (h : AreItems (t :: ts) xs) (y : List Char) :
    ReadsAs ((joined l depth (t :: ts)).toList ++ [';']) y
      (LeadsStyle s (xs.foldl Inside.declare s)) := by
  induction ts generalizing t xs s with
  | nil =>
    obtain ⟨x, xs, hitem, hxs, rfl⟩ := List.forall₂_cons_left_iff.1 h
    obtain rfl := List.forall₂_nil_left_iff.1 hxs
    rw [joined_singleton]
    exact hitem.leads y
  | cons t' ts ih =>
    obtain ⟨x, xs, hitem, hxs, rfl⟩ := List.forall₂_cons_left_iff.1 h
    have hrest := (ih (s := s.declare x) hxs).leadsBehind (isSpacing_newline l depth)
      (by rw [List.append_assoc]; exact (startsBare_joined l depth hxs).head)
    rw [joined_cons_cons, List.append_assoc (_ ++ [';']),
      List.append_assoc (l.newline depth).toList]
    exact (hitem.leads _).append hrest fun _ _ has hbs => has.append hbs

/-- Declarations of which the last one has no semicolon. -/
theorem readsAs_joined_open (h : AreItems (t :: ts) xs) (hy : Ends y) :
    ReadsAs (joined l depth (t :: ts)).toList y (EndsStyle s (xs.foldl Inside.declare s)) := by
  induction ts generalizing t xs s with
  | nil =>
    obtain ⟨x, xs, hitem, hxs, rfl⟩ := List.forall₂_cons_left_iff.1 h
    obtain rfl := List.forall₂_nil_left_iff.1 hxs
    rw [joined_singleton]
    exact hitem.ends hy
  | cons t' ts ih =>
    obtain ⟨x, xs, hitem, hxs, rfl⟩ := List.forall₂_cons_left_iff.1 h
    have hrest := (ih (s := s.declare x) hxs).endsBehind (isSpacing_newline l depth)
      (startsBare_joined l depth hxs).head
    rw [joined_cons_cons]
    exact (hitem.leads _).append hrest fun _ _ has hbs => has.ends hbs

end

/-! ## Declarations among rules -/

/-- Whether a rule is a list of declarations. -/
def Rule.isDeclarations : Rule → Bool
  | .declarations _ => true
  | _ => false

theorem Rule.exists_of_isDeclarations {r : Rule} (h : r.isDeclarations = true) :
    ∃ b, r = .declarations b := by
  cases r
  case declarations b => exact ⟨b, rfl⟩
  all_goals cases h

/-- The state behind one more rule inside of a style rule. -/
def Inside.step (s : Inside) : Rule → Inside
  | .declarations b => b.items.foldl Inside.declare s
  | r => (s.1, r :: s.2)

section

variable {b block : Block} {r : Rule} {rules done : List Rule}

/-- The declarations of a block make up the block. -/
theorem foldl_push_items (b : Block) :
    b.items.foldl (fun b x => b.push x.1 x.2) {} = b := by
  have hnormal : ∀ (ds : List Declaration) (b : Block),
      (ds.map (·, false)).foldl (fun b x => b.push x.1 x.2) b = ⟨b.normal ++ ds, b.important⟩ := by
    intro ds
    induction ds with
    | nil => simp
    | cons d ds ih =>
      intro b
      rw [List.map_cons, List.foldl_cons, ih]
      simp [Block.push]
  have himportant : ∀ (ds : List Declaration) (b : Block),
      (ds.map (·, true)).foldl (fun b x => b.push x.1 x.2) b = ⟨b.normal, b.important ++ ds⟩ := by
    intro ds
    induction ds with
    | nil => simp
    | cons d ds ih =>
      intro b
      rw [List.map_cons, List.foldl_cons, ih]
      simp [Block.push]
  rw [Block.items, List.foldl_append, hnormal, himportant]
  simp

/-- Declarations in front of all rules are the block's own. -/
theorem foldl_declare_block (b : Block) : b.items.foldl Inside.declare ({}, []) = (b, []) := by
  have hpush : ∀ (xs : List (Declaration × Bool)) (block : Block),
      xs.foldl Inside.declare (block, []) = (xs.foldl (fun b x => b.push x.1 x.2) block, []) := by
    intro xs
    induction xs with
    | nil => simp
    | cons x xs ih =>
      intro block
      rw [List.foldl_cons, List.foldl_cons, ← ih]
      rfl
  rw [hpush, foldl_push_items]

/-- Declarations behind a rule are a list of their own. -/
theorem foldl_declare_behind (hb : b.items ≠ []) (hr : r.isDeclarations = false) :
    b.items.foldl Inside.declare (block, r :: rules) = (block, .declarations b :: r :: rules) := by
  have hpush : ∀ (xs : List (Declaration × Bool)) (b : Block),
      xs.foldl Inside.declare (block, .declarations b :: r :: rules) =
        (block, .declarations (xs.foldl (fun b x => b.push x.1 x.2) b) :: r :: rules) := by
    intro xs
    induction xs with
    | nil => simp
    | cons x xs ih =>
      intro b
      rw [List.foldl_cons, List.foldl_cons, ← ih]
      rfl
  obtain ⟨x, xs, hxs⟩ := List.exists_cons_of_ne_nil hb
  have hfirst : Inside.declare (block, r :: rules) x =
      (block, .declarations (({} : Block).push x.1 x.2) :: r :: rules) := by
    cases r <;> first | rfl | cases hr
  have hall := foldl_push_items b
  rw [hxs, List.foldl_cons] at hall
  rw [hxs, List.foldl_cons, hfirst, hpush, hall]

/-- Whether no two lists of declarations stand next to each other, and none is empty. -/
def areApart : List Rule → Bool
  | [] => true
  | r :: rs =>
    (match r with
      | .declarations b => !b.items.isEmpty && !rs.head?.any Rule.isDeclarations
      | _ => true) && areApart rs

theorem areApart_declarations (h : areApart (.declarations b :: rules) = true) :
    b.items ≠ [] ∧ rules.head?.any Rule.isDeclarations = false ∧ areApart rules = true := by
  simp only [areApart, Bool.and_eq_true, Bool.not_eq_true', List.isEmpty_eq_false_iff] at h
  exact ⟨h.1.1, h.1.2, h.2⟩

theorem Inside.step_of_not_declarations (hr : r.isDeclarations = false) (s : Inside) :
    s.step r = (s.1, r :: s.2) := by
  cases r <;> first | rfl | cases hr

/-- Rules that are read behind another one are the rules. -/
theorem foldl_step_behind (h : areApart rules = true)
    (hr : r.isDeclarations = true → rules.head?.any Rule.isDeclarations = false) :
    rules.foldl Inside.step (block, r :: done) = (block, rules.reverse ++ r :: done) := by
  induction rules generalizing r done with
  | nil => rfl
  | cons a rules ih =>
    rw [List.foldl_cons, List.reverse_cons, List.append_assoc, List.singleton_append]
    by_cases ha : a.isDeclarations = true
    · have hlast : r.isDeclarations = false := by
        by_contra hc
        have hhead := hr (Bool.not_eq_false _ ▸ hc)
        rw [List.head?_cons, Option.any_some, ha] at hhead
        cases hhead
      obtain ⟨b, rfl⟩ := Rule.exists_of_isDeclarations ha
      obtain ⟨hb, hhead, hapart⟩ := areApart_declarations h
      rw [Inside.step, foldl_declare_behind hb hlast]
      exact ih hapart fun _ => hhead
    · rw [Bool.not_eq_true] at ha
      rw [Inside.step_of_not_declarations ha]
      exact ih (Bool.and_eq_true_iff.1 h).2 fun hc => absurd (ha.symm.trans hc) Bool.false_ne_true

/-- Rules of which the first one is no list of declarations are read behind declarations as they
are. -/
theorem foldl_step_block (h : areApart rules = true)
    (hfirst : rules.head?.any Rule.isDeclarations = false) :
    rules.foldl Inside.step (block, []) = (block, rules.reverse) := by
  cases rules with
  | nil => rfl
  | cons r rules =>
    rw [List.head?_cons, Option.any_some] at hfirst
    rw [List.foldl_cons, Inside.step_of_not_declarations hfirst,
      foldl_step_behind (Bool.and_eq_true_iff.1 h).2
        fun hc => absurd (hfirst.symm.trans hc) Bool.false_ne_true]
    simp

/-- Rules that are read in an at-rule inside of a style rule are the rules. -/
theorem foldl_step_looseFirst (h : areApart rules = true) :
    looseFirst (rules.foldl Inside.step ({}, [])).1 (rules.foldl Inside.step ({}, [])).2.reverse =
      rules := by
  by_cases hfirst : rules.head?.any Rule.isDeclarations = true
  · cases rules with
    | nil => cases hfirst
    | cons r rules =>
      rw [List.head?_cons, Option.any_some] at hfirst
      obtain ⟨b, rfl⟩ := Rule.exists_of_isDeclarations hfirst
      obtain ⟨hb, hhead, hapart⟩ := areApart_declarations h
      rw [List.foldl_cons, Inside.step, foldl_declare_block, foldl_step_block hapart hhead,
        List.reverse_reverse, looseFirst, if_neg]
      rwa [Block.isEmpty_iff_items]
  · rw [foldl_step_block h (Bool.not_eq_true _ ▸ hfirst), List.reverse_reverse]
    rfl

end

end StyleBuild.Css
