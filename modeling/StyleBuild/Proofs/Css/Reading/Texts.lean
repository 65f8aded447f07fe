import StyleBuild.Css.Sheet
import StyleBuild.Proofs.Css.Reading.Complete

/-!
# Texts of rules

What a text is read as wherever it stands: a list of selectors (`IsSelectors`), what an at-rule says
before its block (`IsAtHead`), a declaration (`IsItem`), a rule (`IsRule`). The text of a rule is put
together from such texts, whether it has rules inside of it (`isRule_style`, `isRule_atBlock`) or
ends at a semicolon (`isRule_atStatement`).
-/

namespace StyleBuild.Css

/-! ## Parts of a text -/

/-- The text `u` before `y` is read, wherever it stands, as components with a property. -/
def ReadsAs (u y : List Char) (P : List Component → Prop) : Prop :=
  ∀ p : Position, p.text = u ++ y → ∃ cs, Stands p u y cs ∧ P cs

section

variable {u v y : List Char} {P Q R : List Component → Prop}

theorem ReadsAs.mono (h : ReadsAs u y P) (hPQ : ∀ cs, P cs → Q cs) : ReadsAs u y Q := by
  intro p hp
  obtain ⟨cs, hcs, hP⟩ := h p hp
  exact ⟨cs, hcs, hPQ cs hP⟩

theorem ReadsAs.append (hu : ReadsAs u (v ++ y) P) (hv : ReadsAs v y Q)
    (h : ∀ as bs, P as → Q bs → R (as ++ bs)) : ReadsAs (u ++ v) y R := by
  intro p hp
  rw [List.append_assoc] at hp
  obtain ⟨as, has, hP⟩ := hu p hp
  obtain ⟨bs, hbs, hQ⟩ := hv (p.advance u.length (u ++ (v ++ y)))
    (by rw [Position.text_advance hp, List.drop_left])
  exact ⟨as ++ bs, has.append hbs, h as bs hP hQ⟩

/-- What stands between braces is a block. -/
theorem ReadsAs.braces (h : ReadsAs u ('\x7d' :: y) P) :
    ReadsAs ('\x7b' :: (u ++ ['\x7d'])) y
      (fun cs => ∃ p stop body, cs = [.block (.plain .curly) p (.ofList stop body)] ∧ P body) := by
  intro p hp
  have hp : p.text = '\x7b' :: (u ++ '\x7d' :: y) := by simpa using hp
  obtain ⟨body, hbody, hP⟩ := h (p.advance 1 ('\x7b' :: (u ++ '\x7d' :: y)))
    (by rw [Position.text_advance hp]; rfl)
  exact ⟨_, hbody.braces, _, _, body, rfl, hP⟩

theorem readsAs_nil (h : P []) : ReadsAs [] y P := fun p _ => ⟨[], .nil p y, h⟩

/-- Whether components are white space. -/
def AreBlank (cs : List Component) : Prop := ∀ c ∈ cs, c.isBlank = true

theorem readsAs_spacing (hu : isSpacing u = true) (hy : ∀ d ∈ y.head?, isSpace d = false) :
    ReadsAs u y AreBlank := fun p _ => stands_spacing hu hy p

theorem readsAs_semicolon (y : List Char) :
    ReadsAs [';'] y (fun cs => ∃ p, cs = [.token .semicolon p]) := fun p _ =>
  ⟨_, stands_mark (c := ';') (fun _ => rfl) (by simp) (by simp) p y, p, rfl⟩

end

/-! ## Reading on -/

/-- The components add rules to a list. `top` tells whether it is a sheet's own list. -/
def LeadsRules (top : Bool) (progress progress' : Progress) (new : List Rule)
    (cs : List Component) : Prop :=
  ∀ done stop rest, rulesFrom top progress done .nothing (.ofList stop (cs ++ rest)) =
    rulesFrom top progress' (new ++ done) .nothing (.ofList stop rest)

/-- How far the inside of a style rule has been read: its declarations, and its rules, latest
first. -/
abbrev Inside := Block × List Rule

/-- The components lead on inside of a style rule. -/
def LeadsStyle (s s' : Inside) (cs : List Component) : Prop :=
  ∀ stop rest, styleFrom s.1 s.2 .nothing (.ofList stop (cs ++ rest)) =
    styleFrom s'.1 s'.2 .nothing (.ofList stop rest)

/-- The components lead to the end of a style rule. -/
def EndsStyle (s s' : Inside) (cs : List Component) : Prop :=
  ∀ stop, styleFrom s.1 s.2 .nothing (.ofList stop cs) = .ok (s'.1, s'.2.reverse)

section

variable {top : Bool} {progress progress' progress'' : Progress} {new new' : List Rule}
  {s s' s'' : Inside} {cs ds : List Component}

theorem LeadsRules.append (h : LeadsRules top progress progress' new cs)
    (h' : LeadsRules top progress' progress'' new' ds) :
    LeadsRules top progress progress'' (new' ++ new) (cs ++ ds) := by
  intro done stop rest
  rw [List.append_assoc, h, h', List.append_assoc]

theorem AreBlank.leadsRules (h : AreBlank cs) : LeadsRules top progress progress [] cs := by
  intro done stop rest
  induction cs with
  | nil => rfl
  | cons c cs ih =>
    obtain ⟨t, p, rfl⟩ := Component.exists_of_isBlank (h c (by simp))
    rw [← ih fun c hc => h c (by simp [hc])]
    rfl

theorem LeadsStyle.append (h : LeadsStyle s s' cs) (h' : LeadsStyle s' s'' ds) :
    LeadsStyle s s'' (cs ++ ds) := by
  intro stop rest
  rw [List.append_assoc, h, h']

theorem LeadsStyle.ends (h : LeadsStyle s s' cs) (h' : EndsStyle s' s'' ds) :
    EndsStyle s s'' (cs ++ ds) := by
  intro stop
  rw [h, h']

theorem AreBlank.leadsStyle (h : AreBlank cs) : LeadsStyle s s cs := by
  intro stop rest
  induction cs with
  | nil => rfl
  | cons c cs ih =>
    obtain ⟨t, p, rfl⟩ := Component.exists_of_isBlank (h c (by simp))
    rw [← ih fun c hc => h c (by simp [hc])]
    rfl

theorem AreBlank.endsStyle (h : AreBlank cs) : EndsStyle s s cs := by
  intro stop
  have hlead := h.leadsStyle (s := s) stop []
  rw [List.append_nil] at hlead
  rw [hlead, Components.ofList, styleFrom_end]

end

/-! ## Declarations and rules -/

/-- The text starts with something that is neither white space nor a comment. -/
def StartsBare (u : List Char) : Prop := ∃ c v, u = c :: v ∧ isSpace c = false ∧ c ≠ '/'

theorem StartsBare.head {u y : List Char} (h : StartsBare u) :
    ∀ d ∈ (u ++ y).head?, isSpace d = false := by
  obtain ⟨c, v, rfl, hc, -⟩ := h
  simpa using hc

theorem StartsBare.append {u : List Char} (h : StartsBare u) (v : List Char) :
    StartsBare (u ++ v) := by
  obtain ⟨c, u, rfl, hc⟩ := h
  exact ⟨c, u ++ v, rfl, hc⟩

/-- Before a stop, the text is read as a declaration. -/
structure IsItem (u : List Char) (d : Declaration) (i : Bool) : Prop where
  start : StartsBare u
  reads : ∀ y, Ends y → ReadsAs u y fun cs => ∃ name p flat,
    cs = .token (.ident name) p :: flat ∧ (∀ c ∈ flat, c.isFlat = true) ∧
      ∀ stop, readItem (.ofList stop cs) = .ok (d, i)

/-- The state behind one more declaration. -/
def Inside.declare (s : Inside) (x : Declaration × Bool) : Inside :=
  addDeclaration s.1 s.2 x.1 x.2

/-- The components are a rule of a list. A charset rule is not one for a sheet's own list. -/
def TakesRule (top : Bool) (r : Rule) (cs : List Component) : Prop :=
  (∀ stop rest, (Components.ofList stop (cs ++ rest)).dropCharset = .ofList stop (cs ++ rest)) ∧
  ∀ progress, (top = true → progress = .body → r.isImport = false) →
    LeadsRules top progress (progress.behind (some r)) [r] cs

/-- The text is read as a rule, wherever it stands. -/
structure IsRule (place : RulePlace) (u : List Char) (r : Rule) : Prop where
  start : StartsBare u
  reads : ∀ y, ReadsAs u y (match place with
    | .style => fun cs => ∀ s : Inside, LeadsStyle s (s.1, r :: s.2) cs
    | place => TakesRule (place = .sheet) r)

section

variable {u w y inner : List Char} {d : Declaration} {i : Bool} {s : Inside}

theorem IsItem.leads (h : IsItem u d i) (y : List Char) :
    ReadsAs (u ++ [';']) y (LeadsStyle s (s.declare (d, i))) := by
  refine (h.reads ([';'] ++ y) (ends_cons rfl)).append (readsAs_semicolon y) ?_
  rintro as bs ⟨name, p, flat, rfl, hflat, hd⟩ ⟨q, rfl⟩ stop rest
  rw [List.append_assoc, List.singleton_append]
  exact styleFrom_declaration hflat (hd q)

theorem IsItem.ends (h : IsItem u d i) (hy : Ends y) :
    ReadsAs u y (EndsStyle s (s.declare (d, i))) := by
  refine (h.reads y hy).mono ?_
  rintro cs ⟨name, p, flat, rfl, hflat, hd⟩ stop
  exact styleFrom_lastDeclaration hflat (hd stop)

end

/-! ## Rules with blocks -/

/-- The text is read as a list of selectors before a block. -/
structure IsSelectors (place : SelectorPlace) (w : List Char) (ss : List Selector) : Prop where
  start : StartsBare w
  reads : ∀ y, ReadsAs w ('\x7b' :: y) fun cs => ∃ c flat, cs = c :: flat ∧ c.isLead = true ∧
    (∀ c ∈ flat, c.isFlat = true) ∧ (place = .nested → startsCustom cs.reverse = false) ∧
      ∀ stop, readSelectors place (.ofList stop cs) = .ok ss

/-- The text is read, behind an at-keyword and before a character, as what the at-rule says before
its block or its end. -/
structure IsAtHead (place : RulePlace) (name : String) (c : Char) (w : List Char) (head : AtHead) :
    Prop where
  breaks : ∀ y, BreaksName (w ++ c :: y)
  reads : ∀ y, ReadsAs w (c :: y) fun cs => (∀ c ∈ cs, c.isFlat = true) ∧
    ∀ stop, readAtRule place name (.ofList stop cs) = .ok head

section

variable {w inner : List Char} {ss : List Selector} {block : Block} {rules : List Rule}
  {name : String} {head : AtHead} {r : Rule}

theorem Component.isLead_dropCharset {c : Component} (hc : c.isLead = true) (stop : Position)
    (cs : List Component) :
    (Components.ofList stop (c :: cs)).dropCharset = .ofList stop (c :: cs) := by
  rcases c with ⟨t, p⟩ | ⟨b, p, body⟩
  · cases t <;> first | rfl | cases hc
  · rfl

/-- A style rule is put together from its selectors and from what is inside of it. -/
theorem isRule_style {place : RulePlace}
    (hss : IsSelectors (if place = .style then .nested else .top) w ss)
    (hbody : ∀ y, ReadsAs inner ('\x7d' :: y) (EndsStyle ({}, []) (block, rules.reverse))) :
    IsRule place (w ++ '\x7b' :: (inner ++ ['\x7d'])) (.style ss block rules .none) := by
  have hstart : StartsBare (w ++ '\x7b' :: (inner ++ ['\x7d'])) := by
    obtain ⟨c, v, rfl, hc, hslash⟩ := hss.start
    exact ⟨c, _, rfl, hc, hslash⟩
  have hrule : ∀ top, IsSelectors .top w ss → ∀ y,
      ReadsAs (w ++ '\x7b' :: (inner ++ ['\x7d'])) y
        (TakesRule top (.style ss block rules .none)) := by
    intro top hss y
    refine (hss.reads ((inner ++ ['\x7d']) ++ y)).append (hbody y).braces ?_
    rintro as bs ⟨c, flat, rfl, hc, hflat, -, hread⟩ ⟨p, stop', body, rfl, hends⟩
    refine ⟨fun stop rest => c.isLead_dropCharset hc stop _, fun progress _ done stop rest => ?_⟩
    have hbody := hends stop'
    rw [List.reverse_reverse] at hbody
    rw [List.append_assoc, List.singleton_append]
    exact rulesFrom_style hc hflat (hread p) hbody
  refine ⟨hstart, ?_⟩
  cases place
  · exact hrule _ hss
  · exact hrule _ hss
  · intro y
    refine (hss.reads ((inner ++ ['\x7d']) ++ y)).append (hbody y).braces ?_
    rintro as bs ⟨c, flat, rfl, hc, hflat, hcustom, hread⟩ ⟨p, stop', body, rfl, hends⟩ s stop rest
    have hbody := hends stop'
    rw [List.reverse_reverse] at hbody
    rw [List.append_assoc, List.singleton_append]
    exact styleFrom_nested hc hflat (hcustom rfl) (hread p) hbody

theorem dropCharset_atKeyword (hname : name.toLower ≠ "charset") (p stop : Position)
    (cs : List Component) :
    (Components.ofList stop (.token (.atKeyword name) p :: cs)).dropCharset =
      .ofList stop (.token (.atKeyword name) p :: cs) := by
  rw [Components.ofList, Components.dropCharset, if_neg hname]

theorem isLate_eq_false (hname : name.toLower ≠ "import") (top : Bool) (progress : Progress) :
    isLate top progress name = false := by
  simp [isLate, hname]

theorem Progress.behind_body {r : Rule} (hr : r.isLine = false) (progress : Progress) :
    progress.behind (some r) = .body := by
  cases r <;> first | rfl | cases hr

/-- What the components of an at-rule's block make of its head. -/
def MakesRule (place : RulePlace) (head : AtHead) (r : Rule) (cs : List Component) : Prop :=
  ∀ stop, head.withBlock place (.ofList stop cs)
    (fun _ => rulesFrom false .body [] .nothing (.ofList stop cs))
    (fun _ => styleFrom {} [] .nothing (.ofList stop cs)) = .ok r

theorem readsAs_atKeyword {u y : List Char} (hname : isWord name.toList = true)
    (hu : BreaksName (u ++ y)) :
    ReadsAs ('@' :: name.toList) (u ++ y) (fun cs => ∃ p, cs = [.token (.atKeyword name) p]) := by
  intro p _
  have hat := stands_at hname hu p
  rw [String.ofList_toList] at hat
  exact ⟨_, hat, p, rfl⟩

/-- An at-rule is put together from what it says before its block and from the block. -/
theorem isRule_atBlock {place : RulePlace} (hname : isWord name.toList = true)
    (hcharset : name.toLower ≠ "charset") (himport : name.toLower ≠ "import")
    (hhead : IsAtHead place name '\x7b' w head) (hr : r.isLine = false)
    (hbody : ∀ y, ReadsAs inner ('\x7d' :: y) (MakesRule place head r)) :
    IsRule place (('@' :: name.toList) ++ (w ++ '\x7b' :: (inner ++ ['\x7d']))) r := by
  have hrest : ∀ y, ReadsAs (w ++ '\x7b' :: (inner ++ ['\x7d'])) y (fun cs => ∃ flat p stop body,
      cs = flat ++ [.block (.plain .curly) p (.ofList stop body)] ∧
        (∀ c ∈ flat, c.isFlat = true) ∧
        (∀ stop, readAtRule place name (.ofList stop flat) = .ok head) ∧
        MakesRule place head r body) := by
    intro y
    refine (hhead.reads ((inner ++ ['\x7d']) ++ y)).append (hbody y).braces ?_
    rintro as bs ⟨hflat, hread⟩ ⟨p, stop', body, rfl, hmakes⟩
    exact ⟨as, p, stop', body, rfl, hflat, hread, hmakes⟩
  have hat : ∀ y, ReadsAs ('@' :: name.toList) ((w ++ '\x7b' :: (inner ++ ['\x7d'])) ++ y)
      (fun cs => ∃ p, cs = [.token (.atKeyword name) p]) := fun y =>
    readsAs_atKeyword hname (by rw [List.append_assoc]; exact hhead.breaks _)
  have hrule : ∀ top, place = .ofTop top → ∀ y, ReadsAs
      (('@' :: name.toList) ++ (w ++ '\x7b' :: (inner ++ ['\x7d']))) y (TakesRule top r) := by
    rintro top rfl y
    refine (hat y).append (hrest y) ?_
    rintro as bs ⟨q, rfl⟩ ⟨flat, p, stop', body, rfl, hflat, hread, hmakes⟩
    refine ⟨fun stop rest => dropCharset_atKeyword hcharset q stop _,
      fun progress _ done stop rest => ?_⟩
    have hlate := isLate_eq_false himport top progress
    rw [Progress.behind_body hr, ← List.append_assoc, List.append_assoc, List.singleton_append]
    exact rulesFrom_atBlock hlate hflat (hread p) (hmakes stop')
  refine ⟨⟨'@', _, rfl, by decide, by decide⟩, ?_⟩
  cases place
  · exact hrule true rfl
  · exact hrule false rfl
  · intro y
    refine (hat y).append (hrest y) ?_
    rintro as bs ⟨q, rfl⟩ ⟨flat, p, stop', body, rfl, hflat, hread, hmakes⟩ s stop rest
    rw [← List.append_assoc, List.append_assoc, List.singleton_append]
    exact styleFrom_atBlock hflat (hread p) (hmakes stop')

/-- An at-rule that ends at a semicolon. -/
theorem isRule_atStatement {place : RulePlace} (hname : isWord name.toList = true)
    (hcharset : name.toLower ≠ "charset") (himport : name.toLower = "import" → r.isImport = true)
    (hhead : IsAtHead place name ';' w head)
    (hr : ∀ stop, head.withoutBlock place stop = .ok (some r)) :
    IsRule place (('@' :: name.toList) ++ (w ++ [';'])) r := by
  have hstatement : ∀ {cs p stop}, readAtRule place name (.ofList p cs) = .ok head →
      readAtStatement place name (.ofList p cs) stop = .ok (some r) := by
    intro cs p stop h
    rw [readAtStatement, h]
    exact hr stop
  have hrest : ∀ y, ReadsAs (w ++ [';']) y (fun cs => ∃ flat p,
      cs = flat ++ [.token .semicolon p] ∧ (∀ c ∈ flat, c.isFlat = true) ∧
        ∀ stop, readAtRule place name (.ofList stop flat) = .ok head) := by
    intro y
    refine (hhead.reads y).append (readsAs_semicolon y) ?_
    rintro as bs ⟨hflat, hread⟩ ⟨p, rfl⟩
    exact ⟨as, p, rfl, hflat, hread⟩
  have hat : ∀ y, ReadsAs ('@' :: name.toList) ((w ++ [';']) ++ y)
      (fun cs => ∃ p, cs = [.token (.atKeyword name) p]) := fun y =>
    readsAs_atKeyword hname (by rw [List.append_assoc]; exact hhead.breaks _)
  have hrule : ∀ top, place = .ofTop top → ∀ y,
      ReadsAs (('@' :: name.toList) ++ (w ++ [';'])) y (TakesRule top r) := by
    rintro top rfl y
    refine (hat y).append (hrest y) ?_
    rintro as bs ⟨q, rfl⟩ ⟨flat, p, rfl, hflat, hread⟩
    refine ⟨fun stop rest => dropCharset_atKeyword hcharset q stop _,
      fun progress hp done stop rest => ?_⟩
    have hlate : isLate top progress name = false := by
      by_cases hname : name.toLower = "import"
      · have himport := himport hname
        by_contra hc
        simp only [isLate, hname, beq_self_eq_true, Bool.and_true, Bool.not_eq_false,
          Bool.and_eq_true, decide_eq_true_eq] at hc
        rw [hp hc.1 hc.2] at himport
        cases himport
      · exact isLate_eq_false hname top progress
    rw [← List.append_assoc, List.append_assoc, List.singleton_append]
    exact rulesFrom_atStatement hlate hflat (hstatement (hread p))
  refine ⟨⟨'@', _, rfl, by decide, by decide⟩, ?_⟩
  cases place
  · exact hrule true rfl
  · exact hrule false rfl
  · intro y
    refine (hat y).append (hrest y) ?_
    rintro as bs ⟨q, rfl⟩ ⟨flat, p, rfl, hflat, hread⟩ s stop rest
    rw [← List.append_assoc, List.append_assoc, List.singleton_append]
    exact styleFrom_atStatement hflat (hstatement (hread p))

end

end StyleBuild.Css
