import StyleBuild.Css.Rule.Parser
import StyleBuild.Proofs.Css.Reading.Level

/-!
# Reading one rule after another

What components in front of others add to a list of rules (`rulesFrom_style`, `rulesFrom_atBlock`,
`rulesFrom_atStatement`) and to the inside of a style rule (`styleFrom_declaration`,
`styleFrom_nested`, `styleFrom_atBlock`, `styleFrom_atStatement`).
-/

namespace StyleBuild.Css

/-! ## What waits -/

/-- Whether a component neither ends what waits nor is the block of it. -/
def Component.isFlat : Component → Bool
  | .token .semicolon _ => false
  | .block (.plain .curly) _ _ => false
  | _ => true

/-- Whether a component starts something else than an at-rule. -/
def Component.isLead : Component → Bool
  | .token (.blank _) _ | .token .semicolon _ | .token (.atKeyword _) _ | .token .htmlOpen _
  | .token .htmlClose _ => false
  | .block (.plain .curly) _ _ => false
  | _ => true

/-- Add components to what waits. -/
def Pending.addAll (q : Pending) (cs : List Component) : Pending := cs.foldl (fun q c => q.add c) q

/-- Whether something waits. -/
def Pending.isOpen : Pending → Bool
  | .nothing => false
  | _ => true

theorem Pending.isOpen_add (q : Pending) (c : Component) : (q.add c).isOpen = true := by
  cases q <;> rfl

theorem Pending.addAll_other (passed cs : List Component) :
    (Pending.other passed).addAll cs = .other (cs.reverse ++ passed) := by
  induction cs generalizing passed with
  | nil => rfl
  | cons c cs ih =>
    have h := ih (c :: passed)
    rw [List.reverse_cons, List.append_assoc]
    exact h

theorem Pending.addAll_atRule (name : String) (p : Position) (passed cs : List Component) :
    (Pending.atRule name p passed).addAll cs = .atRule name p (cs.reverse ++ passed) := by
  induction cs generalizing passed with
  | nil => rfl
  | cons c cs ih =>
    have h := ih (c :: passed)
    rw [List.reverse_cons, List.append_assoc]
    exact h

section Rules

variable {top : Bool} {progress : Progress} {done : List Rule} {pending : Pending}
  {stop p q : Position} {c : Component} {cs rest : List Component}

theorem rulesFrom_add (hp : pending.isOpen = true) (hc : c.isFlat = true) :
    rulesFrom top progress done pending (.ofList stop (c :: rest)) =
      rulesFrom top progress done (pending.add c) (.ofList stop rest) := by
  rcases c with ⟨t, p⟩ | ⟨⟨s⟩ | n, p, body⟩
  · have hs : t ≠ .semicolon := by rintro rfl; cases hc
    rw [Components.ofList, rulesFrom]
    · rintro rfl; cases hp
    · rintro _ - rfl; cases hp
    · rintro _ - rfl; cases hp
    · exact fun _ _ _ h _ => hs h
  · cases s
    case curly => cases hc
    all_goals
      rw [Components.ofList, rulesFrom]
      intro h; cases h
  · rw [Components.ofList, rulesFrom]
    intro h; cases h

/-- Flat components are passed. -/
theorem rulesFrom_addAll (hp : pending.isOpen = true) (hcs : ∀ c ∈ cs, c.isFlat = true) :
    rulesFrom top progress done pending (.ofList stop (cs ++ rest)) =
      rulesFrom top progress done (pending.addAll cs) (.ofList stop rest) := by
  induction cs generalizing pending with
  | nil => rfl
  | cons c cs ih =>
    rw [List.cons_append, rulesFrom_add hp (hcs c (by simp)),
      ih (pending.isOpen_add c) fun c hc => hcs c (by simp [hc])]
    rfl

theorem rulesFrom_lead (hc : c.isLead = true) :
    rulesFrom top progress done .nothing (.ofList stop (c :: rest)) =
      rulesFrom top progress done (.other [c]) (.ofList stop rest) := by
  rcases c with ⟨t, p⟩ | ⟨⟨s⟩ | n, p, body⟩
  · rw [Components.ofList, rulesFrom]
    · rw [if_neg]
      cases t <;> first | (cases top <;> exact Bool.false_ne_true) | cases hc
    · rintro _ rfl; cases hc
    · rintro _ rfl; cases hc
  · cases s
    case curly => cases hc
    all_goals
      rw [Components.ofList, rulesFrom]
      · rfl
      · intro h; cases h
  · rw [Components.ofList, rulesFrom]
    · rfl
    · intro h; cases h

/-- The text in front of a block that is no at-rule's is a list of selectors. -/
theorem rulesFrom_style {ss : List Selector} {body : Components} {block : Block}
    {rules : List Rule} (hc : c.isLead = true) (hcs : ∀ c ∈ cs, c.isFlat = true)
    (hss : readSelectors .top (.ofList p (c :: cs)) = .ok ss)
    (hbody : styleFrom {} [] .nothing body = .ok (block, rules)) :
    rulesFrom top progress done .nothing
        (.ofList stop (c :: cs ++ .block (.plain .curly) p body :: rest)) =
      rulesFrom top .body (.style ss block rules .none :: done) .nothing (.ofList stop rest) := by
  rw [List.cons_append, rulesFrom_lead hc, rulesFrom_addAll rfl hcs, Pending.addAll_other,
    Components.ofList, rulesFrom]
  simp only [List.reverse_append, List.reverse_cons, List.reverse_nil, List.nil_append,
    List.reverse_reverse, List.singleton_append, hss, hbody]

/-- An at-rule with a block. -/
theorem rulesFrom_atBlock {name : String} {head : AtHead} {body : Components} {r : Rule}
    (hlate : isLate top progress name = false) (hcs : ∀ c ∈ cs, c.isFlat = true)
    (hhead : readAtRule (.ofTop top) name (.ofList p cs) = .ok head)
    (hbody : head.withBlock (.ofTop top) body (fun _ => rulesFrom false .body [] .nothing body)
      (fun _ => styleFrom {} [] .nothing body) = .ok r) :
    rulesFrom top progress done .nothing
        (.ofList stop (.token (.atKeyword name) q :: cs ++ .block (.plain .curly) p body :: rest)) =
      rulesFrom top .body (r :: done) .nothing (.ofList stop rest) := by
  rw [List.cons_append, Components.ofList, rulesFrom, rulesFrom_addAll rfl hcs,
    Pending.addAll_atRule, Components.ofList, rulesFrom]
  simp only [hlate, List.append_nil, List.reverse_reverse, hhead, hbody, Bool.false_eq_true,
    if_false]

/-- An at-rule that ends at a semicolon. -/
theorem rulesFrom_atStatement {name : String} {r : Option Rule}
    (hlate : isLate top progress name = false) (hcs : ∀ c ∈ cs, c.isFlat = true)
    (hr : readAtStatement (.ofTop top) name (.ofList p cs) (p.advance 1 p.text) = .ok r) :
    rulesFrom top progress done .nothing
        (.ofList stop (.token (.atKeyword name) q :: cs ++ .token .semicolon p :: rest)) =
      rulesFrom top (progress.behind r) (r.toList ++ done) .nothing (.ofList stop rest) := by
  rw [List.cons_append, Components.ofList, rulesFrom, rulesFrom_addAll rfl hcs,
    Pending.addAll_atRule, Components.ofList, rulesFrom]
  simp only [hlate, List.append_nil, List.reverse_reverse, hr, Bool.false_eq_true, if_false]

end Rules

section Style

variable {block : Block} {rules : List Rule} {pending : Pending} {stop p q : Position}
  {c : Component} {cs rest : List Component}

theorem styleFrom_add (hp : pending.isOpen = true) (hc : c.isFlat = true) :
    styleFrom block rules pending (.ofList stop (c :: rest)) =
      styleFrom block rules (pending.add c) (.ofList stop rest) := by
  rcases c with ⟨t, p⟩ | ⟨⟨s⟩ | n, p, body⟩
  · have hs : t ≠ .semicolon := by rintro rfl; cases hc
    rw [Components.ofList, styleFrom]
    · rintro _ - rfl; cases hp
    · rintro - rfl; cases hp
    · rintro _ - rfl; cases hp
    · exact fun _ _ _ h _ => hs h
    · exact fun _ h _ => hs h
  · cases s
    case curly => cases hc
    all_goals
      rw [Components.ofList, styleFrom]
      intro h; cases h
  · rw [Components.ofList, styleFrom]
    intro h; cases h

theorem styleFrom_addAll (hp : pending.isOpen = true) (hcs : ∀ c ∈ cs, c.isFlat = true) :
    styleFrom block rules pending (.ofList stop (cs ++ rest)) =
      styleFrom block rules (pending.addAll cs) (.ofList stop rest) := by
  induction cs generalizing pending with
  | nil => rfl
  | cons c cs ih =>
    rw [List.cons_append, styleFrom_add hp (hcs c (by simp)),
      ih (pending.isOpen_add c) fun c hc => hcs c (by simp [hc])]
    rfl

theorem styleFrom_lead (hc : c.isLead = true) :
    styleFrom block rules .nothing (.ofList stop (c :: rest)) =
      styleFrom block rules (.other [c]) (.ofList stop rest) := by
  rcases c with ⟨t, p⟩ | ⟨⟨s⟩ | n, p, body⟩
  · rw [Components.ofList, styleFrom]
    · rfl
    · rintro _ rfl; cases hc
    · rintro rfl; cases hc
    · rintro _ rfl; cases hc
    · rintro _ _ _ rfl; cases hc
    · rintro _ rfl; cases hc
  · cases s
    case curly => cases hc
    all_goals
      rw [Components.ofList, styleFrom]
      · rfl
      · intro h; cases h
  · rw [Components.ofList, styleFrom]
    · rfl
    · intro h; cases h

/-- What starts with a name and ends at a semicolon is a declaration. -/
theorem styleFrom_declaration {name : String} {d : Declaration} {i : Bool}
    (hcs : ∀ c ∈ cs, c.isFlat = true)
    (hd : readItem (.ofList p (.token (.ident name) q :: cs)) = .ok (d, i)) :
    styleFrom block rules .nothing
        (.ofList stop (.token (.ident name) q :: cs ++ .token .semicolon p :: rest)) =
      styleFrom (addDeclaration block rules d i).1 (addDeclaration block rules d i).2 .nothing
        (.ofList stop rest) := by
  have hname : startsWithIdent (cs.reverse ++ [.token (.ident name) q]) = true := by
    simp [startsWithIdent]
  rw [List.cons_append, styleFrom_lead rfl, styleFrom_addAll rfl hcs, Pending.addAll_other,
    Components.ofList, styleFrom, if_pos hname]
  simp only [List.reverse_append, List.reverse_cons, List.reverse_nil, List.nil_append,
    List.reverse_reverse, List.singleton_append, hd]

/-- The last declaration needs no semicolon. -/
theorem styleFrom_lastDeclaration {name : String} {d : Declaration} {i : Bool}
    (hcs : ∀ c ∈ cs, c.isFlat = true)
    (hd : readItem (.ofList stop (.token (.ident name) q :: cs)) = .ok (d, i)) :
    styleFrom block rules .nothing (.ofList stop (.token (.ident name) q :: cs)) =
      .ok ((addDeclaration block rules d i).1, (addDeclaration block rules d i).2.reverse) := by
  have hname : startsWithIdent (cs.reverse ++ [.token (.ident name) q]) = true := by
    simp [startsWithIdent]
  have hadd : styleFrom block rules (.other [.token (.ident name) q]) (.ofList stop (cs ++ [])) =
      _ := styleFrom_addAll rfl hcs
  rw [List.append_nil] at hadd
  rw [styleFrom_lead rfl, hadd, Pending.addAll_other, Components.ofList, styleFrom, if_pos hname]
  simp only [List.reverse_append, List.reverse_cons, List.reverse_nil, List.nil_append,
    List.reverse_reverse, List.singleton_append, hd]

/-- The text in front of a block that is no at-rule's is a list of selectors. -/
theorem styleFrom_nested {ss : List Selector} {body : Components} {inner : Block}
    {innerRules : List Rule} (hc : c.isLead = true) (hcs : ∀ c ∈ cs, c.isFlat = true)
    (hcustom : startsCustom (c :: cs).reverse = false)
    (hss : readSelectors .nested (.ofList p (c :: cs)) = .ok ss)
    (hbody : styleFrom {} [] .nothing body = .ok (inner, innerRules)) :
    styleFrom block rules .nothing
        (.ofList stop (c :: cs ++ .block (.plain .curly) p body :: rest)) =
      styleFrom block (.style ss inner innerRules .none :: rules) .nothing
        (.ofList stop rest) := by
  rw [List.reverse_cons] at hcustom
  rw [List.cons_append, styleFrom_lead hc, styleFrom_addAll rfl hcs, Pending.addAll_other,
    Components.ofList, styleFrom]
  simp only [hcustom, List.reverse_append, List.reverse_cons, List.reverse_nil, List.nil_append,
    List.reverse_reverse, List.singleton_append, hss, hbody, Bool.false_eq_true, if_false]

/-- An at-rule with a block. -/
theorem styleFrom_atBlock {name : String} {head : AtHead} {body : Components} {r : Rule}
    (hcs : ∀ c ∈ cs, c.isFlat = true)
    (hhead : readAtRule .style name (.ofList p cs) = .ok head)
    (hbody : head.withBlock .style body (fun _ => rulesFrom false .body [] .nothing body)
      (fun _ => styleFrom {} [] .nothing body) = .ok r) :
    styleFrom block rules .nothing
        (.ofList stop (.token (.atKeyword name) q :: cs ++ .block (.plain .curly) p body :: rest)) =
      styleFrom block (r :: rules) .nothing (.ofList stop rest) := by
  rw [List.cons_append, Components.ofList, styleFrom, styleFrom_addAll rfl hcs,
    Pending.addAll_atRule, Components.ofList, styleFrom]
  simp only [List.append_nil, List.reverse_reverse, hhead, hbody]

/-- An at-rule that ends at a semicolon. -/
theorem styleFrom_atStatement {name : String} {r : Option Rule}
    (hcs : ∀ c ∈ cs, c.isFlat = true)
    (hr : readAtStatement .style name (.ofList p cs) (p.advance 1 p.text) = .ok r) :
    styleFrom block rules .nothing
        (.ofList stop (.token (.atKeyword name) q :: cs ++ .token .semicolon p :: rest)) =
      styleFrom block (r.toList ++ rules) .nothing (.ofList stop rest) := by
  rw [List.cons_append, Components.ofList, styleFrom, styleFrom_addAll rfl hcs,
    Pending.addAll_atRule, Components.ofList, styleFrom]
  simp only [List.append_nil, List.reverse_reverse, hr]

end Style

end StyleBuild.Css
