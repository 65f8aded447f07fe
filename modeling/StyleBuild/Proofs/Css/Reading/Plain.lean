import StyleBuild.Css.Declaration.Parser
import StyleBuild.Proofs.Css.Reading.Rules

/-!
# Values without brackets

A value is plain if it is made of tokens other than brackets, semicolons, exclamation marks and
broken strings. Every known property takes every plain value: either it is understood, or it is
kept as it is (`readItem_plain`).
-/

namespace StyleBuild.Css

/-- Whether a token may stand in every value. -/
def Token.isPlain : Token → Bool
  | .opening _ | .closing _ | .badQuoted _ | .badUrl _ | .semicolon => false
  | .delim c => c != '!'
  | _ => true

/-- Whether a component is a token that may stand in every value. -/
def Component.isPlain : Component → Bool
  | .token t _ => t.isPlain
  | .block _ _ _ => false

/-- Whether a text behind the colon of a declaration, with a space between, is made of tokens that
may stand in every value. -/
def isPlainValue (v : List Char) : Bool :=
  (tokensBefore? ';' (' ' :: v)).any (·.all Token.isPlain)

/-! ## Reading -/

theorem Token.isPlain_ne {t : Token} (h : t.isPlain = true) :
    (∀ b, t ≠ .opening b) ∧ (∀ s, t ≠ .closing s) ∧ t ≠ .semicolon ∧ t ≠ .delim '!' := by
  refine ⟨?_, ?_, ?_, ?_⟩
  · rintro b rfl; cases h
  · rintro s rfl; cases h
  · rintro rfl; cases h
  · rintro rfl; cases h

theorem paired_plain {p : Position} {u y : List Char} {ts : List (Token × List Char)}
    (hplain : ∀ x ∈ ts, x.1.isPlain = true) :
    Paired (ts.map (placed p u y)) (ts.map fun x => .token x.1 (placed p u y x).at_) := by
  induction ts with
  | nil => exact .nil
  | cons x ts ih =>
    obtain ⟨ho, hc, -⟩ := Token.isPlain_ne (hplain x (by simp))
    exact .token ho hc (ih fun x hx => hplain x (by simp [hx]))

/-- Before a stop, a plain value is read as plain components. -/
theorem stands_of_isPlainValue {v y : List Char} (h : isPlainValue v = true) (hy : Ends y)
    (p : Position) :
    ∃ cs, Stands p (' ' :: v) y cs ∧ ∀ c ∈ cs, c.isPlain = true := by
  obtain ⟨tokens, htokens, hplain⟩ := (Option.any_eq_true _ _).1 h
  obtain ⟨ts, hlexes, rfl⟩ := lexes_of_tokensBefore htokens rfl
  have hts : ∀ x ∈ ts, x.1.isPlain = true := fun x hx =>
    List.all_eq_true.1 hplain x.1 (List.mem_map_of_mem hx)
  refine ⟨_, Paired.stands (hlexes y hy) (paired_plain hts), ?_⟩
  rintro c hc
  obtain ⟨x, hx, rfl⟩ := List.mem_map.1 hc
  exact hts x hx

theorem Component.isPlain_isFlat {c : Component} (h : c.isPlain = true) : c.isFlat = true := by
  rcases c with ⟨t, p⟩ | _
  · cases t <;> first | rfl | cases h
  · cases h

section

variable {cs : List Component}

theorem Component.isPlain_cases {c : Component} (h : c.isPlain = true) :
    ∃ t p, c = .token t p ∧ t.isPlain = true := by
  cases c with
  | token t p => exact ⟨t, p, rfl, h⟩
  | block b p body => cases h

theorem rawFrom_plain (h : ∀ c ∈ cs, c.isPlain = true) (fuel depth : Nat) (acc : Raw)
    (stop : Position) :
    ∃ r, rawFrom fuel depth acc (.ofList stop cs) = .ok r := by
  induction cs generalizing fuel acc with
  | nil => cases fuel <;> exact ⟨_, rfl⟩
  | cons c cs ih =>
    cases fuel with
    | zero => exact ⟨acc, rfl⟩
    | succ fuel =>
      obtain ⟨t, p, rfl, ht⟩ := Component.isPlain_cases (h c (by simp))
      have hcs := ih fun c hc => h c (by simp [hc])
      cases t <;> first | exact hcs fuel _ | cases ht

theorem readRaw_plain (h : ∀ c ∈ cs, c.isPlain = true) (stop : Position) :
    ∃ r, readRaw (.ofList stop cs) = .ok r := by
  obtain ⟨r, hr⟩ := rawFrom_plain h (4 * (Components.ofList stop cs).size + 3) 0 [] stop
  refine ⟨trimRaw r.reverse, ?_⟩
  simp only [readRaw, readRawWithin, hr]
  rfl

theorem property_readValue? {q : Property} {cs : Components} {d : Declaration}
    (h : readValue? q cs = some d) : d.property = .known q := by
  cases q <;> simp only [readValue?] at h
  case zIndex =>
    split at h
    · cases h; rfl
    · obtain ⟨_, -, rfl⟩ := Option.map_eq_some_iff.1 h
      rfl
  all_goals
    obtain ⟨_, -, rfl⟩ := Option.map_eq_some_iff.1 h
    rfl

/-- A known property takes every plain value. -/
theorem readValue_plain {name : String} {q : Property} (hname : Property.ofName? name = some q)
    (h : ∀ c ∈ cs, c.isPlain = true) (stop : Position) :
    ∃ d, readValue name (.ofList stop cs) = .ok d ∧ d.property = .known q := by
  simp only [readValue, hname]
  cases hd : readValue? q (.ofList stop cs) with
  | some d => exact ⟨d, rfl, property_readValue? hd⟩
  | none =>
    obtain ⟨r, hr⟩ := readRaw_plain h stop
    exact ⟨.unread q r, by simp [hr, Except.map], rfl⟩

theorem splitBang_plain (h : ∀ c ∈ cs, c.isPlain = true) : splitBang cs = (cs, []) := by
  induction cs with
  | nil => rfl
  | cons c cs ih =>
    obtain ⟨t, p, rfl, ht⟩ := Component.isPlain_cases (h c (by simp))
    rw [splitBang, ih fun c hc => h c (by simp [hc])]
    rintro _ ⟨⟩
    cases ht

theorem splitCurly_plain (h : ∀ c ∈ cs, c.isPlain = true) : splitCurly cs = (cs, []) := by
  induction cs with
  | nil => rfl
  | cons c cs ih =>
    obtain ⟨t, p, rfl, ht⟩ := Component.isPlain_cases (h c (by simp))
    rw [splitCurly, ih fun c hc => h c (by simp [hc])]
    rintro _ _ ⟨⟩

/-- A declaration of a known property with a plain value. -/
theorem readItem_plain {name : String} {q : Property} (hname : Property.ofName? name = some q)
    (h : ∀ c ∈ cs, c.isPlain = true) (p p' stop : Position) :
    ∃ d, readItem (.ofList stop (.token (.ident name) p :: .token .colon p' :: cs)) =
      .ok (d, false) ∧ d.property = .known q := by
  have hstop : (Components.ofList stop cs).stop = stop := Components.stop_ofList stop cs
  obtain ⟨d, hd, hq⟩ := readValue_plain hname h stop
  refine ⟨d, ?_, hq⟩
  simp only [Components.ofList, readItem, readDeclaration, Components.skipBlank, hstop,
    Components.toList_ofList, splitBang_plain h, splitCurly_plain h]
  simp only [ite_self, List.append_nil, Components.ofList, Components.start, hd, readImportance]
  rfl

end

end StyleBuild.Css
