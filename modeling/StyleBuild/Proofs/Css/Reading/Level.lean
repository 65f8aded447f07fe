import StyleBuild.Proofs.Css.Reading.Tokens

/-!
# The components of a part of a text

A text is self-contained if a semicolon behind it is a token outside of its brackets, which are
paired. Wherever such a text stands before a stop, its components there are the ones that it has on
its own, at other places (`stands_of_isSelfContained`).
-/

namespace StyleBuild.Css

/-! ## Moving -/

/-- The same components at other places. -/
def Components.moved (g : Position → Position) : Components → Components
  | .done p => .done (g p)
  | .token t p rest => .token t (g p) (rest.moved g)
  | .block b p body rest => .block b (g p) (body.moved g) (rest.moved g)

/-- The same component at another place. -/
def Component.moved (g : Position → Position) : Component → Component
  | .token t p => .token t (g p)
  | .block b p body => .block b (g p) (body.moved g)

/-- The same token at another place. -/
def Placed.moved (g : Position → Position) (x : Placed) : Placed := ⟨x.token, g x.at_⟩

theorem Components.moved_ofList (g : Position → Position) (p : Position) (cs : List Component) :
    (ofList p cs).moved g = ofList (g p) (cs.map (Component.moved g)) := by
  induction cs with
  | nil => rfl
  | cons c cs ih => cases c <;> simp [ofList, moved, Component.moved, ih]

theorem Components.stop_ofList (p : Position) (cs : List Component) : (ofList p cs).stop = p := by
  induction cs with
  | nil => rfl
  | cons c cs ih => cases c <;> simp [ofList, stop, ih]

/-! ## Paired brackets -/

/-- Tokens whose brackets are paired, and the components that they make up. -/
inductive Paired : List Placed → List Component → Prop
  | nil : Paired [] []
  | token {t : Token} {p : Position} {ts : List Placed} {cs : List Component}
    (ho : ∀ b, t ≠ .opening b) (hc : ∀ s, t ≠ .closing s) (h : Paired ts cs) :
    Paired (⟨t, p⟩ :: ts) (.token t p :: cs)
  | block {b : Bracket} {p q : Position} {inner ts : List Placed} {body cs : List Component}
    (hb : Paired inner body) (h : Paired ts cs) :
    Paired (⟨.opening b, p⟩ :: (inner ++ ⟨.closing b.shape, q⟩ :: ts))
      (.block b p (.ofList q body) :: cs)

theorem pair_token {t : Token} (ho : ∀ b, t ≠ .opening b) (hc : ∀ s, t ≠ .closing s)
    (stop p : Position) (outer : List OpenBlock) (level : List Component) (ts : List Placed) :
    pair stop outer level (⟨t, p⟩ :: ts) = pair stop outer (.token t p :: level) ts := by
  rw [pair]
  · exact fun b h => absurd h (ho b)
  · exact fun s h => absurd h (hc s)

namespace Paired

variable {ts : List Placed} {cs : List Component}

/-- Paired tokens put their components on the level where they stand. -/
theorem pair_append (h : Paired ts cs) (stop : Position) (outer : List OpenBlock)
    (level : List Component) (rest : List Placed) :
    pair stop outer level (ts ++ rest) = pair stop outer (cs.reverse ++ level) rest := by
  induction h generalizing outer level rest with
  | nil => rfl
  | token ho hc _ ih => simp [pair_token ho hc, ih]
  | block _ _ ihb ih =>
    rw [List.cons_append, List.append_assoc, List.cons_append, pair, ihb, pair]
    simp [ih]

theorem moved (h : Paired ts cs) (g : Position → Position) :
    Paired (ts.map (Placed.moved g)) (cs.map (Component.moved g)) := by
  induction h with
  | nil => exact .nil
  | token ho hc _ ih => exact .token ho hc ih
  | block _ _ ihb ih =>
    rw [List.map_cons, List.map_append, List.map_cons, List.map_cons, Component.moved,
      Components.moved_ofList]
    exact .block ihb ih

end Paired

/-- Whether brackets are paired behind some that are open. -/
def balanced : List Shape → List Token → Bool
  | [], [] => true
  | _ :: _, [] => false
  | inside, .opening b :: ts => balanced (b.shape :: inside) ts
  | s :: inside, .closing s' :: ts => s == s' && balanced inside ts
  | [], .closing _ :: _ => false
  | inside, _ :: ts => balanced inside ts

theorem balanced_token {t : Token} (ho : ∀ b, t ≠ .opening b) (hc : ∀ s, t ≠ .closing s)
    (inside : List Shape) (ts : List Token) : balanced inside (t :: ts) = balanced inside ts := by
  cases inside <;> cases t <;> simp_all [balanced]

theorem Token.bracket_cases (t : Token) : (∃ b, t = .opening b) ∨ (∃ s, t = .closing s) ∨
    (∀ b, t ≠ .opening b) ∧ ∀ s, t ≠ .closing s := by
  cases t <;> simp

/-- Up to the bracket that closes the innermost open one, tokens make up components. -/
theorem paired_of_balanced {inside : List Shape} {ts : List Placed}
    (h : balanced inside (ts.map Placed.token) = true) :
    (inside = [] ∧ ∃ cs, Paired ts cs) ∨
      ∃ s outer inner cs q rest, inside = s :: outer ∧ ts = inner ++ ⟨.closing s, q⟩ :: rest ∧
        Paired inner cs ∧ balanced outer (rest.map Placed.token) = true := by
  induction hn : ts.length using Nat.strong_induction_on generalizing inside ts with
  | _ n ih =>
    rcases ts with _ | ⟨⟨t, p⟩, ts⟩
    · cases inside with
      | nil => exact .inl ⟨rfl, [], .nil⟩
      | cons s inside => cases h
    · rw [List.length_cons] at hn
      rw [List.map_cons] at h
      rcases t.bracket_cases with ⟨b, rfl⟩ | ⟨s, rfl⟩ | ⟨ho, hc⟩
      · have hopen : balanced (b.shape :: inside) (ts.map Placed.token) = true := by
          cases inside <;> exact h
        rcases ih ts.length (by omega) hopen rfl with ⟨hnil, -⟩ |
          ⟨s, outer, inner, body, q, rest, heq, rfl, hbody, hrest⟩
        · cases hnil
        · obtain ⟨rfl, rfl⟩ := List.cons.inj heq
          rcases ih rest.length (by simp at hn; omega) hrest rfl with ⟨rfl, cs, hcs⟩ |
            ⟨s, outer, inner', cs, q', rest', rfl, rfl, hcs, hrest'⟩
          · exact .inl ⟨rfl, _, Paired.block (p := p) (q := q) hbody hcs⟩
          · have hblock := Paired.block (b := b) (p := p) (q := q) hbody hcs
            exact .inr ⟨s, outer, _, _, q', rest', rfl, by simp, hblock, hrest'⟩
      · cases inside with
        | nil => cases h
        | cons s' outer =>
          obtain ⟨hs, hrest⟩ : s' = s ∧ balanced outer (ts.map Placed.token) = true := by
            simpa [balanced] using h
          subst hs
          exact .inr ⟨s', outer, [], [], p, ts, rfl, rfl, .nil, hrest⟩
      · rw [balanced_token ho hc] at h
        rcases ih ts.length (by omega) h rfl with ⟨rfl, cs, hcs⟩ |
          ⟨s, outer, inner, cs, q, rest, rfl, rfl, hcs, hrest⟩
        · exact .inl ⟨rfl, _, .token ho hc hcs⟩
        · exact .inr ⟨s, outer, _, _, q, rest, rfl, rfl, .token ho hc hcs, hrest⟩

/-! ## Self-contained texts -/

/-- The tokens of a text before a character that is a token behind it. -/
def tokensBefore? (c : Char) (u : List Char) : Option (List Token) :=
  let ts := (tokenize (u ++ [c])).1
  if ts.getLast?.map (·.at_.text) = some [c] then some (ts.dropLast.map Placed.token) else none

/-- Whether a semicolon behind a text is a token outside of all brackets, which are paired. -/
def isSelfContained (u : List Char) : Bool := (tokensBefore? ';' u).any (balanced [])

/-- Tokens that end with a character of its own lead through the text before it. -/
theorem lexes_of_tokens {c : Char} {u : List Char} {p : Position} {ts : List Placed} {x : Placed}
    (hp : p.text = u ++ [c]) (h : (tokensFrom p (u ++ [c])).1 = ts ++ [x])
    (hx : x.at_.text = [c]) :
    ∃ ts', Lexes [c] u ts' ∧ ts.map Placed.token = ts'.map Prod.fst := by
  induction hn : u.length using Nat.strong_induction_on generalizing u p ts with
  | _ n ih =>
    rcases u with _ | ⟨d, u⟩
    · rcases hread : readToken [c] with ⟨t, rest⟩
      have hsuffix := readToken_suffix c []
      rw [hread] at hsuffix
      obtain rfl := List.suffix_nil.1 hsuffix
      rw [List.nil_append, tokensFrom_cons hread, tokensFrom_nil] at h
      have hlen := congrArg List.length h
      obtain rfl : ts = [] := by
        cases t <;> simp at hlen
        exact hlen
      exact ⟨[], .done, rfl⟩
    · rcases hread : readToken (d :: (u ++ [c])) with ⟨t, rest⟩
      have hsuffix := readToken_suffix d (u ++ [c])
      rw [hread] at hsuffix
      have hlonger : ∀ t, ⟨t, p⟩ ≠ x := by
        rintro t rfl
        simp [hp] at hx
      rw [List.cons_append, tokensFrom_cons hread] at h
      rcases List.suffix_concat_iff.1 hsuffix with rfl | ⟨v, rfl, hv⟩
      · rw [tokensFrom_nil] at h
        rcases t with _ | t
        · simp at h
        · have hlast := congrArg List.getLast? h
          simp [hlonger] at hlast
      · have hlen := hv.length_le
        have hafter : (p.advance ((d :: (u ++ [c])).length - (v ++ [c]).length)
            (d :: (u ++ [c]))).text = v ++ [c] := by
          rw [Position.text_advance (by simpa using hp)]
          exact (List.suffix_iff_eq_drop.1 (hsuffix.trans (List.suffix_cons _ _))).symm
        simp only [List.length_cons] at hn
        rcases t with _ | t
        · obtain ⟨ts', hts', heq⟩ := ih v.length (by omega) hafter h rfl
          exact ⟨ts', .comment (by simpa using hread) hts', heq⟩
        · rcases ts with _ | ⟨x, ts⟩
          · simp [hlonger] at h
          · obtain ⟨rfl, htail⟩ := List.cons.inj h
            obtain ⟨ts', hts', heq⟩ := ih v.length (by omega) hafter htail rfl
            exact ⟨_, .token (by simpa using hread) hts', by simp [heq]⟩

/-- The tokens of a text before a stop are its tokens before every stop. -/
theorem lexes_of_tokensBefore {c : Char} {u : List Char} {ts : List Token}
    (h : tokensBefore? c u = some ts) (hc : isStop c = true) :
    ∃ ts', (∀ y, Ends y → Lexes y u ts') ∧ ts'.map Prod.fst = ts := by
  obtain ⟨hlast, h⟩ := Option.ite_none_right_eq_some.1 h
  obtain ⟨x, hx, htext⟩ := Option.map_eq_some_iff.1 hlast
  obtain ⟨us, hus⟩ := List.getLast?_eq_some_iff.1 hx
  rw [hus, List.dropLast_concat, Option.some_inj] at h
  obtain ⟨ts', hlexes, heq⟩ := lexes_of_tokens rfl hus htext
  exact ⟨ts', fun y hy => hlexes.stop hc hy, heq.symm.trans h⟩

theorem tokensBefore?_eq {c : Char} {u : List Char} {t : Token} {ts : List (Token × List Char)}
    (hc : readToken [c] = (some t, [])) (h : Lexes [c] u ts) :
    tokensBefore? c u = some (ts.map Prod.fst) := by
  have hstop : ((⟨0, 1, u ++ [c]⟩ : Position).advance u.length (u ++ [c])).text = [c] := by
    rw [Position.text_advance rfl, List.drop_left]
  simp [tokensBefore?, tokenize_eq, tokensFrom_append h, tokensFrom_token hc, tokensFrom_nil,
    hstop, placed]

/-- The places of a text, in another text that goes on behind it from another place. -/
def relocate (p : Position) (u y : List Char) (q : Position) : Position :=
  { p.advance (u.length - q.text.length) (u ++ y) with text := q.text ++ y }

theorem relocate_advance {p q : Position} {u y : List Char} (hp : p.text = u ++ y)
    (hq : q.text = u) {k : Nat} (hk : k ≤ u.length) :
    relocate p u y (q.advance k (u ++ [])) = p.advance k (u ++ y) := by
  have htext : (q.advance k (u ++ [])).text = u.drop k := by
    rw [List.append_nil, Position.text_advance hq]
  have hp' : (p.advance k (u ++ y)).text = u.drop k ++ y := by
    rw [Position.text_advance hp, List.drop_append_of_le_length hk]
  rw [relocate, htext, List.length_drop, Nat.sub_sub_self hk, ← hp']

/-- The text `u`, from a place on and before `y`, is read as some components of its level. -/
def Stands (p : Position) (u y : List Char) (cs : List Component) : Prop :=
  (tokensFrom p (u ++ y)).2 = (tokensFrom (p.advance u.length (u ++ y)) y).2 ∧
  ∀ stop outer level, pair stop outer level (tokensFrom p (u ++ y)).1 =
    pair stop outer (cs.reverse ++ level) (tokensFrom (p.advance u.length (u ++ y)) y).1

namespace Paired

variable {ts : List (Token × List Char)} {u y : List Char} {p : Position} {cs : List Component}

theorem stands (h : Lexes y u ts) (hcs : Paired (ts.map (placed p u y)) cs) :
    Stands p u y cs := by
  rw [Stands, tokensFrom_append h p]
  exact ⟨rfl, fun stop outer level => hcs.pair_append stop outer level _⟩

end Paired

theorem components_of_paired {u : List Char} {ts : List (Token × List Char)}
    {cs : List Component} (h : Lexes [] u ts)
    (hcs : Paired (ts.map (placed ⟨0, 1, u⟩ u [])) cs) :
    components u = .ofList ((⟨0, 1, u⟩ : Position).advance u.length (u ++ [])) cs := by
  have htokens := tokensFrom_append h ⟨0, 1, u⟩
  rw [List.append_nil] at htokens
  have hpair := hcs.pair_append ((⟨0, 1, u⟩ : Position).advance u.length (u ++ [])) [] [] []
  simp only [List.append_nil] at hpair
  simp only [components, tokenize_eq, htokens, tokensFrom_nil, List.append_nil, hpair]
  simp [pair, closeAll]

/-- A text with paired brackets is read as the same components wherever its tokens are the same. -/
theorem stands_of_balanced {u y : List Char} {ts : List (Token × List Char)}
    (h : balanced [] (ts.map Prod.fst) = true) (halone : Lexes [] u ts) (hthere : Lexes y u ts)
    {p : Position} (hp : p.text = u ++ y) :
    Stands p u y ((components u).toList.map (Component.moved (relocate p u y))) ∧
      relocate p u y (components u).stop = p.advance u.length (u ++ y) := by
  have hplaced : (ts.map (placed ⟨0, 1, u⟩ u [])).map (Placed.moved (relocate p u y)) =
      ts.map (placed p u y) := by
    rw [List.map_map]
    refine List.map_congr_left fun x hx => ?_
    have hlen := (hthere.suffix_of_mem hx).length_le
    simp only [Function.comp_apply, Placed.moved, placed]
    rw [relocate_advance hp rfl (by omega)]
  have hbalanced : balanced [] ((ts.map (placed ⟨0, 1, u⟩ u [])).map Placed.token) = true := by
    simpa [Function.comp_def, placed] using h
  rcases paired_of_balanced hbalanced with ⟨-, cs, hcs⟩ | ⟨s, outer, inner, cs, q, rest, hnil, -⟩
  · have hmoved := hcs.moved (relocate p u y)
    rw [hplaced] at hmoved
    rw [components_of_paired halone hcs, Components.toList_ofList, Components.stop_ofList]
    exact ⟨hmoved.stands hthere, relocate_advance hp rfl (Nat.le_refl _)⟩
  · cases hnil

/-- **Self-contained texts.** Such a text reads as the same components wherever it stands before a
stop. -/
theorem stands_of_isSelfContained {u y : List Char} (h : isSelfContained u = true) (hy : Ends y)
    {p : Position} (hp : p.text = u ++ y) :
    Stands p u y ((components u).toList.map (Component.moved (relocate p u y))) ∧
      relocate p u y (components u).stop = p.advance u.length (u ++ y) := by
  obtain ⟨tokens, htokens, hbalanced⟩ := (Option.any_eq_true _ _).1 h
  obtain ⟨ts, hlexes, rfl⟩ := lexes_of_tokensBefore htokens rfl
  exact stands_of_balanced hbalanced (hlexes [] ends_nil) (hlexes y hy) hp

/-! ## Parts of a text -/

namespace Stands

variable {p : Position} {u v y : List Char} {cs ds : List Component}

theorem nil (p : Position) (y : List Char) : Stands p [] y [] := ⟨rfl, fun _ _ _ => rfl⟩

theorem append (h : Stands p u (v ++ y) cs)
    (hv : Stands (p.advance u.length (u ++ (v ++ y))) v y ds) :
    Stands p (u ++ v) y (cs ++ ds) := by
  have hplace : (p.advance u.length (u ++ (v ++ y))).advance v.length (v ++ y) =
      p.advance (u ++ v).length (u ++ v ++ y) := by
    rw [List.append_assoc]
    have hadd := Position.advance_add p u.length v.length (u ++ (v ++ y))
    rwa [List.drop_left, ← List.length_append] at hadd
  rw [Stands, hplace] at hv
  rw [Stands, List.append_assoc, h.1, hv.1]
  refine ⟨by rw [List.append_assoc], fun stop outer level => ?_⟩
  rw [h.2, hv.2, List.reverse_append, List.append_assoc, List.append_assoc]

/-- A token that is no bracket is a component of its own. -/
theorem token {t : Token} (hu : u ≠ []) (h : readToken (u ++ y) = (some t, y))
    (ho : ∀ b, t ≠ .opening b) (hc : ∀ s, t ≠ .closing s) (p : Position) :
    Stands p u y [.token t p] := by
  obtain ⟨c, v, rfl⟩ := List.exists_cons_of_ne_nil hu
  have hplace : placed p (c :: v) y (t, c :: v) = ⟨t, p⟩ := by
    rw [placed, Nat.sub_self]
    rfl
  refine Paired.stands (.token (v := []) h .done) ?_
  rw [List.map_singleton, hplace]
  exact .token ho hc .nil

/-- A comment is nothing. -/
theorem comment (hu : u ≠ []) (h : readToken (u ++ y) = (none, y)) (p : Position) :
    Stands p u y [] := by
  obtain ⟨c, v, rfl⟩ := List.exists_cons_of_ne_nil hu
  exact Paired.stands (.comment (v := []) h .done) .nil

/-- What stands between braces is a block. -/
theorem braces (h : Stands (p.advance 1 ('\x7b' :: (u ++ '\x7d' :: y))) u ('\x7d' :: y) cs) :
    Stands p ('\x7b' :: (u ++ ['\x7d'])) y
      [.block (.plain .curly) p
        (.ofList (p.advance (1 + u.length) ('\x7b' :: (u ++ '\x7d' :: y))) cs)] := by
  have hopen := tokensFrom_token (c := '\x7b') (y := u ++ '\x7d' :: y) rfl p
  have hstop : (p.advance 1 ('\x7b' :: (u ++ '\x7d' :: y))).advance u.length (u ++ '\x7d' :: y) =
      p.advance (1 + u.length) ('\x7b' :: (u ++ '\x7d' :: y)) :=
    Position.advance_add p 1 u.length ('\x7b' :: (u ++ '\x7d' :: y))
  have hclose := tokensFrom_token (c := '\x7d') (y := y) rfl
    (p.advance (1 + u.length) ('\x7b' :: (u ++ '\x7d' :: y)))
  have hbehind : (p.advance (1 + u.length) ('\x7b' :: (u ++ '\x7d' :: y))).advance 1 ('\x7d' :: y) =
      p.advance ('\x7b' :: (u ++ ['\x7d'])).length ('\x7b' :: (u ++ ['\x7d']) ++ y) := by
    have hadd := Position.advance_add p (1 + u.length) 1 ('\x7b' :: (u ++ '\x7d' :: y))
    rw [Nat.add_comm 1 u.length, List.drop_succ_cons, List.drop_left] at hadd
    rw [Nat.add_comm 1 u.length, hadd]
    simp
  rw [hbehind] at hclose
  rw [Stands, hstop, hclose] at h
  rw [Stands, List.cons_append, List.append_assoc, List.singleton_append, hopen, h.1]
  refine ⟨by simp, fun stop outer level => ?_⟩
  have hcurly : (Bracket.plain .curly).shape = .curly := rfl
  rw [pair, h.2, pair, if_pos hcurly]
  simp

end Stands

/-- A text that is read as components is made of them. -/
theorem components_of_stands {u : List Char} {cs : List Component}
    (h : Stands ⟨0, 1, u⟩ u [] cs) : ∃ stop, components u = .ofList stop cs := by
  obtain ⟨hstop, hpair⟩ := h
  simp only [List.append_nil, tokensFrom_nil] at hstop hpair
  refine ⟨(tokensFrom ⟨0, 1, u⟩ u).2, ?_⟩
  rw [components, tokenize_eq]
  simp [hpair, pair, closeAll]

end StyleBuild.Css
