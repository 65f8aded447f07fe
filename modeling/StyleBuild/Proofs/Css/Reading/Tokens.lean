import StyleBuild.Proofs.Css.Reading.Stop
import StyleBuild.Css.Component

/-!
# The tokens of a part of a text

`Lexes y u ts` says that reading tokens leads through the text `u` to the text `y` behind it. The
tokens of the whole are then those of `u` and those of `y`, at the places where they stand
(`tokensFrom_append`), and before a stop they are the same whatever comes from the stop on
(`Lexes.stop`).
-/

namespace StyleBuild.Css

/-! ## Places -/

namespace Position

/-- Go on by a number of characters. -/
theorem advance_add (p : Position) (j k : Nat) (cs : List Char) :
    (p.advance j cs).advance k (cs.drop j) = p.advance (j + k) cs := by
  induction j generalizing p cs with
  | zero => simp [advance]
  | succ j ih =>
    cases cs with
    | nil => cases k <;> simp [advance]
    | cons c cs =>
      rw [Nat.add_right_comm, advance, advance]
      exact ih _ cs

theorem text_after (p : Position) (c : Char) (next : List Char) : (p.after c next).text = next := by
  unfold after
  split
  · rfl
  · split
    · split <;> rfl
    · rfl

theorem text_advance {p : Position} {cs : List Char} (h : p.text = cs) (k : Nat) :
    (p.advance k cs).text = cs.drop k := by
  induction k generalizing p cs with
  | zero => simpa [advance] using h
  | succ k ih =>
    cases cs with
    | nil => simpa [advance] using h
    | cons c cs => exact ih (text_after p c cs)

end Position

/-! ## Tokens -/

/-- Reading tokens leads from `u ++ y` to `y`. Every token comes with what is left of `u` where it
starts. -/
inductive Lexes (y : List Char) : List Char → List (Token × List Char) → Prop
  | done : Lexes y [] []
  | token {c : Char} {u v : List Char} {t : Token} {ts : List (Token × List Char)}
    (h : readToken (c :: u ++ y) = (some t, v ++ y)) (hv : Lexes y v ts) :
    Lexes y (c :: u) ((t, c :: u) :: ts)
  | comment {c : Char} {u v : List Char} {ts : List (Token × List Char)}
    (h : readToken (c :: u ++ y) = (none, v ++ y)) (hv : Lexes y v ts) : Lexes y (c :: u) ts

namespace Lexes

variable {y u : List Char} {ts : List (Token × List Char)}

/-- Before a stop it does not matter which stop it is and what comes behind. -/
theorem stop {c : Char} {z : List Char} (hc : isStop c = true) (hz : Ends z)
    (h : Lexes (c :: y) u ts) : Lexes z u ts := by
  induction h with
  | done => exact .done
  | token h _ ih => exact .token (readToken_stop hc hz h) ih
  | comment h _ ih => exact .comment (readToken_stop hc hz h) ih

theorem suffix_of_readToken {c : Char} {v : List Char} {t : Option Token}
    (h : readToken (c :: u ++ y) = (t, v ++ y)) : v <:+ u := by
  have hs := readToken_suffix c (u ++ y)
  rw [List.cons_append] at h
  rw [h] at hs
  obtain ⟨w, hw⟩ := hs
  exact ⟨w, List.append_cancel_right (by rwa [List.append_assoc])⟩

/-- Tokens start inside of the text. -/
theorem suffix_of_mem (h : Lexes y u ts) {x : Token × List Char} (hx : x ∈ ts) : x.2 <:+ u := by
  induction h with
  | done => cases hx
  | token h _ ih =>
    rcases List.mem_cons.1 hx with rfl | hx
    · exact List.suffix_rfl
    · exact (ih hx).trans ((suffix_of_readToken h).trans (List.suffix_cons _ _))
  | comment h _ ih => exact (ih hx).trans ((suffix_of_readToken h).trans (List.suffix_cons _ _))

theorem append {v : List Char} {ts' : List (Token × List Char)} (h : Lexes (v ++ y) u ts)
    (hv : Lexes y v ts') :
    Lexes y (u ++ v) (ts.map (fun x => (x.1, x.2 ++ v)) ++ ts') := by
  induction h with
  | done => exact hv
  | @token c u w t ts h _ ih =>
    have h' : readToken (c :: (u ++ v) ++ y) = (some t, (w ++ v) ++ y) := by
      simpa [List.append_assoc] using h
    exact .token h' ih
  | @comment c u w ts h _ ih =>
    have h' : readToken (c :: (u ++ v) ++ y) = (none, (w ++ v) ++ y) := by
      simpa [List.append_assoc] using h
    exact .comment h' ih

end Lexes

/-- The tokens from a place on, and the place where the text ends. -/
def tokensFrom (p : Position) (cs : List Char) : List Placed × Position := readTokens cs.length p cs

theorem tokenize_eq (cs : List Char) : tokenize cs = tokensFrom ⟨0, 1, cs⟩ cs := rfl

theorem readTokens_nil (n : Nat) (p : Position) : readTokens n p [] = ([], p) := by
  cases n <;> rfl

theorem readTokens_cons (n : Nat) (p : Position) (c : Char) (cs : List Char) :
    readTokens (n + 1) p (c :: cs) =
      let (t, rest) := readToken (c :: cs)
      let (ts, stop) :=
        readTokens n (p.advance ((c :: cs).length - rest.length) (c :: cs)) rest
      (t.elim ts (⟨·, p⟩ :: ts), stop) := by
  rw [readTokens]
  · rcases readToken (c :: cs) with ⟨t, rest⟩
    cases t <;> rfl
  · simp

/-- More steps than characters change nothing. -/
theorem readTokens_enough {n m : Nat} {cs : List Char} (hn : cs.length ≤ n) (hm : cs.length ≤ m)
    (p : Position) : readTokens n p cs = readTokens m p cs := by
  induction n generalizing m p cs with
  | zero =>
    obtain rfl := List.length_eq_zero_iff.1 (Nat.le_zero.1 hn)
    rw [readTokens_nil, readTokens_nil]
  | succ n ih =>
    rcases cs with _ | ⟨c, cs⟩
    · rw [readTokens_nil, readTokens_nil]
    · obtain ⟨m, rfl⟩ : ∃ k, m = k + 1 := ⟨m - 1, by simp at hm; omega⟩
      have hlen := (readToken_suffix c cs).length_le
      simp only [List.length_cons] at hn hm
      rw [readTokens_cons, readTokens_cons]
      simp only [ih (m := m) (Nat.le_trans hlen (by omega)) (Nat.le_trans hlen (by omega))]

theorem tokensFrom_nil (p : Position) : tokensFrom p [] = ([], p) := rfl

theorem tokensFrom_cons {c : Char} {cs rest : List Char} {t : Option Token}
    (h : readToken (c :: cs) = (t, rest)) (p : Position) :
    tokensFrom p (c :: cs) =
      let next := tokensFrom (p.advance ((c :: cs).length - rest.length) (c :: cs)) rest
      (t.elim next.1 (⟨·, p⟩ :: next.1), next.2) := by
  have hlen := (readToken_suffix c cs).length_le
  rw [h] at hlen
  rw [tokensFrom, List.length_cons, readTokens_cons, h]
  simp only [readTokens_enough hlen (Nat.le_refl _), tokensFrom]
  rfl

theorem tokensFrom_token {c : Char} {t : Token} {y : List Char}
    (h : readToken (c :: y) = (some t, y)) (p : Position) :
    tokensFrom p (c :: y) = (⟨t, p⟩ :: (tokensFrom (p.advance 1 (c :: y)) y).1,
      (tokensFrom (p.advance 1 (c :: y)) y).2) := by
  have hlen : (c :: y).length - y.length = 1 := by simp
  rw [tokensFrom_cons h, hlen]
  rfl

/-- Where a token of a text is that starts at a place, with another text behind. -/
def placed (p : Position) (u y : List Char) (x : Token × List Char) : Placed :=
  ⟨x.1, p.advance (u.length - x.2.length) (u ++ y)⟩

/-- A place behind the start of a text, told from a later place. -/
theorem advance_advance {u v y : List Char} (h : v <:+ u) (p : Position) (k : Nat) :
    (p.advance (u.length - v.length) (u ++ y)).advance k (v ++ y) =
      p.advance (u.length - v.length + k) (u ++ y) := by
  obtain ⟨w, rfl⟩ := h
  have hw : (w ++ v).length - v.length = w.length := by simp
  rw [hw, ← Position.advance_add p w.length k, List.append_assoc, List.drop_left]

theorem placed_advance {u v y : List Char} (h : v <:+ u) (p : Position) {x : Token × List Char}
    (hx : x.2 <:+ v) :
    placed (p.advance (u.length - v.length) (u ++ y)) v y x = placed p u y x := by
  have hxv := hx.length_le
  have hvu := h.length_le
  rw [placed, placed, advance_advance h p]
  congr 2
  omega

theorem tokensFrom_append_step {c : Char} {u v y : List Char} {t : Option Token}
    {ts : List (Token × List Char)} (h : readToken (c :: u ++ y) = (t, v ++ y))
    (hv : Lexes y v ts) (p : Position)
    (ih : ∀ p, tokensFrom p (v ++ y) =
      (ts.map (placed p v y) ++ (tokensFrom (p.advance v.length (v ++ y)) y).1,
        (tokensFrom (p.advance v.length (v ++ y)) y).2)) :
    let tail := ts.map (placed p (c :: u) y) ++
      (tokensFrom (p.advance (c :: u).length (c :: u ++ y)) y).1
    tokensFrom p (c :: u ++ y) =
      (t.elim tail (⟨·, p⟩ :: tail),
        (tokensFrom (p.advance (c :: u).length (c :: u ++ y)) y).2) := by
  have hsuffix : v <:+ c :: u := (Lexes.suffix_of_readToken h).trans (List.suffix_cons _ _)
  have hlen := hsuffix.length_le
  have hstep : (c :: (u ++ y)).length - (v ++ y).length = (c :: u).length - v.length := by
    simp only [List.length_cons, List.length_append]
    omega
  have hplaced : ts.map (placed (p.advance ((c :: u).length - v.length) (c :: u ++ y)) v y) =
      ts.map (placed p (c :: u) y) :=
    List.map_congr_left fun x hx => placed_advance hsuffix p (hv.suffix_of_mem hx)
  have hstop : (p.advance ((c :: u).length - v.length) (c :: u ++ y)).advance v.length (v ++ y) =
      p.advance (c :: u).length (c :: u ++ y) := by
    rw [advance_advance hsuffix p]
    congr 1
    omega
  rw [List.cons_append] at h
  rw [List.cons_append, tokensFrom_cons h, hstep, ← List.cons_append, ih, hplaced, hstop]

/-- The tokens of a text are those of a part and then those of the rest. -/
theorem tokensFrom_append {y u : List Char} {ts : List (Token × List Char)} (h : Lexes y u ts)
    (p : Position) :
    tokensFrom p (u ++ y) =
      (ts.map (placed p u y) ++ (tokensFrom (p.advance u.length (u ++ y)) y).1,
        (tokensFrom (p.advance u.length (u ++ y)) y).2) := by
  induction h generalizing p with
  | done => rfl
  | @token c u v t ts h hv ih =>
    rw [tokensFrom_append_step h hv p ih, List.map_cons, placed, Nat.sub_self]
    rfl
  | @comment c u v ts h hv ih =>
    rw [tokensFrom_append_step h hv p ih]
    rfl

end StyleBuild.Css
