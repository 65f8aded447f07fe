import StyleBuild.Proofs.Css.Reading.Rules
import StyleBuild.Proofs.Css.Reading.Words

/-!
# Texts of complete rules

A text is complete if it ends, white space and comments aside, with the brace or the semicolon of a
rule (`IsComplete`). What comes behind such a text does not change how it is read
(`stands_of_isComplete`), and the rules of the whole are those of the text and then those of what
comes behind (`readRules_of_isSettled`).
-/

namespace StyleBuild.Css

/-! ## Levels that go on -/

/-- Open blocks of which the outermost stands behind some components. -/
def behindBlocks (pre : List Component) : List OpenBlock → List OpenBlock
  | [] => []
  | [o] => [{ o with before := o.before ++ pre }]
  | o :: o' :: outer => o :: behindBlocks pre (o' :: outer)

/-- A level behind some components, unless these stand outside of it. -/
def behindLevel (pre : List Component) (outer : List OpenBlock) (level : List Component) :
    List Component := if outer.isEmpty then level ++ pre else level

section

variable {pre : List Component} {o : OpenBlock} {outer : List OpenBlock} {level : List Component}
  {stop : Position}

theorem behindBlocks_open (b : Bracket) (p : Position) :
    behindBlocks pre (⟨b, p, level⟩ :: outer) =
      ⟨b, p, behindLevel pre outer level⟩ :: behindBlocks pre outer := by
  cases outer <;> rfl

theorem behindBlocks_cons : behindBlocks pre (o :: outer) =
    { o with before := behindLevel pre outer o.before } :: behindBlocks pre outer :=
  behindBlocks_open o.bracket o.start

theorem behindLevel_cons (c : Component) :
    behindLevel pre outer (c :: level) = c :: behindLevel pre outer level := by
  unfold behindLevel
  split <;> rfl

theorem closeAll_behind : closeAll stop (behindBlocks pre outer) (behindLevel pre outer level) =
    closeAll stop outer level ++ pre := by
  induction outer generalizing level with
  | nil => rfl
  | cons o outer ih =>
    rw [behindBlocks_cons, closeAll, closeAll, ← ih, behindLevel_cons]
    rfl

/-- What a level starts with stays in front. -/
theorem pair_behind (ts : List Placed) :
    pair stop (behindBlocks pre outer) (behindLevel pre outer level) ts =
      pre.reverse ++ pair stop outer level ts := by
  induction ts generalizing outer level with
  | nil => rw [pair, pair, closeAll_behind, List.reverse_append]
  | cons x ts ih =>
    obtain ⟨t, p⟩ := x
    rcases t.bracket_cases with ⟨b, rfl⟩ | ⟨s, rfl⟩ | ⟨ho, hc⟩
    · rw [pair, pair, ← behindBlocks_open]
      exact ih
    · cases outer with
      | nil =>
        rw [behindBlocks, pair, pair, ← behindLevel_cons]
        exact (ih : pair stop (behindBlocks pre []) (behindLevel pre [] _) ts = _)
      | cons o outer =>
        rw [behindBlocks_cons, pair, pair]
        split
        · rw [← ih, behindLevel_cons]
          rfl
        · rw [← ih, behindLevel_cons, behindBlocks_cons]
    · rw [pair_token ho hc, pair_token ho hc, ← behindLevel_cons, ih]

end

/-- The components of a text from a place on. -/
def componentsFrom (p : Position) (cs : List Char) : Components :=
  .ofList (tokensFrom p cs).2 (pair (tokensFrom p cs).2 [] [] (tokensFrom p cs).1)

theorem components_eq (cs : List Char) : components cs = componentsFrom ⟨0, 1, cs⟩ cs := rfl

/-- The components of a text that goes on. -/
theorem Stands.componentsFrom_append {p : Position} {u y : List Char} {cs : List Component}
    (h : Stands p u y cs) : ∃ stop rest,
      componentsFrom p (u ++ y) = .ofList stop (cs ++ rest) ∧
        componentsFrom (p.advance u.length (u ++ y)) y = .ofList stop rest := by
  obtain ⟨hstop, hpair⟩ := h
  have hbehind : pair (tokensFrom p (u ++ y)).2 (behindBlocks cs.reverse [])
      (behindLevel cs.reverse [] []) (tokensFrom (p.advance u.length (u ++ y)) y).1 = _ :=
    pair_behind _
  rw [List.reverse_reverse] at hbehind
  refine ⟨(tokensFrom p (u ++ y)).2, _, ?_, by rw [componentsFrom, ← hstop]⟩
  rw [componentsFrom, hpair, List.append_nil]
  exact congrArg _ hbehind

/-! ## Rules that go on -/

/-- What may be unfinished in a sheet: nothing, also if a `@charset` may still come; a `@charset`;
an at-rule, or anything else. -/
inductive Unfinished where
  | start
  | charset
  | nothing
  | atRule
  | other
  deriving DecidableEq

/-- What is unfinished behind one more component. -/
def Unfinished.after : Unfinished → Component → Unfinished
  | .start, .token (.blank _) _ => .start
  | .start, .token .htmlOpen _ => .start
  | .start, .token .htmlClose _ => .start
  | .start, .token (.atKeyword n) _ => if n.toLower = "charset" then .charset else .atRule
  | .charset, .token .semicolon _ => .nothing
  | .charset, _ => .charset
  | .nothing, .token (.blank _) _ => .nothing
  | .nothing, .token .htmlOpen _ => .nothing
  | .nothing, .token .htmlClose _ => .nothing
  | .nothing, .token (.atKeyword _) _ => .atRule
  | .atRule, .token .semicolon _ => .nothing
  | _, .block (.plain .curly) _ _ => .nothing
  | .atRule, _ => .atRule
  | _, _ => .other

/-- Whether components end outside of all rules of a sheet. -/
def isSettled (cs : List Component) : Bool :=
  [.start, .nothing].contains (cs.foldl Unfinished.after .start)

/-- What is unfinished where something waits. -/
def Pending.unfinished : Pending → Unfinished
  | .nothing => .nothing
  | .atRule _ _ _ => .atRule
  | .other _ => .other

section

variable {progress : Progress} {done rules : List Rule} {pending : Pending} {stop : Position}
  {c : Component} {cs ds : List Component}

/-- A component that leads on: what waits behind it, and the rules that it completes. -/
theorem rulesFrom_token {t : Token} {p : Position}
    (h : rulesFrom true progress done pending (.ofList stop (.token t p :: cs)) = .ok rules) :
    ∃ progress' pending' new, pending'.unfinished = pending.unfinished.after (.token t p) ∧
      ∀ done, rulesFrom true progress done pending (.ofList stop (.token t p :: cs)) =
        rulesFrom true progress' (new ++ done) pending' (.ofList stop cs) := by
  cases pending with
  | nothing =>
    simp only [Components.ofList]
    cases t <;> first
      | exact ⟨progress, .nothing, [], rfl, fun _ => rfl⟩
      | exact ⟨progress, .atRule _ _ _, [], rfl, fun _ => rfl⟩
      | exact ⟨progress, .other _, [], rfl, fun _ => rfl⟩
  | atRule name q passed =>
    by_cases ht : t = .semicolon
    · subst ht
      rw [Components.ofList, rulesFrom] at h
      simp only [Components.ofList, rulesFrom]
      split at h
      · cases h
      · next hlate =>
        split at h
        · next r hr =>
          exact ⟨progress.behind r, .nothing, r.toList, rfl, fun _ => if_neg hlate⟩
        · cases h
    · have hflat : (Component.token t p).isFlat = true := by
        cases t <;> first | rfl | exact absurd rfl ht
      refine ⟨progress, (Pending.atRule name q passed).add (.token t p), [], ?_,
        fun _ => rulesFrom_add rfl hflat⟩
      cases t <;> first | rfl | exact absurd rfl ht
  | other passed =>
    refine ⟨progress, (Pending.other passed).add (.token t p), [], by cases t <;> rfl, fun _ => ?_⟩
    rw [Components.ofList, rulesFrom]
    · rfl
    all_goals
      intros
      contradiction

theorem rulesFrom_block {b : Bracket} {p : Position} {body : Components}
    (h : rulesFrom true progress done pending (.ofList stop (.block b p body :: cs)) = .ok rules) :
    ∃ progress' pending' new, pending'.unfinished = pending.unfinished.after (.block b p body) ∧
      ∀ done, rulesFrom true progress done pending (.ofList stop (.block b p body :: cs)) =
        rulesFrom true progress' (new ++ done) pending' (.ofList stop cs) := by
  by_cases hb : b = .plain .curly
  · subst hb
    cases pending
    case atRule name q passed =>
      rw [Components.ofList, rulesFrom] at h
      simp only [Components.ofList, rulesFrom]
      split at h
      · cases h
      · next hlate =>
        split at h
        · cases h
        · next head hhead =>
          split at h
          · next r hr =>
            exact ⟨.body, .nothing, [r], rfl, fun _ => if_neg hlate⟩
          · cases h
    case nothing =>
      rw [Components.ofList, rulesFrom.eq_11 _ _ _ _ _ _ _ (by simp) (by simp)] at h
      split at h
      · cases h
      · next ss hss =>
        split at h
        · cases h
        · next block inner hbody =>
          refine ⟨.body, .nothing, [.style ss block inner .none], rfl, fun _ => ?_⟩
          rw [Components.ofList, rulesFrom.eq_11 _ _ _ _ _ _ _ (by simp) (by simp)]
          simp only [hss, hbody, List.singleton_append]
    case other passed =>
      rw [Components.ofList, rulesFrom] at h
      simp only [Components.ofList, rulesFrom]
      split at h
      · cases h
      · next ss _ =>
        split at h
        · cases h
        · next block inner _ =>
          exact ⟨.body, .nothing, [.style ss block inner .none], rfl, fun _ => rfl⟩
  · have hopen : (pending.add (.block b p body)).unfinished =
        pending.unfinished.after (.block b p body) := by
      rcases b with ⟨s⟩ | n
      · cases s <;> first | exact absurd rfl hb | (cases pending <;> rfl)
      · cases pending <;> rfl
    refine ⟨progress, pending.add (.block b p body), [], hopen, fun _ => ?_⟩
    rw [Components.ofList, rulesFrom]
    · rfl
    · exact hb

/-- One more component of a sheet that can be read. -/
theorem rulesFrom_step
    (h : rulesFrom true progress done pending (.ofList stop (c :: cs)) = .ok rules) :
    ∃ progress' pending' new, pending'.unfinished = pending.unfinished.after c ∧
      ∀ done, rulesFrom true progress done pending (.ofList stop (c :: cs)) =
        rulesFrom true progress' (new ++ done) pending' (.ofList stop cs) := by
  cases c with
  | token t p => exact rulesFrom_token h
  | block b p body => exact rulesFrom_block h

/-- More components of a sheet that can be read. -/
theorem rulesFrom_steps
    (h : rulesFrom true progress done pending (.ofList stop (cs ++ ds)) = .ok rules) :
    ∃ progress' pending' new, pending'.unfinished = cs.foldl Unfinished.after pending.unfinished ∧
      ∀ done, rulesFrom true progress done pending (.ofList stop (cs ++ ds)) =
        rulesFrom true progress' (new ++ done) pending' (.ofList stop ds) := by
  induction cs generalizing progress done pending with
  | nil => exact ⟨progress, pending, [], rfl, fun _ => rfl⟩
  | cons c cs ih =>
    obtain ⟨progress', pending', new, hafter, hstep⟩ := rulesFrom_step h
    obtain ⟨progress'', pending'', new', hafter', hsteps⟩ := ih ((hstep done).symm.trans h)
    refine ⟨progress'', pending'', new' ++ new, by rw [hafter', hafter]; rfl, fun done => ?_⟩
    rw [List.append_assoc, ← hsteps]
    exact hstep done

/-- The rules that have been read stay in front. -/
theorem rulesFrom_done
    (h : rulesFrom true progress done pending (.ofList stop cs) = .ok rules) :
    ∃ more, rules = done.reverse ++ more ∧
      rulesFrom true progress [] pending (.ofList stop cs) = .ok more := by
  rw [← List.append_nil cs] at h ⊢
  obtain ⟨progress', pending', new, -, hsteps⟩ := rulesFrom_steps h
  rw [hsteps, Components.ofList] at h ⊢
  cases pending' with
  | nothing =>
    obtain rfl := Except.ok.inj h
    exact ⟨new.reverse, List.reverse_append, by simp [rulesFrom]⟩
  | atRule name q passed =>
    rw [rulesFrom] at h ⊢
    split at h
    · cases h
    · next hlate =>
      rw [if_neg hlate]
      split at h
      · next r hr =>
        obtain rfl := Except.ok.inj h
        exact ⟨(r :: new).reverse, by simp, by simp⟩
      · next hr =>
        obtain rfl := Except.ok.inj h
        exact ⟨new.reverse, List.reverse_append, by simp⟩
      · cases h
  | other passed => cases h

theorem rulesFrom_of_nothing (hcs : cs.foldl Unfinished.after .nothing ∈ [.start, .nothing])
    (h : rulesFrom true progress [] .nothing (.ofList stop (cs ++ ds)) = .ok rules) :
    ∃ progress new, rulesFrom true progress new .nothing (.ofList stop ds) = .ok rules := by
  obtain ⟨progress', pending', new, hafter, hrest⟩ := rulesFrom_steps h
  rw [Pending.unfinished] at hafter
  rw [← hafter] at hcs
  cases pending' with
  | nothing => exact ⟨progress', _, (hrest []).symm.trans h⟩
  | atRule => simp [Pending.unfinished] at hcs
  | other => simp [Pending.unfinished] at hcs

theorem rulesFrom_of_charset (hcs : cs.foldl Unfinished.after .charset ∈ [.start, .nothing])
    (h : rulesFrom true progress [] .nothing (Components.ofList stop (cs ++ ds)).afterSemicolon =
      .ok rules) :
    ∃ progress new, rulesFrom true progress new .nothing (.ofList stop ds) = .ok rules := by
  induction cs with
  | nil => simp at hcs
  | cons c cs ih =>
    rcases c with ⟨t, p⟩ | ⟨b, p, body⟩
    · by_cases ht : t = .semicolon
      · subst ht
        exact rulesFrom_of_nothing hcs h
      · have hafter : Unfinished.after .charset (.token t p) = .charset := by
          cases t <;> first | rfl | exact absurd rfl ht
        rw [List.foldl_cons, hafter] at hcs
        rw [List.cons_append, Components.ofList, Components.afterSemicolon] at h
        · exact ih hcs h
        · exact ht
    · exact ih hcs h

/-- The first rule behind components that end outside of all rules. -/
theorem readRules_of_isSettled
    (hds : (Components.ofList stop ds).dropCharset = .ofList stop ds)
    (hcs : isSettled cs = true) (h : readRules (.ofList stop (cs ++ ds)) = .ok rules) :
    ∃ progress new, rulesFrom true progress new .nothing (.ofList stop ds) = .ok rules := by
  simp only [isSettled, List.contains_iff_mem] at hcs
  rw [readRules] at h
  induction cs with
  | nil =>
    rw [List.nil_append, hds] at h
    exact ⟨_, _, h⟩
  | cons c cs ih =>
    -- Unless a `@charset` may still come, the components are those of an ordinary list of rules.
    have hbody (hafter : Unfinished.after .start c = .after .nothing c)
        (hdrop : (Components.ofList stop (c :: (cs ++ ds))).dropCharset =
          .ofList stop (c :: (cs ++ ds))) :
        ∃ progress new, rulesFrom true progress new .nothing (.ofList stop ds) = .ok rules := by
      rw [List.cons_append, hdrop, ← List.cons_append] at h
      rw [List.foldl_cons, hafter, ← List.foldl_cons] at hcs
      exact rulesFrom_of_nothing hcs h
    rcases c with ⟨t, p⟩ | ⟨b, p, body⟩
    · cases t
      case blank => exact ih h hcs
      case htmlOpen => exact ih h hcs
      case htmlClose => exact ih h hcs
      case atKeyword n =>
        by_cases hn : n.toLower = "charset"
        · rw [List.cons_append, Components.ofList, Components.dropCharset, if_pos hn] at h
          rw [List.foldl_cons, Unfinished.after, if_pos hn] at hcs
          exact rulesFrom_of_charset hcs h
        · refine hbody ?_ ?_
          · rw [Unfinished.after, if_neg hn]
            rfl
          · rw [Components.ofList, Components.dropCharset, if_neg hn]
      all_goals exact hbody rfl rfl
    · refine hbody ?_ rfl
      rcases b with ⟨s⟩ | n
      · cases s <;> rfl
      · rfl

end

/-! ## White space and comments -/

mutual

/-- Whether a text is white space and comments. -/
def isSpacing : List Char → Bool
  | [] => true
  | '/' :: '*' :: cs => endsComment cs
  | c :: cs => isSpace c && isSpacing cs

/-- Whether a text is the end of a comment, and then white space and comments. -/
def endsComment : List Char → Bool
  | '*' :: '/' :: cs => isSpacing cs
  | _ :: cs => endsComment cs
  | [] => false

end

theorem isSpacing_cons {c : Char} {cs : List Char} (h : isSpacing (c :: cs) = true) :
    (c = '/' ∧ ∃ u, cs = '*' :: u ∧ endsComment u = true) ∨
      isSpace c = true ∧ isSpacing cs = true := by
  unfold isSpacing at h
  split at h
  · next heq => cases heq
  · next u heq =>
    obtain ⟨rfl, rfl⟩ := List.cons.inj heq
    exact .inl ⟨rfl, u, rfl, h⟩
  · next heq =>
    obtain ⟨rfl, rfl⟩ := List.cons.inj heq
    exact .inr (Bool.and_eq_true_iff.1 h)

theorem isSpacing_of_isSpace {c : Char} (hc : isSpace c = true) (cs : List Char) :
    isSpacing (c :: cs) = isSpacing cs := by
  rw [isSpacing, hc, Bool.true_and]
  rintro _ rfl
  cases hc

theorem endsComment_cons {c : Char} {cs : List Char} (h : endsComment (c :: cs) = true) :
    (c = '*' ∧ ∃ u, cs = '/' :: u ∧ isSpacing u = true) ∨
      (c = '*' → cs.head? ≠ some '/') ∧ endsComment cs = true := by
  unfold endsComment at h
  split at h
  · next heq =>
    obtain ⟨rfl, rfl⟩ := List.cons.inj heq
    exact .inl ⟨rfl, _, rfl, h⟩
  · next hne heq =>
    obtain ⟨rfl, rfl⟩ := List.cons.inj heq
    refine .inr ⟨?_, h⟩
    rintro rfl hslash
    obtain ⟨u, rfl⟩ := List.head?_eq_some_iff.1 hslash
    exact hne u rfl rfl
  · next heq => cases heq

theorem endsComment_of_head {c : Char} {cs : List Char} (h : c = '*' → cs.head? ≠ some '/') :
    endsComment (c :: cs) = endsComment cs := by
  rw [endsComment]
  rintro u rfl rfl
  exact h rfl rfl

/-- White space and comments go on with white space and comments. -/
theorem isSpacing_append {u v : List Char} (hv : isSpacing v = true) :
    (isSpacing u = true → isSpacing (u ++ v) = true) ∧
      (endsComment u = true → endsComment (u ++ v) = true) := by
  induction hn : u.length using Nat.strong_induction_on generalizing u with
  | _ n ih =>
    rcases u with _ | ⟨c, u⟩
    · exact ⟨fun _ => hv, nofun⟩
    refine ⟨fun h => ?_, fun h => ?_⟩
    · rcases isSpacing_cons h with ⟨rfl, u, rfl, hu⟩ | ⟨hc, hu⟩
      · exact (ih u.length (by simp at hn; omega) rfl).2 hu
      · rw [List.cons_append, isSpacing_of_isSpace hc]
        exact (ih u.length (by simp at hn; omega) rfl).1 hu
    · rcases endsComment_cons h with ⟨rfl, u, rfl, hu⟩ | ⟨hc, hu⟩
      · exact (ih u.length (by simp at hn; omega) rfl).1 hu
      · have hne : u ≠ [] := by rintro rfl; cases hu
        have hhead : (u ++ v).head? = u.head? := by
          obtain ⟨d, u, rfl⟩ := List.exists_cons_of_ne_nil hne
          rfl
        rw [List.cons_append, endsComment_of_head (by rwa [hhead])]
        exact (ih u.length (by simp at hn; omega) rfl).2 hu

section

variable {u y : List Char}

/-- The end of a comment is skipped, whatever comes behind it. -/
theorem skipComment_of_endsComment (h : endsComment u = true) :
    ∃ w v, u = w ++ v ∧ isSpacing v = true ∧ ∀ y, skipComment (w ++ y) = y := by
  induction u with
  | nil => cases h
  | cons c cs ih =>
    rcases endsComment_cons h with ⟨rfl, v, rfl, hv⟩ | ⟨hc, hcs⟩
    · exact ⟨['*', '/'], v, rfl, hv, fun _ => rfl⟩
    · obtain ⟨w, v, rfl, hv, hskip⟩ := ih hcs
      refine ⟨c :: w, v, rfl, hv, fun y => ?_⟩
      rw [List.cons_append, skipComment, hskip]
      rintro rest rfl heq
      rcases w with _ | ⟨d, w⟩
      · exact absurd (hskip ['a']) (by decide)
      · obtain ⟨rfl, -⟩ := List.cons.inj heq
        exact hc rfl rfl

theorem isSpacing_dropWhile (h : isSpacing u = true) : isSpacing (u.dropWhile isSpace) = true := by
  induction u with
  | nil => rfl
  | cons c cs ih =>
    rw [List.dropWhile_cons]
    split
    · next hc =>
      rcases isSpacing_cons h with ⟨rfl, -⟩ | ⟨-, hcs⟩
      · cases hc
      · exact ih hcs
    · exact h

/-- White space and comments are read as white space. -/
theorem stands_spacing (h : isSpacing u = true) (hy : ∀ d ∈ y.head?, isSpace d = false)
    (p : Position) :
    ∃ cs, Stands p u y cs ∧ ∀ c ∈ cs, c.isBlank = true := by
  induction hn : u.length using Nat.strong_induction_on generalizing u p with
  | _ n ih =>
    rcases u with _ | ⟨c, u⟩
    · exact ⟨[], .nil p y, by simp⟩
    rcases isSpacing_cons h with ⟨rfl, u, rfl, hu⟩ | ⟨hc, -⟩
    · obtain ⟨w, v, rfl, hv, hskip⟩ := skipComment_of_endsComment hu
      have hcomment := Stands.comment (u := '/' :: '*' :: w) (y := v ++ y) (by simp)
        (by rw [List.cons_append, List.cons_append, readToken, hskip]) p
      obtain ⟨cs, hcs, hblank⟩ := ih v.length (by simp at hn; omega) hv
        (p.advance ('/' :: '*' :: w).length ('/' :: '*' :: w ++ (v ++ y))) rfl
      exact ⟨cs, hcomment.append hcs, hblank⟩
    · have hsplit := List.takeWhile_append_dropWhile (p := isSpace) (l := c :: u)
      have hlen : ((c :: u).dropWhile isSpace).length < n := by
        rw [List.dropWhile_cons, if_pos hc, ← hn]
        exact Nat.lt_succ_of_le (List.dropWhile_suffix _).length_le
      have hhead : ∀ d ∈ ((c :: u).dropWhile isSpace ++ y).head?, isSpace d = false := by
        intro d hd
        rcases hrest : (c :: u).dropWhile isSpace with _ | ⟨e, rest⟩
        · rw [hrest] at hd
          exact hy d hd
        · rw [hrest] at hd
          obtain rfl := Option.some.inj hd
          have hnot := List.head_dropWhile_not isSpace (l := c :: u) (by rw [hrest]; simp)
          simpa [hrest] using hnot
      have hblanks := stands_blank (u := (c :: u).takeWhile isSpace)
        (by simp [hc]) (fun d hd => List.all_eq_true.1 List.all_takeWhile d hd) hhead p
      obtain ⟨cs, hcs, hblank⟩ := ih _ hlen (isSpacing_dropWhile h)
        (p.advance ((c :: u).takeWhile isSpace).length
          ((c :: u).takeWhile isSpace ++ ((c :: u).dropWhile isSpace ++ y))) rfl
      have hall := hblanks.append hcs
      rw [hsplit] at hall
      refine ⟨_, hall, fun x hx => ?_⟩
      rcases List.mem_cons.1 hx with rfl | hx
      · rfl
      · exact hblank x hx

end

/-! ## Complete rules -/

/-- Whether a brace or a semicolon behind a text ends a rule of it: it is a token of its own, all
brackets are paired, and nothing is unfinished. -/
def closesRule (w : List Char) (c : Char) : Bool :=
  (c == ';' || c == '\x7d') &&
  (tokensBefore? c w).any (fun ts => balanced [] (ts ++ (readToken [c]).1.toList)) &&
  isSettled (components (w ++ [c])).toList

/-- A text of complete rules, white space and comments. -/
def IsComplete (u : List Char) : Prop :=
  isSpacing u = true ∨ ∃ w c v, u = w ++ c :: v ∧ closesRule w c = true ∧ isSpacing v = true

section

variable {u y w : List Char} {c : Char} {cs ds : List Component}

theorem Component.exists_of_isBlank {c : Component} (h : c.isBlank = true) :
    ∃ s p, c = .token (.blank s) p := by
  rcases c with ⟨t, p⟩ | ⟨b, p, body⟩
  · cases t
    case blank s => exact ⟨s, p, rfl⟩
    all_goals cases h
  · cases h

theorem Unfinished.after_moved (q : Unfinished) (g : Position → Position) (c : Component) :
    q.after (c.moved g) = q.after c := by
  rcases c with ⟨t, p⟩ | ⟨⟨s⟩ | n, p, body⟩
  · cases q <;> cases t <;> rfl
  · cases q <;> cases s <;> rfl
  · cases q <;> rfl

theorem isSettled_moved (g : Position → Position) (cs : List Component) :
    isSettled (cs.map (Component.moved g)) = isSettled cs := by
  simp only [isSettled, List.foldl_map, Unfinished.after_moved]

theorem isSettled_append_blank (hcs : isSettled cs = true) (hds : ∀ d ∈ ds, d.isBlank = true) :
    isSettled (cs ++ ds) = true := by
  simp only [isSettled, List.contains_iff_mem, List.foldl_append] at hcs ⊢
  generalize cs.foldl Unfinished.after .start = q at hcs
  induction ds with
  | nil => exact hcs
  | cons d ds ih =>
    obtain ⟨s, p, rfl⟩ := Component.exists_of_isBlank (hds d (by simp))
    have hafter : q.after (.token (.blank s) p) = q := by
      simp only [List.mem_cons, List.not_mem_nil, or_false] at hcs
      rcases hcs with rfl | rfl <;> rfl
    rw [List.foldl_cons, hafter]
    exact ih fun d hd => hds d (by simp [hd])

theorem stands_of_closesRule (h : closesRule w c = true) {p : Position}
    (hp : p.text = w ++ [c] ++ y) :
    ∃ cs, Stands p (w ++ [c]) y cs ∧ isSettled cs = true := by
  obtain ⟨hmark, hsettled⟩ := Bool.and_eq_true_iff.1 h
  obtain ⟨hc, htokens⟩ := Bool.and_eq_true_iff.1 hmark
  obtain ⟨tokens, htokens, hbalanced⟩ := (Option.any_eq_true _ _).1 htokens
  have hclose : isStop c = true ∧ ∃ t, ∀ y, readToken (c :: y) = (some t, y) := by
    rw [Bool.or_eq_true, beq_iff_eq, beq_iff_eq] at hc
    rcases hc with rfl | rfl
    · exact ⟨rfl, .semicolon, fun _ => rfl⟩
    · exact ⟨rfl, .closing .curly, fun _ => rfl⟩
  obtain ⟨hstop, t, ht⟩ := hclose
  obtain ⟨ts, hlexes, rfl⟩ := lexes_of_tokensBefore htokens hstop
  have hall : ∀ y, Lexes y (w ++ [c]) (ts.map (fun x => (x.1, x.2 ++ [c])) ++ [(t, [c])]) :=
    fun y => (hlexes (c :: y) (ends_cons hstop)).append (.token (v := []) (ht y) .done)
  have hpaired : balanced [] ((ts.map (fun x => (x.1, x.2 ++ [c])) ++ [(t, [c])]).map Prod.fst) =
      true := by
    simpa [ht, Function.comp_def] using hbalanced
  refine ⟨_, (stands_of_balanced hpaired (hall []) (hall y) hp).1, ?_⟩
  rwa [isSettled_moved]

/-- Complete rules are read as components that end outside of all rules. -/
theorem stands_of_isComplete (h : IsComplete u) (hy : ∀ d ∈ y.head?, isSpace d = false)
    {p : Position} (hp : p.text = u ++ y) : ∃ cs, Stands p u y cs ∧ isSettled cs = true := by
  rcases h with hu | ⟨w, c, v, rfl, hclose, hv⟩
  · obtain ⟨cs, hcs, hblank⟩ := stands_spacing hu hy p
    exact ⟨cs, hcs, isSettled_append_blank (rfl : isSettled [] = true) hblank⟩
  · have hsplit : w ++ c :: v = w ++ [c] ++ v := by simp
    obtain ⟨cs, hcs, hsettled⟩ := stands_of_closesRule hclose (y := v ++ y) (p := p)
      (by rw [hp]; simp)
    obtain ⟨ds, hds, hblank⟩ := stands_spacing hv hy
      (p.advance (w ++ [c]).length (w ++ [c] ++ (v ++ y)))
    rw [hsplit]
    exact ⟨cs ++ ds, hcs.append hds, isSettled_append_blank hsettled hblank⟩

/-- Complete rules go on with white space and comments. -/
theorem IsComplete.append {v : List Char} (h : IsComplete u) (hv : isSpacing v = true) :
    IsComplete (u ++ v) := by
  rcases h with hu | ⟨w, c, v', rfl, hclose, hv'⟩
  · exact .inl ((isSpacing_append hv).1 hu)
  · exact .inr ⟨w, c, v' ++ v, by simp, hclose, (isSpacing_append hv).1 hv'⟩

end

end StyleBuild.Css
