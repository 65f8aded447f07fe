import Mathlib.Data.List.Basic
import Mathlib.Data.List.TakeWhile
import StyleBuild.Regex.Matching
import StyleBuild.Regex.Parser

/-!
# Searching

Searching a text for a regular expression cuts it into the matches and the characters between
them (`Regex.cut`). The cuts make up the text again (`flatMap_text_cut`), and the matches among
them are the ones that a scan for tokens finds (`filterMap_found?_cut`).

To see what an expression matches, its threads are followed character by character: one step of
`follow` is the survivors of the heads that are not done (`follow_cons_running`,
`follow_cons_accepting`). An expression that repeats one set of characters finds the longest runs
of characters of the set (`tokens_plus_oneOf`), which are told by what stands around them
(`mem_runs_iff`).

An expression is too large only if something in it is repeated a given number of times. Without
such parts (`Outline.isPlain`) reading an expression is reading its outline (`read_eq_ok`).
-/

namespace StyleBuild

namespace CharSet

theorem inRanges_cons (n lo hi : Nat) (rs : List (Nat × Nat)) :
    inRanges n ((lo, hi) :: rs) = if n < lo then false else n ≤ hi || inRanges n rs := rfl

@[simp] theorem contains_single (a c : Char) : (single a).contains c = (c == a) := by
  have hc : c.toNat = a.toNat ↔ c = a := Char.toNat_inj
  rw [contains, single, inRanges_cons, inRanges, Bool.or_false, Bool.eq_iff_iff, beq_iff_eq, ← hc]
  split <;> simp <;> omega

end CharSet

namespace Regex

/-! ## Following threads -/

section Following

variable {before : Option Char} {c : Char} {cs : List Char} {n : Nat} {found : Option Nat}
  {threads : List (List Regex)} {hs : List Head}

@[simp] theorem survivors_nil (c : Char) : survivors c [] = [] := rfl

@[simp] theorem survivors_step (c : Char) (set : CharSet) (k : List Regex) (hs : List Head) :
    survivors c (.step set k :: hs) =
      if set.contains c then k :: (survivors c hs).filter (· != k) else survivors c hs := by
  unfold survivors
  by_cases h : set.contains c
  · rw [List.filterMap_cons_some (b := k) (by simp [h]), distinct, if_pos h]
  · rw [List.filterMap_cons_none (by simp [h]), if_neg h]

theorem follow_nil (threads : List (List Regex)) :
    follow before threads n found [] =
      if (allHeads before none [] threads).any Head.isDone then some n else found := rfl

/-- What threads find depends on their heads alone. -/
theorem follow_congr {others : List (List Regex)}
    (h : allHeads before cs.head? [] threads = allHeads before cs.head? [] others) :
    follow before threads n found cs = follow before others n found cs := by
  cases cs with
  | nil => rw [follow_nil, follow_nil]; simp only [List.head?_nil] at h; rw [h]
  | cons c cs => rw [follow, follow, h]

theorem takeWhile_running (h : hs.any Head.isDone = false) (more : List Head) :
    (hs ++ more).takeWhile (!·.isDone) = hs ++ more.takeWhile (!·.isDone) :=
  List.takeWhile_append_of_pos (by simpa using h)

/-- A step when no thread is done. -/
theorem follow_cons_running (h : allHeads before (some c) [] threads = hs)
    (hr : hs.any Head.isDone = false) :
    follow before threads n found (c :: cs) =
      match survivors c hs with
      | [] => found
      | next => follow (some c) next (n + 1) found cs := by
  have ht : hs.takeWhile (!·.isDone) = hs := by simpa using takeWhile_running hr []
  cases hs' : survivors c hs <;>
    simp only [follow, List.head?_cons, h, hr, ht, hs', Bool.false_eq_true, if_false]

/-- A step when the last thread is done. -/
theorem follow_cons_accepting (h : allHeads before (some c) [] threads = hs ++ [.done])
    (hr : hs.any Head.isDone = false) :
    follow before threads n found (c :: cs) =
      match survivors c hs with
      | [] => some n
      | next => follow (some c) next (n + 1) (some n) cs := by
  have ht : (hs ++ [Head.done]).takeWhile (!·.isDone) = hs :=
    (takeWhile_running hr _).trans (List.append_nil hs)
  have ha : (hs ++ [Head.done]).any Head.isDone = true := by simp [Head.isDone]
  cases hs' : survivors c hs <;> simp only [follow, List.head?_cons, h, ht, ha, hs', if_true]

/-- When the first thread is done, nothing after it counts. -/
theorem follow_done (before : Option Char) (threads : List (List Regex)) (n : Nat)
    (found : Option Nat) (cs : List Char) :
    follow before ([] :: threads) n found cs = some n := by
  cases cs <;> rfl

end Following

/-! ## Cuts -/

/-- A part of a text that was searched: a match, or a character between matches. -/
inductive Cut where
  | found (text : List Char)
  | between (c : Char)
  deriving DecidableEq, Repr, Inhabited

/-- The text of a cut. -/
def Cut.text : Cut → List Char
  | .found t => t
  | .between c => [c]

/-- The text of a match. -/
def Cut.found? : Cut → Option (List Char)
  | .found t => some t
  | .between _ => none

/-- A text cut at its matches from left to right. Matches that are empty do not count. -/
def cut (r : Regex) (before : Option Char) : List Char → List Cut
  | [] => []
  | c :: cs =>
    match r.matchLength before (c :: cs) with
    | some (n + 1) =>
      .found (c :: cs.take n) :: cut r (c :: cs.take n).getLast? (cs.drop n)
    | _ => .between c :: cut r (some c) cs
  termination_by text => text.length
  decreasing_by all_goals (simp only [List.length_cons, List.length_drop]; omega)

variable (r : Regex) (before : Option Char) (text : List Char)

theorem flatMap_text_cut : (r.cut before text).flatMap Cut.text = text := by
  fun_induction cut r before text with
  | case1 => rfl
  | case2 before c cs n h ih => simp [Cut.text, ih]
  | case3 before c cs h ih => simp [Cut.text, ih]

theorem filterMap_found?_cut : (r.cut before text).filterMap Cut.found? = r.tokens before text := by
  fun_induction cut r before text with
  | case1 => simp [tokens]
  | case2 before c cs n h ih => rw [tokens]; simp [h, Cut.found?, ih]
  | case3 before c cs h ih =>
    rw [tokens, List.filterMap_cons_none rfl, ih]
    split
    · next n hn => exact absurd hn (h n)
    · rfl

end Regex

end StyleBuild

/-! ## Reading plain expressions -/

namespace StyleBuild.Regex

namespace Outline

mutual

/-- Whether no part is repeated a given number of times. -/
def isPlain : Outline → Bool
  | .rounds _ p least most _ => least ≤ 1 && most.all (· ≤ 1) && isPlain p
  | .group _ _ p => isPlain p
  | .seq _ ps | .alt _ ps => arePlain ps
  | _ => true

/-- Whether some outlines are plain. -/
def arePlain : List Outline → Bool
  | [] => true
  | p :: ps => isPlain p && arePlain ps

end

theorem isPlain_of_arePlain {ps : List Outline} (h : arePlain ps = true) :
    ∀ p ∈ ps, p.isPlain = true := by
  induction ps with
  | nil => simp
  | cons p ps ih =>
    simp only [arePlain, Bool.and_eq_true] at h
    exact List.forall_mem_cons.2 ⟨h.1, ih h.2⟩

theorem hasCounts_of_isPlain {p : Outline} : p.isPlain = true → p.hasCounts = false := by
  fun_induction hasCounts p with
  | case1 _ p least most _ ih =>
    intro h
    simp only [isPlain, Bool.and_eq_true, decide_eq_true_eq] at h
    obtain ⟨⟨hleast, hmost⟩, hp⟩ := h
    cases most <;> simp_all
  | case2 _ _ p ih => exact ih
  | case3 _ ps ih =>
    intro h
    simpa using fun p hp => ih p hp (isPlain_of_arePlain h p hp)
  | case4 _ ps ih =>
    intro h
    simpa using fun p hp => ih p hp (isPlain_of_arePlain h p hp)
  | case5 => exact fun _ => rfl

end Outline

/-- Whether a text has a plain outline that is not nested too deep, raises no doubt and means a
given expression. -/
def readsPlainly (pattern : String) (r : Regex) : Bool :=
  match whole.run { rest := pattern.toList } with
  | .ok (p, reader) =>
    p.isPlain && p.depths.tooDeep?.isNone && reader.doubt.isNone && p.regex == r
  | .error _ => false

theorem read_eq_ok {pattern : String} {r : Regex} (h : readsPlainly pattern r = true) :
    Regex.read pattern = .ok r := by
  unfold readsPlainly at h
  unfold Regex.read
  cases hw : whole.run { rest := pattern.toList } with
  | error f => simp [hw] at h
  | ok found =>
    obtain ⟨p, reader⟩ := found
    simp only [hw, Bool.and_eq_true, Option.isNone_iff_eq_none, beq_iff_eq] at h
    obtain ⟨⟨⟨hp, hdeep⟩, hdoubt⟩, rfl⟩ := h
    simp [hdeep, hdoubt, Outline.isTooLarge, Outline.hasCounts_of_isPlain hp]

end StyleBuild.Regex

/-! ## Runs -/

namespace StyleBuild

section Runs

variable {α : Type} {p : α → Bool}

/-- The longest runs of members of a kind, from left to right. -/
def runs (p : α → Bool) : List α → List (List α)
  | [] => []
  | a :: as => if p a then (a :: as.takeWhile p) :: runs p (as.dropWhile p) else runs p as
  termination_by as => as.length
  decreasing_by
    · exact Nat.lt_succ_of_le (List.dropWhile_suffix p).length_le
    · exact Nat.lt_succ_self _

/-- A run of members of a kind that cannot be made longer on either side. -/
def IsRun (p : α → Bool) (as run : List α) : Prop :=
  ∃ front back, as = front ++ (run ++ back) ∧ run ≠ [] ∧ (∀ a ∈ run, p a = true) ∧
    (∀ a ∈ front.getLast?, p a = false) ∧ ∀ a ∈ back.head?, p a = false

theorem runs_cons_pos {a : α} (h : p a = true) (as : List α) :
    runs p (a :: as) = (a :: as.takeWhile p) :: runs p (as.dropWhile p) := by
  rw [runs, if_pos h]

theorem runs_cons_neg {a : α} (h : p a = false) (as : List α) : runs p (a :: as) = runs p as := by
  rw [runs, if_neg (by simp [h])]

/-- What is no part of a run does not matter. -/
theorem runs_append_neg {skipped : List α} (h : ∀ a ∈ skipped, p a = false) (as : List α) :
    runs p (skipped ++ as) = runs p as := by
  induction skipped with
  | nil => rfl
  | cons a skipped ih =>
    obtain ⟨ha, hskipped⟩ := List.forall_mem_cons.1 h
    rw [List.cons_append, runs_cons_neg ha, ih hskipped]

theorem dropWhile_of_head {as : List α} (h : ∀ a ∈ as.head?, p a = false) :
    as.takeWhile p = [] ∧ as.dropWhile p = as := by
  cases as with
  | nil => exact ⟨rfl, rfl⟩
  | cons a as =>
    have ha : p a = false := h a rfl
    simp [ha]

theorem head?_dropWhile_neg (as : List α) : ∀ a ∈ (as.dropWhile p).head?, p a = false := by
  intro a ha
  have h := List.head?_dropWhile_not p as
  rwa [Option.mem_def.1 ha] at h

theorem runs_run {run back : List α} (hne : run ≠ []) (hrun : ∀ a ∈ run, p a = true)
    (hback : ∀ a ∈ back.head?, p a = false) : runs p (run ++ back) = run :: runs p back := by
  obtain ⟨hnone, hall⟩ := dropWhile_of_head hback
  cases run with
  | nil => exact absurd rfl hne
  | cons a run =>
    obtain ⟨ha, hrun⟩ := List.forall_mem_cons.1 hrun
    rw [List.cons_append, runs_cons_pos ha, List.takeWhile_append_of_pos hrun,
      List.dropWhile_append_of_pos hrun, hnone, hall, List.append_nil]

/-- No run goes on behind something that is no part of one. -/
theorem runs_append {front : List α} (h : ∀ a ∈ front.getLast?, p a = false) (as : List α) :
    runs p (front ++ as) = runs p front ++ runs p as := by
  fun_induction runs p front with
  | case1 => rfl
  | case2 a front ha ih =>
    -- The run at the front ends inside of it.
    have hsome : front.dropWhile p ≠ [] := by
      intro hnil
      have hall : ∀ b ∈ a :: front, p b = true :=
        List.forall_mem_cons.2 ⟨ha, List.dropWhile_eq_nil_iff.1 hnil⟩
      have hlast := h _ (List.getLast?_eq_some_getLast (List.cons_ne_nil a front))
      simp [hall _ (List.getLast_mem _)] at hlast
    have hlast : (front.dropWhile p).getLast? = (a :: front).getLast? := by
      obtain ⟨start, hstart⟩ : front.dropWhile p <:+ a :: front :=
        (List.dropWhile_suffix p).trans (List.suffix_cons a front)
      rw [← hstart, List.getLast?_append_of_ne_nil _ hsome]
    have hdrop : (front ++ as).dropWhile p = front.dropWhile p ++ as := by
      rw [List.dropWhile_append, if_neg (by simpa using hsome)]
    have htake : (front ++ as).takeWhile p = front.takeWhile p := by
      have hsplit := List.takeWhile_append_dropWhile (p := p) (l := front ++ as)
      rw [hdrop, ← List.append_assoc] at hsplit
      have hfront := List.append_cancel_right hsplit
      exact List.append_cancel_right (hfront.trans List.takeWhile_append_dropWhile.symm)
    rw [List.cons_append, runs_cons_pos ha, htake, hdrop, ih (hlast ▸ h)]
    rfl
  | case3 a front ha ih =>
    rw [List.cons_append, runs_cons_neg (by simpa using ha)]
    refine ih fun b hb => h b ?_
    cases front with
    | nil => cases hb
    | cons c front => rwa [List.getLast?_cons_cons]

/-- The runs of a list are told by what stands around them. -/
theorem mem_runs_iff {as run : List α} : run ∈ runs p as ↔ IsRun p as run := by
  constructor
  · intro h
    fun_induction runs p as with
    | case1 => cases h
    | case2 a as ha ih =>
      have hback := head?_dropWhile_neg (p := p) as
      rcases List.mem_cons.1 h with rfl | h
      · refine ⟨[], as.dropWhile p, by simp, by simp, ?_, by simp, hback⟩
        exact List.forall_mem_cons.2 ⟨ha, fun b hb => List.mem_takeWhile_imp hb⟩
      · obtain ⟨front, back, he, hne, hrun, hfront, hend⟩ := ih h
        refine ⟨a :: as.takeWhile p ++ front, back, ?_, hne, hrun, ?_, hend⟩
        · rw [List.append_assoc, ← he, List.cons_append, List.takeWhile_append_dropWhile]
        · have hsome : front ≠ [] := by
            rintro rfl
            obtain ⟨b, rest, rfl⟩ := List.exists_cons_of_ne_nil hne
            rw [he] at hback
            simpa [hrun b List.mem_cons_self] using hback b rfl
          rwa [List.getLast?_append_of_ne_nil _ hsome]
    | case3 a as ha ih =>
      obtain ⟨front, back, rfl, hne, hrun, hfront, hend⟩ := ih h
      refine ⟨a :: front, back, rfl, hne, hrun, ?_, hend⟩
      cases front with
      | nil =>
        rintro _ ⟨⟩
        simpa using ha
      | cons b front => rwa [List.getLast?_cons_cons]
  · rintro ⟨front, back, rfl, hne, hrun, hfront, hend⟩
    rw [runs_append hfront, runs_run hne hrun hend]
    simp

end Runs

/-! ## Tokens -/

namespace Regex

section Tokens

variable {before : Option Char} {n : Nat} {found : Option Nat} (set : CharSet)

theorem allHeads_again (after : Option Char) :
    allHeads before after [] [[.again (.oneOf set) true]] =
      [.step set [.again (.oneOf set) true]] ++ [.done] := rfl

theorem allHeads_plus (after : Option Char) :
    allHeads before after [] [[.plus (.oneOf set) true]] =
      [.step set [.again (.oneOf set) true]] := rfl

/-- Behind a character of the set, the match goes on as long as there are more of them. -/
theorem follow_again (cs : List Char) :
    follow before [[.again (.oneOf set) true]] n found cs =
      some (n + (cs.takeWhile set.contains).length) := by
  induction cs generalizing before n found with
  | nil => rfl
  | cons c cs ih =>
    rw [follow_cons_accepting (allHeads_again set _) rfl]
    by_cases hc : set.contains c <;> simp [hc, ih, Nat.add_assoc, Nat.add_comm 1]

theorem matchLength_plus_oneOf (c : Char) (cs : List Char) :
    (Regex.plus (.oneOf set) true).matchLength before (c :: cs) =
      if set.contains c then some (1 + (cs.takeWhile set.contains).length) else none := by
  rw [matchLength, follow_cons_running (allHeads_plus set _) rfl]
  by_cases hc : set.contains c <;> simp [hc, follow_again]

/-- The tokens of an expression that repeats one set of characters are the runs of the set. -/
theorem tokens_plus_oneOf (cs : List Char) :
    (Regex.plus (.oneOf set) true).tokens before cs = runs set.contains cs := by
  fun_induction runs set.contains cs generalizing before with
  | case1 => rw [tokens]
  | case2 c cs hc ih =>
    have htake : cs.take (cs.takeWhile set.contains).length = cs.takeWhile set.contains :=
      (List.prefix_iff_eq_take.1 (List.takeWhile_prefix _)).symm
    have hdrop : cs.drop (cs.takeWhile set.contains).length = cs.dropWhile set.contains := by
      have hsplit := List.take_append_drop (cs.takeWhile set.contains).length cs
      rw [htake] at hsplit
      exact List.append_cancel_left (hsplit.trans List.takeWhile_append_dropWhile.symm)
    rw [tokens, matchLength_plus_oneOf, if_pos hc, Nat.add_comm]
    simp only [htake, hdrop, ih]
  | case3 c cs hc ih =>
    rw [tokens, matchLength_plus_oneOf, if_neg hc, ih]

end Tokens

end Regex

end StyleBuild
