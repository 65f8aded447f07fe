import Mathlib.Data.List.TakeWhile
import StyleBuild.Glob.Expansion

/-!
# The parts of a glob

A glob is read as a whole, and again part by part between its slashes. Both readings agree but for
brackets that hold a slash: there a part ends within the brackets (`partFlaw?_splitAtChar`). So a
glob whose text can be read is expanded unless such a slash is in it (`flaw?_expand`).
-/

namespace StyleBuild.Glob

/-! ## Flaws -/

/-- What is wrong with a pattern that is read, if something is. -/
def flaw? {α : Type} : Except Fault α → Option Cause
  | .ok _ => none
  | .error f => some f.cause

@[simp]
theorem flaw?_ok {α : Type} (a : α) : flaw? (.ok a) = none := rfl

@[simp]
theorem flaw?_error {α : Type} (f : Fault) : flaw? (.error f : Except Fault α) = some f.cause := rfl

theorem flaw?_eq_none_iff {α : Type} {r : Except Fault α} : flaw? r = none ↔ ∃ a, r = .ok a := by
  cases r <;> simp [flaw?]

theorem flaw?_map {α β : Type} (r : Except Fault α) (f : α → β) :
    flaw? (do return f (← r)) = flaw? r := by
  cases r <;> rfl

variable {i : Nat} {before : Option Char} {cs : List Char}

theorem tokens_inPart (h : ¬(before = none ∨ before = some '/')) (hs : cs.head? ≠ some '*') :
    tokens i before ('*' :: '*' :: cs) = .error ⟨i - 1, .foldersInPart⟩ := by
  cases cs with
  | nil => rw [tokens, if_neg h]
  | cons c cs =>
    by_cases hc : c = '/'
    · subst hc
      rw [tokens, if_neg h]
    · rw [tokens, if_neg h] <;> simp_all

theorem tokens_folders_next (h : before = none ∨ before = some '/') (hs : cs.head? ≠ some '*')
    (hn : cs ≠ []) (hr : cs.head? ≠ some '/') :
    tokens i before ('*' :: '*' :: cs) = .error ⟨i + 2, .foldersInPart⟩ := by
  cases cs with
  | nil => exact absurd rfl hn
  | cons c cs => rw [tokens, if_pos h] <;> simp_all

theorem tokens_brackets_none (h : brackets cs = none) :
    tokens i before ('[' :: cs) = .error ⟨i, .brackets⟩ := by
  rw [tokens]
  split
  · rfl
  · simp_all

theorem tokens_brackets_some {excluded : Bool} {shown rest : List Char}
    (h : brackets cs = some (excluded, shown, rest)) :
    tokens i before ('[' :: cs) =
      do return (if excluded then Token.noneOf (choices shown) else .oneOf (choices shown)) ::
        (← tokens (i + 1 + (cs.length - rest.length)) (some ']') rest) := by
  rw [tokens]
  split
  · simp_all
  · next heq =>
    rw [h] at heq
    cases heq
    rfl

/-- What is wrong with a text does not depend on how much comes before it. -/
theorem flaw?_tokens (i j : Nat) (before : Option Char) (cs : List Char) :
    flaw? (tokens i before cs) = flaw? (tokens j before cs) := by
  fun_induction tokens i before cs generalizing j with
  | case1 => simp [tokens]
  | case2 i before cs ih => rw [tokens, flaw?_map, flaw?_map, ih]
  | case3 => rw [tokens]; rfl
  | case4 i before h => rw [tokens, if_pos h]
  | case5 i before h rest hs ih => rw [tokens, if_pos h, flaw?_map, flaw?_map, ih]
  | case6 i before cs hs h hn hr =>
    rw [tokens_folders_next h _ hn]
    · rfl
    · cases cs <;> simp_all
    · cases cs <;> simp_all
  | case7 i before cs hs h =>
    rw [tokens_inPart h]
    · rfl
    · cases cs <;> simp_all
  | case8 i before cs h₂ h₁ ih =>
    rw [tokens, flaw?_map, flaw?_map, ih]
    · exact h₂
    · exact h₁
  | case9 i before cs h =>
    rw [tokens_brackets_none h]
    rfl
  | case10 i before cs excluded shown rest h _ ih =>
    rw [tokens_brackets_some h, flaw?_map, flaw?_map, ih]
  | case11 i before c cs h₁ h₂ h₃ h₄ h₅ ih =>
    rw [tokens, flaw?_map, flaw?_map, ih]
    all_goals assumption

/-! ## Brackets -/

/-- A text is split at its first closing bracket. -/
theorem dropWhile_eq_cons_iff {cs rest : List Char} {c : Char} :
    cs.dropWhile (· != ']') = c :: rest ↔
      c = ']' ∧ cs = cs.takeWhile (· != ']') ++ ']' :: rest := by
  constructor
  · intro h
    have hc : c = ']' := by
      have := List.head?_dropWhile_not (· != ']') cs
      rw [h] at this
      simpa using this
    subst hc
    exact ⟨rfl, by rw [← h, List.takeWhile_append_dropWhile]⟩
  · rintro ⟨rfl, h⟩
    conv at h => lhs; rw [← List.takeWhile_append_dropWhile (p := (· != ']')) (l := cs)]
    exact List.append_cancel_left h

theorem takeWhile_append_bracket {mid : List Char} (rest : List Char) (h : ']' ∉ mid) :
    (mid ++ ']' :: rest).takeWhile (· != ']') = mid := by
  have hall : ∀ c ∈ mid, (c != ']') = true := fun c hc => by
    simpa using fun he : c = ']' => h (he ▸ hc)
  rw [List.takeWhile_append_of_pos hall]
  simp

/-- What brackets look like: behind an exclamation mark, if they exclude their choices, a first
choice, and more choices up to the closing bracket. -/
theorem brackets_eq_some_iff {excluded : Bool} {shown rest : List Char} :
    brackets cs = some (excluded, shown, rest) ↔ ∃ c mid, shown = c :: mid ∧ ']' ∉ mid ∧
      (excluded = true ∧ cs = '!' :: c :: (mid ++ ']' :: rest) ∨
        excluded = false ∧ c ≠ '!' ∧ cs = c :: (mid ++ ']' :: rest)) := by
  constructor
  · intro h
    unfold brackets at h
    split at h
    · next c more =>
      split at h
      · next d r hr =>
        cases h
        exact ⟨c, _, rfl, fun hm => by simpa using List.mem_takeWhile_imp hm,
          .inl ⟨rfl, by rw [← (dropWhile_eq_cons_iff.1 hr).2]⟩⟩
      · cases h
    · cases h
    · next c more h₁ h₂ =>
      split at h
      · next d r hr =>
        cases h
        refine ⟨c, _, rfl, fun hm => by simpa using List.mem_takeWhile_imp hm,
          .inr ⟨rfl, ?_, by rw [← (dropWhile_eq_cons_iff.1 hr).2]⟩⟩
        rintro rfl
        cases more with
        | nil => exact h₂ rfl rfl
        | cons d more => exact h₁ d more rfl rfl
      · cases h
    · cases h
  · rintro ⟨c, mid, rfl, hmid, h⟩
    have htake := takeWhile_append_bracket rest hmid
    have hdrop : (mid ++ ']' :: rest).dropWhile (· != ']') = ']' :: rest :=
      dropWhile_eq_cons_iff.2 ⟨rfl, by rw [htake]⟩
    rcases h with ⟨rfl, rfl⟩ | ⟨rfl, hc, rfl⟩
    · rw [brackets, htake, hdrop]
    · rw [brackets, htake, hdrop]
      · exact fun d more hd => absurd hd hc
      · exact fun hd => absurd hd hc

/-- What is read as brackets does not depend on what comes after them. -/
theorem exists_of_brackets {excluded : Bool} {shown rest : List Char}
    (h : brackets cs = some (excluded, shown, rest)) :
    ∃ pre, cs = pre ++ rest ∧ (∀ c, c ∈ pre → c ∈ shown ∨ c = '!' ∨ c = ']') ∧ shown ⊆ pre ∧
      ∀ r, brackets (pre ++ r) = some (excluded, shown, r) := by
  obtain ⟨c, mid, rfl, hmid, ⟨rfl, rfl⟩ | ⟨rfl, hc, rfl⟩⟩ := brackets_eq_some_iff.1 h
  · refine ⟨'!' :: c :: (mid ++ [']']), by simp, by grind, by grind,
      fun r => brackets_eq_some_iff.2 ⟨c, mid, rfl, hmid, .inl ⟨rfl, by simp⟩⟩⟩
  · refine ⟨c :: (mid ++ [']']), by simp, by grind, by grind,
      fun r => brackets_eq_some_iff.2 ⟨c, mid, rfl, hmid, .inr ⟨rfl, hc, by simp⟩⟩⟩

theorem eq_of_append_bracket {a b r s : List Char} (ha : ']' ∉ a) (hb : ']' ∉ b)
    (h : a ++ ']' :: r = b ++ ']' :: s) : a = b := by
  rw [← takeWhile_append_bracket r ha, h, takeWhile_append_bracket s hb]

/-- Brackets are not closed in front of a slash among their choices. -/
theorem brackets_eq_none_of_slash {excluded : Bool} {shown rest q more : List Char}
    (h : brackets (q ++ '/' :: more) = some (excluded, shown, rest)) (hq : '/' ∉ q)
    (hs : '/' ∈ shown) : brackets q = none := by
  rw [Option.eq_none_iff_forall_ne_some]
  rintro ⟨excluded', shown', rest'⟩ h'
  obtain ⟨c, mid, rfl, hmid, hcs⟩ := brackets_eq_some_iff.1 h
  obtain ⟨c', mid', rfl, hmid', hcs'⟩ := brackets_eq_some_iff.1 h'
  have hsame : ∀ r : List Char, c = c' → mid ++ ']' :: rest = mid' ++ ']' :: r →
      c' :: mid' ⊆ q → False := by
    intro r hc hm hsub
    rw [hc, eq_of_append_bracket hmid hmid' hm] at hs
    exact hq (hsub hs)
  rcases hcs with ⟨rfl, hcs⟩ | ⟨rfl, hc, hcs⟩ <;> rcases hcs' with ⟨rfl, rfl⟩ | ⟨rfl, hc', rfl⟩
  · simp only [List.cons_append, List.append_assoc, List.cons.injEq, true_and] at hcs
    exact hsame _ hcs.1.symm hcs.2.symm fun x hx => by
      rcases List.mem_cons.1 hx with rfl | hx <;> simp [*]
  · simp only [List.cons_append, List.cons.injEq] at hcs
    exact hc' hcs.1
  · simp only [List.cons_append, List.cons.injEq] at hcs
    exact hc hcs.1.symm
  · simp only [List.cons_append, List.append_assoc, List.cons.injEq] at hcs
    exact hsame _ hcs.1.symm hcs.2.symm (by simp)

/-- Whether the choices of some brackets hold a slash. -/
def slashInBrackets : List Char → Bool
  | [] => false
  | '[' :: cs =>
    match h : brackets cs with
    | none => false
    | some (_, shown, rest) =>
      have := length_brackets h
      shown.contains '/' || slashInBrackets rest
  | _ :: cs => slashInBrackets cs
  termination_by cs => cs.length

theorem slashInBrackets_brackets {excluded : Bool} {shown rest : List Char}
    (h : brackets cs = some (excluded, shown, rest)) :
    slashInBrackets ('[' :: cs) = (shown.contains '/' || slashInBrackets rest) := by
  rw [slashInBrackets]
  split
  · simp_all
  · next heq =>
    rw [h] at heq
    cases heq
    rfl

theorem slashInBrackets_cons {c : Char} (h : c ≠ '[') :
    slashInBrackets (c :: cs) = slashInBrackets cs := by
  rw [slashInBrackets]
  exact fun hc => absurd hc h

/-! ## Parts -/

/-- A text without a slash, in front of a text that is split at slashes. -/
theorem splitAtChar_append {pre : List Char} (hpre : '/' ∉ pre) {cs p : List Char}
    {ps : List (List Char)} (h : splitAtChar '/' cs = p :: ps) :
    splitAtChar '/' (pre ++ cs) = (pre ++ p) :: ps := by
  induction pre with
  | nil => exact h
  | cons c pre ih =>
    rw [List.mem_cons, not_or] at hpre
    rw [List.cons_append, splitAtChar, if_neg (Ne.symm hpre.1), ih hpre.2]
    rfl

theorem splitAtChar_slash (cs : List Char) :
    splitAtChar '/' ('/' :: cs) = [] :: splitAtChar '/' cs := by
  rw [splitAtChar, if_pos rfl]

/-- The first part of a text, and the rest of it. -/
theorem exists_splitAtChar (cs : List Char) :
    ∃ p ps, splitAtChar '/' cs = p :: ps ∧ '/' ∉ p ∧ p <+: cs := by
  obtain ⟨p, ps, h⟩ := List.exists_cons_of_ne_nil (splitAtChar_ne_nil '/' cs)
  refine ⟨p, ps, h, not_mem_of_mem_splitAtChar (h ▸ List.mem_cons_self), ?_⟩
  have hjoin := joinWithChar_splitAtChar '/' cs
  rw [h] at hjoin
  cases ps with
  | nil => exact ⟨[], by simpa [joinWithChar] using hjoin⟩
  | cons q qs => exact ⟨_, hjoin⟩

/-- What is wrong with the first of some parts that is no pattern of its own; the first part comes
behind `before`. -/
def partFlaw? (before : Option Char) : List (List Char) → Option Cause
  | [] => none
  | p :: ps => (flaw? (tokens 0 before p)).or (ps.findSome? fun q => flaw? (tokens 0 none q))

/-- A slash in front of a pattern is like nothing in front of it. -/
theorem flaw?_tokens_slash (cs : List Char) :
    flaw? (tokens 0 (some '/') cs) = flaw? (tokens 0 none cs) := by
  rw [tokens.eq_def, tokens.eq_def]
  split <;> simp

theorem partFlaw?_slash (ps : List (List Char)) :
    partFlaw? (some '/') ps = ps.findSome? fun q => flaw? (tokens 0 none q) := by
  cases ps with
  | nil => rfl
  | cons p ps => 
    rw [partFlaw?, flaw?_tokens_slash, List.findSome?_cons]
    cases flaw? (tokens 0 none p) <;> rfl

/-- What is read in front of a text makes no difference to what is wrong with its parts. -/
theorem partFlaw?_append (pre : List Char) {before' : Option Char} (hpre : '/' ∉ pre)
    (hstep : ∀ p, p <+: cs → flaw? (tokens 0 before (pre ++ p)) = flaw? (tokens 0 before' p)) :
    partFlaw? before (splitAtChar '/' (pre ++ cs)) = partFlaw? before' (splitAtChar '/' cs) := by
  obtain ⟨p, ps, h, -, hp⟩ := exists_splitAtChar cs
  rw [splitAtChar_append hpre h, h, partFlaw?, partFlaw?, hstep p hp]

/-- **The parts of a pattern.** If nothing is wrong with a pattern as a whole, what can be wrong
with a part of it is that it ends within brackets: those whose choices hold a slash. -/
theorem partFlaw?_splitAtChar (h : flaw? (tokens i before cs) = none) :
    partFlaw? before (splitAtChar '/' cs) =
      if slashInBrackets cs then some .brackets else none := by
  fun_induction tokens i before cs with
  | case1 => simp [splitAtChar, partFlaw?, tokens, slashInBrackets]
  | case2 i before cs ih =>
    rw [flaw?_map] at h
    rw [slashInBrackets_cons (by decide), ← ih h]
    refine partFlaw?_append ['?'] (by decide) fun p _ => ?_
    rw [List.singleton_append, tokens, flaw?_map, flaw?_tokens]
  | case3 => cases h
  | case4 i before hb => simp [splitAtChar, partFlaw?, tokens, hb, slashInBrackets]
  | case5 i before hb rest hs ih =>
    rw [flaw?_map] at h
    have ih := ih h
    rw [partFlaw?_slash] at ih
    simp [splitAtChar, partFlaw?, tokens, hb, slashInBrackets, ih]
  | case6 => cases h
  | case7 => cases h
  | case8 i before cs h₂ h₁ ih =>
    rw [flaw?_map] at h
    rw [slashInBrackets_cons (by decide), ← ih h]
    refine partFlaw?_append ['*'] (by decide) fun p hp => ?_
    have hstar : ∀ tail, p ≠ '*' :: tail := by
      rintro tail rfl
      obtain ⟨more, rfl⟩ := hp
      exact h₁ _ rfl
    rw [List.singleton_append, tokens, flaw?_map, flaw?_tokens]
    · exact fun tail hp => hstar _ hp
    · exact fun tail hp => hstar _ hp
  | case9 => cases h
  | case10 i before cs excluded shown rest hbr _ ih =>
    rw [flaw?_map] at h
    rw [slashInBrackets_brackets hbr]
    obtain ⟨pre, rfl, hpre, hshown, hform⟩ := exists_of_brackets hbr
    by_cases hs : '/' ∈ shown
    · obtain ⟨q, more, rfl, hq⟩ := List.eq_append_cons_of_mem (hshown hs)
      rw [List.append_assoc, List.cons_append] at hbr ⊢
      have hno : '/' ∉ '[' :: q := by simpa using hq
      have hsplit := splitAtChar_append hno (splitAtChar_slash (more ++ rest))
      rw [← List.cons_append, hsplit, List.append_nil, partFlaw?,
        tokens_brackets_none (brackets_eq_none_of_slash hbr hq hs)]
      simp [hs]
    · have hno : '/' ∉ '[' :: pre := fun hm => by
        rcases List.mem_cons.1 hm with hm | hm
        · cases hm
        · simpa [hs] using hpre _ hm
      rw [List.contains_eq_mem, decide_eq_false hs, Bool.false_or, ← ih h, ← List.cons_append]
      refine partFlaw?_append _ hno fun p _ => ?_
      rw [List.cons_append, tokens_brackets_some (hform p), flaw?_map, flaw?_tokens]
  | case11 i before c cs h₁ h₂ h₃ h₄ h₅ ih =>
    rw [flaw?_map] at h
    rw [slashInBrackets_cons h₅, ← ih h]
    by_cases hc : c = '/'
    · subst hc
      rw [partFlaw?_slash]
      simp [splitAtChar, partFlaw?, tokens]
    · refine partFlaw?_append [c] (by simpa using Ne.symm hc) fun p hp => ?_
      rw [List.singleton_append, tokens, flaw?_map, flaw?_tokens]
      all_goals simp_all

/-! ## Expanding -/

theorem flaw?_mapM {α : Type} (f : α → Except Fault β) (xs : List α) :
    flaw? (xs.mapM f) = xs.findSome? fun x => flaw? (f x) := by
  induction xs with
  | nil => rfl
  | cons x xs ih =>
    rw [List.mapM_cons, List.findSome?_cons, ← ih]
    cases f x with
    | error e => rfl
    | ok a => cases xs.mapM f <;> rfl

/-- A last part that is empty makes no difference. -/
theorem findSome?_flaw?_pieces (pattern : String) :
    ((pieces pattern).findSome? fun p => flaw? (read p)) =
      (splitAtChar '/' pattern.toList).findSome? fun p => flaw? (tokens 0 none p) := by
  have hall : ((Path.pieces pattern).findSome? fun p => flaw? (read p)) =
      (splitAtChar '/' pattern.toList).findSome? fun p => flaw? (tokens 0 none p) := by
    rw [Path.pieces, List.findSome?_map]
    simp [Function.comp_def, read]
  rw [← hall, pieces]
  split
  · next hlast =>
    obtain ⟨init, hinit⟩ := List.getLast?_eq_some_iff.1 hlast
    rw [hinit, List.dropLast_concat, List.findSome?_append]
    simp [read, tokens]
  · rfl

theorem toList_of_isAbsolute {pattern : String} (h : Path.isAbsolute pattern = true) :
    pattern.toList = '/' :: (pattern.drop 1).toString.toList := by
  obtain ⟨rest, hrest⟩ := String.startsWith_string_iff.1 h
  have hdrop : (pattern.drop 1).toString.toList = pattern.toList.drop 1 := String.toList_copy_drop
  rw [hdrop, ← hrest]
  rfl

theorem flaw?_parts (pattern : String) :
    flaw? (parts pattern) =
      (splitAtChar '/' pattern.toList).findSome? fun p => flaw? (tokens 0 none p) := by
  have hpart : ∀ inner : String,
      flaw? (do
        let found ← (pieces inner).mapM fun p => Part.ofTokens <$> read p
        return if inner.isEmpty then [Part.literal ""] else found) =
      (splitAtChar '/' inner.toList).findSome? fun p => flaw? (tokens 0 none p) := by
    intro inner
    rw [← findSome?_flaw?_pieces, flaw?_map, flaw?_mapM]
    congr 1
    funext p
    exact flaw?_map (read p) Part.ofTokens
  rw [parts]
  split
  · next h =>
    rw [toList_of_isAbsolute h, splitAtChar_slash, hpart]
    simp [tokens]
  · exact hpart pattern

theorem flaw?_expand (t : FileTree) (pattern : String) :
    flaw? (expand t pattern) = (flaw? (read pattern)).or (flaw? (parts pattern)) := by
  rw [expand]
  cases read pattern with
  | error f => rfl
  | ok ts => cases parts pattern <;> rfl

/-- A pattern that can be read is expanded unless brackets in it hold a slash. -/
theorem flaw?_expand_of_read (t : FileTree) {pattern : String} (h : flaw? (read pattern) = none) :
    flaw? (expand t pattern) =
      if slashInBrackets pattern.toList then some .brackets else none := by
  rw [flaw?_expand, h, Option.none_or, flaw?_parts, ← partFlaw?_slash]
  exact partFlaw?_splitAtChar ((flaw?_tokens_slash _).trans h)

end StyleBuild.Glob
