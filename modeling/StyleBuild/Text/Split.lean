/-!
# Splitting text

A text is split at every occurrence of a separator. There is one more piece than there are
separators, and joining the pieces gives the text back.
-/

namespace StyleBuild

/-- The pieces between the occurrences of a separator. -/
def splitAtChar (sep : Char) : List Char → List (List Char)
  | [] => [[]]
  | c :: cs =>
    if c = sep then [] :: splitAtChar sep cs
    else match splitAtChar sep cs with
      | [] => [[c]]
      | p :: ps => (c :: p) :: ps

/-- The pieces with a separator between any two. -/
def joinWithChar (sep : Char) : List (List Char) → List Char
  | [] => []
  | [p] => p
  | p :: ps => p ++ sep :: joinWithChar sep ps

theorem splitAtChar_ne_nil (sep : Char) (cs : List Char) : splitAtChar sep cs ≠ [] := by
  cases cs with
  | nil => simp [splitAtChar]
  | cons c cs => unfold splitAtChar; split <;> try split
                 all_goals simp

theorem joinWithChar_splitAtChar (sep : Char) (cs : List Char) :
    joinWithChar sep (splitAtChar sep cs) = cs := by
  induction cs with
  | nil => rfl
  | cons c cs ih =>
    obtain ⟨p, ps, h⟩ := List.exists_cons_of_ne_nil (splitAtChar_ne_nil sep cs)
    by_cases hc : c = sep
    · rw [splitAtChar, if_pos hc, h, joinWithChar, ← h, ih, hc]
      · simp
      · simp
    · rw [h] at ih
      rw [splitAtChar, if_neg hc, h]
      cases ps <;> simp_all [joinWithChar]

theorem not_mem_of_mem_splitAtChar {sep : Char} {cs p : List Char} (h : p ∈ splitAtChar sep cs) :
    sep ∉ p := by
  induction cs generalizing p with
  | nil => simp_all [splitAtChar]
  | cons c cs ih =>
    unfold splitAtChar at h
    split at h
    · rcases List.mem_cons.1 h with h | h
      · simp [h]
      · exact ih h
    · next hc =>
      split at h
      · next hs => exact absurd hs (splitAtChar_ne_nil sep cs)
      · next q qs hs =>
        rw [hs] at ih
        rcases List.mem_cons.1 h with h | h
        · subst h
          intro hm
          rcases List.mem_cons.1 hm with hm | hm
          · exact hc hm.symm
          · exact ih (List.mem_cons_self ..) hm
        · exact ih (List.mem_cons_of_mem _ h)

/-- What is left of a text without the occurrences of a character at its end. -/
theorem exists_dropEndWhile (s : String) (c : Char) :
    ∃ k, s.toList = (s.dropEndWhile c).toString.toList ++ List.replicate k c := by
  have hall : (s.takeEndWhile c).revAll c = true := String.revAll_takeEndWhile
  rw [String.Slice.revAll_char_iff] at hall
  refine ⟨(s.takeEndWhile c).copy.toList.length, ?_⟩
  conv =>
    lhs
    rw [← @String.dropEndWhile_append_takeEndWhile _ c _ _ _ s, String.toList_append, hall]
  rfl

end StyleBuild
