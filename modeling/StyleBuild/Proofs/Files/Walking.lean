import Mathlib.Data.Finset.Card
import Mathlib.Data.Finset.Dedup
import StyleBuild.Proofs.Files.Pieces

/-!
# Walking on

A path with another one joined to it goes on along its pieces (`FileTree.lighter_join`). A walk over
two stretches ends the first one somewhere and goes on from there, with no more links left than
before (`FileTree.WalksTo.split`). Every step to a name uses up some of the room that is left for
walking (`FileTree.WalksTo.step`), so a walk through folders comes to its end. Two paths of the same
parts that end with the same piece lead to the same file, if they lead to one
(`FileTree.locate_eq_of_bare`).
-/

namespace StyleBuild

namespace FileTree

open StyleBuild.Path

variable {t : FileTree} {l at_ : Location} {links : Nat} {todo todo' more : List Step}
  {p n : String} {s : Step}

theorem Lighter.filterMap_part? (h : Lighter todo' todo) :
    todo'.filterMap Step.part? = todo.filterMap Step.part? := by
  induction h with
  | nil => rfl
  | keep _ ih => rw [List.filterMap_cons, List.filterMap_cons, ih]
  | drop _ ih => rw [List.filterMap_cons, ih]; rfl

theorem Lighter.trans {todo'' : List Step} (h : Lighter todo'' todo') (h' : Lighter todo' todo) :
    Lighter todo'' todo := by
  induction h' generalizing todo'' with
  | nil => exact h
  | keep _ ih =>
    cases h with
    | keep h => exact .keep (ih h)
    | drop h => exact .drop (ih h)
  | drop _ ih => exact .drop (ih h)

theorem lighter_nil {todo : List Step} (h : todo.filterMap Step.part? = []) : Lighter [] todo := by
  induction todo with
  | nil => exact .nil
  | cons s todo ih =>
    cases s with
    | stay => exact .drop (ih (by simpa [Step.part?] using h))
    | _ => simp [Step.part?] at h

/-- A path with a relative one joined to it goes on along its pieces. -/
theorem lighter_join (hp : p ≠ "") (hq : isAbsolute q = false) :
    Lighter (steps (join p q)) (steps p ++ (pieces q).map .ofPiece) ∧
      isAbsolute (join p q) = isAbsolute p := by
  obtain ⟨b, hjoin, hb⟩ := exists_join hp hq
  rw [hjoin, steps_eq_inner, steps_eq_inner, inner_behind, isAbsolute_behind, List.map_append]
  rcases hb with rfl | rfl
  · have habsolute := isAbsolute_slash hp ""
    rw [String.append_empty] at habsolute
    rw [lead, if_neg hp]
    exact ⟨.refl _, habsolute⟩
  · have hslash := inner_behind b ""
    rw [String.append_empty] at hslash
    rw [hslash, List.map_append, List.append_assoc]
    exact ⟨(Lighter.refl _).append (.drop (.refl _)), rfl⟩

theorem filterMap_pieces (hn : '/' ∉ n.toList) :
    (pieces n).filterMap part? = (part? n).toList := by
  rw [pieces_of_not_mem hn, List.filterMap_cons]
  cases part? n <;> rfl

theorem bare_of_relative (hq : isAbsolute q = false) : bare q = (pieces q).filterMap part? := by
  rw [bare_eq, hq, steps_eq_inner, filterMap_ofPiece, inner_of_relative hq]
  rfl

theorem bare_join (p : String) (hq : isAbsolute q = false) :
    bare (join p q) = bare p ++ (pieces q).filterMap part? := by
  by_cases hp : p = ""
  · rw [hp, join_empty, bare_of_relative hq]
    rfl
  · obtain ⟨hsteps, habsolute⟩ := lighter_join hp hq
    rw [bare_eq, bare_eq, habsolute, hsteps.filterMap_part?, List.filterMap_append,
      List.append_assoc, filterMap_ofPiece]

/-- A path joined to another asks for the steps of the trimmed path, and for its own. -/
theorem exists_steps_join (hp : p ≠ "") (hq : isAbsolute q = false) :
    ∃ todo, Lighter ((lead (trim p)).map .ofPiece) todo ∧
      steps (join p q) = todo ++ (pieces q).map .ofPiece := by
  obtain ⟨b, hjoin, htrim⟩ := exists_join_trim hp hq
  obtain ⟨k, hk⟩ := exists_lead_trim b
  refine ⟨(lead b).map .ofPiece, ?_, ?_⟩
  · rw [hk, htrim, List.map_append, List.map_replicate]
    have hstay : Lighter [] (List.replicate k (Step.ofPiece "")) :=
      lighter_nil (by simp [Step.ofPiece, Step.part?])
    simpa using (Lighter.refl ((lead (trim p)).map .ofPiece)).append hstay
  · rw [hjoin, steps_eq_inner, inner_behind, List.map_append]

theorem getLast?_steps_join (hp : p ≠ "") (hq : isAbsolute q = false) :
    (steps (join p q)).getLast? = (pieces q).getLast?.map .ofPiece := by
  obtain ⟨todo, -, hsteps⟩ := exists_steps_join hp hq
  rw [hsteps, List.getLast?_append_of_ne_nil _ (by simpa using pieces_ne_nil q), List.getLast?_map]

/-! ## Walks in two stretches -/

/-- A walk over two stretches ends the first one somewhere; from there any other walk leads on as
well. -/
theorem WalksTo.split (h : t.WalksTo {} l at_ links (todo ++ more)) :
    ∃ at' links', links' ≤ links ∧
      (∀ l' more', t.WalksTo {} l' at' links' more' → t.WalksTo {} l' at_ links (todo ++ more')) ∧
      t.WalksTo {} l at' links' more := by
  generalize hall : todo ++ more = all at h
  induction h generalizing todo with
  | done =>
    obtain ⟨rfl, rfl⟩ := List.append_eq_nil_iff.1 hall
    exact ⟨_, _, le_rfl, fun _ _ h => h, .done⟩
  | @stay at_ links rest folder hw ih =>
    cases todo with
    | nil =>
      obtain rfl : more = _ := hall
      exact ⟨_, _, le_rfl, fun _ _ h => h, .stay folder hw⟩
    | cons s todo =>
      obtain ⟨rfl, hrest⟩ := List.cons_eq_cons.1 hall
      obtain ⟨at', links', hle, hon, hrest⟩ := ih hrest
      exact ⟨at', links', hle, fun l' more' h => .stay folder (hon l' more' h), hrest⟩
  | @up at_ links rest folder hw ih =>
    cases todo with
    | nil =>
      obtain rfl : more = _ := hall
      exact ⟨_, _, le_rfl, fun _ _ h => h, .up folder hw⟩
    | cons s todo =>
      obtain ⟨rfl, hrest⟩ := List.cons_eq_cons.1 hall
      obtain ⟨at', links', hle, hon, hrest⟩ := ih hrest
      exact ⟨at', links', hle, fun l' more' h => .up folder (hon l' more' h), hrest⟩
  | new _ _ _ _ creates => cases creates
  | last _ _ _ _ stays => cases stays
  | @follow at_ links s target rest folder short link inside nonempty hw ih =>
    cases todo with
    | nil =>
      obtain rfl : more = _ := hall
      exact ⟨_, _, le_rfl, fun _ _ h => h, .follow folder short link inside nonempty hw⟩
    | cons s todo =>
      obtain ⟨rfl, rfl⟩ := List.cons_eq_cons.1 hall
      obtain ⟨at', links', hle, hon, hrest⟩ := ih (List.append_assoc _ _ _)
      refine ⟨at', links', hle.trans (Nat.le_succ _), fun l' more' h => ?_, hrest⟩
      exact .follow folder short link (fun _ => rfl) nonempty
        (List.append_assoc _ _ _ ▸ hon l' more' h)
  | @enter at_ links s n rest folder short there noLink hw ih =>
    cases todo with
    | nil =>
      obtain rfl : more = _ := hall
      exact ⟨_, _, le_rfl, fun _ _ h => h, .enter folder short there noLink hw⟩
    | cons s todo =>
      obtain ⟨rfl, hrest⟩ := List.cons_eq_cons.1 hall
      obtain ⟨at', links', hle, hon, hrest⟩ := ih hrest
      exact ⟨at', links', hle, fun l' more' h => .enter folder short there noLink (hon l' more' h),
        hrest⟩

/-- Where a walk that follows links ends at something, one that does not follow the last one does as
well. -/
theorem WalksTo.exists_there (h : t.WalksTo {} l at_ links todo) (hl : (t.node? l).isSome = true) :
    ∃ l', t.WalksTo { follows := false } l' at_ links todo ∧ (t.node? l').isSome = true := by
  induction h with
  | done => exact ⟨_, .done, hl⟩
  | stay folder _ ih =>
    obtain ⟨l', h, hl'⟩ := ih
    exact ⟨l', .stay folder h, hl'⟩
  | up folder _ ih =>
    obtain ⟨l', h, hl'⟩ := ih
    exact ⟨l', .up folder h, hl'⟩
  | new _ _ _ _ creates => cases creates
  | last _ _ _ _ stays => cases stays
  | @follow at_ links s target rest folder short link _ nonempty _ ih =>
    by_cases hrest : rest = []
    · subst hrest
      exact ⟨_, .last folder short rfl link rfl, by rw [link]; rfl⟩
    · obtain ⟨l', h, hl'⟩ := ih
      exact ⟨l', .follow folder short link (fun hr => absurd hr hrest) nonempty h, hl'⟩
  | enter folder short there noLink _ ih =>
    obtain ⟨l', h, hl'⟩ := ih
    exact ⟨l', .enter folder short there noLink h, hl'⟩

/-! ## The room that is left -/

variable (t) in
/-- How many of the nodes lie on the way to a location. -/
def height (at_ : Location) : Nat := ((t.nodes.map Prod.fst).toFinset.filter (· <+: at_)).card

variable (t) in
/-- How many names a walk can go through at most that never goes up but through links. -/
def room (at_ : Location) (links : Nat) : Nat :=
  links * (t.nodes.length + 1) + (t.nodes.length - t.height at_)

theorem height_le (t : FileTree) (at_ : Location) : t.height at_ ≤ t.nodes.length := by
  refine (Finset.card_filter_le _ _).trans ((List.toFinset_card_le _).trans ?_)
  rw [List.length_map]

theorem mem_keys_of_node? {n : Node} (h : t.node? l = some n) (hl : l ≠ []) :
    l ∈ t.nodes.map Prod.fst := by
  rw [node?, if_neg hl] at h
  obtain ⟨before, m, hm, -⟩ := List.lookup_eq_some_iff.1 h
  rw [hm]
  simp

theorem height_concat {s : String} (h : at_ ++ [s] ∈ t.nodes.map Prod.fst) :
    t.height at_ + 1 ≤ t.height (at_ ++ [s]) := by
  refine Finset.card_lt_card (Finset.ssubset_iff_of_subset ?_ |>.2 ⟨at_ ++ [s], ?_, ?_⟩)
  · intro l hl
    rw [Finset.mem_filter] at hl ⊢
    exact ⟨hl.1, hl.2.trans (List.prefix_append _ _)⟩
  · exact Finset.mem_filter.2 ⟨List.mem_toFinset.2 h, List.prefix_refl _⟩
  · intro hl
    simpa using (Finset.mem_filter.1 hl).2.length_le

theorem height_dropLast (t : FileTree) (at_ : Location) :
    t.height at_ ≤ t.height at_.dropLast + 1 := by
  refine (Finset.card_le_card (t := insert at_ _) ?_).trans (Finset.card_insert_le at_ _)
  intro l hl
  rw [Finset.mem_filter] at hl
  rw [Finset.mem_insert, Finset.mem_filter]
  rcases List.eq_nil_or_concat at_ with rfl | ⟨init, s, rfl⟩
  · exact .inl (List.prefix_nil.1 hl.2)
  · rw [List.concat_eq_append, List.dropLast_concat]
    exact (List.prefix_concat_iff.1 (List.concat_eq_append ▸ hl.2)).imp id fun h => ⟨hl.1, h⟩

theorem mem_insertName {m : String} {ms : List String} :
    n ∈ insertName m ms ↔ n = m ∨ n ∈ ms := by
  induction ms with
  | nil => simp [insertName]
  | cons k ms ih =>
    unfold insertName
    split
    · exact List.mem_cons
    · rw [List.mem_cons, ih, List.mem_cons]
      exact or_left_comm

/-- The names in a folder are those of the nodes below it. -/
theorem mem_namesAt : n ∈ t.namesAt at_ ↔ at_ ++ [n] ∈ t.nodes.map Prod.fst := by
  have hfold (ms : List String) : n ∈ ms.foldr insertName [] ↔ n ∈ ms := by
    induction ms with
    | nil => rfl
    | cons m ms ih => rw [List.foldr_cons, mem_insertName, ih, List.mem_cons]
  rw [namesAt, hfold, List.mem_filterMap, List.mem_map]
  refine exists_congr fun x => and_congr_right fun _ => ?_
  rcases List.eq_nil_or_concat x.1 with hx | ⟨init, m, hx⟩
  · simp [hx]
  · rw [List.concat_eq_append] at hx
    simp [hx]

theorem room_concat {n' : Node} (h : t.node? (at_ ++ [n]) = some n') :
    n ∈ t.namesAt at_ ∧ t.room (at_ ++ [n]) links + 1 ≤ t.room at_ links := by
  have hkey := mem_keys_of_node? h (by simp)
  have hup := height_concat hkey
  have hle := t.height_le (at_ ++ [n])
  refine ⟨mem_namesAt.2 hkey, ?_⟩
  unfold room
  omega

/-- Through a link the room gets smaller, wherever it leads. -/
theorem room_follow {links' : Nat} (at' : Location) (h : links' ≤ links) :
    t.room at' links' + 1 ≤ t.room at_ (links + 1) := by
  have hlinks := Nat.mul_le_mul_right (t.nodes.length + 1) h
  unfold room
  rw [Nat.succ_mul]
  omega

theorem WalksTo.eq_of_nil {e : Ending} (h : t.WalksTo e l at_ links []) : l = at_ := by
  cases h
  rfl

/-- **One step of a walk.** It starts at a folder, and the walk goes on from somewhere. The room
grows by one at most, and a step to a name leads to one of the names in the folder and leaves less
room. -/
theorem WalksTo.step (h : t.WalksTo {} l at_ links (s :: todo)) :
    t.node? at_ = some .folder ∧ ∃ at' links',
      (∀ l' todo', t.WalksTo {} l' at' links' todo' → t.WalksTo {} l' at_ links (s :: todo')) ∧
      t.WalksTo {} l at' links' todo ∧ t.room at' links' ≤ t.room at_ links + 1 ∧
      ∀ n, s = .name n → n ∈ t.namesAt at_ ∧ t.room at' links' + 1 ≤ t.room at_ links := by
  cases h with
  | stay folder hw =>
    exact ⟨folder, _, _, fun _ _ h => .stay folder h, hw, Nat.le_succ _, by simp⟩
  | up folder hw =>
    refine ⟨folder, _, _, fun _ _ h => .up folder h, hw, ?_, by simp⟩
    have hdown := t.height_dropLast at_
    unfold room
    omega
  | new _ _ _ _ creates => cases creates
  | last _ _ _ _ stays => cases stays
  | @follow _ links s _ _ folder short link _ nonempty hw =>
    obtain ⟨at', links', hle, hon, hrest⟩ := hw.split
    have hroom : t.room at' links' + 1 ≤ t.room at_ (links + 1) := room_follow at' hle
    refine ⟨folder, at', links', fun l' todo' h => ?_, hrest, by omega, ?_⟩
    · exact .follow folder short link (fun _ => rfl) nonempty (hon l' todo' h)
    · rintro n ⟨⟩
      exact ⟨mem_namesAt.2 (mem_keys_of_node? link (by simp)), hroom⟩
  | @enter _ _ s _ _ folder short there noLink hw =>
    obtain ⟨hname, hroom⟩ : s ∈ t.namesAt at_ ∧ t.room (at_ ++ [s]) links + 1 ≤ t.room at_ links :=
      room_concat there
    refine ⟨folder, _, _, fun _ _ h => .enter folder short there noLink h, hw, by omega, ?_⟩
    rintro n ⟨⟩
    exact ⟨hname, hroom⟩

/-- A walk may be asked to stay somewhere as long as it goes on from there. -/
theorem WalksTo.thicken (h : t.WalksTo {} l at_ links (todo' ++ [s])) (hl : Lighter todo' todo) :
    t.WalksTo {} l at_ links (todo ++ [s]) := by
  induction hl generalizing at_ links with
  | nil => exact h
  | keep _ ih =>
    obtain ⟨-, at', links', hon, hrest, -⟩ := h.step
    exact hon l _ (ih hrest)
  | @drop todo todo' _ ih =>
    refine .stay ?_ (ih h)
    cases todo' with
    | nil => exact h.step.1
    | cons => exact h.step.1

/-- A walk that is asked to stay at its end leads to a folder. -/
theorem WalksTo.node?_of_stay (h : t.WalksTo {} l at_ links (todo ++ [.stay])) :
    t.node? l = some .folder := by
  obtain ⟨at', links', -, -, hrest⟩ := h.split
  cases hrest with
  | stay folder hw => rwa [hw.eq_of_nil]

/-! ## Paths of the same parts -/

/-- A path leads where another path of the same parts leads to a file, unless it is too long: both
end with the same piece, and everything else that stays somewhere goes on from there. -/
theorem locate_eq_of_bare (h : bare p = bare q) (hlast : (steps p).getLast? = (steps q).getLast?)
    (hq : q ≠ "") (hsize : q.utf8ByteSize ≤ longestPath) (hp : t.isFile p = true) :
    t.locate q = t.locate p := by
  obtain ⟨l, hl, hnode⟩ := isFile_iff.1 hp
  obtain ⟨⟨hnul, -⟩, hw⟩ := locate_eq_ok_iff.1 hl
  rw [String.contains_char_eq, decide_eq_false_iff_not] at hnul
  rw [hl]
  refine locate_eq_ok_iff.2 ⟨⟨?_, by simpa using hq, hsize⟩, ?_⟩
  · rw [String.contains_char_eq, decide_eq_false_iff_not]
    exact mt (mem_toList_of_bare h.symm (by decide) (by decide)) hnul
  · have hfilter := filter_steps_congr h
    rw [← isAbsolute_congr h]
    rcases List.eq_nil_or_concat (steps p) with hnil | ⟨init, s, hinit⟩
    · rw [hnil] at hw hlast
      rwa [List.getLast?_eq_none_iff.1 hlast.symm]
    · rw [List.concat_eq_append] at hinit
      rw [hinit] at hw hfilter hlast
      obtain ⟨init', hinit'⟩ := List.getLast?_eq_some_iff.1
        (hlast.symm.trans List.getLast?_concat)
      have hstay : s ≠ .stay := by
        rintro rfl
        have hfolder := hw.node?_of_stay
        rcases hnode with hnode | ⟨bytes, hnode⟩ <;> rw [hfolder] at hnode <;> cases hnode
      rw [hinit', List.filter_append, List.filter_append, List.append_cancel_right_eq] at hfilter
      rw [hinit']
      have hlight := hw.lighten ((lighter_filter init).append (.refl [s]))
      exact (hfilter ▸ hlight).thicken (lighter_filter init')

end FileTree

end StyleBuild
