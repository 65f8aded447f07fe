import StyleBuild.Proofs.Glob.Spelling

/-!
# Searches are thorough

A search finds every file that its parts spell (`exists_mem_search`), unless it goes astray: the
walk to the file goes through the folders that the search looks into, where a path that the search
has come to asks for no more than the pieces of the file's path do (`Reached.follows`). The search
has as much fuel as the walk can have steps.
-/

namespace StyleBuild

namespace Glob

open StyleBuild.Path FileTree

variable {ps : List Part} {q : List String} {part : Part} {n s path y : String} {t : FileTree}

/-! ## Paths on the way -/

/-- The paths that a search comes to behind some pieces. -/
inductive Reached (absolute : Bool) : List String → String → Prop
  | start : Reached absolute [] (if absolute then "/" else ".")
  | child {done : List String} {path n : String} (noSlash : '/' ∉ n.toList)
      (kept : isHere path = true → n ≠ "") :
      Reached absolute done path → Reached absolute (done ++ [n]) (below path n)
  | joined {done : List String} {path n : String} (noSlash : '/' ∉ n.toList)
      (inside : absolute = true ∨ done ≠ []) :
      Reached absolute done path → Reached absolute (done ++ [n]) (Path.join path n)

/-- A path that asks for no more than some pieces do behind the folder at its start. -/
structure Follows (absolute : Bool) (done : List String) (path : String) : Prop where
  nonempty : path ≠ ""
  absolute : isAbsolute path = absolute
  steps : Lighter (steps path) (.stay :: done.map Step.ofPiece)

variable {absolute : Bool} {done todo : List String}

theorem Follows.joined (h : Follows absolute done path) (hn : '/' ∉ n.toList) :
    Follows absolute (done ++ [n]) (Path.join path n) := by
  have hrelative := isAbsolute_of_not_mem hn
  obtain ⟨hlighter, hsame⟩ := lighter_join h.nonempty hrelative
  obtain ⟨b, hb, -⟩ := exists_join h.nonempty hrelative
  rw [pieces_of_not_mem hn] at hlighter
  refine ⟨by simp [hb], hsame.trans h.absolute, ?_⟩
  rw [List.map_append]
  exact hlighter.trans (h.steps.append (.refl _))

/-- Where a path names the current folder, its pieces do as well. -/
theorem Follows.silent (h : Follows absolute done path) (hhere : isHere path = true) :
    done.filterMap part? = [] := by
  obtain ⟨hrelative, hbare⟩ := isAbsolute_of_isHere hhere
  rw [bare_eq, hrelative, h.steps.filterMap_part?, List.filterMap_cons_none rfl,
    filterMap_ofPiece] at hbare
  exact hbare

theorem Follows.child (h : Follows absolute done path) (hn : '/' ∉ n.toList)
    (hkept : isHere path = true → n ≠ "") : Follows absolute (done ++ [n]) (below path n) := by
  unfold below
  split
  · next hhere =>
    refine ⟨hkept hhere, ?_, ?_⟩
    · rw [isAbsolute_of_not_mem hn, ← h.absolute, (isAbsolute_of_isHere hhere).1]
    · have hsilent := (filterMap_ofPiece done).trans (h.silent hhere)
      rw [steps_eq_inner, inner_of_not_mem hn, List.map_append]
      exact .drop ((lighter_nil hsilent).append (.refl _))
  · exact h.joined hn

theorem Reached.follows (h : Reached absolute done path) : Follows absolute done path := by
  induction h with
  | start =>
    cases absolute with
    | false =>
      have hdot : '/' ∉ ".".toList := by decide
      refine ⟨by simp, isAbsolute_of_not_mem hdot, ?_⟩
      rw [if_neg Bool.false_ne_true, steps_eq_inner, inner_of_not_mem hdot]
      exact .refl _
    | true =>
      have hroot : inner "/" = [""] := inner_root ""
      refine ⟨by simp, isAbsolute_root "", ?_⟩
      rw [if_pos rfl, steps_eq_inner, hroot]
      exact .refl _
  | child noSlash kept _ ih => exact ih.child noSlash kept
  | joined noSlash _ _ ih => exact ih.joined noSlash

theorem utf8ByteSize_join_le (hp : path ≠ "") (hn : '/' ∉ n.toList) :
    (Path.join path n).utf8ByteSize ≤ path.utf8ByteSize + (n.utf8ByteSize + 1) := by
  have hslash : "/".utf8ByteSize = 1 := by decide
  obtain ⟨b, hjoin, rfl | rfl⟩ := exists_join hp (isAbsolute_of_not_mem hn) <;>
    · rw [hjoin]
      simp only [String.utf8ByteSize_append, hslash]
      omega

theorem join_root (hn : '/' ∉ n.toList) : Path.join "/" n = "/" ++ n := by
  have hempty : "/".isEmpty = false := by decide
  have hend : "/".endsWith "/" = true := endsWith_slash_iff.2 ⟨"", rfl⟩
  rw [Path.join, isAbsolute_of_not_mem hn, hempty, hend]
  rfl

/-- A path that a search comes to is no longer than its pieces with slashes between them, and one
more in front of them if it is absolute. -/
theorem Reached.size (h : Reached absolute done path) :
    (done = [] ∧ path = if absolute then "/" else ".") ∨
      path.utf8ByteSize + (if absolute then 0 else 1) ≤ span done := by
  have hjoined {done : List String} {path n : String} (hn : '/' ∉ n.toList)
      (hr : Reached absolute done path) (hinside : absolute = true ∨ done ≠ [])
      (h : (done = [] ∧ path = if absolute then "/" else ".") ∨
        path.utf8ByteSize + (if absolute then 0 else 1) ≤ span done) :
      (Path.join path n).utf8ByteSize + (if absolute then 0 else 1) ≤ span (done ++ [n]) := by
    rw [span_append, span_singleton]
    rcases h with ⟨rfl, rfl⟩ | h
    · obtain rfl : absolute = true := hinside.resolve_right (not_not.2 rfl)
      have hslash : "/".utf8ByteSize = 1 := by decide
      rw [if_pos rfl, if_pos rfl, join_root hn, String.utf8ByteSize_append, hslash]
      omega
    · have := utf8ByteSize_join_le hr.follows.nonempty hn
      omega
  induction h with
  | start => exact .inl ⟨rfl, rfl⟩
  | @child done path n noSlash kept hr ih =>
    refine .inr ?_
    unfold Glob.below
    split
    · rw [span_append, span_singleton]
      split <;> omega
    · next hhere =>
      refine hjoined noSlash hr ?_ ih
      rcases ih with ⟨rfl, rfl⟩ | hle
      · cases absolute with
        | false => exact absurd isHere_dot hhere
        | true => exact .inl rfl
      · refine .inr ?_
        rintro rfl
        have hpos : 0 < path.utf8ByteSize :=
          Nat.pos_of_ne_zero (mt String.utf8ByteSize_eq_zero_iff.1 hr.follows.nonempty)
        rw [span_nil] at hle
        omega
  | joined noSlash inside hr ih => exact .inr (hjoined noSlash hr inside ih)

theorem mem_toList_join {c : Char} (hp : path ≠ "") (hn : '/' ∉ n.toList)
    (hc : c ∈ (Path.join path n).toList) : c ∈ path.toList ∨ c = '/' ∨ c ∈ n.toList := by
  obtain ⟨b, hjoin, rfl | rfl⟩ := exists_join hp (isAbsolute_of_not_mem hn) <;>
    · rw [hjoin] at hc
      simp only [String.toList_append, List.mem_append] at hc ⊢
      rcases hc with (hc | hc) | hc
      · simp [hc]
      · exact .inr (.inl (by simpa using hc))
      · exact .inr (.inr hc)

theorem Reached.mem_toList {c : Char} (h : Reached absolute done path) (hc : c ∈ path.toList) :
    c = '/' ∨ c = '.' ∨ ∃ s ∈ done, c ∈ s.toList := by
  have hjoined {done : List String} {path n : String} (hr : Reached absolute done path)
      (hn : '/' ∉ n.toList)
      (ih : c ∈ path.toList → c = '/' ∨ c = '.' ∨ ∃ s ∈ done, c ∈ s.toList)
      (hc : c ∈ (Path.join path n).toList) :
      c = '/' ∨ c = '.' ∨ ∃ s ∈ done ++ [n], c ∈ s.toList := by
    rcases mem_toList_join hr.follows.nonempty hn hc with hc | hc | hc
    · exact (ih hc).imp id (Or.imp id fun ⟨s, hs, hcs⟩ => ⟨s, List.mem_append_left _ hs, hcs⟩)
    · exact .inl hc
    · exact .inr (.inr ⟨n, by simp, hc⟩)
  induction h with
  | start =>
    split at hc
    · exact .inl (by simpa using hc)
    · exact .inr (.inl (by simpa using hc))
  | @child done path n noSlash _ hr ih =>
    unfold Glob.below at hc
    split at hc
    · exact .inr (.inr ⟨n, by simp, hc⟩)
    · exact hjoined hr noSlash ih hc
  | joined noSlash _ hr ih => exact hjoined hr noSlash ih hc

/-! ## Everything is found -/

/-- What the pieces of a path have to be for the system to take it, and for a search not to go
astray. -/
structure Fits (absolute : Bool) (all : List String) : Prop where
  noSlash : ∀ s ∈ all, '/' ∉ s.toList
  noNul : ∀ s ∈ all, '\x00' ∉ s.toList
  short : span all ≤ longestPath + if absolute then 0 else 1
  kept : absolute = true ∨ ¬Astray all

theorem Fits.child (h : Fits absolute (done ++ n :: todo)) (hr : Reached absolute done path) :
    Reached absolute (done ++ [n]) (below path n) := by
  refine .child (h.noSlash n (by simp)) (fun hhere => ?_) hr
  have hrelative : absolute = false := by
    rw [← hr.follows.absolute, (isAbsolute_of_isHere hhere).1]
  have hkept := h.kept.resolve_left (by simp [hrelative])
  have hsilent := List.filterMap_eq_nil_iff.1 (hr.follows.silent hhere)
  rintro rfl
  refine hkept ?_
  clear h hr hkept
  induction done with
  | nil => rfl
  | cons s done ih =>
    have hs := hsilent s List.mem_cons_self
    have hrest := ih fun s hs => hsilent s (List.mem_cons_of_mem _ hs)
    rw [List.cons_append, Astray, List.dropWhile_cons]
    split
    · exact hrest
    · next hdot =>
      have hempty : s = "" := by
        unfold part? at hs
        split_ifs at hs with h
        exact h.resolve_right (by simpa using hdot)
      simp [hempty]

variable {e : Ending} {l at_ : Location} {links : Nat}

theorem Reached.locate (h : Reached absolute done path) (hfits : Fits absolute (done ++ todo))
    (hw : t.WalksTo e at_ (if absolute then [] else t.current) mostLinks (steps path)) :
    t.locate path e = .ok at_ := by
  have hnul : path.contains '\x00' = false := by
    rw [String.contains_char_eq, decide_eq_false_iff_not]
    intro hc
    rcases h.mem_toList hc with hc | hc | ⟨s, hs, hc⟩
    · exact absurd hc (by decide)
    · exact absurd hc (by decide)
    · exact hfits.noNul s (List.mem_append_left _ hs) hc
  have hsize : path.utf8ByteSize ≤ longestPath := by
    rcases h.size with ⟨-, rfl⟩ | hsize
    · cases absolute <;> decide
    · have hshort := hfits.short
      rw [span_append] at hshort
      omega
  refine locate_eq_ok_iff.2 ⟨⟨hnul, by simpa using h.follows.nonempty, hsize⟩, ?_⟩
  rwa [h.follows.absolute]

/-- How far a search has come on the way to a location: some pieces of the path are done and some
are to do. -/
structure Front (t : FileTree) (absolute : Bool) (l : Location) (done todo : List String)
    (at_ : Location) (links : Nat) : Prop where
  fits : Fits absolute (done ++ todo)
  walked : ∀ l' more, t.WalksTo {} l' at_ links more →
    t.WalksTo {} l' (if absolute then [] else t.current) mostLinks
      (.stay :: done.map Step.ofPiece ++ more)
  ahead : t.WalksTo {} l at_ links (todo.map Step.ofPiece)

namespace Front

theorem walksTo (h : Front t absolute l done todo at_ links) (hr : Reached absolute done path) :
    t.WalksTo {} at_ (if absolute then [] else t.current) mostLinks (steps path) := by
  have hw := h.walked at_ [] .done
  rw [List.append_nil] at hw
  exact hw.lighten hr.follows.steps

theorem locate (h : Front t absolute l done todo at_ links) (hr : Reached absolute done path) :
    t.locate path = .ok at_ :=
  hr.locate h.fits (h.walksTo hr)

theorem isFolder (h : Front t absolute l done (n :: todo) at_ links)
    (hr : Reached absolute done path) : t.isFolder path = true := by
  rw [FileTree.isFolder, at?, h.locate hr]
  exact beq_iff_eq.2 h.ahead.step.1

theorem names (h : Front t absolute l done (n :: todo) at_ links)
    (hr : Reached absolute done path) : t.names path = t.namesAt at_ := by
  rw [FileTree.names, h.locate hr]
  exact if_pos h.ahead.step.1

theorem isThere (h : Front t absolute l done todo at_ links) (hr : Reached absolute done path)
    (hl : (t.node? l).isSome = true) : t.isThere path = true := by
  have hat : (t.node? at_).isSome = true := by
    cases todo with
    | nil => rwa [← h.ahead.eq_of_nil]
    | cons n todo => rw [h.ahead.step.1]; rfl
  obtain ⟨l', hw, hl'⟩ := (h.walksTo hr).exists_there hat
  rw [FileTree.isThere, at?, hr.locate h.fits hw]
  exact hl'

theorem step (h : Front t absolute l done (n :: todo) at_ links) :
    ∃ at' links', Front t absolute l (done ++ [n]) todo at' links' ∧
      t.room at' links' ≤ t.room at_ links + 1 ∧
      (IsName n → n ∈ t.namesAt at_ ∧ t.room at' links' + 1 ≤ t.room at_ links) := by
  obtain ⟨-, at', links', hon, hrest, hroom, hname⟩ := h.ahead.step
  refine ⟨at', links', ⟨?_, fun l' more hw => ?_, hrest⟩, hroom, fun hn => hname n ?_⟩
  · simpa using h.fits
  · simpa using h.walked l' _ (hon l' more hw)
  · have hpart := (part?_ofPiece n).trans hn.part
    cases hpiece : Step.ofPiece n <;> simp_all [Step.part?]

/-- A search looks at the next name on the way, unless the next part has no wildcards. -/
theorem mem_search (h : Front t absolute l done (n :: todo) at_ links)
    (hr : Reached absolute done path) (hn : IsName n) (hpart : ∀ s, part ≠ .literal s) {fuel : Nat}
    (hy : y ∈ visit t false fuel (below path n) (part :: ps)) :
    y ∈ search t false (fuel + 1) path (part :: ps) := by
  obtain ⟨at', links', -, -, hname⟩ := h.step
  have hlisted : n ∈ t.names path := by
    rw [h.names hr]
    exact (hname hn).1
  exact (mem_search_part hpart).2 ⟨h.isFolder hr, .inr ⟨n, hlisted, hy⟩⟩

end Front

/-- Two stars search as any number of two stars do. -/
theorem mem_search_folders {fuel : Nat} : y ∈ search t false fuel path (.folders :: ps) ↔
    y ∈ search t false fuel path (.folders :: ps.dropWhile (· == .folders)) := by
  have hvisit (fuel : Nat) (path : String) : y ∈ visit t false fuel path (.folders :: ps) ↔
      y ∈ visit t false fuel path (.folders :: ps.dropWhile (· == .folders)) := by
    cases fuel with
    | zero => simp [visit]
    | succ fuel => rw [mem_visit_folders, mem_visit_folders, List.dropWhile_idempotent]
  cases fuel with
  | zero => simp [search]
  | succ fuel =>
    rw [mem_search_part (by simp), mem_search_part (by simp)]
    simp only [hvisit]
    simp [Part.specials]

theorem exists_goesOn (fuel : Nat) (hs : Spells ps q) (hr : Reached absolute done path)
    (hf : Front t absolute l done q at_ links)
    (h : ps ≠ [] → ∃ y ∈ search t false fuel path ps,
      Reached absolute (done ++ q) y ∧ t.locate y = .ok l) :
    ∃ y, GoesOn t false fuel path ps y ∧ Reached absolute (done ++ q) y ∧ t.locate y = .ok l := by
  unfold GoesOn
  by_cases hps : ps = []
  · subst hps
    cases hs
    refine ⟨path, ?_, by rwa [List.append_nil], ?_⟩
    · rw [if_pos rfl]
      exact mem_wanted.2 ⟨by simp, rfl⟩
    · rw [hf.locate hr, hf.ahead.eq_of_nil]
  · rw [if_neg hps]
    exact h hps

/-- **A search finds every file that its parts spell.** The fuel pays three steps for each part, and
two for each name that there is room for. -/
theorem exists_mem_search (hs : Spells ps q) (hps : ps ≠ [])
    (hl : (t.node? l).isSome = true) {fuel : Nat} (hr : Reached absolute done path)
    (hf : Front t absolute l done q at_ links)
    (hstart : absolute = true ∨ done ≠ [] ∨ ∀ part ∈ ps.head?, part.specials = [])
    (hfuel : 3 * ps.length + 2 * t.room at_ links + 1 ≤ fuel) :
    ∃ y ∈ search t false fuel path ps, Reached absolute (done ++ q) y ∧ t.locate y = .ok l := by
  have hinside {n : String} {done : List String} : done ++ [n] ≠ [] := by simp
  induction hs generalizing done path at_ links fuel with
  | nil => exact absurd rfl hps
  | @literal s ps q hs ih =>
    obtain ⟨at', links', hf', hroom, -⟩ := hf.step
    have hr' := hf.fits.child hr
    rw [List.length_cons] at hfuel
    obtain ⟨fuel, rfl⟩ : ∃ k, fuel = k + 1 := ⟨fuel - 1, by omega⟩
    obtain ⟨y, hy, hreached, hlocate⟩ := exists_goesOn fuel hs hr' hf' fun hps =>
      ih hps hr' hf' (.inr (.inl hinside)) (by omega)
    refine ⟨y, mem_search_literal.2 ⟨?_, hy⟩, by simpa using hreached, hlocate⟩
    split
    · exact hf.isFolder hr
    · exact hf'.isThere hr' hl
  | @wild ts n ps q name describes hs ih =>
    obtain ⟨at', links', hf', -, hname⟩ := hf.step
    obtain ⟨-, hroom⟩ := hname name
    have hr' := hf.fits.child hr
    rw [List.length_cons] at hfuel
    obtain ⟨fuel, rfl⟩ : ∃ k, fuel = k + 3 := ⟨fuel - 3, by omega⟩
    obtain ⟨y, hy, hreached, hlocate⟩ := exists_goesOn fuel hs hr' hf' fun hps =>
      ih hps hr' hf' (.inr (.inl hinside)) (by omega)
    refine ⟨y, hf.mem_search hr name (by simp) ?_, by simpa using hreached, hlocate⟩
    refine (mem_visit_part (by simp)).2 (mem_enter.2 ⟨?_, hy⟩)
    exact ⟨n, fileName?_below path name, describes⟩
  | @special ts s ps q special hs ih =>
    have habsolute : absolute = true ∨ done ≠ [] := by
      rcases hstart with h | h | h
      · exact .inl h
      · exact .inr h
      · rw [h _ rfl] at special
        cases special
    obtain ⟨at', links', hf', hroom, -⟩ := hf.step
    have hr' := Reached.joined (noSlash_of_mem_specials special) habsolute hr
    rw [List.length_cons] at hfuel
    obtain ⟨fuel, rfl⟩ : ∃ k, fuel = k + 1 := ⟨fuel - 1, by omega⟩
    obtain ⟨y, hy, hreached, hlocate⟩ := exists_goesOn fuel hs hr' hf' fun hps =>
      ih hps hr' hf' (.inr (.inl hinside)) (by omega)
    exact ⟨y, (mem_search_part (by simp)).2 ⟨hf.isFolder hr, .inl ⟨s, special, hy⟩⟩,
      by simpa using hreached, hlocate⟩
  | @more n ps q name hs ih =>
    obtain ⟨at', links', hf', -, hname⟩ := hf.step
    obtain ⟨-, hroom⟩ := hname name
    have hr' := hf.fits.child hr
    obtain ⟨fuel, rfl⟩ : ∃ k, fuel = k + 2 := ⟨fuel - 2, by omega⟩
    obtain ⟨y, hy, hreached, hlocate⟩ : ∃ y ∈ search t false fuel (below path n) (.folders :: ps),
        Reached absolute (done ++ [n] ++ q) y ∧ t.locate y = .ok l :=
      ih (by simp) hr' hf' (.inr (.inl hinside)) (by omega)
    obtain ⟨m, q, rfl⟩ := List.exists_cons_of_ne_nil (hs.ne_nil (by simp))
    refine ⟨y, hf.mem_search hr name (by simp) ?_, by simpa using hreached, hlocate⟩
    exact mem_visit_folders.2 (.inr (.inr ⟨hf'.isFolder hr', mem_search_folders.1 hy⟩))
  | @again ps q hs ih =>
    rw [List.length_cons] at hfuel
    have hfuel' : 3 * (Part.folders :: ps).length + 2 * t.room at_ links + 1 ≤ fuel := by omega
    obtain ⟨y, hy, hreached⟩ := ih (by simp) hr hf (.inr (.inr (by simp [Part.specials]))) hfuel'
    have hdrop : (Part.folders :: ps).dropWhile (· == .folders) = ps.dropWhile (· == .folders) :=
      List.dropWhile_cons_of_pos (by simp)
    rw [mem_search_folders] at hy
    exact ⟨y, mem_search_folders.2 (hdrop ▸ hy), hreached⟩
  | @leave part n ps q other name describes hs ih =>
    obtain ⟨at', links', hf', -, hname⟩ := hf.step
    obtain ⟨-, hroom⟩ := hname name
    have hr' := hf.fits.child hr
    rw [List.length_cons, List.length_cons] at hfuel
    obtain ⟨fuel, rfl⟩ : ∃ k, fuel = k + 3 := ⟨fuel - 3, by omega⟩
    obtain ⟨y, hy, hreached, hlocate⟩ := exists_goesOn fuel hs hr' hf' fun hps =>
      ih hps hr' hf' (.inr (.inl hinside)) (by omega)
    refine ⟨y, hf.mem_search hr name (by simp) ?_, by simpa using hreached, hlocate⟩
    refine mem_visit_folders.2 (.inr (.inl ⟨part, ps, by simp [other], ?_⟩))
    exact mem_enter.2 ⟨⟨n, fileName?_below path name, describes⟩, hy⟩

end Glob

end StyleBuild
