import StyleBuild.Glob.Expansion
import StyleBuild.Proofs.Files.Walking

/-!
# What a search finds

The parts of a glob spell relative paths (`Spells`): a part without wildcards spells itself, one
with wildcards spells the names that it describes, and two stars spell any folders. A search finds
nothing but what its parts spell (`exists_of_mem_search`), and where folders are wanted, it finds
nothing else (`isFolder_of_mem_search`).
-/

namespace StyleBuild

/-- Every node has a name that a file may have. -/
def FileTree.IsNamed (t : FileTree) : Prop := ∀ x ∈ t.nodes, ∀ n ∈ x.1, Path.IsName n

namespace Glob

open StyleBuild.Path FileTree

/-! ## Spelling -/

/-- The relative paths, piece by piece, that parts spell. -/
inductive Spells : List Part → List String → Prop
  | nil : Spells [] []
  | literal {s : String} {ps : List Part} {q : List String} :
      Spells ps q → Spells (.literal s :: ps) (s :: q)
  | wild {ts : List Token} {n : String} {ps : List Part} {q : List String} (name : IsName n)
      (describes : Part.describes n (.wild ts) = true) :
      Spells ps q → Spells (.wild ts :: ps) (n :: q)
  /-- A part that starts with a dot may spell the folder itself or the one above. -/
  | special {ts : List Token} {s : String} {ps : List Part} {q : List String}
      (special : s ∈ (Part.wild ts).specials) : Spells ps q → Spells (.wild ts :: ps) (s :: q)
  /-- Two stars spell one more folder. -/
  | more {n : String} {ps : List Part} {q : List String} (name : IsName n) :
      Spells (.folders :: ps) q → Spells (.folders :: ps) (n :: q)
  /-- Two stars twice are two stars. -/
  | again {ps : List Part} {q : List String} :
      Spells (.folders :: ps) q → Spells (.folders :: .folders :: ps) q
  /-- Behind the folders there is a name that the next part describes. -/
  | leave {part : Part} {n : String} {ps : List Part} {q : List String} (other : part ≠ .folders)
      (name : IsName n) (describes : part.describes n = true) :
      Spells ps q → Spells (.folders :: part :: ps) (n :: q)

variable {ps : List Part} {q : List String} {part : Part} {n s path y : String}

theorem Spells.of_dropWhile (h : Spells (.folders :: ps.dropWhile (· == .folders)) q) :
    Spells (.folders :: ps) q := by
  induction ps with
  | nil => exact h
  | cons part ps ih =>
    rw [List.dropWhile_cons] at h
    split at h
    · next hpart =>
      obtain rfl : part = .folders := by simpa using hpart
      exact .again (ih h)
    · exact h

theorem Spells.ne_nil (h : Spells ps q) (hps : ps ≠ []) : q ≠ [] := by
  induction h with
  | nil => exact absurd rfl hps
  | again _ ih => exact ih (by simp)
  | _ => simp

theorem eq_of_mem_specials (h : s ∈ part.specials) : s = ".." ∨ s = "." := by
  unfold Part.specials at h
  split at h
  · simpa using (List.mem_filter.1 h).1
  · cases h

theorem ne_empty_of_mem_specials (h : s ∈ part.specials) : s ≠ "" := by
  rcases eq_of_mem_specials h with rfl | rfl <;> decide

theorem noSlash_of_mem_specials (h : s ∈ part.specials) : '/' ∉ s.toList := by
  rcases eq_of_mem_specials h with rfl | rfl <;> decide

theorem Spells.head?_of_empty (h : Spells ps ("" :: q)) : ps.head? = some (.literal "") := by
  have hname : ¬IsName "" := fun h => absurd h.part (by decide)
  generalize hall : "" :: q = all at h
  induction h with
  | nil => cases hall
  | literal =>
    cases hall
    rfl
  | wild name =>
    cases hall
    exact absurd name hname
  | special special =>
    cases hall
    rcases eq_of_mem_specials special with h | h <;> simp at h
  | more name =>
    cases hall
    exact absurd name hname
  | again _ ih => cases ih hall
  | leave _ name =>
    cases hall
    exact absurd name hname

/-! ## Steps of a search -/

section Steps

variable {t : FileTree} {foldersOnly : Bool} {fuel : Nat} {rest : List Part}

/-- Where a search goes on from a path: it has come to its end if no parts are left. -/
def GoesOn (t : FileTree) (foldersOnly : Bool) (fuel : Nat) (path : String) (rest : List Part)
    (y : String) : Prop :=
  y ∈ if rest = [] then wanted t foldersOnly path else search t foldersOnly fuel path rest

theorem mem_wanted :
    y ∈ wanted t foldersOnly path ↔ (foldersOnly = true → t.isFolder path = true) ∧ y = path := by
  unfold wanted
  cases foldersOnly <;> cases t.isFolder path <;> simp

theorem mem_search_literal : y ∈ search t foldersOnly (fuel + 1) path (.literal s :: rest) ↔
    (if s = "." ∨ s = ".." then t.isFolder path else t.isThere (below path s)) = true ∧
      GoesOn t foldersOnly fuel (below path s) rest y := by
  rw [search, GoesOn]
  cases (if s = "." ∨ s = ".." then t.isFolder path else t.isThere (below path s)) <;> simp

theorem mem_search_part (hpart : ∀ s, part ≠ .literal s) :
    y ∈ search t foldersOnly (fuel + 1) path (part :: rest) ↔ t.isFolder path = true ∧
      ((∃ s ∈ part.specials, GoesOn t foldersOnly fuel (Path.join path s) rest y) ∨
        ∃ n ∈ t.names path, y ∈ visit t foldersOnly fuel (below path n) (part :: rest)) := by
  rw [search.eq_4 _ _ _ _ _ _ hpart]
  unfold GoesOn
  cases t.isFolder path <;> simp

theorem mem_visit_folders : y ∈ visit t foldersOnly (fuel + 1) path (.folders :: rest) ↔
    (rest.dropWhile (· == .folders) = [] ∧ t.isFolder path = true ∧ y = path) ∨
      (∃ part after, rest.dropWhile (· == .folders) = part :: after ∧
        y ∈ enter t foldersOnly fuel path part after) ∨
      t.isFolder path = true ∧
        y ∈ search t foldersOnly fuel path (.folders :: rest.dropWhile (· == .folders)) := by
  rw [visit, List.mem_append]
  cases rest.dropWhile (· == .folders) <;> cases t.isFolder path <;> simp

theorem mem_visit_part (hpart : part ≠ .folders) :
    y ∈ visit t foldersOnly (fuel + 1) path (part :: rest) ↔
      y ∈ enter t foldersOnly fuel path part rest := by
  rw [visit.eq_4 _ _ _ _ _ _ hpart]

theorem mem_enter : y ∈ enter t foldersOnly (fuel + 1) path part rest ↔
    (∃ n, Path.fileName? path = some n ∧ part.describes n = true) ∧
      GoesOn t foldersOnly fuel path rest y := by
  rw [enter, GoesOn, ← Option.any_eq_true]
  cases (Path.fileName? path).any fun n => part.describes n <;> simp

/-- Where folders are wanted, nothing else is found. -/
theorem isFolder_of_mem_search (fuel : Nat) :
    (∀ path ps, y ∈ search t true fuel path ps → t.isFolder y = true) ∧
    (∀ path ps, y ∈ visit t true fuel path ps → t.isFolder y = true) ∧
    ∀ path part rest, y ∈ enter t true fuel path part rest → t.isFolder y = true := by
  induction fuel with
  | zero => simp [search, visit, enter]
  | succ fuel ih =>
    obtain ⟨hsearch, hvisit, henter⟩ := ih
    have hgoes {path rest} (h : GoesOn t true fuel path rest y) : t.isFolder y = true := by
      unfold GoesOn at h
      split at h
      · obtain ⟨hfolder, rfl⟩ := mem_wanted.1 h
        exact hfolder rfl
      · exact hsearch path rest h
    refine ⟨fun path ps h => ?_, fun path ps h => ?_, fun path part rest h => ?_⟩
    · cases ps with
      | nil => simp [search] at h
      | cons part rest =>
        by_cases hpart : ∀ s, part ≠ .literal s
        · rcases ((mem_search_part hpart).1 h).2 with ⟨s, -, h⟩ | ⟨n, -, h⟩
          · exact hgoes h
          · exact hvisit _ _ h
        · obtain ⟨s, rfl⟩ := not_forall_not.1 hpart
          exact hgoes (mem_search_literal.1 h).2
    · cases ps with
      | nil => simp [visit] at h
      | cons part rest =>
        by_cases hpart : part = .folders
        · subst hpart
          rcases mem_visit_folders.1 h with ⟨-, hfolder, rfl⟩ | ⟨part, after, -, h⟩ | ⟨-, h⟩
          · exact hfolder
          · exact henter _ _ _ h
          · exact hsearch _ _ h
        · exact henter _ _ _ ((mem_visit_part hpart).1 h)
    · exact hgoes (mem_enter.1 h).2

end Steps

/-! ## Nothing else is found -/

theorem isAbsolute_of_isHere (h : isHere path = true) :
    isAbsolute path = false ∧ bare path = [] := by
  have hparts : Path.parts path = [.here] := by simpa [isHere] using h
  have hbare : bare path = [] := by rw [bare, hparts]; rfl
  refine ⟨?_, hbare⟩
  rw [bare_eq] at hbare
  cases ha : isAbsolute path with
  | false => rfl
  | true => simp [ha] at hbare

theorem getLast?_parts_slash (p : String) (hn : IsName n) :
    (Path.parts (p ++ "/" ++ n)).getLast? = some (.name n) := by
  obtain ⟨first, rest, hp⟩ := List.exists_cons_of_ne_nil (pieces_ne_nil p)
  rw [Path.parts, pieces_slash, pieces_of_not_mem hn.noSlash, hp]
  simp [hn.part]

theorem fileName?_below (path : String) (hn : IsName n) : fileName? (below path n) = some n := by
  have hname : (Path.parts n).getLast? = some (.name n) := by
    have hdot : n ≠ "." := by
      rintro rfl
      exact absurd hn.part (by decide)
    rw [Path.parts, pieces_of_not_mem hn.noSlash, isAbsolute_of_not_mem hn.noSlash]
    simp [hdot, hn.part]
  have hlast : (Path.parts (below path n)).getLast? = some (.name n) := by
    unfold below
    split
    · exact hname
    · by_cases hpath : path = ""
      · rw [hpath, join_empty]
        exact hname
      · obtain ⟨b, hjoin, -⟩ := exists_join hpath (isAbsolute_of_not_mem hn.noSlash)
        rw [hjoin]
        exact getLast?_parts_slash b hn
  rw [fileName?, hlast]

/-- A path that leads to a file does not lead to a folder. -/
theorem isFolder_of_isFile {t : FileTree} (h : t.isFile y = true) : t.isFolder y = false := by
  unfold isFile at h
  unfold isFolder
  split at h <;> simp_all

/-- Parts that have no slash in them. -/
def SlashFree (ps : List Part) : Prop := ∀ s, .literal s ∈ ps → '/' ∉ s.toList

theorem SlashFree.tail (h : SlashFree (part :: ps)) : SlashFree ps :=
  fun s hs => h s (List.mem_cons_of_mem _ hs)

/-- Parts that have no slash in them spell pieces that have none. -/
theorem Spells.noSlash (h : Spells ps q) (hfree : SlashFree ps) : ∀ n ∈ q, '/' ∉ n.toList := by
  induction h with
  | nil => simp
  | literal _ ih =>
    exact List.forall_mem_cons.2 ⟨hfree _ List.mem_cons_self, ih hfree.tail⟩
  | wild name _ _ ih => exact List.forall_mem_cons.2 ⟨name.noSlash, ih hfree.tail⟩
  | special special _ ih =>
    exact List.forall_mem_cons.2 ⟨noSlash_of_mem_specials special, ih hfree.tail⟩
  | more name _ ih => exact List.forall_mem_cons.2 ⟨name.noSlash, ih hfree⟩
  | again _ ih => exact ih hfree.tail
  | leave _ name _ _ ih => exact List.forall_mem_cons.2 ⟨name.noSlash, ih hfree.tail.tail⟩

/-- Pieces on which a search from the current folder goes astray: an empty one follows nothing but
dots. -/
def Astray (q : List String) : Prop := (q.dropWhile (· == ".")).head? = some ""

theorem isHere_dot : isHere "." = true := by
  rw [isHere, Path.parts, isAbsolute_eq]
  decide

theorem isHere_join_dot (h : isHere path = true) : isHere (Path.join path ".") = true := by
  have hparts : Path.parts path = [.here] := by simpa [isHere] using h
  have hrelative := (isAbsolute_of_isHere h).1
  have hpath : path ≠ "" := by
    rintro rfl
    exact absurd hparts (by decide)
  have hsilent (b : String) (hb : b ≠ "") {s : String} (hs : (Path.pieces s).filterMap part? = []) :
      Path.parts (b ++ "/" ++ s) = Path.parts b := by
    rw [parts_slash hb, hs, List.append_nil]
  obtain ⟨b, hjoin, hb⟩ := exists_join hpath (isAbsolute_of_not_mem (n := ".") (by decide))
  have hbne : b ≠ "" := by
    rintro rfl
    rcases hb with rfl | rfl
    · exact hpath rfl
    · rw [String.empty_append] at hrelative
      exact absurd hrelative (by rw [isAbsolute_eq]; decide)
  have hsame : Path.parts b = Path.parts path := by
    rcases hb with rfl | rfl
    · rfl
    · have := hsilent b hbne (s := "") (by decide)
      rw [String.append_empty] at this
      exact this.symm
  rw [isHere, hjoin, hsilent b hbne (by decide), hsame, hparts]
  rfl

/-- A path goes on with one more piece, which is not lost. -/
structure Adds (path n next : String) : Prop where
  bare : bare next = bare path ++ (part? n).toList
  last : (steps next).getLast? = some (.ofPiece n)
  kept : isHere path = true → n ≠ ""
  stays : isHere path = true → n = "." → isHere next = true

theorem adds_join (path : String) (hn : '/' ∉ n.toList) (hkept : isHere path = true → n ≠ "") :
    Adds path n (Path.join path n) := by
  have hrelative := isAbsolute_of_not_mem hn
  refine ⟨by rw [bare_join path hrelative, filterMap_pieces hn], ?_, hkept, ?_⟩
  · by_cases hpath : path = ""
    · rw [hpath, join_empty, steps_eq_inner, inner_of_not_mem hn]
      rfl
    · obtain ⟨b, hjoin, -⟩ := exists_join hpath hrelative
      rw [hjoin, steps_eq_inner, inner_behind, pieces_of_not_mem hn]
      simp
  · rintro hhere rfl
    exact isHere_join_dot hhere

theorem adds_below (path : String) (hn : '/' ∉ n.toList) (hkept : isHere path = true → n ≠ "") :
    Adds path n (below path n) := by
  unfold below
  split
  · next h =>
    refine ⟨?_, ?_, hkept, ?_⟩
    · rw [(isAbsolute_of_isHere h).2, bare_of_relative (isAbsolute_of_not_mem hn),
        filterMap_pieces hn, List.nil_append]
    · rw [steps_eq_inner, inner_of_not_mem hn]
      rfl
    · rintro - rfl
      exact isHere_dot
  · exact adds_join path hn hkept

/-- The path is one behind another, along some pieces, and the search did not go astray. -/
structure LiesBehind (path : String) (q : List String) (y : String) : Prop where
  bare : bare y = bare path ++ q.filterMap part?
  start : q = [] → y = path
  last : ∀ n ∈ q.getLast?, (steps y).getLast? = some (.ofPiece n)
  kept : isHere path = true → ¬Astray q

theorem LiesBehind.refl (path : String) : LiesBehind path [] path :=
  ⟨by simp, fun _ => rfl, by simp, fun _ => by simp [Astray]⟩

theorem LiesBehind.cons {next : String} (hnext : Adds path n next) (h : LiesBehind next q y) :
    LiesBehind path (n :: q) y := by
  refine ⟨?_, by simp, fun m hm => ?_, fun hhere => ?_⟩
  · rw [h.bare, hnext.bare, List.append_assoc, List.filterMap_cons]
    cases part? n <;> rfl
  · cases q with
    | nil =>
      obtain rfl : n = m := by simpa using hm
      rw [h.start rfl]
      exact hnext.last
    | cons k q => exact h.last m (by simpa using hm)
  · rw [Astray, List.dropWhile_cons]
    split
    · next hdot => exact h.kept (hnext.stays hhere (by simpa using hdot))
    · simpa using hnext.kept hhere

variable {t : FileTree}

theorem isThere_empty (t : FileTree) : t.isThere "" = false := by
  have hlocate : t.locate "" { follows := false } = .error .notFound := by simp [locate]
  rw [isThere, at?, hlocate]
  rfl

theorem isName_of_mem_names (hnamed : t.IsNamed) (h : n ∈ t.names path) : IsName n := by
  unfold names at h
  split at h
  · next l _ =>
    split at h
    · obtain ⟨x, hx, heq⟩ := List.mem_map.1 (mem_namesAt.1 h)
      exact hnamed x hx n (heq ▸ List.mem_append_right _ (List.mem_singleton_self n))
    · cases h
  · cases h

/-- A path behind a name in a folder is behind the folder. -/
theorem LiesBehind.child (h : LiesBehind (below path n) q y) (hn : IsName n) :
    LiesBehind path (n :: q) y :=
  h.cons (adds_below path hn.noSlash fun _ => hn.ne_empty)

theorem SlashFree.dropWhile (h : SlashFree ps) : SlashFree (ps.dropWhile (· == .folders)) :=
  fun s hs => h s ((List.dropWhile_sublist _).subset hs)

theorem SlashFree.folders (h : SlashFree ps) : SlashFree (.folders :: ps) := by
  intro s hs
  rcases List.mem_cons.1 hs with hs | hs
  · cases hs
  · exact h s hs

/-- With some fuel a search, from wherever it has come to, finds a path only where its parts spell
the way there. -/
structure OnlySpelled (t : FileTree) (y : String) (fuel : Nat) : Prop where
  search : ∀ path ps, SlashFree ps → y ∈ search t false fuel path ps →
    ∃ q, Spells ps q ∧ LiesBehind path q y
  visit : ∀ path n ps, SlashFree ps → IsName n → y ∈ visit t false fuel (below path n) ps →
    ∃ q, Spells ps (n :: q) ∧ LiesBehind path (n :: q) y
  enter : ∀ path n part rest, SlashFree rest → IsName n →
    y ∈ enter t false fuel (below path n) part rest →
      part.describes n = true ∧ ∃ q, Spells rest q ∧ LiesBehind path (n :: q) y

namespace OnlySpelled

variable {fuel : Nat} {rest : List Part}

theorem goesOn (ih : OnlySpelled t y fuel) (hfree : SlashFree rest)
    (h : GoesOn t false fuel path rest y) : ∃ q, Spells rest q ∧ LiesBehind path q y := by
  unfold GoesOn at h
  split at h
  · next hrest =>
    obtain ⟨-, rfl⟩ := mem_wanted.1 h
    exact ⟨[], hrest ▸ .nil, .refl y⟩
  · exact ih.search path rest hfree h

/-- One step from a path to the names in it. -/
theorem search_succ (ih : OnlySpelled t y fuel) (hnamed : t.IsNamed) (hfree : SlashFree ps)
    (h : y ∈ Glob.search t false (fuel + 1) path ps) :
    ∃ q, Spells ps q ∧ LiesBehind path q y := by
  cases ps with
  | nil => simp [Glob.search] at h
  | cons part rest =>
    cases part with
    | literal s =>
      obtain ⟨hfound, h⟩ := mem_search_literal.1 h
      obtain ⟨q, hq, hbehind⟩ := ih.goesOn hfree.tail h
      have hkept : isHere path = true → s ≠ "" := by
        rintro hhere rfl
        have hbelow : below path "" = "" := by rw [below, if_pos hhere]
        rw [if_neg (by simp), hbelow, isThere_empty] at hfound
        cases hfound
      have hadds := adds_below path (hfree s List.mem_cons_self) hkept
      exact ⟨s :: q, .literal hq, hbehind.cons hadds⟩
    | folders =>
      rcases ((mem_search_part (by simp)).1 h).2 with ⟨s, hs, -⟩ | ⟨n, hn, h⟩
      · cases hs
      · obtain ⟨q, hq, hbehind⟩ := ih.visit _ n _ hfree (isName_of_mem_names hnamed hn) h
        exact ⟨n :: q, hq, hbehind⟩
    | wild ts =>
      rcases ((mem_search_part (by simp)).1 h).2 with ⟨s, hs, h⟩ | ⟨n, hn, h⟩
      · obtain ⟨q, hq, hbehind⟩ := ih.goesOn hfree.tail h
        have hadds := adds_join path (noSlash_of_mem_specials hs) fun _ =>
          ne_empty_of_mem_specials hs
        exact ⟨s :: q, .special hs hq, hbehind.cons hadds⟩
      · obtain ⟨q, hq, hbehind⟩ := ih.visit _ n _ hfree (isName_of_mem_names hnamed hn) h
        exact ⟨n :: q, hq, hbehind⟩

/-- One step from a name, with the part that is to describe it or with two stars. -/
theorem visit_succ (ih : OnlySpelled t y fuel) (hfile : t.isFile y = true) (hfree : SlashFree ps)
    (hn : IsName n) (h : y ∈ Glob.visit t false (fuel + 1) (below path n) ps) :
    ∃ q, Spells ps (n :: q) ∧ LiesBehind path (n :: q) y := by
  cases ps with
  | nil => simp [Glob.visit] at h
  | cons part rest =>
    by_cases hpart : part = .folders
    · subst hpart
      have hlater := hfree.tail.dropWhile
      rcases mem_visit_folders.1 h with ⟨-, hfolder, rfl⟩ | ⟨part, after, hdrop, h⟩ | ⟨-, h⟩
      · rw [isFolder_of_isFile hfile] at hfolder
        cases hfolder
      · rw [hdrop] at hlater
        obtain ⟨hdescribes, q, hq, hbehind⟩ := ih.enter path n part after hlater.tail hn h
        have hother : part ≠ .folders := by
          have := List.head?_dropWhile_not (· == Part.folders) rest
          simpa [hdrop] using this
        refine ⟨q, .of_dropWhile ?_, hbehind⟩
        rw [hdrop]
        exact .leave hother hn hdescribes hq
      · obtain ⟨q, hq, hbehind⟩ := ih.search _ _ hlater.folders h
        exact ⟨q, .more hn hq.of_dropWhile, hbehind.child hn⟩
    · obtain ⟨hdescribes, q, hq, hbehind⟩ :=
        ih.enter path n part rest hfree.tail hn ((mem_visit_part hpart).1 h)
      refine ⟨q, ?_, hbehind⟩
      cases part with
      | folders => exact absurd rfl hpart
      | literal s =>
        obtain rfl : s = n := by simpa [Part.describes] using hdescribes
        exact .literal hq
      | wild ts => exact .wild hn hdescribes hq

/-- One step into a name that a part describes. -/
theorem enter_succ (ih : OnlySpelled t y fuel) (hfree : SlashFree rest) (hn : IsName n)
    (h : y ∈ Glob.enter t false (fuel + 1) (below path n) part rest) :
    part.describes n = true ∧ ∃ q, Spells rest q ∧ LiesBehind path (n :: q) y := by
  obtain ⟨⟨m, hm, hdescribes⟩, h⟩ := mem_enter.1 h
  rw [fileName?_below path hn] at hm
  cases hm
  obtain ⟨q, hq, hbehind⟩ := ih.goesOn hfree h
  exact ⟨hdescribes, q, hq, hbehind.child hn⟩

end OnlySpelled

theorem onlySpelled (hnamed : t.IsNamed) (hfile : t.isFile y = true) (fuel : Nat) :
    OnlySpelled t y fuel := by
  induction fuel with
  | zero => constructor <;> simp [search, visit, enter]
  | succ fuel ih =>
    exact ⟨fun _ _ hfree => ih.search_succ hnamed hfree,
      fun _ _ _ hfree hn => ih.visit_succ hfile hfree hn,
      fun _ _ _ _ hfree hn => ih.enter_succ hfree hn⟩

/-- **A search finds only what its parts spell.** -/
theorem exists_of_mem_search (hnamed : t.IsNamed) (hfile : t.isFile y = true) {fuel : Nat}
    (hfree : SlashFree ps) (hy : y ∈ search t false fuel path ps) :
    ∃ q, Spells ps q ∧ LiesBehind path q y :=
  (onlySpelled hnamed hfile fuel).search path ps hfree hy

end Glob

end StyleBuild
