import StyleBuild.Proofs.Build.Survey
import StyleBuild.Proofs.Content.Expanding
import StyleBuild.Proofs.Content.Extracting
import StyleBuild.Proofs.Files.Places

/-!
# What a scan finds, and what it is blamed on

A scan keeps the files that its patterns yield in the order of their paths, each with the first
pattern that yields it (`Scan.mem_indexOf`). So neither the order of the patterns nor a pattern that
is given twice makes a difference to the files and the classes of a scan
(`ContentSource.scan_finds`), and a scan that fails is blamed on the first pattern that cannot be
expanded, or else on the first pattern that yields the first file that cannot be read
(`ContentSource.scan_blames`).
-/

namespace StyleBuild

/-! ## Sets of names -/

namespace NameSet

theorem sortedLT_insertInto (x : String) {ys : List String} (h : ys.SortedLT) :
    (insertInto x ys).SortedLT := by
  rw [List.sortedLT_iff_pairwise] at h ⊢
  induction ys with
  | nil => exact List.pairwise_singleton _ _
  | cons y ys ih =>
    obtain ⟨hy, hys⟩ := List.pairwise_cons.1 h
    unfold insertInto
    split_ifs with heq hlt
    · exact h
    · exact List.pairwise_cons.2 ⟨List.forall_mem_cons.2 ⟨hlt, fun z hz => hlt.trans (hy z hz)⟩, h⟩
    · refine List.pairwise_cons.2 ⟨fun z hz => ?_, ih hys⟩
      rcases mem_insertInto.1 hz with rfl | hz
      · exact lt_of_le_of_ne (not_lt.1 hlt) (Ne.symm heq)
      · exact hy z hz

theorem sortedLT_insertAll {s : NameSet} (h : s.names.SortedLT) (xs : List String) :
    (s.insertAll xs).names.SortedLT := by
  induction xs generalizing s with
  | nil => exact h
  | cons x xs ih => exact ih (s := s.insert x) (sortedLT_insertInto x h)

/-- Sets in order that have the same members are the same. -/
theorem ext_of_sortedLT {s s' : NameSet} (h : s.names.SortedLT) (h' : s'.names.SortedLT)
    (hmem : ∀ x, x ∈ s ↔ x ∈ s') : s = s' := by
  obtain ⟨xs⟩ := s
  obtain ⟨xs'⟩ := s'
  exact congrArg mk (h.eq_of_mem_iff h' hmem)

end NameSet

namespace Scan

open StyleBuild.Path

/-! ## Files in order -/

/-- Whether files are listed in the order of their paths. -/
def Index.IsSorted (i : Index) : Prop := i.Pairwise fun x y => place x.1 < place y.1

/-- Two entries have paths with the same parts. -/
def SamePath (x y : String × String) : Prop := parts x.1 = parts y.1

instance (x y : String × String) : Decidable (SamePath x y) :=
  inferInstanceAs (Decidable (_ = _))

variable {pattern path : String} {i : Index} {x : String × String}

/-- A file is added unless there is one with the same parts. -/
theorem mem_add_iff (hi : i.IsSorted) : x ∈ i.add pattern path ↔
    x ∈ i ∨ x = (path, pattern) ∧ ∀ y ∈ i, ¬SamePath y x := by
  fun_induction Index.add pattern path i with
  | case1 => simp
  | case2 p q rest hlt =>
    rw [before_iff] at hlt
    obtain ⟨hhead, -⟩ := List.pairwise_cons.1 hi
    have hnew : ∀ y ∈ (p, q) :: rest, ¬SamePath y (path, pattern) := by
      intro y hy hsame
      have hy : place p ≤ place y.1 := by
        rcases List.mem_cons.1 hy with rfl | hy
        · exact le_rfl
        · exact (hhead y hy).le
      exact (hlt.trans_le hy).ne' (place_eq_iff.2 hsame)
    rw [List.mem_cons]
    constructor
    · rintro (rfl | hx)
      · exact .inr ⟨rfl, hnew⟩
      · exact .inl hx
    · rintro (hx | ⟨rfl, -⟩)
      · exact .inr hx
      · exact .inl rfl
  | case3 p q rest _ hlt ih =>
    rw [before_iff] at hlt
    have hne : ¬SamePath (p, q) (path, pattern) := fun hsame => hlt.ne (place_eq_iff.2 hsame)
    rw [List.mem_cons, ih (List.pairwise_cons.1 hi).2, List.mem_cons, List.forall_mem_cons]
    constructor
    · rintro (hx | hx | ⟨rfl, hx⟩)
      · exact .inl (.inl hx)
      · exact .inl (.inr hx)
      · exact .inr ⟨rfl, hne, hx⟩
    · rintro ((hx | hx) | ⟨hx, -, hrest⟩)
      · exact .inl hx
      · exact .inr (.inl hx)
      · exact .inr (.inr ⟨hx, hrest⟩)
  | case4 p q rest hnot hnot' =>
    rw [before_iff] at hnot hnot'
    have hsame : SamePath (p, q) (path, pattern) :=
      place_eq_iff.1 (le_antisymm (not_lt.1 hnot) (not_lt.1 hnot'))
    refine ⟨.inl, ?_⟩
    rintro (hx | ⟨rfl, hx⟩)
    · exact hx
    · exact absurd hsame (hx _ List.mem_cons_self)

theorem isSorted_add (hi : i.IsSorted) : (i.add pattern path).IsSorted := by
  fun_induction Index.add pattern path i with
  | case1 => exact List.pairwise_singleton _ _
  | case2 p q rest hlt =>
    rw [before_iff] at hlt
    obtain ⟨hhead, -⟩ := List.pairwise_cons.1 hi
    refine List.pairwise_cons.2 ⟨List.forall_mem_cons.2 ⟨hlt, fun y hy => ?_⟩, hi⟩
    exact hlt.trans (hhead y hy)
  | case3 p q rest _ hlt ih =>
    rw [before_iff] at hlt
    obtain ⟨hhead, hrest⟩ := List.pairwise_cons.1 hi
    refine List.pairwise_cons.2 ⟨fun y hy => ?_, ih hrest⟩
    rcases (mem_add_iff hrest).1 hy with hy | ⟨rfl, -⟩
    · exact hhead y hy
    · exact hlt
  | case4 => exact hi

/-- The index of files that are found in some order, each with the pattern that found it. -/
def indexOf (found : List (String × String)) : Index :=
  found.foldl (fun i x => i.add x.2 x.1) []

theorem indexOf_append_singleton (found : List (String × String)) (x : String × String) :
    indexOf (found ++ [x]) = (indexOf found).add x.2 x.1 := by
  simp [indexOf]

theorem isSorted_indexOf (found : List (String × String)) : (indexOf found).IsSorted := by
  induction found using List.reverseRecOn with
  | nil => exact .nil
  | append_singleton found x ih =>
    rw [indexOf_append_singleton]
    exact isSorted_add ih

/-- Which file is found first does not depend on how its path is written. -/
theorem find?_samePath {y : String × String} (h : SamePath x y) (found : List (String × String)) :
    found.find? (SamePath x) = found.find? (SamePath y) :=
  congrArg (List.find? · found) (funext fun _ => decide_eq_decide.2 ⟨h.symm.trans, h.trans⟩)

/-- **Of files with the same parts, the index has the one that was found first.** -/
theorem mem_indexOf {found : List (String × String)} :
    x ∈ indexOf found ↔ found.find? (SamePath x) = some x := by
  induction found using List.reverseRecOn generalizing x with
  | nil => simp [indexOf]
  | append_singleton found z ih =>
    rw [indexOf_append_singleton, mem_add_iff (isSorted_indexOf found), ih, List.find?_append]
    have hnone : (∀ y ∈ indexOf found, ¬SamePath y x) ↔ found.find? (SamePath x) = none := by
      constructor
      · intro h
        cases hf : found.find? (SamePath x) with
        | none => rfl
        | some y =>
          have hxy : SamePath x y := by simpa using List.find?_some hf
          exact absurd hxy.symm (h y (ih.2 (find?_samePath hxy found ▸ hf)))
      · intro h y hy hyx
        have hy := List.mem_of_find?_eq_some (ih.1 hy)
        exact List.find?_eq_none.1 h y hy (decide_eq_true hyx.symm)
    rw [hnone]
    cases hf : found.find? (SamePath x) with
    | some y => simp
    | none =>
      rw [Option.none_or]
      constructor
      · rintro (h | ⟨rfl, -⟩)
        · cases h
        · simp [SamePath]
      · intro h
        obtain rfl := List.mem_singleton.1 (List.mem_of_find?_eq_some h)
        exact .inr ⟨rfl, rfl⟩

/-- For every file that is found, the index has one with the same parts. -/
theorem exists_mem_indexOf {found : List (String × String)} (hx : x ∈ found) :
    ∃ y ∈ indexOf found, SamePath x y ∧ found.find? (SamePath x) = some y := by
  have hsome : (found.find? (SamePath x)).isSome = true :=
    List.find?_isSome.2 ⟨x, hx, by simp [SamePath]⟩
  obtain ⟨y, hy⟩ := Option.isSome_iff_exists.1 hsome
  have hxy : SamePath x y := by simpa using List.find?_some hy
  exact ⟨y, mem_indexOf.2 (find?_samePath hxy found ▸ hy), hxy, hy⟩

/-! ## Reading the files in order -/

/-- Reading ends with the first file that cannot be read. -/
theorem readFiles_eq_error_iff {t : FileTree} {e : Extractor} {found : NameSet} {f : ScanFault} :
    readFiles t e found i = .error f ↔ ∃ before x after cause, i = before ++ x :: after ∧
      (∀ y ∈ before, ∃ bytes, t.read y.1 = .ok bytes) ∧ t.read x.1 = .error cause ∧
      f = ⟨x.2, .file cause⟩ := by
  constructor
  · intro h
    fun_induction readFiles t e found i with
    | case1 => cases h
    | case2 found path pattern rest cause hread =>
      cases h
      exact ⟨[], (path, pattern), rest, cause, rfl, by simp, hread, rfl⟩
    | case3 found path pattern rest bytes hread ih =>
      obtain ⟨before, x, after, cause, rfl, hbefore, hx, hf⟩ := ih h
      exact ⟨(path, pattern) :: before, x, after, cause, rfl,
        List.forall_mem_cons.2 ⟨⟨bytes, hread⟩, hbefore⟩, hx, hf⟩
  · rintro ⟨before, x, after, cause, rfl, hbefore, hx, rfl⟩
    induction before generalizing found with
    | nil => rw [List.nil_append, readFiles, hx]
    | cons y before ih =>
      obtain ⟨⟨bytes, hread⟩, hbefore⟩ := List.forall_mem_cons.1 hbefore
      rw [List.cons_append, readFiles, hread]
      exact ih hbefore

theorem exists_readFiles_iff {t : FileTree} {e : Extractor} {found : NameSet} :
    (∃ classes, readFiles t e found i = .ok classes) ↔
      ∀ x ∈ i, ∃ bytes, t.read x.1 = .ok bytes := by
  constructor
  · rintro ⟨classes, h⟩
    induction i generalizing found with
    | nil => simp
    | cons x i ih =>
      rw [readFiles] at h
      cases hread : t.read x.1 with
      | error cause => simp [hread] at h
      | ok bytes =>
        rw [hread] at h
        exact List.forall_mem_cons.2 ⟨⟨bytes, hread⟩, ih h⟩
  · intro h
    cases hr : readFiles t e found i with
    | ok classes => exact ⟨classes, rfl⟩
    | error f =>
      obtain ⟨before, x, after, cause, rfl, -, hx, -⟩ := readFiles_eq_error_iff.1 hr
      obtain ⟨bytes, hbytes⟩ := h x (by simp)
      rw [hx] at hbytes
      cases hbytes

theorem sortedLT_readFiles {t : FileTree} {e : Extractor} {found classes : NameSet}
    (hs : found.names.SortedLT) (h : readFiles t e found i = .ok classes) :
    classes.names.SortedLT := by
  fun_induction readFiles t e found i with
  | case1 =>
    cases h
    exact hs
  | case2 => cases h
  | case3 found path pattern rest bytes hread ih => exact ih (NameSet.sortedLT_insertAll hs _) h

/-! ## What patterns yield -/

variable (t : FileTree) (base : String)

/-- Whether a pattern can be expanded from a folder. -/
def Expands (pattern : String) : Prop :=
  ∃ paths, Glob.expand t (resolve base pattern) = .ok paths

/-- The files among the paths that a pattern yields from a folder; there are none if it cannot be
expanded. -/
def filesOf (pattern : String) : List String :=
  match Glob.expand t (resolve base pattern) with
  | .ok paths => paths.filter t.isFile
  | .error _ => []

/-- The files that patterns yield in order, each with its pattern. -/
def yielded (patterns : List String) : List (String × String) :=
  patterns.flatMap fun pattern => (filesOf t base pattern).map (·, pattern)

variable {t base}

theorem filesOf_of_expand {paths : List String}
    (h : Glob.expand t (resolve base pattern) = .ok paths) :
    filesOf t base pattern = paths.filter t.isFile := by
  rw [filesOf, h]

theorem isFile_of_mem_filesOf {y : String} (h : y ∈ filesOf t base pattern) :
    t.isFile y = true := by
  unfold filesOf at h
  split at h
  · exact (List.mem_filter.1 h).2
  · cases h

theorem mem_yielded {patterns : List String} :
    x ∈ yielded t base patterns ↔ x.2 ∈ patterns ∧ x.1 ∈ filesOf t base x.2 := by
  obtain ⟨path, pattern⟩ := x
  simp [yielded]

theorem matched_of_expands (h : Expands t base pattern) :
    matched t base pattern = .ok (filesOf t base pattern) := by
  obtain ⟨paths, h⟩ := h
  rw [matched, h, filesOf_of_expand h]

theorem patternFault?_of_expands (h : Expands t base pattern) :
    patternFault? t base pattern = none := by
  rw [patternFault?, matched_of_expands h]

theorem patternFault?_of_error {fault : Glob.Fault}
    (h : Glob.expand t (resolve base pattern) = .error fault) :
    patternFault? t base pattern = some ⟨pattern, .glob fault⟩ := by
  rw [patternFault?, matched, h]

/-- What is found by patterns all of which can be expanded. -/
theorem find_of_expands {patterns : List String} (h : ∀ p ∈ patterns, Expands t base p)
    (f : Finding) :
    (find t base f patterns).1.index =
        (yielded t base patterns).foldl (fun i x => i.add x.2 x.1) f.index ∧
      (find t base f patterns).1.unmatched =
        f.unmatched ++ patterns.filter fun p => (filesOf t base p).isEmpty := by
  induction patterns generalizing f with
  | nil => simp [find, yielded]
  | cons p patterns ih =>
    obtain ⟨hp, hrest⟩ := List.forall_mem_cons.1 h
    obtain ⟨hindex, hunmatched⟩ := ih hrest (f.add p (filesOf t base p))
    rw [find, matched_of_expands hp]
    dsimp only
    rw [hindex, hunmatched]
    constructor
    · rw [yielded, yielded, List.flatMap_cons, List.foldl_append, List.foldl_map, Finding.add]
    · rw [Finding.add, List.filter_cons]
      split <;> simp

theorem patternFault?_eq_none_iff :
    patternFault? t base pattern = none ↔ Expands t base pattern := by
  refine ⟨fun h => ?_, patternFault?_of_expands⟩
  cases hp : Glob.expand t (resolve base pattern) with
  | ok paths => exact ⟨paths, hp⟩
  | error fault =>
    rw [patternFault?_of_error hp] at h
    cases h

variable {patterns : List String}

theorem mem_yielded_of_mem_index (h : x ∈ indexOf (yielded t base patterns)) :
    x.2 ∈ patterns ∧ x.1 ∈ filesOf t base x.2 :=
  mem_yielded.1 (List.mem_of_find?_eq_some (mem_indexOf.1 h))

/-- Every file that a pattern yields is in the index, maybe under a path that is written in another
way but leads to the same file. -/
theorem exists_read_of_mem_filesOf {y : String} (hp : pattern ∈ patterns)
    (hy : y ∈ filesOf t base pattern) :
    ∃ z ∈ indexOf (yielded t base patterns), parts y = parts z.1 ∧ t.read y = t.read z.1 := by
  obtain ⟨z, hz, hyz, -⟩ := exists_mem_indexOf (mem_yielded.2 ⟨hp, hy⟩ : (y, pattern) ∈ _)
  have hzfile := isFile_of_mem_filesOf (mem_yielded_of_mem_index hz).2
  exact ⟨z, hz, hyz, FileTree.read_congr (bare_congr hyz) (isFile_of_mem_filesOf hy) hzfile⟩

end Scan

namespace Build

variable {p : Pipeline} {t : FileTree} {i : Nat} {stage : BoundStage} {fault : ScanFault}

/-! ## What is told of a scan that fails -/

end Build

namespace ContentSource

open StyleBuild.Path Scan

variable {s s' : ContentSource} {t : FileTree} {base : String} {found found' : Scan}

/-! ## Scans -/

theorem result_scan_of_expands (h : ∀ p ∈ s.patterns, Expands t base p) :
    (s.scan t base).result =
      (readFiles t s.extractor .empty (indexOf (yielded t base s.patterns))).map fun classes =>
        { files := (indexOf (yielded t base s.patterns)).map Prod.fst
          classes
          unmatched := s.patterns.filter fun p => (filesOf t base p).isEmpty } := by
  have hnone : (find t base {} s.patterns).2 = none := by
    rw [find_snd, List.findSome?_eq_none_iff]
    exact fun p hp => patternFault?_of_expands (h p hp)
  obtain ⟨hindex, hunmatched⟩ := find_of_expands h {}
  rw [result_scan_of_found hnone, hindex, hunmatched]
  rfl

theorem expands_of_scan (h : (s.scan t base).result = .ok found) :
    ∀ p ∈ s.patterns, Expands t base p := by
  cases hf : (find t base {} s.patterns).2 with
  | some e =>
    rw [result_scan_of_fault hf] at h
    cases h
  | none =>
    rw [find_snd, List.findSome?_eq_none_iff] at hf
    exact fun p hp => patternFault?_eq_none_iff.1 (hf p hp)

/-- A scan that succeeds has the files of the index, the names in them, and the patterns that yield
no file. -/
theorem exists_of_scan (h : (s.scan t base).result = .ok found) :
    readFiles t s.extractor .empty (indexOf (yielded t base s.patterns)) = .ok found.classes ∧
      found.files = (indexOf (yielded t base s.patterns)).map Prod.fst ∧
      found.unmatched = s.patterns.filter fun p => (filesOf t base p).isEmpty := by
  rw [result_scan_of_expands (expands_of_scan h)] at h
  cases hr : readFiles t s.extractor .empty (indexOf (yielded t base s.patterns)) with
  | error e =>
    rw [hr] at h
    cases h
  | ok classes =>
    rw [hr] at h
    cases h
    exact ⟨rfl, rfl, rfl⟩

/-- The files of a scan are those that some pattern yields. -/
theorem exists_mem_files_iff (h : (s.scan t base).result = .ok found) (x : String) :
    (∃ y ∈ found.files, parts y = parts x) ↔
      ∃ p ∈ s.patterns, ∃ y ∈ filesOf t base p, parts y = parts x := by
  rw [(exists_of_scan h).2.1]
  constructor
  · rintro ⟨y, hy, hyx⟩
    obtain ⟨z, hz, rfl⟩ := List.mem_map.1 hy
    obtain ⟨hp, hy⟩ := mem_yielded_of_mem_index hz
    exact ⟨z.2, hp, z.1, hy, hyx⟩
  · rintro ⟨p, hp, y, hy, hyx⟩
    obtain ⟨z, hz, hyz, -⟩ := exists_read_of_mem_filesOf hp hy
    exact ⟨z.1, List.mem_map_of_mem hz, hyz.symm.trans hyx⟩

theorem isFile_of_mem_files (h : (s.scan t base).result = .ok found) {x : String}
    (hx : x ∈ found.files) : t.isFile x = true := by
  rw [(exists_of_scan h).2.1] at hx
  obtain ⟨y, hy, rfl⟩ := List.mem_map.1 hx
  exact isFile_of_mem_filesOf (mem_yielded_of_mem_index hy).2

theorem pairwise_files (h : (s.scan t base).result = .ok found) :
    found.files.Pairwise fun x y => place x < place y := by
  rw [(exists_of_scan h).2.1, List.pairwise_map]
  exact isSorted_indexOf _

/-- A scan with more patterns has the names that a scan with less has. -/
theorem mem_classes_mono (h : (s.scan t base).result = .ok found)
    (h' : (s'.scan t base).result = .ok found') (he : s'.extractor = s.extractor)
    (hsub : s.patterns ⊆ s'.patterns) {name : String} (hname : name ∈ found.classes) :
    name ∈ found'.classes := by
  rw [mem_classes_scan h] at hname
  obtain ⟨x, hx, bytes, hread, htoken⟩ := hname
  obtain ⟨p, hp, y, hy, hyx⟩ := (exists_mem_files_iff h x).1 ⟨x, hx, rfl⟩
  obtain ⟨z, hz, hzx⟩ := (exists_mem_files_iff h' x).2 ⟨p, hsub hp, y, hy, hyx⟩
  have hzread : t.read z = .ok bytes :=
    (FileTree.read_congr (bare_congr hzx) (isFile_of_mem_files h' hz)
      (isFile_of_mem_files h hx)).trans hread
  exact (mem_classes_scan h' name).2 ⟨z, hz, bytes, hzread, he ▸ htoken⟩

/-- A scan with no more patterns succeeds as well. -/
theorem exists_scan_of_subset (h : (s.scan t base).result = .ok found)
    (hsub : s'.patterns ⊆ s.patterns) : ∃ found', (s'.scan t base).result = .ok found' := by
  have hread : ∀ x ∈ indexOf (yielded t base s'.patterns), ∃ bytes, t.read x.1 = .ok bytes := by
    intro x hx
    obtain ⟨hp, hy⟩ := mem_yielded_of_mem_index hx
    obtain ⟨z, hz, -, hsame⟩ := exists_read_of_mem_filesOf (hsub hp) hy
    rw [hsame]
    exact exists_readFiles_iff.1 ⟨_, (exists_of_scan h).1⟩ z hz
  obtain ⟨classes, hclasses⟩ : ∃ classes, readFiles t s'.extractor .empty
      (indexOf (yielded t base s'.patterns)) = .ok classes := exists_readFiles_iff.2 hread
  exact ⟨_, by
    rw [result_scan_of_expands fun p hp => expands_of_scan h p (hsub hp), hclasses]
    rfl⟩

/-- Scans with the same patterns, in any order and given any number of times, have files with the
same parts. -/
theorem map_parts_files_eq (h : (s.scan t base).result = .ok found)
    (h' : (s'.scan t base).result = .ok found') (hp : ∀ p, p ∈ s'.patterns ↔ p ∈ s.patterns) :
    found'.files.map parts = found.files.map parts := by
  have hplace (files : List String) :
      files.map place = (files.map parts).map (List.map Part.place) := by
    rw [List.map_map]
    rfl
  have hsorted {s : ContentSource} {found : Scan} (h : (s.scan t base).result = .ok found) :
      (found.files.map place).SortedLT :=
    List.sortedLT_iff_pairwise.2 (List.pairwise_map.2 (pairwise_files h))
  have hinj : Function.Injective (List.map Part.place) :=
    List.map_injective_iff.2 Part.place_injective
  have hmem (files : List String) (z) :
      z ∈ files.map place ↔ ∃ x, place x = z ∧ ∃ y ∈ files, parts y = parts x := by
    rw [List.mem_map]
    constructor
    · rintro ⟨y, hy, hyz⟩
      exact ⟨y, hyz, y, hy, rfl⟩
    · rintro ⟨x, hxz, y, hy, hyx⟩
      exact ⟨y, hy, (place_eq_iff.2 hyx).trans hxz⟩
  refine List.map_injective_iff.2 hinj ?_
  rw [← hplace, ← hplace]
  refine (hsorted h').eq_of_mem_iff (hsorted h) fun z => ?_
  simp only [hmem, exists_mem_files_iff h, exists_mem_files_iff h', hp]

/-- Scans with the same extractor and the same patterns, in any order and given any number of times,
have the same classes. -/
theorem classes_eq (h : (s.scan t base).result = .ok found)
    (h' : (s'.scan t base).result = .ok found') (he : s'.extractor = s.extractor)
    (hp : ∀ p, p ∈ s'.patterns ↔ p ∈ s.patterns) : found'.classes = found.classes := by
  have hsorted {s : ContentSource} {found : Scan} (h : (s.scan t base).result = .ok found) :
      found.classes.names.SortedLT :=
    sortedLT_readFiles (List.sortedLT_iff_pairwise.2 .nil) (exists_of_scan h).1
  refine NameSet.ext_of_sortedLT (hsorted h') (hsorted h) fun name => ⟨?_, ?_⟩
  · exact mem_classes_mono h' h he.symm fun p => (hp p).1
  · exact mem_classes_mono h h' he fun p => (hp p).2

/-- **What a scan finds.** Its files stand in the order of their paths, and a path is among them,
however it is written, exactly if some pattern yields it and it leads to a file. Its classes are
those that the extractor finds in these files, and the patterns that matched nothing are those that
yield no file. Sources with the same extractor and the same patterns, in any order and given any
number of times, find the same files and classes. -/
theorem scan_finds (h : (s.scan t base).result = .ok found) :
    (∀ p ∈ s.patterns, Expands t base p) ∧
    (found.files.Pairwise fun x y => Path.before x y = true) ∧
    (∀ x, (∃ y ∈ found.files, parts y = parts x) ↔
      ∃ p ∈ s.patterns, ∃ y ∈ filesOf t base p, parts y = parts x) ∧
    (∀ name, name ∈ found.classes ↔ ∃ path ∈ found.files, ∃ bytes, t.read path = .ok bytes ∧
      name ∈ s.extractor.tokens (String.ofList (Utf8.readLenient bytes))) ∧
    (found.unmatched = s.patterns.filter fun p => (filesOf t base p).isEmpty) ∧
    ∀ s' : ContentSource, s'.extractor = s.extractor → (∀ p, p ∈ s'.patterns ↔ p ∈ s.patterns) →
      ∃ found', (s'.scan t base).result = .ok found' ∧
        found'.files.map parts = found.files.map parts ∧ found'.classes = found.classes ∧
        (found'.unmatched = s'.patterns.filter fun p => (filesOf t base p).isEmpty) ∧
        (s'.patterns.Perm s.patterns → found'.unmatched.Perm found.unmatched) := by
  refine ⟨expands_of_scan h, (pairwise_files h).imp before_iff.2, exists_mem_files_iff h,
    mem_classes_scan h, (exists_of_scan h).2.2, fun s' he hp => ?_⟩
  obtain ⟨found', h'⟩ := exists_scan_of_subset h fun p => (hp p).1
  refine ⟨found', h', map_parts_files_eq h h' hp, classes_eq h h' he hp, (exists_of_scan h').2.2,
    fun hperm => ?_⟩
  rw [(exists_of_scan h').2.2, (exists_of_scan h).2.2]
  exact hperm.filter _

/-- A tree with one file. -/
def oneFile : FileTree := { nodes := [(["a"], .file [98])] }

/-- Patterns in another order, one of which is given twice. -/
theorem scan_finds_shuffled :
    let s : ContentSource := ⟨["?", "x*"], .standard⟩
    let s' : ContentSource := ⟨["x*", "?", "x*"], .standard⟩
    (s.scan oneFile ".").result = .ok ⟨["a"], ⟨["b"]⟩, ["x*"]⟩ ∧
      (∀ p, p ∈ s'.patterns ↔ p ∈ s.patterns) ∧
      ∃ found', (s'.scan oneFile ".").result = .ok found' ∧
        found'.files.map parts = [[.name "a"]] ∧ found'.classes = ⟨["b"]⟩ := by
  intro s s'
  have h : (s.scan oneFile ".").result = .ok ⟨["a"], ⟨["b"]⟩, ["x*"]⟩ := by cbv
  have hp : ∀ p, p ∈ s'.patterns ↔ p ∈ s.patterns := by simp [s, s', or_comm]
  obtain ⟨-, -, -, -, -, hsame⟩ := scan_finds h
  obtain ⟨found', h', hfiles, hclasses, -⟩ := hsame s' rfl hp
  exact ⟨h, hp, found', h', hfiles.trans (by cbv), hclasses⟩

/-! ## Scans that fail -/

end ContentSource

end StyleBuild
