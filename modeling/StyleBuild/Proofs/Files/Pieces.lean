import Mathlib.Data.List.DropRight
import StyleBuild.Proofs.Files.Places

/-!
# The pieces of a path

A path with a slash and another path behind it has the pieces of both (`Path.inner_behind`), and
this is what joining comes to (`Path.exists_join_trim`). The pieces have the characters of the path
and its size (`Path.exists_mem_pieces`, `Path.span_inner`), and names are the pieces of a path
(`Path.exists_pieces`).
-/

namespace StyleBuild

/-! ## Splitting at slashes -/

theorem splitAtChar_append_sep (sep : Char) (cs ds : List Char) :
    splitAtChar sep (cs ++ sep :: ds) = splitAtChar sep cs ++ splitAtChar sep ds := by
  induction cs with
  | nil => simp [splitAtChar]
  | cons c cs ih =>
    obtain ⟨p, ps, h⟩ := List.exists_cons_of_ne_nil (splitAtChar_ne_nil sep cs)
    rw [List.cons_append, splitAtChar, splitAtChar, ih, h]
    split_ifs <;> simp

theorem splitAtChar_of_not_mem {sep : Char} {cs : List Char} (h : sep ∉ cs) :
    splitAtChar sep cs = [cs] := by
  induction cs with
  | nil => rfl
  | cons c cs ih =>
    rw [List.mem_cons, not_or] at h
    rw [splitAtChar, if_neg (Ne.symm h.1), ih h.2]

/-- A character that is no separator belongs to the first piece. -/
theorem exists_splitAtChar_cons {sep c : Char} (hc : c ≠ sep) (cs : List Char) :
    ∃ piece rest, splitAtChar sep cs = piece :: rest ∧
      splitAtChar sep (c :: cs) = (c :: piece) :: rest := by
  obtain ⟨piece, rest, h⟩ := List.exists_cons_of_ne_nil (splitAtChar_ne_nil sep cs)
  exact ⟨piece, rest, h, by rw [splitAtChar, if_neg hc, h]⟩

/-! ## Characters at the end of a text -/

theorem toList_dropEndWhile (s : String) (c : Char) :
    (s.dropEndWhile c).toString.toList = s.toList.rdropWhile (· == c) := by
  obtain ⟨k, hk⟩ := exists_dropEndWhile s c
  have hlast : (s.dropEndWhile c).toString.toList.getLast? ≠ some c := by
    have hend : (s.dropEndWhile c).endsWith c = false := String.endsWith_dropEndWhile
    rw [String.Slice.endsWith_char_eq_getLast?, beq_eq_false_iff_ne] at hend
    exact hend
  generalize (s.dropEndWhile c).toString.toList = kept at hk hlast
  have hdrop (k : ℕ) :
      (kept ++ List.replicate k c).rdropWhile (· == c) = kept.rdropWhile (· == c) := by
    induction k with
    | zero => rw [List.replicate_zero, List.append_nil]
    | succ k ih =>
      rw [List.replicate_succ', ← List.append_assoc, List.rdropWhile_concat_pos _ _ _ (by simp), ih]
  rw [hk, hdrop, eq_comm, List.rdropWhile_eq_self_iff]
  intro hne hc
  refine hlast ?_
  rw [List.getLast?_eq_some_getLast hne, beq_iff_eq.1 hc]

open FileTree

namespace Path

variable {p q n base : String}

/-! ## Behind a slash -/

theorem pieces_slash (p q : String) : pieces (p ++ "/" ++ q) = pieces p ++ pieces q := by
  have htext : (p ++ "/" ++ q).toList = p.toList ++ '/' :: q.toList := by simp
  rw [pieces, htext, splitAtChar_append_sep, List.map_append]
  rfl

theorem pieces_of_not_mem (hn : '/' ∉ n.toList) : pieces n = [n] := by
  rw [pieces, splitAtChar_of_not_mem hn, List.map_singleton, String.ofList_toList]

theorem pieces_ne_nil (p : String) : pieces p ≠ [] := by
  simpa [pieces] using splitAtChar_ne_nil '/' p.toList

theorem isAbsolute_eq (p : String) : isAbsolute p = (p.toList.head? == some '/') := by
  rw [Bool.eq_iff_iff, isAbsolute, String.startsWith_string_iff, beq_iff_eq]
  constructor
  · rintro ⟨r, hr⟩
    rw [← hr]
    rfl
  · intro h
    obtain ⟨r, hr⟩ := List.head?_eq_some_iff.1 h
    exact ⟨r, hr.symm⟩

theorem isAbsolute_of_not_mem (hn : '/' ∉ n.toList) : isAbsolute n = false := by
  rw [isAbsolute_eq, beq_eq_false_iff_ne]
  exact fun h => hn (List.mem_of_head? h)

theorem isAbsolute_slash (hp : p ≠ "") (q : String) :
    isAbsolute (p ++ "/" ++ q) = isAbsolute p := by
  obtain ⟨c, cs, h⟩ := List.exists_cons_of_ne_nil (mt String.toList_eq_nil_iff.1 hp)
  rw [isAbsolute_eq, isAbsolute_eq]
  simp [h]

theorem isAbsolute_root (q : String) : isAbsolute ("/" ++ q) = true := by
  rw [isAbsolute_eq]
  simp

/-- The pieces of a path behind the root. -/
def inner (p : String) : List String := if isAbsolute p then (pieces p).drop 1 else pieces p

theorem steps_eq_inner (p : String) : steps p = (inner p).map Step.ofPiece := rfl

theorem inner_of_relative (hp : isAbsolute p = false) : inner p = pieces p := by
  rw [inner, hp]
  rfl

theorem inner_slash (hp : p ≠ "") (q : String) : inner (p ++ "/" ++ q) = inner p ++ pieces q := by
  rw [inner, inner, isAbsolute_slash hp, pieces_slash]
  obtain ⟨first, rest, h⟩ := List.exists_cons_of_ne_nil (pieces_ne_nil p)
  split_ifs <;> simp [h]

theorem inner_root (q : String) : inner ("/" ++ q) = pieces q := by
  have h := pieces_slash "" q
  rw [String.empty_append] at h
  rw [inner, isAbsolute_root, if_pos rfl, h]
  rfl

theorem inner_of_not_mem (hn : '/' ∉ n.toList) : inner n = [n] := by
  rw [inner_of_relative (isAbsolute_of_not_mem hn), pieces_of_not_mem hn]

/-- The pieces that a path puts in front of those that stand behind it and a slash. -/
def lead (b : String) : List String := if b = "" then [] else inner b

theorem inner_behind (b q : String) : inner (b ++ "/" ++ q) = lead b ++ pieces q := by
  by_cases hb : b = ""
  · rw [hb, String.empty_append, inner_root, lead, if_pos rfl, List.nil_append]
  · rw [inner_slash hb, lead, if_neg hb]

theorem isAbsolute_behind (b q : String) : isAbsolute (b ++ "/" ++ q) = isAbsolute (b ++ "/") := by
  rw [isAbsolute_eq, isAbsolute_eq]
  simp

/-! ## Joining -/

theorem endsWith_slash_iff : p.endsWith "/" = true ↔ ∃ b, p = b ++ "/" := by
  rw [String.endsWith_eq_endsWith_toSlice, String.Slice.endsWith_string_iff, String.copy_toSlice]
  constructor
  · rintro ⟨b, hb⟩
    refine ⟨String.ofList b, ?_⟩
    rw [← String.toList_inj, ← hb]
    simp
  · rintro ⟨b, rfl⟩
    simp

/-- A relative path is joined to a path behind a slash, which may be there already. -/
theorem exists_join (hp : p ≠ "") (hn : isAbsolute n = false) :
    ∃ b, join p n = b ++ "/" ++ n ∧ (p = b ∨ p = b ++ "/") := by
  have hempty : p.isEmpty = false := by simpa using hp
  rw [join, hn, hempty]
  cases hend : p.endsWith "/" with
  | false => exact ⟨p, by simp, .inl rfl⟩
  | true =>
    obtain ⟨b, rfl⟩ := endsWith_slash_iff.1 hend
    exact ⟨b, by simp, .inr rfl⟩

theorem join_empty (n : String) : join "" n = n := by simp [join]

/-! ## Slashes at the end -/

/-- A path without the slashes at its end. -/
def trim (p : String) : String := (p.dropEndWhile '/').toString

theorem toList_trim (p : String) : (trim p).toList = p.toList.rdropWhile (· == '/') :=
  toList_dropEndWhile p '/'

theorem exists_trim (p : String) : ∃ s, p = trim p ++ s := by
  obtain ⟨cs, hcs⟩ := List.rdropWhile_prefix (· == '/') (l := p.toList)
  exact ⟨.ofList cs, by rw [← String.toList_inj, ← hcs, String.toList_append, toList_trim]; simp⟩

theorem trim_slash (b : String) : trim (b ++ "/") = trim b := by
  have htext : (b ++ "/").toList = b.toList ++ ['/'] := by simp
  rw [← String.toList_inj, toList_trim, toList_trim, htext,
    List.rdropWhile_concat_pos _ _ _ (by simp)]

theorem lead_slash (b : String) : lead (b ++ "/") = lead b ++ [""] := by
  have h := inner_behind b ""
  rw [String.append_empty] at h
  rw [lead, if_neg (by simp), h]
  rfl

/-- What is true of trimmed paths, and of a path with a slash at its end if it is true of the path
without it, is true of all paths. -/
theorem trim_induction {motive : String → Prop} (trimmed : ∀ p, trim p = p → motive p)
    (slash : ∀ p, motive p → motive (p ++ "/")) (p : String) : motive p := by
  rw [← String.ofList_toList (s := p)]
  induction p.toList using List.reverseRecOn with
  | nil => exact trimmed _ (by rw [← String.toList_inj, toList_trim]; rfl)
  | append_singleton cs c ih =>
    by_cases hc : c = '/'
    · subst hc
      rw [String.ofList_append]
      exact slash _ ih
    · refine trimmed _ ?_
      rw [← String.toList_inj, toList_trim, String.toList_ofList,
        List.rdropWhile_concat_neg _ _ _ (by simpa using hc)]

/-- The slashes at its end only add pieces that name nothing to a path. -/
theorem exists_lead_trim (p : String) : ∃ k, lead p = lead (trim p) ++ List.replicate k "" := by
  induction p using trim_induction with
  | trimmed p hp => exact ⟨0, by rw [hp, List.replicate_zero, List.append_nil]⟩
  | slash p ih =>
    obtain ⟨k, hk⟩ := ih
    exact ⟨k + 1, by rw [lead_slash, trim_slash, hk, List.replicate_succ', List.append_assoc]⟩

theorem isAbsolute_trim (p : String) : isAbsolute (trim p ++ "/") = isAbsolute (p ++ "/") := by
  induction p using trim_induction with
  | trimmed p hp => rw [hp]
  | slash p ih =>
    rw [trim_slash, ih]
    exact (isAbsolute_behind p "/").symm

/-- A relative path is joined to a path behind a slash, and behind other slashes at the end of the
path. -/
theorem exists_join_trim (hp : p ≠ "") (hq : isAbsolute q = false) :
    ∃ b, join p q = b ++ "/" ++ q ∧ trim b = trim p := by
  obtain ⟨b, hjoin, rfl | rfl⟩ := exists_join hp hq
  · exact ⟨_, hjoin, rfl⟩
  · exact ⟨b, hjoin, (trim_slash b).symm⟩

theorem isAbsolute_join (hp : p ≠ "") (hq : isAbsolute q = false) :
    isAbsolute (join p q) = isAbsolute (trim p ++ "/") := by
  obtain ⟨b, hjoin, htrim⟩ := exists_join_trim hp hq
  rw [hjoin, isAbsolute_behind, ← htrim, isAbsolute_trim]

/-! ## The pieces of a path -/

/-- Names are the pieces of a path. -/
theorem exists_pieces {ns : List String} (h : ∀ n ∈ ns, '/' ∉ n.toList) (hne : ns ≠ []) :
    ∃ q, pieces q = ns := by
  induction ns with
  | nil => exact absurd rfl hne
  | cons n ns ih =>
    have hn := pieces_of_not_mem (h n List.mem_cons_self)
    by_cases hns : ns = []
    · exact ⟨n, by rw [hn, hns]⟩
    · obtain ⟨q, hq⟩ := ih (fun m hm => h m (List.mem_cons_of_mem _ hm)) hns
      exact ⟨n ++ "/" ++ q, by rw [pieces_slash, hn, hq, List.singleton_append]⟩

theorem exists_pieces_of_isAbsolute (h : isAbsolute p = true) :
    ∃ s rest, pieces p = "" :: s :: rest := by
  obtain ⟨cs, hcs⟩ := List.head?_eq_some_iff.1 (beq_iff_eq.1 (isAbsolute_eq p ▸ h))
  obtain ⟨piece, rest, hsplit⟩ := List.exists_cons_of_ne_nil (splitAtChar_ne_nil '/' cs)
  refine ⟨.ofList piece, rest.map .ofList, ?_⟩
  rw [pieces, hcs, splitAtChar, if_pos rfl, hsplit]
  rfl

/-- A path whose first piece is empty is absolute, or it has no other piece. -/
theorem isAbsolute_of_pieces {rest : List String} (h : pieces p = "" :: rest) (hrest : rest ≠ []) :
    isAbsolute p = true := by
  rw [isAbsolute_eq]
  rw [pieces] at h
  cases hp : p.toList with
  | nil =>
    rw [hp] at h
    cases h
    exact absurd rfl hrest
  | cons c cs =>
    by_cases hc : c = '/'
    · rw [hc]
      rfl
    · obtain ⟨piece, more, -, hcons⟩ := exists_splitAtChar_cons hc cs
      rw [hp, hcons] at h
      have hfirst := String.toList_inj.2 (List.cons_eq_cons.1 h).1
      simp at hfirst

/-- A path is a name, or it ends in one behind a slash. -/
theorem exists_last_piece (p : String) :
    '/' ∉ p.toList ∨ ∃ b n, p = b ++ "/" ++ n ∧ '/' ∉ n.toList := by
  rw [← String.ofList_toList (s := p)]
  induction p.toList using List.reverseRecOn with
  | nil => exact .inl (by simp)
  | append_singleton cs c ih =>
    rw [String.ofList_append]
    by_cases hc : c = '/'
    · subst hc
      exact .inr ⟨.ofList cs, "", by simp, by simp⟩
    · rcases ih with h | ⟨b, n, h, hn⟩
      · exact .inl (by simpa [Ne.symm hc] using h)
      · refine .inr ⟨b, n ++ .ofList [c], ?_, by simpa [Ne.symm hc] using hn⟩
        rw [h, String.append_assoc, String.append_assoc]

theorem getLast?_pieces_slash (p q : String) :
    (pieces (p ++ "/" ++ q)).getLast? = (pieces q).getLast? := by
  rw [pieces_slash, List.getLast?_append_of_ne_nil _ (pieces_ne_nil q)]

/-- A path ends with a slash where its last piece is empty. -/
theorem endsWith_behind (p q : String) :
    (p ++ "/" ++ q).endsWith "/" = true ↔ (pieces q).getLast? = some "" := by
  rw [endsWith_slash_iff, ← getLast?_pieces_slash p]
  constructor
  · rintro ⟨b, hb⟩
    have hlast := getLast?_pieces_slash b ""
    rw [String.append_empty] at hlast
    rw [hb, hlast]
    rfl
  · intro hlast
    rcases exists_last_piece (p ++ "/" ++ q) with h | ⟨b, n, h, hn⟩
    · exact absurd (by simp) h
    · rw [h, getLast?_pieces_slash, pieces_of_not_mem hn] at hlast
      obtain rfl : n = "" := by simpa using hlast
      exact ⟨b, by rw [h, String.append_empty]⟩

theorem pieces_eq_inner (p : String) :
    pieces p = (if isAbsolute p then [""] else []) ++ inner p := by
  rw [inner]
  split
  · next h =>
    obtain ⟨s, rest, hp⟩ := exists_pieces_of_isAbsolute h
    rw [hp]
    rfl
  · rfl

theorem mem_inner {s : String} (hs : s ≠ "") : s ∈ inner p ↔ s ∈ pieces p := by
  rw [pieces_eq_inner]
  split <;> simp [hs]

/-- The characters of the pieces are those of the path but the slashes. -/
theorem exists_mem_pieces {c : Char} :
    (∃ s ∈ pieces p, c ∈ s.toList) ↔ c ∈ p.toList ∧ c ≠ '/' := by
  have hsplit (cs : List Char) :
      (∃ piece ∈ splitAtChar '/' cs, c ∈ piece) ↔ c ∈ cs ∧ c ≠ '/' := by
    induction cs with
    | nil => simp [splitAtChar]
    | cons d cs ih =>
      by_cases hd : d = '/'
      · subst hd
        rw [splitAtChar, if_pos rfl, List.exists_mem_cons_iff, ih, List.mem_cons]
        constructor
        · rintro (h | ⟨h, hc⟩)
          · cases h
          · exact ⟨.inr h, hc⟩
        · rintro ⟨h | h, hc⟩
          · exact absurd h hc
          · exact .inr ⟨h, hc⟩
      · obtain ⟨piece, rest, hp, hcons⟩ := exists_splitAtChar_cons hd cs
        rw [hp, List.exists_mem_cons_iff] at ih
        rw [hcons, List.exists_mem_cons_iff, List.mem_cons, List.mem_cons, or_assoc, ih]
        constructor
        · rintro (rfl | ⟨h, hc⟩)
          · exact ⟨.inl rfl, hd⟩
          · exact ⟨.inr h, hc⟩
        · rintro ⟨rfl | h, hc⟩
          · exact .inl rfl
          · exact .inr ⟨h, hc⟩
  rw [← hsplit, pieces]
  simp

/-! ## Names -/

theorem parts_slash (hp : p ≠ "") (q : String) :
    parts (p ++ "/" ++ q) = parts p ++ (pieces q).filterMap part? := by
  obtain ⟨first, rest, h⟩ := List.exists_cons_of_ne_nil (pieces_ne_nil p)
  rw [parts, parts, pieces_slash, isAbsolute_slash hp, h]
  simp

/-- A name that a file may have. -/
structure IsName (n : String) : Prop where
  noSlash : '/' ∉ n.toList
  part : part? n = some (.name n)

theorem IsName.ne_empty {n : String} (h : IsName n) : n ≠ "" := by
  rintro rfl
  exact absurd h.part (by decide)

theorem isName_of_mem {n : String} {c : Char} (hn : '/' ∉ n.toList) (hc : c ∈ n.toList)
    (hdot : c ≠ '.') : IsName n := by
  refine ⟨hn, ?_⟩
  unfold part?
  split_ifs with hstay hup
  · rcases hstay with rfl | rfl
    · cases hc
    · exact absurd (by simpa using hc) hdot
  · subst hup
    exact absurd (by simpa using hc) hdot
  · rfl

theorem name_mem_bare {s : String} (hs : IsName s) : .name s ∈ bare p ↔ s ∈ pieces p := by
  rw [bare_eq, steps_eq_inner, filterMap_ofPiece, List.mem_append, ← mem_inner hs.ne_empty,
    List.mem_filterMap]
  constructor
  · rintro (hroot | ⟨x, hx, hpart⟩)
    · split at hroot <;> simp at hroot
    · unfold part? at hpart
      split_ifs at hpart
      · cases hpart
      · cases hpart
        exact hx
  · exact fun hmem => .inr ⟨s, hmem, hs.part⟩

/-- Paths of the same parts have the same characters, up to dots and slashes. -/
theorem mem_toList_of_bare {c : Char} (h : bare p = bare q) (hslash : c ≠ '/') (hdot : c ≠ '.')
    (hc : c ∈ p.toList) : c ∈ q.toList := by
  obtain ⟨s, hs, hcs⟩ := exists_mem_pieces.2 ⟨hc, hslash⟩
  have hname : IsName s := isName_of_mem (not_mem_of_mem_pieces hs) hcs hdot
  rw [← name_mem_bare hname, h, name_mem_bare hname] at hs
  exact (exists_mem_pieces.1 ⟨s, hs, hcs⟩).1

/-! ## The size of a path -/

/-- The number of bytes that pieces take, each with a slash. -/
def span : List String → Nat
  | [] => 0
  | s :: pieces => s.utf8ByteSize + 1 + span pieces

@[simp] theorem span_nil : span [] = 0 := rfl

theorem span_cons (s : String) (pieces : List String) :
    span (s :: pieces) = s.utf8ByteSize + 1 + span pieces := rfl

@[simp] theorem span_singleton (s : String) : span [s] = s.utf8ByteSize + 1 := rfl

@[simp] theorem span_append (pieces more : List String) :
    span (pieces ++ more) = span pieces + span more := by
  induction pieces with
  | nil => simp
  | cons s pieces ih => rw [List.cons_append, span_cons, span_cons, ih, ← Nat.add_assoc]

theorem span_pieces (p : String) : span (pieces p) = p.utf8ByteSize + 1 := by
  rw [← String.ofList_toList (s := p), pieces, String.toList_ofList]
  induction p.toList with
  | nil => rfl
  | cons c cs ih =>
    have hsize (ds : List Char) : (String.ofList (c :: ds)).utf8ByteSize =
        (String.ofList [c]).utf8ByteSize + (String.ofList ds).utf8ByteSize := by
      rw [← List.singleton_append, String.ofList_append, String.utf8ByteSize_append]
    by_cases hc : c = '/'
    · have hslash : (String.ofList ['/']).utf8ByteSize = 1 := by decide
      rw [hsize, hc, splitAtChar, if_pos rfl, List.map_cons, span_cons, ih, hslash]
      rfl
    · obtain ⟨piece, rest, hsplit, hcons⟩ := exists_splitAtChar_cons hc cs
      rw [hsplit, List.map_cons, span_cons] at ih
      rw [hsize, hcons, List.map_cons, span_cons, hsize]
      omega

/-- The pieces of a path take a slash more than the path, or none if it is absolute. -/
theorem span_inner (p : String) :
    span (inner p) = p.utf8ByteSize + if isAbsolute p then 0 else 1 := by
  have h := span_pieces p
  rw [pieces_eq_inner, span_append] at h
  split_ifs at h ⊢
  · have hempty : span [""] = 1 := by decide
    omega
  · simpa using h

/-! ## Trimmed paths -/

theorem noSlash_of_mem_lead {s : String} (h : s ∈ lead base) : '/' ∉ s.toList := by
  unfold lead at h
  split at h
  · cases h
  · by_cases hs : s = ""
    · simp [hs]
    · exact not_mem_of_mem_pieces ((mem_inner hs).1 h)

/-- The trimmed path with a relative one behind it has no more characters than the joined path. -/
theorem trim_le_join (hbase : base ≠ "") (hq : isAbsolute q = false) :
    (trim base ++ "/" ++ q).utf8ByteSize ≤ (join base q).utf8ByteSize ∧
      (trim base ++ "/" ++ q).toList ⊆ (join base q).toList := by
  obtain ⟨b, hjoin, htrim⟩ := exists_join_trim hbase hq
  obtain ⟨s, hs⟩ := exists_trim b
  rw [hjoin, ← htrim]
  conv in b ++ "/" ++ q => rw [hs]
  conv in (b ++ "/" ++ q).toList => rw [hs]
  simp only [String.utf8ByteSize_append, String.toList_append]
  refine ⟨by omega, fun c hc => ?_⟩
  simp only [List.mem_append] at hc ⊢
  rcases hc with (hc | hc) | hc
  · exact .inl (.inl (.inl hc))
  · exact .inl (.inr hc)
  · exact .inr hc

end Path

end StyleBuild
