import StyleBuild.Proofs.Content.Expanding

/-!
# Patterns seen from a folder

A relative pattern matches relative paths (`Glob.Matches`). From a folder it finds exactly the files
at these paths behind the path of the folder (`Scan.matched_from`): the characters of the folder's
path have no meaning of their own, and the search comes to each of its pieces before it comes to the
pattern. The empty path does not stand for the current folder but for the root, and a search loses a
relative path with an empty piece behind nothing but dots (`Glob.IsLost`).
-/

namespace StyleBuild

namespace FileTree

open StyleBuild.Path

/-- The file that a path names, found under another path: the other path has the same parts, but for
the current folder at the start, and it leads where the first one does unless that one is too long.
-/
structure IsFileAt (t : FileTree) (p y : String) : Prop where
  file : t.isFile y = true
  bare : bare y = bare p
  place : p.utf8ByteSize ≤ longestPath → t.locate p = t.locate y

end FileTree

namespace Glob

open StyleBuild.Path

variable {ps : List Part} {q : List String} {pattern : String}

/-! ## What a pattern matches -/

/-- The relative paths that a pattern matches as paths to files; with an empty piece at its end it
matches folders alone. -/
def Matches (pattern q : String) : Prop :=
  isAbsolute q = false ∧ (Path.pieces pattern).getLast? ≠ some "" ∧
    ∃ ps, parts pattern = .ok ps ∧ Spells ps (Path.pieces q)

/-- Whether a search loses a path: it is relative, and an empty piece follows nothing but dots. -/
def IsLost (p : String) : Prop := isAbsolute p = false ∧ Astray (inner p)

/-- Whether a part leads to the folder above. -/
def Part.Ascends (part : Part) : Prop := part = .literal ".." ∨ ".." ∈ part.specials

theorem Spells.exists_ascends (h : Spells ps q) (hup : ".." ∈ q) : ∃ part ∈ ps, part.Ascends := by
  have hname : ¬IsName ".." := fun h => absurd h.part (by decide)
  induction h with
  | nil => cases hup
  | literal _ ih =>
    rcases List.mem_cons.1 hup with rfl | hup
    · exact ⟨_, List.mem_cons_self, .inl rfl⟩
    · obtain ⟨part, hpart, h⟩ := ih hup
      exact ⟨part, List.mem_cons_of_mem _ hpart, h⟩
  | wild name _ _ ih =>
    rcases List.mem_cons.1 hup with rfl | hup
    · exact absurd name hname
    · obtain ⟨part, hpart, h⟩ := ih hup
      exact ⟨part, List.mem_cons_of_mem _ hpart, h⟩
  | special special _ ih =>
    rcases List.mem_cons.1 hup with rfl | hup
    · exact ⟨_, List.mem_cons_self, .inr special⟩
    · obtain ⟨part, hpart, h⟩ := ih hup
      exact ⟨part, List.mem_cons_of_mem _ hpart, h⟩
  | more name _ ih =>
    rcases List.mem_cons.1 hup with rfl | hup
    · exact absurd name hname
    · exact ih hup
  | again _ ih =>
    obtain ⟨part, hpart, h⟩ := ih hup
    exact ⟨part, List.mem_cons_of_mem _ hpart, h⟩
  | leave _ name _ _ ih =>
    rcases List.mem_cons.1 hup with rfl | hup
    · exact absurd name hname
    · obtain ⟨part, hpart, h⟩ := ih hup
      exact ⟨part, by simp [hpart], h⟩

theorem exists_of_expand {t : FileTree} {paths : List String} (h : expand t pattern = .ok paths) :
    ∃ ps, parts pattern = .ok ps ∧ paths = search t (pattern.endsWith "/") (depthBound t ps)
      (if isAbsolute pattern then "/" else ".") ps := by
  obtain ⟨-, -, h⟩ := exists_of_bind_eq_ok h
  obtain ⟨ps, hps, h⟩ := exists_of_bind_eq_ok h
  cases h
  exact ⟨ps, hps, rfl⟩

end Glob

namespace Scan

open Glob

variable {t : FileTree} {base pattern : String} {ps : List Glob.Part}

/-! ## Searching from a folder -/

/-- The parts of a pattern seen from a folder. -/
def partsFrom (base : String) (ps : List Glob.Part) : List Glob.Part :=
  (Path.lead (Path.trim base)).map escapedPart ++ ps

/-- Where a search for what is in a folder starts. -/
def startOf (base : String) : String := if Path.isAbsolute (Path.trim base ++ "/") then "/" else "."

/-- **A pattern seen from a folder is searched for behind the pieces of the folder**; if it is for
folders alone, it finds no file. -/
theorem matched_of_relative (t : FileTree) (base : String)
    (hrelative : Path.isAbsolute pattern = false) (hread : flaw? (Glob.read pattern) = none)
    (hslash : slashInBrackets pattern.toList = false) :
    ∃ ps, Glob.parts pattern = .ok ps ∧
      matched t base pattern = .ok (if (Path.pieces pattern).getLast? = some "" then [] else
        (search t false (depthBound t (partsFrom base ps)) (startOf base)
          (partsFrom base ps)).filter t.isFile) := by
  have hexpand (p : String) (hp : flaw? (expand t p) = none) :
      ∃ paths, expand t p = .ok paths := flaw?_eq_none_iff.1 hp
  obtain ⟨own, hown⟩ := hexpand pattern (by rw [flaw?_expand_of_read t hread, hslash]; rfl)
  obtain ⟨ps, hps, -⟩ := exists_of_expand hown
  refine ⟨ps, hps, ?_⟩
  obtain ⟨paths, hpaths⟩ := hexpand (resolve base pattern) (by
    rw [flaw?_expand_resolve t base hread, hslash]; rfl)
  obtain ⟨all, hall, hfound⟩ := exists_of_expand hpaths
  rw [resolve_of_relative base hrelative] at hall hfound
  have habsolute : Path.isAbsolute (escape (Path.trim base) ++ "/" ++ pattern) =
      Path.isAbsolute (Path.trim base ++ "/") := by
    rw [Path.isAbsolute_behind, ← escape_slash, isAbsolute_escape]
  have hmatched : matched t base pattern = .ok (paths.filter t.isFile) := by rw [matched, hpaths]
  rw [hmatched]
  by_cases hlast : (Path.pieces pattern).getLast? = some ""
  · rw [(Path.endsWith_behind _ _).2 hlast] at hfound
    have hnone : paths.filter t.isFile = [] := by
      rw [List.filter_eq_nil_iff]
      intro y hy hfile
      have hfolder := (isFolder_of_mem_search _).1 _ _ (hfound ▸ hy)
      rw [isFolder_of_isFile hfile] at hfolder
      cases hfolder
    rw [hnone, if_pos hlast]
  · have hends : (escape (Path.trim base) ++ "/" ++ pattern).endsWith "/" = false := by
      rw [Bool.eq_false_iff]
      exact mt (Path.endsWith_behind _ _).1 hlast
    rw [parts_escape hrelative hlast hps] at hall
    rw [hends, habsolute, ← Except.ok.inj hall] at hfound
    rw [if_neg hlast, hfound]
    rfl

open FileTree

variable {q y : String}

/-- A folder as the place where a search starts and the pieces of its trimmed path. -/
theorem bare_eq_lead (hbase : base ≠ "") : Path.bare base =
    Path.bare (startOf base) ++ (Path.lead (Path.trim base)).filterMap Path.part? := by
  obtain ⟨k, hk⟩ := Path.exists_lead_trim base
  have habsolute : Path.isAbsolute base = Path.isAbsolute (Path.trim base ++ "/") := by
    rw [Path.isAbsolute_trim, ← Path.isAbsolute_slash hbase "", String.append_empty]
  have hinner : (Path.inner base).filterMap Path.part? =
      (Path.lead (Path.trim base)).filterMap Path.part? := by
    rw [Path.lead, if_neg hbase] at hk
    rw [hk, List.filterMap_append]
    simp [Path.part?]
  have hstart : Path.bare (startOf base) =
      if Path.isAbsolute (Path.trim base ++ "/") then [.root] else [] := by
    unfold startOf
    split <;> cbv
  rw [bare_eq, Path.steps_eq_inner, filterMap_ofPiece, hinner, hstart, habsolute]

theorem slashFree_partsFrom (h : SlashFree ps) : SlashFree (partsFrom base ps) := by
  intro s hs
  rcases List.mem_append.1 hs with hs | hs
  · obtain ⟨r, hr, hrs⟩ := List.mem_map.1 hs
    rcases escapedPart_cases r with hpart | ⟨hpart, -⟩
    · obtain rfl : r = s := by simpa [hpart] using hrs
      exact Path.noSlash_of_mem_lead hr
    · rw [hpart] at hrs
      cases hrs
  · exact h s hs

section Own

variable (hrelative : Path.isAbsolute pattern = false)
  (hlast : (Path.pieces pattern).getLast? ≠ some "") (hps : Glob.parts pattern = .ok ps)

include hrelative hlast hps

theorem parts_own : SlashFree ps ∧
    List.Forall₂ (fun s part => readPart s = .ok part) (Path.pieces pattern) ps := by
  rw [← Path.inner_of_relative hrelative] at hlast ⊢
  exact ⟨slashFree_of_parts hlast hps,
    exists_of_mapM_readPart ((parts_eq_mapM hlast).symm.trans hps)⟩

/-- The paths that a relative pattern spells are relative. -/
theorem isAbsolute_of_spells (h : Spells ps (Path.pieces q)) : Path.isAbsolute q = false := by
  rw [Bool.eq_false_iff]
  intro habsolute
  obtain ⟨s, rest, hq⟩ := Path.exists_pieces_of_isAbsolute habsolute
  obtain ⟨after, rfl⟩ := List.head?_eq_some_iff.1 (hq ▸ h).head?_of_empty
  obtain ⟨r, pieces, hr, -, hpieces⟩ :=
    List.forall₂_cons_right_iff.1 (parts_own hrelative hlast hps).2
  -- The part is empty only if the piece is.
  obtain rfl := eq_of_readPart hr
  rw [Path.isAbsolute_of_pieces hpieces] at hrelative
  · cases hrelative
  · rintro rfl
    exact hlast (by rw [hpieces]; rfl)

/-- What a search finds behind a folder is a file at a path that the pattern matches. -/
theorem exists_matches_of_mem (hnamed : t.IsNamed) (hbase : base ≠ "") {fuel : ℕ}
    (hy : y ∈ search t false fuel (startOf base) (partsFrom base ps)) (hfile : t.isFile y = true) :
    ∃ q, Matches pattern q ∧ ¬IsLost (Path.trim base ++ "/" ++ q) ∧
      t.IsFileAt (Path.join base q) y := by
  obtain ⟨hfree, hread⟩ := parts_own hrelative hlast hps
  have hnonempty : ps ≠ [] := by
    rintro rfl
    exact Path.pieces_ne_nil pattern (List.length_eq_zero_iff.1 hread.length_eq)
  obtain ⟨all, hall, hbehind⟩ :=
    exists_of_mem_search hnamed hfile (slashFree_partsFrom hfree) hy
  obtain ⟨ns, rfl, hns⟩ := (spells_escaped fun s hs => Path.noSlash_of_mem_lead hs).1 hall
  have hne : ns ≠ [] := hns.ne_nil hnonempty
  obtain ⟨q, rfl⟩ := Path.exists_pieces (hns.noSlash hfree) hne
  have hq : Path.isAbsolute q = false := isAbsolute_of_spells hrelative hlast hps hns
  have hbare : Path.bare y = Path.bare (Path.join base q) := by
    rw [hbehind.bare, bare_join base hq, bare_eq_lead hbase, List.filterMap_append,
      List.append_assoc]
  have hkept : ¬IsLost (Path.trim base ++ "/" ++ q) := by
    rintro ⟨hrelative, hastray⟩
    rw [Path.inner_behind] at hastray
    rw [Path.isAbsolute_behind] at hrelative
    have hhere : isHere (startOf base) = true := by
      rw [startOf, hrelative]
      cbv
    exact hbehind.kept hhere hastray
  refine ⟨q, ⟨hq, hlast, ps, hps, hns⟩, hkept, hfile, hbare, fun hsize => ?_⟩
  have hends : (steps y).getLast? = (steps (Path.join base q)).getLast? := by
    obtain ⟨n, hn⟩ := Option.ne_none_iff_exists'.1 (mt List.getLast?_eq_none_iff.1 hne)
    rw [getLast?_steps_join hbase hq, hn]
    exact hbehind.last n (by rwa [List.getLast?_append_of_ne_nil _ hne])
  have hjoined : Path.join base q ≠ "" := by
    obtain ⟨b, hjoin, -⟩ := Path.exists_join hbase hq
    simp [hjoin]
  exact locate_eq_of_bare hbare hends hjoined hsize hfile

end Own

theorem fits_of_isFile (hbase : base ≠ "") (hq : Path.isAbsolute q = false)
    (hfile : t.isFile (Path.join base q) = true)
    (hkept : ¬IsLost (Path.trim base ++ "/" ++ q)) :
    Fits (Path.isAbsolute (Path.trim base ++ "/"))
      (Path.lead (Path.trim base) ++ Path.pieces q) := by
  obtain ⟨l, hl, -⟩ := isFile_iff.1 hfile
  obtain ⟨⟨hnul, -, hsize⟩, -⟩ := locate_eq_ok_iff.1 hl
  obtain ⟨hshort, hsub⟩ := Path.trim_le_join hbase hq
  have habsolute := Path.isAbsolute_behind (Path.trim base) q
  rw [IsLost, habsolute, not_and] at hkept
  have hspan := Path.span_inner (Path.trim base ++ "/" ++ q)
  rw [habsolute] at hspan
  rw [← Path.inner_behind]
  have hpiece {s : String} (hs : s ∈ Path.inner (Path.trim base ++ "/" ++ q)) :
      s = "" ∨ s ∈ Path.pieces (Path.trim base ++ "/" ++ q) := by
    by_cases hempty : s = ""
    · exact .inl hempty
    · exact .inr ((Path.mem_inner hempty).1 hs)
  refine ⟨fun s hs => ?_, fun s hs hc => ?_, by omega, ?_⟩
  · rcases hpiece hs with rfl | hs
    · simp
    · exact Path.not_mem_of_mem_pieces hs
  · rcases hpiece hs with rfl | hs
    · simp at hc
    · rw [String.contains_char_eq, decide_eq_false_iff_not] at hnul
      exact hnul (hsub (Path.exists_mem_pieces.1 ⟨s, hs, hc⟩).1)
  · cases ha : Path.isAbsolute (Path.trim base ++ "/") with
    | true => exact .inl rfl
    | false => exact .inr (hkept ha)

/-- A search from a folder starts at the root, or with a part that describes no special names. -/
theorem specials_start (base : String) (ps : List Glob.Part) :
    Path.isAbsolute (Path.trim base ++ "/") = true ∨ ([] : List String) ≠ [] ∨
      ∀ part ∈ (partsFrom base ps).head?, part.specials = [] := by
  cases ha : Path.isAbsolute (Path.trim base ++ "/") with
  | true => exact .inl rfl
  | false =>
    refine .inr (.inr fun part hpart => ?_)
    have hb : Path.trim base ≠ "" := by
      intro h
      rw [h] at ha
      exact absurd ha (by simp [Path.isAbsolute_eq])
    have hlead : Path.lead (Path.trim base) = Path.pieces (Path.trim base) := by
      have habsolute := Path.isAbsolute_slash hb ""
      rw [String.append_empty, ha] at habsolute
      rw [Path.lead, if_neg hb, Path.inner_of_relative habsolute.symm]
    obtain ⟨s, rest, hpieces⟩ := List.exists_cons_of_ne_nil (Path.pieces_ne_nil (Path.trim base))
    rw [partsFrom, hlead, hpieces] at hpart
    cases hpart
    exact specials_escapedPart s

/-- A search from a folder for a file in it stands at the start of the way to the file. -/
theorem exists_front (hbase : base ≠ "") (hq : Path.isAbsolute q = false)
    (hfile : t.isFile (Path.join base q) = true)
    (hkept : ¬IsLost (Path.trim base ++ "/" ++ q)) :
    ∃ l, t.locate (Path.join base q) = .ok l ∧
      Front t (Path.isAbsolute (Path.trim base ++ "/")) l []
        (Path.lead (Path.trim base) ++ Path.pieces q)
        (if Path.isAbsolute (Path.trim base ++ "/") then [] else t.current) mostLinks := by
  obtain ⟨l, hl, -⟩ := isFile_iff.1 hfile
  obtain ⟨-, hw⟩ := locate_eq_ok_iff.1 hl
  obtain ⟨todo, hlight, hsteps⟩ := exists_steps_join hbase hq
  rw [Path.isAbsolute_join hbase hq, hsteps] at hw
  have hw := hw.lighten (hlight.append (.refl _))
  rw [← List.map_append] at hw
  refine ⟨l, hl, fits_of_isFile hbase hq hfile hkept, fun l' more hmore => .stay ?_ hmore, hw⟩
  obtain ⟨s, rest, hall⟩ : ∃ s rest, Path.lead (Path.trim base) ++ Path.pieces q = s :: rest :=
    List.exists_cons_of_ne_nil (by simp [Path.pieces_ne_nil])
  rw [hall] at hw
  exact hw.step.1

/-- A search finds the files at the paths that the pattern matches behind a folder. -/
theorem exists_mem_of_matches (hbase : base ≠ "") (hps : Glob.parts pattern = .ok ps)
    (hq : Matches pattern q) (hfile : t.isFile (Path.join base q) = true)
    (hkept : ¬IsLost (Path.trim base ++ "/" ++ q)) :
    ∃ y ∈ search t false (depthBound t (partsFrom base ps)) (startOf base) (partsFrom base ps),
      t.IsFileAt (Path.join base q) y := by
  obtain ⟨hrelative, -, ps', hps', hspells⟩ := hq
  obtain rfl : ps' = ps := Except.ok.inj (hps'.symm.trans hps)
  obtain ⟨l, hl, hfront⟩ := exists_front hbase hrelative hfile hkept
  obtain ⟨l', hl', hnode⟩ := isFile_iff.1 hfile
  obtain rfl : l' = l := Except.ok.inj (hl'.symm.trans hl)
  have hthere : (t.node? l').isSome = true := by
    rcases hnode with h | ⟨bytes, h⟩ <;> rw [h] <;> rfl
  have hall : Spells (partsFrom base ps') (Path.lead (Path.trim base) ++ Path.pieces q) :=
    (spells_escaped fun s hs => Path.noSlash_of_mem_lead hs).2 ⟨_, rfl, hspells⟩
  have hparts : partsFrom base ps' ≠ [] := by
    have hps : ps' ≠ [] := by
      rintro rfl
      generalize hpieces : Path.pieces q = pieces at hspells
      cases hspells
      exact Path.pieces_ne_nil q hpieces
    simp [partsFrom, hps]
  have hfuel : 3 * (partsFrom base ps').length +
      2 * t.room (if Path.isAbsolute (Path.trim base ++ "/") then [] else t.current) mostLinks + 1 ≤
        depthBound t (partsFrom base ps') := by
    unfold FileTree.room depthBound mostLinks
    omega
  obtain ⟨y, hy, hreached, hlocate⟩ :=
    exists_mem_search hall hparts hthere .start hfront (specials_start base ps') hfuel
  refine ⟨y, hy, isFile_iff.2 ⟨l', hlocate, hnode⟩, ?_, fun _ => hl.trans hlocate.symm⟩
  obtain ⟨todo, hlight, hsteps⟩ := exists_steps_join hbase hrelative
  have hfollows := hreached.follows
  rw [bare_eq, bare_eq, Path.isAbsolute_join hbase hrelative, hfollows.absolute,
    hfollows.steps.filterMap_part?, hsteps, List.filterMap_append, ← hlight.filterMap_part?,
    ← List.filterMap_append, ← List.map_append]
  rfl

/-! ## What a pattern finds -/

/-- The folder that relative patterns are seen from: the root, if its path is empty. -/
def folder (base : String) : String := if base = "" then "/" else base

theorem matched_folder (hrelative : Path.isAbsolute pattern = false) :
    matched t base pattern = matched t (folder base) pattern := by
  unfold folder
  split
  · next hbase =>
    have htrim : Path.trim "/" = Path.trim "" := Path.trim_slash ""
    rw [matched, matched, resolve_of_relative base hrelative, resolve_of_relative "/" hrelative,
      hbase, htrim]
  · rfl

theorem exists_names {ss : List String} (h : ".." ∉ ss) :
    ∃ names : List String, ss.filterMap Path.part? = names.map .name := by
  induction ss with
  | nil => exact ⟨[], rfl⟩
  | cons s ss ih =>
    rw [List.mem_cons, not_or] at h
    obtain ⟨names, hnames⟩ := ih h.2
    rw [List.filterMap_cons, Path.part?, if_neg (Ne.symm h.1), hnames]
    split
    · next hnone => exact ⟨names, rfl⟩
    · next part hpart =>
      split at hpart
      · cases hpart
      · cases hpart
        exact ⟨s :: names, rfl⟩

/-- **What a relative pattern finds.** A pattern that was read finds exactly the files at the paths
that it matches, behind the path of the folder that it is seen from, whatever characters this path
has; only an empty path counts as the root. It finds all of them but those that a search loses, and
it finds files outside of the folder only if one of its parts leads up. -/
theorem matched_from {patterns : List String} {extractor : Option String} {s : ContentSource}
    (h : ContentSource.read patterns extractor = .ok s) (hp : pattern ∈ s.patterns)
    (hrelative : Path.isAbsolute pattern = false)
    (hslash : slashInBrackets pattern.toList = false) (hnamed : t.IsNamed) (base : String) :
    ∃ paths, matched t base pattern = .ok paths ∧
      (∀ y ∈ paths, ∃ q, Matches pattern q ∧ ¬IsLost (Path.trim (folder base) ++ "/" ++ q) ∧
        t.IsFileAt (Path.join (folder base) q) y) ∧
      (∀ q, Matches pattern q → ¬IsLost (Path.trim (folder base) ++ "/" ++ q) →
        t.isFile (Path.join (folder base) q) = true →
          ∃ y ∈ paths, t.IsFileAt (Path.join (folder base) q) y) ∧
      ((∀ ps, Glob.parts pattern = .ok ps → ∀ part ∈ ps, ¬part.Ascends) →
        ∀ y ∈ paths, ∃ names : List String,
          Path.bare y = Path.bare (folder base) ++ names.map .name) := by
  have hbase : folder base ≠ "" := by
    unfold folder
    split
    · simp
    · assumption
  rw [matched_folder hrelative]
  generalize folder base = base at hbase ⊢
  obtain ⟨ps, hps, hmatched⟩ := matched_of_relative t base hrelative
    (ContentSource.flaw?_of_read h pattern hp) hslash
  have hfound {y : String} (hlast : (Path.pieces pattern).getLast? ≠ some "")
      (hy : y ∈ (search t false (depthBound t (partsFrom base ps)) (startOf base)
        (partsFrom base ps)).filter t.isFile) :
      ∃ q, Matches pattern q ∧ ¬IsLost (Path.trim base ++ "/" ++ q) ∧
        t.IsFileAt (Path.join base q) y := by
    obtain ⟨hy, hfile⟩ := List.mem_filter.1 hy
    exact exists_matches_of_mem hrelative hlast hps hnamed hbase hy hfile
  refine ⟨_, hmatched, fun y hy => ?_, fun q hq hkept hfile => ?_, fun hup y hy => ?_⟩
  · split at hy
    · cases hy
    · next hlast => exact hfound hlast hy
  · obtain ⟨y, hy, hat⟩ := exists_mem_of_matches hbase hps hq hfile hkept
    rw [if_neg hq.2.1]
    exact ⟨y, List.mem_filter.2 ⟨hy, hat.file⟩, hat⟩
  · split at hy
    · cases hy
    · next hlast =>
      obtain ⟨q, ⟨hq, -, ps', hps', hspells⟩, -, hat⟩ := hfound hlast hy
      have hno : ".." ∉ Path.pieces q := fun hmem => by
        obtain ⟨part, hpart, hascends⟩ := hspells.exists_ascends hmem
        exact hup ps' hps' part hpart hascends
      obtain ⟨names, hnames⟩ := exists_names hno
      exact ⟨names, by rw [hat.bare, bare_join base hq, hnames]⟩

/-- A folder whose name would describe another name as a pattern. -/
theorem matched_from_brackets :
    let t : FileTree := { nodes := [(["[ab]"], .folder), (["[ab]", "x"], .file [])] }
    ContentSource.read ["*"] none = .ok ⟨["*"], .standard⟩ ∧ t.IsNamed ∧
      ∃ paths, matched t "[ab]/" "*" = .ok paths ∧ ∃ y ∈ paths, t.IsFileAt "[ab]/x" y := by
  intro t
  have hread : ContentSource.read ["*"] none = .ok ⟨["*"], .standard⟩ := by cbv
  have hname : Path.IsName "[ab]" ∧ Path.IsName "x" :=
    ⟨⟨by decide, by decide⟩, ⟨by decide, by decide⟩⟩
  have hnamed : t.IsNamed := by
    intro p hp n hn
    have hcases : n = "[ab]" ∨ n = "x" := by
      rcases List.mem_pair.1 hp with rfl | rfl
      · exact .inl (List.mem_singleton.1 hn)
      · exact List.mem_pair.1 hn
    rcases hcases with rfl | rfl
    · exact hname.1
    · exact hname.2
  have hmatches : Matches "*" "x" := by
    have hx : Path.pieces "x" = ["x"] := Path.pieces_of_not_mem (by decide)
    have hstar : Path.pieces "*" = ["*"] := Path.pieces_of_not_mem (by decide)
    refine ⟨Path.isAbsolute_of_not_mem (by decide), by simp [hstar], [.wild [.star]], by cbv, ?_⟩
    rw [hx]
    exact .wild hname.2 (by cbv) .nil
  have hjoin : Path.join (folder "[ab]/") "x" = "[ab]/x" := by cbv
  have hkept : ¬IsLost (Path.trim (folder "[ab]/") ++ "/" ++ "x") := by
    have hhead : ((Path.inner (Path.trim (folder "[ab]/") ++ "/" ++ "x")).dropWhile
        (· == ".")).head? = some "[ab]" := by cbv
    intro hlost
    rw [IsLost, Astray, hhead] at hlost
    simp at hlost
  obtain ⟨paths, hpaths, -, hall, -⟩ := matched_from (t := t) hread List.mem_cons_self
    (by cbv) (by cbv) hnamed "[ab]/"
  rw [← hjoin]
  exact ⟨hread, hnamed, paths, hpaths, hall "x" hmatches hkept (by cbv)⟩

/-- From the empty path a pattern does not find the file in the current folder that it matches. -/
theorem matched_from_nowhere :
    let t : FileTree :=
      { nodes := [(["d"], .folder), (["d", "a"], .file [])], current := ["d"] }
    Matches "a" "a" ∧ t.isFile (Path.join "" "a") = true ∧ matched t "" "a" = .ok [] := by
  have ha : Path.pieces "a" = ["a"] := Path.pieces_of_not_mem (by decide)
  refine ⟨⟨Path.isAbsolute_of_not_mem (by decide), by simp [ha], [.literal "a"], by cbv, ?_⟩,
    by cbv, by cbv⟩
  rw [ha]
  exact .literal .nil

end Scan

end StyleBuild
