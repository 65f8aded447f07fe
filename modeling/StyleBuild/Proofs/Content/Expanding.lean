import Mathlib
import StyleBuild.Content.Scan
import StyleBuild.Proofs.Glob.Escaping

/-!
# Which scans fail for a pattern

The patterns of a content source have been read when a scan expands them from its folder. The name
of the folder is escaped, so that a pattern still can be read behind it (`flaw?_read_resolve`), and
it is expanded unless brackets in it hold a slash (`flaw?_expand_resolve`). Such patterns are the
only ones for which a scan fails; every other failure is that of a file that was found and cannot be
read (`ContentSource.result_scan_of_read`).
-/

namespace StyleBuild

namespace Scan

open Glob

/-! ## Patterns seen from a folder -/

/-- **A relative pattern stands behind the escaped name of its folder**, without the slashes at its
end. -/
theorem resolve_of_relative (base : String) {pattern : String}
    (h : Path.isAbsolute pattern = false) :
    resolve base pattern = escape (Path.trim base) ++ "/" ++ pattern := by
  rw [resolve, h, if_neg Bool.false_ne_true, ← trim_escape]
  rfl

/-- A pattern seen from a folder is the pattern itself, or stands behind escaped text and a slash.
-/
theorem toList_resolve (base pattern : String) :
    resolve base pattern = pattern ∨
      ∃ cs : List Char,
        (resolve base pattern).toList = cs.flatMap escapeChar ++ '/' :: pattern.toList := by
  cases hrelative : Path.isAbsolute pattern with
  | true => exact .inl (by rw [resolve, hrelative, if_pos rfl])
  | false =>
    refine .inr ⟨(Path.trim base).toList, ?_⟩
    rw [resolve_of_relative base hrelative, ← toList_escape]
    simp

theorem flaw?_read_resolve (base pattern : String) :
    flaw? (Glob.read (resolve base pattern)) = flaw? (Glob.read pattern) := by
  rcases toList_resolve base pattern with h | ⟨cs, h⟩
  · rw [h]
  · rw [Glob.read, h, flaw?_tokens_escaped, Glob.read]

/-- A pattern that can be read is expanded from a folder unless brackets in it hold a slash. -/
theorem flaw?_expand_resolve (t : FileTree) (base : String) {pattern : String}
    (h : flaw? (Glob.read pattern) = none) :
    flaw? (expand t (resolve base pattern)) =
      if slashInBrackets pattern.toList then some .brackets else none := by
  rw [flaw?_expand_of_read t ((flaw?_read_resolve base pattern).trans h)]
  rcases toList_resolve base pattern with h | ⟨cs, h⟩
  · rw [h]
  · rw [h, slashInBrackets_escaped]

/-! ## Scans -/

variable (t : FileTree) (base : String)

/-- Why a pattern cannot be expanded, if it cannot. -/
def patternFault? (pattern : String) : Option ScanFault :=
  match matched t base pattern with
  | .ok _ => none
  | .error f => some f

/-- Expanding patterns fails with the first one that cannot be expanded. -/
theorem find_snd (f : Finding) (ps : List String) :
    (find t base f ps).2 = ps.findSome? (patternFault? t base) := by
  induction ps generalizing f with
  | nil => rfl
  | cons p ps ih =>
    rw [find, List.findSome?_cons, patternFault?]
    cases matched t base p with
    | error e => rfl
    | ok paths => exact ih _

end Scan

namespace ContentSource

open Glob Scan

theorem flaw?_of_read {patterns : List String} {extractor : Option String} {s : ContentSource}
    (h : read patterns extractor = .ok s) : ∀ p ∈ s.patterns, flaw? (Glob.read p) = none := by
  have hnone : globFault? patterns = none ∧ s.patterns = patterns := by
    unfold read at h
    split at h
    · cases h
    · next hn =>
      cases h
      exact ⟨hn, rfl⟩
    · next hn =>
      split at h
      · cases h
        exact ⟨hn, rfl⟩
      · cases h
  rw [hnone.2]
  intro p hp
  have hread := List.findSome?_eq_none_iff.1 hnone.1 p hp
  cases hr : Glob.read p with
  | ok ts => rfl
  | error f => simp [hr] at hread

section

variable {s : ContentSource} {t : FileTree} {base : String}

theorem result_scan_of_fault {e : ScanFault} (h : (find t base {} s.patterns).2 = some e) :
    (s.scan t base).result = .error e := by
  have hfind : find t base {} s.patterns = ((find t base {} s.patterns).1, some e) :=
    Prod.ext rfl h
  rw [scan, hfind]

theorem result_scan_of_found (h : (find t base {} s.patterns).2 = none) :
    (s.scan t base).result =
      (readFiles t s.extractor .empty (find t base {} s.patterns).1.index).map fun classes =>
        { files := (find t base {} s.patterns).1.index.map Prod.fst
          classes
          unmatched := (find t base {} s.patterns).1.unmatched } := by
  have hfind : find t base {} s.patterns = ((find t base {} s.patterns).1, none) :=
    Prod.ext rfl h
  rw [scan, hfind]
  dsimp only
  cases readFiles t s.extractor .empty (find t base {} s.patterns).1.index <;> rfl

end

end ContentSource

end StyleBuild
