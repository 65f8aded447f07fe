import Mathlib.Data.List.Sort
import Mathlib.Data.Prod.Lex
import Mathlib.Data.String.Basic
import StyleBuild.Proofs.Files.Growth

/-!
# Paths to the same place

Paths are ordered as the lists of their parts are, so that two paths of which neither comes before
the other have the same parts (`Path.before_iff`). They may still be written differently: what names
nothing in a path only asks for a folder, and a walk without it ends where it did
(`FileTree.WalksTo.lighten`). So paths to files that have the same parts, whether they start at the
current folder by name or not, lead to the same file (`FileTree.read_congr`).
-/

namespace StyleBuild

namespace Path

/-! ## The order of paths -/

/-- The place of a part in the order of parts. -/
def Part.place : Part → ℕ ×ₗ String
  | .name s => toLex (3, s)
  | part => toLex (part.rank, "")

theorem Part.place_injective : Function.Injective Part.place := by
  intro a b h
  cases a <;> cases b <;> simp_all [place, rank]

theorem Part.before_iff {a b : Part} : a.before b = true ↔ a.place < b.place := by
  cases a <;> cases b <;>
    simp [before, place, rank, Prod.Lex.toLex_lt_toLex, -String.lt_iff_ltb]

theorem partsBefore_iff {as bs : List Part} :
    partsBefore as bs = true ↔ as.map Part.place < bs.map Part.place := by
  induction as generalizing bs with
  | nil => cases bs <;> simp [partsBefore]
  | cons a as ih =>
    cases bs with
    | nil => simp [partsBefore]
    | cons b bs =>
      rw [partsBefore, List.map_cons, List.map_cons, List.cons_lt_cons_iff]
      split
      · next h => simp [h, ih]
      · next h => simp [Part.before_iff, Part.place_injective.eq_iff, h]

/-- The place of a path in the order of paths. -/
def place (p : String) : List (ℕ ×ₗ String) := (parts p).map Part.place

variable {p q : String}

theorem before_iff : before p q = true ↔ place p < place q := partsBefore_iff

theorem place_eq_iff : place p = place q ↔ parts p = parts q :=
  (List.map_injective_iff.2 Part.place_injective).eq_iff

/-! ## The parts that lead somewhere -/

/-- The parts of a path but the current folder at its start. -/
def bare (p : String) : List Part := (parts p).filter (· ≠ .here)

theorem bare_congr (h : parts p = parts q) : bare p = bare q := by
  rw [bare, h, bare]

end Path

namespace FileTree

open StyleBuild.Path

/-- The step that a piece of a path asks for. -/
def Step.ofPiece (s : String) : Step :=
  if s = "" ∨ s = "." then .stay else if s = ".." then .up else .name s

/-- The part that a step takes, if it leads somewhere. -/
def Step.part? : Step → Option Part
  | .stay => none
  | .up => some .parent
  | .name s => some (.name s)

/-- The step that takes a part. -/
def Step.ofPart : Part → Step
  | .parent => .up
  | .name s => .name s
  | _ => .stay

theorem steps_eq (p : String) :
    steps p = (if isAbsolute p then (pieces p).drop 1 else pieces p).map Step.ofPiece := rfl

theorem part?_ofPiece (s : String) : (Step.ofPiece s).part? = part? s := by
  unfold Step.ofPiece part?
  split_ifs <;> rfl

theorem filterMap_ofPiece (ps : List String) :
    (ps.map Step.ofPiece).filterMap Step.part? = ps.filterMap part? := by
  rw [List.filterMap_map]
  exact congrArg (List.filterMap · ps) (funext part?_ofPiece)

theorem filter_ne_stay (todo : List Step) :
    todo.filter (· ≠ .stay) = (todo.filterMap Step.part?).map Step.ofPart := by
  induction todo with
  | nil => rfl
  | cons s todo ih =>
    rw [List.filter_cons, ih]
    cases s <;> rfl

theorem filter_part? (ps : List String) :
    (ps.filterMap part?).filter (· ≠ .here) = ps.filterMap part? := by
  refine List.filter_eq_self.2 fun x hx => ?_
  obtain ⟨s, -, hs⟩ := List.mem_filterMap.1 hx
  unfold part? at hs
  split_ifs at hs <;> cases hs <;> simp

theorem root_not_mem_part? (todo : List Step) : Part.root ∉ todo.filterMap Step.part? := by
  intro h
  obtain ⟨s, -, hs⟩ := List.mem_filterMap.1 h
  cases s <;> cases hs

/-- The parts of a path that lead somewhere are the root and the steps that do. -/
theorem bare_eq (p : String) :
    bare p = (if isAbsolute p then [.root] else []) ++ (steps p).filterMap Step.part? := by
  rw [steps_eq, filterMap_ofPiece, bare, parts]
  cases hp : pieces p with
  | nil => exact absurd hp (by simpa [pieces] using splitAtChar_ne_nil '/' p.toList)
  | cons first rest =>
    dsimp only
    rw [List.filter_append, filter_part?]
    split
    · simp
    · rw [List.nil_append, List.filterMap_cons]
      split_ifs with hfirst
      · simp [hfirst, part?]
      · have hx := filter_part? [first]
        cases h : part? first <;> simp_all

variable {p q : String}

theorem isAbsolute_congr (h : bare p = bare q) : isAbsolute p = isAbsolute q := by
  have hroot (r : String) : .root ∈ bare r ↔ isAbsolute r = true := by
    rw [bare_eq, List.mem_append, or_iff_left (root_not_mem_part? _)]
    split_ifs <;> simp [*]
  rw [Bool.eq_iff_iff, ← hroot, ← hroot, h]

theorem filter_steps_congr (h : bare p = bare q) :
    (steps p).filter (· ≠ .stay) = (steps q).filter (· ≠ .stay) := by
  have ha := isAbsolute_congr h
  rw [bare_eq, bare_eq, ha, List.append_cancel_left_eq] at h
  rw [filter_ne_stay, filter_ne_stay, h]

/-! ## Walks that ask for less -/

/-- Some of the steps that stay are left out. -/
inductive Lighter : List Step → List Step → Prop
  | nil : Lighter [] []
  | keep {s : Step} {todo todo' : List Step} :
      Lighter todo' todo → Lighter (s :: todo') (s :: todo)
  | drop {todo todo' : List Step} : Lighter todo' todo → Lighter todo' (.stay :: todo)

variable {t : FileTree} {l at_ : Location} {links : Nat} {todo todo' more more' : List Step}

theorem Lighter.refl (todo : List Step) : Lighter todo todo := by
  induction todo with
  | nil => exact .nil
  | cons s todo ih => exact .keep ih

theorem Lighter.append (h : Lighter todo' todo) (hm : Lighter more' more) :
    Lighter (todo' ++ more') (todo ++ more) := by
  induction h with
  | nil => exact hm
  | keep _ ih => exact .keep ih
  | drop _ ih => exact .drop ih

theorem lighter_filter (todo : List Step) : Lighter (todo.filter (· ≠ .stay)) todo := by
  induction todo with
  | nil => exact .nil
  | cons s todo ih =>
    by_cases hs : s = .stay
    · subst hs
      exact .drop (by simpa using ih)
    · rw [List.filter_cons_of_pos (by simpa using hs)]
      exact .keep ih

/-- A walk that is not asked to stay somewhere ends where it did. -/
theorem WalksTo.lighten (h : t.WalksTo {} l at_ links todo) (hl : Lighter todo' todo) :
    t.WalksTo {} l at_ links todo' := by
  induction h generalizing todo' with
  | done =>
    cases hl
    exact .done
  | stay folder _ ih =>
    cases hl with
    | keep hl => exact .stay folder (ih hl)
    | drop hl => exact ih hl
  | up folder _ ih =>
    cases hl with
    | keep hl => exact .up folder (ih hl)
  | new _ _ _ _ creates => cases creates
  | last _ _ _ _ stays => cases stays
  | follow folder short link _ nonempty _ ih =>
    cases hl with
    | keep hl =>
      exact .follow folder short link (fun _ => rfl) nonempty (ih ((Lighter.refl _).append hl))
  | enter folder short there noLink _ ih =>
    cases hl with
    | keep hl => exact .enter folder short there noLink (ih hl)

/-! ## Paths to files -/

theorem isFile_iff : t.isFile p = true ↔ ∃ l, t.locate p = .ok l ∧
    (t.node? l = some .faulty ∨ ∃ bytes, t.node? l = some (.file bytes)) := by
  unfold isFile at?
  cases h : t.locate p with
  | error e => simp
  | ok l =>
    simp only [Except.ok.injEq, exists_eq_left']
    cases t.node? l with
    | none => simp
    | some n => cases n <;> simp

theorem exists_walksTo_of_locate (h : t.locate p = .ok l) :
    t.WalksTo {} l (if isAbsolute p then [] else t.current) mostLinks
      ((steps p).filter (· ≠ .stay)) :=
  (locate_eq_ok_iff.1 h).2.lighten (lighter_filter _)

/-- Two paths whose parts lead the same way end at the same location, if both end at one. -/
theorem locate_congr {l' : Location} (h : bare p = bare q) (hp : t.locate p = .ok l)
    (hq : t.locate q = .ok l') : l = l' := by
  have hwp := exists_walksTo_of_locate hp
  have hwq := exists_walksTo_of_locate hq
  rw [isAbsolute_congr h, filter_steps_congr h] at hwp
  exact Except.ok.inj ((walk_eq_ok_iff.2 hwp).symm.trans (walk_eq_ok_iff.2 hwq))

/-- **Paths to files whose parts lead the same way lead to the same file.** -/
theorem read_congr (h : bare p = bare q) (hp : t.isFile p = true) (hq : t.isFile q = true) :
    t.read p = t.read q := by
  obtain ⟨l, hl, -⟩ := isFile_iff.1 hp
  obtain ⟨l', hl', -⟩ := isFile_iff.1 hq
  obtain rfl := locate_congr h hl hl'
  rw [read, read, hl, hl']

end FileTree

end StyleBuild
