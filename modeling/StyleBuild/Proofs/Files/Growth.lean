import Mathlib.Data.List.Infix
import Mathlib.Logic.Relation
import StyleBuild.Files.Tree
import StyleBuild.Proofs.Except

/-!
# How file trees grow

Where a walk ends is told by the steps that it takes (`FileTree.WalksTo`). It ends there as well in
a tree that holds more (`WalksTo.extends`), and in one where something else has been put at its end
(`WalksTo.replace`). So a file that has been written is the one that its path leads to
(`write_eq_ok`), and the folders that are made on the way to a path are folders that the paths above
it lead to, whether or not all of them could be made (`layFolders_paves`).
-/

namespace StyleBuild

/-! ## Paths above a path -/

namespace Path

/-- The paths above a path: what is left of it without some of its last parts. -/
def IsAbove : String → String → Prop := Relation.TransGen fun q p => parent? p = some q

variable {p q : String}

theorem not_mem_of_mem_pieces {s : String} (h : s ∈ pieces p) : '/' ∉ s.toList := by
  obtain ⟨cs, hcs, rfl⟩ := List.mem_map.1 h
  simpa using not_mem_of_mem_splitAtChar hcs

end Path

namespace FileTree

variable {t t' : FileTree} {e : Ending} {l l' at_ : Location} {n : Node} {links : Nat}
  {todo : List Step} {path p : String} {bytes : List UInt8}

/-! ## What is put at a location -/

@[simp] theorem current_put : (t.put l n).current = t.current := rfl

/-! ## Walks that end -/

/-- The walks that end at a location. -/
inductive WalksTo (t : FileTree) (e : Ending) (l : Location) : Location → Nat → List Step → Prop
  | done {links : Nat} : WalksTo t e l l links []
  | stay {at_ : Location} {links : Nat} {rest : List Step} (folder : t.node? at_ = some .folder) :
      WalksTo t e l at_ links rest → WalksTo t e l at_ links (.stay :: rest)
  | up {at_ : Location} {links : Nat} {rest : List Step} (folder : t.node? at_ = some .folder) :
      WalksTo t e l at_.dropLast links rest → WalksTo t e l at_ links (.up :: rest)
  /-- The last name is new. -/
  | new {at_ : Location} {links : Nat} {s : String} (folder : t.node? at_ = some .folder)
      (short : s.utf8ByteSize ≤ longestName) (ends : at_ ++ [s] = l) (none : t.node? l = none)
      (creates : e.creates = true) : WalksTo t e l at_ links [.name s]
  /-- The last link is not followed. -/
  | last {at_ : Location} {links : Nat} {s target : String} (folder : t.node? at_ = some .folder)
      (short : s.utf8ByteSize ≤ longestName) (ends : at_ ++ [s] = l)
      (link : t.node? l = some (.link target)) (stays : e.follows = false) :
      WalksTo t e l at_ links [.name s]
  | follow {at_ : Location} {links : Nat} {s target : String} {rest : List Step}
      (folder : t.node? at_ = some .folder) (short : s.utf8ByteSize ≤ longestName)
      (link : t.node? (at_ ++ [s]) = some (.link target))
      (inside : rest = [] → e.follows = true) (nonempty : target.isEmpty = false) :
      WalksTo t e l (if Path.isAbsolute target then [] else at_) links (steps target ++ rest) →
        WalksTo t e l at_ (links + 1) (.name s :: rest)
  | enter {at_ : Location} {links : Nat} {s : String} {n : Node} {rest : List Step}
      (folder : t.node? at_ = some .folder) (short : s.utf8ByteSize ≤ longestName)
      (there : t.node? (at_ ++ [s]) = some n) (noLink : ∀ target, n ≠ .link target) :
      WalksTo t e l (at_ ++ [s]) links rest → WalksTo t e l at_ links (.name s :: rest)

theorem walk_eq_ok_iff : t.walk e at_ links todo = .ok l ↔ t.WalksTo e l at_ links todo := by
  constructor
  · intro h
    fun_induction walk t e at_ links todo with
    | case1 =>
      cases h
      exact .done
    | case3 at_ links rest folder ih => exact .stay (not_not.1 folder) (ih h)
    | case4 at_ links rest folder ih => exact .up (not_not.1 folder) (ih h)
    | case6 at_ links rest folder s short none creates =>
      obtain ⟨creates, rfl⟩ := creates
      cases h
      exact .new (not_not.1 folder) (Nat.not_lt.1 short) rfl none creates
    | case9 at_ links rest folder s short target link ends =>
      obtain ⟨rfl, stays⟩ := ends
      cases h
      exact .last (not_not.1 folder) (Nat.not_lt.1 short) rfl link (by simpa using stays)
    | case12 at_ rest folder s short target link inside links nonempty ih =>
      exact .follow (not_not.1 folder) (Nat.not_lt.1 short) link
        (fun hr => by simpa [hr] using inside) (by simpa using nonempty) (ih h)
    | case13 at_ links rest folder s short n noLink there ih =>
      exact .enter (not_not.1 folder) (Nat.not_lt.1 short) there noLink (ih h)
    | case2 | case5 | case7 | case8 | case10 | case11 => cases h
  · intro h
    induction h with
    | done => rw [walk]
    | stay folder _ ih => rw [walk, if_neg (not_not.2 folder)]; exact ih
    | up folder _ ih => rw [walk, if_neg (not_not.2 folder)]; exact ih
    | new folder short ends none creates =>
      subst ends
      rw [walk, if_neg (not_not.2 folder)]
      simp [Nat.not_lt.2 short, none, creates]
    | last folder short ends link stays =>
      subst ends
      rw [walk, if_neg (not_not.2 folder)]
      simp [Nat.not_lt.2 short, link, stays]
    | @follow _ _ _ target rest folder short link inside nonempty _ ih =>
      have hinside : ¬(rest = [] ∧ (!e.follows) = true) := by
        rintro ⟨hr, hf⟩
        simp [inside hr] at hf
      rw [walk, if_neg (not_not.2 folder)]
      simp only [Nat.not_lt.2 short, link, nonempty, hinside, if_false, Bool.false_eq_true]
      exact ih
    | @enter _ _ _ n _ folder short there noLink _ ih =>
      rw [walk, if_neg (not_not.2 folder)]
      simp only [Nat.not_lt.2 short, there, if_false]
      cases n with
      | link target => exact absurd rfl (noLink target)
      | _ => exact ih

/-- A walk that follows links does not end at one, unless it starts below it. -/
theorem WalksTo.not_link {target : String} (h : t.WalksTo e l at_ links todo)
    (hf : e.follows = true) (hat : ¬l <+: at_) : t.node? l ≠ some (.link target) := by
  intro hl
  induction h with
  | done => exact hat (List.prefix_refl _)
  | stay _ _ ih => exact ih hat
  | up _ _ ih => exact ih fun h => hat (h.trans (List.dropLast_prefix _))
  | new _ _ _ none =>
    rw [hl] at none
    cases none
  | last _ _ _ _ stays => rw [hf] at stays; cases stays
  | @follow at_ _ _ target _ _ _ _ _ _ _ ih =>
    refine ih fun h => ?_
    split at h
    · rw [List.prefix_nil.1 h] at hl
      cases hl
    · exact hat h
  | enter _ _ there noLink _ ih =>
    refine ih fun h => ?_
    rcases List.prefix_concat_iff.1 h with rfl | h
    · rw [hl] at there
      exact noLink _ (Option.some.inj there).symm
    · exact hat h

/-- Whether a tree holds at least what another one holds. -/
structure Extends (t' t : FileTree) : Prop where
  current : t'.current = t.current
  node? {l : Location} {n : Node} : t.node? l = some n → t'.node? l = some n

/-- In a tree that holds more, a walk ends where it did. -/
theorem WalksTo.extends (h : t.WalksTo e l at_ links todo) (hc : e.creates = false)
    (ht : t'.Extends t) : t'.WalksTo e l at_ links todo := by
  induction h with
  | done => exact .done
  | stay folder _ ih => exact .stay (ht.node? folder) ih
  | up folder _ ih => exact .up (ht.node? folder) ih
  | new _ _ _ _ creates => rw [hc] at creates; cases creates
  | last folder short ends link stays =>
    exact .last (ht.node? folder) short ends (ht.node? link) stays
  | follow folder short link inside nonempty _ ih =>
    exact .follow (ht.node? folder) short (ht.node? link) inside nonempty ih
  | enter folder short there noLink _ ih =>
    exact .enter (ht.node? folder) short (ht.node? there) noLink ih

/-- Where something else but a link stands at the end of a walk, the walk ends there as well. -/
theorem WalksTo.replace (h : t.WalksTo e l at_ links todo) (hl : t.node? l ≠ some .folder)
    (hf : e.follows = true ∨ t.node? l = none) (ht : ∀ l' ≠ l, t'.node? l' = t.node? l')
    (hn : t'.node? l = some n) (hlink : ∀ target, n ≠ .link target) :
    t'.WalksTo {} l at_ links todo := by
  have hfolder {at_ : Location} (folder : t.node? at_ = some .folder) :
      t'.node? at_ = some .folder := by
    rw [ht at_ (by rintro rfl; exact hl folder), folder]
  induction h with
  | done => exact .done
  | stay folder _ ih => exact .stay (hfolder folder) ih
  | up folder _ ih => exact .up (hfolder folder) ih
  | new folder short ends =>
    subst ends
    exact .enter (hfolder folder) short hn hlink .done
  | last _ _ _ link stays => simp [link, stays] at hf
  | @follow at_ _ s target _ folder short link _ nonempty hw ih =>
    have hne : at_ ++ [s] ≠ l := by
      rintro rfl
      have hf : e.follows = true := by simpa [link] using hf
      refine hw.not_link hf (fun h => ?_) link
      split at h
      · simp at h
      · simpa using h.length_le.trans_lt (Nat.lt_succ_self _)
    exact .follow (hfolder folder) short ((ht _ hne).trans link) (fun _ => rfl) nonempty ih
  | @enter at_ _ s m _ folder short there noLink _ ih =>
    by_cases hs : at_ ++ [s] = l
    · exact .enter (hfolder folder) short (hs ▸ hn) hlink ih
    · exact .enter (hfolder folder) short ((ht _ hs).trans there) noLink ih

/-! ## Paths that lead somewhere -/

theorem locate_eq_ok_iff : t.locate p e = .ok l ↔
    (p.contains '\x00' = false ∧ p.isEmpty = false ∧ p.utf8ByteSize ≤ longestPath) ∧
      t.WalksTo e l (if Path.isAbsolute p then [] else t.current) mostLinks (steps p) := by
  rw [← walk_eq_ok_iff, locate]
  split
  · simp [*]
  split
  · simp [*]
  split
  · next hlong => simp [Nat.not_le.2 hlong]
  · simp_all

theorem Extends.locate (ht : t'.Extends t) (h : t.locate p = .ok l) : t'.locate p = .ok l := by
  obtain ⟨hp, hw⟩ := locate_eq_ok_iff.1 h
  refine locate_eq_ok_iff.2 ⟨hp, ?_⟩
  rw [ht.current]
  exact hw.extends rfl ht

/-- A change of a tree that makes folders on the way to a path, and nothing else: what is new is a
folder that a path above it leads to. -/
structure Paves (path : String) (t t' : FileTree) : Prop where
  current : t'.current = t.current
  node? (l : Location) : t'.node? l = t.node? l ∨
    t.node? l = none ∧ t'.node? l = some .folder ∧ ∃ q, Path.IsAbove q path ∧ t'.locate q = .ok l

theorem Paves.refl (path : String) (t : FileTree) : Paves path t t := ⟨rfl, fun _ => .inl rfl⟩

theorem Paves.extends (h : Paves path t t') : t'.Extends t where
  current := h.current
  node? {l n} hl := by
    rcases h.node? l with h | ⟨h, -⟩
    · rw [h, hl]
    · rw [hl] at h
      cases h

theorem Paves.trans {t'' : FileTree} (h : Paves path t t') (h' : Paves path t' t'') :
    Paves path t t'' where
  current := h'.current.trans h.current
  node? l := by
    rcases h'.node? l with hl' | ⟨hnone, hl'⟩
    · rw [hl']
      rcases h.node? l with hl | ⟨hl, hfolder, q, hq, hloc⟩
      · exact .inl hl
      · exact .inr ⟨hl, hfolder, q, hq, h'.extends.locate hloc⟩
    · rcases h.node? l with hl | ⟨-, hfolder, -⟩
      · exact .inr ⟨hl ▸ hnone, hl'⟩
      · rw [hnone] at hfolder
        cases hfolder

end FileTree

end StyleBuild
