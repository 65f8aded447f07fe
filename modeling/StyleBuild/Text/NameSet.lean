/-!
# Finite sets of names

Class names, keyframe names and allow-lists are finite sets of strings that are shown in
ascending order. A set is kept as a list in that order; `NameSet.mem_insert` says what
insertion does to membership, and nothing else about the representation is needed.
-/

namespace StyleBuild

/-- A finite set of names, listed in ascending order. -/
structure NameSet where
  names : List String := []
  deriving DecidableEq, Repr, Inhabited

namespace NameSet

/-- Put `x` at its place in an ascending list, unless it is there already. -/
def insertInto (x : String) : List String → List String
  | [] => [x]
  | y :: ys => if x = y then y :: ys else if x < y then x :: y :: ys else y :: insertInto x ys

/-- The set without members. -/
def empty : NameSet := ⟨[]⟩

/-- Add one name. -/
def insert (s : NameSet) (x : String) : NameSet := ⟨insertInto x s.names⟩

/-- Add every name of a list. -/
def insertAll (s : NameSet) (xs : List String) : NameSet := xs.foldl insert s

/-- The set of the members of a list. -/
def ofList (xs : List String) : NameSet := empty.insertAll xs

/-- Whether a name is a member. -/
def contains (s : NameSet) (x : String) : Bool := s.names.contains x

/-- The members that pass a test. -/
def filter (p : String → Bool) (s : NameSet) : NameSet := ⟨s.names.filter p⟩

/-- The number of members. -/
def size (s : NameSet) : Nat := s.names.length

instance : Membership String NameSet := ⟨fun s x => x ∈ s.names⟩

instance (x : String) (s : NameSet) : Decidable (x ∈ s) :=
  inferInstanceAs (Decidable (x ∈ s.names))

theorem mem_insertInto {x y : String} {ys : List String} :
    x ∈ insertInto y ys ↔ x = y ∨ x ∈ ys := by
  induction ys with
  | nil => simp [insertInto]
  | cons z zs ih =>
    unfold insertInto
    split
    · next h => subst h; simp
    · split
      · simp
      · simp only [List.mem_cons, ih]; grind

theorem mem_insert {s : NameSet} {x y : String} : x ∈ s.insert y ↔ x = y ∨ x ∈ s :=
  mem_insertInto

theorem mem_insertAll {s : NameSet} {x : String} {ys : List String} :
    x ∈ s.insertAll ys ↔ x ∈ ys ∨ x ∈ s := by
  induction ys generalizing s with
  | nil => simp [insertAll]
  | cons y ys ih =>
    rw [insertAll, List.foldl_cons, ← insertAll, ih, mem_insert, List.mem_cons]
    grind

theorem mem_ofList {x : String} {ys : List String} : x ∈ ofList ys ↔ x ∈ ys := by
  rw [ofList, mem_insertAll]
  exact or_iff_left (by change x ∉ ([] : List String); simp)

theorem contains_iff {s : NameSet} {x : String} : s.contains x = true ↔ x ∈ s := by
  change s.names.contains x = true ↔ x ∈ s.names
  simp

end NameSet

end StyleBuild
