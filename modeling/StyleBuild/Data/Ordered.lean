/-!
# Ordered maps

A map from names that keeps the order in which the names were first given. A name given again
takes the new value in its old place, so no name occurs twice.
-/

namespace StyleBuild

/-- A map from names, in the order in which they were first given. -/
structure Ordered (α : Type) where
  entries : List (String × α) := []
  nodup : (entries.map Prod.fst).Nodup := by simp

namespace Ordered

variable {α β : Type}

instance : Inhabited (Ordered α) := ⟨{}⟩

/-- Give a name a value in a list of entries. -/
def put (key : String) (value : α) : List (String × α) → List (String × α)
  | [] => [(key, value)]
  | (k, v) :: es => if k = key then (key, value) :: es else (k, v) :: put key value es

theorem keys_put (key : String) (value : α) (es : List (String × α)) :
    (put key value es).map Prod.fst =
      if key ∈ es.map Prod.fst then es.map Prod.fst else es.map Prod.fst ++ [key] := by
  induction es with
  | nil => simp [put]
  | cons e es ih =>
    obtain ⟨k, v⟩ := e
    by_cases h : k = key
    · subst h; simp [put]
    · have h' : ¬key = k := fun e => h e.symm
      simp only [put, h, if_false, List.map_cons, ih, List.mem_cons, h', false_or]
      split <;> simp

theorem nodup_put {key : String} {value : α} {es : List (String × α)}
    (h : (es.map Prod.fst).Nodup) : ((put key value es).map Prod.fst).Nodup := by
  rw [keys_put]
  split
  · exact h
  · next hk =>
    rw [List.nodup_append]
    refine ⟨h, by simp, ?_⟩
    intro a ha b hb hab
    rw [List.mem_singleton] at hb
    exact hk (hb ▸ hab ▸ ha)

/-- Give a name a value. -/
def insert (m : Ordered α) (key : String) (value : α) : Ordered α :=
  ⟨put key value m.entries, nodup_put m.nodup⟩

/-- The map of a list of entries; later values of a name count. -/
def ofList (es : List (String × α)) : Ordered α :=
  es.foldl (fun m (k, v) => m.insert k v) {}

/-- The value of a name. -/
def get? (m : Ordered α) (key : String) : Option α := m.entries.lookup key

/-- The names in order. -/
def keys (m : Ordered α) : List String := m.entries.map Prod.fst

/-- Whether a name has a value. -/
def contains (m : Ordered α) (key : String) : Bool := m.keys.contains key

/-- Whether there are no names. -/
def isEmpty (m : Ordered α) : Bool := m.entries.isEmpty

theorem lookup_cons (k l : String) (v : α) (es : List (String × α)) :
    ((l, v) :: es).lookup k = if k = l then some v else es.lookup k := by
  change (match k == l with | true => some v | false => es.lookup k) = _
  by_cases h : k = l
  · simp [h]
  · have h' : (k == l) = false := by simp [h]
    simp [h, h']

theorem lookup_put (key k : String) (value : α) (es : List (String × α)) :
    (put key value es).lookup k = if k = key then some value else es.lookup k := by
  induction es with
  | nil => simp [put, lookup_cons]
  | cons e es ih =>
    obtain ⟨l, v⟩ := e
    by_cases hl : l = key
    · subst hl
      by_cases h : k = l <;> simp [put, lookup_cons, h]
    · by_cases h : k = l
      · subst h; simp [put, hl]
      · simp [put, lookup_cons, hl, h, ih]

theorem get?_insert (m : Ordered α) (key k : String) (value : α) :
    (m.insert key value).get? k = if k = key then some value else m.get? k :=
  lookup_put key k value m.entries

theorem keys_insert (m : Ordered α) (key : String) (value : α) :
    (m.insert key value).keys = if key ∈ m.keys then m.keys else m.keys ++ [key] :=
  keys_put key value m.entries

end Ordered

end StyleBuild
