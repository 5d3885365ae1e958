namespace Landform

/-!
Finite maps from text keys, kept in ascending order of their keys.  The order is by code
points, so listing a map does not depend on the order in which it was filled.
-/

/-- Key and value pairs in ascending order of their keys. -/
structure SortedMap (α : Type u) where
  entries : List (String × α)

namespace SortedMap

variable {α : Type u}

/-- The map without keys. -/
def empty : SortedMap α :=
  ⟨[]⟩

instance : Inhabited (SortedMap α) :=
  ⟨empty⟩

/-- Puts a pair at its place in a sorted list, replacing a pair of the same key. -/
def insertEntry (key : String) (value : α) : List (String × α) -> List (String × α)
  | [] => [(key, value)]
  | (other, kept) :: rest =>
      if key == other then (key, value) :: rest
      else if key < other then (key, value) :: (other, kept) :: rest
      else (other, kept) :: insertEntry key value rest

/-- Gives a key its value. -/
def insert (map : SortedMap α) (key : String) (value : α) : SortedMap α :=
  ⟨insertEntry key value map.entries⟩

/-- The value of a key. -/
def find? (map : SortedMap α) (key : String) : Option α :=
  map.entries.lookup key

/-- Whether a key has a value. -/
def contains (map : SortedMap α) (key : String) : Bool :=
  (map.find? key).isSome

/-- The map filled with pairs one after another; a later pair of a key replaces an earlier one. -/
def ofList (pairs : List (String × α)) : SortedMap α :=
  pairs.foldl (fun map pair => map.insert pair.1 pair.2) empty

theorem lookup_insertEntry (key other : String) (value : α) :
    ∀ entries : List (String × α),
      (insertEntry key value entries).lookup other =
        if other == key then some value else entries.lookup other := by
  intro entries
  induction entries with
  | nil =>
      by_cases h : other == key <;> simp [insertEntry, List.lookup_cons, h]
  | cons entry rest ih =>
      obtain ⟨head, kept⟩ := entry
      simp only [insertEntry]
      by_cases same : (key == head) = true
      · have keyEq : key = head := by simpa using same
        subst keyEq
        simp only [BEq.rfl, if_true]
        by_cases h : (other == key) = true
        · simp [List.lookup_cons, h]
        · simp [List.lookup_cons, h]
      · simp only [same, if_false, Bool.false_eq_true]
        by_cases before : key < head
        · simp only [before, if_true]
          by_cases h : (other == key) = true
          · simp [List.lookup_cons, h]
          · simp [List.lookup_cons, h]
        · simp only [before, if_false]
          by_cases h : (other == head) = true
          · have otherEq : other = head := by simpa using h
            subst otherEq
            have differ : (other == key) = false := by
              rw [BEq.comm]
              simpa using same
            simp [differ]
          · simp [List.lookup_cons, h, ih]

/-- Reading after writing: the key written has its new value, all others are as before. -/
theorem find?_insert (map : SortedMap α) (key other : String) (value : α) :
    (map.insert key value).find? other =
      if other == key then some value else map.find? other :=
  lookup_insertEntry key other value map.entries

end SortedMap

end Landform
