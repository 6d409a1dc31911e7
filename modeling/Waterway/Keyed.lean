/-!
# Lists of keyed entries

Lists of pairs that hold at most one entry per key, in the order in which the keys first came.

## Main definitions

- `Keyed.put` — adds an entry, in place of one with the same key
- `Keyed.erase` — removes the entry of a key
- `Keyed.update` — changes the entry of a key

## Main statements

- `lookup_put_self`, `lookup_put_of_ne` — an added entry is found under its key, and nothing else changes
-/

namespace Waterway.Keyed

variable {κ α : Type} [BEq κ]

/-- Adds an entry, in place of one with the same key. -/
def put (key : κ) (value : α) : List (κ × α) → List (κ × α)
  | [] => [(key, value)]
  | (k, v) :: rest => if k == key then (key, value) :: rest else (k, v) :: put key value rest

/-- The key of an added entry has its value. -/
@[simp]
theorem lookup_put_self [LawfulBEq κ] (key : κ) (value : α) (entries : List (κ × α)) :
    (put key value entries).lookup key = some value := by
  induction entries with
  | nil => simp [put]
  | cons e rest ih =>
    obtain ⟨k, v⟩ := e
    by_cases h : k = key
    · simp [put, h]
    · simp [put, h, List.lookup_cons, beq_false_of_ne (Ne.symm h), ih]

/-- Every other key keeps its value. -/
theorem lookup_put_of_ne [LawfulBEq κ] {key other : κ} (ne : other ≠ key) (value : α)
    (entries : List (κ × α)) : (put key value entries).lookup other = entries.lookup other := by
  induction entries with
  | nil => simp [put, List.lookup_cons, beq_false_of_ne ne]
  | cons e rest ih =>
    obtain ⟨k, v⟩ := e
    by_cases h : k = key
    · simp [put, h, List.lookup_cons, beq_false_of_ne ne]
    · simp [put, h, List.lookup_cons, ih]

/-- Removes the entry of a key. -/
def erase (key : κ) (entries : List (κ × α)) : List (κ × α) :=
  entries.filter fun (k, _) => !(k == key)

/-- Changes the entry of a key, if there is one. -/
def update (key : κ) (f : α → α) (entries : List (κ × α)) : List (κ × α) :=
  entries.map fun (k, v) => if k == key then (k, f v) else (k, v)

end Waterway.Keyed
