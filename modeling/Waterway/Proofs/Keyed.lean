import Waterway.Keyed

/-!
# Look-up after a change of a keyed list

What `Keyed.update`, `Keyed.put` and `Keyed.erase` do to the entries of a list, as far as the order of the
entries does not matter: the changed entry, and beside it everything that was not under its key.

## Main definitions

- `under` — the entries under a key, in order

## Main statements

- `lookup_update`, `lookup_put`, `lookup_erase` — a change reaches its key and no other
- `erase_update`, `erase_put` — the entries under other keys stay when one is changed or added
- `perm_erase` — a list is the entry of a key beside the entries under other keys
- `mem_under`, `under_append` — the entries under a key
- `getElem?_set_eq_some`, `getElem?_concat_eq_some` — the same for places in a list
-/

namespace Waterway

variable {κ α : Type} [BEq κ] [LawfulBEq κ]

/-- A row is found under a key that no other row has. -/
theorem find?_of_mem {key : α → κ} {rows : List α} (hnodup : (rows.map key).Nodup) {r : α} (hr : r ∈ rows) :
    rows.find? (key · == key r) = some r := by
  induction rows with
  | nil => exact absurd hr List.not_mem_nil
  | cons first rest ih =>
    obtain ⟨habsent, hrest⟩ := List.nodup_cons.mp hnodup
    rcases List.mem_cons.mp hr with rfl | htail
    · exact List.find?_cons_of_pos (beq_self_eq_true _)
    · have hne : key first ≠ key r := by
        intro heq
        exact habsent (heq ▸ List.mem_map_of_mem htail)
      rw [List.find?_cons_of_neg (by simpa using hne)]
      exact ih hrest htail

omit [BEq κ] [LawfulBEq κ] in
/-- One entry is replaced, and the others are where they were. -/
theorem getElem?_set_eq_some {xs : List α} {i j : Nat} {x y : α} (h : (xs.set i x)[j]? = some y) :
    (j = i ∧ y = x) ∨ (j ≠ i ∧ xs[j]? = some y) := by
  rw [List.getElem?_set] at h
  split at h
  · next hij =>
    split at h
    · cases h
      exact .inl ⟨hij.symm, rfl⟩
    · cases h
  · next hij => exact .inr ⟨Ne.symm hij, h⟩

omit [BEq κ] [LawfulBEq κ] in
/-- One entry is added, and the others are where they were. -/
theorem getElem?_concat_eq_some {xs : List α} {j : Nat} {x y : α} (h : (xs ++ [x])[j]? = some y) :
    (j = xs.length ∧ y = x) ∨ (j < xs.length ∧ xs[j]? = some y) := by
  rcases Nat.lt_trichotomy j xs.length with hlt | rfl | hgt
  · rw [List.getElem?_append_left hlt] at h
    exact .inr ⟨hlt, h⟩
  · rw [List.getElem?_concat_length] at h
    cases h
    exact .inl ⟨rfl, rfl⟩
  · have hnone : (xs ++ [x])[j]? = none := List.getElem?_eq_none (by simp; omega)
    rw [hnone] at h
    cases h

namespace Keyed

/-- An entry that is changed and given another name is found under that name. -/
theorem lookup_map {κ' β : Type} [BEq κ'] [LawfulBEq κ'] {g : κ → κ'} (hg : g.Injective) (f : α → β) (key : κ)
    (entries : List (κ × α)) :
    (entries.map fun e => (g e.1, f e.2)).lookup (g key) = (entries.lookup key).map f := by
  induction entries with
  | nil => rfl
  | cons e rest ih =>
    obtain ⟨k, v⟩ := e
    by_cases h : key = k
    · simp [h]
    · have hname : g key ≠ g k := fun heq => h (hg heq)
      simp [List.lookup_cons, beq_false_of_ne h, beq_false_of_ne hname, ih]

/-- A change reaches its key and no other. -/
theorem lookup_update [DecidableEq κ] (key other : κ) (f : α → α) (entries : List (κ × α)) :
    (update key f entries).lookup other =
      if other = key then (entries.lookup other).map f else entries.lookup other := by
  induction entries with
  | nil => simp [update]
  | cons e rest ih =>
    obtain ⟨k, v⟩ := e
    have ih' : (List.map (fun x : κ × α => if x.1 == key then (x.1, f x.2) else (x.1, x.2)) rest).lookup
        other = _ := ih
    by_cases hother : other = k
    · subst hother
      by_cases hkey : other = key <;> simp [update, hkey]
    · by_cases hkey : k = key
      · subst hkey
        simpa [update, List.lookup_cons, beq_false_of_ne hother, hother] using ih'
      · simpa [update, List.lookup_cons, beq_false_of_ne hother, hkey] using ih'

theorem lookup_put [DecidableEq κ] (key other : κ) (value : α) (entries : List (κ × α)) :
    (put key value entries).lookup other = if other = key then some value else entries.lookup other := by
  by_cases h : other = key
  · rw [if_pos h, h, lookup_put_self]
  · rw [if_neg h, lookup_put_of_ne h]

theorem lookup_erase [DecidableEq κ] (key other : κ) (entries : List (κ × α)) :
    (erase key entries).lookup other = if other = key then none else entries.lookup other := by
  induction entries with
  | nil => simp [erase]
  | cons e rest ih =>
    obtain ⟨k, v⟩ := e
    by_cases hkey : k = key
    · subst hkey
      have herase : erase k ((k, v) :: rest) = erase k rest := by simp [erase]
      rw [herase, ih]
      by_cases hother : other = k
      · rw [if_pos hother, if_pos hother]
      · rw [if_neg hother, if_neg hother, List.lookup_cons, beq_false_of_ne hother]
    · have herase : erase key ((k, v) :: rest) = (k, v) :: erase key rest := by simp [erase, hkey]
      rw [herase, List.lookup_cons, List.lookup_cons, ih]
      by_cases hother : other = k
      · subst hother
        simp [hkey]
      · rw [beq_false_of_ne hother]

omit [LawfulBEq κ] in
@[simp]
theorem map_fst_update (key : κ) (f : α → α) (entries : List (κ × α)) :
    (update key f entries).map Prod.fst = entries.map Prod.fst := by
  rw [update, List.map_map]
  apply List.map_congr_left
  rintro ⟨k, v⟩ -
  by_cases h : k == key <;> simp [h]

omit [LawfulBEq κ] in
theorem update_id (key : κ) (entries : List (κ × α)) : update key id entries = entries := by
  have hsame : ∀ e ∈ entries, (if e.1 == key then (e.1, id e.2) else (e.1, e.2)) = e := by
    rintro ⟨k, v⟩ -
    by_cases h : k == key <;> simp [h]
  exact (List.map_congr_left hsame).trans (List.map_id' entries)

omit [LawfulBEq κ] in
theorem update_update (key : κ) (f g : α → α) (entries : List (κ × α)) :
    update key g (update key f entries) = update key (g ∘ f) entries := by
  rw [update, update, update, List.map_map]
  apply List.map_congr_left
  rintro ⟨k, v⟩ -
  by_cases h : k == key <;> simp [h]

/-- Among distinct keys an entry is found under its key. -/
theorem lookup_of_mem {key : κ} {value : α} {entries : List (κ × α)}
    (hnodup : (entries.map Prod.fst).Nodup) (hmem : (key, value) ∈ entries) :
    entries.lookup key = some value := by
  induction entries with
  | nil => exact absurd hmem List.not_mem_nil
  | cons e rest ih =>
    obtain ⟨k, v⟩ := e
    obtain ⟨habsent, hrest⟩ := List.nodup_cons.mp hnodup
    rcases List.mem_cons.mp hmem with heq | htail
    · cases heq
      simp
    · have hne : key ≠ k := by
        rintro rfl
        exact habsent (List.mem_map.mpr ⟨(key, value), htail, rfl⟩)
      rw [List.lookup_cons, beq_false_of_ne hne]
      exact ih hrest htail

theorem erase_eq_self {key : κ} {entries : List (κ × α)} (habsent : key ∉ entries.map Prod.fst) :
    erase key entries = entries := by
  rw [erase, List.filter_eq_self]
  rintro ⟨k, v⟩ hmem
  have hne : k ≠ key := by
    rintro rfl
    exact habsent (List.mem_map.mpr ⟨(k, v), hmem, rfl⟩)
  simp [hne]

/-- An entry that is found under its key stands beside all entries under other keys. -/
theorem perm_of_lookup {key : κ} {value : α} {entries : List (κ × α)}
    (hnodup : (entries.map Prod.fst).Nodup) (hlookup : entries.lookup key = some value) :
    entries.Perm ((key, value) :: erase key entries) := by
  induction entries with
  | nil => simp at hlookup
  | cons e rest ih =>
    obtain ⟨k, v⟩ := e
    obtain ⟨habsent, hrest⟩ := List.nodup_cons.mp hnodup
    by_cases hkey : key = k
    · subst hkey
      have hvalue : v = value := by simpa using hlookup
      have herase : erase key ((key, v) :: rest) = erase key rest := by simp [erase]
      rw [herase, erase_eq_self habsent, hvalue]
    · have htail : rest.lookup key = some value := by
        simpa [List.lookup_cons, beq_false_of_ne hkey] using hlookup
      have herase : erase key ((k, v) :: rest) = (k, v) :: erase key rest := by
        simp [erase, Ne.symm hkey]
      rw [herase]
      exact ((ih hrest htail).cons (k, v)).trans (List.Perm.swap _ _ _)

/-- Erasing a key forgets a change of its entry. -/
theorem erase_update (key : κ) (f : α → α) (entries : List (κ × α)) :
    erase key (update key f entries) = erase key entries := by
  induction entries with
  | nil => rfl
  | cons e rest ih =>
    obtain ⟨k, v⟩ := e
    by_cases h : k = key
    · simpa [erase, update, h] using ih
    · simpa [erase, update, h] using ih

theorem mem_map_fst_put {key other : κ} {value : α} {entries : List (κ × α)} :
    other ∈ (put key value entries).map Prod.fst ↔ other = key ∨ other ∈ entries.map Prod.fst := by
  induction entries with
  | nil => simp [put]
  | cons e rest ih =>
    obtain ⟨k, v⟩ := e
    by_cases h : k = key
    · simp [put, h]
    · simp only [put, beq_false_of_ne h, Bool.false_eq_true, if_false, List.map_cons, List.mem_cons, ih]
      exact or_left_comm

theorem nodup_map_fst_put {key : κ} (value : α) {entries : List (κ × α)}
    (hnodup : (entries.map Prod.fst).Nodup) : ((put key value entries).map Prod.fst).Nodup := by
  induction entries with
  | nil => simp [put]
  | cons e rest ih =>
    obtain ⟨k, v⟩ := e
    obtain ⟨habsent, hrest⟩ := List.nodup_cons.mp hnodup
    by_cases h : k = key
    · subst h
      simpa [put] using hnodup
    · simp only [put, beq_false_of_ne h, Bool.false_eq_true, if_false, List.map_cons, List.nodup_cons]
      refine ⟨?_, ih hrest⟩
      rw [mem_map_fst_put]
      rintro (rfl | hmem)
      · exact h rfl
      · exact habsent hmem

omit [LawfulBEq κ] in
theorem nodup_map_fst_erase (key : κ) {entries : List (κ × α)} (hnodup : (entries.map Prod.fst).Nodup) :
    ((erase key entries).map Prod.fst).Nodup :=
  (List.filter_sublist.map Prod.fst).nodup hnodup

omit [LawfulBEq κ] in
/-- The entries of a list are those that it had and the one that was added. -/
theorem eq_or_mem_of_mem_put {key : κ} {value : α} {entries : List (κ × α)} {e : κ × α}
    (h : e ∈ put key value entries) : e = (key, value) ∨ e ∈ entries := by
  induction entries with
  | nil => exact .inl (List.mem_singleton.mp h)
  | cons first rest ih =>
    obtain ⟨k, v⟩ := first
    rw [put] at h
    split at h
    · exact (List.mem_cons.mp h).imp_right (List.mem_cons_of_mem _)
    · rcases List.mem_cons.mp h with rfl | hrest
      · exact .inr List.mem_cons_self
      · exact (ih hrest).imp_right (List.mem_cons_of_mem _)

theorem erase_put (key : κ) (value : α) (entries : List (κ × α)) :
    erase key (put key value entries) = erase key entries := by
  induction entries with
  | nil => simp [put, erase]
  | cons e rest ih =>
    obtain ⟨k, v⟩ := e
    by_cases h : k = key
    · simp [put, erase, h]
    · simpa [put, erase, h] using ih

/-- The entry of a key, if there is one, stands beside all entries under other keys. -/
theorem perm_erase (key : κ) {entries : List (κ × α)} (hnodup : (entries.map Prod.fst).Nodup) :
    entries.Perm (((entries.lookup key).map (key, ·)).toList ++ erase key entries) := by
  cases hlookup : entries.lookup key with
  | some value => exact perm_of_lookup hnodup hlookup
  | none =>
    have habsent : key ∉ entries.map Prod.fst := by
      intro hmem
      obtain ⟨⟨k, v⟩, hentry, rfl⟩ := List.mem_map.mp hmem
      simpa using List.lookup_eq_none_iff.mp hlookup (k, v) hentry
    rw [erase_eq_self habsent]
    exact List.Perm.refl entries

/-- The entries under a key, in order. -/
def under [DecidableEq κ] (key : κ) (entries : List (κ × α)) : List α :=
  entries.filterMap fun e => if e.1 = key then some e.2 else none

section Under

variable [DecidableEq κ] {key : κ} {value : α} {entries : List (κ × α)}
omit [BEq κ] [LawfulBEq κ]

@[simp]
theorem mem_under : value ∈ under key entries ↔ (key, value) ∈ entries := by
  rw [under, List.mem_filterMap]
  constructor
  · rintro ⟨⟨k, v⟩, hmem, heq⟩
    split at heq
    · next hkey =>
      cases heq
      exact hkey ▸ hmem
    · cases heq
  · intro hmem
    exact ⟨(key, value), hmem, if_pos rfl⟩

theorem under_cons_self (key : κ) (value : α) (entries : List (κ × α)) :
    under key ((key, value) :: entries) = value :: under key entries := by
  simp [under]

theorem under_cons_of_ne {other : κ} (h : other ≠ key) (value : α) (entries : List (κ × α)) :
    under key ((other, value) :: entries) = under key entries := by
  simp [under, h]

theorem under_append (key : κ) (entries later : List (κ × α)) :
    under key (entries ++ later) = under key entries ++ under key later :=
  List.filterMap_append

theorem under_concat_self (key : κ) (value : α) (entries : List (κ × α)) :
    under key (entries ++ [(key, value)]) = under key entries ++ [value] := by
  simp [under]

theorem under_concat_of_ne {other : κ} (h : other ≠ key) (value : α) (entries : List (κ × α)) :
    under key (entries ++ [(other, value)]) = under key entries := by
  simp [under, h]

theorem under_map_self (key : κ) (values : List α) : under key (values.map (key, ·)) = values := by
  induction values with
  | nil => rfl
  | cons value values ih =>
    rw [under, List.map_cons, List.filterMap_cons, if_pos rfl]
    exact congrArg (value :: ·) ih

theorem under_map_of_ne {other : κ} (h : other ≠ key) (values : List α) :
    under key (values.map (other, ·)) = [] := by
  simp [under, h]

end Under

end Keyed

end Waterway
