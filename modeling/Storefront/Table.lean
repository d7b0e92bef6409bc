/-! # Tables

A table gives values to keys.  It is a list of entries in the order in which their
keys were first written; no key stands twice, which is part of the type.
-/
namespace Storefront

/-- Values by key, no key twice. -/
structure Table (κ ν : Type) where
  entries : List (κ × ν)
  nodup : (entries.map Prod.fst).Nodup

namespace Table

variable {κ ν : Type}

/-- The table without entries. -/
def empty : Table κ ν := ⟨[], List.nodup_nil⟩

instance : Inhabited (Table κ ν) := ⟨empty⟩

/-- The keys, in the order in which they were first written. -/
def keys (t : Table κ ν) : List κ := t.entries.map Prod.fst

/-- The values, in the order of their keys. -/
def values (t : Table κ ν) : List ν := t.entries.map Prod.snd

/-- The number of entries. -/
def size (t : Table κ ν) : Nat := t.entries.length

variable [DecidableEq κ]

/-- The value that a list of entries gives to a key. -/
def lookup (key : κ) : List (κ × ν) → Option ν
  | [] => none
  | (k, v) :: rest => if k = key then some v else lookup key rest

/-- The entries with one of them written over, or with one more at the end. -/
def write (key : κ) (value : ν) : List (κ × ν) → List (κ × ν)
  | [] => [(key, value)]
  | (k, v) :: rest => if k = key then (key, value) :: rest else (k, v) :: write key value rest

theorem mem_keys_write {key k : κ} {value : ν} {entries : List (κ × ν)} :
    k ∈ (write key value entries).map Prod.fst ↔ k = key ∨ k ∈ entries.map Prod.fst := by
  induction entries with
  | nil => simp [write]
  | cons e rest ih =>
    obtain ⟨k', v'⟩ := e
    by_cases h : k' = key
    · subst h
      simp [write]
    · simp only [write, if_neg h, List.map_cons, List.mem_cons, ih]
      constructor
      · rintro (h | h | h) <;> simp [h]
      · rintro (h | h | h) <;> simp [h]

theorem nodup_keys_write {key : κ} {value : ν} {entries : List (κ × ν)}
    (h : (entries.map Prod.fst).Nodup) : ((write key value entries).map Prod.fst).Nodup := by
  induction entries with
  | nil => simp [write]
  | cons e rest ih =>
    obtain ⟨k', v'⟩ := e
    simp only [List.map_cons, List.nodup_cons] at h
    by_cases hk : k' = key
    · subst hk
      simp only [write, if_pos, List.map_cons, List.nodup_cons]
      exact h
    · simp only [write, if_neg hk, List.map_cons, List.nodup_cons]
      refine ⟨?_, ih h.2⟩
      intro hm
      rcases mem_keys_write.mp hm with hm | hm
      · exact hk hm
      · exact h.1 hm

/-- The value of a key. -/
def get? (t : Table κ ν) (key : κ) : Option ν := lookup key t.entries

/-- The table with a value written for a key. -/
def insert (t : Table κ ν) (key : κ) (value : ν) : Table κ ν :=
  ⟨write key value t.entries, nodup_keys_write t.nodup⟩

/-- The table of a list of entries, of which later ones write over earlier ones. -/
def ofList (entries : List (κ × ν)) : Table κ ν :=
  entries.foldl (fun t e => t.insert e.1 e.2) empty

theorem lookup_write_self (key : κ) (value : ν) (entries : List (κ × ν)) :
    lookup key (write key value entries) = some value := by
  induction entries with
  | nil => simp [write, lookup]
  | cons e rest ih =>
    obtain ⟨k, v⟩ := e
    by_cases h : k = key <;> simp [write, lookup, h, ih]

theorem lookup_write_of_ne {key other : κ} (h : other ≠ key) (value : ν)
    (entries : List (κ × ν)) : lookup other (write key value entries) = lookup other entries := by
  induction entries with
  | nil => simp [write, lookup, Ne.symm h]
  | cons e rest ih =>
    obtain ⟨k, v⟩ := e
    by_cases hk : k = key
    · subst hk
      simp [write, lookup, Ne.symm h]
    · by_cases ho : k = other
      · subst ho
        simp [write, lookup, h]
      · simp [write, lookup, hk, ho, ih]

@[simp] theorem get?_empty (key : κ) : (empty : Table κ ν).get? key = none := rfl

@[simp] theorem get?_insert_self (t : Table κ ν) (key : κ) (value : ν) :
    (t.insert key value).get? key = some value := lookup_write_self key value t.entries

theorem get?_insert_of_ne (t : Table κ ν) {key other : κ} (h : other ≠ key) (value : ν) :
    (t.insert key value).get? other = t.get? other := lookup_write_of_ne h value t.entries

/-- **Writing a value changes what one key has and nothing else.** -/
theorem get?_insert (t : Table κ ν) (key other : κ) (value : ν) :
    (t.insert key value).get? other = if other = key then some value else t.get? other := by
  by_cases h : other = key
  · subst h
    simp
  · rw [get?_insert_of_ne t h, if_neg h]

end Table

end Storefront
