import Mathlib.Algebra.Order.Ring.Nat
import Storefront.Table

/-! # What tables hold

A table is determined by its keys and by what it gives to each of them.  Writing a value
for a key that is there already leaves the keys as they are; a new key comes last.  Sums
over the values of a table change with each write by the difference that the write makes,
which is stated here without subtraction.
-/
namespace Storefront.Table

variable {κ ν : Type} [DecidableEq κ]

theorem lookup_eq_none_iff {key : κ} {entries : List (κ × ν)} :
    lookup key entries = none ↔ key ∉ entries.map Prod.fst := by
  induction entries with
  | nil => simp [lookup]
  | cons e rest ih =>
    obtain ⟨k, v⟩ := e
    by_cases h : k = key
    · simp [lookup, h]
    · simp only [lookup, if_neg h, ih, List.map_cons, List.mem_cons, not_or]
      exact ⟨fun hr => ⟨fun he => h he.symm, hr⟩, fun hr => hr.2⟩

theorem get?_eq_none_iff {t : Table κ ν} {key : κ} : t.get? key = none ↔ key ∉ t.keys :=
  lookup_eq_none_iff

theorem mem_keys_of_get? {t : Table κ ν} {key : κ} {value : ν} (h : t.get? key = some value) :
    key ∈ t.keys :=
  Classical.byContradiction fun hk => by
    rw [get?_eq_none_iff.mpr hk] at h
    cases h

theorem map_fst_write_of_mem {key : κ} {value : ν} {entries : List (κ × ν)}
    (h : key ∈ entries.map Prod.fst) :
    (write key value entries).map Prod.fst = entries.map Prod.fst := by
  induction entries with
  | nil => cases h
  | cons e rest ih =>
    obtain ⟨k, v⟩ := e
    by_cases hk : k = key
    · simp [write, hk]
    · rw [List.map_cons, List.mem_cons] at h
      simp [write, hk, ih (h.resolve_left fun he => hk he.symm)]

theorem map_fst_write_of_not_mem {key : κ} {value : ν} {entries : List (κ × ν)}
    (h : key ∉ entries.map Prod.fst) :
    (write key value entries).map Prod.fst = entries.map Prod.fst ++ [key] := by
  induction entries with
  | nil => rfl
  | cons e rest ih =>
    obtain ⟨k, v⟩ := e
    rw [List.map_cons, List.mem_cons, not_or] at h
    simp [write, Ne.symm h.1, ih h.2]

/-- Writing over a value keeps the keys in their places. -/
theorem keys_insert_of_mem {t : Table κ ν} {key : κ} (h : key ∈ t.keys) (value : ν) :
    (t.insert key value).keys = t.keys := map_fst_write_of_mem h

/-- A new key comes last. -/
theorem keys_insert_of_not_mem {t : Table κ ν} {key : κ} (h : key ∉ t.keys) (value : ν) :
    (t.insert key value).keys = t.keys ++ [key] := map_fst_write_of_not_mem h

theorem mem_keys_insert {t : Table κ ν} {key k : κ} {value : ν} :
    k ∈ (t.insert key value).keys ↔ k = key ∨ k ∈ t.keys := mem_keys_write

theorem entries_eq_of_lookup_eq {es fs : List (κ × ν)} (hn : (es.map Prod.fst).Nodup)
    (hk : es.map Prod.fst = fs.map Prod.fst) (hl : ∀ k, lookup k es = lookup k fs) : es = fs := by
  induction es generalizing fs with
  | nil => exact (List.map_eq_nil_iff.mp hk.symm).symm
  | cons e rest ih =>
    obtain ⟨k, v⟩ := e
    cases fs with
    | nil => cases hk
    | cons f rest' =>
      obtain ⟨k', v'⟩ := f
      simp only [List.map_cons, List.cons.injEq] at hk
      obtain ⟨rfl, hk⟩ := hk
      rw [List.map_cons, List.nodup_cons] at hn
      have hv : v = v' := by simpa [lookup] using hl k
      have hrest : ∀ x, lookup x rest = lookup x rest' := by
        intro x
        by_cases hx : k = x
        · subst hx
          rw [lookup_eq_none_iff.mpr hn.1, lookup_eq_none_iff.mpr (hk ▸ hn.1)]
        · simpa [lookup, hx] using hl x
      rw [hv, ih hn.2 hk hrest]

/-- **Keys and look-ups determine a table.** -/
theorem ext_of_get? {t u : Table κ ν} (hk : t.keys = u.keys)
    (hg : ∀ key, t.get? key = u.get? key) : t = u := by
  obtain ⟨es, hes⟩ := t
  obtain ⟨fs, hfs⟩ := u
  have : es = fs := entries_eq_of_lookup_eq hes hk hg
  subst this
  rfl

/-- Writing a value where it stands already changes nothing. -/
theorem insert_eq_self {t : Table κ ν} {key : κ} {value : ν} (h : t.get? key = some value) :
    t.insert key value = t := by
  refine ext_of_get? (keys_insert_of_mem (mem_keys_of_get? h) value) fun k => ?_
  rw [get?_insert]
  split
  · rename_i hk
    rw [hk, h]
  · rfl

/-- Of different keys, each has the value that it stands with. -/
theorem mem_iff_lookup_eq {entries : List (κ × ν)} (hn : (entries.map Prod.fst).Nodup) {key : κ}
    {value : ν} : (key, value) ∈ entries ↔ lookup key entries = some value := by
  induction entries with
  | nil => simp [lookup]
  | cons e rest ih =>
    obtain ⟨k, v⟩ := e
    rw [List.map_cons, List.nodup_cons] at hn
    by_cases hk : k = key
    · subst hk
      have hrest : (k, value) ∉ rest := fun hm => hn.1 (List.mem_map.mpr ⟨_, hm, rfl⟩)
      simp [lookup, hrest, eq_comm]
    · rw [List.mem_cons, ih hn.2]
      simp [lookup, hk, Ne.symm hk]

/-- The values are what the keys have. -/
theorem mem_values_iff {t : Table κ ν} {value : ν} :
    value ∈ t.values ↔ ∃ key, t.get? key = some value := by
  simp only [values, List.mem_map, Prod.exists, exists_eq_right, get?, mem_iff_lookup_eq t.nodup]

/-! ### The table of its entries -/

theorem write_of_not_mem {key : κ} {value : ν} {entries : List (κ × ν)}
    (h : key ∉ entries.map Prod.fst) : write key value entries = entries ++ [(key, value)] := by
  induction entries with
  | nil => rfl
  | cons e rest ih =>
    obtain ⟨k, v⟩ := e
    rw [List.map_cons, List.mem_cons, not_or] at h
    simp [write, Ne.symm h.1, ih h.2]

theorem foldl_insert_entries {t : Table κ ν} {entries : List (κ × ν)}
    (h : ((t.entries ++ entries).map Prod.fst).Nodup) :
    (entries.foldl (fun t e => t.insert e.1 e.2) t).entries = t.entries ++ entries := by
  induction entries generalizing t with
  | nil => simp
  | cons e rest ih =>
    have hnew : e.1 ∉ t.entries.map Prod.fst := by
      rw [List.map_append, List.nodup_append] at h
      intro hmem
      exact h.2.2 e.1 hmem e.1 (by simp) rfl
    have hinsert : (t.insert e.1 e.2).entries = t.entries ++ [e] := write_of_not_mem hnew
    rw [List.foldl_cons, ih (by simpa [hinsert] using h), hinsert, List.append_assoc]
    rfl

/-- **A table is the table of its entries.** -/
theorem ofList_entries (t : Table κ ν) : ofList t.entries = t := by
  have hentries : (ofList t.entries).entries = t.entries :=
    foldl_insert_entries (t := empty) (by simpa [empty] using t.nodup)
  cases h : ofList t.entries
  cases t
  simp_all

/-! ### Sums over the values -/

section Sum
variable (f : ν → Nat)

/-- The sum of a quantity over the values. -/
def sum (t : Table κ ν) : Nat := (t.values.map f).sum

/-- A write changes a sum over the entries by what the entry comes to, less what it came to. -/
theorem sum_map_write (g : κ × ν → Nat) (key : κ) (value : ν) (entries : List (κ × ν)) :
    ((write key value entries).map g).sum +
        ((lookup key entries).map fun v => g (key, v)).getD 0 =
      (entries.map g).sum + g (key, value) := by
  induction entries with
  | nil => simp [write, lookup]
  | cons e rest ih =>
    obtain ⟨k, v⟩ := e
    by_cases hk : k = key
    · subst hk
      simp [write, lookup]
      omega
    · simp only [write, lookup, if_neg hk, List.map_cons, List.sum_cons]
      omega

/-- **A write changes a sum by what is written, less what was there.** -/
theorem sum_insert (t : Table κ ν) (key : κ) (value : ν) :
    (t.insert key value).sum f + ((t.get? key).map f).getD 0 = t.sum f + f value := by
  have h := sum_map_write (fun e => f e.2) key value t.entries
  simpa [sum, values, insert, get?, List.map_map, Function.comp_def] using h

end Sum

end Storefront.Table
