import Storefront.Proofs.Deliveries

/-! # What is kept, key by key

A lock stands for a store or an order, and what is kept under it is a *record*.  Seen in this
way, stores and orders are two sides of one thing: keeping a record changes what is under its
own key and nothing else (`Repositories.record?_keep`), and what is under every key, together
with the order in which the keys were first written, determines stores and orders
(`Repositories.eq_of_record?`).
-/
namespace Storefront

/-- What is kept under a key. -/
inductive Record where
  | store (s : Store)
  | order (o : Order)

namespace Record

/-- The key that a record is kept under. -/
def key : Record → LockKey
  | store s => .store s.id
  | order o => .order o.id

/-- The record as it is kept. -/
def settled : Record → Record
  | store s => .store s.settled
  | order o => .order o.settled

end Record

namespace Repositories

variable {r r' r'' : Repositories} {key : LockKey} {w : Record} {ws : List Record}

/-- What is kept under a key. -/
def record? (r : Repositories) : LockKey → Option Record
  | .store id => (r.stores.get? id).map .store
  | .order id => (r.orders.get? id).map .order
  | .customer _ => none

/-- Keeps a record. -/
def keep (r : Repositories) : Record → Repositories
  | .store s => r.saveStore s
  | .order o => r.saveOrder o

/-- Keeps records, one after the other. -/
def keepAll (r : Repositories) (ws : List Record) : Repositories := ws.foldl keep r

theorem keepAll_cons (r : Repositories) (w : Record) (ws : List Record) :
    r.keepAll (w :: ws) = (r.keep w).keepAll ws := rfl

theorem keepAll_snoc (r : Repositories) (ws : List Record) (w : Record) :
    r.keepAll (ws ++ [w]) = (r.keepAll ws).keep w := by
  rw [keepAll, List.foldl_append]
  rfl

/-- **Keeping a record changes what is under its own key, and nothing else.** -/
theorem record?_keep (r : Repositories) (w : Record) (key : LockKey) :
    (r.keep w).record? key = if key = w.key then some w.settled else r.record? key := by
  cases w with
  | store s =>
    cases key with
    | store id =>
      show ((r.stores.insert s.id s.settled).get? id).map Record.store =
        if LockKey.store id = LockKey.store s.id then some (.store s.settled)
        else (r.stores.get? id).map .store
      rw [Table.get?_insert]
      by_cases h : id = s.id
      · subst h
        rw [if_pos rfl, if_pos rfl]
        rfl
      · rw [if_neg h, if_neg fun he => h (LockKey.store.inj he)]
    | order id => rfl
    | customer id => rfl
  | order o =>
    cases key with
    | store id => rfl
    | order id =>
      show ((r.orders.insert o.id o.settled).get? id).map Record.order =
        if LockKey.order id = LockKey.order o.id then some (.order o.settled)
        else (r.orders.get? id).map .order
      rw [Table.get?_insert]
      by_cases h : id = o.id
      · subst h
        rw [if_pos rfl, if_pos rfl]
        rfl
      · rw [if_neg h, if_neg fun he => h (LockKey.order.inj he)]
    | customer id => rfl

theorem record?_keep_of_ne (r : Repositories) (h : key ≠ w.key) :
    (r.keep w).record? key = r.record? key := by rw [record?_keep, if_neg h]

/-- Records that are kept elsewhere make no difference to a key. -/
theorem record?_keepAll_of_ne (r : Repositories) (h : ∀ w ∈ ws, w.key ≠ key) :
    (r.keepAll ws).record? key = r.record? key := by
  induction ws generalizing r with
  | nil => rfl
  | cons w ws ih =>
    rw [keepAll_cons, ih _ fun v hv => h v (List.mem_cons_of_mem _ hv),
      record?_keep_of_ne r (h w (List.mem_cons_self ..)).symm]

/-- What is under a key in the end depends on what was under it, and on nothing else. -/
theorem record?_keepAll_congr (h : r'.record? key = r.record? key) (ws : List Record) :
    (r'.keepAll ws).record? key = (r.keepAll ws).record? key := by
  induction ws generalizing r r' with
  | nil => exact h
  | cons w ws ih =>
    refine ih ?_
    rw [record?_keep, record?_keep, h]

theorem customers_keepAll (r : Repositories) (ws : List Record) :
    (r.keepAll ws).customers = r.customers := by
  induction ws generalizing r with
  | nil => rfl
  | cons w ws ih =>
    rw [keepAll_cons, ih]
    cases w <;> rfl

theorem activity_keepAll (r : Repositories) (ws : List Record) :
    (r.keepAll ws).activity = r.activity := by
  funext id
  rw [activity, activity, customers_keepAll]

/-! ### The order of the keys -/

/-- The keys of two repositories were written in the same order. -/
structure SameKeys (r r' : Repositories) : Prop where
  stores : r'.stores.keys = r.stores.keys
  orders : r'.orders.keys = r.orders.keys

theorem SameKeys.refl (r : Repositories) : SameKeys r r := ⟨rfl, rfl⟩

theorem SameKeys.trans (h : SameKeys r r') (h' : SameKeys r' r'') : SameKeys r r'' :=
  ⟨h'.stores.trans h.stores, h'.orders.trans h.orders⟩

theorem SameKeys.symm (h : SameKeys r r') : SameKeys r' r := ⟨h.stores.symm, h.orders.symm⟩

theorem record?_ne_none_iff : r.record? key ≠ none ↔
    (∃ id ∈ r.stores.keys, key = .store id) ∨ ∃ id ∈ r.orders.keys, key = .order id := by
  cases key with
  | store id =>
    have hkey : r.record? (.store id) ≠ none ↔ id ∈ r.stores.keys := by
      rw [record?, ne_eq, Option.map_eq_none_iff, Table.get?_eq_none_iff, Classical.not_not]
    simp [hkey]
  | order id =>
    have hkey : r.record? (.order id) ≠ none ↔ id ∈ r.orders.keys := by
      rw [record?, ne_eq, Option.map_eq_none_iff, Table.get?_eq_none_iff, Classical.not_not]
    simp [hkey]
  | customer id => simp [record?]

/-- Where the keys are the same, there is something under the same keys. -/
theorem SameKeys.record?_eq_none_iff (h : SameKeys r r') :
    r'.record? key = none ↔ r.record? key = none := by
  have hiff : r'.record? key ≠ none ↔ r.record? key ≠ none := by
    rw [record?_ne_none_iff, record?_ne_none_iff, h.stores, h.orders]
  exact not_iff_not.mp hiff

/-- Writing over a record leaves the keys in their places. -/
theorem sameKeys_keep (h : r.record? w.key ≠ none) : SameKeys r (r.keep w) := by
  rw [record?_ne_none_iff] at h
  cases w with
  | store s =>
    rcases h with ⟨id, hm, he⟩ | ⟨id, _, he⟩
    · cases he
      exact ⟨Table.keys_insert_of_mem hm _, rfl⟩
    · cases he
  | order o =>
    rcases h with ⟨id, _, he⟩ | ⟨id, hm, he⟩
    · cases he
    · cases he
      exact ⟨rfl, Table.keys_insert_of_mem hm _⟩

theorem sameKeys_keepAll (h : ∀ w ∈ ws, r.record? w.key ≠ none) : SameKeys r (r.keepAll ws) := by
  induction ws generalizing r with
  | nil => exact SameKeys.refl r
  | cons w ws ih =>
    have hw := sameKeys_keep (h w (List.mem_cons_self ..))
    refine hw.trans (ih fun v hv => ?_)
    rw [ne_eq, hw.record?_eq_none_iff]
    exact h v (List.mem_cons_of_mem _ hv)

/-- A key that is inserted takes the same place in tables with the same keys. -/
theorem keys_insert_congr {κ ν : Type} [DecidableEq κ] {t u : Table κ ν} (h : u.keys = t.keys)
    (key : κ) (value : ν) : (u.insert key value).keys = (t.insert key value).keys := by
  by_cases hm : key ∈ t.keys
  · rw [Table.keys_insert_of_mem hm, Table.keys_insert_of_mem (h ▸ hm), h]
  · rw [Table.keys_insert_of_not_mem hm, Table.keys_insert_of_not_mem (h ▸ hm), h]

theorem SameKeys.keep (h : SameKeys r r') (w : Record) : SameKeys (r.keep w) (r'.keep w) := by
  cases w with
  | store s => exact ⟨keys_insert_congr h.stores _ _, h.orders⟩
  | order o => exact ⟨h.stores, keys_insert_congr h.orders _ _⟩

theorem SameKeys.keepAll (h : SameKeys r r') (ws : List Record) :
    SameKeys (r.keepAll ws) (r'.keepAll ws) := by
  induction ws generalizing r r' with
  | nil => exact h
  | cons w ws ih => exact ih (h.keep w)

theorem record?_congr (hs : r'.stores = r.stores) (ho : r'.orders = r.orders) (key : LockKey) :
    r'.record? key = r.record? key := by
  cases key with
  | store id => rw [record?, record?, hs]
  | order id => rw [record?, record?, ho]
  | customer id => rfl

theorem sameKeys_of_eq (hs : r'.stores = r.stores) (ho : r'.orders = r.orders) : SameKeys r' r :=
  ⟨by rw [hs], by rw [ho]⟩

/-- **Keys and records determine stores and orders.** -/
theorem eq_of_record? (hk : SameKeys r r') (hr : ∀ key, r'.record? key = r.record? key) :
    r'.stores = r.stores ∧ r'.orders = r.orders := by
  constructor
  · refine Table.ext_of_get? hk.stores fun id => ?_
    have hid := hr (.store id)
    exact (Option.map_inj_right fun _ _ => Record.store.inj).mp hid
  · refine Table.ext_of_get? hk.orders fun id => ?_
    have hid := hr (.order id)
    exact (Option.map_inj_right fun _ _ => Record.order.inj).mp hid

end Repositories

end Storefront
