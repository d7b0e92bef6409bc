import Storefront.Order.Cancellation
import Storefront.Proofs.Refusal
import Storefront.Proofs.Table

/-! # Stock

Each operation on a store is characterised here by what has to be the case for it to be
carried out and by the store that results.  The *stock* of a product is its level as a
natural number, nothing if the store has never had the product; the *tally* of a product
over some entries is how much of it they come to.  Adding and reserving move the stock of
one product by exactly the quantity asked for, and no other operation moves any stock.
-/
namespace Storefront

/-- How much of a product some entries come to. -/
def tally (product : ProductId) (entries : List (ProductId × Count)) : Nat :=
  (entries.map fun e => if e.1 = product then e.2.toNat else 0).sum

@[simp] theorem tally_nil (product : ProductId) : tally product [] = 0 := rfl

@[simp] theorem tally_cons (product : ProductId) (e : ProductId × Count)
    (entries : List (ProductId × Count)) :
    tally product (e :: entries) =
      (if e.1 = product then e.2.toNat else 0) + tally product entries := rfl

theorem tally_append (product : ProductId) (entries entries' : List (ProductId × Count)) :
    tally product (entries ++ entries') = tally product entries + tally product entries' := by
  simp [tally]

theorem tally_eq_zero {product : ProductId} {entries : List (ProductId × Count)}
    (h : product ∉ entries.map Prod.fst) : tally product entries = 0 := by
  induction entries with
  | nil => rfl
  | cons e rest ih =>
    rw [List.map_cons, List.mem_cons, not_or] at h
    rw [tally_cons, if_neg (Ne.symm h.1), ih h.2]

namespace Store

variable {s s' : Store} {id other : ProductId} {quantity : Count}

/-- The level of a product, nothing if there is none. -/
def stock (s : Store) (id : ProductId) : Nat := ((s.inventory.get? id).map UInt32.toNat).getD 0

theorem stock_of_level {level : Count} (h : s.inventory.get? id = some level) :
    s.stock id = level.toNat := by
  rw [stock, h]
  rfl

/-! ### Questions -/

theorem activeProduct_eq_ok_iff {p : Product} :
    s.activeProduct id = .ok p ↔ s.products.get? id = some p ∧ p.active = true := by
  unfold activeProduct product
  cases hp : s.products.get? id with
  | none => simp
  | some p' =>
    cases ha : p'.active with
    | false =>
      simp only [ok_bind, ha, throw_eq_error]
      constructor
      · simp
      · rintro ⟨⟨⟩, h⟩
        exact absurd h (by simp [ha])
    | true =>
      simp only [ok_bind, ha, if_true, pure_eq_ok, Except.ok.injEq, Option.some.injEq]
      constructor
      · rintro rfl
        exact ⟨rfl, ha⟩
      · exact fun h => h.1

theorem available_eq_ok_iff {level : Count} :
    s.available id = .ok level ↔ s.inventory.get? id = some level := by
  unfold available
  cases s.inventory.get? id <;> simp

theorem levelFor_eq_ok_iff {level : Count} :
    s.levelFor id quantity = .ok level ↔
      quantity ≠ 0 ∧ (∃ p, s.products.get? id = some p ∧ p.active = true) ∧
        s.inventory.get? id = some level := by
  unfold levelFor
  by_cases hq : quantity = 0
  · simp [hq]
  · simp only [hq, if_false, bind_eq_ok_iff, activeProduct_eq_ok_iff, available_eq_ok_iff]
    constructor
    · rintro ⟨p, hp, hl⟩
      exact ⟨hq, ⟨p, hp⟩, hl⟩
    · rintro ⟨_, ⟨p, hp⟩, hl⟩
      exact ⟨p, hp, hl⟩

/-! ### Stock -/

theorem addInventory_eq_ok_iff :
    s.addInventory id quantity = .ok s' ↔
      ∃ level sum, s.levelFor id quantity = .ok level ∧ sum.toNat = level.toNat + quantity.toNat ∧
        s' = { s with inventory := s.inventory.insert id sum }.raise
          (.inventoryAdded s.id id quantity sum) := by
  unfold addInventory
  rw [bind_eq_ok_iff]
  constructor
  · rintro ⟨level, hl, h⟩
    cases hsum : level.add? quantity with
    | none => simp [hsum] at h
    | some sum =>
      rw [hsum] at h
      cases h
      exact ⟨level, sum, hl, Count.add?_eq_some_iff.mp hsum, rfl⟩
  · rintro ⟨level, sum, hl, hsum, rfl⟩
    refine ⟨level, hl, ?_⟩
    rw [Count.add?_eq_some_iff.mpr hsum]
    rfl

theorem reserve_eq_ok_iff :
    s.reserve id quantity = .ok s' ↔
      ∃ level, s.levelFor id quantity = .ok level ∧ quantity ≤ level ∧
        s' = { s with inventory := s.inventory.insert id (level - quantity) }.raise
          (.inventoryReserved s.id id quantity (level - quantity)) := by
  unfold reserve
  rw [bind_eq_ok_iff]
  constructor
  · rintro ⟨level, hl, h⟩
    by_cases hlt : level < quantity
    · simp [hlt] at h
    · rw [if_neg hlt] at h
      cases h
      exact ⟨level, hl, UInt32.not_lt.mp hlt, rfl⟩
  · rintro ⟨level, hl, hle, rfl⟩
    refine ⟨level, hl, ?_⟩
    rw [if_neg (UInt32.not_lt.mpr hle)]
    rfl

/-- The stores differ in nothing but stock and news. -/
structure SameCatalogue (s s' : Store) : Prop where
  id_eq : s'.id = s.id
  name_eq : s'.name = s.name
  location_eq : s'.location = s.location
  currency_eq : s'.currency = s.currency
  products_eq : s'.products = s.products
  keys_eq : s'.inventory.keys = s.inventory.keys

theorem SameCatalogue.refl (s : Store) : SameCatalogue s s := ⟨rfl, rfl, rfl, rfl, rfl, rfl⟩

theorem SameCatalogue.trans {s s' s'' : Store} (h : SameCatalogue s s')
    (h' : SameCatalogue s' s'') : SameCatalogue s s'' :=
  ⟨h'.id_eq.trans h.id_eq, h'.name_eq.trans h.name_eq, h'.location_eq.trans h.location_eq,
    h'.currency_eq.trans h.currency_eq, h'.products_eq.trans h.products_eq,
    h'.keys_eq.trans h.keys_eq⟩

theorem stock_of_insert {level : Count} (h : s'.inventory = s.inventory.insert id level)
    (other : ProductId) : s'.stock other = if other = id then level.toNat else s.stock other := by
  unfold stock
  rw [h, Table.get?_insert]
  split <;> rfl

theorem addInventory_sameCatalogue (h : s.addInventory id quantity = .ok s') :
    SameCatalogue s s' := by
  obtain ⟨level, sum, hl, _, rfl⟩ := addInventory_eq_ok_iff.mp h
  exact ⟨rfl, rfl, rfl, rfl, rfl,
    Table.keys_insert_of_mem (Table.mem_keys_of_get? (levelFor_eq_ok_iff.mp hl).2.2) sum⟩

theorem reserve_sameCatalogue (h : s.reserve id quantity = .ok s') : SameCatalogue s s' := by
  obtain ⟨level, hl, _, rfl⟩ := reserve_eq_ok_iff.mp h
  exact ⟨rfl, rfl, rfl, rfl, rfl,
    Table.keys_insert_of_mem (Table.mem_keys_of_get? (levelFor_eq_ok_iff.mp hl).2.2) _⟩

theorem available_of_addInventory (h : s.addInventory id quantity = .ok s') :
    ∃ level, s'.available id = .ok level := by
  obtain ⟨level, sum, _, _, rfl⟩ := addInventory_eq_ok_iff.mp h
  exact ⟨sum, available_eq_ok_iff.mpr (Table.get?_insert_self ..)⟩

/-- **Adding stock raises one level by the quantity**, exactly. -/
theorem stock_addInventory (h : s.addInventory id quantity = .ok s') (other : ProductId) :
    s'.stock other = s.stock other + if id = other then quantity.toNat else 0 := by
  obtain ⟨level, sum, hl, hsum, hs⟩ := addInventory_eq_ok_iff.mp h
  have hlevel := stock_of_level (levelFor_eq_ok_iff.mp hl).2.2
  have hinv : s'.inventory = s.inventory.insert id sum := by rw [hs]; rfl
  rw [stock_of_insert hinv]
  by_cases ho : other = id
  · subst ho
    rw [if_pos rfl, if_pos rfl, hlevel, hsum]
  · rw [if_neg ho, if_neg (Ne.symm ho), Nat.add_zero]

/-- **Setting stock aside lowers one level by the quantity**, exactly. -/
theorem stock_reserve (h : s.reserve id quantity = .ok s') (other : ProductId) :
    s'.stock other + (if id = other then quantity.toNat else 0) = s.stock other := by
  obtain ⟨level, hl, hle, hs⟩ := reserve_eq_ok_iff.mp h
  have hlevel := stock_of_level (levelFor_eq_ok_iff.mp hl).2.2
  have hnat : quantity.toNat ≤ level.toNat := UInt32.le_iff_toNat_le.mp hle
  have hinv : s'.inventory = s.inventory.insert id (level - quantity) := by rw [hs]; rfl
  rw [stock_of_insert hinv]
  by_cases ho : other = id
  · subst ho
    rw [if_pos rfl, if_pos rfl, hlevel, Count.toNat_sub_of_le hle]
    omega
  · rw [if_neg ho, if_neg (Ne.symm ho), Nat.add_zero]

/-! ### The catalogue -/

theorem addProduct_eq_ok_iff {name description : String} {price : Money} {p : Product} :
    s.addProduct id name description price = .ok (p, s') ↔
      ∃ n, ProductName.make name = .ok n ∧ price.currency.code = s.currency ∧
        s.sells n = false ∧ Product.make id n description price = .ok p ∧
        s' = { s with
          products := s.products.insert id p
          inventory := s.inventory.insert id 0 }.raise
            (.productAdded s.id id n.text price) := by
  unfold addProduct
  rw [bind_eq_ok_iff]
  constructor
  · rintro ⟨n, hn, h⟩
    by_cases hc : price.currency.code = s.currency
    · cases hs : s.sells n with
      | true => simp [hc, hs] at h
      | false =>
        simp only [hc, hs, bind_eq_ok_iff, ne_eq, not_true_eq_false, if_false,
          Bool.false_eq_true] at h
        obtain ⟨p', hp, he⟩ := h
        cases he
        exact ⟨n, hn, hc, hs, hp, rfl⟩
    · simp [hc] at h
  · rintro ⟨n, hn, hc, hs, hp, rfl⟩
    refine ⟨n, hn, ?_⟩
    simp [hc, hs, hp]

theorem updatePrice_eq_ok_iff {price : Money} :
    s.updatePrice id price = .ok s' ↔
      ∃ p p', s.activeProduct id = .ok p ∧ p.withPrice price = .ok p' ∧
        s' = { s with products := s.products.insert id p' }.raise
          (.priceUpdated s.id id p.price p'.price) := by
  unfold updatePrice
  simp only [bind_eq_ok_iff, pure_eq_ok, Except.ok.injEq]
  constructor
  · rintro ⟨p, hp, p', hp', rfl⟩
    exact ⟨p, p', hp, hp', rfl⟩
  · rintro ⟨p, p', hp, hp', rfl⟩
    exact ⟨p, hp, p', hp', rfl⟩

theorem product_of_updatePrice {price : Money} (h : s.updatePrice id price = .ok s') :
    ∃ p, s'.product id = .ok p := by
  obtain ⟨p, p', _, _, rfl⟩ := updatePrice_eq_ok_iff.mp h
  refine ⟨p', ?_⟩
  simp [product, raise]

theorem deactivateProduct_eq_ok_iff :
    s.deactivateProduct id = .ok s' ↔
      ∃ p, s.activeProduct id = .ok p ∧
        s' = { s with products := s.products.insert id { p with active := false } }.raise
          (.productDeactivated s.id id) := by
  unfold deactivateProduct
  simp only [bind_eq_ok_iff, pure_eq_ok, Except.ok.injEq]
  constructor
  · rintro ⟨p, hp, rfl⟩
    exact ⟨p, hp, rfl⟩
  · rintro ⟨p, hp, rfl⟩
    exact ⟨p, hp, rfl⟩

end Store

/-! ### Putting stock back -/

/-- The product and the quantity of a line. -/
def OrderLine.entry (l : OrderLine) : ProductId × Count := (l.productId, l.quantity)

/-- The product and the quantity that were put back. -/
def Release.entry (l : Release) : ProductId × Count := (l.product, l.quantity)

/-- The product and the quantity that were not put back. -/
def FailedRelease.entry (l : FailedRelease) : ProductId × Count := (l.product, l.quantity)

/-- How much of a product is on an order. -/
def Order.quantityOf (o : Order) (product : ProductId) : Nat :=
  tally product (o.lines.map OrderLine.entry)

/-- **What is put back is in stock, and every line is put back or noted as failed.** -/
theorem Store.release_spec (s : Store) (lines : List OrderLine) :
    SameCatalogue s (s.release lines).1 ∧
      (∀ p, (s.release lines).1.stock p =
        s.stock p + tally p ((s.release lines).2.1.map Release.entry)) ∧
      ∀ p, tally p ((s.release lines).2.1.map Release.entry) +
          tally p ((s.release lines).2.2.map FailedRelease.entry) =
        tally p (lines.map OrderLine.entry) := by
  induction lines generalizing s with
  | nil => exact ⟨SameCatalogue.refl s, fun _ => rfl, fun _ => rfl⟩
  | cons l rest ih =>
    rw [release]
    cases h : s.addInventory l.productId l.quantity with
    | error e =>
      dsimp only
      have hrest := ih s
      generalize s.release rest = outcome at hrest ⊢
      obtain ⟨s', released, failed⟩ := outcome
      obtain ⟨hc, hs, ht⟩ := hrest
      refine ⟨hc, hs, fun p => ?_⟩
      have hp : tally p (released.map Release.entry) + tally p (failed.map FailedRelease.entry) =
          tally p (rest.map OrderLine.entry) := ht p
      simp only [List.map_cons, tally_cons, OrderLine.entry, FailedRelease.entry, Release.fail,
        OrderLine.release]
      omega
    | ok s₁ =>
      dsimp only
      have hrest := ih s₁
      have hone := stock_addInventory h
      generalize s₁.release rest = outcome at hrest ⊢
      obtain ⟨s', released, failed⟩ := outcome
      obtain ⟨hc, hs, ht⟩ := hrest
      refine ⟨(addInventory_sameCatalogue h).trans hc, fun p => ?_, fun p => ?_⟩
      · have hp : s'.stock p = s₁.stock p + tally p (released.map Release.entry) := hs p
        rw [hone p] at hp
        simp only [List.map_cons, tally_cons, Release.entry, OrderLine.release]
        omega
      · have hp : tally p (released.map Release.entry) +
            tally p (failed.map FailedRelease.entry) = tally p (rest.map OrderLine.entry) := ht p
        simp only [List.map_cons, tally_cons, OrderLine.entry, Release.entry, OrderLine.release]
        omega

end Storefront
