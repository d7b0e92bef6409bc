import Storefront.Proofs.Stock

/-! # What every store keeps to

The currency of a store is a code, every product has a stock level and nothing else has,
and every product is known by its own identifier and priced in the currency of the store.
A new store keeps to this, and whatever is done to it then.  Reserving, releasing and
selling may therefore take for granted that what is in the catalogue is in stock.
-/
namespace Storefront.Store

variable {s s' : Store} {id : ProductId} {p : Product}

/-- The store keeps to its form. -/
structure Sound (s : Store) : Prop where
  currency : Currency.isCode s.currency = true
  keys : s.inventory.keys = s.products.keys
  product : ∀ id p, s.products.get? id = some p → p.id = id ∧ p.price.currency.code = s.currency

/-- Stock and news make no difference. -/
theorem Sound.of_sameCatalogue (hs : s.Sound) (h : SameCatalogue s s') : s'.Sound := by
  refine ⟨?_, ?_, ?_⟩
  · rw [h.currency_eq]
    exact hs.currency
  · rw [h.keys_eq, h.products_eq]
    exact hs.keys
  · intro id p hp
    rw [h.products_eq] at hp
    rw [h.currency_eq]
    exact hs.product id p hp

theorem sameCatalogue_settled (s : Store) : SameCatalogue s s.settled :=
  ⟨rfl, rfl, rfl, rfl, rfl, rfl⟩

theorem Sound.settled (hs : s.Sound) : s.settled.Sound :=
  hs.of_sameCatalogue (sameCatalogue_settled s)

/-- **Every product has a level.** -/
theorem Sound.level (hs : s.Sound) (hp : s.products.get? id = some p) :
    ∃ level, s.inventory.get? id = some level := by
  cases hl : s.inventory.get? id with
  | some level => exact ⟨level, rfl⟩
  | none =>
    have hn := Table.get?_eq_none_iff.mp hl
    rw [hs.keys] at hn
    exact absurd (Table.mem_keys_of_get? hp) hn

theorem create_eq_ok {sid : StoreId} {name : String} {location : Address} {currency : String}
    (h : create sid name location currency = .ok s) :
    s.id = sid ∧ s.products = .empty ∧ s.inventory = .empty ∧
      Currency.isCode s.currency = true := by
  unfold create at h
  cases hb : Text.isBlank name with
  | true => simp [hb] at h
  | false =>
    simp only [hb, Bool.false_eq_true, if_false, bind_eq_ok_iff] at h
    obtain ⟨zero, _, he⟩ := h
    cases he
    exact ⟨rfl, rfl, rfl, zero.currency.code_isCode⟩

theorem sound_create {sid : StoreId} {name : String} {location : Address} {currency : String}
    (h : create sid name location currency = .ok s) : s.Sound := by
  obtain ⟨_, hp, hi, hc⟩ := create_eq_ok h
  refine ⟨hc, ?_, ?_⟩
  · rw [hp, hi]
    rfl
  · intro id p hget
    rw [hp] at hget
    cases hget

/-- Writing a product keeps to the form if the product does. -/
theorem Sound.insert_product (hs : s.Sound) (hid : p.id = id)
    (hcur : p.price.currency.code = s.currency) (other : ProductId) (q : Product)
    (hq : (s.products.insert id p).get? other = some q) :
    q.id = other ∧ q.price.currency.code = s.currency := by
  rw [Table.get?_insert] at hq
  by_cases ho : other = id
  · rw [if_pos ho] at hq
    cases hq
    exact ⟨ho ▸ hid, hcur⟩
  · rw [if_neg ho] at hq
    exact hs.product other q hq

theorem make_eq_ok {name : ProductName} {description : String} {price : Money}
    (h : Product.make id name description price = .ok p) :
    p = ⟨id, name, description, price, true⟩ := by
  unfold Product.make at h
  obtain ⟨_, _, he⟩ := bind_eq_ok_iff.mp h
  cases he
  rfl

theorem Sound.addProduct {name description : String} {price : Money} (hs : s.Sound)
    (h : s.addProduct id name description price = .ok (p, s')) : s'.Sound := by
  obtain ⟨n, _, hcur, _, hp, rfl⟩ := addProduct_eq_ok_iff.mp h
  have hprod := make_eq_ok hp
  refine ⟨hs.currency, ?_, hs.insert_product (by rw [hprod]) (by rw [hprod]; exact hcur)⟩
  show (s.inventory.insert id 0).keys = (s.products.insert id p).keys
  by_cases hm : id ∈ s.products.keys
  · rw [Table.keys_insert_of_mem hm, Table.keys_insert_of_mem (hs.keys ▸ hm), hs.keys]
  · rw [Table.keys_insert_of_not_mem hm, Table.keys_insert_of_not_mem (hs.keys ▸ hm), hs.keys]

/-- Writing over a product that is there keeps to the form if the new one does. -/
theorem Sound.overwrite {q : Product} {events : List StoreEvent} (hs : s.Sound)
    (hp : s.products.get? id = some p) (hid : q.id = p.id)
    (hcur : q.price.currency = p.price.currency) :
    Sound { s with products := s.products.insert id q, pending := events } := by
  obtain ⟨hpid, hpcur⟩ := hs.product id p hp
  refine ⟨hs.currency, ?_, hs.insert_product (hid.trans hpid) (by rw [hcur]; exact hpcur)⟩
  exact hs.keys.trans (Table.keys_insert_of_mem (Table.mem_keys_of_get? hp) q).symm

theorem withPrice_eq_ok {price : Money} {p' : Product} (h : p.withPrice price = .ok p') :
    p' = { p with price } ∧ price.currency = p.price.currency := by
  unfold Product.withPrice at h
  obtain ⟨_, _, he⟩ := bind_eq_ok_iff.mp h
  by_cases hc : price.currency = p.price.currency
  · rw [if_pos hc] at he
    cases he
    exact ⟨rfl, hc⟩
  · rw [if_neg hc] at he
    cases he

theorem Sound.updatePrice {price : Money} (hs : s.Sound) (h : s.updatePrice id price = .ok s') :
    s'.Sound := by
  obtain ⟨p, p', hp, hp', rfl⟩ := updatePrice_eq_ok_iff.mp h
  obtain ⟨rfl, hcur⟩ := withPrice_eq_ok hp'
  exact hs.overwrite (activeProduct_eq_ok_iff.mp hp).1 rfl hcur

theorem Sound.deactivateProduct (hs : s.Sound) (h : s.deactivateProduct id = .ok s') :
    s'.Sound := by
  obtain ⟨p, hp, rfl⟩ := deactivateProduct_eq_ok_iff.mp h
  exact hs.overwrite (activeProduct_eq_ok_iff.mp hp).1 rfl rfl

end Storefront.Store
