import Mathlib.Data.List.Nodup
import Storefront.Proofs.StoreEditing
import Storefront.Service.Supply

/-! # Calls on a store

A store is opened, and then called on in whatever way, however often, and with whatever arguments.
What a call does that is carried out is one of three things (`Store.Does`): it lists a new product,
it revises one that is on sale, or it moves the level of one.  Each of them keeps the store in form
(`Store.Formed`), keeps what is in the catalogue there and what is off sale as it is
(`Store.Keeps`), and moves levels by what it says.  So does any number of calls
(`Store.Formed.carries`), as long as new products are given different identifiers
(`Store.catalogue_upheld`).
-/
namespace Storefront

namespace StoreCall

/-- The identifier that a call brings along for a new product. -/
def fresh? : StoreCall → Option ProductId
  | addProduct fresh .. => some fresh
  | _ => none

/-- How much of a product a call adds. -/
def added (id : ProductId) : StoreCall → Nat
  | addInventory product quantity => if product = id then quantity.toNat else 0
  | _ => 0

/-- How much of a product a call sets aside. -/
def reserved (id : ProductId) : StoreCall → Nat
  | reserve product quantity => if product = id then quantity.toNat else 0
  | _ => 0

/-- Whether a call can change no level. -/
def leavesStock : StoreCall → Bool
  | addInventory .. | reserve .. => false
  | addProduct .. | updatePrice .. | deactivateProduct .. => true

theorem added_of_leavesStock {call : StoreCall} (h : call.leavesStock = true) (id : ProductId) :
    call.added id = 0 := by
  cases call <;> first | rfl | cases h

theorem reserved_of_leavesStock {call : StoreCall} (h : call.leavesStock = true) (id : ProductId) :
    call.reserved id = 0 := by
  cases call <;> first | rfl | cases h

end StoreCall

/-- The product has been revised: it is still the same, under the same name and in the same
currency, and has a price if it had one. -/
structure Product.Revises (p q : Product) : Prop where
  id : q.id = p.id
  name : q.name = p.name
  description : q.description = p.description
  currency : q.price.currency = p.price.currency
  price : 0 < p.price.amount → 0 < q.price.amount

namespace Store

/-! ### One call -/

/-- **What a call does that is carried out.** -/
inductive Does (s : Store) : StoreCall → Store → Prop where
  /-- A product is listed under a name that no product on sale has, without any stock. -/
  | lists {id : ProductId} {name description : String} {price : Money} {events : List StoreEvent}
      (hname : 3 ≤ name.length ∧ name.length ≤ 100) (hcurrency : price.currency.code = s.currency)
      (hnew : s.sells ⟨name⟩ = false) (hprice : 0 < price.amount) :
      Does s (.addProduct id name description price) { s with
        products := s.products.insert id ⟨id, ⟨name⟩, description, price, true⟩
        inventory := s.inventory.insert id 0
        pending := events }
  /-- A product on sale is revised. -/
  | revises {call : StoreCall} {id : ProductId} {p q : Product} {events : List StoreEvent}
      (hfresh : call.fresh? = none) (hstock : call.leavesStock = true)
      (hp : s.activeProduct id = .ok p) (hq : p.Revises q) :
      Does s call { s with products := s.products.insert id q, pending := events }
  /-- The level of a product on sale is moved. -/
  | moves {call : StoreCall} {id : ProductId} {p : Product} {level : Count}
      {events : List StoreEvent} (hfresh : call.fresh? = none) (hp : s.activeProduct id = .ok p)
      (hlevel : id ∈ s.inventory.keys)
      (hmoved : ∀ other,
        stock { s with inventory := s.inventory.insert id level, pending := events } other +
          call.reserved other = s.stock other + call.added other) :
      Does s call { s with inventory := s.inventory.insert id level, pending := events }

section Step
variable {s s' : Store} {call : StoreCall} {id : ProductId} {p : Product}

theorem make_name {name : String} {n : ProductName} (h : ProductName.make name = .ok n) :
    n = ⟨name⟩ ∧ 3 ≤ name.length ∧ name.length ≤ 100 := by
  unfold ProductName.make at h
  split at h
  · cases h
    exact ⟨rfl, ‹_›⟩
  · cases h

theorem checkPrice_eq_ok {price : Money} (h : Product.checkPrice price = .ok ()) :
    0 < price.amount := by
  unfold Product.checkPrice at h
  split at h
  · assumption
  · cases h

theorem does_addProduct {name description : String} {price : Money}
    (h : s.addProduct id name description price = .ok (p, s')) :
    s.Does (.addProduct id name description price) s' := by
  obtain ⟨n, hn, hcurrency, hnew, hp, rfl⟩ := addProduct_eq_ok_iff.mp h
  obtain ⟨rfl, hlength⟩ := make_name hn
  obtain ⟨_, hprice, he⟩ := bind_eq_ok_iff.mp hp
  cases he
  exact .lists hlength hcurrency hnew (checkPrice_eq_ok hprice)

theorem does_updatePrice {price : Money} (h : s.updatePrice id price = .ok s') :
    s.Does (.updatePrice id price) s' := by
  obtain ⟨p, q, hp, hq, rfl⟩ := updatePrice_eq_ok_iff.mp h
  obtain ⟨_, hprice, _⟩ := bind_eq_ok_iff.mp hq
  obtain ⟨rfl, hcurrency⟩ := withPrice_eq_ok hq
  exact .revises rfl rfl hp ⟨rfl, rfl, rfl, hcurrency, fun _ => checkPrice_eq_ok hprice⟩

theorem does_deactivateProduct (h : s.deactivateProduct id = .ok s') :
    s.Does (.deactivateProduct id) s' := by
  obtain ⟨p, hp, rfl⟩ := deactivateProduct_eq_ok_iff.mp h
  exact .revises rfl rfl hp ⟨rfl, rfl, rfl, rfl, fun hprice => hprice⟩

theorem does_addInventory {quantity : Count} (h : s.addInventory id quantity = .ok s') :
    s.Does (.addInventory id quantity) s' := by
  obtain ⟨level, sum, hl, _, rfl⟩ := addInventory_eq_ok_iff.mp h
  obtain ⟨_, ⟨p, hp⟩, hlevel⟩ := levelFor_eq_ok_iff.mp hl
  exact .moves rfl (activeProduct_eq_ok_iff.mpr hp) (Table.mem_keys_of_get? hlevel)
    (stock_addInventory h)

theorem does_reserve {quantity : Count} (h : s.reserve id quantity = .ok s') :
    s.Does (.reserve id quantity) s' := by
  obtain ⟨level, hl, _, rfl⟩ := reserve_eq_ok_iff.mp h
  obtain ⟨_, ⟨p, hp⟩, hlevel⟩ := levelFor_eq_ok_iff.mp hl
  exact .moves rfl (activeProduct_eq_ok_iff.mpr hp) (Table.mem_keys_of_get? hlevel)
    (stock_reserve h)

/-- **Every call that is carried out does one of these things.** -/
theorem does_of_answer {result : Option Product} (h : s.answer call = .ok (result, s')) :
    s.Does call s' := by
  cases call with
  | addProduct fresh name description price =>
    obtain ⟨⟨_, _⟩, h, he⟩ := bind_eq_ok_iff.mp h
    cases he
    exact does_addProduct h
  | updatePrice id price =>
    obtain ⟨_, h, he⟩ := bind_eq_ok_iff.mp h
    cases he
    exact does_updatePrice h
  | deactivateProduct id =>
    obtain ⟨_, h, he⟩ := bind_eq_ok_iff.mp h
    cases he
    exact does_deactivateProduct h
  | addInventory id quantity =>
    obtain ⟨_, h, he⟩ := bind_eq_ok_iff.mp h
    cases he
    exact does_addInventory h
  | reserve id quantity =>
    obtain ⟨_, h, he⟩ := bind_eq_ok_iff.mp h
    cases he
    exact does_reserve h

end Step

/-! ### The form of a store -/

/-- **The store is in form**: it is sound, its products have names and prices, and no two on sale
have one name. -/
structure Formed (s : Store) : Prop extends s.Sound where
  name : ∀ id p, s.products.get? id = some p → 3 ≤ p.name.text.length ∧ p.name.text.length ≤ 100
  price : ∀ id p, s.products.get? id = some p → 0 < p.price.amount
  apart : ∀ id id' p p', s.products.get? id = some p → s.products.get? id' = some p' →
    p.active = true → p'.active = true → p.name = p'.name → id = id'

/-- The store still has all of its products, and those that were off sale as they were. -/
structure Keeps (s s' : Store) : Prop where
  id_eq : s'.id = s.id
  currency_eq : s'.currency = s.currency
  listed : ∀ id p, s.products.get? id = some p → ∃ p', s'.products.get? id = some p' ∧
    p'.id = p.id ∧ p'.name = p.name ∧ p'.description = p.description
  retired : ∀ id p, s.products.get? id = some p → p.active = false →
    s'.products.get? id = some p ∧ s'.inventory.get? id = s.inventory.get? id

namespace Keeps

variable {s s' s'' : Store}

theorem refl (s : Store) : s.Keeps s :=
  ⟨rfl, rfl, fun _ p hp => ⟨p, hp, rfl, rfl, rfl⟩, fun _ _ hp _ => ⟨hp, rfl⟩⟩

theorem trans (h : s.Keeps s') (h' : s'.Keeps s'') : s.Keeps s'' := by
  refine ⟨h'.id_eq.trans h.id_eq, h'.currency_eq.trans h.currency_eq, fun id p hp => ?_,
    fun id p hp hoff => ?_⟩
  · obtain ⟨p', hp', hid, hname, hdescription⟩ := h.listed id p hp
    obtain ⟨p'', hp'', hid', hname', hdescription'⟩ := h'.listed id p' hp'
    exact ⟨p'', hp'', hid'.trans hid, hname'.trans hname, hdescription'.trans hdescription⟩
  · obtain ⟨hp', hlevel⟩ := h.retired id p hp hoff
    obtain ⟨hp'', hlevel'⟩ := h'.retired id p hp' hoff
    exact ⟨hp'', hlevel'.trans hlevel⟩

end Keeps

section Step
variable {s s' : Store} {call : StoreCall} {id : ProductId} {p q : Product}

/-- A name is taken if a product on sale has it. -/
theorem sells_of_get? (hp : s.products.get? id = some p) (ha : p.active = true) :
    s.sells p.name = true := by
  unfold sells
  refine List.any_eq_true.mpr ⟨p, Table.mem_values_iff.mpr ⟨id, hp⟩, ?_⟩
  rw [ha, beq_self_eq_true]
  rfl

/-- What is true of every product and of one that is written is true of every product then. -/
theorem forall_insert {P : ProductId → Product → Prop}
    (h : ∀ other r, s.products.get? other = some r → P other r) (hq : P id q)
    (other : ProductId) (r : Product)
    (hr : (s.products.insert id q).get? other = some r) : P other r := by
  rw [Table.get?_insert] at hr
  split at hr
  · rename_i ho
    cases hr
    exact ho ▸ hq
  · exact h other r hr

/-- A product may be written whose name, if it is on sale, no other one on sale has. -/
theorem Formed.apart_insert (h : s.Formed)
    (hfree : q.active = true → ∀ other r, other ≠ id → s.products.get? other = some r →
      r.active = true → r.name ≠ q.name) (id₁ id₂ : ProductId) (p₁ p₂ : Product)
    (h₁ : (s.products.insert id q).get? id₁ = some p₁)
    (h₂ : (s.products.insert id q).get? id₂ = some p₂) (ha₁ : p₁.active = true)
    (ha₂ : p₂.active = true) (hsame : p₁.name = p₂.name) : id₁ = id₂ := by
  rw [Table.get?_insert] at h₁ h₂
  by_cases hid₁ : id₁ = id <;> by_cases hid₂ : id₂ = id
  · rw [hid₁, hid₂]
  · rw [if_pos hid₁] at h₁
    rw [if_neg hid₂] at h₂
    cases h₁
    exact absurd hsame.symm (hfree ha₁ id₂ p₂ hid₂ h₂ ha₂)
  · rw [if_neg hid₁] at h₁
    rw [if_pos hid₂] at h₂
    cases h₂
    exact absurd hsame (hfree ha₂ id₁ p₁ hid₁ h₁ ha₁)
  · rw [if_neg hid₁] at h₁
    rw [if_neg hid₂] at h₂
    exact h.apart id₁ id₂ p₁ p₂ h₁ h₂ ha₁ ha₂ hsame

/-- **A call leaves a store in form.** -/
theorem Does.formed (h : s.Does call s') (hs : s.Formed) : s'.Formed := by
  cases h with
  | @lists id name description price events hname hcurrency hnew hprice =>
    refine {
      currency := hs.currency, keys := ?_, product := ?_, name := ?_, price := ?_, apart := ?_ }
    · show (s.inventory.insert id 0).keys = (s.products.insert id _).keys
      by_cases hm : id ∈ s.products.keys
      · rw [Table.keys_insert_of_mem hm, Table.keys_insert_of_mem (hs.keys ▸ hm), hs.keys]
      · rw [Table.keys_insert_of_not_mem hm, Table.keys_insert_of_not_mem (hs.keys ▸ hm), hs.keys]
    · exact hs.insert_product rfl hcurrency
    · exact forall_insert hs.name hname
    · exact forall_insert hs.price hprice
    · refine hs.apart_insert fun _ other r _ hr ha hsame => ?_
      have htaken := sells_of_get? hr ha
      rw [hsame, hnew] at htaken
      cases htaken
  | @revises call id p q events _ _ hp hq =>
    obtain ⟨hget, ha⟩ := activeProduct_eq_ok_iff.mp hp
    have hsound : Sound { s with products := s.products.insert id q, pending := events } :=
      hs.toSound.overwrite hget hq.id hq.currency
    refine { toSound := hsound, name := ?_, price := ?_, apart := ?_ }
    · exact forall_insert hs.name (hq.name ▸ hs.name id p hget)
    · exact forall_insert hs.price (hq.price (hs.price id p hget))
    · -- the revised product has had its name before, and was on sale under it
      refine hs.apart_insert fun _ other r hne hr har hsame => hne ?_
      exact hs.apart other id r p hr hget har ha (hsame.trans hq.name)
  | @moves call id p level events _ _ hkey _ =>
    have hsame : SameCatalogue s
        { s with inventory := s.inventory.insert id level, pending := events } :=
      ⟨rfl, rfl, rfl, rfl, rfl, Table.keys_insert_of_mem hkey level⟩
    exact { toSound := hs.toSound.of_sameCatalogue hsame, name := hs.name, price := hs.price
            apart := hs.apart }

/-- **A call keeps what is in the catalogue**, if it brings a new identifier along. -/
theorem Does.keeps (h : s.Does call s')
    (hnew : ∀ id, call.fresh? = some id → id ∉ s.products.keys) : s.Keeps s' := by
  cases h with
  | @lists id name description price events _ _ _ _ =>
    have hid : id ∉ s.products.keys := hnew id rfl
    have hne : ∀ other r, s.products.get? other = some r → other ≠ id := by
      rintro other r hr rfl
      exact hid (Table.mem_keys_of_get? hr)
    refine ⟨rfl, rfl, fun other r hr => ⟨r, ?_, rfl, rfl, rfl⟩, fun other r hr _ => ⟨?_, ?_⟩⟩
    · exact (Table.get?_insert_of_ne _ (hne other r hr) _).trans hr
    · exact (Table.get?_insert_of_ne _ (hne other r hr) _).trans hr
    · exact Table.get?_insert_of_ne _ (hne other r hr) _
  | @revises call id p q events _ _ hp hq =>
    obtain ⟨hget, ha⟩ := activeProduct_eq_ok_iff.mp hp
    refine ⟨rfl, rfl, fun other r hr => ?_, fun other r hr hoff => ⟨?_, rfl⟩⟩
    · by_cases ho : other = id
      · subst ho
        cases hget.symm.trans hr
        exact ⟨q, Table.get?_insert_self _ _ _, hq.id, hq.name, hq.description⟩
      · exact ⟨r, (Table.get?_insert_of_ne _ ho _).trans hr, rfl, rfl, rfl⟩
    · refine (Table.get?_insert_of_ne _ ?_ _).trans hr
      rintro rfl
      cases hget.symm.trans hr
      rw [ha] at hoff
      cases hoff
  | @moves call id p level events _ hp _ _ =>
    obtain ⟨hget, ha⟩ := activeProduct_eq_ok_iff.mp hp
    refine ⟨rfl, rfl, fun other r hr => ⟨r, hr, rfl, rfl, rfl⟩, fun other r hr hoff => ⟨hr, ?_⟩⟩
    refine Table.get?_insert_of_ne _ ?_ _
    rintro rfl
    cases hget.symm.trans hr
    rw [ha] at hoff
    cases hoff

/-- What a call that is carried out lists comes last in the catalogue, if it is new. -/
theorem Does.keys_eq (h : s.Does call s')
    (hnew : ∀ id, call.fresh? = some id → id ∉ s.products.keys) :
    s'.products.keys = s.products.keys ++ call.fresh?.toList := by
  cases h with
  | lists => exact Table.keys_insert_of_not_mem (hnew _ rfl) _
  | revises hfresh _ hp _ =>
    rw [hfresh, Option.toList_none, List.append_nil]
    exact Table.keys_insert_of_mem (Table.mem_keys_of_get? (activeProduct_eq_ok_iff.mp hp).1) _
  | moves hfresh =>
    rw [hfresh, Option.toList_none, List.append_nil]

/-- **A call moves each level by what it says.** -/
theorem Does.stock_eq (h : s.Does call s') (hs : s.Formed)
    (hnew : ∀ id, call.fresh? = some id → id ∉ s.products.keys) (other : ProductId) :
    s'.stock other + call.reserved other = s.stock other + call.added other := by
  cases h with
  | @lists id name description price events _ _ _ _ =>
    have hnone : s.inventory.get? id = none := by
      rw [Table.get?_eq_none_iff, hs.keys]
      exact hnew id rfl
    show stock { s with inventory := s.inventory.insert id 0 } other = s.stock other
    rw [stock_of_insert rfl]
    split
    · rename_i ho
      rw [ho, stock, hnone]
      rfl
    · rfl
  | revises _ hstock =>
    rw [StoreCall.added_of_leavesStock hstock, StoreCall.reserved_of_leavesStock hstock]
    rfl
  | moves _ _ _ hmoved => exact hmoved other

end Step

/-! ### Any number of calls -/

/-- What calls that have been carried out make of a store in form. -/
structure Follows (s : Store) (done : List StoreCall) (s' : Store) : Prop where
  formed : s'.Formed
  keeps : s.Keeps s'
  keys : s'.products.keys = s.products.keys ++ done.filterMap StoreCall.fresh?
  stock : ∀ id, s'.stock id + (done.map (StoreCall.reserved id)).sum =
    s.stock id + (done.map (StoreCall.added id)).sum

section Run
variable {s s' : Store} {done : List StoreCall}

theorem filterMap_fresh_cons (call : StoreCall) (rest : List StoreCall) :
    (call :: rest).filterMap StoreCall.fresh? =
      call.fresh?.toList ++ rest.filterMap StoreCall.fresh? := by
  cases h : call.fresh? <;> simp [h]

/-- **Calls keep a store in form, and what is in its catalogue**, however many, as long as what
they list is new. -/
theorem Formed.carries (hs : s.Formed) (h : InPlace.Carries answer s done s')
    (hfresh : (s.products.keys ++ done.filterMap StoreCall.fresh?).Nodup) :
    s.Follows done s' := by
  induction h with
  | refl s =>
    exact ⟨hs, .refl s, (List.append_nil _).symm, fun _ => rfl⟩
  | @step s s₁ s' call rest result hcall _ ih =>
    rw [filterMap_fresh_cons, ← List.append_assoc] at hfresh
    have hdoes := does_of_answer hcall
    have hnew : ∀ id, call.fresh? = some id → id ∉ s.products.keys := by
      intro id hid hmem
      have hdisjoint := (List.nodup_append.mp (List.nodup_append.mp hfresh).1).2.2
      exact hdisjoint id hmem id (by rw [hid]; exact List.mem_singleton.mpr rfl) rfl
    have hkeys := hdoes.keys_eq hnew
    rw [← hkeys] at hfresh
    have hrest := ih (hdoes.formed hs) hfresh
    refine ⟨hrest.formed, (hdoes.keeps hnew).trans hrest.keeps, ?_, fun id => ?_⟩
    · rw [hrest.keys, hkeys, filterMap_fresh_cons, List.append_assoc]
    · have hone := hdoes.stock_eq hs hnew id
      have hall := hrest.stock id
      simp only [List.map_cons, List.sum_cons]
      omega

/-- What has become of a store in form after some calls, refused ones among them. -/
theorem Formed.afterAll (hs : s.Formed) (calls : List StoreCall)
    (hfresh : (s.products.keys ++ calls.filterMap StoreCall.fresh?).Nodup) :
    s.Follows (s.carriedOut calls) (s.afterAll calls) := by
  refine hs.carries (InPlace.carries_carriedOut perform_eq s calls) (hfresh.sublist ?_)
  exact ((InPlace.carriedOut_sublist s calls).filterMap _).append_left _

end Run

section Create
variable {id : StoreId} {name : String} {location : Address} {currency : String} {s₀ : Store}

theorem formed_create (h : create id name location currency = .ok s₀) : s₀.Formed := by
  obtain ⟨_, hproducts, _, _⟩ := create_eq_ok h
  have hnone : ∀ id, s₀.products.get? id = none := fun id => by rw [hproducts]; rfl
  refine { toSound := sound_create h, name := ?_, price := ?_, apart := ?_ }
  · intro id p hp
    rw [hnone] at hp
    cases hp
  · intro id p hp
    rw [hnone] at hp
    cases hp
  · intro id id' p p' hp
    rw [hnone] at hp
    cases hp

/-- **What can be said of a store in a currency, whatever it has been asked for**, where `done` is
what has been carried out of that. -/
structure Upheld (currency : String) (done : List StoreCall) (s : Store) : Prop where
  /-- What is in the catalogue is in stock, and nothing else is. -/
  keys : ∀ id, id ∈ s.inventory.keys ↔ id ∈ s.products.keys
  ids : ∀ id p, s.products.get? id = some p → p.id = id
  /-- No two products on sale have one name. -/
  apart : ∀ id id' p p', s.products.get? id = some p → s.products.get? id' = some p' →
    p.active = true → p'.active = true → p.name = p'.name → id = id'
  prices : s.currency = currency ∧ ∀ id p, s.products.get? id = some p →
    0 < p.price.amount ∧ p.price.currency.code = currency
  names : ∀ id p, s.products.get? id = some p →
    3 ≤ p.name.text.length ∧ p.name.text.length ≤ 100
  /-- The catalogue is what has been put on sale, in its order. -/
  listed : s.products.keys = done.filterMap StoreCall.fresh?
  /-- Each level is what has been added less what has been set aside, exactly. -/
  levels : ∀ id level, s.inventory.get? id = some level → level.toNat < UInt32.size ∧
    level.toNat + (done.map (StoreCall.reserved id)).sum = (done.map (StoreCall.added id)).sum
  /-- In place, the next call makes of the store what the operations of `Store` make of it, -/
  done : ∀ call result s', s.perform call = (.ok result, s') ↔ s.answer call = .ok (result, s')
  /-- and leaves it as it was in all of its fields if it is refused. -/
  refused : ∀ call e s', s.perform call = (.error e, s') ↔ s.answer call = .error e ∧ s' = s

/-- **Whatever is asked of a store, however often, it stays as it should be**, as long as new
products are given different identifiers; and whatever is asked of it then, it keeps all of its
products under their names, and those that are off sale as they are. -/
theorem catalogue_upheld (h : create id name location currency = .ok s₀)
    (calls more : List StoreCall)
    (hfresh : ((calls ++ more).filterMap StoreCall.fresh?).Nodup) :
    (s₀.afterAll calls).Upheld s₀.currency (s₀.carriedOut calls) ∧
      (s₀.afterAll calls).Keeps (s₀.afterAll (calls ++ more)) := by
  obtain ⟨_, hproducts, hinventory, _⟩ := create_eq_ok h
  have hkeys : s₀.products.keys = [] := by rw [hproducts]; rfl
  have hstock : ∀ id, s₀.stock id = 0 := fun id => by rw [stock, hinventory]; rfl
  rw [List.filterMap_append] at hfresh
  have hnow := (formed_create h).afterAll calls (by
    rw [hkeys, List.nil_append]
    exact hfresh.sublist (List.sublist_append_left ..))
  have hlisted := hnow.keys
  rw [hkeys, List.nil_append] at hlisted
  have hthen := hnow.formed.afterAll more (by
    rw [hlisted]
    exact hfresh.sublist (((InPlace.carriedOut_sublist s₀ calls).filterMap _).append_right _))
  constructor
  · refine ⟨fun p => by rw [hnow.formed.keys], fun p x hx => (hnow.formed.product p x hx).1,
      hnow.formed.apart, ⟨hnow.keeps.currency_eq, fun p x hx => ⟨hnow.formed.price p x hx, ?_⟩⟩,
      hnow.formed.name, hlisted, fun p level hlevel => ⟨level.toNat_lt, ?_⟩,
      fun call result s' => ?_, fun call e s' => ?_⟩
    · rw [(hnow.formed.product p x hx).2, hnow.keeps.currency_eq]
    · rw [← stock_of_level hlevel, hnow.stock, hstock, Nat.zero_add]
    · rw [perform_eq, InPlace.kept_eq_ok_iff]
    · rw [perform_eq, InPlace.kept_eq_error_iff]
  · show Keeps _ (InPlace.afterAll perform s₀ (calls ++ more))
    rw [InPlace.afterAll_append]
    exact hthen.keeps

end Create

/-- A new store that sells in dollars. -/
def Sample.stand : Store where
  id := default
  name := "Stand"
  location := default
  currency := "USD"
  products := .empty
  inventory := .empty
  pending := [.created default "Stand" default "USD"]

/-- The identifier of a product with a number. -/
def Sample.good (n : Nat) : ProductId := (Supply.nth n).id .product

def Sample.dollars (n : Nat) : Money :=
  if h : n * 100 ≤ Money.maxAmount then ⟨n * 100, default, h⟩ else default

/-- Tea is put on sale, and cannot be once more under the same name, or for nothing, until it is
off sale.  There is as much of it as a count can say, less three that are set aside. -/
def Sample.morning : List StoreCall := [
  .addProduct (good 0) "Tea" "" (dollars 3),
  .addProduct (good 1) "Tea" "Green" (dollars 4),
  .addInventory (good 0) 5,
  .reserve (good 0) 6,
  .reserve (good 0) 3,
  .addInventory (good 0) 4294967293,
  .addInventory (good 0) 1,
  .updatePrice (good 0) (dollars 0),
  .updatePrice (good 0) (dollars 5)]

def Sample.noon : List StoreCall := [
  .deactivateProduct (good 0),
  .reserve (good 0) 1,
  .addProduct (good 2) "Tea" "Black" (dollars 4),
  .updatePrice (good 0) (dollars 6)]

theorem catalogue_upheld_stand :
    let s := Sample.stand.afterAll Sample.morning
    let s' := Sample.stand.afterAll (Sample.morning ++ Sample.noon)
    create default "Stand" default "usd" = .ok Sample.stand ∧
      ((Sample.morning ++ Sample.noon).filterMap StoreCall.fresh?).Nodup ∧
      s.Upheld "USD" (Sample.stand.carriedOut Sample.morning) ∧ s.Keeps s' ∧
      s.inventory.entries = [(Sample.good 0, 4294967295)] ∧
      s'.products.values.map (fun p => (p.price.amount, p.active)) =
        [(500, false), (400, true)] := by
  have hcreate : create default "Stand" default "usd" = .ok Sample.stand := by rfl
  have hfresh : ((Sample.morning ++ Sample.noon).filterMap StoreCall.fresh?).Nodup := by
    decide +kernel
  obtain ⟨hupheld, hkeeps⟩ := catalogue_upheld hcreate Sample.morning Sample.noon hfresh
  exact ⟨hcreate, hfresh, hupheld, hkeeps, by decide +kernel, by decide +kernel⟩

end Store

end Storefront
