import Storefront.Proofs.Catalogue

/-! # Stores as they are told of

Whoever is told what happens to a store can keep a view of it: its catalogue with names, prices
and stock levels, each changed as the events say (`StoreView.apply`).  An event is also checked
against the view: it has to start from the price and the level that the view has, and a product
that is off sale is left alone.  That every event fits (`StoreView.replay`) therefore says that
nothing has been left out, told twice or told out of order.

Each operation on a store raises one event, which takes every view of the store to one of what
it results in (`Store.Grows`); putting lines back raises one for each line that is put back.
-/
namespace Storefront

/-! ### Views of a store -/

/-- What is told of a product. -/
structure Listing where
  name : String
  price : Money
  active : Bool
  level : Count
  deriving DecidableEq

/-- What is told of a store. -/
structure StoreView where
  name : String
  location : Address
  currency : String
  listings : Table ProductId Listing

/-- What a listing says besides the level. -/
def Listing.offer (l : Listing) : String × Money × Bool := (l.name, l.price, l.active)

/-- What can be told of a product besides the level. -/
def Product.offer (p : Product) : String × Money × Bool := (p.name.text, p.price, p.active)

namespace StoreView

/-- The view with another listing of a product on sale, if `f` gives one. -/
def update (v : StoreView) (p : ProductId) (f : Listing → Option Listing) : Option StoreView :=
  match v.listings.get? p with
  | some l =>
    if l.active then (f l).map fun l' => { v with listings := v.listings.insert p l' } else none
  | none => none

/-- The view after one more event, if the event fits the view. -/
def apply (v : StoreView) : StoreEvent → Option StoreView
  | .created .. => none
  | .productAdded _ p name price =>
    if (v.listings.get? p).isSome then none
    else some { v with listings := v.listings.insert p ⟨name, price, true, 0⟩ }
  | .priceUpdated _ p oldPrice newPrice => v.update p fun l =>
    if l.price = oldPrice then some { l with price := newPrice } else none
  | .productDeactivated _ p => v.update p fun l => some { l with active := false }
  | .inventoryAdded _ p added level => v.update p fun l =>
    if level.toNat = l.level.toNat + added.toNat then some { l with level } else none
  | .inventoryReserved _ p reserved remaining => v.update p fun l =>
    if remaining.toNat + reserved.toNat = l.level.toNat then some { l with level := remaining }
    else none

/-- The view after some events, of which the first has to be that the store was created. -/
def replay : List StoreEvent → Option StoreView
  | .created _ name location currency :: rest =>
    rest.foldlM apply ⟨name, location, currency, .empty⟩
  | _ => none

/-- The view shows a store as it is. -/
structure Shows (v : StoreView) (s : Store) : Prop where
  name : v.name = s.name
  location : v.location = s.location
  currency : v.currency = s.currency
  /-- The same products are listed, with their names, their prices and whether they are on
  sale. -/
  offers : ∀ p, (v.listings.get? p).map Listing.offer = (s.products.get? p).map Product.offer
  levels : ∀ p, (v.listings.get? p).map Listing.level = s.inventory.get? p

end StoreView

/-- The event tells that stock has been put back. -/
def StoreEvent.Restores (store : StoreId) (r : Release) (e : StoreEvent) : Prop :=
  ∃ level, e = .inventoryAdded store r.product r.quantity level

/-! ### Events that fit -/

namespace StoreView

variable {v : StoreView} {s s' : Store} {p : ProductId} {x x' : Product} {l l' : Listing}
  {level : Count}

theorem Shows.settled (h : v.Shows s) : v.Shows s.settled :=
  ⟨h.name, h.location, h.currency, h.offers, h.levels⟩

/-- What is in the catalogue is listed. -/
theorem Shows.listing (h : v.Shows s) (hx : s.products.get? p = some x) :
    ∃ l, v.listings.get? p = some l ∧ l.offer = x.offer ∧ s.inventory.get? p = some l.level := by
  have hoffer := h.offers p
  have hlevel := h.levels p
  rw [hx] at hoffer
  cases hl : v.listings.get? p with
  | none =>
    rw [hl] at hoffer
    cases hoffer
  | some l =>
    rw [hl] at hoffer hlevel
    exact ⟨l, rfl, Option.some.inj hoffer, hlevel.symm⟩

/-- A listing may be written over together with the product and its level. -/
theorem Shows.insert (h : v.Shows s) (l' : Listing) (x' : Product) (hoffer : l'.offer = x'.offer)
    (hname : s'.name = s.name) (hlocation : s'.location = s.location)
    (hcurrency : s'.currency = s.currency)
    (hproducts : ∀ q, s'.products.get? q = if q = p then some x' else s.products.get? q)
    (hlevels : ∀ q, s'.inventory.get? q =
      if q = p then some l'.level else s.inventory.get? q) :
    Shows { v with listings := v.listings.insert p l' } s' := by
  refine ⟨h.name.trans hname.symm, h.location.trans hlocation.symm,
    h.currency.trans hcurrency.symm, fun q => ?_, fun q => ?_⟩
  · show ((v.listings.insert p l').get? q).map _ = _
    rw [Table.get?_insert, hproducts q]
    by_cases hq : q = p
    · rw [if_pos hq, if_pos hq]
      exact congrArg some hoffer
    · rw [if_neg hq, if_neg hq]
      exact h.offers q
  · show ((v.listings.insert p l').get? q).map _ = _
    rw [Table.get?_insert, hlevels q]
    by_cases hq : q = p
    · rw [if_pos hq, if_pos hq]
      rfl
    · rw [if_neg hq, if_neg hq]
      exact h.levels q

theorem update_eq {f : Listing → Option Listing} (hl : v.listings.get? p = some l)
    (ha : l.active = true) (hf : f l = some l') :
    v.update p f = some { v with listings := v.listings.insert p l' } := by
  unfold update
  rw [hl]
  dsimp only
  rw [if_pos ha, hf]
  rfl

end StoreView

/-- What is written where it stands already changes nothing. -/
theorem Table.get?_eq_ite {κ ν : Type} [DecidableEq κ] {t : Table κ ν} {key : κ} {value : ν}
    (h : t.get? key = some value) (other : κ) :
    t.get? other = if other = key then some value else t.get? other := by
  by_cases ho : other = key
  · rw [if_pos ho, ho, h]
  · rw [if_neg ho]

namespace Store

variable {s s' s'' : Store} {p : ProductId} {quantity : Count} {events events' : List StoreEvent}

/-- **The store has come to be another one, and raised events that tell how.** -/
structure Grows (s s' : Store) (events : List StoreEvent) : Prop where
  id_eq : s'.id = s.id
  pending_eq : s'.pending = s.pending ++ events
  about : ∀ e ∈ events, e.store = s.id
  /-- The events take every view of the store to a view of what it has come to be. -/
  shown : ∀ v : StoreView, v.Shows s → ∃ v', events.foldlM StoreView.apply v = some v' ∧ v'.Shows s'

namespace Grows

theorem refl (s : Store) : s.Grows s [] :=
  ⟨rfl, (List.append_nil _).symm, fun _ h => absurd h List.not_mem_nil, fun v hv => ⟨v, rfl, hv⟩⟩

theorem trans (h : s.Grows s' events) (h' : s'.Grows s'' events') :
    s.Grows s'' (events ++ events') := by
  refine ⟨h'.id_eq.trans h.id_eq, ?_, fun e he => ?_, fun v hv => ?_⟩
  · rw [h'.pending_eq, h.pending_eq, List.append_assoc]
  · rcases List.mem_append.mp he with he | he
    · exact h.about e he
    · exact (h'.about e he).trans h.id_eq
  · obtain ⟨v', hfold, hv'⟩ := h.shown v hv
    obtain ⟨v'', hfold', hv''⟩ := h'.shown v' hv'
    refine ⟨v'', ?_, hv''⟩
    rw [List.foldlM_append, hfold]
    exact hfold'

/-- One event tells of one change. -/
theorem single {e : StoreEvent} (hid : s'.id = s.id) (hpending : s'.pending = s.pending ++ [e])
    (habout : e.store = s.id)
    (hshown : ∀ v : StoreView, v.Shows s → ∃ v', v.apply e = some v' ∧ v'.Shows s') :
    s.Grows s' [e] := by
  refine ⟨hid, hpending, fun e' he' => ?_, fun v hv => ?_⟩
  · rw [List.mem_singleton.mp he']
    exact habout
  · obtain ⟨v', happly, hv'⟩ := hshown v hv
    refine ⟨v', ?_, hv'⟩
    show (v.apply e >>= fun v' => some v') = some v'
    rw [happly]
    rfl

end Grows

/-! ### Each operation -/

/-- A product that is put on sale is told of, at its price and without stock. -/
theorem grows_addProduct {name description : String} {price : Money} {x : Product}
    (h : s.addProduct p name description price = .ok (x, s'))
    (hnew : s.products.get? p = none) :
    s.Grows s' [.productAdded s.id p name price] := by
  obtain ⟨n, hn, _, _, hx, rfl⟩ := addProduct_eq_ok_iff.mp h
  have hname : n.text = name := by
    unfold ProductName.make at hn
    split at hn
    · cases hn
      rfl
    · cases hn
  obtain rfl := make_eq_ok hx
  subst hname
  refine .single rfl rfl rfl fun v hv =>
    ⟨{ v with listings := v.listings.insert p ⟨n.text, price, true, 0⟩ }, ?_, ?_⟩
  · have hnone : v.listings.get? p = none := by
      have hoffer := hv.offers p
      rw [hnew, Option.map_none, Option.map_eq_none_iff] at hoffer
      exact hoffer
    simp [StoreView.apply, hnone]
  · refine hv.insert _ ⟨p, n, description, price, true⟩ rfl rfl rfl rfl (fun q => ?_)
      fun q => ?_
    · exact Table.get?_insert ..
    · exact Table.get?_insert ..

/-- A change of the level of a product on sale is told of. -/
theorem shows_level {v : StoreView} {level level' : Count} (hv : v.Shows s)
    (hl : s.levelFor p quantity = .ok level) {pending : List StoreEvent}
    {f : Listing → Option Listing}
    (hf : ∀ l : Listing, l.level = level → f l = some { l with level := level' }) :
    ∃ v', v.update p f = some v' ∧
      v'.Shows { s with inventory := s.inventory.insert p level', pending } := by
  obtain ⟨_, ⟨x, hx, hactive⟩, hlevel⟩ := levelFor_eq_ok_iff.mp hl
  obtain ⟨l, hget, hoffer, hl'⟩ := hv.listing hx
  rw [hlevel] at hl'
  have ha : l.active = true := by
    have : l.active = x.active := congrArg (·.2.2) hoffer
    rw [this, hactive]
  refine ⟨_, StoreView.update_eq hget ha (hf l (Option.some.inj hl').symm), ?_⟩
  exact hv.insert { l with level := level' } x hoffer rfl rfl rfl
    (Table.get?_eq_ite hx) fun q => Table.get?_insert ..

/-- Stock that is added is told of, with the level that it results in. -/
theorem grows_addInventory (h : s.addInventory p quantity = .ok s') :
    ∃ level, s'.inventory.get? p = some level ∧
      s.Grows s' [.inventoryAdded s.id p quantity level] := by
  obtain ⟨level, sum, hl, hsum, rfl⟩ := addInventory_eq_ok_iff.mp h
  refine ⟨sum, Table.get?_insert_self .., .single rfl rfl rfl fun v hv => ?_⟩
  refine shows_level hv hl fun l hlevel => ?_
  rw [hlevel, if_pos hsum]

/-- Stock that is set aside is told of, with what is left. -/
theorem grows_reserve (h : s.reserve p quantity = .ok s') :
    ∃ remaining, s.Grows s' [.inventoryReserved s.id p quantity remaining] := by
  obtain ⟨level, hl, hle, rfl⟩ := reserve_eq_ok_iff.mp h
  refine ⟨level - quantity, .single rfl rfl rfl fun v hv => ?_⟩
  refine shows_level hv hl fun l hlevel => ?_
  have hnat : quantity.toNat ≤ level.toNat := UInt32.le_iff_toNat_le.mp hle
  have hsum : (level - quantity).toNat + quantity.toNat = level.toNat := by
    rw [Count.toNat_sub_of_le hle]
    omega
  rw [hlevel, if_pos hsum]

/-- A change in the catalogue is told of. -/
theorem shows_product {v : StoreView} {x x' : Product} (hv : v.Shows s)
    (hx : s.activeProduct p = .ok x) {pending : List StoreEvent} {f : Listing → Option Listing}
    (hf : ∀ l : Listing, l.offer = x.offer →
      ∃ l', f l = some l' ∧ l'.offer = x'.offer ∧ l'.level = l.level) :
    ∃ v', v.update p f = some v' ∧
      v'.Shows { s with products := s.products.insert p x', pending } := by
  obtain ⟨hget, hactive⟩ := activeProduct_eq_ok_iff.mp hx
  obtain ⟨l, hl, hoffer, hlevel⟩ := hv.listing hget
  have ha : l.active = true := by
    have : l.active = x.active := congrArg (·.2.2) hoffer
    rw [this, hactive]
  obtain ⟨l', hl', hoffer', hsame⟩ := hf l hoffer
  refine ⟨_, StoreView.update_eq hl ha hl', ?_⟩
  rw [← hsame] at hlevel
  exact hv.insert l' x' hoffer' rfl rfl rfl (fun q => Table.get?_insert ..) (Table.get?_eq_ite hlevel)

/-- A change of a price is told of, with the price before it. -/
theorem grows_updatePrice {price : Money} (h : s.updatePrice p price = .ok s') :
    ∃ oldPrice, s.Grows s' [.priceUpdated s.id p oldPrice price] := by
  obtain ⟨x, x', hx, hx', rfl⟩ := updatePrice_eq_ok_iff.mp h
  obtain ⟨rfl, _⟩ := withPrice_eq_ok hx'
  refine ⟨x.price, .single rfl rfl rfl fun v hv => ?_⟩
  refine shows_product hv hx fun l hoffer => ⟨{ l with price }, ?_, ?_, rfl⟩
  · rw [if_pos]
    exact congrArg (·.2.1) hoffer
  · have hname : l.name = x.name.text := congrArg (·.1) hoffer
    have hactive : l.active = x.active := congrArg (·.2.2) hoffer
    show (l.name, price, l.active) = (x.name.text, price, x.active)
    rw [hname, hactive]

/-- That a product is taken off sale is told of. -/
theorem grows_deactivateProduct (h : s.deactivateProduct p = .ok s') :
    s.Grows s' [.productDeactivated s.id p] := by
  obtain ⟨x, hx, rfl⟩ := deactivateProduct_eq_ok_iff.mp h
  refine .single rfl rfl rfl fun v hv => ?_
  refine shows_product hv hx fun l hoffer => ⟨{ l with active := false }, rfl, ?_, rfl⟩
  have hname : l.name = x.name.text := congrArg (·.1) hoffer
  have hprice : l.price = x.price := congrArg (·.2.1) hoffer
  show (l.name, l.price, false) = (x.name.text, x.price, false)
  rw [hname, hprice]

/-- A new store is told of. -/
theorem replay_create {id : StoreId} {name : String} {location : Address} {currency : String}
    (h : create id name location currency = .ok s) :
    s.pending = [.created id name location s.currency] ∧
      ∃ v, StoreView.replay s.pending = some v ∧ v.Shows s := by
  unfold create at h
  split at h
  · cases h
  · obtain ⟨zero, _, he⟩ := bind_eq_ok_iff.mp h
    cases he
    exact ⟨rfl, _, rfl, rfl, rfl, rfl, fun _ => rfl, fun _ => rfl⟩

/-- **Putting lines back tells of each line that is put back**, in turn, and of no other. -/
theorem grows_release (s : Store) (lines : List OrderLine) :
    ∃ events, s.Grows (s.release lines).1 events ∧
      List.Forall₂ (StoreEvent.Restores s.id) (s.release lines).2.1 events := by
  induction lines generalizing s with
  | nil => exact ⟨[], .refl s, .nil⟩
  | cons l rest ih =>
    rw [release]
    cases h : s.addInventory l.productId l.quantity with
    | error e => exact ih s
    | ok s₁ =>
      obtain ⟨level, _, hone⟩ := grows_addInventory h
      obtain ⟨events, hrest, htold⟩ := ih s₁
      rw [hone.id_eq] at htold
      exact ⟨_, hone.trans hrest, .cons ⟨level, rfl⟩ htold⟩

end Store

end Storefront
