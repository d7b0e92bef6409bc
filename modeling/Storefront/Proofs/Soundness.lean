import Storefront.Proofs.Placing

/-! # What is kept stays sound

Everything is kept under its own identifier, every store is in form, and every order has
been placed at a store that is kept and still has all of its products.  Commands preserve
this (`Command.Effect.sound`) as long as what they make is given a new identifier: were a
store overwritten by a new one, the orders at the old one would be left without products.
`Repositories.IssuedFrom` keeps account of the identifiers that have been given away.
-/
namespace Storefront

/-! ### How orders move -/

/-- Whether stock has left the store for the order, and has not come back. -/
def OrderStatus.takesStock (s : OrderStatus) : Bool :=
  s == .confirmed || s == .preparing || s == .ready || s == .completed

namespace Order

variable {o o' : Order}

theorem ensureMove_eq_ok_iff {next : OrderStatus} :
    o.ensureMove next = .ok () ↔ o.status.canMoveTo next = true := by
  unfold ensureMove
  split <;> simp_all

/-- **An order is cancelled if and only if it is pending, confirmed or being prepared**, and
then only its status, its reason and its news change. -/
theorem cancel_eq_ok_iff {reason : String} :
    o.cancel reason = .ok o' ↔
      o.status.canCancel = true ∧
        o' = { o with
          status := .cancelled
          cancellationReason := some reason
          pending := o.pending ++ [.cancelled o.id o.customerId o.storeId reason o.status] } := by
  unfold cancel OrderStatus.canCancel
  rw [bind_eq_ok_iff]
  constructor
  · rintro ⟨_, hm, he⟩
    cases he
    exact ⟨ensureMove_eq_ok_iff.mp hm, rfl⟩
  · rintro ⟨hm, rfl⟩
    exact ⟨(), ensureMove_eq_ok_iff.mpr hm, rfl⟩

/-- Moving on changes nothing but the status and the news, and leaves stock where it is. -/
theorem advance_eq_ok {now : Timestamp} {transition : OrderTransition}
    (h : o.advance now transition = .ok o') :
    o.status.takesStock = true ∧ o'.status.takesStock = true ∧
      o' = { o with status := o'.status, pending := o'.pending } := by
  have hfrom : ∀ s : OrderStatus, (s.canMoveTo .preparing = true ∨ s.canMoveTo .ready = true ∨
      s.canMoveTo .completed = true) → s.takesStock = true := by
    intro s
    cases s <;> decide
  cases transition with
  | startPreparing =>
    obtain ⟨_, hm, he⟩ := bind_eq_ok_iff.mp h
    cases he
    exact ⟨hfrom _ (.inl (ensureMove_eq_ok_iff.mp hm)), rfl, rfl⟩
  | markReady =>
    obtain ⟨_, hm, he⟩ := bind_eq_ok_iff.mp h
    cases he
    exact ⟨hfrom _ (.inr (.inl (ensureMove_eq_ok_iff.mp hm))), rfl, rfl⟩
  | complete =>
    obtain ⟨_, hm, he⟩ := bind_eq_ok_iff.mp h
    cases he
    exact ⟨hfrom _ (.inr (.inr (ensureMove_eq_ok_iff.mp hm))), rfl, rfl⟩

end Order

namespace Repositories

variable {r r' : Repositories}

theorem findOrder_eq_ok_iff {id : OrderId} {o : Order} :
    r.findOrder id = .ok o ↔ r.orders.get? id = some o := by
  unfold findOrder
  cases r.orders.get? id <;> simp

theorem findCustomer_eq_ok_iff {id : CustomerId} {c : Customer} :
    r.findCustomer id = .ok c ↔ r.customers.get? id = some c := by
  unfold findCustomer
  cases r.customers.get? id <;> simp

theorem decideCancel_eq_ok_iff {id : OrderId} {reason : String} {before order : Order} :
    r.decideCancel id reason = .ok (before, order) ↔
      r.orders.get? id = some before ∧ before.cancel reason = .ok order := by
  unfold decideCancel
  simp only [bind_eq_ok_iff, findOrder_eq_ok_iff, liftM_order, mapError_eq_ok_iff, pure_eq_ok,
    Except.ok.injEq, Prod.mk.injEq]
  constructor
  · rintro ⟨o, ho, o', ho', rfl, rfl⟩
    exact ⟨ho, ho'⟩
  · rintro ⟨ho, ho'⟩
    exact ⟨before, ho, order, ho', rfl, rfl⟩

theorem decideAdvance_eq_ok_iff {now : Timestamp} {id : OrderId} {transition : OrderTransition}
    {order : Order} :
    r.decideAdvance now id transition = .ok order ↔
      ∃ before, r.orders.get? id = some before ∧ before.advance now transition = .ok order := by
  unfold decideAdvance
  simp only [bind_eq_ok_iff, findOrder_eq_ok_iff, liftM_order, mapError_eq_ok_iff]

theorem saveCustomer_eq_ok {c : Customer} (h : r.saveCustomer c = .ok r') :
    r' = { r with customers := r.customers.insert c.id c.settled } := by
  unfold saveCustomer at h
  split at h
  · cases h
  · cases h
    rfl

/-- A change of a customer keeps the customer under their own identifier. -/
theorem decideCustomer_eq_ok {id : CustomerId} {change : Customer → Except CustomerError Customer}
    {c : Customer} (h : r.decideCustomer id change = .ok (c, r')) :
    r' = { r with customers := r.customers.insert c.id c.settled } := by
  unfold decideCustomer at h
  obtain ⟨before, _, h⟩ := bind_eq_ok_iff.mp h
  obtain ⟨c', _, h⟩ := bind_eq_ok_iff.mp h
  obtain ⟨r'', hr, h⟩ := bind_eq_ok_iff.mp h
  cases h
  exact saveCustomer_eq_ok hr

theorem decideRegister_eq_ok {supply : Supply} {email firstName lastName : String} {c : Customer}
    (h : r.decideRegister supply email firstName lastName = .ok (c, r')) :
    r' = { r with customers := r.customers.insert c.id c.settled } := by
  unfold decideRegister at h
  obtain ⟨c', _, h⟩ := bind_eq_ok_iff.mp h
  split at h
  · cases h
  · obtain ⟨r'', hr, h⟩ := bind_eq_ok_iff.mp h
    cases h
    exact saveCustomer_eq_ok hr

/-! ### Soundness -/

/-- The order has been placed at a store that has all of its products. -/
structure Backs (r : Repositories) (o : Order) : Prop where
  placed : o.status ≠ .pending
  nodup : (o.lines.map (·.productId)).Nodup
  quantity : ∀ l ∈ o.lines, l.quantity ≠ 0
  store : ∃ s, r.stores.get? o.storeId = some s ∧ ∀ l ∈ o.lines, l.productId ∈ s.products.keys

/-- Everything is kept under its own identifier, stores are in form, orders are backed, and
neither has anything left to tell. -/
structure Sound (r : Repositories) : Prop where
  store : ∀ id s, r.stores.get? id = some s → s.id = id ∧ s.Sound
  order : ∀ id o, r.orders.get? id = some o → o.id = id ∧ r.Backs o
  customer : ∀ id c, r.customers.get? id = some c → c.id = id
  storeNews : ∀ id s, r.stores.get? id = some s → s.pending = []
  orderNews : ∀ id o, r.orders.get? id = some o → o.pending = []

theorem sound_empty : Repositories.empty.Sound := by
  constructor
  all_goals
    intro _ _ h
    cases h

/-- Only the stores and the lines of an order matter for whether it is backed. -/
theorem Backs.of_eq {o o' : Order} (h : r.Backs o) (hr : r'.stores = r.stores)
    (hp : o'.status ≠ .pending) (hl : o'.lines = o.lines) (hs : o'.storeId = o.storeId) :
    r'.Backs o' := by
  refine ⟨hp, ?_, ?_, ?_⟩
  · rw [hl]
    exact h.nodup
  · rw [hl]
    exact h.quantity
  · rw [hr, hl, hs]
    exact h.store

/-- A store may be written over by one that has all of its products. -/
theorem Backs.saveStore {o : Order} (h : r.Backs o) {s' : Store}
    (hkeep : ∀ s, r.stores.get? s'.id = some s → ∀ p ∈ s.products.keys, p ∈ s'.products.keys) :
    (r.saveStore s').Backs o := by
  obtain ⟨s, hs, hl⟩ := h.store
  refine ⟨h.placed, h.nodup, h.quantity, ?_⟩
  show ∃ s'', (r.stores.insert s'.id s'.settled).get? o.storeId = some s'' ∧ _
  rw [Table.get?_insert]
  by_cases he : o.storeId = s'.id
  · rw [if_pos he]
    exact ⟨_, rfl, fun l hm => hkeep s (he ▸ hs) _ (hl l hm)⟩
  · rw [if_neg he]
    exact ⟨s, hs, hl⟩

namespace Sound

theorem saveStore (hr : r.Sound) {s' : Store} (hs' : s'.Sound)
    (hkeep : ∀ s, r.stores.get? s'.id = some s → ∀ p ∈ s.products.keys, p ∈ s'.products.keys) :
    (r.saveStore s').Sound := by
  have hall : ∀ id s, (r.stores.insert s'.id s'.settled).get? id = some s →
      s.id = id ∧ s.Sound ∧ s.pending = [] := by
    intro id s hs
    rw [Table.get?_insert] at hs
    by_cases he : id = s'.id
    · rw [if_pos he] at hs
      cases hs
      exact ⟨he.symm, hs'.settled, rfl⟩
    · rw [if_neg he] at hs
      obtain ⟨hid, hsound⟩ := hr.store id s hs
      exact ⟨hid, hsound, hr.storeNews id s hs⟩
  refine ⟨fun id s hs => ⟨(hall id s hs).1, (hall id s hs).2.1⟩, fun id o ho => ?_, hr.customer,
    fun id s hs => (hall id s hs).2.2, hr.orderNews⟩
  obtain ⟨hid, hb⟩ := hr.order id o ho
  exact ⟨hid, hb.saveStore hkeep⟩

/-- A store that is kept may be written over by one in form that has all of its products. -/
theorem overwrite (hr : r.Sound) {id : StoreId} {s s' : Store} (hs : r.stores.get? id = some s)
    (hs' : s'.Sound) (hid : s'.id = s.id) (hkeep : ∀ p ∈ s.products.keys, p ∈ s'.products.keys) :
    (r.saveStore s').Sound := by
  refine hr.saveStore hs' fun t ht => ?_
  rw [hid, (hr.store id s hs).1, hs] at ht
  cases ht
  exact hkeep

theorem saveOrder (hr : r.Sound) {o : Order} (ho : r.Backs o) : (r.saveOrder o).Sound := by
  have hall : ∀ id o', (r.orders.insert o.id o.settled).get? id = some o' →
      o'.id = id ∧ (r.saveOrder o).Backs o' ∧ o'.pending = [] := by
    intro id o' ho'
    rw [Table.get?_insert] at ho'
    by_cases he : id = o.id
    · rw [if_pos he] at ho'
      cases ho'
      exact ⟨he.symm, ho.of_eq rfl ho.placed rfl rfl, rfl⟩
    · rw [if_neg he] at ho'
      obtain ⟨hid, hb⟩ := hr.order id o' ho'
      exact ⟨hid, hb.of_eq rfl hb.placed rfl rfl, hr.orderNews id o' ho'⟩
  exact ⟨hr.store, fun id o' ho' => ⟨(hall id o' ho').1, (hall id o' ho').2.1⟩, hr.customer,
    hr.storeNews, fun id o' ho' => (hall id o' ho').2.2⟩

/-- An order that is kept may be written over by what it is once it is cancelled. -/
theorem cancel (hr : r.Sound) {id : OrderId} {reason : String} {before order : Order}
    (hbefore : r.orders.get? id = some before) (h : before.cancel reason = .ok order) :
    (r.saveOrder order).Sound := by
  obtain ⟨_, rfl⟩ := Order.cancel_eq_ok_iff.mp h
  exact hr.saveOrder ((hr.order _ _ hbefore).2.of_eq rfl OrderStatus.noConfusion rfl rfl)

theorem insert_customer (hr : r.Sound) (c : Customer) :
    Sound { r with customers := r.customers.insert c.id c.settled } := by
  refine ⟨hr.store, fun id o ho => ?_, fun id c' hc' => ?_, hr.storeNews, hr.orderNews⟩
  · obtain ⟨hid, hb⟩ := hr.order id o ho
    exact ⟨hid, hb.of_eq rfl hb.placed rfl rfl⟩
  · have hc' : (r.customers.insert c.id c.settled).get? id = some c' := hc'
    rw [Table.get?_insert] at hc'
    by_cases he : id = c.id
    · rw [if_pos he] at hc'
      cases hc'
      exact he.symm
    · rw [if_neg he] at hc'
      exact hr.customer id c' hc'

end Sound

/-! ### Identifiers that have been given away -/

/-- Stores, orders and products have identifiers that have been given away. -/
structure IssuedFrom (used : List Uuid) (r : Repositories) : Prop where
  store : ∀ id ∈ r.stores.keys, id.uuid ∈ used
  order : ∀ id ∈ r.orders.keys, id.uuid ∈ used
  product : ∀ id s, r.stores.get? id = some s → ∀ p ∈ s.products.keys, p.uuid ∈ used

variable {used used' : List Uuid}

theorem issuedFrom_empty : Repositories.empty.IssuedFrom used :=
  ⟨fun _ h => absurd h List.not_mem_nil, fun _ h => absurd h List.not_mem_nil,
    fun _ _ h => by cases h⟩

namespace IssuedFrom

theorem mono (h : r.IssuedFrom used) (hu : ∀ u ∈ used, u ∈ used') : r.IssuedFrom used' :=
  ⟨fun id hid => hu _ (h.store id hid), fun id hid => hu _ (h.order id hid),
    fun id s hs p hp => hu _ (h.product id s hs p hp)⟩

/-- What is new has no store yet. -/
theorem store_eq_none (h : r.IssuedFrom used) {id : StoreId} (hid : id.uuid ∉ used) :
    r.stores.get? id = none := Table.get?_eq_none_iff.mpr fun hm => hid (h.store id hm)

/-- What is new has no order yet. -/
theorem order_eq_none (h : r.IssuedFrom used) {id : OrderId} (hid : id.uuid ∉ used) :
    r.orders.get? id = none := Table.get?_eq_none_iff.mpr fun hm => hid (h.order id hm)

theorem saveStore (h : r.IssuedFrom used) {s : Store} (hid : s.id.uuid ∈ used)
    (hp : ∀ p ∈ s.products.keys, p.uuid ∈ used) : (r.saveStore s).IssuedFrom used := by
  refine ⟨fun id hm => ?_, h.order, fun id t ht p hm => ?_⟩
  · rcases Table.mem_keys_insert.mp hm with rfl | hm
    · exact hid
    · exact h.store id hm
  · have ht : (r.stores.insert s.id s.settled).get? id = some t := ht
    rw [Table.get?_insert] at ht
    by_cases he : id = s.id
    · rw [if_pos he] at ht
      cases ht
      exact hp p hm
    · rw [if_neg he] at ht
      exact h.product id t ht p hm

theorem saveOrder (h : r.IssuedFrom used) {o : Order} (hid : o.id.uuid ∈ used) :
    (r.saveOrder o).IssuedFrom used := by
  refine ⟨h.store, fun id hm => ?_, h.product⟩
  rcases Table.mem_keys_insert.mp hm with rfl | hm
  · exact hid
  · exact h.order id hm

end IssuedFrom

/-- Everything that is kept is sound and has an identifier that has been given away. -/
structure WellKept (used : List Uuid) (r : Repositories) : Prop where
  sound : r.Sound
  issued : r.IssuedFrom used

namespace WellKept

theorem overwrite (h : r.WellKept used) {id : StoreId} {s s' : Store}
    (hs : r.stores.get? id = some s) (hs' : s'.Sound) (hid : s'.id = s.id)
    (hkeep : ∀ p ∈ s.products.keys, p ∈ s'.products.keys)
    (hnew : ∀ p ∈ s'.products.keys, p.uuid ∈ used) : (r.saveStore s').WellKept used := by
  refine ⟨h.sound.overwrite hs hs' hid hkeep, h.issued.saveStore ?_ hnew⟩
  rw [hid, (h.sound.store id s hs).1]
  exact h.issued.store id (Table.mem_keys_of_get? hs)

/-- A store whose catalogue stays as it is may be written over. -/
theorem overwrite_sameCatalogue (h : r.WellKept used) {id : StoreId} {s s' : Store}
    (hs : r.stores.get? id = some s) (hc : Store.SameCatalogue s s') :
    (r.saveStore s').WellKept used := by
  refine h.overwrite hs ((h.sound.store id s hs).2.of_sameCatalogue hc) hc.id_eq ?_ ?_
  · rw [hc.products_eq]
    exact fun p hp => hp
  · rw [hc.products_eq]
    exact h.issued.product id s hs

theorem saveOrder (h : r.WellKept used) {o : Order} (ho : r.Backs o) (hid : o.id.uuid ∈ used) :
    (r.saveOrder o).WellKept used := ⟨h.sound.saveOrder ho, h.issued.saveOrder hid⟩

/-- An order that is kept may be written over by one that has moved. -/
theorem move_order (h : r.WellKept used) {id : OrderId} {o o' : Order}
    (ho : r.orders.get? id = some o) (hid : o'.id = o.id) (hs : o'.storeId = o.storeId)
    (hl : o'.lines = o.lines) (hp : o'.status ≠ .pending) : (r.saveOrder o').WellKept used := by
  obtain ⟨hoid, hb⟩ := h.sound.order id o ho
  refine h.saveOrder (hb.of_eq rfl hp hl hs) ?_
  rw [hid, hoid]
  exact h.issued.order id (Table.mem_keys_of_get? ho)

theorem insert_customer (h : r.WellKept used) (c : Customer) :
    WellKept used { r with customers := r.customers.insert c.id c.settled } :=
  ⟨h.sound.insert_customer c, ⟨h.issued.store, h.issued.order, h.issued.product⟩⟩

/-- Putting stock back leaves everything well kept. -/
theorem putBack (h : r.WellKept used) (o : Order) : (r.putBack o).2.WellKept used := by
  unfold Repositories.putBack
  cases hs : r.findStore o.storeId with
  | error e => exact h
  | ok s =>
    exact h.overwrite_sameCatalogue (findStore_eq_ok_iff.mp hs) (s.release_spec o.lines).1

end WellKept

end Repositories

/-! ### Placing -/

/-- An order that has been placed at a store is backed by it. -/
theorem Order.Placed.backs {id : OrderId} {fresh : Nat → LineId} {now : Timestamp}
    {customer : CustomerId} {s s' : Store} {lines : List RequestedLine} {o : Order}
    {r : Repositories} (h : o.Placed id fresh now customer s lines)
    (hq : ∀ l ∈ lines, l.quantity ≠ 0) (hs : r.stores.get? s.id = some s')
    (hc : s'.products = s.products) : r.Backs o := by
  refine ⟨?_, h.nodup, fun l hl hzero => ?_, ⟨s', ?_, fun l hl => ?_⟩⟩
  · rw [h.status_eq]
    exact OrderStatus.noConfusion
  · -- a line of nothing would be a request for nothing
    have hqty := h.quantity_eq l hl
    have hmem : l.productId ∈ lines.map (·.product) := by
      rw [← List.mem_eraseDups, ← h.products_eq]
      exact List.mem_map.mpr ⟨l, hl, rfl⟩
    obtain ⟨k, hk, hkl⟩ := List.mem_map.mp hmem
    obtain ⟨before, after, rfl⟩ := List.append_of_mem hk
    rw [hzero, requested_append, requested_cons, if_pos hkl] at hqty
    have hk0 : k.quantity.toNat ≠ 0 := fun h0 => hq k hk (UInt32.toNat_inj.mp h0)
    have : (0 : Count).toNat = 0 := rfl
    omega
  · rw [h.storeId_eq]
    exact hs
  · obtain ⟨p, hp, _⟩ := h.product_eq l hl
    rw [hc]
    exact Table.mem_keys_of_get? hp

/-! ### Commands -/

section Commands
variable {used : List Uuid} {supply : Supply} {r r' : Repositories} {command : Command}
  {outcome : Outcome}

/-- **A command that is given a new identifier leaves everything well kept.** -/
theorem Command.Effect.wellKept (h : command.Effect supply r outcome r') (hr : r.WellKept used)
    (hfresh : supply.uuid 0 ∉ used) : r'.WellKept (supply.uuid 0 :: used) := by
  have hr' : r.WellKept (supply.uuid 0 :: used) :=
    ⟨hr.sound, hr.issued.mono fun u hu => List.mem_cons_of_mem _ hu⟩
  cases h with
  | createStore h =>
    obtain ⟨hid, hp, hi, _⟩ := Store.create_eq_ok h
    have hnone : r.stores.get? (supply.id .store) = none := hr.issued.store_eq_none hfresh
    refine ⟨hr.sound.saveStore (Store.sound_create h) fun s hs => ?_, hr'.issued.saveStore ?_ ?_⟩
    · rw [hid, hnone] at hs
      cases hs
    · rw [hid]
      exact List.mem_cons_self ..
    · rw [hp]
      exact fun p hm => absurd hm List.not_mem_nil
  | addProduct hs h =>
    have hsound := (hr.sound.store _ _ hs).2.addProduct h
    obtain ⟨n, _, _, _, _, rfl⟩ := Store.addProduct_eq_ok_iff.mp h
    refine hr'.overwrite hs hsound rfl (fun p hp => ?_) fun p hp => ?_
    · exact Table.mem_keys_insert.mpr (.inr hp)
    · rcases Table.mem_keys_insert.mp hp with rfl | hp
      · exact List.mem_cons_self ..
      · exact hr'.issued.product _ _ hs p hp
  | addInventory hs h _ => exact hr'.overwrite_sameCatalogue hs (Store.addInventory_sameCatalogue h)
  | updatePrice hs h _ =>
    have hsound := (hr.sound.store _ _ hs).2.updatePrice h
    obtain ⟨p, p', hp, _, rfl⟩ := Store.updatePrice_eq_ok_iff.mp h
    have hkeys := Table.keys_insert_of_mem
      (Table.mem_keys_of_get? (Store.activeProduct_eq_ok_iff.mp hp).1) p'
    refine hr'.overwrite hs hsound rfl (fun q hq => hkeys ▸ hq) fun q hq => ?_
    exact hr'.issued.product _ _ hs q (hkeys ▸ hq)
  | deactivateProduct hs h =>
    have hsound := (hr.sound.store _ _ hs).2.deactivateProduct h
    obtain ⟨p, hp, rfl⟩ := Store.deactivateProduct_eq_ok_iff.mp h
    have hkeys := Table.keys_insert_of_mem
      (Table.mem_keys_of_get? (Store.activeProduct_eq_ok_iff.mp hp).1) { p with active := false }
    refine hr'.overwrite hs hsound rfl (fun q hq => hkeys ▸ hq) fun q hq => ?_
    exact hr'.issued.product _ _ hs q (hkeys ▸ hq)
  | register h =>
    rw [Repositories.decideRegister_eq_ok h]
    exact hr'.insert_customer _
  | updateContact h | redeemPoints h | deactivateCustomer h =>
    rw [Repositories.decideCustomer_eq_ok h]
    exact hr'.insert_customer _
  | @createOrder customerId storeId lines o s' h =>
    obtain ⟨hq, s, hs, hplaced, hcat, _⟩ :=
      Repositories.decideOrder_eq_ok (fun s hs => (hr.sound.store _ s hs).2) h
    have hstored : (r.saveStore s').stores.get? s.id = some s'.settled := by
      rw [← hcat.id_eq]
      exact Table.get?_insert_self ..
    have hbacks := hplaced.backs hq hstored hcat.products_eq
    refine (hr'.overwrite_sameCatalogue hs hcat).saveOrder hbacks ?_
    rw [hplaced.id_eq]
    exact List.mem_cons_self ..
  | cancelOrder h _ =>
    obtain ⟨hbefore, hcancel⟩ := Repositories.decideCancel_eq_ok_iff.mp h
    obtain ⟨_, rfl⟩ := Order.cancel_eq_ok_iff.mp hcancel
    exact hr'.move_order hbefore rfl rfl rfl OrderStatus.noConfusion
  | @cancelReserved id reason before order released failed news r' h _ hb =>
    obtain ⟨hbefore, hcancel⟩ := Repositories.decideCancel_eq_ok_iff.mp h
    have hmoved : (r.saveOrder order).WellKept (supply.uuid 0 :: used) := by
      obtain ⟨_, rfl⟩ := Order.cancel_eq_ok_iff.mp hcancel
      exact hr'.move_order hbefore rfl rfl rfl OrderStatus.noConfusion
    have hback := hmoved.putBack order
    rw [hb] at hback
    exact hback
  | advanceOrder h =>
    obtain ⟨before, hbefore, hadvance⟩ := Repositories.decideAdvance_eq_ok_iff.mp h
    obtain ⟨_, htakes, he⟩ := Order.advance_eq_ok hadvance
    refine hr'.move_order hbefore ?_ ?_ ?_ fun hp => ?_
    · rw [he]
    · rw [he]
    · rw [he]
    · rw [hp] at htakes
      cases htakes

end Commands

end Storefront
