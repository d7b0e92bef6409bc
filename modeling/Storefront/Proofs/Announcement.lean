import Storefront.Proofs.Chronicle
import Storefront.Proofs.Course

/-! # What commands announce

`Command.Announces` lists the events that a command which is done has to tell, one for each
change that it has made: an order that is placed is created and confirmed, and stock is set
aside for each requested line in turn; an order that is cancelled is cancelled, and stock is
put back for each line that is released, while nothing is said of a line that is not.

These are the events that commands do tell, and what they tell goes on with every chronicle of
what was kept before (`Command.Effect.told`).
-/
namespace Storefront

/-- **What is told of a command that is done**, event by event. -/
inductive Command.Announces (supply : Supply) : Command → Outcome → List Payload → Prop where
  | createStore {name location currency s} :
      Announces supply (.createStore name location currency) (.store s)
        [.store (.created (supply.id .store) name location s.currency)]
  | addProduct {store name description price p} :
      Announces supply (.addProduct store name description price) (.product p)
        [.store (.productAdded store (supply.id .product) name price)]
  | addInventory {store product quantity level} :
      Announces supply (.addInventory store product quantity) (.level level)
        [.store (.inventoryAdded store product quantity level)]
  | updatePrice {store product price oldPrice p} :
      Announces supply (.updatePrice store product price) (.product p)
        [.store (.priceUpdated store product oldPrice price)]
  | deactivateProduct {store product} :
      Announces supply (.deactivateProduct store product) .nothing
        [.store (.productDeactivated store product)]
  | register {email firstName lastName c} :
      Announces supply (.register email firstName lastName) (.customer c)
        [.customer (.registered (supply.id .customer) c.email.text c.firstName c.lastName)]
  | updateContact {customer phone address c number} (hnumber : c.phoneNumber = some number) :
      Announces supply (.updateContact customer phone address) (.customer c)
        [.customer (.contactUpdated customer number.text address)]
  | redeemPoints {customer points c} :
      Announces supply (.redeemPoints customer points) (.customer c)
        [.customer (.pointsRedeemed customer points c.loyaltyPoints)]
  /-- Spending points may lower the tier. -/
  | redeemPointsTier {customer points c oldTier} (htier : oldTier ≠ c.tier) :
      Announces supply (.redeemPoints customer points) (.customer c)
        [.customer (.pointsRedeemed customer points c.loyaltyPoints),
          .customer (.tierChanged customer oldTier c.tier c.loyaltyPoints)]
  | deactivateCustomer {customer c} :
      Announces supply (.deactivateCustomer customer) (.customer c)
        [.customer (.deactivated customer)]
  | createOrder {customer store lines o items reserved} (hitems : o.snapshots = .ok items)
      (hreserved : List.Forall₂ (StoreEvent.Reserves store) lines reserved) :
      Announces supply (.createOrder customer store lines) (.order o)
        (.order (.created (supply.id .order) customer store supply.now) ::
          .order (.confirmed (supply.id .order) customer store o.total items) ::
            reserved.map .store)
  | cancelOrder {order reason c previous restored}
      (hrestored : List.Forall₂ (StoreEvent.Restores c.order.storeId) c.released restored) :
      Announces supply (.cancelOrder order reason) (.cancellation c)
        (.order (.cancelled order c.order.customerId c.order.storeId reason previous) ::
          restored.map .store)
  | advanceOrder {order transition o} :
      Announces supply (.advanceOrder order transition) (.order o)
        [.order (o.progress supply.now transition)]

/-! ### Customers -/

/-- Everything that is kept of customers has been told. -/
def Repositories.CustomersSettled (r : Repositories) : Prop :=
  ∀ id c, r.customers.get? id = some c → c.pending = []

namespace Repositories

variable {r r' : Repositories}

/-- A change of a customer begins with the customer that is kept. -/
theorem decideCustomer_before {id : CustomerId} {change : Customer → Except CustomerError Customer}
    {c : Customer} (h : r.decideCustomer id change = .ok (c, r')) :
    ∃ before, r.customers.get? id = some before ∧ change before = .ok c := by
  unfold decideCustomer at h
  obtain ⟨before, hb, h⟩ := bind_eq_ok_iff.mp h
  obtain ⟨c', hc, h⟩ := bind_eq_ok_iff.mp h
  obtain ⟨r'', _, h⟩ := bind_eq_ok_iff.mp h
  cases h
  exact ⟨before, findCustomer_eq_ok_iff.mp hb, mapError_eq_ok_iff.mp hc⟩

/-- Who is registered is a new customer. -/
theorem register_of_decideRegister {supply : Supply} {email firstName lastName : String}
    {c : Customer} (h : r.decideRegister supply email firstName lastName = .ok (c, r')) :
    Customer.register (supply.id .customer) email firstName lastName supply.now = .ok c := by
  unfold decideRegister at h
  obtain ⟨c', hc, h⟩ := bind_eq_ok_iff.mp h
  split at h
  · cases h
  · obtain ⟨r'', _, h⟩ := bind_eq_ok_iff.mp h
    cases h
    exact mapError_eq_ok_iff.mp hc

end Repositories

namespace Customer

variable {c c' : Customer}

theorem register_news {id : CustomerId} {email firstName lastName : String} {now : Timestamp}
    (h : register id email firstName lastName now = .ok c) :
    c.pending = [.registered id c.email.text c.firstName c.lastName] := by
  unfold register at h
  split at h
  · cases h
  · obtain ⟨e, _, he⟩ := bind_eq_ok_iff.mp h
    cases he
    rfl

theorem updateContact_news {phone : String} {address : Address}
    (h : c.updateContact phone address = .ok c') :
    ∃ number, c'.phoneNumber = some number ∧
      c'.pending = c.pending ++ [.contactUpdated c.id number.text address] := by
  obtain ⟨_, _, h⟩ := bind_eq_ok_iff.mp h
  obtain ⟨number, _, he⟩ := bind_eq_ok_iff.mp h
  cases he
  exact ⟨number, rfl, rfl⟩

theorem deactivate_news (h : c.deactivate = .ok c') :
    c'.pending = c.pending ++ [.deactivated c.id] := by
  obtain ⟨_, _, he⟩ := bind_eq_ok_iff.mp h
  cases he
  rfl

/-- Points that are spent are told of, and then the tier if it is another one. -/
theorem redeemPoints_news {points : Count} (h : c.redeemPoints points = .ok c') :
    c'.pending = c.pending ++ [.pointsRedeemed c.id points c'.loyaltyPoints] ∨
      ∃ oldTier, oldTier ≠ c'.tier ∧ c'.pending = c.pending ++
        [.pointsRedeemed c.id points c'.loyaltyPoints,
          .tierChanged c.id oldTier c'.tier c'.loyaltyPoints] := by
  unfold redeemPoints at h
  by_cases hp : points = 0
  · rw [if_pos hp] at h
    cases h
  · rw [if_neg hp] at h
    obtain ⟨_, _, h⟩ := bind_eq_ok_iff.mp h
    by_cases hlt : c.loyaltyPoints < points
    · rw [if_pos hlt] at h
      cases h
    · rw [if_neg hlt] at h
      cases h
      unfold reviewTier
      dsimp only
      split
      · exact .inl rfl
      · rename_i htier
        refine .inr ⟨c.tier, Ne.symm htier, ?_⟩
        exact List.append_assoc ..

end Customer

/-! ### What commands do tell -/

section Told
variable {α ε : Type} {log : List Payload} {used : List Uuid} {supply : Supply}
  {r r' : Repositories} {command : Command} {outcome : Outcome}

theorem toldOf_eq {decision : Except ε α} {a : α} (h : decision = .ok a)
    (tell : α → List Payload) : toldOf decision tell = tell a := by
  rw [h]
  rfl

/-- A change of a store goes on with a chronicle. -/
theorem Chronicle.change (hc : Chronicle log r) (hr : r.WellKept used) {id : StoreId}
    (change : Store → Except StoreError (α × Store)) {s s' : Store} {a : α}
    {events : List StoreEvent} (hs : r.stores.get? id = some s) (hx : change s = .ok (a, s'))
    (hgrows : s.Grows s' events) :
    toldOf (r.decideChange id change) (fun x => x.2.news) = events.map .store ∧
      Chronicle (log ++ events.map .store) (r.saveStore s') := by
  constructor
  · rw [toldOf_eq (Repositories.decideChange_eq_ok_iff.mpr ⟨s, hs, hx⟩), Store.news,
      hgrows.pending_eq, hr.sound.storeNews id s hs]
    rfl
  · exact hc.growStore hs (hr.sound.store id s hs).1 hgrows

/-- A change of a customer goes on with a chronicle. -/
theorem Chronicle.changeCustomer (hc : Chronicle log r) (hq : r.CustomersSettled)
    {id : CustomerId} {change : Customer → Except CustomerError Customer} {c : Customer}
    (h : r.decideCustomer id change = .ok (c, r')) {before : Customer}
    (hbefore : r.customers.get? id = some before) {events : List CustomerEvent}
    (hevents : c.pending = before.pending ++ events) :
    toldOf (r.decideCustomer id change) (fun x => x.1.news) = events.map .customer ∧
      Chronicle (log ++ events.map .customer) r' := by
  constructor
  · rw [toldOf_eq h, Customer.news, hevents, hq id before hbefore]
    rfl
  · have hr' := Repositories.decideCustomer_eq_ok h
    exact hc.customers events (by rw [hr']) (by rw [hr'])

/-- Stock that goes back goes on with a chronicle, and is told of line by line. -/
theorem Chronicle.putBack (hc : Chronicle log r) (hr : r.Sound) (o : Order) :
    ∃ events, (r.putBack o).1.2.2 = events.map .store ∧
      List.Forall₂ (StoreEvent.Restores o.storeId) (r.putBack o).1.1 events ∧
        Chronicle (log ++ events.map .store) (r.putBack o).2 := by
  unfold Repositories.putBack
  cases hs : r.findStore o.storeId with
  | error e =>
    refine ⟨[], rfl, .nil, ?_⟩
    rw [List.map_nil, List.append_nil]
    exact hc
  | ok s =>
    have hget := Repositories.findStore_eq_ok_iff.mp hs
    obtain ⟨hid, _⟩ := hr.store _ s hget
    obtain ⟨events, hgrows, htold⟩ := s.grows_release o.lines
    refine ⟨events, ?_, hid ▸ htold, hc.growStore hget hid hgrows⟩
    show (s.release o.lines).1.pending.map Payload.store = _
    rw [hgrows.pending_eq, hr.storeNews _ s hget, List.nil_append]

/-- What has been decided on is an order that has been placed at the store that is kept. -/
theorem Repositories.place_of_decideOrder {customerId : CustomerId} {storeId : StoreId}
    {lines : List RequestedLine} {o : Order} {s' : Store}
    (h : r.decideOrder supply customerId storeId lines = .ok (o, s')) :
    ∃ s, r.stores.get? storeId = some s ∧
      Order.place (supply.id .order) supply.line supply.now customerId s lines = .ok (o, s') := by
  unfold decideOrder at h
  obtain ⟨_, _, h⟩ := bind_eq_ok_iff.mp h
  obtain ⟨c, _, h⟩ := bind_eq_ok_iff.mp h
  cases ha : c.active with
  | false =>
    rw [ha] at h
    cases h
  | true =>
    rw [ha] at h
    obtain ⟨s, hs, h⟩ := bind_eq_ok_iff.mp h
    exact ⟨s, findStore_eq_ok_iff.mp hs, h⟩

/-- An order that is placed goes on with a chronicle. -/
theorem Chronicle.place (hc : Chronicle log r) (hr : r.WellKept used)
    (hfresh : supply.uuid 0 ∉ used) {customerId : CustomerId} {storeId : StoreId}
    {lines : List RequestedLine} {o : Order} {s' : Store}
    (h : r.decideOrder supply customerId storeId lines = .ok (o, s')) :
    (Command.createOrder customerId storeId lines).Announces supply (.order o.settled)
        (o.news ++ s'.news) ∧
      Chronicle (log ++ (o.news ++ s'.news)) ((r.saveStore s').saveOrder o) := by
  obtain ⟨s, hs, hplace⟩ := Repositories.place_of_decideOrder h
  obtain ⟨hid, ⟨items, hitems, hpending⟩, hview, events, hgrows, htold⟩ := Order.place_tells hplace
  have hsid := (hr.sound.store storeId s hs).1
  have hnews : s'.news = events.map .store := by
    rw [Store.news, hgrows.pending_eq, hr.sound.storeNews storeId s hs]
    rfl
  rw [hsid] at htold hpending
  rw [hnews]
  constructor
  · rw [Order.news, hpending]
    exact .createOrder hitems htold
  · -- the order and the store are kept apart, so that either may be kept first
    have horder : Chronicle (log ++ o.pending.map .order) (r.saveOrder o) := by
      refine hc.saveOrder (fun e he => ?_) ?_
      · rw [hpending] at he
        rw [hid]
        simp only [List.mem_cons, List.not_mem_nil, or_false] at he
        rcases he with rfl | rfl <;> rfl
      · have hnone : r.orders.get? o.id = none := by
          rw [hid]
          exact hr.issued.order_eq_none hfresh
        rw [hc.orders.silent _ hnone]
        exact hview
    have hboth := horder.growStore hs hsid hgrows
    rw [List.append_assoc] at hboth
    exact hboth

/-- An order that is cancelled goes on with a chronicle. -/
theorem Chronicle.cancel (hc : Chronicle log r) (hr : r.Sound) {id : OrderId} {reason : String}
    {before order : Order} (h : r.decideCancel id reason = .ok (before, order)) :
    order.news = [.order (.cancelled id order.customerId order.storeId reason before.status)] ∧
      Chronicle (log ++ order.news) (r.saveOrder order) := by
  obtain ⟨hbefore, hcancel⟩ := Repositories.decideCancel_eq_ok_iff.mp h
  have hshown := fun (v : OrderView) (hv : v.Shows before) => Order.shows_cancel hcancel hv
  have hsettled := hr.orderNews id before hbefore
  obtain rfl := (hr.order id before hbefore).1
  obtain ⟨_, rfl⟩ := Order.cancel_eq_ok_iff.mp hcancel
  have hnews : Order.news { before with
      status := .cancelled
      cancellationReason := some reason
      pending := before.pending ++ [.cancelled before.id before.customerId before.storeId reason
        before.status] } =
      [.order (.cancelled before.id before.customerId before.storeId reason before.status)] := by
    rw [Order.news, hsettled]
    rfl
  rw [hnews]
  exact ⟨rfl, hc.moveOrder hbefore rfl rfl hshown⟩

/-- An order that moves on goes on with a chronicle. -/
theorem Chronicle.advance (hc : Chronicle log r) (hr : r.Sound) {now : Timestamp} {id : OrderId}
    {transition : OrderTransition} {o : Order}
    (h : r.decideAdvance now id transition = .ok o) :
    o.news = [.order (o.progress now transition)] ∧
      Chronicle (log ++ o.news) (r.saveOrder o) := by
  obtain ⟨before, hbefore, hadvance⟩ := Repositories.decideAdvance_eq_ok_iff.mp h
  obtain ⟨_, _, hframe⟩ := Order.advance_eq_ok hadvance
  obtain ⟨hpending, hshown⟩ := Order.shows_advance hadvance
  have hid := (hr.order id before hbefore).1
  have hid' : o.id = id := by
    rw [hframe]
    exact hid
  have hevent : before.progress now transition = o.progress now transition := by
    rw [hframe]
    cases transition <;> rfl
  have habout : (o.progress now transition).order = o.id := by cases transition <;> rfl
  rw [hevent] at hpending hshown
  have hnews : o.news = [.order (o.progress now transition)] := by
    rw [Order.news, hpending, hr.orderNews id before hbefore]
    rfl
  rw [hnews]
  exact ⟨rfl, hc.moveOrder hbefore hid' (habout.trans hid') hshown⟩

/-- What is told may be read off the command that tells it. -/
theorem Command.told_of_eq (story : List Payload) (hnews : command.news supply r = story)
    (h : command.Announces supply outcome story ∧ Chronicle (log ++ story) r') :
    command.Announces supply outcome (command.news supply r) ∧
      Chronicle (log ++ command.news supply r) r' := by
  rw [hnews]
  exact h

/-- **What a command tells is what it has to tell, and goes on with every chronicle.** -/
theorem Command.Effect.told (h : command.Effect supply r outcome r') (hr : r.WellKept used)
    (hfresh : supply.uuid 0 ∉ used) (hq : r.CustomersSettled) (hc : Chronicle log r) :
    command.Announces supply outcome (command.news supply r) ∧
      Chronicle (log ++ command.news supply r) r' := by
  cases h with
  | @createStore name location currency s h =>
    have hnews : s.news = [.store (.created (supply.id .store) name location s.currency)] := by
      rw [Store.news, (Store.replay_create h).1]
      rfl
    refine told_of_eq _ ((toldOf_eq h _).trans hnews) ⟨.createStore, ?_⟩
    exact hc.newStore h (hr.issued.store_eq_none hfresh)
  | @addProduct id name description price s s' p hs h =>
    have hnew : s.products.get? (supply.id .product) = none :=
      Table.get?_eq_none_iff.mpr fun hm => hfresh (hr.issued.product id s hs _ hm)
    obtain rfl := (hr.sound.store id s hs).1
    obtain ⟨hnews, hc'⟩ := hc.change hr
      (fun s => s.addProduct (supply.id .product) name description price) hs h
      (Store.grows_addProduct h hnew)
    exact told_of_eq _ hnews ⟨.addProduct, hc'⟩
  | @addInventory id product quantity s s' level hs h hl =>
    obtain ⟨level', hl', hgrows⟩ := Store.grows_addInventory h
    rw [Store.available_eq_ok_iff, hl'] at hl
    cases hl
    obtain rfl := (hr.sound.store id s hs).1
    obtain ⟨hnews, hc'⟩ := hc.change hr (fun s => do return ((), ← s.addInventory product quantity))
      hs (bind_eq_ok_iff.mpr ⟨s', h, rfl⟩) hgrows
    exact told_of_eq _ hnews ⟨.addInventory, hc'⟩
  | @updatePrice id product price s s' p hs h hp =>
    obtain ⟨oldPrice, hgrows⟩ := Store.grows_updatePrice h
    obtain rfl := (hr.sound.store id s hs).1
    obtain ⟨hnews, hc'⟩ := hc.change hr (fun s => do return ((), ← s.updatePrice product price))
      hs (bind_eq_ok_iff.mpr ⟨s', h, rfl⟩) hgrows
    exact told_of_eq _ hnews ⟨.updatePrice, hc'⟩
  | @deactivateProduct id product s s' hs h =>
    obtain rfl := (hr.sound.store id s hs).1
    obtain ⟨hnews, hc'⟩ := hc.change hr (fun s => do return ((), ← s.deactivateProduct product))
      hs (bind_eq_ok_iff.mpr ⟨s', h, rfl⟩) (Store.grows_deactivateProduct h)
    exact told_of_eq _ hnews ⟨.deactivateProduct, hc'⟩
  | @register email firstName lastName c _ h =>
    have hr' := Repositories.decideRegister_eq_ok h
    have hnews : c.news = [CustomerEvent.registered (supply.id .customer) c.email.text c.firstName
        c.lastName].map .customer := by
      rw [Customer.news, Customer.register_news (Repositories.register_of_decideRegister h)]
    refine told_of_eq _ ((toldOf_eq h _).trans hnews) ⟨.register, ?_⟩
    exact hc.customers _ (by rw [hr']) (by rw [hr'])
  | @updateContact id phone address c _ h =>
    obtain ⟨before, hbefore, hchange⟩ := Repositories.decideCustomer_before h
    obtain ⟨number, hnumber, hpending⟩ := Customer.updateContact_news hchange
    obtain rfl := hr.sound.customer id before hbefore
    obtain ⟨hnews, hc'⟩ := hc.changeCustomer hq h hbefore hpending
    exact told_of_eq _ hnews ⟨.updateContact hnumber, hc'⟩
  | @redeemPoints id points c _ h =>
    obtain ⟨before, hbefore, hchange⟩ := Repositories.decideCustomer_before h
    obtain rfl := hr.sound.customer id before hbefore
    rcases Customer.redeemPoints_news hchange with hpending | ⟨oldTier, htier, hpending⟩
    · obtain ⟨hnews, hc'⟩ := hc.changeCustomer hq h hbefore hpending
      exact told_of_eq _ hnews ⟨.redeemPoints, hc'⟩
    · obtain ⟨hnews, hc'⟩ := hc.changeCustomer hq h hbefore hpending
      exact told_of_eq _ hnews ⟨.redeemPointsTier htier, hc'⟩
  | @deactivateCustomer id c _ h =>
    obtain ⟨before, hbefore, hchange⟩ := Repositories.decideCustomer_before h
    obtain rfl := hr.sound.customer id before hbefore
    obtain ⟨hnews, hc'⟩ := hc.changeCustomer hq h hbefore (Customer.deactivate_news hchange)
    exact told_of_eq _ hnews ⟨.deactivateCustomer, hc'⟩
  | createOrder h =>
    exact told_of_eq _ (toldOf_eq h _) (hc.place hr hfresh h)
  | @cancelOrder id reason before order h hn =>
    obtain ⟨hnews, hc'⟩ := hc.cancel hr.sound h
    refine told_of_eq order.news ?_ ⟨?_, hc'⟩
    · refine (toldOf_eq h _).trans ?_
      dsimp only
      rw [hn]
      exact List.append_nil _
    · rw [hnews]
      show Announces supply _ _ (_ :: [].map Payload.store)
      exact .cancelOrder .nil
  | @cancelReserved id reason before order released failed news r' h hn hb =>
    obtain ⟨hnews, hc'⟩ := hc.cancel hr.sound h
    obtain ⟨hbefore, hcancel⟩ := Repositories.decideCancel_eq_ok_iff.mp h
    obtain ⟨events, htold, hrestored, hback⟩ :=
      hc'.putBack (hr.sound.cancel hbefore hcancel) order
    rw [hb] at htold hrestored hback
    refine told_of_eq (order.news ++ events.map .store) ?_ ⟨?_, ?_⟩
    · refine (toldOf_eq h _).trans ?_
      dsimp only
      rw [hn, if_pos rfl, hb]
      exact congrArg _ htold
    · rw [hnews]
      exact .cancelOrder hrestored
    · rw [List.append_assoc] at hback
      exact hback
  | advanceOrder h =>
    obtain ⟨hnews, hc'⟩ := hc.advance hr.sound h
    refine told_of_eq _ (toldOf_eq h _) ⟨?_, hc'⟩
    rw [hnews]
    exact .advanceOrder

end Told

end Storefront
