import Storefront.Proofs.Acceptance
import Storefront.Proofs.Compensation

/-! # Cancelling undoes placing

If nothing has been added to the stock of the products of an order since it was placed, and
none of them has been taken off sale, there is room for all that the order took.  Cancelling
it then puts everything back, line by line.  `Backend.cancelOrder_exact` says this, and what
a cancellation does in general, of every state that a run can reach.
-/
namespace Storefront

/-- Whether a command has taken a product off sale. -/
def retires (store : StoreId) (product : ProductId) : Command × Except Error Outcome → Bool
  | (.deactivateProduct s p, .ok _) => s = store ∧ p = product
  | _ => false

/-- A command has added nothing to the stock of a product, be it by restocking or by putting
back what an order had, and has not taken the product off sale. -/
structure Spares (store : StoreId) (product : ProductId) (c : Command × Except Error Outcome) :
    Prop where
  nothing_restocked : restocked store product c = 0
  nothing_returned : returned store product c = 0
  not_retired : retires store product c = false

instance (store : StoreId) (product : ProductId) (c : Command × Except Error Outcome) :
    Decidable (Spares store product c) :=
  decidable_of_iff
    (restocked store product c = 0 ∧ returned store product c = 0 ∧ retires store product c = false)
    ⟨fun ⟨h, h', h''⟩ => ⟨h, h', h''⟩, fun h => ⟨h.1, h.2, h.3⟩⟩

/-! ### What stays until an order is cancelled -/

namespace Repositories

variable {r r' : Repositories} {store : StoreId} {product : ProductId}

/-- A store, if there is one, has not taken a product off sale. -/
def Offers (r : Repositories) (store : StoreId) (product : ProductId) : Prop :=
  ∀ s, r.stores.get? store = some s → s.retired product = false

theorem Offers.saveStore (h : r.Offers store product) {s' : Store}
    (hs' : s'.id = store → s'.retired product = false) : (r.saveStore s').Offers store product := by
  intro s hs
  have hs : (r.stores.insert s'.id s'.settled).get? store = some s := hs
  rw [Table.get?_insert] at hs
  by_cases he : store = s'.id
  · rw [if_pos he] at hs
    cases hs
    exact hs' he.symm
  · rw [if_neg he] at hs
    exact h s hs

/-- A store may be written over by one that has not taken the product off sale if the former
had not. -/
theorem Offers.overwrite (h : r.Offers store product) {id : StoreId} {s s' : Store}
    (hs : r.stores.get? id = some s) (hid : s'.id = id)
    (hkeep : id = store → s.retired product = false → s'.retired product = false) :
    (r.saveStore s').Offers store product := by
  refine h.saveStore fun he => ?_
  have hstore : id = store := hid.symm.trans he
  exact hkeep hstore (h s (hstore ▸ hs))

/-- The order of an identifier has a store and lines. -/
def HasOrder (r : Repositories) (id : OrderId) (store : StoreId) (lines : List OrderLine) : Prop :=
  ∃ o, r.orders.get? id = some o ∧ o.storeId = store ∧ o.lines = lines

theorem HasOrder.saveOrder {id : OrderId} {lines : List OrderLine} (h : r.HasOrder id store lines)
    {o : Order} (ho : ∀ before, r.orders.get? o.id = some before →
      o.storeId = before.storeId ∧ o.lines = before.lines) :
    (r.saveOrder o).HasOrder id store lines := by
  obtain ⟨before, hbefore, hstore, hlines⟩ := h
  show ∃ o', (r.orders.insert o.id o.settled).get? id = some o' ∧ _
  rw [Table.get?_insert]
  by_cases he : id = o.id
  · rw [if_pos he]
    obtain ⟨hs, hl⟩ := ho before (he ▸ hbefore)
    exact ⟨_, rfl, hs.trans hstore, hl.trans hlines⟩
  · rw [if_neg he]
    exact ⟨before, hbefore, hstore, hlines⟩

/-- An order may be written over by one with the same store and lines. -/
theorem HasOrder.overwrite (hr : r.Sound) {id other : OrderId} {lines : List OrderLine}
    (h : r.HasOrder id store lines) {before o : Order} (hbefore : r.orders.get? other = some before)
    (hid : o.id = before.id) (hs : o.storeId = before.storeId) (hl : o.lines = before.lines) :
    (r.saveOrder o).HasOrder id store lines := by
  refine h.saveOrder fun before' hbefore' => ?_
  rw [hid, (hr.order other before hbefore).1, hbefore] at hbefore'
  cases hbefore'
  exact ⟨hs, hl⟩

end Repositories

theorem Store.retired_of_products_eq {s s' : Store} (h : s'.products = s.products)
    (product : ProductId) : s'.retired product = s.retired product := by
  rw [retired, retired, h]

theorem Store.retired_insert {s s' : Store} {id : ProductId} {p : Product}
    (h : s'.products = s.products.insert id p) (product : ProductId) :
    s'.retired product = if product = id then !p.active else s.retired product := by
  rw [retired, h, Table.get?_insert]
  split <;> rfl

section Step
variable {used : List Uuid} {supply : Supply} {r r' : Repositories} {command : Command}
  {outcome : Outcome} {store : StoreId} {product : ProductId}

/-- **A product is offered until it is taken off sale.** -/
theorem Command.Effect.offers (h : command.Effect supply r outcome r') (hr : r.WellKept used)
    (hkept : retires store product (command, .ok outcome) = false)
    (hoffers : r.Offers store product) : r'.Offers store product := by
  cases h with
  | createStore h =>
    obtain ⟨_, hp, _⟩ := Store.create_eq_ok h
    refine hoffers.saveStore fun _ => ?_
    rw [Store.retired, hp]
    rfl
  | addProduct hs h =>
    obtain ⟨_, _, _, _, hmake, rfl⟩ := Store.addProduct_eq_ok_iff.mp h
    refine hoffers.overwrite hs (hr.sound.store _ _ hs).1 fun _ hsold => ?_
    obtain ⟨_, _, he⟩ := bind_eq_ok_iff.mp hmake
    cases he
    rw [Store.retired_insert rfl, hsold]
    exact ite_self _
  | addInventory hs h _ =>
    have hcat := Store.addInventory_sameCatalogue h
    refine hoffers.overwrite hs (hcat.id_eq.trans (hr.sound.store _ _ hs).1) fun _ hsold => ?_
    rw [Store.retired_of_products_eq hcat.products_eq, hsold]
  | updatePrice hs h _ =>
    obtain ⟨p, p', hp, hp', rfl⟩ := Store.updatePrice_eq_ok_iff.mp h
    refine hoffers.overwrite hs (hr.sound.store _ _ hs).1 fun _ hsold => ?_
    have hactive : p'.active = true := by
      rw [(Store.withPrice_eq_ok hp').1]
      exact (Store.activeProduct_eq_ok_iff.mp hp).2
    rw [Store.retired_insert rfl, hsold, hactive]
    exact ite_self _
  | @deactivateProduct id p s s' hs h =>
    obtain ⟨q, _, rfl⟩ := Store.deactivateProduct_eq_ok_iff.mp h
    refine hoffers.overwrite hs (hr.sound.store _ _ hs).1 fun hid hsold => ?_
    have hother : product ≠ p := by
      rintro rfl
      simp [retires, hid] at hkept
    rw [Store.retired_insert rfl, if_neg hother, hsold]
  | register h =>
    rw [Repositories.decideRegister_eq_ok h]
    exact hoffers
  | updateContact h | redeemPoints h | deactivateCustomer h =>
    rw [Repositories.decideCustomer_eq_ok h]
    exact hoffers
  | createOrder h =>
    obtain ⟨_, s, hs, _, hcat, _⟩ :=
      Repositories.decideOrder_eq_ok (fun s hs => (hr.sound.store _ s hs).2) h
    refine hoffers.overwrite hs (hcat.id_eq.trans (hr.sound.store _ _ hs).1) fun _ hsold => ?_
    rw [Store.retired_of_products_eq hcat.products_eq, hsold]
  | cancelOrder h _ => exact hoffers
  | @cancelReserved id reason before order released failed news r' h _ hb =>
    unfold Repositories.putBack at hb
    cases hs : (r.saveOrder order).findStore order.storeId with
    | error e =>
      rw [hs] at hb
      cases hb
      exact hoffers
    | ok s =>
      rw [hs] at hb
      cases hb
      have hget := Repositories.findStore_eq_ok_iff.mp hs
      have hcat := (s.release_spec order.lines).1
      refine hoffers.overwrite hget (hcat.id_eq.trans (hr.sound.store _ _ hget).1) fun _ hsold => ?_
      rw [Store.retired_of_products_eq hcat.products_eq, hsold]
  | advanceOrder h => exact hoffers

/-- **An order keeps its store and its lines**, whatever becomes of it. -/
theorem Command.Effect.hasOrder (h : command.Effect supply r outcome r') (hr : r.WellKept used)
    (hfresh : supply.uuid 0 ∉ used) {id : OrderId} {lines : List OrderLine}
    (horder : r.HasOrder id store lines) : r'.HasOrder id store lines := by
  cases h with
  | createStore h | addProduct hs h | addInventory hs h _ | updatePrice hs h _
  | deactivateProduct hs h => exact horder
  | register h =>
    rw [Repositories.decideRegister_eq_ok h]
    exact horder
  | updateContact h | redeemPoints h | deactivateCustomer h =>
    rw [Repositories.decideCustomer_eq_ok h]
    exact horder
  | @createOrder customerId storeId lines' o s' h =>
    obtain ⟨_, s, _, hplaced, _, _⟩ :=
      Repositories.decideOrder_eq_ok (fun s hs => (hr.sound.store _ s hs).2) h
    have hstored : (r.saveStore s').HasOrder id store lines := horder
    refine hstored.saveOrder fun before hbefore => ?_
    -- nothing was kept under the identifier of the new order
    rw [hplaced.id_eq] at hbefore
    have hnone : r.orders.get? (supply.id .order) = none := hr.issued.order_eq_none hfresh
    have hsome : r.orders.get? (supply.id .order) = some before := hbefore
    rw [hnone] at hsome
    cases hsome
  | cancelOrder h _ =>
    obtain ⟨hbefore, hcancel⟩ := Repositories.decideCancel_eq_ok_iff.mp h
    obtain ⟨_, rfl⟩ := Order.cancel_eq_ok_iff.mp hcancel
    exact horder.overwrite hr.sound hbefore rfl rfl rfl
  | @cancelReserved id' reason before order released failed news r' h _ hb =>
    obtain ⟨hbefore, hcancel⟩ := Repositories.decideCancel_eq_ok_iff.mp h
    have hmoved : (r.saveOrder order).HasOrder id store lines := by
      obtain ⟨_, rfl⟩ := Order.cancel_eq_ok_iff.mp hcancel
      exact horder.overwrite hr.sound hbefore rfl rfl rfl
    have horders := (Repositories.putBack_flow (hr.sound.cancel hbefore hcancel) order store
      default).1
    rw [hb] at horders
    rw [Repositories.HasOrder, show r'.orders = (r.saveOrder order).orders from horders]
    exact hmoved
  | advanceOrder h =>
    obtain ⟨before, hbefore, hadvance⟩ := Repositories.decideAdvance_eq_ok_iff.mp h
    obtain ⟨_, _, he⟩ := Order.advance_eq_ok hadvance
    refine horder.overwrite hr.sound hbefore ?_ ?_ ?_
    all_goals rw [he]

/-- **The stock of a product that commands spare does not rise.** -/
theorem Command.Effect.stock_le (h : command.Effect supply r outcome r') (hr : r.WellKept used)
    (hfresh : supply.uuid 0 ∉ used) (hspared : Spares store product (command, .ok outcome)) :
    r'.stockOf store product ≤ r.stockOf store product := by
  have hflow := h.stock_flow hr hfresh store product
  have hrestocked := hspared.nothing_restocked
  have hreturned := hspared.nothing_returned
  omega

end Step

/-! ### The whole of a cancellation -/

namespace Repositories

variable {r r' : Repositories} {used : List Uuid}

/-- **Where there is room for all lines, all lines are put back.** -/
theorem Cancels.undone {id : OrderId} {reason : String} {o : Order} {c : Cancellation}
    (h : r.Cancels r' id reason o c) (hr : r.Sound) (hheld : o.status.holdsReservation = true)
    (hroom : ∀ l ∈ o.lines, r.Offers o.storeId l.productId ∧
      r.stockOf o.storeId l.productId + l.quantity.toNat < UInt32.size) :
    c.released = o.lines.map OrderLine.release ∧ c.failed = [] ∧
      ∀ store product, r'.stockOf store product = r.stockOf store product +
        if o.storeId = store then o.quantityOf product else 0 := by
  obtain ⟨s, s', hback⟩ := h.held hheld
  have hs := hback.store_eq
  have hfree : ∀ l ∈ o.lines, s.stuck l = false := by
    intro l hl
    obtain ⟨hoffers, hlt⟩ := hroom l hl
    rw [stockOf_eq hs] at hlt
    rw [Store.stuck, hoffers s hs, Bool.false_or]
    exact decide_eq_false (Nat.not_le.mpr hlt)
  refine ⟨?_, ?_, fun store product => ?_⟩
  · rw [hback.released_eq, List.filter_eq_self.mpr fun l hl => by rw [hfree l hl]; rfl]
  · rw [hback.failed_eq, List.filter_eq_nil_iff.mpr fun l hl => by rw [hfree l hl]; decide]
    rfl
  · by_cases he : o.storeId = store
    · subst he
      have hs' : r'.stores.get? o.storeId = some s' := by
        rw [hback.stores_eq]
        exact Table.get?_insert_self ..
      rw [if_pos rfl, stockOf_eq hs, stockOf_eq hs']
      by_cases hp : product ∈ o.lines.map (·.productId)
      · obtain ⟨l, hl, rfl⟩ := List.mem_map.mp hp
        have hquantity : o.quantityOf l.productId = l.quantity.toNat := by
          refine tally_of_mem (e := l.entry) ?_ (List.mem_map.mpr ⟨l, hl, rfl⟩)
          rw [map_fst_entry]
          exact (hr.order id o h.order_eq).2.nodup
        rw [hback.stock_released l hl (hfree l hl), hquantity]
      · have hnone : o.quantityOf product = 0 := tally_eq_zero (by rwa [map_fst_entry])
        rw [hnone, hback.stock_other product fun l hl _ he => hp (List.mem_map.mpr ⟨l, hl, he⟩),
          Nat.add_zero]
    · have hsame : r'.stores.get? store = r.stores.get? store := by
        rw [hback.stores_eq, Table.get?_insert, if_neg (Ne.symm he)]
      rw [if_neg he, stockOf, stockOf, hsame, Nat.add_zero]

/-- There is room at a store for the stock of some lines, and all of their products are on
sale there. -/
def HasRoom (r : Repositories) (store : StoreId) (lines : List OrderLine) : Prop :=
  ∀ l ∈ lines, r.Offers store l.productId ∧
    r.stockOf store l.productId + l.quantity.toNat < UInt32.size

/-- **An order that has just been placed has room to go back to.** -/
theorem Ordered.hasRoom {supply : Supply} {customerId : CustomerId} {storeId : StoreId}
    {lines : List RequestedLine} {o : Order} {s s' : Store}
    (h : r.Ordered r' supply customerId storeId lines o s s')
    (haccepts : r.Accepts customerId storeId lines) : r'.HasRoom storeId o.lines := by
  have hs' : r'.stores.get? storeId = some s' := by
    rw [h.stores_eq]
    exact Table.get?_insert_self ..
  obtain ⟨t, ht, hactive, _⟩ := haccepts.store
  rw [h.store_eq] at ht
  cases ht
  intro l hl
  constructor
  · intro t ht
    rw [hs'] at ht
    cases ht
    have hrequested : l.productId ∈ lines.map (·.product) := by
      rw [← List.mem_eraseDups, ← h.placed.products_eq]
      exact List.mem_map.mpr ⟨l, hl, rfl⟩
    obtain ⟨k, hk, he⟩ := List.mem_map.mp hrequested
    obtain ⟨p, hp, ha⟩ := hactive k hk
    have hproducts : s'.products = s.products := by rw [h.store_frame]
    rw [Store.retired, hproducts, ← he, hp, Option.any_some, ha]
    rfl
  · rw [stockOf_eq hs', h.placed.quantity_eq l hl, h.stock_eq]
    exact Store.stock_lt s l.productId

/-- An order takes from the stock what is requested. -/
theorem Ordered.stock_flow {supply : Supply} {customerId : CustomerId} {storeId : StoreId}
    {lines : List RequestedLine} {o : Order} {s s' : Store}
    (h : r.Ordered r' supply customerId storeId lines o s s') (store : StoreId) (p : ProductId) :
    r'.stockOf store p + (if storeId = store then requested p lines else 0) =
      r.stockOf store p := by
  by_cases he : storeId = store
  · subst he
    have hs' : r'.stores.get? storeId = some s' := by
      rw [h.stores_eq]
      exact Table.get?_insert_self ..
    rw [if_pos rfl, stockOf_eq h.store_eq, stockOf_eq hs', h.stock_eq]
  · have hsame : r'.stores.get? store = r.stores.get? store := by
      rw [h.stores_eq, Table.get?_insert, if_neg (Ne.symm he)]
    rw [if_neg he, stockOf, stockOf, hsame, Nat.add_zero]

theorem HasOrder.of_aside {id : OrderId} {store : StoreId} {lines : List OrderLine}
    (h : r.HasOrder id store lines) (ha : r.Aside r') : r'.HasOrder id store lines := by
  rw [HasOrder, ha.orders]
  exact h

theorem HasRoom.of_aside {store : StoreId} {lines : List OrderLine} (h : r.HasRoom store lines)
    (ha : r.Aside r') : r'.HasRoom store lines := by
  intro l hl
  rw [Offers, stockOf, ha.stores]
  exact h l hl

end Repositories

namespace Backend

/-- A run with new identifiers is one up to a command, the command, and one after it. -/
theorem fresh_cut {before after : List (Supply × Command)} {c : Supply × Command}
    (h : Fresh (before ++ c :: after)) :
    Fresh before ∧ (c.1.uuid 0 ∉ before.map fun c => c.1.uuid 0) ∧ Fresh after ∧
      ∀ d ∈ after, d.1.uuid 0 ∉ c.1.uuid 0 :: before.map fun c => c.1.uuid 0 := by
  rw [Fresh, List.map_append, List.map_cons, List.nodup_append, List.nodup_cons] at h
  obtain ⟨hbefore, ⟨hc, hafter⟩, hdisjoint⟩ := h
  refine ⟨hbefore, fun hm => ?_, hafter, fun d hd hm => ?_⟩
  · exact hdisjoint _ hm _ (List.mem_cons_self ..) rfl
  · have hd' : d.1.uuid 0 ∈ after.map fun c => c.1.uuid 0 := List.mem_map.mpr ⟨d, hd, rfl⟩
    rcases List.mem_cons.mp hm with he | hm
    · exact hc (he ▸ hd')
    · exact hdisjoint _ hm _ (List.mem_cons_of_mem _ hd') rfl

/-- **An order that is placed is there, with room to go back to**, and has taken from the
stock what it was requested to. -/
theorem execute_createOrder {b : Backend} {used : List Uuid} {supply : Supply}
    {customerId : CustomerId} {storeId : StoreId} {lines : List RequestedLine} {outcome : Outcome}
    (hf : b.faults = .none) (hb : b.repositories.WellKept used) (hnew : supply.uuid 0 ∉ used)
    (hok : (b.execute supply (.createOrder customerId storeId lines)).1 = .ok outcome) :
    ∃ (o : Order) (s : Store),
      let r := (b.execute supply (.createOrder customerId storeId lines)).2.repositories
      o.Placed (supply.id .order) supply.line supply.now customerId s lines ∧
        r.HasOrder (supply.id .order) storeId o.lines ∧ r.HasRoom storeId o.lines ∧
        ∀ store p, r.stockOf store p + (if storeId = store then requested p lines else 0) =
          b.repositories.stockOf store p := by
  obtain ⟨hresult, haside, _, _⟩ :=
    execute_spec hf hb hnew (.createOrder customerId storeId lines)
  have hspec := Repositories.createOrder_spec hb hnew customerId storeId lines
  rw [hresult] at hok
  cases hrefusal : b.repositories.orderRefusal customerId storeId lines with
  | some e =>
    rw [hrefusal] at hspec
    rw [show Job.eval _ _ = (.error e, _) from hspec] at hok
    cases hok
  | none =>
    rw [hrefusal] at hspec
    obtain ⟨o, s, s', r', heval, hordered⟩ := hspec
    rw [heval] at haside
    have hroom := hordered.hasRoom (Repositories.orderRefusal_eq_none_iff.mp hrefusal)
    refine ⟨o, s, hordered.placed, ?_, hroom.of_aside haside, fun store p => ?_⟩
    · refine Repositories.HasOrder.of_aside ⟨o, ?_, ?_, rfl⟩ haside
      · rw [hordered.orders_eq, ← hordered.placed.id_eq]
        exact Table.get?_insert_self ..
      · rw [hordered.placed.storeId_eq]
        exact (hb.sound.store _ _ hordered.store_eq).1
    · rw [Repositories.stockOf, haside.stores]
      exact hordered.stock_flow store p

/-- **As long as commands spare its products, an order can go back to where it came from.** -/
theorem hasRoom_of_spared {b : Backend} {used : List Uuid} {id : OrderId} {store : StoreId}
    {lines : List OrderLine} (commands : List (Supply × Command)) (hf : b.faults = .none)
    (hb : b.repositories.WellKept used) (hfresh : Fresh commands)
    (hnew : ∀ c ∈ commands, c.1.uuid 0 ∉ used)
    (hspared : ∀ c ∈ (commands.map Prod.snd).zip (b.executeAll commands).1, ∀ l ∈ lines,
      Spares store l.productId c)
    (horder : b.repositories.HasOrder id store lines)
    (hroom : b.repositories.HasRoom store lines) :
    (b.executeAll commands).2.repositories.HasOrder id store lines ∧
      (b.executeAll commands).2.repositories.HasRoom store lines := by
  refine run_keeps (P := fun r => r.HasOrder id store lines ∧ r.HasRoom store lines) ?_ ?_
    commands hf hb hfresh hnew hspared ⟨horder, hroom⟩
  · rintro used supply r r' command outcome hr hone heffect hspared ⟨horder, hroom⟩
    refine ⟨heffect.hasOrder hr hone horder, fun l hl => ⟨?_, ?_⟩⟩
    · exact heffect.offers hr (hspared l hl).not_retired (hroom l hl).1
    · exact Nat.lt_of_le_of_lt (Nat.add_le_add_right (heffect.stock_le hr hone (hspared l hl)) _)
        (hroom l hl).2
  · rintro r r' haside ⟨horder, hroom⟩
    exact ⟨horder.of_aside haside, hroom.of_aside haside⟩

theorem OrderStatus.canCancel_iff {s : OrderStatus} :
    s.canCancel = true ↔ s = .pending ∨ s = .confirmed ∨ s = .preparing := by
  cases s <;> decide

/-- What a cancellation comes to where everything is well kept. -/
theorem perform_cancelOrder {b : Backend} {used : List Uuid} (hf : b.faults = .none)
    (hb : b.repositories.WellKept used) (supply : Supply) (id : OrderId) (reason : String) :
    let r := b.repositories
    let result := b.perform ((Command.cancelOrder id reason).job supply)
    ((∃ outcome, result.1 = .ok outcome) ↔ ∃ o, r.orders.get? id = some o ∧
      (o.status = .pending ∨ o.status = .confirmed ∨ o.status = .preparing)) ∧
      (∀ outcome, result.1 = .ok outcome →
        ∃ o c, outcome = .cancellation c ∧ r.Cancels result.2.repositories id reason o c) ∧
      ∀ e, result.1 = .error e → result.2.repositories = r := by
  intro r result
  obtain ⟨hresult, hrepos, _⟩ := perform_eq_eval hf supply (.cancelOrder id reason)
  have hresult : result.1 = _ := hresult
  have hrepos : result.2.repositories = _ := hrepos
  have hspec := Repositories.cancelOrder_spec supply hb id reason
  rw [hresult, hrepos]
  cases ho : r.orders.get? id with
  | none =>
    rw [show Repositories.orders _ = r.orders from rfl, ho] at hspec
    rw [show Job.eval _ _ = (.error _, _) from hspec]
    refine ⟨⟨?_, ?_⟩, ?_, fun _ _ => rfl⟩
    · rintro ⟨_, ⟨⟩⟩
    · rintro ⟨_, ⟨⟩, _⟩
    · rintro _ ⟨⟩
  | some o =>
    rw [show Repositories.orders _ = r.orders from rfl, ho] at hspec
    dsimp only at hspec
    cases hc : o.status.canCancel with
    | false =>
      rw [hc, if_neg Bool.noConfusion] at hspec
      rw [hspec]
      refine ⟨⟨?_, ?_⟩, ?_, fun _ _ => rfl⟩
      · rintro ⟨_, ⟨⟩⟩
      · rintro ⟨_, ⟨⟩, hs⟩
        rw [OrderStatus.canCancel_iff.mpr hs] at hc
        cases hc
      · rintro _ ⟨⟩
    | true =>
      rw [hc, if_pos rfl] at hspec
      obtain ⟨c, r', heval, hcancels⟩ := hspec
      rw [heval]
      refine ⟨⟨fun _ => ⟨o, rfl, OrderStatus.canCancel_iff.mp hc⟩, fun _ => ⟨_, rfl⟩⟩, ?_, ?_⟩
      · rintro _ ⟨⟩
        exact ⟨o, c, rfl, hcancels⟩
      · rintro _ ⟨⟩

/-- **Cancelling undoes placing** if every command in between has spared what was ordered. -/
theorem cancels_undoes {b : Backend} {used : List Uuid} {placed : Supply} {customerId : CustomerId}
    {storeId : StoreId} {lines : List RequestedLine} {between : List (Supply × Command)}
    {order : Outcome} {o : Order} {r r' : Repositories} {reason : String} {c : Cancellation}
    (hf : b.faults = .none) (hb : b.repositories.WellKept used) (hnew : placed.uuid 0 ∉ used)
    (hfresh : Fresh between) (hlater : ∀ c ∈ between, c.1.uuid 0 ∉ placed.uuid 0 :: used)
    (hplaced : (b.execute placed (.createOrder customerId storeId lines)).1 = .ok order)
    (hspared : ∀ d ∈ (between.map Prod.snd).zip
      ((b.execute placed (.createOrder customerId storeId lines)).2.executeAll between).1,
        ∀ l ∈ lines, Spares storeId l.product d)
    (hr : r = ((b.execute placed (.createOrder customerId storeId lines)).2.executeAll
      between).2.repositories)
    (hsound : r.Sound) (hcancels : r.Cancels r' (placed.id .order) reason o c)
    (hmove : o.status = .pending ∨ o.status = .confirmed ∨ o.status = .preparing) :
    c.isFullyCompensated = true ∧ ∀ store p, r'.stockOf store p +
        (b.execute placed (.createOrder customerId storeId lines)).2.repositories.stockOf store p =
      r.stockOf store p + b.repositories.stockOf store p := by
  obtain ⟨_, _, hkept, hfaults⟩ := execute_spec hf hb hnew (.createOrder customerId storeId lines)
  obtain ⟨o₁, s₁, hpl, horder, hroom, hflow⟩ := execute_createOrder hf hb hnew hplaced
  have hspared' : ∀ d ∈ (between.map Prod.snd).zip
      ((b.execute placed (.createOrder customerId storeId lines)).2.executeAll between).1,
        ∀ l ∈ o₁.lines, Spares storeId l.productId d := by
    intro d hd l hl
    -- every product of the order was requested
    have hm : l.productId ∈ lines.map (·.product) := by
      rw [← List.mem_eraseDups, ← hpl.products_eq]
      exact List.mem_map.mpr ⟨l, hl, rfl⟩
    obtain ⟨k, hk, he⟩ := List.mem_map.mp hm
    exact he ▸ hspared d hd k hk
  obtain ⟨⟨o', ho', hstore, hlines⟩, hroom'⟩ :=
    hasRoom_of_spared between hfaults hkept hfresh hlater hspared' horder hroom
  rw [← hr] at ho' hroom'
  rw [hcancels.order_eq] at ho'
  cases ho'
  -- an order that is kept is not pending any more
  have hheld : o.status.holdsReservation = true := by
    rcases hmove with hs | hs | hs
    · exact absurd hs (hsound.order _ o hcancels.order_eq).2.placed
    all_goals
      rw [hs]
      rfl
  rw [← hstore, ← hlines] at hroom'
  obtain ⟨_, hfailed, hstock⟩ := hcancels.undone hsound hheld hroom'
  refine ⟨by rw [Cancellation.isFullyCompensated, hfailed]; rfl, fun store p => ?_⟩
  have hquantity : o.quantityOf p = requested p lines := by
    rw [← hpl.quantityOf_eq p, Order.quantityOf, hlines]
    rfl
  have hback := hstock store p
  have htaken := hflow store p
  rw [hquantity, hstore] at hback
  omega

/-- **An order is cancelled if and only if it is pending, confirmed or being prepared; then
exactly the lines that have room in their store go back to it, and otherwise nothing changes.**
This holds of every order in every state that a run can reach.  If since the order was placed
every command has spared its products, all of it goes back, and every stock is higher by what
it was lowered by when the order was placed. -/
theorem cancelOrder_exact (commands : List (Supply × Command)) (supply : Supply) (id : OrderId)
    (reason : String) (hfresh : Fresh (commands ++ [(supply, .cancelOrder id reason)])) :
    let b := (empty.executeAll commands).2
    let r := b.repositories
    let result := b.perform ((Command.cancelOrder id reason).job supply)
    let r' := result.2.repositories
    ((∃ outcome, result.1 = .ok outcome) ↔ ∃ o, r.orders.get? id = some o ∧
      (o.status = .pending ∨ o.status = .confirmed ∨ o.status = .preparing)) ∧
      (∀ outcome, result.1 = .ok outcome →
        ∃ o c, outcome = .cancellation c ∧ r.Cancels r' id reason o c) ∧
      (∀ e, result.1 = .error e → r' = r) ∧
      ∀ (before between : List (Supply × Command)) (placed : Supply) (customerId : CustomerId)
        (storeId : StoreId) (lines : List RequestedLine) (order : Outcome) (c : Cancellation),
        let b₀ := (empty.executeAll before).2
        let placing := b₀.execute placed (.createOrder customerId storeId lines)
        let b₁ := placing.2
        commands = before ++ (placed, .createOrder customerId storeId lines) :: between →
        placing.1 = .ok order → id = placed.id .order →
        (∀ d ∈ (between.map Prod.snd).zip (b₁.executeAll between).1, ∀ l ∈ lines,
          Spares storeId l.product d) →
        result.1 = .ok (.cancellation c) →
        c.isFullyCompensated = true ∧ ∀ store p,
          r'.stockOf store p + b₁.repositories.stockOf store p =
            r.stockOf store p + b₀.repositories.stockOf store p := by
  intro b r result r'
  obtain ⟨hbefore, hnew⟩ := fresh_snoc hfresh
  obtain ⟨hkept, hfaults⟩ := wellKept_of_run hbefore
  obtain ⟨hiff, hcancels, hrefused⟩ := perform_cancelOrder hfaults hkept supply id reason
  refine ⟨hiff, hcancels, hrefused, ?_⟩
  intro before between placed customerId storeId lines order c b₀ placing b₁ hcommands hplaced hid
    hspared hok
  obtain ⟨o, c', hc, hthis⟩ := hcancels _ hok
  cases hc
  obtain ⟨o', ho', hmove⟩ := hiff.mp ⟨_, hok⟩
  have hsame : r.orders.get? id = some o := hthis.order_eq
  rw [show r.orders.get? id = some o' from ho'] at hsame
  cases hsame
  subst hcommands hid
  obtain ⟨hfirst, hone, hrest, hlater⟩ := fresh_cut hbefore
  obtain ⟨hkept₀, hfaults₀⟩ := wellKept_of_run hfirst
  have hr : r = (b₁.executeAll between).2.repositories := by
    show (empty.executeAll _).2.repositories = _
    rw [executeAll_append, executeAll_cons]
  exact cancels_undoes hfaults₀ hkept₀ hone hrest hlater hplaced hspared hr hkept.sound hthis hmove

/-- An order for apples and pears is being prepared when another order for a pear comes in,
and more pears than there is room for are refused. -/
def busy : List (Supply × Command) := Sample.numbered (Sample.opening ++ [
  .createOrder Sample.ann Sample.shop basket,
  .advanceOrder (Sample.order 6) .startPreparing,
  .createOrder Sample.ann Sample.shop [⟨Sample.pear, 1⟩],
  .addInventory Sample.shop Sample.pear 4294967295])

theorem cancelOrder_exact_busy :
    let b := (empty.executeAll busy).2
    let cancelled := b.perform ((Command.cancelOrder (Sample.order 6) "late").job (Supply.nth 10))
    (∃ o c, cancelled.1 = .ok (.cancellation c) ∧ c.isFullyCompensated = true ∧
      b.repositories.Cancels cancelled.2.repositories (Sample.order 6) "late" o c) ∧
      b.repositories.stockOf Sample.shop Sample.apple = 2 ∧
      cancelled.2.repositories.stockOf Sample.shop Sample.apple = 10 := by
  have hok : ((empty.executeAll busy).2.perform ((Command.cancelOrder (Sample.order 6)
      "late").job (Supply.nth 10))).1.toOption.isSome = true := by decide +kernel
  have hsome : ((empty.executeAll (Sample.numbered Sample.opening)).2.execute (Supply.nth 6)
      (.createOrder Sample.ann Sample.shop basket)).1.toOption.isSome = true := by decide +kernel
  have hnow : (empty.executeAll busy).2.repositories.stockOf Sample.shop Sample.apple = 2 := by
    decide +kernel
  have hthen : (empty.executeAll (Sample.numbered Sample.opening)).2.repositories.stockOf
      Sample.shop Sample.apple = 10 := by decide +kernel
  have hplacing : ((empty.executeAll (Sample.numbered Sample.opening)).2.execute (Supply.nth 6)
      (.createOrder Sample.ann Sample.shop basket)).2.repositories.stockOf Sample.shop
        Sample.apple = 2 := by decide +kernel
  obtain ⟨_, hcancels, _, hundone⟩ :=
    cancelOrder_exact busy (Supply.nth 10) (Sample.order 6) "late" (by decide +kernel)
  dsimp only
  cases hc : ((empty.executeAll busy).2.perform ((Command.cancelOrder (Sample.order 6)
      "late").job (Supply.nth 10))).1 with
  | error e =>
    rw [hc] at hok
    cases hok
  | ok outcome =>
    obtain ⟨o, c, rfl, hthis⟩ := hcancels _ hc
    cases hplaced : ((empty.executeAll (Sample.numbered Sample.opening)).2.execute (Supply.nth 6)
        (.createOrder Sample.ann Sample.shop basket)).1 with
    | error e =>
      rw [hplaced] at hsome
      cases hsome
    | ok order =>
      obtain ⟨hfull, hstock⟩ := hundone (Sample.numbered Sample.opening) (busy.drop 7)
        (Supply.nth 6) Sample.ann Sample.shop basket order c (by rfl) hplaced rfl
        (by decide +kernel) hc
      have hback := hstock Sample.shop Sample.apple
      rw [hplacing, hnow, hthen] at hback
      exact ⟨⟨o, c, rfl, hfull, hthis⟩, hnow, Nat.add_right_cancel hback⟩

end Backend

end Storefront
