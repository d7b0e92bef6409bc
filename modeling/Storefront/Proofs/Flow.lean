import Storefront.Proofs.Execution

/-! # Where stock goes

Stock comes to a store when it is restocked or when a cancellation puts it back, and leaves
it with orders; what has left with an order stays with it until the order is cancelled.
`Command.Effect.stock_flow` and `Command.Effect.order_flow` say this of one command, for one
store and one product and without subtraction.  Everything about amounts of stock in a run
is a sum of these two.
-/
namespace Storefront

/-! ### What is counted -/

/-- The stock of a product that a command has added, given what came of it. -/
def restocked (store : StoreId) (product : ProductId) : Command × Except Error Outcome → Nat
  | (.addInventory s p quantity, .ok _) => if s = store ∧ p = product then quantity.toNat else 0
  | _ => 0

/-- The stock of a product that an order has set aside. -/
def withdrawn (store : StoreId) (product : ProductId) : Command × Except Error Outcome → Nat
  | (.createOrder _ s lines, .ok _) => if s = store then requested product lines else 0
  | _ => 0

/-- The stock of a product that a cancellation has put back. -/
def returned (store : StoreId) (product : ProductId) : Command × Except Error Outcome → Nat
  | (.cancelOrder .., .ok (.cancellation c)) =>
    if c.order.storeId = store then tally product (c.released.map Release.entry) else 0
  | _ => 0

/-- The stock of a product that a cancellation has said it could not put back. -/
def unreturned (store : StoreId) (product : ProductId) : Command × Except Error Outcome → Nat
  | (.cancelOrder .., .ok (.cancellation c)) =>
    if c.order.storeId = store then tally product (c.failed.map FailedRelease.entry) else 0
  | _ => 0

/-- How often a command has cancelled an order, once or not at all. -/
def cancels (id : OrderId) : Command × Except Error Outcome → Nat
  | (.cancelOrder o _, .ok _) => if o = id then 1 else 0
  | _ => 0

/-- The stock of a product that has left a store with an order. -/
def Order.takenFrom (o : Order) (store : StoreId) (product : ProductId) : Nat :=
  if o.storeId = store ∧ o.status.takesStock = true then o.quantityOf product else 0

namespace Repositories

variable {r r' : Repositories} {store : StoreId} {product : ProductId}

/-- The stock of a product at a store, nothing if there is no such store. -/
def stockOf (r : Repositories) (store : StoreId) (product : ProductId) : Nat :=
  ((r.stores.get? store).map (·.stock product)).getD 0

/-- The stock of a product that has left a store with all orders. -/
def taken (r : Repositories) (store : StoreId) (product : ProductId) : Nat :=
  r.orders.sum (·.takenFrom store product)

/-- How often an order has been cancelled, once or not at all. -/
def cancelled (r : Repositories) (id : OrderId) : Nat :=
  ((r.orders.get? id).map fun o => if o.status = .cancelled then 1 else 0).getD 0

theorem cancelled_le_one (r : Repositories) (id : OrderId) : r.cancelled id ≤ 1 := by
  unfold cancelled
  cases r.orders.get? id with
  | none => exact Nat.zero_le 1
  | some o =>
    show (if o.status = .cancelled then 1 else 0) ≤ 1
    split <;> omega

theorem cancelled_saveOrder (r : Repositories) (o : Order) (id : OrderId) :
    (r.saveOrder o).cancelled id =
      if id = o.id then (if o.status = .cancelled then 1 else 0) else r.cancelled id := by
  show (((r.orders.insert o.id o.settled).get? id).map _).getD 0 = _
  rw [Table.get?_insert]
  split <;> rfl

theorem cancelled_eq {id : OrderId} {o : Order} (h : r.orders.get? id = some o) :
    r.cancelled id = if o.status = .cancelled then 1 else 0 := by
  rw [cancelled, h]
  rfl

theorem stockOf_eq {s : Store} (h : r.stores.get? store = some s) :
    r.stockOf store product = s.stock product := by
  rw [stockOf, h]
  rfl

theorem stockOf_saveStore (s : Store) : (r.saveStore s).stockOf store product =
    if store = s.id then s.stock product else r.stockOf store product := by
  show (((r.stores.insert s.id s.settled).get? store).map (·.stock product)).getD 0 = _
  rw [Table.get?_insert]
  split <;> rfl

/-- A store that is written over changes the stock by what its own stock changes. -/
theorem stockOf_overwrite (store : StoreId) {id : StoreId} {s s' : Store}
    (hs : r.stores.get? id = some s) (hid : s'.id = id) (loss gain : Nat)
    (h : s'.stock product + loss = s.stock product + gain) :
    (r.saveStore s').stockOf store product + (if id = store then loss else 0) =
      r.stockOf store product + if id = store then gain else 0 := by
  rw [stockOf_saveStore, hid]
  by_cases he : id = store
  · subst he
    rw [if_pos rfl, if_pos rfl, if_pos rfl, stockOf_eq hs]
    exact h
  · rw [if_neg (Ne.symm he), if_neg he, if_neg he]

/-- A store that is written over and has the same stock changes no stock. -/
theorem stockOf_overwrite_same {id : StoreId} {s s' : Store} (hs : r.stores.get? id = some s)
    (hid : s'.id = id) (h : s'.stock product = s.stock product) :
    (r.saveStore s').stockOf store product = r.stockOf store product := by
  have hover := stockOf_overwrite store hs hid 0 0 (congrArg (· + 0) h)
  simpa using hover

theorem taken_saveOrder (r : Repositories) (store : StoreId) (product : ProductId) (o : Order) :
    (r.saveOrder o).taken store product +
        ((r.orders.get? o.id).map (·.takenFrom store product)).getD 0 =
      r.taken store product + o.takenFrom store product :=
  Table.sum_insert (fun o : Order => o.takenFrom store product) r.orders o.id o.settled

/-- An order that is written over changes what is taken by what it takes itself. -/
theorem taken_overwrite (hr : r.Sound) (store : StoreId) (product : ProductId) {id : OrderId}
    {before o : Order} (hbefore : r.orders.get? id = some before) (hid : o.id = before.id) :
    (r.saveOrder o).taken store product + before.takenFrom store product =
      r.taken store product + o.takenFrom store product := by
  have htaken := taken_saveOrder r store product o
  rw [hid, (hr.order _ _ hbefore).1, hbefore] at htaken
  exact htaken

end Repositories

/-! ### One command -/

section Step
variable {used : List Uuid} {supply : Supply} {r r' : Repositories} {command : Command}
  {outcome : Outcome}

/-- Putting the stock of an order back puts back what it reports as put back, and reports all
the rest as failed. -/
theorem Repositories.putBack_flow (hr : r.Sound) (o : Order) (store : StoreId)
    (product : ProductId) :
    (r.putBack o).2.orders = r.orders ∧
      (r.putBack o).2.stockOf store product = r.stockOf store product +
        (if o.storeId = store then tally product ((r.putBack o).1.1.map Release.entry) else 0) ∧
      tally product ((r.putBack o).1.1.map Release.entry) +
        tally product ((r.putBack o).1.2.1.map FailedRelease.entry) = o.quantityOf product := by
  unfold putBack
  cases hs : r.findStore o.storeId with
  | error e =>
    have hall : tally product ((o.lines.map fun l => l.release.fail e.message).map
        FailedRelease.entry) = o.quantityOf product := by
      rw [List.map_map]
      rfl
    refine ⟨rfl, ?_, ?_⟩
    · simp
    · simpa using hall
  | ok s =>
    have hget := findStore_eq_ok_iff.mp hs
    have hid := (hr.store _ _ hget).1
    obtain ⟨hcat, hstock, hsplit⟩ := s.release_spec o.lines
    have hover := stockOf_overwrite store hget (hcat.id_eq.trans hid) 0 _ (hstock product)
    rw [ite_self, Nat.add_zero] at hover
    exact ⟨rfl, hover, hsplit product⟩

/-- **Where the stock of one store comes from and goes to**: a command adds to it what it
restocks or puts back, and takes from it what an order sets aside. -/
theorem Command.Effect.stock_flow (h : command.Effect supply r outcome r') (hr : r.WellKept used)
    (hfresh : supply.uuid 0 ∉ used) (store : StoreId) (product : ProductId) :
    r'.stockOf store product + withdrawn store product (command, .ok outcome) =
      r.stockOf store product + (restocked store product (command, .ok outcome) +
        returned store product (command, .ok outcome)) := by
  cases h with
  | @createStore name location currency s h =>
    obtain ⟨hid, _, hi, _⟩ := Store.create_eq_ok h
    have hnone : r.stores.get? (supply.id .store) = none := hr.issued.store_eq_none hfresh
    rw [Repositories.stockOf_saveStore, hid]
    by_cases he : store = supply.id .store
    · rw [if_pos he, he, Repositories.stockOf, hnone, Store.stock, hi]
      rfl
    · rw [if_neg he]
      rfl
  | @addProduct id name description price s s' p hs h =>
    have hstock : s'.stock product = s.stock product := by
      -- the new product has no stock now, and had none before
      have hnew : s.inventory.get? (supply.id .product) = none := by
        rw [Table.get?_eq_none_iff, (hr.sound.store _ _ hs).2.keys]
        exact fun hm => hfresh (hr.issued.product _ _ hs _ hm)
      obtain ⟨n, _, _, _, _, rfl⟩ := Store.addProduct_eq_ok_iff.mp h
      rw [Store.stock_of_insert rfl product]
      by_cases he : product = supply.id .product
      · rw [if_pos he, he, Store.stock, hnew]
        rfl
      · rw [if_neg he]
    have hid : s'.id = s.id := by
      obtain ⟨n, _, _, _, _, rfl⟩ := Store.addProduct_eq_ok_iff.mp h
      rfl
    rw [Repositories.stockOf_overwrite_same hs (hid.trans (hr.sound.store _ _ hs).1) hstock]
    rfl
  | @addInventory id p quantity s s' level hs h _ =>
    have hid := (Store.addInventory_sameCatalogue h).id_eq.trans (hr.sound.store _ _ hs).1
    have hover := Repositories.stockOf_overwrite store hs hid 0 _
      (Store.stock_addInventory h product)
    simp only [restocked, returned, withdrawn, ite_self, Nat.add_zero] at hover ⊢
    rw [hover]
    by_cases hst : id = store
    · simp [hst]
    · simp [hst]
  | @updatePrice id p price s s' q hs h _ =>
    have hsame : s'.stock product = s.stock product ∧ s'.id = s.id := by
      obtain ⟨q, q', _, _, rfl⟩ := Store.updatePrice_eq_ok_iff.mp h
      exact ⟨rfl, rfl⟩
    have hid := hsame.2.trans (hr.sound.store _ _ hs).1
    rw [Repositories.stockOf_overwrite_same hs hid hsame.1]
    rfl
  | @deactivateProduct id p s s' hs h =>
    have hsame : s'.stock product = s.stock product ∧ s'.id = s.id := by
      obtain ⟨q, _, rfl⟩ := Store.deactivateProduct_eq_ok_iff.mp h
      exact ⟨rfl, rfl⟩
    have hid := hsame.2.trans (hr.sound.store _ _ hs).1
    rw [Repositories.stockOf_overwrite_same hs hid hsame.1]
    rfl
  | register h =>
    rw [Repositories.decideRegister_eq_ok h]
    rfl
  | updateContact h | redeemPoints h | deactivateCustomer h =>
    rw [Repositories.decideCustomer_eq_ok h]
    rfl
  | @createOrder customerId storeId lines o s' h =>
    obtain ⟨_, s, hs, _, hcat, hstock⟩ :=
      Repositories.decideOrder_eq_ok (fun s hs => (hr.sound.store _ s hs).2) h
    have hid := hcat.id_eq.trans (hr.sound.store _ _ hs).1
    have hover := Repositories.stockOf_overwrite store hs hid _ 0 (hstock product)
    rw [ite_self] at hover
    exact hover
  | cancelOrder h hn =>
    simp only [restocked, returned, withdrawn, List.map_nil, tally_nil, ite_self]
    rfl
  | @cancelReserved id reason before order released failed news r' h hn hb =>
    obtain ⟨hbefore, hcancel⟩ := Repositories.decideCancel_eq_ok_iff.mp h
    have hmoved : (r.saveOrder order).Sound := hr.sound.cancel hbefore hcancel
    obtain ⟨_, hflow, _⟩ := Repositories.putBack_flow hmoved order store product
    rw [hb] at hflow
    simp only [restocked, returned, withdrawn, Nat.add_zero, Nat.zero_add]
    exact hflow
  | advanceOrder h => rfl

/-- What an order takes depends on its store, its status and its lines. -/
theorem Order.takenFrom_congr {o o' : Order} (hs : o'.storeId = o.storeId)
    (ht : o'.status.takesStock = o.status.takesStock) (hl : o'.lines = o.lines)
    (store : StoreId) (product : ProductId) :
    o'.takenFrom store product = o.takenFrom store product := by
  rw [takenFrom, takenFrom, hs, ht, quantityOf, quantityOf, hl]

theorem OrderStatus.takesStock_of_cancel {s : OrderStatus} (h : s.canCancel = true) :
    s.takesStock = s.holdsReservation := by
  revert h
  cases s <;> decide

/-- **Where the stock that has left with orders comes from and goes to**: orders take what
they set aside, and give up what a cancellation puts back or reports as not put back. -/
theorem Command.Effect.order_flow (h : command.Effect supply r outcome r') (hr : r.WellKept used)
    (hfresh : supply.uuid 0 ∉ used) (store : StoreId) (product : ProductId) :
    r'.taken store product + (returned store product (command, .ok outcome) +
        unreturned store product (command, .ok outcome)) =
      r.taken store product + withdrawn store product (command, .ok outcome) := by
  cases h with
  | createStore h | addProduct hs h | addInventory hs h _ | updatePrice hs h _
  | deactivateProduct hs h => rfl
  | register h =>
    rw [Repositories.decideRegister_eq_ok h]
    rfl
  | updateContact h | redeemPoints h | deactivateCustomer h =>
    rw [Repositories.decideCustomer_eq_ok h]
    rfl
  | @createOrder customerId storeId lines o s' h =>
    obtain ⟨_, s, hs, hplaced, _, _⟩ :=
      Repositories.decideOrder_eq_ok (fun s hs => (hr.sound.store _ s hs).2) h
    -- nothing was kept under the identifier of the new order
    have hnone : (r.saveStore s').orders.get? o.id = none := by
      rw [hplaced.id_eq]
      exact hr.issued.order_eq_none hfresh
    have htaken := Repositories.taken_saveOrder (r.saveStore s') store product o
    have hthis : o.takenFrom store product =
        if storeId = store then requested product lines else 0 := by
      rw [Order.takenFrom, hplaced.storeId_eq, hplaced.status_eq, (hr.sound.store _ _ hs).1,
        hplaced.quantityOf_eq]
      simp [OrderStatus.takesStock]
    rw [hnone, hthis] at htaken
    exact htaken
  | @cancelOrder id reason before order h hn =>
    -- an order that holds nothing has taken nothing, neither now nor before
    obtain ⟨hbefore, hcancel⟩ := Repositories.decideCancel_eq_ok_iff.mp h
    obtain ⟨hmove, he⟩ := Order.cancel_eq_ok_iff.mp hcancel
    have htakes : before.status.takesStock = order.status.takesStock := by
      rw [OrderStatus.takesStock_of_cancel hmove, hn, he]
      rfl
    have hsame : before.takenFrom store product = order.takenFrom store product :=
      Order.takenFrom_congr (by rw [he]) htakes (by rw [he]) store product
    have htaken := Repositories.taken_overwrite hr.sound store product hbefore
      (show order.id = before.id by rw [he])
    simp only [returned, unreturned, withdrawn, List.map_nil, tally_nil, ite_self]
    omega
  | @cancelReserved id reason before order released failed news r' h hn hb =>
    obtain ⟨hbefore, hcancel⟩ := Repositories.decideCancel_eq_ok_iff.mp h
    have hmoved : (r.saveOrder order).Sound := hr.sound.cancel hbefore hcancel
    obtain ⟨hmove, he⟩ := Order.cancel_eq_ok_iff.mp hcancel
    have htakes : before.status.takesStock = true := by
      rw [OrderStatus.takesStock_of_cancel hmove, hn]
    have hgone : order.takenFrom store product = 0 := by
      rw [he]
      simp [Order.takenFrom, OrderStatus.takesStock]
    have hwas : before.takenFrom store product =
        if order.storeId = store then order.quantityOf product else 0 := by
      rw [Order.takenFrom, htakes, he]
      simp [Order.quantityOf]
    have htaken := Repositories.taken_overwrite hr.sound store product hbefore
      (show order.id = before.id by rw [he])
    rw [hgone, hwas] at htaken
    -- what the order had is split between what is put back and what is not
    obtain ⟨horders, _, hsplit⟩ := Repositories.putBack_flow hmoved order store product
    rw [hb] at horders hsplit
    dsimp only at horders hsplit
    have htaken' : r'.taken store product = (r.saveOrder order).taken store product := by
      rw [Repositories.taken, Repositories.taken, horders]
    have hstoreId : order.settled.storeId = order.storeId := rfl
    simp only [returned, unreturned, withdrawn, hstoreId]
    by_cases hst : order.storeId = store
    · rw [if_pos hst] at htaken
      rw [if_pos hst, if_pos hst]
      omega
    · rw [if_neg hst] at htaken
      rw [if_neg hst, if_neg hst]
      omega
  | @advanceOrder id transition o h =>
    obtain ⟨before, hbefore, hadvance⟩ := Repositories.decideAdvance_eq_ok_iff.mp h
    -- an order moves on from and to states in which it keeps its stock
    obtain ⟨hfrom, hto, he⟩ := Order.advance_eq_ok hadvance
    have hsame : o.takenFrom store product = before.takenFrom store product :=
      Order.takenFrom_congr (by rw [he]) (hto.trans hfrom.symm) (by rw [he]) store product
    have htaken := Repositories.taken_overwrite hr.sound store product hbefore
      (show o.id = before.id by rw [he])
    simp only [returned, unreturned, withdrawn]
    omega

theorem OrderStatus.ne_cancelled_of_canCancel {s : OrderStatus} (h : s.canCancel = true) :
    s ≠ .cancelled := by
  rintro rfl
  cases h

theorem cancelled_of_cancel {r : Repositories} (hr : r.Sound) {other : OrderId} {reason : String}
    {before order : Order} (hbefore : r.orders.get? other = some before)
    (h : before.cancel reason = .ok order) (id : OrderId) :
    (r.saveOrder order).cancelled id = r.cancelled id + if other = id then 1 else 0 := by
  obtain ⟨hmove, he⟩ := Order.cancel_eq_ok_iff.mp h
  have hid : order.id = other := by
    rw [he]
    exact (hr.order _ _ hbefore).1
  have hstatus : order.status = .cancelled := by rw [he]
  rw [Repositories.cancelled_saveOrder, hid, hstatus]
  by_cases ho : other = id
  · subst ho
    rw [if_pos rfl, if_pos rfl, if_pos rfl, Repositories.cancelled_eq hbefore,
      if_neg (OrderStatus.ne_cancelled_of_canCancel hmove)]
  · rw [if_neg (Ne.symm ho), if_neg ho, Nat.add_zero]

/-- **An order is cancelled once**, and stays cancelled. -/
theorem Command.Effect.cancel_flow (h : command.Effect supply r outcome r') (hr : r.WellKept used)
    (hfresh : supply.uuid 0 ∉ used) (id : OrderId) :
    r'.cancelled id = r.cancelled id + cancels id (command, .ok outcome) := by
  cases h with
  | createStore h | addProduct hs h | addInventory hs h _ | updatePrice hs h _
  | deactivateProduct hs h => rfl
  | register h =>
    rw [Repositories.decideRegister_eq_ok h]
    rfl
  | updateContact h | redeemPoints h | deactivateCustomer h =>
    rw [Repositories.decideCustomer_eq_ok h]
    rfl
  | @createOrder customerId storeId lines o s' h =>
    obtain ⟨_, s, hs, hplaced, _, _⟩ :=
      Repositories.decideOrder_eq_ok (fun s hs => (hr.sound.store _ s hs).2) h
    rw [Repositories.cancelled_saveOrder, hplaced.status_eq, hplaced.id_eq]
    by_cases he : id = supply.id .order
    · have hnone : r.orders.get? (supply.id .order) = none := hr.issued.order_eq_none hfresh
      rw [if_pos he, he, Repositories.cancelled, hnone]
      rfl
    · rw [if_neg he]
      rfl
  | @cancelOrder other reason before order h hn =>
    obtain ⟨hbefore, hcancel⟩ := Repositories.decideCancel_eq_ok_iff.mp h
    exact cancelled_of_cancel hr.sound hbefore hcancel id
  | @cancelReserved other reason before order released failed news r' h hn hb =>
    obtain ⟨hbefore, hcancel⟩ := Repositories.decideCancel_eq_ok_iff.mp h
    have horders := (Repositories.putBack_flow (hr.sound.cancel hbefore hcancel) order order.storeId
      default).1
    rw [hb] at horders
    rw [Repositories.cancelled, show r'.orders = (r.saveOrder order).orders from horders]
    exact cancelled_of_cancel hr.sound hbefore hcancel id
  | @advanceOrder other transition o h =>
    obtain ⟨before, hbefore, hadvance⟩ := Repositories.decideAdvance_eq_ok_iff.mp h
    obtain ⟨hfrom, hto, he⟩ := Order.advance_eq_ok hadvance
    have hid : o.id = other := by
      rw [he]
      exact (hr.sound.order _ _ hbefore).1
    have hopen : ∀ s : OrderStatus, s.takesStock = true → s ≠ .cancelled := by
      rintro _ h rfl
      cases h
    rw [Repositories.cancelled_saveOrder, hid, if_neg (hopen _ hto)]
    by_cases ho : id = other
    · rw [if_pos ho, ho, Repositories.cancelled_eq hbefore, if_neg (hopen _ hfrom)]
      rfl
    · rw [if_neg ho]
      rfl

end Step

/-! ### A run -/

namespace Backend

variable {b : Backend} {used : List Uuid}

/-- The sum of a quantity over the commands of a run, given what came of them. -/
def total (f : Command × Except Error Outcome → Nat) (commands : List (Supply × Command))
    (results : List (Except Error Outcome)) : Nat :=
  (((commands.map Prod.snd).zip results).map f).sum

theorem total_cons (f : Command × Except Error Outcome → Nat) (supply : Supply)
    (command : Command) (commands : List (Supply × Command)) (result : Except Error Outcome)
    (results : List (Except Error Outcome)) :
    total f ((supply, command) :: commands) (result :: results) =
      f (command, result) + total f commands results := by
  simp [total]

/-- **What every command adds to and takes from a quantity, a run does in total.**  The quantity
must not depend on customers, and a refused command must not be counted. -/
theorem run_flow {f : Repositories → Nat} {gain loss : Command × Except Error Outcome → Nat}
    (hstep : ∀ (used : List Uuid) (supply : Supply) (r r' : Repositories) (command : Command)
      (outcome : Outcome), r.WellKept used → supply.uuid 0 ∉ used →
        command.Effect supply r outcome r' →
          f r' + loss (command, .ok outcome) = f r + gain (command, .ok outcome))
    (hrefused : ∀ command e, loss (command, .error e) = 0 ∧ gain (command, .error e) = 0)
    (haside : ∀ r r' : Repositories, r.Aside r' → f r' = f r)
    (commands : List (Supply × Command)) (hf : b.faults = .none)
    (hb : b.repositories.WellKept used) (hfresh : Fresh commands)
    (hnew : ∀ c ∈ commands, c.1.uuid 0 ∉ used) :
    f (b.executeAll commands).2.repositories + total loss commands (b.executeAll commands).1 =
      f b.repositories + total gain commands (b.executeAll commands).1 := by
  induction commands generalizing b used with
  | nil => rfl
  | cons c rest ih =>
    obtain ⟨supply, command⟩ := c
    have hone : supply.uuid 0 ∉ used := hnew _ (List.mem_cons_self ..)
    obtain ⟨hresult, ha, hkept, hfaults⟩ := execute_spec hf hb hone command
    have hrest := ih hfaults hkept (List.nodup_cons.mp hfresh).2 (new_of_cons hfresh hnew)
    have hone : f (b.execute supply command).2.repositories +
        loss (command, (b.execute supply command).1) =
          f b.repositories + gain (command, (b.execute supply command).1) := by
      rw [haside _ _ ha, hresult]
      rcases command.eval_cases supply b.repositories with ⟨e, he⟩ | ⟨outcome, r', he, heffect⟩
      · obtain ⟨hloss, hgain⟩ := hrefused command e
        rw [he, hloss, hgain]
      · rw [he]
        exact hstep used supply _ r' command outcome hb hone heffect
    rw [executeAll_cons]
    dsimp only
    rw [total_cons, total_cons]
    omega

/-- **Where the stock of one product comes from and goes to in a run.** -/
theorem run_stock_flow (commands : List (Supply × Command)) (hf : b.faults = .none)
    (hb : b.repositories.WellKept used) (hfresh : Fresh commands)
    (hnew : ∀ c ∈ commands, c.1.uuid 0 ∉ used) (store : StoreId) (product : ProductId) :
    (b.executeAll commands).2.repositories.stockOf store product +
        total (withdrawn store product) commands (b.executeAll commands).1 =
      b.repositories.stockOf store product +
        total (fun c => restocked store product c + returned store product c) commands
          (b.executeAll commands).1 := by
  refine run_flow (f := fun r => r.stockOf store product) ?_ ?_ ?_ commands hf hb hfresh hnew
  · intro used supply r r' command outcome hr hone heffect
    exact heffect.stock_flow hr hone store product
  · intro command e
    cases command <;> exact ⟨rfl, rfl⟩
  · intro r r' haside
    rw [Repositories.stockOf, Repositories.stockOf, haside.stores]

/-- **In a run, an order is cancelled at most once.** -/
theorem run_cancels_le_one (commands : List (Supply × Command)) (hf : b.faults = .none)
    (hb : b.repositories.WellKept used) (hfresh : Fresh commands)
    (hnew : ∀ c ∈ commands, c.1.uuid 0 ∉ used) (id : OrderId) :
    total (cancels id) commands (b.executeAll commands).1 ≤ 1 := by
  have hflow : (b.executeAll commands).2.repositories.cancelled id +
      total (fun _ => 0) commands (b.executeAll commands).1 =
        b.repositories.cancelled id + total (cancels id) commands (b.executeAll commands).1 := by
    refine run_flow (f := fun r => r.cancelled id) ?_ ?_ ?_ commands hf hb hfresh hnew
    · intro used supply r r' command outcome hr hone heffect
      exact heffect.cancel_flow hr hone id
    · intro command e
      cases command <;> exact ⟨rfl, rfl⟩
    · intro r r' haside
      rw [Repositories.cancelled, Repositories.cancelled, haside.orders]
  have hnone : total (fun _ => 0) commands (b.executeAll commands).1 = 0 := by
    refine List.sum_eq_zero_iff_forall_eq_nat.mpr fun n hn => ?_
    obtain ⟨_, _, rfl⟩ := List.mem_map.mp hn
    rfl
  -- the order may have been cancelled before, and cannot be cancelled twice
  have hle := (b.executeAll commands).2.repositories.cancelled_le_one id
  omega

end Backend

end Storefront
