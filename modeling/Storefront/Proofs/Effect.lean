import Storefront.Proofs.Evaluation
import Storefront.Proofs.Stock

/-! # What each command does

A command first makes up its mind, which leaves everything as it is, and then keeps what
it has come to.  The equations `eval_…` say this command by command, with the decision as
a computation of its own.  `Command.Effect` gathers what a command that is not refused
does to the repositories, and `Command.eval_cases` says that there is nothing else a
command can do: it is refused and changes nothing, or it has its effect.
-/
namespace Storefront

open Job

variable {α : Type}

namespace Job

@[simp] theorem eval_liftM_store (x : Except StoreError α) (r : Repositories) :
    eval (liftM x : Job α) r = (x.mapError .store, r) := rfl

@[simp] theorem eval_liftM_order (x : Except OrderError α) (r : Repositories) :
    eval (liftM x : Job α) r = (x.mapError .order, r) := rfl

@[simp] theorem eval_liftM_customer (x : Except CustomerError α) (r : Repositories) :
    eval (liftM x : Job α) r = (x.mapError .customer, r) := rfl

@[simp] theorem eval_liftM_error (x : Except Error α) (r : Repositories) :
    eval (liftM x : Job α) r = (x, r) := rfl

end Job

/-! ### Stores -/

namespace Repositories

/-- A change of a store, before anything is kept. -/
def decideChange (r : Repositories) (id : StoreId)
    (change : Store → Except StoreError (α × Store)) : Except Error (α × Store) := do
  let s ← r.findStore id
  change s

/-- A new order and the store that it is filled from, before anything is kept. -/
def decideOrder (r : Repositories) (supply : Supply) (customerId : CustomerId)
    (storeId : StoreId) (lines : List RequestedLine) : Except Error (Order × Store) := do
  Order.checkRequest lines
  let customer ← r.findCustomer customerId
  if !customer.active then throw (.customer (.inactive customerId))
  let store ← r.findStore storeId
  Order.place (supply.id .order) supply.line supply.now customerId store lines

/-- An order before and after it is cancelled, before anything is kept. -/
def decideCancel (r : Repositories) (id : OrderId) (reason : String) :
    Except Error (Order × Order) := do
  let before ← r.findOrder id
  let order ← before.cancel reason
  return (before, order)

/-- An order one step on, before anything is kept. -/
def decideAdvance (r : Repositories) (now : Timestamp) (id : OrderId)
    (transition : OrderTransition) : Except Error Order := do
  let order ← r.findOrder id
  order.advance now transition

/-- A new customer, and what is kept once they are. -/
def decideRegister (r : Repositories) (supply : Supply) (email firstName lastName : String) :
    Except Error (Customer × Repositories) := do
  let c ← Customer.register (supply.id .customer) email firstName lastName supply.now
  match r.findCustomerByEmail c.email with
  | .ok _ => throw (.customer (.emailTaken c.email.text))
  | .error _ => return (c, ← r.saveCustomer c)

/-- A change of a customer, and what is kept once it is. -/
def decideCustomer (r : Repositories) (id : CustomerId)
    (change : Customer → Except CustomerError Customer) :
    Except Error (Customer × Repositories) := do
  let before ← r.findCustomer id
  let c ← change before
  return (c, ← r.saveCustomer c)

/-- Puts the stock of an order back: what was put back, what was not, what the store has
to tell, and what is kept then. -/
def putBack (r : Repositories) (order : Order) :
    (List Release × List FailedRelease × List Payload) × Repositories :=
  match r.findStore order.storeId with
  | .error e => (([], order.lines.map fun l => l.release.fail e.message, []), r)
  | .ok store =>
    let (store, released, failed) := store.release order.lines
    ((released, failed, store.news), r.saveStore store)

end Repositories

theorem Catalogue.eval_createStore (supply : Supply) (name : String) (location : Address)
    (currency : String) (r : Repositories) :
    (createStore supply name location currency).eval r =
      match Store.create (supply.id .store) name location currency with
      | .ok s => (.ok s.settled, r.saveStore s)
      | .error e => (.error (.store e), r) := by
  simp only [createStore, eval_bind, eval_liftM_store, eval_committed, eval_publish, eval_pure,
    eval_saveStore]
  cases Store.create (supply.id .store) name location currency <;> rfl

theorem Catalogue.eval_withStore (id : StoreId) (change : Store → Except StoreError (α × Store))
    (r : Repositories) :
    (withStore id change).eval r =
      match r.decideChange id change with
      | .ok (a, s) => (.ok (a, s.settled), r.saveStore s)
      | .error e => (.error e, r) := by
  simp only [withStore, eval_bind, eval_committed, eval_withLock, eval_findStore,
    eval_liftM_store, eval_publish, eval_pure, eval_saveStore, Repositories.decideChange,
    liftM_store]
  cases r.findStore id with
  | error e => rfl
  | ok s =>
    dsimp only [ok_bind]
    cases change s <;> rfl

theorem Repositories.findStore_eq_ok_iff {r : Repositories} {id : StoreId} {s : Store} :
    r.findStore id = .ok s ↔ r.stores.get? id = some s := by
  unfold findStore
  cases r.stores.get? id <;> simp

theorem Repositories.decideChange_eq_ok_iff {r : Repositories} {id : StoreId}
    {change : Store → Except StoreError (α × Store)} {x : α × Store} :
    r.decideChange id change = .ok x ↔ ∃ s, r.stores.get? id = some s ∧ change s = .ok x := by
  unfold decideChange
  simp only [bind_eq_ok_iff, liftM_store, mapError_eq_ok_iff, findStore_eq_ok_iff]

/-- A change that gives nothing but the store. -/
theorem Repositories.decideChange_unit_eq_ok {r : Repositories} {id : StoreId}
    {change : Store → Except StoreError Store} {x : Unit × Store}
    (h : (r.decideChange id fun s => do return ((), ← change s)) = .ok x) :
    ∃ s, r.stores.get? id = some s ∧ change s = .ok x.2 := by
  obtain ⟨s, hs, hx⟩ := decideChange_eq_ok_iff.mp h
  obtain ⟨s', hs', he⟩ := bind_eq_ok_iff.mp hx
  cases he
  exact ⟨s, hs, hs'⟩

/-! ### Orders -/

theorem Ordering.eval_place (supply : Supply) (customerId : CustomerId) (storeId : StoreId)
    (lines : List RequestedLine) (r : Repositories) (h : Order.checkRequest lines = .ok ()) :
    (place supply customerId storeId lines).eval r =
      match r.decideOrder supply customerId storeId lines with
      | .ok (o, s) => (.ok (o, s), (r.saveStore s).saveOrder o)
      | .error e => (.error e, r) := by
  simp only [place, eval_bind, eval_findCustomer, Repositories.decideOrder, h, ok_bind]
  cases r.findCustomer customerId with
  | error e => rfl
  | ok c =>
    cases hc : c.active with
    | false => simp [hc]
    | true =>
      simp only [hc, eval_withLock, eval_bind, eval_findStore, eval_liftM_error, eval_saveStore,
        eval_saveOrder, eval_pure, ok_bind, Bool.not_true, Bool.false_eq_true, if_false]
      cases r.findStore storeId with
      | error e => rfl
      | ok s =>
        dsimp only [ok_bind]
        cases Order.place (supply.id .order) supply.line supply.now customerId s lines <;> rfl

theorem Ordering.eval_createOrder (supply : Supply) (customerId : CustomerId)
    (storeId : StoreId) (lines : List RequestedLine) (r : Repositories) :
    (createOrder supply customerId storeId lines).eval r =
      match r.decideOrder supply customerId storeId lines with
      | .ok (o, s) => (.ok o.settled, (r.saveStore s).saveOrder o)
      | .error e => (.error e, r) := by
  unfold createOrder
  cases h : Order.checkRequest lines with
  | error e =>
    simp only [reject, eval_bind, eval_countOne, eval_throw, Repositories.decideOrder, h,
      error_bind]
  | ok =>
    simp only [eval_bind, eval_inUnit, eval_place _ _ _ _ _ h]
    cases r.decideOrder supply customerId storeId lines with
    | error e => simp [reject, eval_bind]
    | ok placed => simp [eval_bind, eval_map, Except.map]

theorem Ordering.eval_releaseStock (order : Order) (r : Repositories) :
    (releaseStock order).eval r = (.ok (r.putBack order).1, (r.putBack order).2) := by
  simp only [releaseStock, eval_withLock, eval_bind, eval_attempt, eval_findStore,
    Repositories.putBack]
  cases r.findStore order.storeId with
  | error e => rfl
  | ok s => simp [eval_bind]

theorem Ordering.eval_cancelOrder (id : OrderId) (reason : String) (r : Repositories) :
    (cancelOrder id reason).eval r =
      match r.decideCancel id reason with
      | .ok (before, order) =>
        if before.status.holdsReservation then
          let (back, r') := (r.saveOrder order).putBack order
          (.ok ⟨order.settled, back.1, back.2.1⟩, r')
        else (.ok ⟨order.settled, [], []⟩, r.saveOrder order)
      | .error e => (.error e, r) := by
  simp only [cancelOrder, cancel, eval_bind, eval_committed, eval_withLock, eval_findOrder,
    eval_liftM_order, eval_publish, eval_countOne, eval_pure, Repositories.decideCancel]
  cases r.findOrder id with
  | error e => rfl
  | ok before =>
    dsimp only [ok_bind, liftM_order]
    cases before.cancel reason with
    | error e => rfl
    | ok order =>
      dsimp only [ok_bind, mapError_ok, pure_eq_ok, eval_saveOrder]
      cases before.status.holdsReservation with
      | false => rfl
      | true =>
        simp only [if_true, eval_bind, eval_releaseStock]
        rcases (r.saveOrder order).putBack order with ⟨⟨released, failed, news⟩, r'⟩
        cases failed <;> rfl

theorem Ordering.eval_advanceOrder (supply : Supply) (id : OrderId)
    (transition : OrderTransition) (r : Repositories) :
    (advanceOrder supply id transition).eval r =
      match r.decideAdvance supply.now id transition with
      | .ok o => (.ok o.settled, r.saveOrder o)
      | .error e => (.error e, r) := by
  simp only [advanceOrder, eval_bind, eval_committed, eval_withLock, eval_findOrder,
    eval_liftM_order, eval_saveOrder, eval_pure, eval_publish, eval_countOne,
    Repositories.decideAdvance, liftM_order]
  cases r.findOrder id with
  | error e => rfl
  | ok o =>
    dsimp only [ok_bind]
    cases o.advance supply.now transition <;> rfl

/-! ### Customers -/

theorem Accounts.eval_ensureEmailFree (email : Email) (r : Repositories) :
    (ensureEmailFree email).eval r =
      match r.findCustomerByEmail email with
      | .ok _ => (.error (.customer (.emailTaken email.text)), r)
      | .error _ => (.ok (), r) := by
  unfold ensureEmailFree
  simp only [eval_bind, eval_attempt, eval_findCustomerByEmail]
  unfold Repositories.findCustomerByEmail
  cases r.customers.values.find? fun c => c.email == email <;> rfl

theorem Accounts.eval_register (supply : Supply) (email firstName lastName : String)
    (r : Repositories) :
    (register supply email firstName lastName).eval r =
      match r.decideRegister supply email firstName lastName with
      | .ok (c, r') => (.ok c.settled, r')
      | .error e => (.error e, r) := by
  simp only [register, eval_bind, eval_liftM_customer, eval_committed, eval_ensureEmailFree,
    eval_saveCustomer, eval_publish, eval_pure, Repositories.decideRegister, liftM_customer]
  cases Customer.register (supply.id .customer) email firstName lastName supply.now with
  | error e => rfl
  | ok c =>
    dsimp only [mapError_ok, ok_bind]
    cases r.findCustomerByEmail c.email with
    | ok d => rfl
    | error e =>
      dsimp only
      cases r.saveCustomer c <;> rfl

theorem Accounts.eval_withCustomer (id : CustomerId)
    (change : Customer → Except CustomerError Customer) (r : Repositories) :
    (withCustomer id change).eval r =
      match r.decideCustomer id change with
      | .ok (c, r') => (.ok c.settled, r')
      | .error e => (.error e, r) := by
  simp only [withCustomer, eval_bind, eval_committed, eval_withLock, eval_findCustomer,
    eval_liftM_customer, eval_saveCustomer, eval_publish, eval_pure, Repositories.decideCustomer,
    liftM_customer]
  cases r.findCustomer id with
  | error e => rfl
  | ok before =>
    dsimp only [ok_bind]
    cases change before with
    | error e => rfl
    | ok c =>
      dsimp only [mapError_ok, ok_bind]
      cases r.saveCustomer c <;> rfl

/-! ### The effect of a command -/

/-- **What a command that is not refused does to what is kept**, and what comes of it. -/
inductive Command.Effect (supply : Supply) (r : Repositories) :
    Command → Outcome → Repositories → Prop where
  | createStore {name location currency s}
      (h : Store.create (supply.id .store) name location currency = .ok s) :
      Effect supply r (.createStore name location currency) (.store s.settled) (r.saveStore s)
  | addProduct {id name description price s s' p} (hs : r.stores.get? id = some s)
      (h : s.addProduct (supply.id .product) name description price = .ok (p, s')) :
      Effect supply r (.addProduct id name description price) (.product p) (r.saveStore s')
  | addInventory {id product quantity s s' level} (hs : r.stores.get? id = some s)
      (h : s.addInventory product quantity = .ok s') (hl : s'.available product = .ok level) :
      Effect supply r (.addInventory id product quantity) (.level level) (r.saveStore s')
  | updatePrice {id product price s s' p} (hs : r.stores.get? id = some s)
      (h : s.updatePrice product price = .ok s') (hp : s'.product product = .ok p) :
      Effect supply r (.updatePrice id product price) (.product p) (r.saveStore s')
  | deactivateProduct {id product s s'} (hs : r.stores.get? id = some s)
      (h : s.deactivateProduct product = .ok s') :
      Effect supply r (.deactivateProduct id product) .nothing (r.saveStore s')
  | register {email firstName lastName c r'}
      (h : r.decideRegister supply email firstName lastName = .ok (c, r')) :
      Effect supply r (.register email firstName lastName) (.customer c.settled) r'
  | updateContact {id phone address c r'}
      (h : r.decideCustomer id (·.updateContact phone address) = .ok (c, r')) :
      Effect supply r (.updateContact id phone address) (.customer c.settled) r'
  | redeemPoints {id points c r'}
      (h : r.decideCustomer id (·.redeemPoints points) = .ok (c, r')) :
      Effect supply r (.redeemPoints id points) (.customer c.settled) r'
  | deactivateCustomer {id c r'} (h : r.decideCustomer id Customer.deactivate = .ok (c, r')) :
      Effect supply r (.deactivateCustomer id) (.customer c.settled) r'
  | createOrder {customerId storeId lines o s}
      (h : r.decideOrder supply customerId storeId lines = .ok (o, s)) :
      Effect supply r (.createOrder customerId storeId lines) (.order o.settled)
        ((r.saveStore s).saveOrder o)
  | cancelOrder {id reason before order}
      (h : r.decideCancel id reason = .ok (before, order))
      (hn : before.status.holdsReservation = false) :
      Effect supply r (.cancelOrder id reason) (.cancellation ⟨order.settled, [], []⟩)
        (r.saveOrder order)
  | cancelReserved {id reason before order released failed news r'}
      (h : r.decideCancel id reason = .ok (before, order))
      (hn : before.status.holdsReservation = true)
      (hb : (r.saveOrder order).putBack order = ((released, failed, news), r')) :
      Effect supply r (.cancelOrder id reason) (.cancellation ⟨order.settled, released, failed⟩) r'
  | advanceOrder {id transition o}
      (h : r.decideAdvance supply.now id transition = .ok o) :
      Effect supply r (.advanceOrder id transition) (.order o.settled) (r.saveOrder o)

/-- **A command is refused and changes nothing, or it has its effect.** -/
theorem Command.eval_cases (supply : Supply) (command : Command) (r : Repositories) :
    (∃ e, (command.job supply).eval r = (.error e, r)) ∨
      ∃ outcome r', (command.job supply).eval r = (.ok outcome, r') ∧
        command.Effect supply r outcome r' := by
  cases command with
  | createStore name location currency =>
    simp only [job, eval_map, Catalogue.eval_createStore]
    cases h : Store.create (supply.id .store) name location currency with
    | error e => exact .inl ⟨_, rfl⟩
    | ok s => exact .inr ⟨_, _, rfl, .createStore h⟩
  | addProduct id name description price =>
    simp only [job, eval_map, Catalogue.addProduct, eval_bind, Catalogue.eval_withStore]
    cases h : r.decideChange id
        fun s => s.addProduct (supply.id .product) name description price with
    | error e => exact .inl ⟨_, rfl⟩
    | ok x =>
      obtain ⟨s, hs, hp⟩ := Repositories.decideChange_eq_ok_iff.mp h
      exact .inr ⟨_, _, rfl, .addProduct hs hp⟩
  | addInventory id product quantity =>
    simp only [job, eval_map, Catalogue.addInventory, eval_bind, Catalogue.eval_withStore]
    cases h : r.decideChange id fun s => do return ((), ← s.addInventory product quantity) with
    | error e => exact .inl ⟨_, rfl⟩
    | ok x =>
      obtain ⟨s, hs, hx⟩ := Repositories.decideChange_unit_eq_ok h
      obtain ⟨level, hl⟩ := Store.available_of_addInventory hx
      have hl' : x.2.settled.available product = .ok level := hl
      refine .inr ⟨.level level, r.saveStore x.2, ?_, .addInventory hs hx hl⟩
      simp [hl', Except.map]
  | updatePrice id product price =>
    simp only [job, eval_map, Catalogue.updatePrice, eval_bind, Catalogue.eval_withStore]
    cases h : r.decideChange id fun s => do return ((), ← s.updatePrice product price) with
    | error e => exact .inl ⟨_, rfl⟩
    | ok x =>
      obtain ⟨s, hs, hx⟩ := Repositories.decideChange_unit_eq_ok h
      obtain ⟨p, hp⟩ := Store.product_of_updatePrice hx
      have hp' : x.2.settled.product product = .ok p := hp
      refine .inr ⟨.product p, r.saveStore x.2, ?_, .updatePrice hs hx hp⟩
      simp [hp', Except.map]
  | deactivateProduct id product =>
    simp only [job, eval_map, Catalogue.deactivateProduct, eval_bind, Catalogue.eval_withStore]
    cases h : r.decideChange id fun s => do return ((), ← s.deactivateProduct product) with
    | error e => exact .inl ⟨_, rfl⟩
    | ok x =>
      obtain ⟨s, hs, hx⟩ := Repositories.decideChange_unit_eq_ok h
      exact .inr ⟨_, _, rfl, .deactivateProduct hs hx⟩
  | register email firstName lastName =>
    simp only [job, eval_map, Accounts.eval_register]
    cases h : r.decideRegister supply email firstName lastName with
    | error e => exact .inl ⟨_, rfl⟩
    | ok x => exact .inr ⟨_, _, rfl, .register h⟩
  | updateContact id phone address =>
    simp only [job, eval_map, Accounts.updateContact, Accounts.eval_withCustomer]
    cases h : r.decideCustomer id fun c => c.updateContact phone address with
    | error e => exact .inl ⟨_, rfl⟩
    | ok x => exact .inr ⟨_, _, rfl, .updateContact h⟩
  | redeemPoints id points =>
    simp only [job, eval_map, Accounts.redeemPoints, Accounts.eval_withCustomer]
    cases h : r.decideCustomer id fun c => c.redeemPoints points with
    | error e => exact .inl ⟨_, rfl⟩
    | ok x => exact .inr ⟨_, _, rfl, .redeemPoints h⟩
  | deactivateCustomer id =>
    simp only [job, eval_map, Accounts.deactivate, Accounts.eval_withCustomer]
    cases h : r.decideCustomer id Customer.deactivate with
    | error e => exact .inl ⟨_, rfl⟩
    | ok x => exact .inr ⟨_, _, rfl, .deactivateCustomer h⟩
  | createOrder customerId storeId lines =>
    simp only [job, eval_map, Ordering.eval_createOrder]
    cases h : r.decideOrder supply customerId storeId lines with
    | error e => exact .inl ⟨_, rfl⟩
    | ok x => exact .inr ⟨_, _, rfl, .createOrder h⟩
  | cancelOrder id reason =>
    simp only [job, eval_map, Ordering.eval_cancelOrder]
    cases h : r.decideCancel id reason with
    | error e => exact .inl ⟨_, rfl⟩
    | ok x =>
      obtain ⟨before, order⟩ := x
      cases hn : before.status.holdsReservation with
      | false =>
        refine .inr ⟨_, _, ?_, .cancelOrder h hn⟩
        simp [hn, Except.map]
      | true =>
        rcases hb : (r.saveOrder order).putBack order with ⟨⟨released, failed, news⟩, r'⟩
        refine .inr ⟨_, _, ?_, .cancelReserved h hn hb⟩
        simp [hn, hb, Except.map]
  | advanceOrder id transition =>
    simp only [job, eval_map, Ordering.eval_advanceOrder]
    cases h : r.decideAdvance supply.now id transition with
    | error e => exact .inl ⟨_, rfl⟩
    | ok o => exact .inr ⟨_, _, rfl, .advanceOrder h⟩

end Storefront
