import Storefront.Proofs.Evaluation

/-! # Locks are taken in order

A script may hold one lock and ask for another.  If all scripts do so in one order of keys, none
can wait for a lock whose holder waits, through whatever others, for one of its own.  The order
here is that of ranks (`LockKey.rank`): those who cancel an order hold its lock when they ask for
that of its store, and nobody else asks for a lock while holding one.

A script that goes by this order also gives back what it has taken, on every path through it, be
it refused halfway or not (`Script.LocksInOrder`).  Every command is such a script, and so is
every delivery (`Command.locksInOrder`, `Loyalty.locksInOrder_deliver`).
-/
namespace Storefront

/-- Where the lock of a key stands in the order in which locks are taken. -/
def LockKey.rank : LockKey → Nat
  | .order _ => 0
  | .store _ => 1
  | .customer _ => 2

namespace Ask

/-- Whether a question has to do with locks. -/
def ofLocks : Ask → Bool
  | .lock _ | .unlock _ => true
  | _ => false

/-- The locks that are held once a question has been answered. -/
def heldAfter (held : List LockKey) : Ask → List LockKey
  | .lock key => key :: held
  | .unlock key => held.erase key
  | _ => held

/-- Who holds these locks may ask the question: for a lock of a higher rank than any of theirs, or
to give one of theirs back. -/
def InOrder (held : List LockKey) : Ask → Prop
  | .lock key => ∀ k ∈ held, k.rank < key.rank
  | .unlock key => key ∈ held
  | _ => True

theorem inOrder_of_ofLocks {q : Ask} (h : q.ofLocks = false) (held : List LockKey) :
    q.InOrder held := by
  cases q with
  | lock | unlock => cases h
  | _ => trivial

theorem heldAfter_of_ofLocks {q : Ask} (h : q.ofLocks = false) (held : List LockKey) :
    q.heldAfter held = held := by
  cases q with
  | lock | unlock => cases h
  | _ => rfl

end Ask

/-! ### Scripts -/

namespace Script

variable {α β : Type} {held last : List LockKey}

/-- Holding some locks in the beginning, the script takes locks in the order of their ranks,
gives back only what it holds, and holds exactly the last ones when it is done. -/
def LocksInOrder (last : List LockKey) : List LockKey → Script α → Prop
  | held, .done _ => held = last
  | held, .ask q next => q.InOrder held ∧ ∀ a, (next a).LocksInOrder last (q.heldAfter held)

/-- A script that does not deal with locks holds those that it has held all the time. -/
theorem locksInOrder_of_asks {s : Script α} (hs : s.Asks (·.ofLocks = false)) :
    s.LocksInOrder held held := by
  induction s with
  | done a => rfl
  | ask q next ih =>
    refine ⟨q.inOrder_of_ofLocks hs.1 held, fun a => ?_⟩
    rw [q.heldAfter_of_ofLocks hs.1]
    exact ih a (hs.2 a)

theorem LocksInOrder.bind {middle : List LockKey} {s : Script α} {f : α → Script β}
    (hs : s.LocksInOrder middle held) (hf : ∀ a, (f a).LocksInOrder last middle) :
    (s.bind f).LocksInOrder last held := by
  induction s generalizing held with
  | done a =>
    cases hs
    exact hf a
  | ask q next ih => exact ⟨hs.1, fun a => ih a (hs.2 a)⟩

end Script

namespace Job

variable {α β : Type} {held : List LockKey} {key : LockKey}

/-- The job takes locks in order, and holds in the end what it has held in the beginning. -/
def LocksInOrder (held : List LockKey) (job : Job α) : Prop :=
  Script.LocksInOrder held held job.run

theorem locksInOrder_of_asks {job : Job α} (h : job.Asks (·.ofLocks = false)) :
    job.LocksInOrder held := Script.locksInOrder_of_asks h

theorem LocksInOrder.bind {job : Job α} {f : α → Job β} (hj : job.LocksInOrder held)
    (hf : ∀ a, (f a).LocksInOrder held) : (job >>= f).LocksInOrder held := by
  rw [LocksInOrder, run_bind]
  refine Script.LocksInOrder.bind hj fun x => ?_
  cases x with
  | ok a => exact hf a
  | error e => rfl

theorem LocksInOrder.map {job : Job α} (hj : job.LocksInOrder held) (g : α → β) :
    (g <$> job).LocksInOrder held := by
  rw [map_eq_pure_bind]
  exact hj.bind fun a => rfl

theorem LocksInOrder.attempt {job : Job α} (hj : job.LocksInOrder held) :
    job.attempt.LocksInOrder held :=
  Script.LocksInOrder.bind hj fun _ => rfl

/-- A lock of a higher rank may be taken in between. -/
theorem LocksInOrder.withLock {job : Job α} (hj : job.LocksInOrder (key :: held))
    (hkey : ∀ k ∈ held, k.rank < key.rank) : (job.withLock key).LocksInOrder held := by
  have hrest (x : Except Error α) : Script.LocksInOrder held (key :: held)
      (.ask (.unlock key) fun _ => .done x) :=
    ⟨List.mem_cons_self .., fun _ => List.erase_cons_head ..⟩
  have hwalk : Script.LocksInOrder held held
      (.ask (.lock key) fun _ => job.andThen fun x => .ask (.unlock key) fun _ => .done x) :=
    ⟨hkey, fun _ => Script.LocksInOrder.bind hj hrest⟩
  rwa [← andThen_withLock, andThen_done] at hwalk

theorem LocksInOrder.inUnit {job : Job α} (hj : job.LocksInOrder held) :
    (Job.inUnit job).LocksInOrder held := by
  refine LocksInOrder.bind (locksInOrder_of_asks (asks_perform rfl)) fun unit => ?_
  refine LocksInOrder.bind (locksInOrder_of_asks ⟨rfl, fun _ => trivial⟩) fun _ => ?_
  refine hj.attempt.bind fun x => ?_
  cases x with
  | error e => exact locksInOrder_of_asks (Asks.bind (asks_perform rfl) fun _ => asks_pure _)
  | ok a =>
    have hcommit : (commit unit).Asks (·.ofLocks = false) := ⟨rfl, fun _ => trivial⟩
    exact locksInOrder_of_asks (hcommit.bind fun _ => asks_pure a).attempt

theorem LocksInOrder.committed {job : Job α} (hj : job.LocksInOrder held) :
    (Job.committed job).LocksInOrder held :=
  hj.inUnit.bind fun x => locksInOrder_of_asks (asks_ofResult x)

end Job

/-! ### The commands -/

open Job

variable {α : Type} {supply : Supply}

theorem Catalogue.locksInOrder_createStore (name : String) (location : Address)
    (currency : String) : (createStore supply name location currency).LocksInOrder [] := by
  unfold createStore
  refine LocksInOrder.bind (locksInOrder_of_asks (asks_ofResult _)) fun s => ?_
  refine LocksInOrder.bind (locksInOrder_of_asks (asks_saveStore rfl)).committed fun _ => ?_
  exact locksInOrder_of_asks (Asks.bind (asks_publish rfl) fun _ => asks_pure _)

theorem Catalogue.locksInOrder_withStore (id : StoreId)
    (change : Store → Except StoreError (α × Store)) : (withStore id change).LocksInOrder [] := by
  unfold withStore
  refine LocksInOrder.bind (LocksInOrder.committed (LocksInOrder.withLock ?_ nofun)) fun x =>
    locksInOrder_of_asks (Asks.bind (asks_publish rfl) fun _ => asks_pure _)
  refine locksInOrder_of_asks (Asks.bind (asks_findStore rfl) fun s => ?_)
  exact Asks.bind (asks_ofResult _) fun x => Asks.bind (asks_saveStore rfl) fun _ => asks_pure _

theorem Accounts.locksInOrder_register (email firstName lastName : String) :
    (register supply email firstName lastName).LocksInOrder [] := by
  unfold register
  refine LocksInOrder.bind (locksInOrder_of_asks (asks_ofResult _)) fun c => ?_
  refine LocksInOrder.bind (LocksInOrder.committed (locksInOrder_of_asks ?_)) fun _ =>
    locksInOrder_of_asks (Asks.bind (asks_publish rfl) fun _ => asks_pure _)
  refine Asks.bind (Asks.bind (Asks.attempt (asks_findCustomerByEmail rfl)) fun x => ?_) fun _ =>
    asks_saveCustomer rfl
  cases x with
  | ok c => exact asks_throw _
  | error e =>
    dsimp only
    split
    · exact asks_pure _
    · exact asks_throw e

theorem Accounts.locksInOrder_withCustomer (id : CustomerId)
    (change : Customer → Except CustomerError Customer) :
    (withCustomer id change).LocksInOrder [] := by
  unfold withCustomer
  refine LocksInOrder.bind (LocksInOrder.committed (LocksInOrder.withLock ?_ nofun)) fun c =>
    locksInOrder_of_asks (Asks.bind (asks_publish rfl) fun _ => asks_pure _)
  refine locksInOrder_of_asks (Asks.bind (asks_findCustomer rfl) fun c => ?_)
  exact Asks.bind (asks_ofResult _) fun c => Asks.bind (asks_saveCustomer rfl) fun _ => asks_pure _

theorem Ordering.locksInOrder_place (customerId : CustomerId) (storeId : StoreId)
    (lines : List RequestedLine) : (place supply customerId storeId lines).LocksInOrder [] := by
  unfold place
  -- what is decided has nothing to do with locks
  generalize Order.place (supply.id .order) supply.line supply.now customerId = decision
  refine LocksInOrder.bind (locksInOrder_of_asks (asks_findCustomer rfl)) fun c => ?_
  dsimp only
  split
  · exact locksInOrder_of_asks (asks_throw _)
  · refine LocksInOrder.withLock (locksInOrder_of_asks ?_) nofun
    refine Asks.bind (asks_findStore rfl) fun s => Asks.bind (asks_ofResult _) fun placed => ?_
    refine Asks.bind (asks_saveStore rfl) fun _ => Asks.bind (asks_saveOrder rfl) fun _ => ?_
    exact asks_pure _

theorem Ordering.locksInOrder_reject (e : Error) : (reject e : Job α).LocksInOrder [] :=
  locksInOrder_of_asks (Asks.bind (asks_countOne rfl) fun _ => asks_throw e)

theorem Ordering.locksInOrder_createOrder (customerId : CustomerId) (storeId : StoreId)
    (lines : List RequestedLine) :
    (createOrder supply customerId storeId lines).LocksInOrder [] := by
  unfold createOrder
  split
  · exact locksInOrder_reject _
  · refine (locksInOrder_place ..).inUnit.bind fun x => ?_
    cases x with
    | error e => exact locksInOrder_reject e
    | ok placed =>
      refine locksInOrder_of_asks (Asks.bind (asks_publish rfl) fun _ => ?_)
      exact Asks.bind (asks_countOne rfl) fun _ => asks_pure _

/-- The lock of an order's store may be taken while that of the order is held. -/
theorem Ordering.locksInOrder_releaseStock (id : OrderId) (order : Order) :
    (releaseStock order).LocksInOrder [.order id] := by
  unfold releaseStock
  refine LocksInOrder.withLock (locksInOrder_of_asks ?_) fun k hk => ?_
  · refine Asks.bind (Asks.attempt (asks_findStore rfl)) fun x => ?_
    cases x with
    | error e => exact asks_pure _
    | ok s =>
      refine Asks.bind (Asks.attempt (asks_saveStore rfl)) fun y => ?_
      cases y with
      | error e => exact asks_pure _
      | ok => exact asks_pure _
  · rw [List.mem_singleton.mp hk]
    exact Nat.zero_lt_one

theorem Ordering.locksInOrder_cancel (id : OrderId) (reason : String) :
    (cancel id reason).LocksInOrder [] := by
  unfold cancel
  refine LocksInOrder.withLock ?_ nofun
  refine LocksInOrder.bind (locksInOrder_of_asks (asks_findOrder rfl)) fun before => ?_
  refine LocksInOrder.bind (locksInOrder_of_asks (asks_ofResult _)) fun order => ?_
  refine LocksInOrder.bind (locksInOrder_of_asks (asks_saveOrder rfl)) fun _ => ?_
  have hcount (failed : List FailedRelease) (x : Cancellation × List Payload) :
      (do
        if !failed.isEmpty then perform (.count .releaseFailures failed.length)
        return x : Job _).LocksInOrder [.order id] := by
    dsimp only
    split
    · exact locksInOrder_of_asks (Asks.bind (asks_perform rfl) fun _ => asks_pure _)
    · exact locksInOrder_of_asks (asks_pure _)
  dsimp only
  split
  · exact (locksInOrder_releaseStock id order).bind fun back => hcount ..
  · exact hcount [] _

theorem Ordering.locksInOrder_cancelOrder (id : OrderId) (reason : String) :
    (cancelOrder id reason).LocksInOrder [] := by
  unfold cancelOrder
  refine (locksInOrder_cancel id reason).committed.bind fun x => locksInOrder_of_asks ?_
  exact Asks.bind (asks_publish rfl) fun _ => Asks.bind (asks_countOne rfl) fun _ => asks_pure _

theorem Ordering.locksInOrder_advanceOrder (id : OrderId) (transition : OrderTransition) :
    (advanceOrder supply id transition).LocksInOrder [] := by
  unfold advanceOrder
  refine LocksInOrder.bind (LocksInOrder.committed (LocksInOrder.withLock ?_ nofun)) fun order =>
    locksInOrder_of_asks ?_
  · refine locksInOrder_of_asks (Asks.bind (asks_findOrder rfl) fun order => ?_)
    exact Asks.bind (asks_ofResult _) fun o => Asks.bind (asks_saveOrder rfl) fun _ => asks_pure _
  · exact Asks.bind (asks_publish rfl) fun _ => Asks.bind (asks_countOne rfl) fun _ => asks_pure _

/-- **Every command takes locks in order, and gives all of them back.** -/
theorem Command.locksInOrder (command : Command) (supply : Supply) :
    (command.job supply).LocksInOrder [] := by
  cases command with
  | createStore => exact (Catalogue.locksInOrder_createStore ..).map _
  | addProduct =>
    exact LocksInOrder.map (LocksInOrder.bind (Catalogue.locksInOrder_withStore ..) fun x =>
      locksInOrder_of_asks (asks_pure _)) _
  | addInventory | updatePrice =>
    exact LocksInOrder.map (LocksInOrder.bind (Catalogue.locksInOrder_withStore ..) fun x =>
      locksInOrder_of_asks (asks_ofResult _)) _
  | deactivateProduct =>
    exact LocksInOrder.map (LocksInOrder.bind (Catalogue.locksInOrder_withStore ..) fun x =>
      locksInOrder_of_asks (asks_pure _)) _
  | register => exact (Accounts.locksInOrder_register ..).map _
  | updateContact | redeemPoints | deactivateCustomer =>
    exact (Accounts.locksInOrder_withCustomer ..).map _
  | createOrder => exact (Ordering.locksInOrder_createOrder ..).map _
  | cancelOrder => exact (Ordering.locksInOrder_cancelOrder ..).map _
  | advanceOrder => exact (Ordering.locksInOrder_advanceOrder ..).map _

theorem Loyalty.locksInOrder_credit (e : Payload) : (credit e).LocksInOrder [] := by
  unfold credit
  split
  · dsimp only
    split
    · exact locksInOrder_of_asks (asks_pure _)
    · refine LocksInOrder.withLock (locksInOrder_of_asks ?_) nofun
      refine Asks.bind (asks_findCustomer rfl) fun c => Asks.bind (asks_ofResult _) fun c' => ?_
      exact Asks.bind (asks_saveCustomer rfl) fun _ => asks_perform rfl
  · exact locksInOrder_of_asks (asks_pure _)

/-- **Every delivery takes locks in order, and gives all of them back.** -/
theorem Loyalty.locksInOrder_deliver (d : Delivery) : (deliver d).LocksInOrder [] := by
  unfold deliver
  refine (locksInOrder_credit d.payload).attempt.bind fun x => ?_
  cases x with
  | ok => exact locksInOrder_of_asks (asks_pure _)
  | error e => exact locksInOrder_of_asks (asks_countOne rfl)

end Storefront
