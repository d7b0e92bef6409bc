import Storefront.Service.Backend

/-! # Scripts

A command is a *script*: it asks the backend for one thing after another, and what it
asks next depends on the answers.  Each question is answered at once and as a whole;
between two questions of one script, other scripts may ask theirs.

`Backend.answer` says what every question does.  `Script.run` has one script ask all of
its questions with nobody in between; there a lock is always free.  Waiting for locks is
up to whoever runs several scripts at a time.
-/
namespace Storefront

/-- What can be locked: one store, one order or one customer. -/
inductive LockKey where
  | store (id : StoreId)
  | order (id : OrderId)
  | customer (id : CustomerId)
  deriving DecidableEq

/-- What a script can ask for. -/
inductive Ask where
  | openUnit
  | begin (unit : Nat)
  | commit (unit : Nat)
  | rollback (unit : Nat)
  | lock (key : LockKey)
  | unlock (key : LockKey)
  | findStore (id : StoreId)
  | saveStore (s : Store)
  | findOrder (id : OrderId)
  | saveOrder (o : Order)
  | findCustomer (id : CustomerId)
  | findCustomerByEmail (email : Email)
  | saveCustomer (c : Customer)
  | publish (events : List Payload)
  | count (counter : Counter) (n : Nat)

/-- What the answer to a question is. -/
abbrev Ask.Answer : Ask → Type
  | openUnit => Nat
  | begin _ | commit _ | saveStore _ | saveOrder _ | saveCustomer _ => Except Error Unit
  | rollback _ | lock _ | unlock _ | publish _ | count .. => Unit
  | findStore _ => Except Error Store
  | findOrder _ => Except Error Order
  | findCustomer _ | findCustomerByEmail _ => Except Error Customer

/-- The answer to a question, and what it leaves behind. -/
def Backend.answer (b : Backend) : (q : Ask) → q.Answer × Backend
  | .openUnit => b.openUnit
  | .begin unit => b.changeUnit unit UnitOfWork.begin
  | .commit unit => b.changeUnit unit UnitOfWork.commit
  | .rollback unit => ((), b.rollback unit)
  | .lock _ => ((), b)
  | .unlock _ => ((), b)
  | .findStore id => (b.find b.faults.findStores (·.findStore id), b)
  | .saveStore s => b.save b.faults.saveStores fun r => .ok (r.saveStore s)
  | .findOrder id => (b.find false (·.findOrder id), b)
  | .saveOrder o => b.save b.faults.saveOrders fun r => .ok (r.saveOrder o)
  | .findCustomer id => (b.find b.faults.findCustomers (·.findCustomer id), b)
  | .findCustomerByEmail email =>
    (b.find b.faults.findCustomers (·.findCustomerByEmail email), b)
  | .saveCustomer c => b.save b.faults.saveCustomers (·.saveCustomer c)
  | .publish events => ((), b.publish events)
  | .count counter n => ((), b.count counter n)

/-- Questions that depend on the answers to earlier ones, and what comes of them. -/
inductive Script (α : Type) where
  | done (a : α)
  | ask (q : Ask) (next : q.Answer → Script α)

namespace Script

variable {α β γ : Type}

/-- Goes on with another script. -/
def bind : Script α → (α → Script β) → Script β
  | done a, f => f a
  | ask q next, f => ask q fun r => (next r).bind f

instance : Monad Script where
  pure := done
  bind := bind

@[simp] theorem bind_done (s : Script α) : s.bind done = s := by
  induction s with
  | done a => rfl
  | ask q next ih => exact congrArg (ask q) (funext ih)

theorem bind_assoc (s : Script α) (f : α → Script β) (g : β → Script γ) :
    (s.bind f).bind g = s.bind fun a => (f a).bind g := by
  induction s with
  | done a => rfl
  | ask q next ih => exact congrArg (ask q) (funext ih)

instance : LawfulMonad Script :=
  LawfulMonad.mk' Script bind_done (fun _ _ => rfl) bind_assoc

/-- Has a script ask all of its questions with nobody in between. -/
def run : Script α → Backend → α × Backend
  | done a, b => (a, b)
  | ask q next, b => (next (b.answer q).1).run (b.answer q).2

theorem run_bind (s : Script α) (f : α → Script β) (b : Backend) :
    (s.bind f).run b = (f (s.run b).1).run (s.run b).2 := by
  induction s generalizing b with
  | done a => rfl
  | ask q next ih => exact ih _ _

end Script

/-! ### Scripts that can fail -/

/-- A script that gives a value or an error. -/
abbrev Job (α : Type) := ExceptT Error Script α

namespace Job

variable {α : Type}

/-- Asks a question that is always answered. -/
def perform (q : Ask) : Job q.Answer := ExceptT.lift (.ask q .done)

/-- The store of an identifier. -/
def findStore (id : StoreId) : Job Store := ExceptT.mk (.ask (.findStore id) .done)

/-- Keeps a store. -/
def saveStore (s : Store) : Job Unit := ExceptT.mk (.ask (.saveStore s) .done)

/-- The order of an identifier. -/
def findOrder (id : OrderId) : Job Order := ExceptT.mk (.ask (.findOrder id) .done)

/-- Keeps an order. -/
def saveOrder (o : Order) : Job Unit := ExceptT.mk (.ask (.saveOrder o) .done)

/-- The customer of an identifier. -/
def findCustomer (id : CustomerId) : Job Customer := ExceptT.mk (.ask (.findCustomer id) .done)

/-- The customer of an email address. -/
def findCustomerByEmail (email : Email) : Job Customer :=
  ExceptT.mk (.ask (.findCustomerByEmail email) .done)

/-- Keeps a customer. -/
def saveCustomer (c : Customer) : Job Unit := ExceptT.mk (.ask (.saveCustomer c) .done)

/-- Begins a unit of work. -/
def begin (unit : Nat) : Job Unit := ExceptT.mk (.ask (.begin unit) .done)

/-- Commits a unit of work. -/
def commit (unit : Nat) : Job Unit := ExceptT.mk (.ask (.commit unit) .done)

/-- What comes of a computation that asks nothing. -/
def ofResult (x : Except Error α) : Job α := ExceptT.mk (.done x)

instance : MonadLift (Except Error) Job := ⟨ofResult⟩

/-- The value or the error of a script, as a value. -/
def attempt (job : Job α) : Job (Except Error α) := ExceptT.lift job.run

/-- Holds a lock for the time of a script. -/
def withLock (key : LockKey) (job : Job α) : Job α := do
  let () ← perform (.lock key)
  let result ← job.attempt
  let () ← perform (.unlock key)
  ofResult result

/-- Does a script in a unit of work of its own, which is committed if the script gives a
value and rolled back otherwise.  If the unit cannot be begun, nothing is done. -/
def inUnit (job : Job α) : Job (Except Error α) := do
  let unit ← perform .openUnit
  begin unit
  match ← job.attempt with
  | .ok a => (do commit unit; return a : Job α).attempt
  | .error e =>
    let () ← perform (.rollback unit)
    return .error e

/-- Does a script in a unit of work of its own, and gives what the script gives. -/
def committed (job : Job α) : Job α := do ofResult (← inUnit job)

/-- Publishes what happened, if anything did. -/
def publish (events : List Payload) : Job Unit :=
  if events.isEmpty then return () else perform (.publish events)

/-- Counts something that happened once. -/
def countOne (c : Counter) : Job Unit := perform (.count c 1)

end Job

end Storefront
