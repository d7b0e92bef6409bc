/-! # Locks by key

A registry hands out one lock for each key.  Whoever wants a lock first looks it up,
which makes a lock if the key has none, and then queues for it.  The one who has queued
longest holds the lock; the others wait, in the order in which they came.  A request
ends when the lock is released or the wait is given up.

Locks that nobody has looked up any longer are thrown away whenever one is looked up.
A key may therefore be given one lock now and another later, but not while anybody has
anything to do with the first.
-/
namespace Storefront

/-- Somebody who wants a lock. -/
structure LockRequest (ν κ : Type) where
  name : ν
  key : κ
  /-- The lock that was found under the key. -/
  lock : Nat
  /-- Whether the lock is held or waited for, and not merely found. -/
  queued : Bool
  deriving DecidableEq

/-- The locks of some keys, and who wants them. -/
structure LockRegistry (ν κ : Type) where
  /-- The lock of each key that has one. -/
  locks : List (κ × Nat)
  /-- The lock that is made next. -/
  next : Nat
  /-- Those who want a lock; who has queued stands behind all that queued before. -/
  requests : List (LockRequest ν κ)

namespace LockRegistry

variable {ν κ : Type}

/-- The registry without locks. -/
def empty : LockRegistry ν κ := ⟨[], 0, []⟩

instance : Inhabited (LockRegistry ν κ) := ⟨empty⟩

/-- Whether anybody has anything to do with a lock. -/
def isWanted (r : LockRegistry ν κ) (lock : Nat) : Bool := r.requests.any fun q => q.lock == lock

/-- Throws away the locks that nobody wants. -/
def prune (r : LockRegistry ν κ) : LockRegistry ν κ :=
  { r with locks := r.locks.filter fun l => r.isWanted l.2 }

/-- The number of keys whose lock is held, waited for or looked up. -/
def activeCount (r : LockRegistry ν κ) : Nat :=
  (r.locks.filter fun l => r.isWanted l.2).length

/-- The request that holds a lock: the first that has queued for it. -/
def holder? (r : LockRegistry ν κ) (lock : Nat) : Option (LockRequest ν κ) :=
  r.requests.find? fun q => q.queued && q.lock == lock

variable [DecidableEq κ] [DecidableEq ν]

/-- The lock of a key, and the registry with it. -/
def lockOf (r : LockRegistry ν κ) (key : κ) : Nat × LockRegistry ν κ :=
  match r.locks.find? fun l => l.1 == key with
  | some l => (l.2, r)
  | none => (r.next, { r with locks := r.locks ++ [(key, r.next)], next := r.next + 1 })

/-- Looks the lock of a key up for somebody, after throwing away unwanted ones. -/
def lookUp (r : LockRegistry ν κ) (name : ν) (key : κ) : LockRegistry ν κ :=
  let (lock, r) := r.prune.lockOf key
  { r with requests := r.requests ++ [⟨name, key, lock, false⟩] }

/-- Lets somebody who has looked a lock up queue for it. -/
def enqueue (r : LockRegistry ν κ) (name : ν) : LockRegistry ν κ :=
  match r.requests.find? fun q => q.name == name && !q.queued with
  | some q => { r with
      requests := (r.requests.erase q) ++ [{ q with queued := true }] }
  | none => r

/-- Looks a lock up and queues for it. -/
def acquire (r : LockRegistry ν κ) (name : ν) (key : κ) : LockRegistry ν κ :=
  (r.lookUp name key).enqueue name

/-- Whether the request holds its lock. -/
def holds (r : LockRegistry ν κ) (q : LockRequest ν κ) : Bool := r.holder? q.lock == some q

/-- The requests that hold their locks. -/
def held (r : LockRegistry ν κ) : List (LockRequest ν κ) := r.requests.filter r.holds

/-- The requests that wait for their locks. -/
def waiting (r : LockRegistry ν κ) : List (LockRequest ν κ) :=
  r.requests.filter fun q => q.queued && !r.holds q

/-- Gives a lock back, if somebody of the name holds one. -/
def release (r : LockRegistry ν κ) (name : ν) : LockRegistry ν κ :=
  match r.held.find? fun q => q.name == name with
  | some q => { r with requests := r.requests.erase q }
  | none => r

/-- Gives a wait up, if somebody of the name waits or has only looked a lock up. -/
def abandon (r : LockRegistry ν κ) (name : ν) : LockRegistry ν κ :=
  match r.requests.find? fun q => q.name == name && !r.holds q with
  | some q => { r with requests := r.requests.erase q }
  | none => r

/-- What can happen at a registry. -/
inductive Step (ν κ : Type) where
  | lookUp (name : ν) (key : κ)
  | enqueue (name : ν)
  | release (name : ν)
  | abandon (name : ν)

/-- The registry after a step. -/
def step (r : LockRegistry ν κ) : Step ν κ → LockRegistry ν κ
  | .lookUp name key => r.lookUp name key
  | .enqueue name => r.enqueue name
  | .release name => r.release name
  | .abandon name => r.abandon name

/-- The registry after some steps from the beginning. -/
def run (steps : List (Step ν κ)) : LockRegistry ν κ := steps.foldl step empty

end LockRegistry

end Storefront
