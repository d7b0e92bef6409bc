import Mathlib.Algebra.BigOperators.Pi
import Storefront.Proofs.Clientele
import Storefront.Proofs.Custody

/-! # What scripts tally up

Some of what a script does can be added up: what it counts, the orders that it places and those
that it cancels, and the points by which it makes balances larger or smaller (`Tally`).  Of a
customer whom it keeps again, a script knows the balance that they have had, because it has read
them under their lock.  What it has in hand of customers is its *charge*.

`Script.Tallies` follows a script through all the answers that it may get, with its charge and with
what it has tallied up so far, and says what that comes to at each end.  What a command tallies up
is determined by what comes of it (`Command.tallies`): an order that is placed is counted once, as
placed and as created, and so is a refusal, with its reason; what is cancelled, moved on or spent
has been so once.  A listener who is told of an event counts the points that it has credited, no
more and no less (`Loyalty.tallies_deliver`).
-/
namespace Storefront

/-! ### Tallies -/

/-- What can be added up. -/
inductive Item where
  /-- What a counter has been raised by. -/
  | counter (c : Counter)
  /-- What the counters of a family have been raised by. -/
  | family (name : String)
  /-- The orders that have been placed. -/
  | placed
  /-- The orders that have been cancelled. -/
  | cancelled
  /-- The points by which balances have grown. -/
  | earned
  /-- The points by which balances have shrunk. -/
  | spent
  deriving DecidableEq

/-- So much of each. -/
abbrev Tally := Item → Nat

namespace Tally

/-- What is added when a counter is raised. -/
def counted (c : Counter) (n : Nat) : Tally :=
  Pi.single (.counter c) n + Pi.single (.family c.family) n

/-- What is added when an order is kept in a status. -/
def kept : OrderStatus → Tally
  | .confirmed => Pi.single .placed 1
  | .cancelled => Pi.single .cancelled 1
  | .pending | .preparing | .ready | .completed => 0

/-- What is added when a customer is kept with another balance. -/
def rebalanced (old new : Count) : Tally :=
  Pi.single .earned (new.toNat - old.toNat) + Pi.single .spent (old.toNat - new.toNat)

@[simp] theorem rebalanced_self (balance : Count) : rebalanced balance balance = 0 := by
  simp [rebalanced]

@[simp] theorem counted_zero (c : Counter) : counted c 0 = 0 := by
  simp [counted]

/-- Points that have been spent. -/
theorem rebalanced_of_spent {old new points : Count}
    (h : new.toNat + points.toNat = old.toNat) :
    rebalanced old new = Pi.single .spent points.toNat := by
  have hnone : new.toNat - old.toNat = 0 := by omega
  have hall : old.toNat - new.toNat = points.toNat := by omega
  rw [rebalanced, hnone, hall, Pi.single_zero, zero_add]

/-- Points that have been earned. -/
theorem rebalanced_of_earned {old new points : Count}
    (h : new.toNat = old.toNat + points.toNat) :
    rebalanced old new = Pi.single .earned points.toNat := by
  have hall : new.toNat - old.toNat = points.toNat := by omega
  have hnone : old.toNat - new.toNat = 0 := by omega
  rw [rebalanced, hnone, hall, Pi.single_zero, add_zero]

theorem counted_counter (c d : Counter) (n : Nat) :
    counted c n (.counter d) = if d = c then n else 0 := by
  simp [counted, Pi.single_apply]

theorem counted_family (c : Counter) (n : Nat) (name : String) :
    counted c n (.family name) = if name = c.family then n else 0 := by
  simp [counted, Pi.single_apply]

end Tally

/-- **What a command tallies up**, given what comes of it. -/
def Command.tallyUp : Command × Except Error Outcome → Tally
  | (.createOrder .., .ok _) => Pi.single .placed 1 + Tally.counted .ordersCreated 1
  | (.createOrder .., .error e) => Tally.counted (.ordersRejected e.kind) 1
  | (.cancelOrder .., .ok (.cancellation c)) =>
    Pi.single .cancelled 1 + Tally.counted .releaseFailures c.failed.length +
      Tally.counted .ordersCancelled 1
  | (.advanceOrder _ transition, .ok _) => Tally.counted (.orderTransitions transition) 1
  | (.redeemPoints _ points, .ok _) => Pi.single .spent points.toNat
  | _ => 0

/-- What a listener tallies up: points that it credits and counts, and failures. -/
def Tally.OfListener (t : Tally) : Prop :=
  ∃ points failures : Nat, t = Pi.single .earned points + counted .pointsAwarded points +
    counted (.handlerFailures Listener.loyalty.name) failures

namespace Tally.OfListener

variable {t t' : Tally}

theorem zero : OfListener 0 := ⟨0, 0, by simp⟩

theorem add (h : t.OfListener) (h' : t'.OfListener) : (t + t').OfListener := by
  obtain ⟨points, failures, rfl⟩ := h
  obtain ⟨points', failures', rfl⟩ := h'
  refine ⟨points + points', failures + failures', ?_⟩
  simp only [counted, Pi.single_add]
  ac_rfl

end Tally.OfListener

/-- An order that moves on is neither placed nor cancelled. -/
theorem Order.kept_of_advance {o o' : Order} {now : Timestamp} {transition : OrderTransition}
    (h : o.advance now transition = .ok o') : Tally.kept o'.status = 0 := by
  cases transition with
  | startPreparing | markReady | complete =>
    obtain ⟨_, _, he⟩ := bind_eq_ok_iff.mp h
    cases he
    rfl

/-- Points that are credited are added to the balance. -/
theorem Customer.balance_of_addPoints {c c' : Customer} {points : Count}
    (h : c.addPoints points = .ok c') :
    c'.loyaltyPoints.toNat = c.loyaltyPoints.toNat + points.toNat := by
  unfold addPoints at h
  by_cases hp : points = 0
  · rw [if_pos hp] at h
    cases h
  · rw [if_neg hp] at h
    obtain ⟨_, _, h⟩ := bind_eq_ok_iff.mp h
    cases hsum : c.loyaltyPoints.add? points with
    | none =>
      rw [hsum] at h
      cases h
    | some sum =>
      rw [hsum] at h
      cases h
      rw [(reviewTier_account _).2.2]
      exact Count.add?_eq_some_iff.mp hsum

/-! ### Charges -/

/-- What a script has in hand of customers. -/
inductive Charge where
  /-- Nothing as yet. -/
  | none
  /-- The lock of a customer. -/
  | locked (id : CustomerId)
  /-- The lock of a customer, and the customer as they are kept. -/
  | read (c : Customer)
  /-- Nothing any more. -/
  | ended

namespace Charge

/-- The lock that a script holds for what it has in hand. -/
def key? : Charge → Option LockKey
  | locked id => some (.customer id)
  | read c => some (.customer c.id)
  | none | ended => .none

/-- **What may be asked** by a script that may make a customer under an identifier.  A customer who
is kept is new and has no points, or has been read under the lock. -/
def Allows (new : Option CustomerId) (charge : Charge) : Ask → Prop
  | .count (.eventsPublished _) _ => False
  | .saveCustomer c =>
    match charge with
    | none => new = some c.id ∧ c.loyaltyPoints = 0
    | read before => c.id = before.id
    | locked _ | ended => False
  | _ => True

/-- What a script has in hand once a question has been answered.  A customer is kept once. -/
def after (charge : Charge) : (q : Ask) → q.Answer → Charge
  | .lock (.customer id), _ =>
    match charge with
    | none => locked id
    | _ => ended
  | .findCustomer id, x =>
    match charge, x with
    | locked key, .ok c => if key = id then read c else ended
    | charge, _ => charge
  | .unlock (.customer _), _ => ended
  | .saveCustomer _, _ => ended
  | _, _ => charge

/-- What is tallied up with the answer to a question. -/
def adds (charge : Charge) : (q : Ask) → q.Answer → Tally
  | .count c n, _ => Tally.counted c n
  | .saveOrder o, x =>
    match x with
    | .ok () => Tally.kept o.status
    | .error _ => 0
  | .saveCustomer c, x =>
    match charge, x with
    | read before, .ok () => Tally.rebalanced before.loyaltyPoints c.loyaltyPoints
    | _, _ => 0
  | _, _ => 0

end Charge

/-- The answer is one that a question can get where units of work can be begun, and customers are
kept under their own identifiers. -/
def Ask.Possible : (q : Ask) → q.Answer → Prop
  | .begin _, x | .commit _, x => x = .ok ()
  | .findCustomer id, x => ∀ c, x = .ok c → c.id = id
  | _, _ => True

/-- **What a script tallies up**, from a charge and a tally on, is as `P` says for the value with
which it ends. -/
def Script.Tallies {α : Type} (new : Option CustomerId) (P : α → Tally → Prop) :
    Charge → Tally → Script α → Prop
  | _, t, .done a => P a t
  | charge, t, .ask q next => charge.Allows new q ∧
    ∀ a, q.Possible a → (next a).Tallies new P (charge.after q a) (t + charge.adds q a)

/-- What a job tallies up, from a charge and a tally on, is as `ends` says for the value or the
error that it gives, and for the charge in which it ends. -/
structure Job.Tallies {α : Type} (new : Option CustomerId) (charge : Charge) (t : Tally)
    (job : Job α) (ends : Except Error α → Charge → Tally → Prop) : Prop where
  andThen {β : Type} {P : β → Tally → Prop} (k : Except Error α → Script β)
    (hk : ∀ x charge' t', ends x charge' t' → (k x).Tallies new P charge' t') :
    (job.andThen k).Tallies new P charge t

/-- The question keeps no order and no customer, and counts nothing. -/
def Ask.Mute : Ask → Prop
  | .count .. | .saveOrder _ | .saveCustomer _ => False
  | _ => True

theorem Ask.Mute.allowed {q : Ask} (h : q.Mute) (new : Option CustomerId) (charge : Charge) :
    charge.Allows new q := by
  cases q with
  | count | saveCustomer => exact h.elim
  | _ => trivial

theorem Ask.Mute.adds {q : Ask} (h : q.Mute) (charge : Charge) (a : q.Answer) :
    charge.adds q a = 0 := by
  cases q with
  | count | saveOrder | saveCustomer => exact h.elim
  | _ => rfl

namespace Job

variable {α β : Type} {new : Option CustomerId} {charge : Charge} {t : Tally}
  {E : Except Error α → Charge → Tally → Prop} {F : Except Error β → Charge → Tally → Prop}

theorem Tallies.bind {job : Job α} {f : α → Job β} (hj : job.Tallies new charge t E)
    (he : ∀ e charge' t', E (.error e) charge' t' → F (.error e) charge' t')
    (hf : ∀ a charge' t', E (.ok a) charge' t' → (f a).Tallies new charge' t' F) :
    (job >>= f).Tallies new charge t F := by
  refine ⟨fun k hk => ?_⟩
  rw [andThen_bind]
  refine hj.andThen _ fun x charge' t' hx => ?_
  cases x with
  | error e => exact hk _ _ _ (he e _ _ hx)
  | ok a => exact (hf a _ _ hx).andThen k hk

theorem Tallies.mono {job : Job α} {weaker : Except Error α → Charge → Tally → Prop}
    (hj : job.Tallies new charge t E) (h : ∀ x charge' t', E x charge' t' → weaker x charge' t') :
    job.Tallies new charge t weaker :=
  ⟨fun k hk => hj.andThen k fun x _ _ hx => hk x _ _ (h x _ _ hx)⟩

theorem tallies_ofResult {x : Except Error α} (h : E x charge t) :
    (ofResult x).Tallies new charge t E := by
  refine ⟨fun k hk => ?_⟩
  rw [andThen_ofResult]
  exact hk _ _ _ h

theorem tallies_pure {a : α} (h : E (.ok a) charge t) : (pure a : Job α).Tallies new charge t E :=
  tallies_ofResult (x := .ok a) h

theorem tallies_throw {e : Error} (h : E (.error e) charge t) :
    (throw e : Job α).Tallies new charge t E := tallies_ofResult (x := .error e) h

theorem Tallies.map {job : Job α} {g : α → β} (hj : job.Tallies new charge t E)
    (hg : ∀ x charge' t', E x charge' t' → F (x.map g) charge' t') :
    (g <$> job).Tallies new charge t F := by
  rw [map_eq_pure_bind]
  exact hj.bind (fun _ _ _ hx => hg _ _ _ hx) fun a charge' t' hx =>
    tallies_pure (hg _ _ _ hx)

theorem Tallies.attempt {job : Job α} (hj : job.Tallies new charge t E) :
    job.attempt.Tallies new charge t fun y charge' t' => ∃ x, y = .ok x ∧ E x charge' t' := by
  refine ⟨fun k hk => ?_⟩
  rw [andThen_attempt]
  exact hj.andThen _ fun x charge' t' hx => hk _ _ _ ⟨x, rfl, hx⟩

/-- A lock that is not one of a customer makes no difference to a charge. -/
theorem Tallies.withLock {job : Job α} {key : LockKey} (hj : job.Tallies new charge t E)
    (hkey : ∀ id, key ≠ .customer id) : (job.withLock key).Tallies new charge t E := by
  refine ⟨fun k hk => ?_⟩
  rw [andThen_withLock]
  cases key with
  | customer id => exact absurd rfl (hkey id)
  | store id | order id =>
    exact ⟨trivial, fun _ _ => hj.andThen _ fun x charge' t' hx =>
      ⟨trivial, fun _ _ => hk x _ _ hx⟩⟩

/-- What is done under the lock of a customer is over when the lock is given back. -/
theorem Tallies.withLock_customer {job : Job α} {id : CustomerId}
    (hj : job.Tallies new (.locked id) t E) :
    (job.withLock (.customer id)).Tallies new .none t fun x _ t' => ∃ charge', E x charge' t' := by
  refine ⟨fun k hk => ?_⟩
  rw [andThen_withLock]
  exact ⟨trivial, fun _ _ => hj.andThen _ fun x charge' t' hx =>
    ⟨trivial, fun _ _ => hk x _ _ ⟨charge', hx⟩⟩⟩

/-- A unit of work can be begun and can be ended, and adds nothing to a tally. -/
theorem Tallies.inUnit {job : Job α} (hj : job.Tallies new charge t E) :
    (Job.inUnit job).Tallies new charge t fun y charge' t' => ∃ x, y = .ok x ∧ E x charge' t' := by
  refine ⟨fun k hk => ?_⟩
  rw [andThen_inUnit]
  refine ⟨trivial, fun u _ => ⟨trivial, ?_⟩⟩
  rintro _ rfl
  refine hj.andThen _ fun x charge' t' hx => ?_
  cases x with
  | error e => exact ⟨trivial, fun _ _ => hk _ _ _ ⟨_, rfl, hx⟩⟩
  | ok a =>
    refine ⟨trivial, ?_⟩
    rintro _ rfl
    exact hk _ _ _ ⟨_, rfl, hx⟩

theorem Tallies.committed {job : Job α} (hj : job.Tallies new charge t E) :
    (Job.committed job).Tallies new charge t E := by
  refine hj.inUnit.bind (fun _ _ _ hx => ?_) fun x charge' t' hx => ?_
  · obtain ⟨x, hx, _⟩ := hx
    cases hx
  · obtain ⟨_, ⟨⟩, hx⟩ := hx
    exact tallies_ofResult hx

/-- A job that asks mute questions only adds nothing to a tally. -/
theorem tallies_of_mute {job : Job α} (hj : job.Asks Ask.Mute) :
    job.Tallies new charge t fun _ _ t' => t' = t := by
  refine ⟨fun {β P} k hk => ?_⟩
  have hall : ∀ (s : Script (Except Error α)) (charge : Charge), s.Asks Ask.Mute →
      Script.Tallies new P charge t (s.bind k) := by
    intro s charge hs
    induction s generalizing charge with
    | done x => exact hk x charge t rfl
    | ask q next ih =>
      refine ⟨hs.1.allowed new charge, fun a _ => ?_⟩
      rw [hs.1.adds, add_zero]
      exact ih a _ (hs.2 a)
  exact hall job.run charge hj

theorem tallies_count {c : Counter} {n : Nat} (hc : ∀ name, c ≠ .eventsPublished name) :
    (perform (.count c n)).Tallies new charge t fun x _ t' =>
      x = .ok () ∧ t' = t + Tally.counted c n := by
  refine ⟨fun k hk => ⟨?_, fun _ _ => hk _ _ _ ⟨rfl, rfl⟩⟩⟩
  cases c with
  | eventsPublished name => exact hc name rfl
  | _ => trivial

/-- Publishing cannot fail. -/
theorem tallies_publish (events : List Payload) :
    (publish events).Tallies new charge t fun x _ t' => x = .ok () ∧ t' = t := by
  refine ⟨fun k hk => ?_⟩
  cases events with
  | nil => exact hk _ _ _ ⟨rfl, rfl⟩
  | cons p rest => exact ⟨trivial, fun _ _ => hk _ _ _ ⟨rfl, add_zero t⟩⟩

/-- An order is kept, or the tally stays as it is. -/
theorem tallies_saveOrder {o : Order} :
    (saveOrder o).Tallies new charge t fun x _ t' =>
      t' = match x with
        | .ok _ => t + Tally.kept o.status
        | .error _ => t := by
  refine ⟨fun k hk => ⟨trivial, fun x _ => ?_⟩⟩
  cases x with
  | error e => exact hk _ _ _ (add_zero t)
  | ok => exact hk _ _ _ rfl

theorem tallies_findCustomerByEmail {email : Email} :
    (findCustomerByEmail email).Tallies new charge t fun _ charge' t' =>
      charge' = charge ∧ t' = t :=
  ⟨fun _ hk => ⟨trivial, fun _ _ => hk _ _ _ ⟨rfl, add_zero t⟩⟩⟩

/-- Who is found under their lock is in hand then. -/
theorem tallies_findCustomer {id : CustomerId} :
    (findCustomer id).Tallies new (.locked id) t fun x charge' t' => t' = t ∧
      ∀ c, x = .ok c → charge' = .read c := by
  refine ⟨fun k hk => ⟨trivial, fun x _ => ?_⟩⟩
  cases x with
  | error e => exact hk _ _ _ ⟨add_zero t, fun _ h => nomatch h⟩
  | ok c =>
    refine hk _ _ _ ⟨add_zero t, ?_⟩
    rintro _ ⟨⟩
    show (if id = id then Charge.read c else .ended) = _
    rw [if_pos rfl]

/-- Who has been read is kept again with another balance, or the tally stays as it is. -/
theorem tallies_saveCustomer {before c : Customer} (hid : c.id = before.id) :
    (saveCustomer c).Tallies new (.read before) t fun x _ t' =>
      t' = match x with
        | .ok _ => t + Tally.rebalanced before.loyaltyPoints c.loyaltyPoints
        | .error _ => t := by
  refine ⟨fun k hk => ⟨hid, fun x _ => ?_⟩⟩
  cases x with
  | error e => exact hk _ _ _ (add_zero t)
  | ok => exact hk _ _ _ rfl

/-- A new customer has no points. -/
theorem tallies_saveCustomer_new {c : Customer} (hid : new = some c.id)
    (hpoints : c.loyaltyPoints = 0) :
    (saveCustomer c).Tallies new .none t fun _ _ t' => t' = t :=
  ⟨fun _ hk => ⟨⟨hid, hpoints⟩, fun x _ => hk x _ _ (by cases x <;> exact add_zero t)⟩⟩

end Job

/-! ### The commands -/

open Job

theorem Ask.OfCatalogue.mute {q : Ask} (h : q.OfCatalogue) : q.Mute := by
  cases q with
  | count | saveOrder | saveCustomer => exact h
  | _ => trivial

section Handlers
variable {new : Option CustomerId} {charge : Charge} {t : Tally} {supply : Supply}

/-! #### For customers -/

theorem Accounts.tallies_ensureEmailFree (email : Email) :
    (ensureEmailFree email).Tallies new charge t fun _ charge' t' => charge' = charge ∧ t' = t := by
  unfold ensureEmailFree
  refine tallies_findCustomerByEmail.attempt.bind (fun _ _ _ ⟨_, _, h⟩ => h)
    fun x charge' t' hx => ?_
  obtain ⟨_, _, rfl, rfl⟩ := hx
  cases x with
  | ok c => exact tallies_throw ⟨rfl, rfl⟩
  | error e =>
    dsimp only
    split
    · exact tallies_pure ⟨rfl, rfl⟩
    · exact tallies_throw ⟨rfl, rfl⟩

/-- Who is registered has no points. -/
theorem Accounts.tallies_register (email firstName lastName : String) :
    (register supply email firstName lastName).Tallies (some (supply.id .customer)) .none t
      fun _ _ t' => t' = t := by
  unfold register
  refine Tallies.bind (E := fun x charge' t' => charge' = .none ∧ t' = t ∧ ∀ c, x = .ok c →
      c.id = supply.id .customer ∧ c.loyaltyPoints = 0)
    (tallies_ofResult ⟨rfl, rfl, fun c hc => ?_⟩)
    (fun _ _ _ hx => hx.2.1) fun c charge' t' hx => ?_
  · exact Customer.register_account (mapError_eq_ok_iff.mp hc)
  obtain ⟨rfl, rfl, hc⟩ := hx
  obtain ⟨hid, hpoints⟩ := hc c rfl
  refine Tallies.bind (E := fun _ _ t'' => t'' = t') (Tallies.committed ?_) (fun _ _ _ hx => hx)
    fun _ charge'' t'' hx => ?_
  · refine (tallies_ensureEmailFree _).bind (fun _ _ _ hx => hx.2) fun _ _ _ hx => ?_
    obtain ⟨rfl, rfl⟩ := hx
    exact tallies_saveCustomer_new (by rw [hid]) hpoints
  · subst hx
    exact tallies_of_mute (Asks.bind (asks_publish trivial) fun _ => asks_pure _)

/-- A change of a customer adds what it does to the balance, whatever that has been. -/
theorem Accounts.tallies_withCustomer (id : CustomerId) (gain : Tally)
    {change : Customer → Except CustomerError Customer}
    (hchange : ∀ d c, change d = .ok c →
      c.id = d.id ∧ Tally.rebalanced d.loyaltyPoints c.loyaltyPoints = gain) :
    (withCustomer id change).Tallies new .none t fun x _ t' =>
      t' = match x with
        | .ok _ => t + gain
        | .error _ => t := by
  unfold withCustomer
  refine Tallies.bind (E := fun x _ t' => t' = match x with
    | .ok _ => t + gain
    | .error _ => t) (Tallies.committed ?_) (fun _ _ _ hx => hx) fun c _ t' hx => ?_
  · refine Tallies.mono (Tallies.withLock_customer (E := fun x _ t' => t' = match x with
      | .ok _ => t + gain
      | .error _ => t) ?_) fun _ _ _ hx => hx.elim fun _ h => h
    refine tallies_findCustomer.bind (fun _ _ _ hx => hx.1) fun before _ _ hx => ?_
    obtain ⟨hsame, hread⟩ := hx
    rw [hsame, hread before rfl]
    refine Tallies.bind (E := fun x charge' t' => charge' = .read before ∧ t' = t ∧
        ∀ c, x = .ok c → change before = .ok c)
      (tallies_ofResult ⟨rfl, rfl, fun c hc => mapError_eq_ok_iff.mp hc⟩)
      (fun _ _ _ hx => hx.2.1) fun c _ _ hx => ?_
    obtain ⟨hcharge, hsame, hc⟩ := hx
    obtain ⟨hid, hgain⟩ := hchange before c (hc c rfl)
    rw [hcharge, hsame]
    refine (tallies_saveCustomer hid).bind (fun _ _ _ hx => hx) fun _ _ _ hx => tallies_pure ?_
    exact hx.trans (congrArg (t + ·) hgain)
  · exact (tallies_publish c.news).bind (fun _ _ _ hx => nomatch hx.1) fun _ _ _ hy =>
      tallies_pure (hy.2.trans hx)

/-! #### For orders -/

/-- Placing an order places one, or nothing is done. -/
theorem Ordering.tallies_place (customerId : CustomerId) (storeId : StoreId)
    (lines : List RequestedLine) :
    (place supply customerId storeId lines).Tallies new charge t fun x _ t' =>
      t' = match x with
        | .ok _ => t + Pi.single .placed 1
        | .error _ => t := by
  unfold place
  refine (tallies_of_mute (asks_findCustomer trivial)).bind (fun _ _ _ hx => hx)
    fun customer charge' _ hx => ?_
  rw [hx]
  dsimp only
  split
  · exact tallies_throw rfl
  · refine Tallies.withLock ((tallies_of_mute (asks_findStore trivial)).bind (fun _ _ _ hx => hx)
      fun store _ _ hx => ?_) fun _ => LockKey.noConfusion
    rw [hx]
    refine Tallies.bind (E := fun x _ t' => t' = t ∧ ∀ y, x = .ok y → Order.place (supply.id .order)
        supply.line supply.now customerId store lines = .ok y)
      (tallies_ofResult ⟨rfl, fun _ hy => hy⟩) (fun _ _ _ hx => hx.1) ?_
    rintro ⟨o, s⟩ _ _ ⟨hsame, hplace⟩
    obtain ⟨_, hstatus, _⟩ := Order.place_kept (hplace _ rfl)
    rw [hsame]
    refine (tallies_of_mute (asks_saveStore trivial)).bind (fun _ _ _ hx => hx) fun _ _ _ hx => ?_
    rw [hx]
    refine tallies_saveOrder.bind (fun _ _ _ hx => hx) fun _ _ _ hx => tallies_pure ?_
    rw [hx, hstatus]
    rfl

/-- **An order that is placed is counted, and so is a refusal**, with its reason. -/
theorem Ordering.tallies_createOrder (customerId : CustomerId) (storeId : StoreId)
    (lines : List RequestedLine) :
    (createOrder supply customerId storeId lines).Tallies new charge t fun x _ t' =>
      t' = match x with
        | .ok _ => t + (Pi.single .placed 1 + Tally.counted .ordersCreated 1)
        | .error e => t + Tally.counted (.ordersRejected e.kind) 1 := by
  have hreject : ∀ e charge, (reject e : Job Order).Tallies new charge t fun x _ t' =>
      t' = match x with
        | .ok _ => t + (Pi.single .placed 1 + Tally.counted .ordersCreated 1)
        | .error e => t + Tally.counted (.ordersRejected e.kind) 1 := fun e charge =>
    (tallies_count fun _ => Counter.noConfusion).bind (fun _ _ _ hx => nomatch hx.1)
      fun _ _ _ hx => tallies_throw hx.2
  unfold createOrder
  split
  · exact hreject _ _
  · refine (tallies_place customerId storeId lines).inUnit.bind (fun _ _ _ ⟨_, h, _⟩ => nomatch h)
      fun x charge' t' hx => ?_
    obtain ⟨_, ⟨⟩, hx⟩ := hx
    rw [hx]
    cases x with
    | error e => exact hreject e _
    | ok placed =>
      refine (tallies_publish _).bind (fun _ _ _ hx => nomatch hx.1) fun _ _ _ hx => ?_
      rw [hx.2]
      refine (tallies_count fun _ => Counter.noConfusion).bind (fun _ _ _ hx => nomatch hx.1)
        fun _ _ _ hx => tallies_pure ?_
      exact hx.2.trans (add_assoc ..)

/-- Putting stock back gives what it comes to in any case. -/
theorem Ordering.tallies_releaseStock (order : Order) :
    (releaseStock order).Tallies new charge t fun x _ t' => x.isOk = true ∧ t' = t := by
  unfold releaseStock
  refine Tallies.withLock ((tallies_of_mute (asks_findStore trivial)).attempt.bind
    (fun _ _ _ ⟨_, h, _⟩ => nomatch h) fun x _ _ hx => ?_) fun _ => LockKey.noConfusion
  obtain ⟨_, ⟨⟩, hx⟩ := hx
  rw [hx]
  cases x with
  | error e => exact tallies_pure ⟨rfl, rfl⟩
  | ok store =>
    refine (tallies_of_mute (asks_saveStore trivial)).attempt.bind
      (fun _ _ _ ⟨_, h, _⟩ => nomatch h) fun y _ _ hy => ?_
    obtain ⟨_, ⟨⟩, hy⟩ := hy
    rw [hy]
    cases y with
    | error e => exact tallies_pure ⟨rfl, rfl⟩
    | ok => exact tallies_pure ⟨rfl, rfl⟩

/-- Cancelling an order counts the lines that could not be put back. -/
theorem Ordering.tallies_cancel (id : OrderId) (reason : String) :
    (cancel id reason).Tallies new charge t fun x _ t' =>
      t' = match x with
        | .ok (c, _) =>
          t + (Pi.single .cancelled 1 + Tally.counted .releaseFailures c.failed.length)
        | .error _ => t := by
  unfold cancel
  refine Tallies.withLock ((tallies_of_mute (asks_findOrder trivial)).bind (fun _ _ _ hx => hx)
    fun before _ _ hx => ?_) fun _ => LockKey.noConfusion
  rw [hx]
  refine Tallies.bind (E := fun x _ t' => t' = t ∧ ∀ o, x = .ok o → o.status = .cancelled)
    (tallies_ofResult ⟨rfl, fun o ho => ?_⟩) (fun _ _ _ hx => hx.1) fun order _ _ hx => ?_
  · obtain ⟨_, rfl⟩ := Order.cancel_eq_ok_iff.mp (mapError_eq_ok_iff.mp ho)
    rfl
  obtain ⟨hsame, hstatus⟩ := hx
  rw [hsame]
  refine tallies_saveOrder.bind (fun _ _ _ hx => hx) fun _ _ t' hx => ?_
  have hsaved : t' = t + Pi.single .cancelled 1 := by
    rw [hx, hstatus order rfl]
    rfl
  have hcount : ∀ released (failed : List FailedRelease) news charge,
      (do
        if !failed.isEmpty then perform (.count .releaseFailures failed.length)
        return (⟨order.settled, released, failed⟩, news) :
          Job (Cancellation × List Payload)).Tallies new charge t' fun x _ t' =>
        t' = match x with
          | .ok (c, _) =>
            t + (Pi.single .cancelled 1 + Tally.counted .releaseFailures c.failed.length)
          | .error _ => t := by
    intro released failed news charge
    rw [hsaved]
    dsimp only
    split
    · refine (tallies_count fun _ => Counter.noConfusion).bind (fun _ _ _ hx => nomatch hx.1)
        fun _ _ _ hx => tallies_pure ?_
      exact hx.2.trans (add_assoc ..)
    · rename_i hnone
      obtain rfl : failed = [] := by simpa using hnone
      exact tallies_pure (by simp)
  dsimp only
  split
  · refine (tallies_releaseStock order).bind (fun _ _ _ hx => nomatch hx.1) ?_
    rintro ⟨released, failed, storeNews⟩ _ _ ⟨_, hback⟩
    rw [hback]
    exact hcount released failed _ _
  · exact hcount [] [] _ _

theorem Ordering.tallies_cancelOrder (id : OrderId) (reason : String) :
    (cancelOrder id reason).Tallies new charge t fun x _ t' =>
      t' = match x with
        | .ok c => t + (Pi.single .cancelled 1 + Tally.counted .releaseFailures c.failed.length +
          Tally.counted .ordersCancelled 1)
        | .error _ => t := by
  unfold cancelOrder
  refine (tallies_cancel id reason).committed.bind (fun _ _ _ hx => hx) ?_
  rintro ⟨c, news⟩ _ _ hx
  rw [hx]
  refine (tallies_publish news).bind (fun _ _ _ hx => nomatch hx.1) fun _ _ _ hx => ?_
  rw [hx.2]
  refine (tallies_count fun _ => Counter.noConfusion).bind (fun _ _ _ hx => nomatch hx.1)
    fun _ _ _ hx => tallies_pure ?_
  exact hx.2.trans (add_assoc ..)

theorem Ordering.tallies_advanceOrder (id : OrderId) (transition : OrderTransition) :
    (advanceOrder supply id transition).Tallies new charge t fun x _ t' =>
      t' = match x with
        | .ok _ => t + Tally.counted (.orderTransitions transition) 1
        | .error _ => t := by
  unfold advanceOrder
  refine Tallies.bind (E := fun _ _ t' => t' = t) (Tallies.committed ?_) (fun _ _ _ hx => hx)
    fun o _ _ hx => ?_
  · refine Tallies.withLock ((tallies_of_mute (asks_findOrder trivial)).bind (fun _ _ _ hx => hx)
      fun before _ _ hx => ?_) fun _ => LockKey.noConfusion
    rw [hx]
    refine Tallies.bind (E := fun x _ t' => t' = t ∧ ∀ o, x = .ok o → Tally.kept o.status = 0)
      (tallies_ofResult ⟨rfl, fun o ho => ?_⟩) (fun _ _ _ hx => hx.1) fun o _ _ hx => ?_
    · exact Order.kept_of_advance (mapError_eq_ok_iff.mp ho)
    obtain ⟨hsame, hkept⟩ := hx
    rw [hsame]
    refine tallies_saveOrder.bind (fun _ _ _ hx => hx) fun _ _ _ hx => tallies_pure ?_
    exact hx.trans ((congrArg (t + ·) (hkept o rfl)).trans (add_zero t))
  · rw [hx]
    refine (tallies_publish _).bind (fun _ _ _ hx => nomatch hx.1) fun _ _ _ hx => ?_
    rw [hx.2]
    exact (tallies_count fun _ => Counter.noConfusion).bind (fun _ _ _ hx => nomatch hx.1)
      fun _ _ _ hx => tallies_pure hx.2

/-! #### All of them -/

/-- **What a command tallies up** is determined by what comes of it, whatever answers it gets. -/
theorem Command.tallies (command : Command) :
    Script.Tallies (some (supply.id .customer)) (fun x t => t = tallyUp (command, x)) .none 0
      (command.job supply).run := by
  have hjob : (command.job supply).Tallies (some (supply.id .customer)) .none 0
      fun x _ t => t = tallyUp (command, x) := by
    cases command with
    | createStore | addProduct | addInventory | updatePrice | deactivateProduct =>
      exact (tallies_of_mute (Script.Asks.mono (asks_ofCatalogue rfl rfl) fun _ =>
        Ask.OfCatalogue.mute)).mono fun _ _ _ hx => hx
    | register email firstName lastName =>
      exact (Accounts.tallies_register email firstName lastName).map fun _ _ _ hx => hx
    | updateContact id phone address =>
      refine (Accounts.tallies_withCustomer id 0 fun d c h => ?_).map fun x _ _ hx => ?_
      · obtain ⟨hid, _, hpoints⟩ := Customer.updateContact_account h
        exact ⟨hid, by rw [hpoints, Tally.rebalanced_self]⟩
      · cases x with
        | ok => exact hx.trans (zero_add _)
        | error => exact hx
    | redeemPoints id points =>
      refine (Accounts.tallies_withCustomer id (Pi.single .spent points.toNat)
        fun d c h => ?_).map fun x _ _ hx => ?_
      · obtain ⟨hid, _, hpoints⟩ := Customer.redeemPoints_account h
        exact ⟨hid, Tally.rebalanced_of_spent hpoints⟩
      · cases x with
        | ok => exact hx.trans (zero_add _)
        | error => exact hx
    | deactivateCustomer id =>
      refine (Accounts.tallies_withCustomer id 0 fun d c h => ?_).map fun x _ _ hx => ?_
      · obtain ⟨hid, _, hpoints⟩ := Customer.deactivate_account h
        exact ⟨hid, by rw [hpoints, Tally.rebalanced_self]⟩
      · cases x with
        | ok => exact hx.trans (zero_add _)
        | error => exact hx
    | createOrder customerId storeId lines =>
      refine (Ordering.tallies_createOrder customerId storeId lines).map fun x _ _ hx => ?_
      cases x with
      | ok | error => exact hx.trans (zero_add _)
    | cancelOrder id reason =>
      refine (Ordering.tallies_cancelOrder id reason).map fun x _ _ hx => ?_
      cases x with
      | ok => exact hx.trans (zero_add _)
      | error => exact hx
    | advanceOrder id transition =>
      refine (Ordering.tallies_advanceOrder id transition).map fun x _ _ hx => ?_
      cases x with
      | ok => exact hx.trans (zero_add _)
      | error => exact hx
  rw [← andThen_done]
  exact hjob.andThen _ fun _ _ _ hx => hx

/-- **The points that a listener credits are counted**, and no others. -/
theorem Loyalty.tallies_credit (p : Payload) :
    (credit p).Tallies new .none t fun _ _ t' => ∃ points : Nat,
      t' = t + (Pi.single .earned points + Tally.counted .pointsAwarded points) := by
  unfold credit
  split
  · rename_i customerId _ total _
    dsimp only
    split
    · exact tallies_pure ⟨0, by simp⟩
    · refine Tallies.mono (Tallies.withLock_customer (E := fun _ _ t' => ∃ points : Nat,
        t' = t + (Pi.single .earned points + Tally.counted .pointsAwarded points)) ?_)
          fun _ _ _ hx => hx.elim fun _ h => h
      generalize pointsFor total = points
      refine tallies_findCustomer.bind (fun _ _ _ hx => ⟨0, by simp [hx.1]⟩) fun before _ _ hx => ?_
      obtain ⟨hsame, hread⟩ := hx
      rw [hsame, hread before rfl]
      refine Tallies.bind (E := fun x charge' t' => charge' = .read before ∧ t' = t ∧
          ∀ c, x = .ok c → before.addPoints points = .ok c)
        (tallies_ofResult ⟨rfl, rfl, fun c hc => mapError_eq_ok_iff.mp hc⟩)
        (fun _ _ _ hx => ⟨0, by simp [hx.2.1]⟩) fun c _ _ hx => ?_
      obtain ⟨hcharge, hsame, hc⟩ := hx
      obtain ⟨hid, _⟩ := Customer.addPoints_eq_ok (hc c rfl)
      rw [hcharge, hsame]
      refine (tallies_saveCustomer hid).bind (fun _ _ _ hx => ⟨0, hx.trans (by simp)⟩)
        fun _ _ _ hx => ?_
      rw [hx]
      refine (tallies_count fun _ => Counter.noConfusion).mono fun _ _ _ hx => ⟨points.toNat, ?_⟩
      rw [hx.2, Tally.rebalanced_of_earned (Customer.balance_of_addPoints (hc c rfl)), add_assoc]
  · exact tallies_pure ⟨0, by simp⟩

/-- **What a listener tallies up.** -/
theorem Loyalty.tallies_deliver {β : Type} (d : Delivery) (g : Unit → β) :
    Script.Tallies new (fun _ t => t.OfListener) .none 0 (g <$> deliver d).run := by
  have hjob : (g <$> deliver d).Tallies new .none 0 fun _ _ t => t.OfListener := by
    refine Tallies.map (E := fun _ _ t => t.OfListener) ?_ fun _ _ _ hx => hx
    unfold deliver
    obtain ⟨⟨⟩, p⟩ := d
    refine (tallies_credit p).attempt.bind (fun _ _ _ ⟨_, h, _⟩ => nomatch h) fun x _ _ hx => ?_
    obtain ⟨_, ⟨⟩, points, rfl⟩ := hx
    cases x with
    | ok => exact tallies_pure ⟨points, 0, by simp⟩
    | error e =>
      refine (tallies_count fun _ => Counter.noConfusion).mono fun _ _ _ hx => ⟨points, 1, ?_⟩
      rw [hx.2, zero_add]
  rw [← andThen_done]
  exact hjob.andThen _ fun _ _ _ hx => hx

end Handlers

end Storefront
