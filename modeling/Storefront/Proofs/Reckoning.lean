import Storefront.Proofs.Tallies
import Storefront.Proofs.Tending

/-! # What is kept and what is counted

A tally that goes along with everything that scripts do says how many orders are kept, how many of
them are cancelled, what the balances come to, and what the counters show (`Backend.Reckoned`).  The
counters of the events that are published go along with the events themselves.

One question keeps this so (`Script.Tallies.answer`).  A script that keeps an order for the first
time places it, and one that keeps it again moves it, under its lock, along an edge; an order is
cancelled once, since there is no way on from there.  A script that keeps a customer again has read
them under their lock, so that the balance has grown or shrunk by what it knows.
-/
namespace Storefront

/-! ### Families of counters -/

/-- What the counters of a family come to. -/
def Metrics.total (m : Metrics) (family : String) : Nat :=
  (m.entries.map fun e => if e.1.family = family then e.2 else 0).sum

theorem Metrics.total_add (m : Metrics) (c : Counter) (n : Nat) (family : String) :
    (m.add c n).total family = m.total family + if c.family = family then n else 0 := by
  have hwrite := Table.sum_map_write (fun e => if e.1.family = family then e.2 else 0) c
    (m.value c + n) m.entries
  have hold : ((Table.lookup c m.entries).map fun v => if c.family = family then v else 0).getD 0 =
      if c.family = family then m.value c else 0 := by
    show _ = if c.family = family then (Table.lookup c m.entries).getD 0 else 0
    cases Table.lookup c m.entries with
    | none => exact (ite_self 0).symm
    | some v => rfl
  rw [hold] at hwrite
  unfold total add Table.insert
  by_cases h : c.family = family
  · simp only [if_pos h] at hwrite ⊢
    omega
  · simp only [if_neg h] at hwrite ⊢
    omega

/-- The family of the counters of events that are published. -/
def publications : String := "events_published_total"

theorem Counter.family_eq_publications {c : Counter} (h : c.family = publications) :
    ∃ name, c = .eventsPublished name := by
  cases c with
  | eventsPublished name => exact ⟨name, rfl⟩
  | _ => simp [family, publications] at h

/-! ### The reckoning -/

/-- Whether an order is cancelled, as a number. -/
def Order.asCancelled (o : Order) : Nat := if o.status = .cancelled then 1 else 0

namespace Repositories

/-- The number of orders that are kept. -/
def orderCount (r : Repositories) : Nat := r.orders.sum fun _ => 1

/-- The number of orders that are kept as cancelled. -/
def cancelledCount (r : Repositories) : Nat := r.orders.sum Order.asCancelled

/-- What all balances come to. -/
def balances (r : Repositories) : Nat := r.customers.sum (·.loyaltyPoints.toNat)

end Repositories

/-- **A tally says what is kept and what is counted.** -/
structure Backend.Reckoned (b : Backend) (t : Tally) : Prop where
  counters : ∀ c, c.family ≠ publications → b.metrics.value c = t (.counter c)
  families : ∀ name, name ≠ publications → b.metrics.total name = t (.family name)
  published : b.metrics.total publications = b.published.length
  placed : b.repositories.orderCount = t .placed
  cancelled : b.repositories.cancelledCount = t .cancelled
  points : b.repositories.balances + t .spent = t .earned

namespace Backend

variable {b : Backend} {new : Option CustomerId} {charge : Charge} {q : Ask}

/-! ### Counters -/

/-- Every event that is published is counted. -/
theorem publish_counts (b : Backend) (events : List Payload) :
    (∀ c, c.family ≠ publications → (b.publish events).metrics.value c = b.metrics.value c) ∧
      (∀ name, name ≠ publications →
        (b.publish events).metrics.total name = b.metrics.total name) ∧
      (b.publish events).metrics.total publications + b.published.length =
        b.metrics.total publications + (b.publish events).published.length := by
  unfold publish
  split
  · exact ⟨fun _ _ => rfl, fun _ _ => rfl, rfl⟩
  · rename_i hf
    clear hf
    induction events generalizing b with
    | nil => exact ⟨fun _ _ => rfl, fun _ _ => rfl, rfl⟩
    | cons p rest ih =>
      obtain ⟨hvalue, htotal, hlog⟩ := ih (b.publishOne p)
      refine ⟨fun c hc => (hvalue c hc).trans ?_, fun name hname => (htotal name hname).trans ?_,
        ?_⟩
      · rw [publishOne, Metrics.value_add, if_neg]
        rintro rfl
        exact hc rfl
      · have hother : ¬ (Counter.eventsPublished p.name).family = name := Ne.symm hname
        rw [publishOne, Metrics.total_add, if_neg hother, Nat.add_zero]
      · have hone : (b.publishOne p).metrics.total publications =
            b.metrics.total publications + 1 := Metrics.total_add ..
        have hlength : (b.publishOne p).published.length = b.published.length + 1 := by
          simp [publishOne]
        rw [hone, hlength] at hlog
        rw [List.foldl_cons]
        omega

/-- What neither counts nor publishes leaves the counters and the log as they are. -/
theorem answer_uncounted (hcount : ∀ c n, q ≠ .count c n)
    (hpublish : ∀ events, q ≠ .publish events) :
    (b.answer q).2.metrics = b.metrics ∧ (b.answer q).2.published = b.published := by
  have hsave : ∀ fault (f : Repositories → Except Error Repositories),
      (b.save fault f).2.metrics = b.metrics ∧ (b.save fault f).2.published = b.published := by
    intro fault f
    rcases b.save_frame fault f with h | ⟨r, _, h⟩
    · rw [h]
      exact ⟨rfl, rfl⟩
    · rw [h]
      exact ⟨rfl, rfl⟩
  have hchange : ∀ unit f, (b.changeUnit unit f).2.metrics = b.metrics ∧
      (b.changeUnit unit f).2.published = b.published := by
    intro unit f
    rcases b.changeUnit_frame unit f with h | ⟨u, h⟩
    · rw [h]
      exact ⟨rfl, rfl⟩
    · rw [h]
      exact ⟨rfl, rfl⟩
  cases q with
  | count c n => exact absurd rfl (hcount c n)
  | publish events => exact absurd rfl (hpublish events)
  | saveStore | saveOrder | saveCustomer => exact hsave _ _
  | begin unit | commit unit => exact hchange unit _
  | _ => exact ⟨rfl, rfl⟩

/-- What does not count adds nothing to what counters show. -/
theorem adds_uncounted (charge : Charge) (hcount : ∀ c n, q ≠ .count c n) (a : q.Answer) :
    (∀ c, charge.adds q a (.counter c) = 0) ∧ ∀ name, charge.adds q a (.family name) = 0 := by
  cases q with
  | count c n => exact absurd rfl (hcount c n)
  | saveOrder o =>
    cases a with
    | error e => exact ⟨fun _ => rfl, fun _ => rfl⟩
    | ok =>
      show (∀ c, Tally.kept o.status (.counter c) = 0) ∧
        ∀ name, Tally.kept o.status (.family name) = 0
      cases o.status <;> simp [Tally.kept]
  | saveCustomer c =>
    cases charge with
    | read before =>
      cases a with
      | error e => exact ⟨fun _ => rfl, fun _ => rfl⟩
      | ok => simp [Charge.adds, Tally.rebalanced]
    | _ => exact ⟨fun _ => rfl, fun _ => rfl⟩
  | _ => exact ⟨fun _ => rfl, fun _ => rfl⟩

/-- What a question counts is what it adds to the tally. -/
theorem answer_counts (hq : charge.Allows new q) :
    (∀ c, c.family ≠ publications → (b.answer q).2.metrics.value c =
        b.metrics.value c + charge.adds q (b.answer q).1 (.counter c)) ∧
      (∀ name, name ≠ publications → (b.answer q).2.metrics.total name =
        b.metrics.total name + charge.adds q (b.answer q).1 (.family name)) ∧
      (b.answer q).2.metrics.total publications + b.published.length =
        b.metrics.total publications + (b.answer q).2.published.length := by
  by_cases hcount : ∃ c n, q = .count c n
  · obtain ⟨c, n, rfl⟩ := hcount
    have hc : c.family ≠ publications := by
      intro h
      obtain ⟨name, rfl⟩ := Counter.family_eq_publications h
      exact hq
    refine ⟨fun d _ => ?_, fun name _ => ?_, ?_⟩
    · show (b.metrics.add c n).value d = _ + Tally.counted c n (.counter d)
      rw [Metrics.value_add, Tally.counted_counter]
      split
      · rename_i h
        rw [h]
      · rfl
    · show (b.metrics.add c n).total name = _ + Tally.counted c n (.family name)
      rw [Metrics.total_add, Tally.counted_family]
      simp only [eq_comm]
    · show (b.metrics.add c n).total publications + _ = _
      rw [Metrics.total_add, if_neg hc]
      rfl
  · have hcount : ∀ c n, q ≠ .count c n := fun c n h => hcount ⟨c, n, h⟩
    obtain ⟨hcounter, hfamily⟩ := adds_uncounted charge hcount (b.answer q).1
    by_cases hpublish : ∃ events, q = .publish events
    · obtain ⟨events, rfl⟩ := hpublish
      exact b.publish_counts events
    · obtain ⟨hmetrics, hlog⟩ := b.answer_uncounted hcount fun events h => hpublish ⟨events, h⟩
      rw [hmetrics, hlog]
      exact ⟨fun c _ => (congrArg (b.metrics.value c + ·) (hcounter c)).symm,
        fun name _ => (congrArg (b.metrics.total name + ·) (hfamily name)).symm, rfl⟩

/-! ### Orders -/

/-- Nothing but keeping an order makes a difference to orders. -/
theorem answer_orders (hq : ∀ o, q ≠ .saveOrder o) :
    (b.answer q).2.repositories.orders = b.repositories.orders := by
  have hwrites := b.answer_writes q
  generalize (b.answer q).2.repositories = r' at hwrites
  cases hwrites with
  | @order o => exact absurd rfl (hq o)
  | _ => rfl

theorem adds_orders (charge : Charge) (hq : ∀ o, q ≠ .saveOrder o) (a : q.Answer) :
    charge.adds q a .placed = 0 ∧ charge.adds q a .cancelled = 0 := by
  cases q with
  | count c n => simp [Charge.adds, Tally.counted]
  | saveOrder o => exact absurd rfl (hq o)
  | saveCustomer c =>
    cases charge with
    | read before =>
      cases a with
      | error e => exact ⟨rfl, rfl⟩
      | ok => simp [Charge.adds, Tally.rebalanced]
    | _ => exact ⟨rfl, rfl⟩
  | _ => exact ⟨rfl, rfl⟩

end Backend

/-- An order that is kept in a status is one more that is placed or cancelled, if it is the status
of such an order. -/
theorem Tally.kept_apply (s : OrderStatus) :
    kept s .placed = (if s = .confirmed then 1 else 0) ∧
      kept s .cancelled = if s = .cancelled then 1 else 0 := by
  cases s <;> simp [kept]

theorem OrderStatus.Edge.ne_confirmed {s next : OrderStatus} (h : s.Edge next) :
    next ≠ .confirmed ∧ s ≠ .cancelled := by
  cases h <;> exact ⟨OrderStatus.noConfusion, OrderStatus.noConfusion⟩

/-- **What a script does to orders** is what it adds to the tally: it places one that has not been
there, or moves one that has not been cancelled before. -/
theorem Script.Tends.answer_orders {α : Type} {new : Option OrderId} {c : Custody} {q : Ask}
    {next : q.Answer → Script α} {b : Backend} (h : (Script.ask q next).Tends new c)
    (hc : c.Knows new b) (charge : Charge) :
    (b.answer q).2.repositories.orderCount =
        b.repositories.orderCount + charge.adds q (b.answer q).1 .placed ∧
      (b.answer q).2.repositories.cancelledCount =
        b.repositories.cancelledCount + charge.adds q (b.answer q).1 .cancelled := by
  by_cases hq : ∃ o, q = .saveOrder o
  · obtain ⟨o, rfl⟩ := hq
    rcases b.answer_saveOrder o with ⟨e, hanswer⟩ | hanswer
    · rw [hanswer]
      exact ⟨rfl, rfl⟩
    rw [hanswer]
    show (b.repositories.saveOrder o).orderCount = _ + Tally.kept o.status .placed ∧
      (b.repositories.saveOrder o).cancelledCount = _ + Tally.kept o.status .cancelled
    have hcount := Table.sum_insert (fun _ : Order => 1) b.repositories.orders o.id o.settled
    have hcancelled := Table.sum_insert Order.asCancelled b.repositories.orders o.id o.settled
    obtain ⟨hplaced, hkept⟩ := Tally.kept_apply o.status
    rw [hplaced, hkept]
    unfold Repositories.orderCount Repositories.cancelledCount Repositories.saveOrder
    cases h with
    | other hleaves => exact hleaves.elim
    | @move before _ _ hm _ =>
      -- the order has been there, and has not been cancelled
      obtain ⟨hnew, hold⟩ := hm.edge.ne_confirmed
      have hget : b.repositories.orders.get? o.id = some before := by
        rw [hm.terms.id]
        exact hc
      rw [hget] at hcount hcancelled
      rw [if_neg hnew]
      have hbefore : before.asCancelled = 0 := if_neg hold
      refine ⟨Nat.add_right_cancel hcount, ?_⟩
      rw [Option.map_some, Option.getD_some, hbefore] at hcancelled
      exact hcancelled
    | make hid hstatus _ _ _ =>
      have hget : b.repositories.orders.get? o.id = none := hc o.id hid
      rw [hget] at hcount hcancelled
      rw [if_pos hstatus]
      exact ⟨hcount, hcancelled⟩
  · have hq : ∀ o, q ≠ .saveOrder o := fun o h => hq ⟨o, h⟩
    obtain ⟨hplaced, hcancelled⟩ := Backend.adds_orders charge hq (b.answer q).1
    rw [hplaced, hcancelled, Repositories.orderCount, Repositories.cancelledCount,
      Backend.answer_orders hq]
    exact ⟨rfl, rfl⟩

/-! ### Customers -/

/-- What a script has in hand of customers is so, if it may make a customer under an identifier. -/
def Charge.Knows (new : Option CustomerId) (r : Repositories) : Charge → Prop
  | none => ∀ id, new = some id → r.customers.get? id = .none
  | read c => r.customers.get? c.id = some c
  | locked _ | ended => True

/-- Two scripts have no customer in hand together. -/
structure Charge.Apart (new new' : Option CustomerId) (c d : Charge) : Prop where
  new : ∀ id, new = some id → new' ≠ some id
  key : ∀ key, c.key? = some key → d.key? ≠ some key

namespace Backend

variable {b : Backend} {new : Option CustomerId} {charge : Charge} {q : Ask}

/-- Nothing but keeping a customer makes a difference to customers. -/
theorem answer_leaves_customers (hq : ∀ c, q ≠ .saveCustomer c) :
    (b.answer q).2.repositories.customers = b.repositories.customers := by
  have hwrites := b.answer_writes q
  generalize (b.answer q).2.repositories = r' at hwrites
  cases hwrites with
  | @customer c => exact absurd rfl (hq c)
  | _ => rfl

theorem adds_customers (charge : Charge) (hq : ∀ c, q ≠ .saveCustomer c) (a : q.Answer) :
    charge.adds q a .earned = 0 ∧ charge.adds q a .spent = 0 := by
  cases q with
  | count c n => simp [Charge.adds, Tally.counted]
  | saveOrder o =>
    cases a with
    | error e => exact ⟨rfl, rfl⟩
    | ok =>
      show Tally.kept o.status .earned = 0 ∧ Tally.kept o.status .spent = 0
      cases o.status <;> simp [Tally.kept]
  | saveCustomer c => exact absurd rfl (hq c)
  | _ => exact ⟨rfl, rfl⟩

/-- A customer is kept, or nothing happens. -/
theorem answer_saveCustomer (b : Backend) (c : Customer) :
    (∃ e, b.answer (.saveCustomer c) = (.error e, b)) ∨
      b.answer (.saveCustomer c) = (.ok (), { b with repositories := { b.repositories with
        customers := b.repositories.customers.insert c.id c.settled } }) := by
  have hsave : b.answer (.saveCustomer c) =
      b.save b.faults.saveCustomers (·.saveCustomer c) := rfl
  rw [hsave, save]
  cases b.faults.saveCustomers with
  | true => exact .inl ⟨_, rfl⟩
  | false =>
    rw [if_neg Bool.noConfusion]
    dsimp only
    cases hr : b.repositories.saveCustomer c with
    | error e => exact .inl ⟨e, rfl⟩
    | ok r =>
      obtain rfl := Repositories.saveCustomer_eq_ok hr
      exact .inr rfl

/-- **What a script does to balances** is what it adds to the tally. -/
theorem answer_balances (hq : charge.Allows new q) (hk : charge.Knows new b.repositories) :
    (b.answer q).2.repositories.balances + charge.adds q (b.answer q).1 .spent =
      b.repositories.balances + charge.adds q (b.answer q).1 .earned := by
  by_cases hsave : ∃ c, q = .saveCustomer c
  · obtain ⟨c, rfl⟩ := hsave
    rcases b.answer_saveCustomer c with ⟨e, hanswer⟩ | hanswer
    · rw [hanswer]
      cases charge <;> rfl
    rw [hanswer]
    have hsum := Table.sum_insert (·.loyaltyPoints.toNat) b.repositories.customers c.id c.settled
    unfold Repositories.balances
    cases charge with
    | none =>
      obtain ⟨hid, hpoints⟩ := hq
      have hnone : b.repositories.customers.get? c.id = none := hk c.id hid
      have hzero : c.settled.loyaltyPoints.toNat = 0 := congrArg UInt32.toNat hpoints
      rw [hnone, hzero] at hsum
      exact hsum
    | read before =>
      have hid : c.id = before.id := hq
      have hget : b.repositories.customers.get? c.id = some before := by
        rw [hid]
        exact hk
      have hthis : c.settled.loyaltyPoints = c.loyaltyPoints := rfl
      rw [hget, Option.map_some, Option.getD_some, hthis] at hsum
      show _ + Tally.rebalanced _ _ .spent = _ + Tally.rebalanced _ _ .earned
      simp only [Tally.rebalanced, Pi.add_apply, Pi.single_apply, reduceCtorEq, if_true, if_false]
      omega
    | locked | ended => exact hq.elim
  · have hsave : ∀ c, q ≠ .saveCustomer c := fun c h => hsave ⟨c, h⟩
    obtain ⟨hearned, hspent⟩ := adds_customers charge hsave (b.answer q).1
    rw [hearned, hspent, Repositories.balances, answer_leaves_customers hsave]
    rfl

/-- **A tally goes along with a question**, if what the script that asks it has in hand is so. -/
theorem Reckoned.answer {t : Tally} (h : b.Reckoned t) (hq : charge.Allows new q)
    (hk : charge.Knows new b.repositories)
    (horders : (b.answer q).2.repositories.orderCount =
        b.repositories.orderCount + charge.adds q (b.answer q).1 .placed ∧
      (b.answer q).2.repositories.cancelledCount =
        b.repositories.cancelledCount + charge.adds q (b.answer q).1 .cancelled) :
    (b.answer q).2.Reckoned (t + charge.adds q (b.answer q).1) := by
  obtain ⟨hcounters, hfamilies, hpublished⟩ := b.answer_counts hq
  obtain ⟨hplaced, hcancelled⟩ := horders
  have hbalances := answer_balances hq hk
  refine ⟨fun c hc => ?_, fun name hname => ?_, ?_, ?_, ?_, ?_⟩
  · rw [hcounters c hc, h.counters c hc, Pi.add_apply]
  · rw [hfamilies name hname, h.families name hname, Pi.add_apply]
  · rw [h.published] at hpublished
    omega
  · rw [hplaced, h.placed, Pi.add_apply]
  · rw [hcancelled, h.cancelled, Pi.add_apply]
  · have hpoints := h.points
    rw [Pi.add_apply, Pi.add_apply]
    omega

/-! ### What is in hand -/

/-- Whatever is kept, customers are kept under their own identifiers. -/
theorem keyed_answer (hb : b.repositories.KeyedCustomers) (q : Ask) :
    (b.answer q).2.repositories.KeyedCustomers := by
  by_cases hsave : ∃ c, q = .saveCustomer c
  · obtain ⟨c, rfl⟩ := hsave
    rcases b.answer_saveCustomer c with ⟨e, hanswer⟩ | hanswer
    · rw [hanswer]
      exact hb
    rw [hanswer]
    exact hb.insert c
  · intro id d hd
    rw [answer_leaves_customers fun c h => hsave ⟨c, h⟩] at hd
    exact hb id d hd

/-- The units of work of an orderly script can be begun and ended, and whoever is found is found
under their own identifier. -/
theorem answer_possible {α : Type} {next : q.Answer → Script α} {stage : UnitStage}
    (hb : b.repositories.KeyedCustomers) (hs : (Script.ask q next).Orderly stage)
    (hu : stage.Holds b.units) : q.Possible (b.answer q).1 := by
  cases q with
  | begin unit =>
    obtain ⟨rfl, _⟩ := hs
    exact congrArg Prod.fst (answer_begin hu)
  | commit unit =>
    obtain ⟨rfl, _⟩ := hs
    exact congrArg Prod.fst (answer_commit hu)
  | findCustomer id => exact fun c hc => hb id c (answer_findCustomer hc)
  | _ => trivial

/-- What a script has in hand after a question is so. -/
theorem knows_after (hb : b.repositories.KeyedCustomers) (hk : charge.Knows new b.repositories)
    (q : Ask) :
    (charge.after q (b.answer q).1).Knows new (b.answer q).2.repositories := by
  have hsame : (b.answer q).2.repositories.customers = b.repositories.customers →
      charge.Knows new (b.answer q).2.repositories := by
    intro hc
    cases charge with
    | none => exact fun id hid => (congrArg (Table.get? · id) hc).trans (hk id hid)
    | read c => exact (congrArg (Table.get? · c.id) hc).trans hk
    | locked id | ended => trivial
  cases q with
  | saveCustomer c => trivial
  | lock key =>
    cases key with
    | customer id => cases charge <;> trivial
    | store | order => exact hsame rfl
  | unlock key =>
    cases key with
    | customer id => trivial
    | store | order => exact hsame rfl
  | findCustomer id =>
    cases charge with
    | locked key =>
      show Charge.Knows new b.repositories
        ((Charge.locked key).after (.findCustomer id) (b.answer (.findCustomer id)).1)
      generalize hfound : (b.answer (.findCustomer id)).1 = x
      cases x with
      | error e => trivial
      | ok c =>
        have hget := answer_findCustomer hfound
        show Charge.Knows new b.repositories (if key = id then .read c else .ended)
        split
        · show b.repositories.customers.get? c.id = some c
          rw [hb id c hget]
          exact hget
        · trivial
    | none | read | ended => exact hk
  | _ => exact hsame (answer_leaves_customers fun c h => by cases h)

/-- What others have in hand is not touched by a customer whom a script makes or has read. -/
theorem knows_apart {new' : Option CustomerId} {d : Charge} (hq : charge.Allows new q)
    (ha : Charge.Apart new new' charge d) (hd : d.Knows new' b.repositories)
    (hk : charge.Knows new b.repositories) :
    d.Knows new' (b.answer q).2.repositories := by
  by_cases hsave : ∃ c, q = .saveCustomer c
  · obtain ⟨c, rfl⟩ := hsave
    rcases b.answer_saveCustomer c with ⟨e, hanswer⟩ | hanswer
    · rw [hanswer]
      exact hd
    rw [hanswer]
    have hget : ∀ id, id ≠ c.id → (b.repositories.customers.insert c.id c.settled).get? id =
        b.repositories.customers.get? id := fun id hid => by rw [Table.get?_insert, if_neg hid]
    cases d with
    | locked id | ended => trivial
    | none =>
      intro id hid
      refine (hget id ?_).trans (hd id hid)
      rintro rfl
      cases charge with
      | none => exact ha.new _ hq.1 hid
      | read before =>
        have hkept : b.repositories.customers.get? before.id = some before := hk
        have hsame : c.id = before.id := hq
        rw [← hsame, hd _ hid] at hkept
        cases hkept
      | locked | ended => exact hq.elim
    | read theirs =>
      refine (hget theirs.id ?_).trans hd
      intro hsame
      cases charge with
      | none =>
        have hkept : b.repositories.customers.get? theirs.id = some theirs := hd
        rw [hsame, hk c.id hq.1] at hkept
        cases hkept
      | read before =>
        refine ha.key _ rfl ?_
        show some (LockKey.customer theirs.id) = some (.customer before.id)
        rw [hsame, show c.id = before.id from hq]
      | locked | ended => exact hq.elim
  · have hc := answer_leaves_customers (b := b) fun c h => hsave ⟨c, h⟩
    cases d with
    | none => exact fun id hid => (congrArg (Table.get? · id) hc).trans (hd id hid)
    | read c => exact (congrArg (Table.get? · c.id) hc).trans hd
    | locked id | ended => trivial

end Backend

/-- The lock for what is in hand after a question has been held before, or has just been taken. -/
theorem Charge.key?_after {charge : Charge} {q : Ask} {a : q.Answer} (ha : q.Possible a)
    {key : LockKey} (h : (charge.after q a).key? = some key) :
    q = .lock key ∨ charge.key? = some key ∧ q ≠ .unlock key := by
  cases q with
  | saveCustomer c => cases h
  | lock k =>
    cases k with
    | customer id =>
      cases charge with
      | none =>
        cases h
        exact .inl rfl
      | locked | read | ended => cases h
    | store | order => exact .inr ⟨h, nofun⟩
  | unlock k =>
    cases k with
    | customer id => cases h
    | store | order =>
      refine .inr ⟨h, ?_⟩
      rintro ⟨⟩
      cases charge <;> cases h
  | findCustomer id =>
    refine .inr ⟨?_, nofun⟩
    cases charge with
    | locked k =>
      cases a with
      | error e => exact h
      | ok c =>
        have h : (if k = id then read c else ended).key? = some key := h
        by_cases hk : k = id
        · rw [if_pos hk] at h
          rw [← h, hk]
          exact congrArg (fun id => some (LockKey.customer id)) (ha c rfl).symm
        · rw [if_neg hk] at h
          cases h
    | none | read | ended => exact h
  | _ => exact .inr ⟨h, nofun⟩

/-! ### One question -/

/-- **What becomes of a charge when a script asks a question**, and of those of others. -/
structure Charge.Passes (new : Option CustomerId) (charge : Charge) (q : Ask) (b b' : Backend)
    (charge' : Charge) : Prop where
  knows : charge'.Knows new b'.repositories
  /-- A lock for what is in hand has been held before, or has just been taken. -/
  key : ∀ key, charge'.key? = some key →
    q = .lock key ∨ charge.key? = some key ∧ q ≠ .unlock key
  others : ∀ new' d, Charge.Apart new new' charge d → d.Knows new' b.repositories →
    d.Knows new' b'.repositories

/-- **A script goes on tallying up** with each question, and the tally goes along with what is kept
and counted. -/
theorem Script.Tallies.answer {α : Type} {P : α → Tally → Prop} {new : Option CustomerId}
    {newOrder : Option OrderId} {charge : Charge} {c : Custody} {stage : UnitStage} {q : Ask}
    {next : q.Answer → Script α} {b : Backend} {t : Tally}
    (h : (ask q next).Tallies new P charge t) (hk : charge.Knows new b.repositories)
    (ht : (ask q next).Tends newOrder c) (hc : c.Knows newOrder b)
    (ho : (ask q next).Orderly stage) (hu : stage.Holds b.units)
    (hkeyed : b.repositories.KeyedCustomers) :
    ∃ charge' t', (next (b.answer q).1).Tallies new P charge' t' ∧
      charge.Passes new q b (b.answer q).2 charge' ∧
        ∀ past, b.Reckoned (past + t) → (b.answer q).2.Reckoned (past + t') := by
  obtain ⟨hallows, hnext⟩ := h
  have hpossible := Backend.answer_possible hkeyed ho hu
  refine ⟨_, _, hnext _ hpossible, ⟨Backend.knows_after hkeyed hk q,
    fun key => Charge.key?_after hpossible, fun new' d ha hd => ?_⟩, fun past hr => ?_⟩
  · exact Backend.knows_apart hallows ha hd hk
  · rw [← add_assoc]
    exact hr.answer hallows hk (ht.answer_orders hc charge)

end Storefront
