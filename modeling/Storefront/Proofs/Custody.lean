import Storefront.Proofs.Chronicle
import Storefront.Proofs.Discipline
import Storefront.Proofs.Execution

/-! # Orders in custody

There are two ways in which a script writes an order.  It makes one, which is confirmed already,
under an identifier of its own, and then may tell of it once; or it takes the lock of an order,
reads the order under it, and writes it back one edge further on (`Script.Tends`).  What a script
has in hand of orders on its way is its *custody*.

Every command is such a script (`Command.tends`), whatever answers it gets: nothing is assumed
about what is kept, who else is at work, or whether writes succeed.
-/
namespace Storefront

/-! ### The life of an order -/

/-- The ways in which an order that has been placed moves on. -/
inductive OrderStatus.Edge : OrderStatus → OrderStatus → Prop where
  | prepare : Edge .confirmed .preparing
  | finish : Edge .preparing .ready
  | handOver : Edge .ready .completed
  | cancelConfirmed : Edge .confirmed .cancelled
  | cancelPreparing : Edge .preparing .cancelled

/-- The edges are the moves that the table allows an order that is not pending. -/
theorem OrderStatus.edge_of_canMoveTo {s next : OrderStatus} (h : s.canMoveTo next = true)
    (hs : s ≠ .pending) : Edge s next := by
  cases s with
  | pending => exact absurd rfl hs
  | confirmed => cases next <;> first | exact .prepare | exact .cancelConfirmed | cases h
  | preparing => cases next <;> first | exact .finish | exact .cancelPreparing | cases h
  | ready => cases next <;> first | exact .handOver | cases h
  | completed | cancelled => cases next <;> cases h

namespace Order

/-- An order as it is kept: it is no longer pending, has a reason if and only if it is cancelled,
and has nothing left to tell. -/
structure Kept (o : Order) : Prop where
  placed : o.status ≠ .pending
  reason : o.cancellationReason.isSome = true ↔ o.status = .cancelled
  told : o.pending = []

/-- One order is the other one edge further on. -/
structure Moves (o o' : Order) : Prop where
  terms : o.SameTerms o'
  edge : o.status.Edge o'.status
  kept : o'.settled.Kept

end Order

/-! ### Confirmations -/

/-- What a log tells of the confirmation of an order. -/
def confirmations (id : OrderId) (log : List Payload) : List OrderEvent :=
  (orderEvents id log).filter fun e => e.name == "order.confirmed"

theorem confirmations_append (id : OrderId) (log more : List Payload) :
    confirmations id (log ++ more) = confirmations id log ++ confirmations id more := by
  rw [confirmations, orderEvents_append, List.filter_append]
  rfl

/-- The events tell of no order that it is confirmed. -/
def ConfirmNone (events : List Payload) : Prop := ∀ id, confirmations id events = []

theorem Store.confirmNone_news (s : Store) : ConfirmNone s.news := by
  intro id
  rw [confirmations, Store.news, orderEvents_map_store]
  rfl

theorem Customer.confirmNone_news (c : Customer) : ConfirmNone c.news := by
  intro id
  rw [confirmations, Customer.news, (events_map_customer c.pending).2]
  rfl

theorem ConfirmNone.append {events more : List Payload} (h : ConfirmNone events)
    (h' : ConfirmNone more) : ConfirmNone (events ++ more) := by
  intro id
  rw [confirmations_append, h, h']
  rfl

/-- The event tells that the order has been confirmed, and what it is for. -/
def OrderEvent.Confirms (o : Order) (e : OrderEvent) : Prop :=
  ∃ items, o.snapshots = .ok items ∧ e = .confirmed o.id o.customerId o.storeId o.total items

theorem OrderEvent.Confirms.of_sameTerms {e : OrderEvent} {o o' : Order} (h : e.Confirms o)
    (hs : o.SameTerms o') : e.Confirms o' := by
  obtain ⟨items, hitems, he⟩ := h
  refine ⟨items, ?_, ?_⟩
  · rw [Order.snapshots, hs.lines]
    exact hitems
  · rw [hs.id, hs.customer, hs.store, hs.total]
    exact he

/-- The events tell once of an order that it is confirmed, and of no other order. -/
def ConfirmOnce (o : Order) (events : List Payload) : Prop :=
  ∃ e : OrderEvent, e.Confirms o ∧
    ∀ id, confirmations id events = if id = o.id then [e] else []

namespace Order

variable {o o' : Order}

/-- An order that is cancelled has moved, and does not tell that it is confirmed. -/
theorem Kept.cancel (ho : o.Kept) {reason : String} (h : o.cancel reason = .ok o') :
    o.Moves o' ∧ ConfirmNone o'.news := by
  obtain ⟨hmove, rfl⟩ := cancel_eq_ok_iff.mp h
  refine ⟨⟨⟨rfl, rfl, rfl, rfl, rfl, rfl⟩, OrderStatus.edge_of_canMoveTo hmove ho.placed,
    ⟨nofun, iff_of_true rfl rfl, rfl⟩⟩, fun id => ?_⟩
  rw [news, ho.told, confirmations, List.nil_append]
  rw [orderEvents_map_order (k := o.id) fun e he => by rw [List.mem_singleton.mp he]; rfl]
  split <;> rfl

/-- An order that is taken one step on has moved, and does not tell that it is confirmed. -/
theorem Kept.advance (ho : o.Kept) {now : Timestamp} {transition : OrderTransition}
    (h : o.advance now transition = .ok o') : o.Moves o' ∧ ConfirmNone o'.news := by
  obtain ⟨htakes, htakes', hframe⟩ := advance_eq_ok h
  obtain ⟨hpending, _⟩ := shows_advance h
  have hmove : o.status.canMoveTo o'.status = true := by
    cases transition with
    | startPreparing | markReady | complete =>
      obtain ⟨_, hmove, he⟩ := bind_eq_ok_iff.mp h
      cases he
      exact ensureMove_eq_ok_iff.mp hmove
  have hnone : o.cancellationReason.isSome = false := by
    rw [Bool.eq_false_iff, ne_eq, ho.reason]
    intro hc
    rw [hc] at htakes
    cases htakes
  refine ⟨⟨?_, OrderStatus.edge_of_canMoveTo hmove ho.placed, ?_⟩, fun id => ?_⟩
  · rw [hframe]
    exact ⟨rfl, rfl, rfl, rfl, rfl, rfl⟩
  · refine ⟨fun hp => ?_, ?_, rfl⟩
    · have hp : o'.status = .pending := hp
      rw [hp] at htakes'
      cases htakes'
    · show o'.cancellationReason.isSome = true ↔ o'.status = .cancelled
      have hreason : o'.cancellationReason = o.cancellationReason := by rw [hframe]
      rw [hreason, hnone]
      refine iff_of_false Bool.noConfusion fun hc => ?_
      rw [hc] at htakes'
      cases htakes'
  · rw [news, hpending, ho.told, confirmations, List.nil_append,
      orderEvents_map_order (k := o.id) fun e he => by
        rw [List.mem_singleton.mp he]
        cases transition <;> rfl]
    cases transition <;> (split <;> rfl)

/-- An order that is placed is confirmed, and tells so once; its store does not. -/
theorem place_kept {id : OrderId} {fresh : Nat → LineId} {now : Timestamp}
    {customer : CustomerId} {s s' : Store} {lines : List RequestedLine}
    (h : place id fresh now customer s lines = .ok (o, s')) :
    o.id = id ∧ o.status = .confirmed ∧ o.settled.Kept ∧ ConfirmOnce o (o.news ++ s'.news) := by
  obtain ⟨hid, ⟨items, hitems, hpending⟩, ⟨v, hreplay, hv⟩, _⟩ := place_tells h
  obtain ⟨hstatus, hreason, hcustomer, hstore⟩ : v.status = .confirmed ∧ v.reason = none ∧
      v.customer = customer ∧ v.store = s.id := by
    rw [hpending] at hreplay
    have hreplay : some (⟨customer, s.id, now, .confirmed, none, some o.total, items⟩ : OrderView) =
        some v := by
      rw [← hreplay]
      simp [OrderView.replay, OrderView.apply, OrderView.moveTo, OrderStatus.canMoveTo,
        OrderStatus.allowed]
    cases hreplay
    exact ⟨rfl, rfl, rfl, rfl⟩
  rw [hv.status] at hstatus
  rw [hv.reason] at hreason
  rw [hv.customer] at hcustomer
  rw [hv.store] at hstore
  refine ⟨hid, hstatus, ⟨?_, ?_, rfl⟩, _, ⟨items, hitems, rfl⟩, fun k => ?_⟩
  · show o.status ≠ .pending
    rw [hstatus]
    exact OrderStatus.noConfusion
  · show o.cancellationReason.isSome = true ↔ o.status = .cancelled
    rw [hstatus, hreason]
    exact iff_of_false Bool.noConfusion OrderStatus.noConfusion
  · have habout : ∀ e ∈ o.pending, e.order = o.id := by
      intro e he
      rw [hpending] at he
      rw [hid]
      simp only [List.mem_cons, List.not_mem_nil, or_false] at he
      rcases he with rfl | rfl <;> rfl
    rw [confirmations_append, s'.confirmNone_news k, List.append_nil, news, confirmations,
      orderEvents_map_order habout]
    by_cases hk : k = o.id
    · rw [if_pos hk, if_pos hk, hpending, hid, hcustomer, hstore]
      rfl
    · rw [if_neg hk, if_neg hk]
      rfl

end Order

/-! ### Custody -/

/-- What a script has in hand of orders. -/
inductive Custody where
  /-- Nothing as yet. -/
  | none
  /-- The lock of an order. -/
  | locked (id : OrderId)
  /-- The lock of an order, and the order as it is kept. -/
  | read (o : Order)
  /-- A new order, which is kept and has not been told of. -/
  | made (o : Order)
  /-- Nothing any more. -/
  | ended

/-- The lock that a script holds for what it has in hand. -/
def Custody.key? : Custody → Option LockKey
  | locked id => some (.order id)
  | read o => some (.order o.id)
  | none | made _ | ended => .none

/-- The question writes no order, and tells of no confirmation. -/
def Ask.LeavesOrders : Ask → Prop
  | .saveOrder _ => False
  | .publish events => ConfirmNone events
  | _ => True

/-- **How a script that may make an order under an identifier deals with orders**, from a custody
on. -/
inductive Script.Tends {α : Type} (new : Option OrderId) : Custody → Script α → Prop where
  | done {c a} : Tends new c (.done a)
  /-- Any other question may be asked; the custody may end with it, and has to end when the lock
  is given back. -/
  | other {c c' q next} (hq : q.LeavesOrders)
      (hc : c' = .ended ∨ c' = c ∧ ∀ key, c.key? = some key → q ≠ .unlock key)
      (h : ∀ a, Tends new c' (next a)) : Tends new c (.ask q next)
  | lock {id next} (h : ∀ a, Tends new (.locked id) (next a)) :
      Tends new .none (.ask (.lock (.order id)) next)
  | find {id next} (he : ∀ e, Tends new .ended (next (.error e)))
      (h : ∀ o : Order, o.Kept → Tends new (.read o) (next (.ok o))) :
      Tends new (.locked id) (.ask (.findOrder id) next)
  | move {o o' next} (hm : o.Moves o') (h : ∀ x, Tends new .ended (next x)) :
      Tends new (.read o) (.ask (.saveOrder o') next)
  | make {o next} (hid : new = some o.id) (hstatus : o.status = .confirmed)
      (hkept : o.settled.Kept) (he : ∀ e, Tends new .ended (next (.error e)))
      (h : Tends new (.made o) (next (.ok ()))) : Tends new .none (.ask (.saveOrder o) next)
  | tell {o events next} (ht : ConfirmOnce o events) (h : ∀ a, Tends new .ended (next a)) :
      Tends new (.made o) (.ask (.publish events) next)

/-- The job deals with orders as it should, from a custody on, and gives something that fits the
custody in which it ends.  If it fails, there is nothing to be done about orders any more. -/
structure Job.Tends {α : Type} (new : Option OrderId) (c : Custody) (job : Job α)
    (E : α → Custody → Prop) : Prop where
  andThen {β : Type} (k : Except Error α → Script β)
    (he : ∀ e c', (k (.error e)).Tends new c') (hk : ∀ a c', E a c' → (k (.ok a)).Tends new c') :
    (job.andThen k).Tends new c

namespace Script

variable {α : Type} {new : Option OrderId} {c : Custody}

/-- A script that leaves orders alone may begin with any custody. -/
theorem Asks.tends {s : Script α} (h : s.Asks Ask.LeavesOrders) : s.Tends new c := by
  induction s generalizing c with
  | done a => exact .done
  | ask q next ih => exact .other h.1 (.inl rfl) fun a => ih a (h.2 a)

end Script

namespace Job

variable {α β : Type} {new : Option OrderId} {c : Custody} {E : α → Custody → Prop}
  {F : β → Custody → Prop}

theorem tends_ofResult {x : Except Error α} (h : ∀ a, x = .ok a → E a c) :
    (ofResult x).Tends new c E := by
  refine ⟨fun k he hk => ?_⟩
  rw [andThen_ofResult]
  cases x with
  | error e => exact he e c
  | ok a => exact hk a c (h a rfl)

theorem tends_pure {a : α} (h : E a c) : (pure a : Job α).Tends new c E :=
  ⟨fun _ _ hk => hk a c h⟩

theorem tends_throw (e : Error) : (throw e : Job α).Tends new c E := ⟨fun _ he _ => he e c⟩

theorem Tends.mono {job : Job α} {weaker : α → Custody → Prop} (hj : job.Tends new c E)
    (h : ∀ a c', E a c' → weaker a c') : job.Tends new c weaker :=
  ⟨fun k he hk => hj.andThen k he fun a c' ha => hk a c' (h a c' ha)⟩

theorem Tends.bind {job : Job α} {f : α → Job β} (hj : job.Tends new c E)
    (hf : ∀ a c', E a c' → (f a).Tends new c' F) : (job >>= f).Tends new c F := by
  refine ⟨fun k he hk => ?_⟩
  rw [andThen_bind]
  exact hj.andThen _ he fun a c' ha => (hf a c' ha).andThen k he hk

theorem Tends.map {job : Job α} {g : α → β} (hj : job.Tends new c E)
    (hg : ∀ a c', E a c' → F (g a) c') : (g <$> job).Tends new c F := by
  rw [map_eq_pure_bind]
  refine hj.bind fun a c' ha => ?_
  exact tends_pure (hg a c' ha)

theorem Tends.attempt {job : Job α} (hj : job.Tends new c E) :
    job.attempt.Tends new c fun x c' => ∀ a, x = .ok a → E a c' := by
  refine ⟨fun k he hk => ?_⟩
  rw [andThen_attempt]
  exact hj.andThen _ (fun e c' => hk _ c' nofun) fun a c' ha => hk _ c' (by rintro _ ⟨⟩; exact ha)

/-- A job that leaves orders alone may be done with any custody, and then gives nothing that
matters. -/
theorem tends_of_asks {job : Job α} (hj : job.Asks Ask.LeavesOrders) :
    job.Tends new c fun _ _ => True := by
  refine ⟨fun k he hk => ?_⟩
  have hall : ∀ (s : Script (Except Error α)) (c : Custody), s.Asks Ask.LeavesOrders →
      (s.bind k).Tends new c := by
    intro s c hs
    induction s generalizing c with
    | done x =>
      cases x with
      | error e => exact he e c
      | ok a => exact hk a c trivial
    | ask q next ih => exact .other hs.1 (.inl rfl) fun a => ih a .ended (hs.2 a)
  exact hall job.run c hj

/-- A lock that is not one of an order makes no difference to custody. -/
theorem Tends.withLock {job : Job α} {key : LockKey} (hj : job.Tends new c E)
    (hkey : ∀ id, key ≠ .order id) : (job.withLock key).Tends new c E := by
  have hother : ∀ c' : Custody, ∀ k, c'.key? = some k → Ask.unlock key ≠ .unlock k := by
    rintro c' k hk ⟨⟩
    cases c' with
    | locked id | read o =>
      cases hk
      exact hkey _ rfl
    | none | made _ | ended => cases hk
  refine ⟨fun k he hk => ?_⟩
  rw [andThen_withLock]
  refine .other trivial (.inr ⟨rfl, nofun⟩) fun _ => hj.andThen _ (fun e c' => ?_) fun a c' ha => ?_
  · exact .other trivial (.inl rfl) fun _ => he e _
  · exact .other trivial (.inr ⟨rfl, hother c'⟩) fun _ => hk a c' ha

/-- What is done under the lock of an order is over when the lock is given back. -/
theorem Tends.withLock_order {job : Job α} {id : OrderId} (hj : job.Tends new (.locked id) E) :
    (job.withLock (.order id)).Tends new .none fun a _ => ∃ c', E a c' := by
  refine ⟨fun k he hk => ?_⟩
  rw [andThen_withLock]
  refine .lock fun _ => hj.andThen _ (fun e c' => ?_) fun a c' ha => ?_
  · exact .other trivial (.inl rfl) fun _ => he e _
  · exact .other trivial (.inl rfl) fun _ => hk a _ ⟨c', ha⟩

theorem Tends.inUnit {job : Job α} (hj : job.Tends new c E) :
    (Job.inUnit job).Tends new c fun x c' => ∀ a, x = .ok a → E a c' := by
  refine ⟨fun k he hk => ?_⟩
  rw [andThen_inUnit]
  refine .other trivial (.inr ⟨rfl, nofun⟩) fun u => .other trivial (.inr ⟨rfl, nofun⟩) fun x => ?_
  cases x with
  | error e => exact he e c
  | ok =>
    refine hj.andThen _ (fun e c' => ?_) fun a c' ha => ?_
    · exact .other trivial (.inr ⟨rfl, nofun⟩) fun _ => hk _ _ nofun
    · refine .other trivial (.inr ⟨rfl, nofun⟩) fun y => ?_
      cases y with
      | error e => exact hk _ _ nofun
      | ok => exact hk _ _ (by rintro _ ⟨⟩; exact ha)

theorem Tends.committed {job : Job α} (hj : job.Tends new c E) :
    (Job.committed job).Tends new c E :=
  hj.inUnit.bind fun _ _ hx => tends_ofResult hx

theorem tends_findStore {id : StoreId} : (findStore id).Tends new c fun _ c' => c' = c := by
  refine ⟨fun k he hk => .other trivial (.inr ⟨rfl, nofun⟩) fun x => ?_⟩
  cases x with
  | error e => exact he e _
  | ok s => exact hk s _ rfl

theorem tends_saveStore {s : Store} : (saveStore s).Tends new c fun _ c' => c' = c := by
  refine ⟨fun k he hk => .other trivial (.inr ⟨rfl, nofun⟩) fun x => ?_⟩
  cases x with
  | error e => exact he e _
  | ok => exact hk () _ rfl

theorem tends_findCustomer {id : CustomerId} :
    (findCustomer id).Tends new c fun _ c' => c' = c := by
  refine ⟨fun k he hk => .other trivial (.inr ⟨rfl, nofun⟩) fun x => ?_⟩
  cases x with
  | error e => exact he e _
  | ok d => exact hk d _ rfl

theorem tends_findOrder {id : OrderId} :
    (findOrder id).Tends new (.locked id) fun o c' => o.Kept ∧ c' = .read o :=
  ⟨fun _ he hk => .find (fun e => he e _) fun o ho => hk o _ ⟨ho, rfl⟩⟩

theorem tends_saveOrder_move {o o' : Order} (hm : o.Moves o') :
    (saveOrder o').Tends new (.read o) fun _ _ => True := by
  refine ⟨fun k he hk => .move hm fun x => ?_⟩
  cases x with
  | error e => exact he e _
  | ok => exact hk () _ trivial

theorem tends_saveOrder_make {o : Order} (hid : new = some o.id) (hstatus : o.status = .confirmed)
    (hkept : o.settled.Kept) : (saveOrder o).Tends new .none fun _ c' => c' = .made o :=
  ⟨fun _ he hk => .make hid hstatus hkept (fun e => he e _) (hk () _ rfl)⟩

/-- A new order is told of once. -/
theorem tends_publish {o : Order} {events : List Payload} (h : ConfirmOnce o events) :
    (publish events).Tends new (.made o) fun _ _ => True := by
  refine ⟨fun k he hk => ?_⟩
  cases events with
  | nil =>
    obtain ⟨e, _, hone⟩ := h
    have hself := hone o.id
    rw [if_pos rfl] at hself
    cases hself
  | cons p rest => exact .tell h fun _ => hk () _ trivial

end Job

/-! ### The commands -/

open Job

variable {α : Type} {supply : Supply}

theorem Job.Asks.inUnit {p : Ask → Prop} {job : Job α} (hj : job.Asks p) (ho : p .openUnit)
    (hunit : ∀ u, p (.begin u) ∧ p (.commit u) ∧ p (.rollback u)) : (Job.inUnit job).Asks p := by
  unfold Job.inUnit
  refine Asks.bind (asks_perform ho) fun u => Asks.bind ⟨(hunit u).1, fun _ => trivial⟩ fun _ => ?_
  refine Asks.bind hj.attempt fun x => ?_
  cases x with
  | error e => exact Asks.bind (asks_perform (hunit u).2.2) fun _ => asks_pure _
  | ok a => exact Asks.attempt (Asks.bind ⟨(hunit u).2.1, fun _ => trivial⟩ fun _ => asks_pure _)

theorem Job.Asks.committed {p : Ask → Prop} {job : Job α} (hj : job.Asks p) (ho : p .openUnit)
    (hunit : ∀ u, p (.begin u) ∧ p (.commit u) ∧ p (.rollback u)) : (Job.committed job).Asks p :=
  Asks.bind (hj.inUnit ho hunit) fun _ => asks_ofResult _

/-- The questions that commands for stores ask.  They tell of a store. -/
def Ask.OfCatalogue : Ask → Prop
  | .openUnit | .begin _ | .commit _ | .rollback _ | .lock _ | .unlock _ => True
  | .findStore _ | .saveStore _ => True
  | .publish events => ∃ s : Store, events = s.news
  | _ => False

/-- The questions that commands for customers ask.  They tell of a customer. -/
def Ask.OfAccounts : Ask → Prop
  | .openUnit | .begin _ | .commit _ | .rollback _ | .lock _ | .unlock _ => True
  | .findCustomer _ | .findCustomerByEmail _ | .saveCustomer _ => True
  | .publish events => ∃ c : Customer, events = c.news
  | _ => False

theorem Ask.OfCatalogue.leavesOrders {q : Ask} (h : q.OfCatalogue) : q.LeavesOrders := by
  cases q with
  | publish events =>
    obtain ⟨s, rfl⟩ := h
    exact s.confirmNone_news
  | saveOrder => exact h
  | _ => trivial

theorem Ask.OfAccounts.leavesOrders {q : Ask} (h : q.OfAccounts) : q.LeavesOrders := by
  cases q with
  | publish events =>
    obtain ⟨c, rfl⟩ := h
    exact c.confirmNone_news
  | saveOrder => exact h
  | _ => trivial

theorem Catalogue.asks_createStore (name : String) (location : Address) (currency : String) :
    (createStore supply name location currency).Asks Ask.OfCatalogue := by
  unfold createStore
  refine Asks.bind (asks_ofResult _) fun s => ?_
  refine Asks.bind ((asks_saveStore trivial).committed trivial fun _ => ⟨trivial, trivial, trivial⟩)
    fun _ => ?_
  exact Asks.bind (asks_publish ⟨s, rfl⟩) fun _ => asks_pure _

theorem Catalogue.asks_withStore (id : StoreId)
    (change : Store → Except StoreError (α × Store)) :
    (withStore id change).Asks Ask.OfCatalogue := by
  unfold withStore
  refine Asks.bind (Asks.committed (Asks.withLock trivial trivial ?_) trivial fun _ =>
    ⟨trivial, trivial, trivial⟩) fun x =>
      Asks.bind (asks_publish ⟨x.2, rfl⟩) fun _ => asks_pure _
  refine Asks.bind (asks_findStore trivial) fun s => Asks.bind (asks_ofResult _) fun x => ?_
  exact Asks.bind (asks_saveStore trivial) fun _ => asks_pure _

theorem Accounts.asks_register (email firstName lastName : String) :
    (register supply email firstName lastName).Asks Ask.OfAccounts := by
  unfold register
  refine Asks.bind (asks_ofResult _) fun c => Asks.bind (Asks.committed ?_ trivial fun _ =>
    ⟨trivial, trivial, trivial⟩) fun _ => Asks.bind (asks_publish ⟨c, rfl⟩) fun _ => asks_pure _
  refine Asks.bind ?_ fun _ => asks_saveCustomer trivial
  unfold ensureEmailFree
  refine Asks.bind (Asks.attempt (asks_findCustomerByEmail trivial)) fun x => ?_
  cases x with
  | ok d => exact asks_throw _
  | error e =>
    dsimp only
    split
    · exact asks_pure _
    · exact asks_throw _

theorem Accounts.asks_withCustomer (id : CustomerId)
    (change : Customer → Except CustomerError Customer) :
    (withCustomer id change).Asks Ask.OfAccounts := by
  unfold withCustomer
  refine Asks.bind (Asks.committed (Asks.withLock trivial trivial ?_) trivial fun _ =>
    ⟨trivial, trivial, trivial⟩) fun c => Asks.bind (asks_publish ⟨c, rfl⟩) fun _ => asks_pure _
  refine Asks.bind (asks_findCustomer trivial) fun c => Asks.bind (asks_ofResult _) fun c' => ?_
  exact Asks.bind (asks_saveCustomer trivial) fun _ => asks_pure _

theorem Loyalty.leaves_deliver (d : Delivery) : (deliver d).Asks Ask.LeavesOrders := by
  unfold deliver
  refine Asks.bind (Asks.attempt ?_) fun x => ?_
  · obtain ⟨⟨⟩, p⟩ := d
    dsimp only
    unfold credit
    split
    · dsimp only
      split
      · exact asks_pure _
      · refine Asks.withLock trivial trivial (Asks.bind (asks_findCustomer trivial) fun c => ?_)
        refine Asks.bind (asks_ofResult _) fun c' => Asks.bind (asks_saveCustomer trivial) fun _ => ?_
        exact asks_perform trivial
    · exact asks_pure _
  · cases x with
    | ok => exact asks_pure _
    | error e => exact asks_countOne trivial

theorem Ordering.tends_place (customerId : CustomerId) (storeId : StoreId)
    (lines : List RequestedLine) :
    (place supply customerId storeId lines).Tends (some (supply.id .order)) .none
      fun x c' => c' = .made x.1 ∧ ConfirmOnce x.1 (x.1.news ++ x.2.news) := by
  unfold place
  refine tends_findCustomer.bind fun customer _ hc => ?_
  subst hc
  dsimp only
  split
  · exact tends_throw _
  · refine Tends.withLock (tends_findStore.bind fun store _ hc => ?_) fun _ => LockKey.noConfusion
    subst hc
    -- what is decided about the store is an order that may be made
    refine Tends.bind (E := fun x c' => Order.place (supply.id .order) supply.line supply.now
      customerId store lines = .ok x ∧ c' = .none) (tends_ofResult fun x hx => ⟨hx, rfl⟩) ?_
    rintro ⟨o, s⟩ _ ⟨hplace, rfl⟩
    obtain ⟨hid, hstatus, hkept, honce⟩ := Order.place_kept hplace
    refine tends_saveStore.bind fun _ _ hc => ?_
    subst hc
    refine (tends_saveOrder_make (by rw [hid]) hstatus hkept).bind fun _ c' hc => ?_
    exact tends_pure ⟨hc, honce⟩

theorem Ordering.tends_createOrder (customerId : CustomerId) (storeId : StoreId)
    (lines : List RequestedLine) :
    (createOrder supply customerId storeId lines).Tends (some (supply.id .order)) .none
      fun _ _ => True := by
  have hreject : ∀ e, (reject e : Job Order).Asks Ask.LeavesOrders := fun e =>
    Asks.bind (asks_countOne trivial) fun _ => asks_throw e
  unfold createOrder
  split
  · exact tends_of_asks (hreject _)
  · refine (tends_place ..).inUnit.bind fun x c' hx => ?_
    cases x with
    | error e => exact tends_of_asks (hreject e)
    | ok placed =>
      obtain ⟨rfl, honce⟩ := hx placed rfl
      refine (tends_publish honce).bind fun _ _ _ => tends_of_asks ?_
      exact Asks.bind (asks_countOne trivial) fun _ => asks_pure _

theorem Ordering.tends_releaseStock {new : Option OrderId} {c : Custody} (order : Order) :
    (releaseStock order).Tends new c fun back _ => ConfirmNone back.2.2 := by
  unfold releaseStock
  refine Tends.withLock (tends_findStore.attempt.bind fun x c' _ => ?_) fun _ =>
    LockKey.noConfusion
  cases x with
  | error e => exact tends_pure fun _ => rfl
  | ok store =>
    refine tends_saveStore.attempt.bind fun y c' _ => ?_
    cases y with
    | error e => exact tends_pure fun _ => rfl
    | ok => exact tends_pure (Store.confirmNone_news _)

theorem Ordering.tends_cancel {new : Option OrderId} (id : OrderId) (reason : String) :
    (cancel id reason).Tends new .none fun x _ => ConfirmNone x.2 := by
  unfold cancel
  refine Tends.mono (Tends.withLock_order (E := fun x _ => ConfirmNone x.2) ?_)
    fun x _ hx => hx.elim fun _ h => h
  refine tends_findOrder.bind fun before _ hb => ?_
  obtain ⟨hbefore, rfl⟩ := hb
  refine Tends.bind (E := fun order c' => before.cancel reason = .ok order ∧ c' = .read before)
    (tends_ofResult fun order ho => ⟨mapError_eq_ok_iff.mp ho, rfl⟩) ?_
  rintro order _ ⟨hcancel, rfl⟩
  obtain ⟨hmoves, hnone⟩ := hbefore.cancel hcancel
  refine (tends_saveOrder_move hmoves).bind fun _ c' _ => ?_
  dsimp only
  split
  · refine (tends_releaseStock order).bind fun back c'' hback => ?_
    obtain ⟨released, failed, storeNews⟩ := back
    have hall : ConfirmNone (order.news ++ storeNews) := hnone.append hback
    dsimp only
    split
    · refine Tends.bind (tends_of_asks (asks_perform ?_)) fun _ _ _ => tends_pure hall
      exact trivial
    · exact tends_pure hall
  · exact tends_pure (hnone.append fun _ => rfl)

theorem Ordering.tends_cancelOrder {new : Option OrderId} (id : OrderId) (reason : String) :
    (cancelOrder id reason).Tends new .none fun _ _ => True := by
  unfold cancelOrder
  refine (tends_cancel id reason).committed.bind fun x c' hx => tends_of_asks ?_
  refine Asks.bind (asks_publish hx) fun _ => ?_
  exact Asks.bind (asks_countOne trivial) fun _ => asks_pure _

theorem Ordering.tends_advanceOrder {new : Option OrderId} (id : OrderId)
    (transition : OrderTransition) :
    (advanceOrder supply id transition).Tends new .none fun _ _ => True := by
  unfold advanceOrder
  refine Tends.bind (E := fun o _ => ConfirmNone o.news) (Tends.committed ?_)
    fun o c' ho => tends_of_asks ?_
  · refine Tends.mono (Tends.withLock_order (E := fun o _ => ConfirmNone o.news) ?_)
      fun x _ hx => hx.elim fun _ h => h
    refine tends_findOrder.bind fun before _ hb => ?_
    obtain ⟨hbefore, rfl⟩ := hb
    refine Tends.bind (E := fun o c' => before.advance supply.now transition = .ok o ∧
      c' = .read before) (tends_ofResult fun o ho => ⟨mapError_eq_ok_iff.mp ho, rfl⟩) ?_
    rintro o _ ⟨hadvance, rfl⟩
    obtain ⟨hmoves, hnone⟩ := hbefore.advance hadvance
    exact (tends_saveOrder_move hmoves).bind fun _ c' _ => tends_pure hnone
  · refine Asks.bind (asks_publish ho) fun _ => ?_
    exact Asks.bind (asks_countOne trivial) fun _ => asks_pure _

/-- Whether a command places, cancels or moves an order. -/
def Command.ofOrders : Command → Bool
  | createOrder .. | cancelOrder .. | advanceOrder .. => true
  | _ => false

theorem Job.Asks.map {β : Type} {p : Ask → Prop} {job : Job α} (hj : job.Asks p) (g : α → β) :
    (g <$> job).Asks p := by
  rw [map_eq_pure_bind]
  exact Asks.bind hj fun a => asks_pure _

/-- What a command asks that is neither for customers nor for orders. -/
theorem Command.asks_ofCatalogue {command : Command} (hc : command.ofCustomers = false)
    (ho : command.ofOrders = false) : (command.job supply).Asks Ask.OfCatalogue := by
  cases command with
  | createStore name location currency => exact (Catalogue.asks_createStore ..).map _
  | addProduct id name description price =>
    exact Asks.map (Asks.bind (Catalogue.asks_withStore ..) fun x => asks_pure _) _
  | addInventory id product quantity =>
    exact Asks.map (Asks.bind (Catalogue.asks_withStore ..) fun x => asks_ofResult _) _
  | updatePrice id product price =>
    exact Asks.map (Asks.bind (Catalogue.asks_withStore ..) fun x => asks_ofResult _) _
  | deactivateProduct id product =>
    exact Asks.map (Asks.bind (Catalogue.asks_withStore ..) fun x => asks_pure _) _
  | register | updateContact | redeemPoints | deactivateCustomer => cases hc
  | createOrder | cancelOrder | advanceOrder => cases ho

/-- What a command for customers asks. -/
theorem Command.asks_ofAccounts {command : Command} (h : command.ofCustomers = true) :
    (command.job supply).Asks Ask.OfAccounts := by
  cases command with
  | register email firstName lastName => exact (Accounts.asks_register ..).map _
  | updateContact id phone address => exact (Accounts.asks_withCustomer ..).map _
  | redeemPoints id points => exact (Accounts.asks_withCustomer ..).map _
  | deactivateCustomer id => exact (Accounts.asks_withCustomer ..).map _
  | _ => cases h

/-- Commands that are not for orders leave them alone. -/
theorem Command.leaves {command : Command} (h : command.ofOrders = false) :
    (command.job supply).Asks Ask.LeavesOrders := by
  cases hc : command.ofCustomers with
  | false => exact Script.Asks.mono (asks_ofCatalogue hc h) fun _ => Ask.OfCatalogue.leavesOrders
  | true => exact Script.Asks.mono (asks_ofAccounts hc) fun _ => Ask.OfAccounts.leavesOrders

/-- **Every command deals with orders as it should**, and makes none but under the identifier
that it is supplied with. -/
theorem Command.tends (command : Command) :
    Script.Tends (some (supply.id .order)) .none (command.job supply).run := by
  have hjob : (command.job supply).Tends (some (supply.id .order)) .none fun _ _ => True := by
    cases command with
    | createOrder customerId storeId lines =>
      exact (Ordering.tends_createOrder ..).map fun _ _ h => h
    | cancelOrder id reason => exact (Ordering.tends_cancelOrder ..).map fun _ _ h => h
    | advanceOrder id transition => exact (Ordering.tends_advanceOrder ..).map fun _ _ h => h
    | _ => exact tends_of_asks (leaves rfl)
  rw [← andThen_done]
  exact hjob.andThen _ (fun _ _ => .done) fun _ _ _ => .done

/-- A listener leaves orders alone. -/
theorem Loyalty.tends_deliver {β : Type} {new : Option OrderId} (d : Delivery) (g : Unit → β) :
    Script.Tends new .ended (g <$> deliver d).run := by
  have hjob : (g <$> deliver d).Tends new .ended fun _ _ => True :=
    (tends_of_asks (leaves_deliver d)).map fun _ _ h => h
  rw [← andThen_done]
  exact hjob.andThen _ (fun _ _ => .done) fun _ _ _ => .done

end Storefront
