import Storefront.Proofs.Telling

/-! # Points on their way

What the events are worth that are on their way to the listener is the *backlog*
(`Backend.backlog`).  A command adds to it what is due for the order that it has placed
(`Backend.perform_backlog`), and when the events are delivered everybody has what was due to them,
if there is room for it (`Backend.settle_backlog`).  The listener then has not failed: failures
would be counted, and no command counts any (`Command.asks_noFailure`).
-/
namespace Storefront

open Job

/-! ### The backlog -/

/-- What the events on their way are worth to a customer. -/
def Backend.backlog (b : Backend) (id : CustomerId) : Nat :=
  awards id (b.deliveries.map Delivery.payload)

/-- Whatever is worth something is sent to the listener, once. -/
theorem awards_deliveries (id : CustomerId) (events : List Payload) :
    awards id ((events.flatMap Payload.deliveries).map Delivery.payload) = awards id events := by
  induction events with
  | nil => rfl
  | cons p rest ih =>
    rw [List.flatMap_cons, List.map_append, awards_append, ih, awards_cons]
    congr 1
    have hnothing : p.award id = 0 →
        awards id (p.deliveries.map Delivery.payload) = p.award id := by
      intro hp
      rw [hp, Payload.deliveries, List.map_map, awards, List.sum_eq_zero_iff_forall_eq_nat]
      intro n hn
      obtain ⟨q, hq, rfl⟩ := List.mem_map.mp hn
      obtain ⟨l, _, rfl⟩ := List.mem_map.mp hq
      exact hp
    cases p with
    | store e | customer e => exact hnothing rfl
    | order e =>
      cases e with
      | confirmed order customer store total items => exact Nat.add_zero _
      | _ => exact hnothing rfl

theorem Backend.backlog_answer {b : Backend} (hf : b.faults.publish = false) (q : Ask)
    (id : CustomerId) :
    (b.answer q).2.backlog id = b.backlog id + awards id q.told := by
  rw [backlog, (answer_log hf q).2, List.map_append, awards_append, awards_deliveries]
  rfl

/-! ### Failures -/

/-- How often the listener has failed. -/
def Backend.failures (b : Backend) : Nat := b.metrics.value (.handlerFailures Listener.loyalty.name)

/-- The question counts no failure of a listener. -/
def Ask.CountsNoFailure : Ask → Prop
  | .count (.handlerFailures _) _ => False
  | _ => True

/-- The question keeps no customer, and counts no failure of a listener. -/
def Ask.LeavesAccounts : Ask → Prop
  | .saveCustomer _ => False
  | .count (.handlerFailures _) _ => False
  | _ => True

theorem Ask.LeavesAccounts.countsNoFailure {q : Ask} (h : q.LeavesAccounts) :
    q.CountsNoFailure := by
  cases q with
  | count c n => cases c <;> trivial
  | _ => trivial

theorem Ask.OfCatalogue.leavesAccounts {q : Ask} (h : q.OfCatalogue) : q.LeavesAccounts := by
  cases q <;> trivial

theorem Ask.OfAccounts.countsNoFailure {q : Ask} (h : q.OfAccounts) : q.CountsNoFailure := by
  cases q <;> trivial

theorem Ask.leavesAccounts {q : Ask} (h : q.ofOrdering = true) : q.LeavesAccounts := by
  cases q with
  | count c n => cases c <;> trivial
  | _ => trivial

theorem Ask.Writes.customers {q : Ask} {r r' : Repositories} (h : q.Writes r r')
    (hq : q.LeavesAccounts) : r'.customers = r.customers := by
  cases h with
  | nothing | store | order => rfl
  | customer => exact hq.elim

section Commands
variable {supply : Supply}

theorem Ordering.asks_createOrder (customer : CustomerId) (store : StoreId)
    (lines : List RequestedLine) :
    (createOrder supply customer store lines).Asks Ask.LeavesAccounts := by
  have hreject : ∀ e, (reject e : Job Order).Asks Ask.LeavesAccounts := fun e =>
    Asks.bind (asks_countOne trivial) fun _ => asks_throw e
  unfold createOrder
  split
  · exact hreject _
  · refine Asks.bind (Asks.inUnit (Script.Asks.mono (asks_place ..) fun _ => Ask.leavesAccounts)
      trivial fun _ => ⟨trivial, trivial, trivial⟩) fun x => ?_
    cases x with
    | error e => exact hreject e
    | ok placed =>
      refine Asks.bind (asks_publish trivial) fun _ => ?_
      exact Asks.bind (asks_countOne trivial) fun _ => asks_pure _

theorem Ordering.asks_cancelOrder (order : OrderId) (reason : String) :
    (cancelOrder order reason).Asks Ask.LeavesAccounts := by
  unfold cancelOrder
  refine Asks.bind (Asks.committed (Script.Asks.mono (asks_cancel order reason) fun _ =>
    Ask.leavesAccounts) trivial fun _ => ⟨trivial, trivial, trivial⟩) fun x => ?_
  refine Asks.bind (asks_publish trivial) fun _ => ?_
  exact Asks.bind (asks_countOne trivial) fun _ => asks_pure _

theorem Ordering.asks_advanceOrder (order : OrderId) (transition : OrderTransition) :
    (advanceOrder supply order transition).Asks Ask.LeavesAccounts := by
  unfold advanceOrder
  refine Asks.bind (Asks.committed (Asks.withLock trivial trivial ?_) trivial fun _ =>
    ⟨trivial, trivial, trivial⟩) fun o =>
      Asks.bind (asks_publish trivial) fun _ => Asks.bind (asks_countOne trivial) fun _ => asks_pure _
  refine Asks.bind (asks_findOrder trivial) fun before => Asks.bind (asks_ofResult _) fun o => ?_
  exact Asks.bind (asks_saveOrder trivial) fun _ => asks_pure _

/-- **Commands for stores and orders keep no customers.** -/
theorem Command.leavesAccounts {command : Command} (h : command.ofCustomers = false) :
    (command.job supply).Asks Ask.LeavesAccounts := by
  cases ho : command.ofOrders with
  | false => exact Script.Asks.mono (asks_ofCatalogue h ho) fun _ => Ask.OfCatalogue.leavesAccounts
  | true =>
    cases command with
    | createOrder customer store lines => exact (Ordering.asks_createOrder ..).map _
    | cancelOrder order reason => exact (Ordering.asks_cancelOrder ..).map _
    | advanceOrder order transition => exact (Ordering.asks_advanceOrder ..).map _
    | _ => cases ho

/-- **No command counts a failure of a listener.** -/
theorem Command.asks_noFailure (command : Command) :
    (command.job supply).Asks Ask.CountsNoFailure := by
  cases h : command.ofCustomers with
  | false =>
    exact Script.Asks.mono (leavesAccounts h) fun _ => Ask.LeavesAccounts.countsNoFailure
  | true => exact Script.Asks.mono (asks_ofAccounts h) fun _ => Ask.OfAccounts.countsNoFailure

end Commands

namespace Backend

variable {b : Backend}

/-- What else is counted changes no number of failures. -/
theorem failures_add {b' : Backend} {c : Counter} {n : Nat} (h : b'.metrics = b.metrics.add c n)
    (hc : c ≠ .handlerFailures Listener.loyalty.name) : b'.failures = b.failures := by
  rw [failures, h, Metrics.value_add, if_neg hc.symm]
  rfl

theorem failures_publish (b : Backend) (events : List Payload) :
    (b.publish events).failures = b.failures := by
  unfold publish
  split
  · rfl
  · rename_i hf
    clear hf
    induction events generalizing b with
    | nil => rfl
    | cons p rest ih => exact (ih _).trans (failures_add rfl nofun)

/-- **One question**: unless it counts a failure, there are as many as before. -/
theorem failures_answer {q : Ask} (hq : q.CountsNoFailure) : (b.answer q).2.failures = b.failures := by
  have hsave : ∀ fault f, (b.save fault f).2.failures = b.failures := by
    intro fault f
    unfold save
    split
    · rfl
    · split <;> rfl
  have hunit : ∀ unit f, (b.changeUnit unit f).2.failures = b.failures := by
    intro unit f
    unfold changeUnit
    split <;> rfl
  cases q with
  | begin unit | commit unit => exact hunit ..
  | saveStore s | saveOrder o | saveCustomer c => exact hsave ..
  | publish events => exact b.failures_publish events
  | count c n =>
    refine failures_add (c := c) (n := n) rfl ?_
    rintro rfl
    exact hq
  | _ => rfl

theorem run_failures {α : Type} {s : Script α} (h : s.Asks Ask.CountsNoFailure) :
    (s.run b).2.failures = b.failures := by
  induction s generalizing b with
  | done a => rfl
  | ask q next ih => exact (ih _ (h.2 _)).trans (failures_answer h.1)

end Backend

/-! ### Room for points -/

/-- There is room for points that are due: whoever they are due to has an open account, and they
fit into the balance. -/
def Repositories.RoomFor (r : Repositories) (due : CustomerId → Nat) : Prop :=
  ∀ id, due id ≠ 0 → r.activity id = some true ∧ r.balance id + due id ≤ Count.max.toNat

theorem Repositories.RoomFor.mono {r : Repositories} {due less : CustomerId → Nat}
    (h : r.RoomFor due) (hle : ∀ id, less id ≤ due id) : r.RoomFor less := by
  intro id hless
  have hid := hle id
  obtain ⟨hactive, hfits⟩ := h id (by omega)
  exact ⟨hactive, by omega⟩

/-- What there is room for is kept where nobody has closed an account since, and what the balances
have grown by is no longer due. -/
theorem Repositories.RoomFor.rest {r r' : Repositories} {due rest : CustomerId → Nat}
    (h : r.RoomFor due) (ha : r'.activity = r.activity) (hgrown : ∀ id, r.balance id ≤ r'.balance id)
    (hrest : ∀ id, r'.balance id + rest id ≤ r.balance id + due id) : r'.RoomFor rest := by
  intro id hid
  have hid' := hgrown id
  have hle := hrest id
  obtain ⟨hactive, hfits⟩ := h id (by omega)
  exact ⟨by rw [ha]; exact hactive, by omega⟩

namespace Backend

variable {b b' : Backend} {p : Payload} {x : Except Error Unit}

/-- Crediting counts no failure of its own. -/
theorem Credits.failures (h : b.Credits p x b') : b'.failures = b.failures := by
  cases h with
  | credited => exact failures_add rfl nofun
  | _ => rfl

/-- **Where there is room for an event, crediting it does not fail.** -/
theorem Credits.of_roomFor (h : b.Credits p x b') (hroom : b.repositories.RoomFor (p.award ·)) :
    x = .ok () ∧
      ∀ id, b'.repositories.balance id = b.repositories.balance id + p.award id := by
  have hbalance : ∀ id, b'.repositories.balance id = b.repositories.balance id + p.award id := by
    intro id
    rw [h.balance id]
    by_cases hid : p.award id = 0
    · rw [hid, ite_self]
    · rw [if_pos (hroom id hid)]
  refine ⟨?_, hbalance⟩
  cases h with
  | nothing | credited => rfl
  | @unknown id hp hget =>
    have hactive := (hroom id hp).1
    rw [Repositories.activity, hget] at hactive
    cases hactive
  | @inactive id c hp hget ha =>
    have hactive := (hroom id hp).1
    rw [Repositories.activity_eq hget, ha] at hactive
    cases hactive
  | @full id c hp hget ha hlt =>
    have hfits := (hroom id hp).2
    rw [Repositories.balance_eq hget] at hfits
    exact absurd hfits (Nat.not_le.mpr hlt)

/-- Events are credited, all of them, where there is room for what they are worth. -/
theorem deliverAll_roomFor (deliveries : List Delivery) (hf : b.faults = .none)
    (hc : b.repositories.Clientele)
    (hroom : b.repositories.RoomFor (awards · (deliveries.map Delivery.payload))) :
    (b.deliverAll deliveries).repositories.activity = b.repositories.activity ∧
      (b.deliverAll deliveries).failures = b.failures ∧
        ∀ id, (b.deliverAll deliveries).repositories.balance id =
          b.repositories.balance id + awards id (deliveries.map Delivery.payload) := by
  induction deliveries generalizing b with
  | nil => exact ⟨rfl, rfl, fun id => rfl⟩
  | cons d rest ih =>
    have hone := perform_credit hf hc d.payload
    have hfirst : ∀ id, d.payload.award id ≤ awards id ((d :: rest).map Delivery.payload) :=
      fun id => Nat.le_add_right ..
    obtain ⟨hok, hbalance⟩ := hone.of_roomFor (hroom.mono hfirst)
    have hdeliver : (b.perform (Loyalty.deliver d)).2 =
        (b.perform (Loyalty.credit d.payload)).2 := by
      rw [perform_deliver]
      rcases hcredit : b.perform (Loyalty.credit d.payload) with ⟨x, b'⟩
      rw [hcredit] at hok
      cases hok
      rfl
    have hstep : b.deliverAll (d :: rest) =
        (b.perform (Loyalty.credit d.payload)).2.deliverAll rest := by
      rw [← hdeliver]
      rfl
    obtain ⟨hactive, hfailed, hrest⟩ := ih (hone.frame.2.2.2.2.trans hf) (hone.clientele hc)
      (hroom.rest hone.activity (fun id => by rw [hbalance]; exact Nat.le_add_right ..)
        fun id => by rw [hbalance, Nat.add_assoc]; exact Nat.le_refl _)
    rw [hstep]
    refine ⟨hactive.trans hone.activity, hfailed.trans hone.failures, fun id => ?_⟩
    rw [hrest, hbalance, Nat.add_assoc]
    rfl

/-- **When everything has settled, everybody has what was due to them**, and the listener has not
failed, if there was room for all of it. -/
theorem settle_backlog (hf : b.faults = .none) (hc : b.repositories.Clientele)
    (hroom : b.repositories.RoomFor b.backlog) :
    b.settle.repositories.activity = b.repositories.activity ∧ b.settle.failures = b.failures ∧
      ∀ id, b.settle.repositories.balance id = b.repositories.balance id + b.backlog id :=
  deliverAll_roomFor (b := { b with deliveries := [] }) b.deliveries hf hc hroom

end Backend

/-! ### A command that runs alone -/

/-- **A script that nobody gets in the way of** leaves on its way what it tells. -/
theorem Script.Tells.run {α : Type} {id : CustomerId} {P : α → Nat → Prop} {n : Nat} {s : Script α}
    (h : s.Tells id P n) {b : Backend} (hf : b.faults.publish = false)
    (hb : b.repositories.OrdersSettled) :
    ∃ m, P (s.run b).1 m ∧ (s.run b).2.backlog id + n = b.backlog id + m := by
  induction s generalizing b n with
  | done a => exact ⟨n, h, rfl⟩
  | ask q next ih =>
    obtain ⟨m, hm, hbacklog⟩ := ih _ (h.answer hb) (b := (b.answer q).2)
      (by rw [Backend.faults_answer]; exact hf) (Backend.answer_ordersSettled hb q)
    have hone := Backend.backlog_answer hf q id
    refine ⟨m, hm, ?_⟩
    show (Script.run _ (b.answer q).2).2.backlog id + n = _
    omega

/-- **A command leaves on its way what is due for the order that it has placed.** -/
theorem Backend.perform_backlog {b : Backend} (hf : b.faults.publish = false)
    (hb : b.repositories.OrdersSettled) (supply : Supply) (command : Command) (id : CustomerId) :
    (b.perform (command.job supply)).2.backlog id =
      b.backlog id + Command.earns id (command, (b.perform (command.job supply)).1) := by
  have htells : Script.Tells id (fun x m => m = Command.earns id (command, x)) 0
      (command.job supply).run := Command.tells command
  obtain ⟨m, hm, hbacklog⟩ := htells.run hf hb
  exact hbacklog.trans (congrArg _ hm)

end Storefront
