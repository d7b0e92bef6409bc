import Storefront.Proofs.Crediting
import Storefront.Proofs.Custody
import Storefront.Proofs.Outage

/-! # What commands tell that is worth points

A command that places an order tells of it once as confirmed, and that is worth the points for the
order; all that other commands tell, and all that is told along with it, is worth nothing
(`Command.tells`).  Which answers a command gets makes no difference to this, as long as the orders
that it finds have nothing left to tell (`Script.Tells`), so that it holds of commands that run
together as well as of single ones.
-/
namespace Storefront

/-! ### What events are worth -/

theorem awards_append (id : CustomerId) (events more : List Payload) :
    awards id (events ++ more) = awards id events + awards id more := by
  rw [awards, List.map_append, List.sum_append]
  rfl

/-- The points that an order is worth to a customer: those for its total, if it is theirs. -/
def Order.award (id : CustomerId) (o : Order) : Nat :=
  if o.customerId = id then min (o.total.amount / 100) Count.max.toNat else 0

/-- The points that are due to a customer for a command, given what came of it: those for the order
that it has placed. -/
def Command.earns (id : CustomerId) : Command × Except Error Outcome → Nat
  | (.createOrder .., .ok (.order o)) => o.award id
  | _ => 0

/-- An event that does not confirm an order is worth nothing. -/
theorem Payload.award_of_not_confirmed {p : Payload} {id : CustomerId}
    (h : ∀ k, confirmations k [p] = []) : p.award id = 0 := by
  cases p with
  | store e | customer e => rfl
  | order e =>
    cases e with
    | confirmed order customer store total items =>
      have hself := h order
      simp [confirmations, orderEvents, OrderEvent.order, OrderEvent.name] at hself
    | _ => rfl

theorem confirmations_cons (k : OrderId) (p : Payload) (events : List Payload) :
    confirmations k (p :: events) = confirmations k [p] ++ confirmations k events :=
  confirmations_append k [p] events

theorem ConfirmNone.awards {events : List Payload} (h : ConfirmNone events) (id : CustomerId) :
    awards id events = 0 := by
  induction events with
  | nil => rfl
  | cons p rest ih =>
    have hboth : ∀ k, confirmations k [p] = [] ∧ confirmations k rest = [] := fun k =>
      List.append_eq_nil_iff.mp ((confirmations_cons k p rest).symm.trans (h k))
    rw [awards_cons, Payload.award_of_not_confirmed fun k => (hboth k).1, ih fun k => (hboth k).2]

theorem mem_of_mem_confirmations {k : OrderId} {e : OrderEvent} {events : List Payload}
    (h : e ∈ confirmations k events) : .order e ∈ events := by
  obtain ⟨p, hp, he⟩ := List.mem_filterMap.mp (List.mem_filter.mp h).1
  cases p with
  | store e' | customer e' => cases he
  | order e' =>
    dsimp only at he
    split at he
    · cases he
      exact hp
    · cases he

/-- Events that tell of one order that it is confirmed are worth what the order is. -/
theorem ConfirmOnce.awards {o : Order} {events : List Payload} (h : ConfirmOnce o events)
    (id : CustomerId) : awards id events = o.award id := by
  obtain ⟨e, ⟨items, _, he⟩, honce⟩ := h
  induction events with
  | nil =>
    have hself := honce o.id
    rw [if_pos rfl] at hself
    cases hself
  | cons p rest ih =>
    rw [awards_cons]
    by_cases hp : ∀ k, confirmations k [p] = []
    · rw [Payload.award_of_not_confirmed hp, Nat.zero_add]
      refine ih fun k => ?_
      rw [← honce k, confirmations_cons, hp, List.nil_append]
    · -- this is the one event, and there is no other behind it
      obtain ⟨k, hk⟩ := not_forall.mp hp
      have hself : confirmations k [p] ++ confirmations k rest = if k = o.id then [e] else [] :=
        (confirmations_cons k p rest).symm.trans (honce k)
      have hid : k = o.id := by
        by_contra hne
        rw [if_neg hne] at hself
        exact hk (List.append_eq_nil_iff.mp hself).1
      rw [if_pos hid] at hself
      rcases List.append_eq_singleton_iff.mp hself with ⟨hnone, _⟩ | ⟨hone, hrest⟩
      · exact absurd hnone hk
      have hmem : e ∈ confirmations k [p] := by
        rw [hone]
        exact List.mem_singleton.mpr rfl
      have hnone : ConfirmNone rest := by
        intro k'
        by_cases hk' : k' = k
        · rw [hk']
          exact hrest
        · have hother := honce k'
          rw [if_neg fun h => hk' (h.trans hid.symm), confirmations_cons] at hother
          exact (List.append_eq_nil_iff.mp hother).2
      rw [hnone.awards, ← List.mem_singleton.mp (mem_of_mem_confirmations hmem), he]
      rfl

/-! ### What scripts tell -/

/-- Every order that is kept has been told of. -/
def Repositories.OrdersSettled (r : Repositories) : Prop :=
  ∀ id o, r.orders.get? id = some o → o.pending = []

/-- No question leaves an order with something to tell. -/
theorem Backend.answer_ordersSettled {b : Backend} (h : b.repositories.OrdersSettled) (q : Ask) :
    (b.answer q).2.repositories.OrdersSettled := by
  have hwrites := b.answer_writes q
  generalize (b.answer q).2.repositories = r' at hwrites
  cases hwrites with
  | nothing | store | customer => exact h
  | @order o =>
    intro id o' ho'
    have ho' : (b.repositories.orders.insert o.id o.settled).get? id = some o' := ho'
    rw [Table.get?_insert] at ho'
    by_cases hid : id = o.id
    · rw [if_pos hid] at ho'
      cases ho'
      rfl
    · rw [if_neg hid] at ho'
      exact h id o' ho'

/-- **What a script tells**, from so much on, is worth to a customer what `P` says for the value with
which it ends, whatever the answers are that it gets. -/
def Script.Tells {α : Type} (id : CustomerId) (P : α → Nat → Prop) : Nat → Script α → Prop
  | n, .done a => P a n
  | n, .ask (.findOrder _) next =>
    (∀ e, (next (.error e)).Tells id P n) ∧ ∀ o : Order, o.pending = [] → (next (.ok o)).Tells id P n
  | n, .ask q next => ∀ a, (next a).Tells id P (n + awards id q.told)

/-- **One question**: what it tells is added. -/
theorem Script.Tells.answer {α : Type} {id : CustomerId} {P : α → Nat → Prop} {n : Nat} {q : Ask}
    {next : q.Answer → Script α} (h : (ask q next).Tells id P n) {b : Backend}
    (hb : b.repositories.OrdersSettled) :
    (next (b.answer q).1).Tells id P (n + awards id q.told) := by
  cases q with
  | findOrder order =>
    show (next (b.repositories.findOrder order)).Tells id P n
    cases ho : b.repositories.findOrder order with
    | error e => exact h.1 e
    | ok o => exact h.2 o (hb order o (Repositories.findOrder_eq_ok_iff.mp ho))
  | _ => exact h _

/-- What a job tells, from so much on, is worth what `ends` says for the value or the error that it
gives. -/
structure Job.Tells {α : Type} (id : CustomerId) (n : Nat) (job : Job α)
    (ends : Except Error α → Nat → Prop) : Prop where
  andThen {β : Type} {P : β → Nat → Prop} (k : Except Error α → Script β)
    (hk : ∀ x m, ends x m → (k x).Tells id P m) : (job.andThen k).Tells id P n

/-- The job tells nothing that is worth anything, and what it gives is as `Q` says. -/
def Job.Hushed {α : Type} (id : CustomerId) (job : Job α) (Q : α → Prop) : Prop :=
  ∀ n, job.Tells id n fun x m => m = n ∧ ∀ a, x = .ok a → Q a

namespace Job

variable {α β : Type} {id : CustomerId} {n : Nat} {ends : Except Error α → Nat → Prop}
  {ends' : Except Error β → Nat → Prop} {Q : α → Prop} {Q' : β → Prop}

theorem Tells.bind {job : Job α} {f : α → Job β} (hj : job.Tells id n ends)
    (he : ∀ e m, ends (.error e) m → ends' (.error e) m)
    (hf : ∀ a m, ends (.ok a) m → (f a).Tells id m ends') : (job >>= f).Tells id n ends' := by
  refine ⟨fun k hk => ?_⟩
  rw [andThen_bind]
  refine hj.andThen _ fun x m hx => ?_
  cases x with
  | error e => exact hk _ _ (he e m hx)
  | ok a => exact (hf a m hx).andThen k hk

theorem Tells.mono {job : Job α} {weaker : Except Error α → Nat → Prop}
    (hj : job.Tells id n ends) (h : ∀ x m, ends x m → weaker x m) : job.Tells id n weaker :=
  ⟨fun k hk => hj.andThen k fun x m hx => hk x m (h x m hx)⟩

theorem Tells.map {job : Job α} {g : α → β} (hj : job.Tells id n ends)
    (hg : ∀ x m, ends x m → ends' (x.map g) m) : (g <$> job).Tells id n ends' := by
  rw [map_eq_pure_bind]
  exact hj.bind (fun e m hx => hg _ m hx) fun a m hx => ⟨fun _ hk => hk _ _ (hg _ m hx)⟩

/-- What is published is told. -/
theorem tells_publish (events : List Payload) :
    (publish events).Tells id n fun x m => x = .ok () ∧ m = n + awards id events := by
  refine ⟨fun k hk => ?_⟩
  cases events with
  | nil => exact hk _ _ ⟨rfl, rfl⟩
  | cons p rest => exact fun _ => hk _ _ ⟨rfl, rfl⟩

theorem hushed_publish {events : List Payload} (h : awards id events = 0) :
    (publish events).Hushed id fun _ => True :=
  fun n => ⟨fun k hk => (tells_publish events).andThen k fun x m hx =>
    hk x m ⟨by rw [hx.2, h, Nat.add_zero], fun _ _ => trivial⟩⟩

theorem hushed_ofResult {x : Except Error α} (h : ∀ a, x = .ok a → Q a) :
    (ofResult x).Hushed id Q := by
  refine fun n => ⟨fun k hk => ?_⟩
  rw [andThen_ofResult]
  exact hk x n ⟨rfl, h⟩

theorem hushed_pure {a : α} (h : Q a) : (pure a : Job α).Hushed id Q :=
  hushed_ofResult (x := .ok a) (by rintro _ ⟨⟩; exact h)

theorem hushed_throw (e : Error) : (throw e : Job α).Hushed id Q :=
  hushed_ofResult (x := .error e) nofun

theorem Hushed.bind {job : Job α} {f : α → Job β} (hj : job.Hushed id Q)
    (hf : ∀ a, Q a → (f a).Hushed id Q') : (job >>= f).Hushed id Q' := by
  refine fun n => (hj n).bind (fun e m hx => ⟨hx.1, nofun⟩) fun a m hx => ?_
  rw [hx.1]
  exact hf a (hx.2 a rfl) n

theorem Hushed.attempt {job : Job α} (hj : job.Hushed id Q) :
    job.attempt.Hushed id fun x => ∀ a, x = .ok a → Q a := by
  refine fun n => ⟨fun k hk => ?_⟩
  rw [andThen_attempt]
  exact (hj n).andThen _ fun x m hx => hk _ m ⟨hx.1, by rintro _ ⟨⟩; exact hx.2⟩

theorem Hushed.withLock {job : Job α} {key : LockKey} (hj : job.Hushed id Q) :
    (job.withLock key).Hushed id Q := by
  refine fun n => ⟨fun k hk => ?_⟩
  rw [andThen_withLock]
  exact fun _ => (hj n).andThen _ fun x m hx _ => hk x m hx

theorem Hushed.inUnit {job : Job α} (hj : job.Hushed id Q) :
    (Job.inUnit job).Hushed id fun x => ∀ a, x = .ok a → Q a := by
  refine fun n => ⟨fun k hk => ?_⟩
  rw [andThen_inUnit]
  intro u x
  cases x with
  | error e => exact hk _ _ ⟨rfl, nofun⟩
  | ok =>
    refine (hj n).andThen _ fun x m hx => ?_
    obtain ⟨rfl, hQ⟩ := hx
    cases x with
    | error e => exact fun _ => hk _ _ ⟨rfl, by rintro _ ⟨⟩; exact nofun⟩
    | ok a =>
      intro y
      cases y with
      | error e => exact hk _ _ ⟨rfl, by rintro _ ⟨⟩; exact nofun⟩
      | ok => exact hk _ _ ⟨rfl, by rintro _ ⟨⟩; exact hQ⟩

theorem Hushed.committed {job : Job α} (hj : job.Hushed id Q) : (Job.committed job).Hushed id Q :=
  hj.inUnit.bind fun _ hx => hushed_ofResult hx

/-- An order that is found has nothing left to tell. -/
theorem hushed_findOrder {order : OrderId} :
    (findOrder order).Hushed id fun o => o.pending = [] :=
  fun n => ⟨fun _ hk => ⟨fun _ => hk _ n ⟨rfl, fun _ h => by cases h⟩,
    fun _ ho => hk _ n ⟨rfl, by rintro _ ⟨⟩; exact ho⟩⟩⟩

theorem hushed_saveOrder {o : Order} : (saveOrder o).Hushed id fun _ => True :=
  fun n => ⟨fun _ hk x => hk x n ⟨rfl, fun _ _ => trivial⟩⟩

/-- A job that leaves orders alone tells nothing that is worth anything. -/
theorem hushed_of_asks {job : Job α} (hj : job.Asks Ask.LeavesOrders) :
    job.Hushed id fun _ => True := by
  refine fun n => ⟨fun {β P} k hk => ?_⟩
  have hall : ∀ s : Script (Except Error α), s.Asks Ask.LeavesOrders →
      Script.Tells id P n (s.bind k) := by
    intro s hs
    induction s with
    | done x => exact hk x n ⟨rfl, fun _ _ => trivial⟩
    | ask q next ih =>
      have hnext : ∀ a, Script.Tells id P n ((next a).bind k) := fun a => ih a (hs.2 a)
      cases q with
      | publish events =>
        intro a
        show Script.Tells id P (n + awards id events) _
        rw [ConfirmNone.awards hs.1]
        exact hnext a
      | findOrder order => exact ⟨fun e => hnext _, fun o _ => hnext _⟩
      | _ => exact hnext
  exact hall job.run hj

end Job

/-! ### The commands -/

open Job

section Commands
variable {supply : Supply} {id : CustomerId}

theorem Ordering.hushed_place (customerId : CustomerId) (storeId : StoreId)
    (lines : List RequestedLine) :
    (place supply customerId storeId lines).Hushed id fun x =>
      awards id (x.1.news ++ x.2.news) = x.1.award id := by
  unfold place
  refine (hushed_of_asks (asks_findCustomer trivial)).bind fun customer _ => ?_
  dsimp only
  split
  · exact hushed_throw _
  · refine Hushed.withLock ((hushed_of_asks (asks_findStore trivial)).bind fun store _ => ?_)
    refine Hushed.bind (Q := fun x => Order.place (supply.id .order) supply.line supply.now
      customerId store lines = .ok x) (hushed_ofResult fun x hx => hx) ?_
    rintro ⟨o, s⟩ hplace
    obtain ⟨_, _, _, honce⟩ := Order.place_kept hplace
    refine (hushed_of_asks (asks_saveStore trivial)).bind fun _ _ => hushed_saveOrder.bind fun _ _ => ?_
    exact hushed_pure (honce.awards id)

/-- **Placing an order tells what is worth the points for it**, and being refused tells nothing. -/
theorem Ordering.tells_createOrder (customerId : CustomerId) (storeId : StoreId)
    (lines : List RequestedLine) :
    (createOrder supply customerId storeId lines).Tells id 0 fun x m =>
      m = match x with
        | .ok o => o.award id
        | .error _ => 0 := by
  have hreject : ∀ e, (reject e : Job Order).Tells id 0 fun x m =>
      m = match x with
        | .ok o => o.award id
        | .error _ => 0 := fun e =>
    (hushed_of_asks (asks_countOne trivial) 0).bind (fun _ m hx => hx.1) fun _ m hx =>
      ⟨fun _ hk => hk _ m hx.1⟩
  unfold createOrder
  split
  · exact hreject _
  · refine ((hushed_place customerId storeId lines).inUnit 0).bind (fun e m hx => hx.1)
      fun x m hx => ?_
    obtain ⟨rfl, hworth⟩ := hx
    cases x with
    | error e => exact hreject e
    | ok placed =>
      obtain ⟨o, s⟩ := placed
      have hworth : awards id (o.news ++ s.news) = o.award id := hworth _ rfl _ rfl
      refine (tells_publish _).bind (fun e m hx => nomatch hx.1) fun _ m hx => ⟨fun k hk => ?_⟩
      exact fun _ => hk _ m (by rw [hx.2, Nat.zero_add, hworth]; rfl)

theorem Ordering.hushed_releaseStock (order : Order) :
    (releaseStock order).Hushed id fun back => awards id back.2.2 = 0 := by
  unfold releaseStock
  refine Hushed.withLock ((hushed_of_asks (asks_findStore trivial)).attempt.bind fun x _ => ?_)
  cases x with
  | error e => exact hushed_pure rfl
  | ok store =>
    refine (hushed_of_asks (asks_saveStore trivial)).attempt.bind fun y _ => ?_
    cases y with
    | error e => exact hushed_pure rfl
    | ok => exact hushed_pure ((Store.confirmNone_news _).awards id)

theorem Ordering.hushed_cancelOrder (order : OrderId) (reason : String) :
    (cancelOrder order reason).Hushed id fun _ => True := by
  unfold cancelOrder
  refine Hushed.bind (Q := fun x => awards id x.2 = 0) (Hushed.committed ?_) fun x hx =>
    (hushed_publish hx).bind fun _ _ => hushed_of_asks ?_
  · unfold cancel
    refine Hushed.withLock (hushed_findOrder.bind fun before hbefore => ?_)
    refine Hushed.bind (Q := fun o => awards id o.news = 0) (hushed_ofResult fun o ho => ?_)
      fun o ho => hushed_saveOrder.bind fun _ _ => ?_
    · obtain ⟨_, rfl⟩ := Order.cancel_eq_ok_iff.mp (mapError_eq_ok_iff.mp ho)
      rw [Order.news, hbefore]
      rfl
    · dsimp only
      split
      · refine (hushed_releaseStock o).bind fun back hback => ?_
        obtain ⟨released, failed, storeNews⟩ := back
        have hnews : awards id (o.news ++ storeNews) = 0 := by
          rw [awards_append, ho]
          exact (Nat.zero_add _).trans hback
        dsimp only
        split
        · refine Hushed.bind (hushed_of_asks (asks_perform ?_)) fun _ _ => hushed_pure hnews
          exact trivial
        · exact hushed_pure hnews
      · refine hushed_pure ?_
        rw [List.append_nil]
        exact ho
  · exact Asks.bind (asks_countOne trivial) fun _ => asks_pure _

theorem Ordering.hushed_advanceOrder (order : OrderId) (transition : OrderTransition) :
    (advanceOrder supply order transition).Hushed id fun _ => True := by
  unfold advanceOrder
  refine Hushed.bind (Q := fun o => awards id o.news = 0) (Hushed.committed ?_) fun o ho =>
    (hushed_publish ho).bind fun _ _ => hushed_of_asks ?_
  · refine Hushed.withLock (hushed_findOrder.bind fun before hbefore => ?_)
    refine Hushed.bind (Q := fun o => awards id o.news = 0) (hushed_ofResult fun o ho => ?_)
      fun o ho => hushed_saveOrder.bind fun _ _ => hushed_pure ho
    obtain ⟨hpending, _⟩ := Order.shows_advance (mapError_eq_ok_iff.mp ho)
    rw [Order.news, hpending, hbefore]
    cases transition <;> rfl
  · exact Asks.bind (asks_countOne trivial) fun _ => asks_pure _

/-- **A command tells what is worth the points for the order that it has placed**, and if it has
placed none, nothing that is worth anything. -/
theorem Command.tells (command : Command) :
    Script.Tells id (fun x m => m = earns id (command, x)) 0 (command.job supply).run := by
  have hjob : (command.job supply).Tells id 0 fun x m => m = earns id (command, x) := by
    cases command with
    | createOrder customer store lines =>
      refine (Ordering.tells_createOrder customer store lines).map fun x m hx => hx.trans ?_
      cases x <;> rfl
    | cancelOrder order reason =>
      exact (Ordering.hushed_cancelOrder order reason 0).map fun x m hx => hx.1
    | advanceOrder order transition =>
      exact (Ordering.hushed_advanceOrder order transition 0).map fun x m hx => hx.1
    | _ => exact (hushed_of_asks (leaves rfl) 0).mono fun x m hx => hx.1
  rw [← andThen_done]
  exact hjob.andThen _ fun x m hx => hx

end Commands

end Storefront
