import Storefront.Proofs.Execution
import Storefront.Proofs.Outage

/-! # The course of a command

What a command asks for, gives and leaves behind goes together in one of four ways
(`Command.Course`).  It is refused: then everything is kept as it was, nothing has been told to
others, and its unit of work has been rolled back if it had one.  It is done: then it has had
its effect, its unit of work has been committed once, its news have been told once, and all
that it has written is kept.  If writing can fail, there are two ways more, because two
commands write twice.  An order that is placed writes the store first, so that stock may be
left stranded without an order; an order that is cancelled is written first, so that its stock
may be left unreleased.

Each handler is followed once, through all the answers that it may get (`ensures_…`); which
plan there is for writing to fail makes no difference then.
-/
namespace Storefront

open Job

variable {α β : Type}

/-! ### What a command has to tell -/

/-- What a decision has to tell, nothing if it is a refusal. -/
def toldOf {ε : Type} (decision : Except ε α) (tell : α → List Payload) : List Payload :=
  match decision with
  | .ok a => tell a
  | .error _ => []

/-- What a command has to tell if it is not refused, in the order in which it is told. -/
def Command.news (supply : Supply) (r : Repositories) : Command → List Payload
  | createStore name location currency =>
    toldOf (Store.create (supply.id .store) name location currency) Store.news
  | addProduct store name description price =>
    toldOf (r.decideChange store fun s => s.addProduct (supply.id .product) name description price)
      fun x => x.2.news
  | addInventory store product quantity =>
    toldOf (r.decideChange store fun s => do return ((), ← s.addInventory product quantity))
      fun x => x.2.news
  | updatePrice store product price =>
    toldOf (r.decideChange store fun s => do return ((), ← s.updatePrice product price))
      fun x => x.2.news
  | deactivateProduct store product =>
    toldOf (r.decideChange store fun s => do return ((), ← s.deactivateProduct product))
      fun x => x.2.news
  | register email firstName lastName =>
    toldOf (r.decideRegister supply email firstName lastName) fun x => x.1.news
  | updateContact customer phone address =>
    toldOf (r.decideCustomer customer (·.updateContact phone address)) fun x => x.1.news
  | redeemPoints customer points =>
    toldOf (r.decideCustomer customer (·.redeemPoints points)) fun x => x.1.news
  | deactivateCustomer customer =>
    toldOf (r.decideCustomer customer Customer.deactivate) fun x => x.1.news
  | createOrder customer store lines =>
    toldOf (r.decideOrder supply customer store lines) fun x => x.1.news ++ x.2.news
  | cancelOrder order reason =>
    toldOf (r.decideCancel order reason) fun x => x.2.news ++
      if x.1.status.holdsReservation then ((r.saveOrder x.2).putBack x.2).1.2.2 else []
  | advanceOrder order transition =>
    toldOf (r.decideAdvance supply.now order transition) Order.news

/-! ### How a script ends -/

/-- What a question has written is what is kept, with nothing left to tell. -/
def Ask.KeptIn (r : Repositories) : Ask → Prop
  | saveStore s => r.stores.get? s.id = some s.settled
  | saveOrder o => r.orders.get? o.id = some o.settled
  | saveCustomer c => r.customers.get? c.id = some c.settled
  | _ => True

/-- A question that has nothing to do with units, tells nothing, and has written what is kept. -/
structure Ask.Quiet (r : Repositories) (q : Ask) : Prop where
  units : q.ofUnits = false
  told : q.told = []
  kept : q.KeptIn r

/-- Nothing has been told to others, and the unit of work has been rolled back if it has been
begun. -/
structure Rebuffed (unit : Nat) (asked : List Ask) : Prop where
  silent : ∀ events, Ask.publish events ∉ asked
  units : asked.filter Ask.ofUnits = [] ∨
    asked.filter Ask.ofUnits = [.openUnit, .begin unit, .rollback unit]

/-- The unit of work has been committed once, some news have been told, and what has been
written is kept. -/
structure Accomplished (unit : Nat) (news : List Payload) (asked : List Ask)
    (r : Repositories) : Prop where
  told : asked.flatMap Ask.told = news
  units : asked.filter Ask.ofUnits = [.openUnit, .begin unit, .commit unit]
  kept : ∀ q ∈ asked, q.KeptIn r

theorem Rebuffed.told {unit : Nat} {asked : List Ask} (h : Rebuffed unit asked) :
    asked.flatMap Ask.told = [] := by
  rw [List.flatMap_eq_nil_iff]
  intro q hq
  cases q with
  | publish events => exact absurd hq (h.silent events)
  | _ => rfl

namespace Accomplished

/-- Nothing is told in a unit of work in which only quiet questions are asked. -/
theorem of_quiet {unit : Nat} {asked : List Ask} {r : Repositories}
    (h : ∀ q ∈ asked, q.Quiet r) :
    Accomplished unit [] ([.openUnit, .begin unit] ++ asked ++ [.commit unit]) r := by
  have htold : asked.flatMap Ask.told = [] :=
    List.flatMap_eq_nil_iff.mpr fun q hq => (h q hq).told
  have hunits : asked.filter Ask.ofUnits = [] :=
    List.filter_eq_nil_iff.mpr fun q hq => by simp [(h q hq).units]
  refine ⟨?_, ?_, fun q hq => ?_⟩
  · rw [List.flatMap_append, List.flatMap_append, htold]
    rfl
  · rw [List.filter_append, List.filter_append, hunits]
    rfl
  · rcases List.mem_append.mp hq with hq | hq
    · rcases List.mem_append.mp hq with hq | hq
      · rcases List.mem_cons.mp hq with rfl | hq
        · trivial
        · obtain rfl := List.mem_singleton.mp hq
          trivial
      · exact (h q hq).kept
    · obtain rfl := List.mem_singleton.mp hq
      trivial

variable {unit : Nat} {news : List Payload} {asked : List Ask} {r : Repositories}

/-- What has been accomplished without telling of it may be told of. -/
theorem publish (h : Accomplished unit [] asked r) (events : List Payload) :
    Accomplished unit events (asked ++ Ask.publishing events) r := by
  unfold Ask.publishing
  cases events with
  | nil =>
    rw [if_pos List.isEmpty_nil, List.append_nil]
    exact h
  | cons p rest =>
    rw [if_neg (by simp)]
    refine ⟨?_, ?_, fun q hq => ?_⟩
    · rw [List.flatMap_append, h.told]
      exact List.append_nil _
    · rw [List.filter_append, h.units]
      rfl
    · rcases List.mem_append.mp hq with hq | hq
      · exact h.kept q hq
      · obtain rfl := List.mem_singleton.mp hq
        trivial

theorem count (h : Accomplished unit news asked r) (c : Counter) (n : Nat) :
    Accomplished unit news (asked ++ [.count c n]) r := by
  refine ⟨?_, ?_, fun q hq => ?_⟩
  · rw [List.flatMap_append, h.told]
    exact List.append_nil _
  · rw [List.filter_append, h.units]
    rfl
  · rcases List.mem_append.mp hq with hq | hq
    · exact h.kept q hq
    · obtain rfl := List.mem_singleton.mp hq
      trivial

end Accomplished

/-- A job either is refused, or does what it does on the repositories alone and tells of it. -/
inductive Job.Ends (unit : Nat) (news : List Payload) (r : Repositories) (job : Job α) :
    List Ask → Except Error α → Repositories → Prop where
  | refused {asked e} (h : Rebuffed unit asked) : Ends unit news r job asked (.error e) r
  | done {asked a r'} (heval : job.eval r = (.ok a, r')) (h : Accomplished unit news asked r') :
      Ends unit news r job asked (.ok a) r'

namespace Job

variable {unit : Nat} {news : List Payload} {r r' : Repositories} {asked : List Ask}

theorem Ends.map {job : Job α} {x : Except Error α} (h : job.Ends unit news r asked x r')
    (g : α → β) : (g <$> job).Ends unit news r asked (x.map g) r' := by
  cases h with
  | refused h => exact .refused h
  | done heval h =>
    refine .done ?_ h
    rw [eval_map, heval]
    rfl

/-- What comes behind a job may ask for nothing more and not fail. -/
theorem ensures_ends_bind {frail : Bool} {job : Job α} {f : α → Job β}
    (h : job.Ensures frail unit (job.Ends unit news r) asked r)
    (hf : ∀ a r', job.eval r = (.ok a, r') → ∃ b, f a = pure b) :
    (job >>= f).Ensures frail unit ((job >>= f).Ends unit news r) asked r := by
  rw [ensures_bind]
  refine Script.Ensures.mono h fun asked x r' hx => ?_
  cases hx with
  | refused h => exact .refused h
  | done heval h =>
    obtain ⟨b, hb⟩ := hf _ _ heval
    dsimp only
    rw [hb, ensures_pure]
    refine .done ?_ h
    rw [eval_bind, heval]
    dsimp only
    rw [hb]
    rfl

end Job

/-! ### Each handler -/

section Handlers
variable {frail : Bool} {unit : Nat} {supply : Supply} {r : Repositories}

theorem keptIn_saveStore (s : Store) :
    (r.saveStore s).stores.get? s.id = some s.settled := Table.get?_insert_self ..

theorem keptIn_saveOrder (o : Order) :
    (r.saveOrder o).orders.get? o.id = some o.settled := Table.get?_insert_self ..

theorem keptIn_saveCustomer {c : Customer} {r' : Repositories} (h : r.saveCustomer c = .ok r') :
    r'.customers.get? c.id = some c.settled := by
  rw [Repositories.saveCustomer_eq_ok h]
  exact Table.get?_insert_self ..

theorem Catalogue.ensures_createStore (name : String) (location : Address) (currency : String) :
    (createStore supply name location currency).Ensures frail unit
      ((createStore supply name location currency).Ends unit
        (toldOf (Store.create (supply.id .store) name location currency) Store.news) r) [] r := by
  have heval := eval_createStore supply name location currency r
  unfold createStore at heval ⊢
  simp only [ensures_bind, ensures_committed, ensures_liftM_store, ensures_publish, ensures_pure,
    ensures_saveStore]
  cases hs : Store.create (supply.id .store) name location currency with
  | error e => exact .refused ⟨by simp, .inl rfl⟩
  | ok s =>
    simp only [hs] at heval
    refine ⟨.done heval (Accomplished.publish ⟨rfl, rfl, ?_⟩ s.news),
      fun _ => .refused ⟨by simp, .inr rfl⟩⟩
    simp [Ask.KeptIn, keptIn_saveStore]

theorem Catalogue.ensures_withStore (id : StoreId)
    (change : Store → Except StoreError (α × Store)) :
    (withStore id change).Ensures frail unit
      ((withStore id change).Ends unit (toldOf (r.decideChange id change) fun x => x.2.news) r)
      [] r := by
  have heval := eval_withStore id change r
  unfold withStore at heval ⊢
  simp only [ensures_bind, ensures_committed, ensures_withLock, ensures_findStore,
    ensures_liftM_store, ensures_publish, ensures_pure, ensures_saveStore]
  unfold Repositories.decideChange at heval ⊢
  cases hs : r.findStore id with
  | error e => exact .refused ⟨by simp, .inr rfl⟩
  | ok s =>
    simp only [hs, ok_bind, liftM_store] at heval ⊢
    cases hc : change s with
    | error e => exact .refused ⟨by simp, .inr rfl⟩
    | ok x =>
      rw [hc] at heval
      refine ⟨.done heval (Accomplished.publish ⟨rfl, rfl, ?_⟩ x.2.news),
        fun _ => .refused ⟨by simp, .inr rfl⟩⟩
      simp [Ask.KeptIn, keptIn_saveStore]

theorem Ordering.ensures_advanceOrder (id : OrderId) (transition : OrderTransition) :
    (advanceOrder supply id transition).Ensures frail unit
      ((advanceOrder supply id transition).Ends unit
        (toldOf (r.decideAdvance supply.now id transition) Order.news) r) [] r := by
  have heval := eval_advanceOrder supply id transition r
  unfold advanceOrder at heval ⊢
  simp only [ensures_bind, ensures_committed, ensures_withLock, ensures_findOrder,
    ensures_liftM_order, ensures_publish, ensures_pure, ensures_saveOrder, ensures_countOne]
  unfold Repositories.decideAdvance at heval ⊢
  cases ho : r.findOrder id with
  | error e => exact .refused ⟨by simp, .inr rfl⟩
  | ok o =>
    simp only [ho, ok_bind, liftM_order] at heval ⊢
    cases ha : o.advance supply.now transition with
    | error e => exact .refused ⟨by simp, .inr rfl⟩
    | ok o' =>
      rw [ha] at heval
      refine ⟨.done heval ((Accomplished.publish ⟨rfl, rfl, ?_⟩ o'.news).count _ _),
        fun _ => .refused ⟨by simp, .inr rfl⟩⟩
      simp [Ask.KeptIn, keptIn_saveOrder]

/-- An email address that cannot be looked up is nobody's. -/
theorem kind_of_findCustomerByEmail {email : Email} {e : Error}
    (h : r.findCustomerByEmail email = .error e) : e.kind = .notFound := by
  unfold Repositories.findCustomerByEmail at h
  split at h
  · cases h
  · cases h
    rfl

theorem Accounts.ensures_register (email firstName lastName : String) :
    (register supply email firstName lastName).Ensures frail unit
      ((register supply email firstName lastName).Ends unit
        (toldOf (r.decideRegister supply email firstName lastName) fun x => x.1.news) r) [] r := by
  have heval := eval_register supply email firstName lastName r
  unfold register ensureEmailFree at heval ⊢
  simp only [ensures_bind, ensures_committed, ensures_attempt, ensures_findCustomerByEmail,
    ensures_liftM_customer, ensures_publish, ensures_pure, ensures_saveCustomer]
  unfold Repositories.decideRegister at heval ⊢
  cases hc : Customer.register (supply.id .customer) email firstName lastName supply.now with
  | error e => exact .refused ⟨by simp, .inl rfl⟩
  | ok c =>
    simp only [hc, ok_bind, liftM_customer, mapError_ok] at heval ⊢
    cases hd : r.findCustomerByEmail c.email with
    | ok d => exact .refused ⟨by simp, .inr rfl⟩
    | error e =>
      simp only [hd, if_pos (kind_of_findCustomerByEmail hd), ensures_pure] at heval ⊢
      cases hr : r.saveCustomer c with
      | error e => exact .refused ⟨by simp, .inr rfl⟩
      | ok r' =>
        simp only [hr, ok_bind] at heval ⊢
        refine .done heval (Accomplished.publish ⟨rfl, rfl, ?_⟩ c.news)
        simp [Ask.KeptIn, keptIn_saveCustomer hr]

theorem Accounts.ensures_withCustomer (id : CustomerId)
    (change : Customer → Except CustomerError Customer) :
    (withCustomer id change).Ensures frail unit
      ((withCustomer id change).Ends unit (toldOf (r.decideCustomer id change) fun x => x.1.news) r)
      [] r := by
  have heval := eval_withCustomer id change r
  unfold withCustomer at heval ⊢
  simp only [ensures_bind, ensures_committed, ensures_withLock, ensures_findCustomer,
    ensures_liftM_customer, ensures_publish, ensures_pure, ensures_saveCustomer]
  unfold Repositories.decideCustomer at heval ⊢
  cases hs : r.findCustomer id with
  | error e => exact .refused ⟨by simp, .inr rfl⟩
  | ok before =>
    simp only [hs, ok_bind, liftM_customer] at heval ⊢
    cases hc : change before with
    | error e => exact .refused ⟨by simp, .inr rfl⟩
    | ok c =>
      simp only [hc, ok_bind, mapError_ok] at heval ⊢
      cases hr : r.saveCustomer c with
      | error e => exact .refused ⟨by simp, .inr rfl⟩
      | ok r' =>
        simp only [hr, ok_bind] at heval ⊢
        refine .done heval (Accomplished.publish ⟨rfl, rfl, ?_⟩ c.news)
        simp [Ask.KeptIn, keptIn_saveCustomer hr]

/-- **Placing an order writes the store and then the order.**  If only the first can be written,
the order is refused and its stock is stranded. -/
theorem Ordering.ensures_createOrder {customerId : CustomerId} {storeId : StoreId}
    {lines : List RequestedLine} {P : List Ask → Except Error Order → Repositories → Prop}
    (hrefused : ∀ asked e, Rebuffed unit asked → P asked (.error e) r)
    (hdone : ∀ asked o r', (createOrder supply customerId storeId lines).eval r = (.ok o, r') →
      Accomplished unit (toldOf (r.decideOrder supply customerId storeId lines)
        fun x => x.1.news ++ x.2.news) asked r' → P asked (.ok o) r')
    (hstranded : frail = true → ∀ asked e o s,
      r.decideOrder supply customerId storeId lines = .ok (o, s) → P asked (.error e) (r.saveStore s)) :
    (createOrder supply customerId storeId lines).Ensures frail unit P [] r := by
  rw [eval_createOrder] at hdone
  unfold createOrder
  unfold Repositories.decideOrder at hdone hstranded
  cases hcheck : Order.checkRequest lines with
  | error e =>
    simp only [reject, ensures_bind, ensures_countOne, ensures_throw]
    exact hrefused _ _ ⟨by simp, .inl rfl⟩
  | ok =>
    simp only [hcheck, ok_bind] at hdone hstranded
    simp only [place, reject, ensures_bind, ensures_inUnit, ensures_findCustomer]
    cases hc : r.findCustomer customerId with
    | error e =>
      simp only [ensures_countOne, ensures_throw]
      exact hrefused _ _ ⟨by simp, .inr rfl⟩
    | ok c =>
      simp only [hc, ok_bind] at hdone hstranded
      cases ha : c.active with
      | false =>
        simp only [ha, Bool.not_false, if_true, ensures_countOne, ensures_throw]
        exact hrefused _ _ ⟨by simp, .inr rfl⟩
      | true =>
        simp only [ha, Bool.not_true, Bool.false_eq_true, if_false, ensures_bind,
          ensures_withLock, ensures_findStore] at hdone hstranded ⊢
        cases hs : r.findStore storeId with
        | error e =>
          simp only [ensures_countOne, ensures_throw]
          exact hrefused _ _ ⟨by simp, .inr rfl⟩
        | ok s =>
          simp only [hs, ok_bind, ensures_liftM_error] at hdone hstranded ⊢
          cases hp : Order.place (supply.id .order) supply.line supply.now customerId s lines with
          | error e =>
            simp only [ensures_countOne, ensures_throw]
            exact hrefused _ _ ⟨by simp, .inr rfl⟩
          | ok placed =>
            obtain ⟨o, s'⟩ := placed
            simp only [hp, ensures_saveStore, ensures_saveOrder, ensures_pure, ensures_publish,
              ensures_countOne, ensures_throw] at hdone ⊢
            refine ⟨⟨hdone _ _ _ rfl ?_, fun hf => hstranded hf _ _ _ _ hp⟩,
              fun _ => hrefused _ _ ⟨by simp, .inr rfl⟩⟩
            refine (Accomplished.publish ⟨rfl, rfl, ?_⟩ (o.news ++ s'.news)).count _ _
            have hstored : ((r.saveStore s').saveOrder o).stores.get? s'.id = some s'.settled :=
              Table.get?_insert_self ..
            simp [Ask.KeptIn, hstored, keptIn_saveOrder]

theorem Repositories.orders_putBack (r : Repositories) (o : Order) :
    (r.putBack o).2.orders = r.orders := by
  unfold Repositories.putBack
  cases r.findStore o.storeId <;> rfl

/-- Putting stock back asks quiet questions only.  If the store cannot be written, nothing is
put back and the store has nothing to tell. -/
theorem Ordering.ensures_releaseStock {o : Order} {asked : List Ask}
    {P : List Ask → Except Error (List Release × List FailedRelease × List Payload) →
      Repositories → Prop}
    (hback : ∀ more, (∀ q ∈ more, q.Quiet (r.putBack o).2) →
      P (asked ++ more) (.ok (r.putBack o).1) (r.putBack o).2)
    (hkept : frail = true → ∀ more failed, P (asked ++ more) (.ok ([], failed, [])) r) :
    (releaseStock o).Ensures frail unit P asked r := by
  unfold releaseStock
  unfold Repositories.putBack at hback
  simp only [ensures_withLock, ensures_bind, ensures_attempt, ensures_findStore]
  cases hs : r.findStore o.storeId with
  | error e =>
    simp only [hs, ensures_pure, List.append_assoc] at hback ⊢
    refine hback _ fun q hq => ?_
    simp at hq
    rcases hq with rfl | rfl | rfl <;> exact ⟨rfl, rfl, trivial⟩
  | ok s =>
    simp only [hs, ensures_bind, ensures_attempt, ensures_saveStore, ensures_pure,
      List.append_assoc] at hback ⊢
    refine ⟨hback _ fun q hq => ?_, fun hf => hkept hf _ _⟩
    simp at hq
    rcases hq with rfl | rfl | rfl | rfl
    · exact ⟨rfl, rfl, trivial⟩
    · exact ⟨rfl, rfl, trivial⟩
    · exact ⟨rfl, rfl, keptIn_saveStore _⟩
    · exact ⟨rfl, rfl, trivial⟩

/-- A unit of work in which an order is found and written, and then only quiet questions are
asked. -/
theorem Accomplished.of_cancel {id : OrderId} {order : Order} {more : List Ask}
    (hmore : ∀ q ∈ more, q.Quiet r) (horder : r.orders.get? order.id = some order.settled) :
    Accomplished unit [] ([] ++ [.openUnit, .begin unit] ++ [.lock (.order id)] ++
      [.findOrder id] ++ [.saveOrder order] ++ more ++ [.unlock (.order id)] ++
        [.commit unit]) r := by
  have hall : ∀ q ∈ [Ask.lock (.order id), .findOrder id, .saveOrder order] ++ more ++
      [.unlock (.order id)], q.Quiet r := by
    intro q hq
    simp only [List.mem_append, List.mem_cons, List.not_mem_nil, or_false] at hq
    rcases hq with ((rfl | rfl | rfl) | hq) | rfl
    · exact ⟨rfl, rfl, trivial⟩
    · exact ⟨rfl, rfl, trivial⟩
    · exact ⟨rfl, rfl, horder⟩
    · exact hmore q hq
    · exact ⟨rfl, rfl, trivial⟩
  have h : Accomplished unit [] _ r := of_quiet hall
  simpa using h

/-- **Cancelling an order writes the order and then the store.**  If only the first can be
written, the order is cancelled and its stock stays unreleased. -/
theorem Ordering.ensures_cancelOrder {id : OrderId} {reason : String}
    {P : List Ask → Except Error Cancellation → Repositories → Prop}
    (hrefused : ∀ asked e, Rebuffed unit asked → P asked (.error e) r)
    (hdone : ∀ asked c r', (cancelOrder id reason).eval r = (.ok c, r') →
      Accomplished unit (toldOf (r.decideCancel id reason) fun x => x.2.news ++
        if x.1.status.holdsReservation then ((r.saveOrder x.2).putBack x.2).1.2.2 else [])
          asked r' → P asked (.ok c) r')
    (hunreleased : frail = true → ∀ asked before order failed,
      r.decideCancel id reason = .ok (before, order) → before.status.holdsReservation = true →
        P asked (.ok ⟨order.settled, [], failed⟩) (r.saveOrder order)) :
    (cancelOrder id reason).Ensures frail unit P [] r := by
  rw [eval_cancelOrder] at hdone
  unfold cancelOrder cancel
  unfold Repositories.decideCancel at hdone hunreleased
  simp only [ensures_bind, ensures_committed, ensures_withLock, ensures_findOrder,
    ensures_liftM_order, ensures_saveOrder]
  cases ho : r.findOrder id with
  | error e => exact hrefused _ _ ⟨by simp, .inr rfl⟩
  | ok before =>
    simp only [ho, ok_bind, liftM_order] at hdone hunreleased ⊢
    cases hc : before.cancel reason with
    | error e => exact hrefused _ _ ⟨by simp, .inr rfl⟩
    | ok order =>
      simp only [hc, ok_bind, mapError_ok, pure_eq_ok, toldOf] at hdone hunreleased ⊢
      refine ⟨?_, fun _ => hrefused _ _ ⟨by simp, .inr rfl⟩⟩
      cases hn : before.status.holdsReservation with
      | false =>
        simp only [hn, Bool.false_eq_true, if_false, pure_bind, List.isEmpty_nil, Bool.not_true,
          ensures_pure, ensures_publish, ensures_countOne] at hdone ⊢
        refine hdone _ _ _ rfl ((Accomplished.publish ⟨rfl, rfl, ?_⟩ _).count _ _)
        simp [Ask.KeptIn, keptIn_saveOrder]
      | true =>
        have hkept : ((r.saveOrder order).putBack order).2.orders.get? order.id =
            some order.settled := by
          rw [Repositories.orders_putBack]
          exact keptIn_saveOrder order
        simp only [hn, if_true, ensures_bind] at hdone ⊢
        refine ensures_releaseStock (fun more hmore => ?_) fun hf more failed => ?_
        · cases hfailed : ((r.saveOrder order).putBack order).1.2.1.isEmpty with
          | true =>
            simp only [hfailed, Bool.not_true, Bool.false_eq_true, if_false, ensures_pure,
              ensures_publish, ensures_countOne]
            exact hdone _ _ _ rfl ((Accomplished.publish (.of_cancel hmore hkept) _).count _ _)
          | false =>
            simp only [hfailed, Bool.not_false, if_true, ensures_bind, ensures_count, ensures_pure,
              ensures_publish, ensures_countOne]
            refine hdone _ _ _ rfl ((Accomplished.publish ?_ _).count _ _)
            rw [List.append_assoc _ more]
            refine .of_cancel (fun q hq => ?_) hkept
            rcases List.mem_append.mp hq with hq | hq
            · exact hmore q hq
            · obtain rfl := List.mem_singleton.mp hq
              exact ⟨rfl, rfl, trivial⟩
        · have hleft := fun asked => hunreleased hf asked _ _ failed rfl hn
          cases hfailed : failed.isEmpty with
          | true =>
            simp only [hfailed, Bool.not_true, Bool.false_eq_true, if_false, ensures_pure,
              ensures_publish, ensures_countOne]
            exact hleft _
          | false =>
            simp only [hfailed, Bool.not_false, if_true, ensures_bind, ensures_count, ensures_pure,
              ensures_publish, ensures_countOne]
            exact hleft _

end Handlers

/-! ### Each command -/

/-- **The course of a command**: what it asks, gives and leaves. -/
inductive Command.Course (frail : Bool) (unit : Nat) (supply : Supply) (r : Repositories) :
    Command → List Ask → Except Error Outcome → Repositories → Prop where
  | refused {command asked e} (h : Rebuffed unit asked) :
      Course frail unit supply r command asked (.error e) r
  | done {command asked outcome r'} (heffect : command.Effect supply r outcome r')
      (h : Accomplished unit (command.news supply r) asked r') :
      Course frail unit supply r command asked (.ok outcome) r'
  | stranded {customerId storeId lines asked e o s} (hfrail : frail = true)
      (h : r.decideOrder supply customerId storeId lines = .ok (o, s)) :
      Course frail unit supply r (.createOrder customerId storeId lines) asked (.error e)
        (r.saveStore s)
  | unreleased {id reason asked before order failed} (hfrail : frail = true)
      (h : r.decideCancel id reason = .ok (before, order))
      (hn : before.status.holdsReservation = true) :
      Course frail unit supply r (.cancelOrder id reason) asked
        (.ok (.cancellation ⟨order.settled, [], failed⟩)) (r.saveOrder order)

section Commands
variable {frail : Bool} {unit : Nat} {supply : Supply} {r r' : Repositories}

theorem Command.effect_of_eval {command : Command} {outcome : Outcome}
    (h : (command.job supply).eval r = (.ok outcome, r')) :
    command.Effect supply r outcome r' := by
  rcases command.eval_cases supply r with ⟨e, he⟩ | ⟨outcome', r'', he, heffect⟩
  · rw [he] at h
    cases h
  · rw [he] at h
    cases h
    exact heffect

/-- A command that writes once takes one of the first two courses. -/
theorem Command.course_of_ends {command : Command} {asked : List Ask}
    {x : Except Error Outcome}
    (h : (command.job supply).Ends unit (command.news supply r) r asked x r') :
    command.Course frail unit supply r asked x r' := by
  cases h with
  | refused h => exact .refused h
  | done heval h => exact .done (effect_of_eval heval) h

/-- The handler behind a command ends as it should. -/
theorem Command.ensures_course_map {command : Command} {job : Job α} {g : α → Outcome}
    (hjob : command.job supply = g <$> job)
    (h : job.Ensures frail unit (job.Ends unit (command.news supply r) r) [] r) :
    (command.job supply).Ensures frail unit (command.Course frail unit supply r) [] r := by
  rw [hjob, ensures_map]
  refine Script.Ensures.mono h fun asked x r' hx => course_of_ends ?_
  rw [hjob]
  exact hx.map g

/-- **Whatever the answers are, a command takes its course.** -/
theorem Command.ensures_course (command : Command) (supply : Supply) (r : Repositories) :
    (command.job supply).Ensures frail unit (command.Course frail unit supply r) [] r := by
  cases command with
  | createStore name location currency =>
    exact ensures_course_map rfl (Catalogue.ensures_createStore name location currency)
  | addProduct id name description price =>
    refine ensures_course_map rfl (ensures_ends_bind (Catalogue.ensures_withStore id _) ?_)
    exact fun a r' _ => ⟨a.1, rfl⟩
  | addInventory id product quantity =>
    refine ensures_course_map rfl (ensures_ends_bind (Catalogue.ensures_withStore id _) ?_)
    intro a r' heval
    rw [Catalogue.eval_withStore] at heval
    cases h : r.decideChange id fun s => do return ((), ← s.addInventory product quantity) with
    | error e =>
      rw [h] at heval
      cases heval
    | ok x =>
      rw [h] at heval
      cases heval
      obtain ⟨s, _, hx⟩ := Repositories.decideChange_unit_eq_ok h
      obtain ⟨level, hl⟩ := Store.available_of_addInventory hx
      have hl' : x.2.settled.available product = .ok level := hl
      refine ⟨level, ?_⟩
      dsimp only
      rw [hl']
      rfl
  | updatePrice id product price =>
    refine ensures_course_map rfl (ensures_ends_bind (Catalogue.ensures_withStore id _) ?_)
    intro a r' heval
    rw [Catalogue.eval_withStore] at heval
    cases h : r.decideChange id fun s => do return ((), ← s.updatePrice product price) with
    | error e =>
      rw [h] at heval
      cases heval
    | ok x =>
      rw [h] at heval
      cases heval
      obtain ⟨s, _, hx⟩ := Repositories.decideChange_unit_eq_ok h
      obtain ⟨p, hp⟩ := Store.product_of_updatePrice hx
      have hp' : x.2.settled.product product = .ok p := hp
      refine ⟨p, ?_⟩
      dsimp only
      rw [hp']
      rfl
  | deactivateProduct id product =>
    refine ensures_course_map rfl (ensures_ends_bind (Catalogue.ensures_withStore id _) ?_)
    exact fun a r' _ => ⟨(), rfl⟩
  | register email firstName lastName =>
    exact ensures_course_map rfl (Accounts.ensures_register email firstName lastName)
  | updateContact id phone address =>
    exact ensures_course_map rfl (Accounts.ensures_withCustomer id _)
  | redeemPoints id points => exact ensures_course_map rfl (Accounts.ensures_withCustomer id _)
  | deactivateCustomer id => exact ensures_course_map rfl (Accounts.ensures_withCustomer id _)
  | createOrder customerId storeId lines =>
    show Job.Ensures frail unit _ (Outcome.order <$> _) [] r
    rw [ensures_map]
    refine Ordering.ensures_createOrder (fun asked e h => .refused h) ?_
      fun hf asked e o s h => .stranded hf h
    intro asked o r' heval h
    refine .done (effect_of_eval ?_) h
    simp only [job, eval_map, heval]
    rfl
  | cancelOrder id reason =>
    show Job.Ensures frail unit _ (Outcome.cancellation <$> _) [] r
    rw [ensures_map]
    refine Ordering.ensures_cancelOrder (fun asked e h => .refused h) ?_
      fun hf asked before order failed h hn => .unreleased hf h hn
    intro asked c r' heval h
    refine .done (effect_of_eval ?_) h
    simp only [job, eval_map, heval]
    rfl
  | advanceOrder id transition =>
    exact ensures_course_map rfl (Ordering.ensures_advanceOrder id transition)

/-- If writing cannot fail, a command that is refused leaves everything as it was. -/
theorem Command.Course.of_error {command : Command} {asked : List Ask} {e : Error}
    (h : command.Course false unit supply r asked (.error e) r') :
    r' = r ∧ Rebuffed unit asked := by
  cases h with
  | refused h => exact ⟨rfl, h⟩
  | stranded hfrail => cases hfrail

/-- If writing cannot fail, a command that is not refused is done. -/
theorem Command.Course.of_ok {command : Command} {asked : List Ask} {outcome : Outcome}
    (h : command.Course false unit supply r asked (.ok outcome) r') :
    command.Effect supply r outcome r' ∧
      Accomplished unit (command.news supply r) asked r' := by
  cases h with
  | done heffect h => exact ⟨heffect, h⟩
  | unreleased hfrail => cases hfrail

end Commands

/-! ### A command in a backend -/

namespace Backend

variable {b : Backend}

/-- **A command in a backend without switches on takes one of the first two courses**, and no
unit of work is under way then that was not before. -/
theorem perform_course (hf : b.faults = .none) (supply : Supply) (command : Command) :
    command.Course false b.units.length supply b.repositories
        (Script.asked (command.job supply).run b) (b.perform (command.job supply)).1
        (b.perform (command.job supply)).2.repositories ∧
      UnitStage.Ended b.units (b.perform (command.job supply)).2.units :=
  Script.Ensures.run (Command.ensures_course command supply b.repositories)
    (Command.orderly command) hf

end Backend

end Storefront
