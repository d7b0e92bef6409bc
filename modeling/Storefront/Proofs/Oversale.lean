import Storefront.Proofs.Conservation
import Storefront.Proofs.Course
import Storefront.Proofs.Undoing

/-! # Never oversold, even when writing fails

Every write of a store or an order may fail, at any point of any command, and whoever asked for
the command may try again.  What saves the balance is the order of the writes.  Placing an order
writes the store first: if the order cannot be written, stock has left for nobody.  Cancelling
an order writes the order first: if the store cannot be written, the stock of the order is lost.
So the balance of `Command.Effect.balance` can only tip to one side, on which less stock is on
sale or with orders than was ever added (`Command.Course.no_oversale`), and an order that has
been cancelled cannot be cancelled again to have its stock put back a second time
(`Command.Course.cancel_flow`).
-/
namespace Storefront

/-! ### One command -/

section Step
variable {used : List Uuid} {frail : Bool} {unit : Nat} {supply : Supply} {r r' : Repositories}
  {command : Command} {asked : List Ask} {x : Except Error Outcome}

/-- An order that is placed leaves its store with the same catalogue, and with less stock. -/
theorem Repositories.WellKept.of_stranded (hr : r.WellKept used) {customerId : CustomerId}
    {storeId : StoreId} {lines : List RequestedLine} {o : Order} {s' : Store}
    (h : r.decideOrder supply customerId storeId lines = .ok (o, s')) :
    (r.saveStore s').WellKept used ∧ ∀ store product,
      (r.saveStore s').stockOf store product ≤ r.stockOf store product := by
  obtain ⟨_, s, hs, _, hcat, hstock⟩ :=
    Repositories.decideOrder_eq_ok (fun s hs => (hr.sound.store _ s hs).2) h
  refine ⟨hr.overwrite_sameCatalogue hs hcat, fun store product => ?_⟩
  have hid := hcat.id_eq.trans (hr.sound.store _ _ hs).1
  have hover := Repositories.stockOf_overwrite store hs hid _ 0 (hstock product)
  rw [ite_self] at hover
  omega

/-- An order that is cancelled is kept with its store and its lines, and takes no stock. -/
theorem Repositories.WellKept.of_unreleased (hr : r.WellKept used) {id : OrderId}
    {reason : String} {before order : Order}
    (h : r.decideCancel id reason = .ok (before, order)) :
    (r.saveOrder order).WellKept used ∧ ∀ store product,
      (r.saveOrder order).taken store product ≤ r.taken store product := by
  obtain ⟨hbefore, hcancel⟩ := Repositories.decideCancel_eq_ok_iff.mp h
  obtain ⟨_, he⟩ := Order.cancel_eq_ok_iff.mp hcancel
  have hid : order.id = before.id := by rw [he]
  have hstore : order.storeId = before.storeId := by rw [he]
  have hlines : order.lines = before.lines := by rw [he]
  have hstatus : order.status = .cancelled := by rw [he]
  refine ⟨hr.move_order hbefore hid hstore hlines ?_, fun store product => ?_⟩
  · rw [hstatus]
    exact OrderStatus.noConfusion
  · have htaken := Repositories.taken_overwrite hr.sound store product hbefore hid
    have hgone : order.takenFrom store product = 0 := by
      simp [Order.takenFrom, hstatus, OrderStatus.takesStock]
    omega

/-- **Whatever course a command takes, it leaves everything well kept.** -/
theorem Command.Course.wellKept (h : command.Course frail unit supply r asked x r')
    (hr : r.WellKept used) (hfresh : supply.uuid 0 ∉ used) :
    r'.WellKept (supply.uuid 0 :: used) := by
  have hr' : r.WellKept (supply.uuid 0 :: used) :=
    ⟨hr.sound, hr.issued.mono fun u hu => List.mem_cons_of_mem _ hu⟩
  cases h with
  | refused _ => exact hr'
  | done heffect _ => exact heffect.wellKept hr hfresh
  | stranded _ h => exact (hr'.of_stranded h).1
  | unreleased _ h _ => exact (hr'.of_unreleased h).1

/-- **Whatever course a command takes, it does not oversell**: what is in stock or has left with
orders grows by no more than what the command says it has added. -/
theorem Command.Course.no_oversale (h : command.Course frail unit supply r asked x r')
    (hr : r.WellKept used) (hfresh : supply.uuid 0 ∉ used) (store : StoreId)
    (product : ProductId) :
    r'.stockOf store product + r'.taken store product ≤
      r.stockOf store product + r.taken store product +
        restocked store product (command, x) := by
  cases h with
  | refused _ => exact Nat.le_add_right ..
  | done heffect _ =>
    have hbalance := heffect.balance hr hfresh store product
    omega
  | @stranded customerId storeId lines _ e o s _ h =>
    have hless := (hr.of_stranded h).2 store product
    have hsame : (r.saveStore s).taken store product = r.taken store product := rfl
    omega
  | @unreleased id reason _ before order failed _ h _ =>
    have hless := (hr.of_unreleased h).2 store product
    have hsame : (r.saveOrder order).stockOf store product = r.stockOf store product := rfl
    omega

/-- **Whatever course a command takes, an order is cancelled once**, and stays cancelled. -/
theorem Command.Course.cancel_flow (h : command.Course frail unit supply r asked x r')
    (hr : r.WellKept used) (hfresh : supply.uuid 0 ∉ used) (id : OrderId) :
    r'.cancelled id = r.cancelled id + cancels id (command, x) := by
  cases h with
  | refused _ => cases command <;> rfl
  | done heffect _ => exact heffect.cancel_flow hr hfresh id
  | stranded _ _ => rfl
  | unreleased _ h _ =>
    obtain ⟨hbefore, hcancel⟩ := Repositories.decideCancel_eq_ok_iff.mp h
    exact cancelled_of_cancel hr.sound hbefore hcancel id

/-- What a cancellation puts back was on the order. -/
theorem Command.Effect.returned_le {id : OrderId} {reason : String} {outcome : Outcome}
    (h : (Command.cancelOrder id reason).Effect supply r outcome r') (hr : r.WellKept used)
    {o : Order} (ho : r.orders.get? id = some o) (store : StoreId) (product : ProductId) :
    returned store product (.cancelOrder id reason, .ok outcome) ≤
      if o.storeId = store then o.quantityOf product else 0 := by
  cases h with
  | cancelOrder h hn =>
    simp [returned]
  | @cancelReserved _ _ before order released failed news r' h hn hb =>
    obtain ⟨hbefore, hcancel⟩ := Repositories.decideCancel_eq_ok_iff.mp h
    rw [ho] at hbefore
    cases hbefore
    obtain ⟨_, he⟩ := Order.cancel_eq_ok_iff.mp hcancel
    have hstore : order.storeId = o.storeId := by rw [he]
    have hlines : order.quantityOf product = o.quantityOf product := by
      rw [Order.quantityOf, Order.quantityOf, he]
    obtain ⟨_, _, hsplit⟩ :=
      Repositories.putBack_flow (hr.sound.cancel ho hcancel) order store product
    rw [hb, hlines] at hsplit
    dsimp only at hsplit
    show (if order.storeId = store then tally product (released.map Release.entry) else 0) ≤ _
    rw [hstore]
    split <;> omega

end Step

/-! ### Trials -/

/-- A command that is to be carried out under a plan for writing to fail. -/
structure Trial where
  supply : Supply
  command : Command
  plan : Nat → Outage

/-- The command of a trial, with its supply. -/
def Trial.call (t : Trial) : Supply × Command := (t.supply, t.command)

namespace Backend

variable {b : Backend} {used : List Uuid}

/-- Carries a command out under its plan, and delivers what it published. -/
def executeUnder (b : Backend) (t : Trial) : Except Error Outcome × Backend :=
  let (result, b) := Script.runUnder (t.command.job t.supply).run t.plan b
  (result, b.settle)

/-- Carries commands out under their plans, one after the other, and gives what came of each of
them. -/
def attemptAll (b : Backend) : List Trial → List (Except Error Outcome) × Backend
  | [] => ([], b)
  | t :: rest =>
    let (result, b) := b.executeUnder t
    let (results, b) := b.attemptAll rest
    (result :: results, b)

theorem attemptAll_cons (b : Backend) (t : Trial) (rest : List Trial) :
    b.attemptAll (t :: rest) =
      ((b.executeUnder t).1 :: ((b.executeUnder t).2.attemptAll rest).1,
        ((b.executeUnder t).2.attemptAll rest).2) := rfl

/-- If no write fails, a trial carries its command out. -/
theorem executeUnder_none (hf : b.faults = .none) (supply : Supply) (command : Command) :
    b.executeUnder ⟨supply, command, fun _ => .none⟩ = b.execute supply command := by
  have hrun := (Script.runUnder_none (command.job supply).run hf).1
  have hfaults := (perform_eq_eval hf supply command).2.2
  unfold executeUnder execute
  rw [hrun]
  unfold perform at hfaults ⊢
  generalize Script.run (command.job supply).run b = ended at hfaults ⊢
  obtain ⟨result, r, units, published, deliveries, metrics, faults⟩ := ended
  obtain rfl : faults = .none := hfaults
  rfl

/-- **What a trial does where everything is well kept**: its command takes its course, but for
what is delivered then. -/
theorem executeUnder_spec (hf : b.faults = .none) (hb : b.repositories.WellKept used) (t : Trial)
    (hfresh : t.supply.uuid 0 ∉ used) :
    (∃ asked r', t.command.Course true b.units.length t.supply b.repositories asked
        (b.executeUnder t).1 r' ∧ r'.Aside (b.executeUnder t).2.repositories) ∧
      (b.executeUnder t).2.repositories.WellKept (t.supply.uuid 0 :: used) ∧
      (b.executeUnder t).2.faults = .none := by
  obtain ⟨hcourse, _, hfaults⟩ := Script.Ensures.runUnder
    (t.command.ensures_course t.supply b.repositories) t.command.orderly hf t.plan
      (fun _ _ => rfl)
  have hkept := hcourse.wellKept hb hfresh
  -- deliveries come after the command, and concern customers alone
  have hsettle := aside_settle hkept.sound.customer
  have haside : Repositories.Aside _ (b.executeUnder t).2.repositories :=
    ⟨hsettle.stores, hsettle.orders, hsettle.activity⟩
  exact ⟨⟨_, _, hcourse, haside⟩, hkept.of_aside haside (hsettle.keyed hkept.sound.customer),
    hsettle.faults.trans hfaults⟩

/-- **What no trial exceeds, no run exceeds in total.**  Both quantities must not depend on
customers. -/
theorem attemptAll_flow {f g : Repositories → Nat}
    {gain loss : Command × Except Error Outcome → Nat}
    (hstep : ∀ (used : List Uuid) (supply : Supply) (unit : Nat) (r r' : Repositories)
      (command : Command) (asked : List Ask) (x : Except Error Outcome), r.WellKept used →
        supply.uuid 0 ∉ used → command.Course true unit supply r asked x r' →
          f r' + g r + loss (command, x) ≤ f r + g r' + gain (command, x))
    (haside : ∀ r r' : Repositories, r.Aside r' → f r' = f r ∧ g r' = g r)
    (trials : List Trial) (hf : b.faults = .none) (hb : b.repositories.WellKept used)
    (hfresh : Fresh (trials.map Trial.call))
    (hnew : ∀ c ∈ trials.map Trial.call, c.1.uuid 0 ∉ used) :
    f (b.attemptAll trials).2.repositories + g b.repositories +
        total loss (trials.map Trial.call) (b.attemptAll trials).1 ≤
      f b.repositories + g (b.attemptAll trials).2.repositories +
        total gain (trials.map Trial.call) (b.attemptAll trials).1 := by
  induction trials generalizing b used with
  | nil => exact Nat.le_refl _
  | cons t rest ih =>
    have hone : t.supply.uuid 0 ∉ used := hnew _ (List.mem_cons_self ..)
    obtain ⟨⟨asked, r', hcourse, ha⟩, hkept, hfaults⟩ := executeUnder_spec hf hb t hone
    have hrest := ih hfaults hkept (List.nodup_cons.mp hfresh).2 (new_of_cons hfresh hnew)
    have hthis := hstep used t.supply b.units.length _ _ _ _ _ hb hone hcourse
    obtain ⟨hfa, hga⟩ := haside _ _ ha
    rw [← hfa, ← hga] at hthis
    rw [attemptAll_cons, List.map_cons]
    dsimp only [Trial.call]
    rw [total_cons, total_cons]
    omega

/-- A run of trials with new identifiers leaves everything well kept. -/
theorem attemptAll_wellKept (trials : List Trial) (hf : b.faults = .none)
    (hb : b.repositories.WellKept used) (hfresh : Fresh (trials.map Trial.call))
    (hnew : ∀ c ∈ trials.map Trial.call, c.1.uuid 0 ∉ used) :
    (b.attemptAll trials).2.repositories.WellKept
        (((trials.map Trial.call).map fun c => c.1.uuid 0) ++ used) ∧
      (b.attemptAll trials).2.faults = .none := by
  induction trials generalizing b used with
  | nil => exact ⟨hb, hf⟩
  | cons t rest ih =>
    obtain ⟨_, hkept, hfaults⟩ := executeUnder_spec hf hb t (hnew _ (List.mem_cons_self ..))
    obtain ⟨hall, hnone⟩ := ih hfaults hkept (List.nodup_cons.mp hfresh).2
      (new_of_cons hfresh hnew)
    refine ⟨⟨hall.sound, hall.issued.mono fun u hu => ?_⟩, hnone⟩
    simp only [List.mem_append, List.mem_cons, List.map_cons, List.cons_append] at hu ⊢
    rcases hu with hu | hu | hu
    · exact .inr (.inl hu)
    · exact .inl hu
    · exact .inr (.inr hu)

/-- **In a run of trials, nothing is oversold.** -/
theorem attemptAll_no_oversale (trials : List Trial) (hfresh : Fresh (trials.map Trial.call))
    (store : StoreId) (product : ProductId) :
    (empty.attemptAll trials).2.repositories.stockOf store product +
        (empty.attemptAll trials).2.repositories.taken store product ≤
      total (restocked store product) (trials.map Trial.call) (empty.attemptAll trials).1 := by
  have hflow : ((empty.attemptAll trials).2.repositories.stockOf store product +
        (empty.attemptAll trials).2.repositories.taken store product) + 0 +
          total (fun _ => 0) (trials.map Trial.call) (empty.attemptAll trials).1 ≤
      0 + 0 + total (restocked store product) (trials.map Trial.call)
        (empty.attemptAll trials).1 := by
    refine attemptAll_flow (b := empty) (g := fun _ => 0)
      (f := fun r => r.stockOf store product + r.taken store product) ?_ ?_ trials rfl
      wellKept_empty hfresh fun _ _ => List.not_mem_nil
    · intro used supply unit r r' command asked x hr hone hcourse
      exact hcourse.no_oversale hr hone store product
    · intro r r' ha
      refine ⟨?_, rfl⟩
      show r'.stockOf store product + r'.taken store product = _
      rw [Repositories.stockOf, Repositories.taken, ha.stores, ha.orders]
      rfl
  omega

/-- **In a run of trials, an order is cancelled at most once.** -/
theorem attemptAll_cancels_le_one (trials : List Trial)
    (hfresh : Fresh (trials.map Trial.call)) (id : OrderId) :
    total (cancels id) (trials.map Trial.call) (empty.attemptAll trials).1 ≤ 1 := by
  have hflow : 0 + 0 + total (cancels id) (trials.map Trial.call) (empty.attemptAll trials).1 ≤
      0 + (empty.attemptAll trials).2.repositories.cancelled id +
        total (fun _ => 0) (trials.map Trial.call) (empty.attemptAll trials).1 := by
    refine attemptAll_flow (b := empty) (f := fun _ => 0) (g := fun r => r.cancelled id) ?_ ?_
      trials rfl wellKept_empty hfresh fun _ _ => List.not_mem_nil
    · intro used supply unit r r' command asked x hr hone hcourse
      have hcancel := hcourse.cancel_flow hr hone id
      omega
    · intro r r' ha
      refine ⟨rfl, ?_⟩
      rw [Repositories.cancelled, Repositories.cancelled, ha.orders]
  have hnone : total (fun _ => 0) (trials.map Trial.call) (empty.attemptAll trials).1 = 0 := by
    refine List.sum_eq_zero_iff_forall_eq_nat.mpr fun n hn => ?_
    obtain ⟨_, _, rfl⟩ := List.mem_map.mp hn
    rfl
  have hle := (empty.attemptAll trials).2.repositories.cancelled_le_one id
  omega

/-! ### Never oversold -/

/-- How a command that is carried out under a plan treats stock: only a cancellation puts any
back, just as much as it says and no more than the order had, and one that is refused leaves
stores and orders as they were. -/
structure StockSafe (b : Backend) (t : Trial) : Prop where
  others : (∀ id reason, t.command ≠ .cancelOrder id reason) → ∀ store product,
    (b.executeUnder t).2.repositories.stockOf store product ≤
      b.repositories.stockOf store product +
        restocked store product (t.command, (b.executeUnder t).1)
  cancelled : ∀ id reason, t.command = .cancelOrder id reason → ∀ store product,
    (b.executeUnder t).2.repositories.stockOf store product =
        b.repositories.stockOf store product +
          returned store product (t.command, (b.executeUnder t).1) ∧
      ∀ o, b.repositories.orders.get? id = some o →
        returned store product (t.command, (b.executeUnder t).1) ≤
          if o.storeId = store then o.quantityOf product else 0
  refused : ∀ id reason e, t.command = .cancelOrder id reason → (b.executeUnder t).1 = .error e →
    (b.executeUnder t).2.repositories.stores = b.repositories.stores ∧
      (b.executeUnder t).2.repositories.orders = b.repositories.orders

/-- **Whatever its plan is, a trial treats stock with care.** -/
theorem stockSafe (hf : b.faults = .none) (hb : b.repositories.WellKept used) (t : Trial)
    (hfresh : t.supply.uuid 0 ∉ used) : b.StockSafe t := by
  obtain ⟨⟨asked, r', hcourse, ha⟩, _, _⟩ := executeUnder_spec hf hb t hfresh
  have hstock : ∀ store product, (b.executeUnder t).2.repositories.stockOf store product =
      r'.stockOf store product := by
    intro store product
    rw [Repositories.stockOf, Repositories.stockOf, ha.stores]
  obtain ⟨supply, command, plan⟩ := t
  generalize hx : (b.executeUnder ⟨supply, command, plan⟩).1 = x at hcourse
  refine ⟨fun hother store product => ?_, fun id reason hc store product => ?_,
    fun id reason e hc he => ?_⟩
  · rw [hstock, hx]
    dsimp only at hother hcourse hfresh ⊢
    cases hcourse with
    | refused _ => exact Nat.le_add_right ..
    | @done _ _ outcome _ heffect _ =>
      have hflow := heffect.stock_flow hb hfresh store product
      have hnothing : returned store product (command, .ok outcome) = 0 := by
        cases command with
        | cancelOrder id reason => exact absurd rfl (hother id reason)
        | _ => rfl
      omega
    | stranded _ h => exact Nat.le_add_right_of_le ((hb.of_stranded h).2 store product)
    | @unreleased id reason _ _ _ _ _ _ _ => exact absurd rfl (hother id reason)
  · obtain rfl : command = .cancelOrder id reason := hc
    rw [hstock, hx]
    dsimp only at hcourse hfresh ⊢
    cases hcourse with
    | refused _ => exact ⟨rfl, fun _ _ => Nat.zero_le _⟩
    | @done _ _ outcome _ heffect _ =>
      have hflow := heffect.stock_flow hb hfresh store product
      exact ⟨by simpa [withdrawn, restocked] using hflow,
        fun o ho => heffect.returned_le hb ho store product⟩
    | unreleased _ _ _ => simp [returned]; rfl
  · obtain rfl : command = .cancelOrder id reason := hc
    rw [hx] at he
    subst he
    cases hcourse with
    | refused _ => exact ⟨ha.stores, ha.orders⟩

/-- **Nothing is ever oversold.**  Let writes of stores and orders fail at will, in any run of
commands from the beginning, repeated or not.  What is available of a product and what has left
with orders that are confirmed, in preparation, ready or completed never comes to more than what
was added and reported as added; no order is cancelled twice; and every command treats stock
with care. -/
theorem never_oversold (trials : List Trial) (hfresh : Fresh (trials.map Trial.call)) :
    (∀ store s product p,
      (empty.attemptAll trials).2.repositories.stores.get? store = some s →
        s.product product = .ok p → ∃ level, s.available product = .ok level ∧
          level.toNat + (empty.attemptAll trials).2.repositories.taken store product ≤
            total (restocked store product) (trials.map Trial.call)
              (empty.attemptAll trials).1) ∧
      (∀ id, total (cancels id) (trials.map Trial.call) (empty.attemptAll trials).1 ≤ 1) ∧
      ∀ before t after, trials = before ++ t :: after →
        (empty.attemptAll before).2.StockSafe t := by
  have hnew : ∀ c ∈ trials.map Trial.call, c.1.uuid 0 ∉ ([] : List Uuid) :=
    fun _ _ => List.not_mem_nil
  obtain ⟨hkept, _⟩ := attemptAll_wellKept trials rfl wellKept_empty hfresh hnew
  refine ⟨fun store s product p hs hp => ?_, fun id => ?_, fun before t after htrials => ?_⟩
  · have hflow := attemptAll_no_oversale trials hfresh store product
    have hget : s.products.get? product = some p := by
      unfold Store.product at hp
      split at hp
      · cases hp
        assumption
      · cases hp
    obtain ⟨level, hlevel⟩ := (hkept.sound.store _ _ hs).2.level hget
    refine ⟨level, Store.available_eq_ok_iff.mpr hlevel, ?_⟩
    rwa [Repositories.stockOf_eq hs, Store.stock_of_level hlevel] at hflow
  · exact attemptAll_cancels_le_one trials hfresh id
  · subst htrials
    rw [List.map_append, List.map_cons] at hfresh
    obtain ⟨hbefore, hone, _, _⟩ := fresh_cut hfresh
    obtain ⟨hkept, hfaults⟩ := attemptAll_wellKept before rfl wellKept_empty hbefore
      fun _ _ => List.not_mem_nil
    rw [List.append_nil] at hkept
    exact stockSafe hfaults hkept t hone

/-- Two apples are sold, but the order cannot be written: they are stranded.  Three more are
sold, and cannot be put back when the order is cancelled, since the store cannot be written just
then; the second attempt to cancel the order is refused. -/
def Sample.mishaps : List Trial :=
  ((Sample.numbered Sample.opening).map fun c => ⟨c.1, c.2, fun _ => .none⟩) ++ [
    ⟨.nth 6, Sample.fruit 2 1, fun _ => { orders := true }⟩,
    ⟨.nth 7, Sample.fruit 3 1, fun _ => .none⟩,
    ⟨.nth 8, .cancelOrder (Sample.order 7) "late", fun _ => { stores := true }⟩,
    ⟨.nth 9, .cancelOrder (Sample.order 7) "late", fun _ => .none⟩]

theorem never_oversold_mishaps :
    (∃ s p level,
      (empty.attemptAll Sample.mishaps).2.repositories.stores.get? Sample.shop = some s ∧
        s.product Sample.apple = .ok p ∧ s.available Sample.apple = .ok level ∧
          level.toNat + (empty.attemptAll Sample.mishaps).2.repositories.taken Sample.shop
            Sample.apple ≤ 10) ∧
      total (cancels (Sample.order 7)) (Sample.mishaps.map Trial.call)
        (empty.attemptAll Sample.mishaps).1 = 1 ∧
      (empty.attemptAll (Sample.mishaps.take 8)).2.StockSafe
        ⟨.nth 8, .cancelOrder (Sample.order 7) "late", fun _ => { stores := true }⟩ := by
  obtain ⟨hlevel, honce, hsafe⟩ := never_oversold Sample.mishaps (by decide +kernel)
  have hsome : (((empty.attemptAll Sample.mishaps).2.repositories.stores.get? Sample.shop).bind
      fun s => (s.product Sample.apple).toOption).isSome = true := by decide +kernel
  have hten : total (restocked Sample.shop Sample.apple) (Sample.mishaps.map Trial.call)
      (empty.attemptAll Sample.mishaps).1 = 10 := by decide +kernel
  have hcancelled : 1 ≤ total (cancels (Sample.order 7)) (Sample.mishaps.map Trial.call)
      (empty.attemptAll Sample.mishaps).1 := by decide +kernel
  refine ⟨?_, Nat.le_antisymm (honce _) hcancelled, hsafe _ _ (Sample.mishaps.drop 9) rfl⟩
  cases hs : (empty.attemptAll Sample.mishaps).2.repositories.stores.get? Sample.shop with
  | none =>
    rw [hs] at hsome
    cases hsome
  | some s =>
    cases hp : s.product Sample.apple with
    | error e =>
      rw [hs, Option.bind_some, hp] at hsome
      cases hsome
    | ok p =>
      obtain ⟨level, havailable, hle⟩ := hlevel _ s _ p hs hp
      rw [hten] at hle
      exact ⟨s, p, level, rfl, hp, havailable, hle⟩

end Backend

end Storefront
