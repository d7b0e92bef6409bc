import Mathlib.Algebra.BigOperators.Group.Finset.Basic
import Mathlib.Algebra.BigOperators.Group.Finset.Piecewise
import Storefront.Proofs.Balance
import Storefront.Proofs.Crediting
import Storefront.Proofs.OrderLife
import Storefront.Proofs.Reckoning
import Storefront.Proofs.Serializability

/-! # Counters agree with what is kept

From the beginning, when nothing is kept and nothing has been counted, the tallies of all scripts
say what is kept and counted: of commands that come one after the other, each followed by what it
has to be told (`Backend.executeAll_reckoned`), and of commands and listeners that run together
(`Pool.Reckons.step`), where each has in hand what its charge says, under its lock.  When all have
come to their ends, what they have tallied up is determined by the results of the commands and by
what listeners have credited, and so the counters agree with what is kept
(`Backend.metrics_reconcile`).
-/
namespace Storefront

/-! ### Tallies of commands -/

/-- What commands tally up, given what has come of them. -/
def tallied (commands : List (Supply × Command)) (results : List (Except Error Outcome)) : Tally :=
  fun item => Backend.total (Command.tallyUp · item) commands results

theorem tallied_append {commands more : List (Supply × Command)}
    {results others : List (Except Error Outcome)} (h : results.length = commands.length) :
    tallied (commands ++ more) (results ++ others) =
      tallied commands results + tallied more others := by
  funext item
  show Backend.total _ _ _ = Backend.total _ _ _ + Backend.total _ _ _
  rw [Backend.total, List.map_append, List.zip_append (by rw [List.length_map, h]),
    List.map_append, List.sum_append]
  rfl

/-! ### One after the other -/

section Alone
variable {α : Type} {P : α → Tally → Prop} {new : Option CustomerId} {newOrder : Option OrderId}
  {charge : Charge} {c : Custody} {stage : UnitStage} {b : Backend} {t : Tally}

/-- **A script that nobody interrupts** has in the end tallied up what it should, and the tally has
gone along. -/
theorem Script.Tallies.run {s : Script α} (h : s.Tallies new P charge t)
    (hk : charge.Knows new b.repositories) (ht : s.Tends newOrder c) (hb : b.OrdersKept)
    (hc : c.Knows newOrder b) (ho : s.Orderly stage) (hu : stage.Holds b.units)
    (hbegun : b.faults.begun = false) (hkeyed : b.repositories.KeyedCustomers) :
    (s.run b).2.faults.begun = false ∧ (s.run b).2.repositories.KeyedCustomers ∧
      ∃ t', P (s.run b).1 t' ∧
        ∀ past, b.Reckoned (past + t) → (s.run b).2.Reckoned (past + t') := by
  induction s generalizing b charge c stage t with
  | done a => exact ⟨hbegun, hkeyed, t, h, fun _ hr => hr⟩
  | ask q next ih =>
    obtain ⟨charge', t', hnext, hpasses, hreckoned⟩ := h.answer hk ht hc ho hu hkeyed
    obtain ⟨c', hnextTends, htended⟩ := ht.answer hb hc
    obtain ⟨stage', hnextOrderly, hholds, -⟩ := ho.proceed hbegun hu
    obtain ⟨hlast, hlastKeyed, t'', hP, hrest⟩ := ih _ hnext hpasses.knows hnextTends
      htended.ordersKept htended.knows hnextOrderly hholds
      ((congrArg Faults.begun (b.faults_answer q)).trans hbegun) (Backend.keyed_answer hkeyed q)
    exact ⟨hlast, hlastKeyed, t'', hP, fun past hr => hrest past (hreckoned past hr)⟩

end Alone

namespace Backend

variable {b : Backend} {commands : List (Supply × Command)}

/-- What is on its way is credited and counted when it is delivered. -/
theorem deliverAll_reckoned (deliveries : List Delivery) {b : Backend} (hb : b.OrdersKept)
    (hbegun : b.faults.begun = false) (hkeyed : b.repositories.KeyedCustomers) :
    ∃ l : Tally, l.OfListener ∧
      ∀ past, b.Reckoned past → (b.deliverAll deliveries).Reckoned (past + l) := by
  induction deliveries generalizing b with
  | nil => exact ⟨0, .zero, fun _ hr => hr⟩
  | cons d rest ih =>
    have htallies : Script.Tallies .none (fun _ t => t.OfListener) .none 0
        (Loyalty.deliver d).run := by
      have h : Script.Tallies .none (fun _ t => t.OfListener) .none 0
          (id <$> Loyalty.deliver d).run := Loyalty.tallies_deliver d id
      rwa [id_map] at h
    have htends : Script.Tends .none .ended (Loyalty.deliver d).run :=
      Script.Asks.tends (Loyalty.leaves_deliver d)
    obtain ⟨hnext, hnextKeyed, l, hl, hone⟩ := htallies.run (b := b) nofun htends hb trivial
      (Loyalty.orderly_deliver d) trivial hbegun hkeyed
    obtain ⟨l', hl', hrest⟩ := ih (htends.run hb trivial).1 hnext hnextKeyed
    refine ⟨l + l', hl.add hl', fun past hr => ?_⟩
    rw [← add_assoc]
    refine hrest _ (hone past ?_)
    rwa [add_zero]

/-- **A command** tallies up what it should, and then what is delivered does. -/
theorem execute_reckoned (hb : b.OrdersKept) (hbegun : b.faults.begun = false)
    (hkeyed : b.repositories.KeyedCustomers) {supply : Supply}
    (hnewOrder : b.order? (supply.id .order) = none)
    (hnew : b.repositories.customers.get? (supply.id .customer) = none) (command : Command) :
    ∃ l : Tally, l.OfListener ∧ ∀ past, b.Reckoned past → (b.execute supply command).2.Reckoned
      (past + (Command.tallyUp (command, (b.execute supply command).1) + l)) := by
  have htends : Script.Tends (some (supply.id .order)) .none (command.job supply).run :=
    Command.tends command
  have hknows : Custody.none.Knows (some (supply.id .order)) b := by
    rintro id ⟨⟩
    exact hnewOrder
  obtain ⟨hnext, hnextKeyed, t, rfl, hone⟩ := (Command.tallies command).run (b := b)
    (by rintro id ⟨⟩; exact hnew) htends hb hknows (Command.orderly command) trivial hbegun hkeyed
  have hkept := (htends.run hb hknows).1
  obtain ⟨l, hl, hrest⟩ := deliverAll_reckoned
    (b := { (b.perform (command.job supply)).2 with deliveries := [] })
    (b.perform (command.job supply)).2.deliveries ⟨hkept.kept, hkept.told⟩ hnext hnextKeyed
  refine ⟨l, hl, fun past hr => ?_⟩
  rw [← add_assoc]
  have hperformed := hone past (by rwa [add_zero])
  exact hrest _ ⟨hperformed.counters, hperformed.families, hperformed.published, hperformed.placed,
    hperformed.cancelled, hperformed.points⟩

/-- In the beginning nothing is kept and nothing has been counted. -/
theorem reckoned_empty : empty.Reckoned 0 := by
  constructor <;> first | rfl | exact fun _ _ => rfl

/-- **What commands with new identifiers tally up one after the other**, with what listeners do. -/
theorem executeAll_reckoned (commands : List (Supply × Command)) (hfresh : Fresh commands) :
    ∃ l : Tally, l.OfListener ∧ (empty.executeAll commands).2.Reckoned
      (tallied commands (empty.executeAll commands).1 + l) := by
  induction commands using List.reverseRecOn with
  | nil => exact ⟨0, .zero, reckoned_empty⟩
  | append_singleton commands c ih =>
    obtain ⟨hcommands, hnew⟩ := fresh_snoc hfresh
    obtain ⟨hkept, hf⟩ := wellKept_of_run hcommands
    obtain ⟨l, hl, hbefore⟩ := ih hcommands
    obtain ⟨l', hl', hone⟩ := execute_reckoned (executeAll_ordersKept commands hcommands)
      (by rw [hf]; rfl) hkept.sound.customer (hkept.issued.order_eq_none hnew)
      (nobody_of_run hcommands hnew) c.2
    have hlast : tallied [c] ((empty.executeAll commands).2.executeAll [c]).1 =
        Command.tallyUp (c.2, ((empty.executeAll commands).2.execute c.1 c.2).1) := by
      funext item
      exact Nat.add_zero _
    refine ⟨l + l', hl.add hl', ?_⟩
    rw [executeAll_append]
    dsimp only
    rw [tallied_append (length_executeAll ..), hlast, add_add_add_comm]
    exact hone _ hbefore

end Backend

/-! ### Together -/

/-- The identifier under which a task of a pool may make a customer. -/
def newCustomer? (commands : List (Supply × Command)) (i : Nat) : Option CustomerId :=
  commands[i]?.map fun c => c.1.id .customer

/-- What a task of a pool has tallied up when it ends: a command what its result says, and a
listener what it has credited. -/
def Pool.Ends (commands : List (Supply × Command)) (i : Nat) (x : Except Error Outcome)
    (t : Tally) : Prop :=
  match commands[i]? with
  | some c => t = Command.tallyUp (c.2, x)
  | none => t.OfListener

/-- **Everybody tallies up what they do**, has in hand what their charge says, and holds the lock
for it; with what has been tallied up in the past, all the tallies say what is kept and counted. -/
structure Pool.Reckons (commands : List (Supply × Command)) (past : Tally) (p : Pool)
    (charge : Nat → Charge) (tally : Nat → Tally) : Prop where
  length : commands.length ≤ p.tasks.length
  keyed : p.backend.repositories.KeyedCustomers
  tallies : ∀ (i : Nat) (t : TaskScript), p.tasks[i]? = some t →
    t.Tallies (newCustomer? commands i) (Ends commands i) (charge i) (tally i)
  knows : ∀ i, (charge i).Knows (newCustomer? commands i) p.backend.repositories
  held : ∀ i key, (charge i).key? = some key → p.holder? key = some i
  absent : ∀ i, p.tasks[i]? = none → charge i = .none ∧ tally i = 0
  reckoned : p.backend.Reckoned (past + ∑ i ∈ Finset.range p.tasks.length, tally i)

namespace Pool

variable {p : Pool} {commands : List (Supply × Command)} {past : Tally} {charge : Nat → Charge}
  {tally : Nat → Tally} {custody : Nat → Custody} {unit : Nat → UnitStage}

/-- No two commands may make a customer under the same identifier. -/
theorem newCustomer?_ne (hfresh : Backend.Fresh commands) {i j : Nat} (hij : i ≠ j)
    {id : CustomerId} (hi : newCustomer? commands i = some id) :
    newCustomer? commands j ≠ some id := by
  intro hj
  obtain ⟨c, hc, rfl⟩ := Option.map_eq_some_iff.mp hi
  obtain ⟨d, hd, heq⟩ := Option.map_eq_some_iff.mp hj
  exact hij (Backend.place_of_fresh hfresh hc hd (congrArg Id.uuid heq).symm)

/-- A task has asked a question. -/
theorem Reckons.answered (h : p.Reckons commands past charge tally)
    (htended : p.Tended commands custody) (hunits : p.UnitsApart unit)
    (hfresh : Backend.Fresh commands) {i : Nat} {q : Ask} {next : q.Answer → TaskScript}
    {queue : List (Nat × LockKey)} (ht : p.tasks[i]? = some (.ask q next))
    (hgranted : ∀ key, q = .lock key → p.holder? key = some i)
    (hqueue : queue = p.queue ∨ ∃ key, q = .unlock key ∧ queue = p.queue.erase (i, key)) :
    ∃ charge' tally', (p.answered i q next queue).Reckons commands past charge' tally' := by
  obtain ⟨c, t, hnext, hpasses, hreckoned⟩ := (h.tallies i _ ht).answer (h.knows i)
    (htended.tends i _ ht) (htended.knows i) (hunits.orderly i _ ht) (hunits.holds i) h.keyed
  have hlength : (p.answered i q next queue).tasks.length = p.tasks.length := List.length_set ..
  have hi : i ∈ Finset.range p.tasks.length :=
    Finset.mem_range.mpr (List.getElem?_eq_some_iff.mp ht).1
  refine ⟨Function.update charge i c, Function.update tally i t, h.length.trans_eq hlength.symm,
    Backend.keyed_answer h.keyed q, fun j s hj => ?_, ?_, ?_, fun j hj => ?_, ?_⟩
  · rcases of_answered hj with ⟨rfl, rfl⟩ | ⟨hji, hj⟩
    · rw [Function.update_self, Function.update_self]
      exact hnext
    · rw [Function.update_of_ne hji, Function.update_of_ne hji]
      exact h.tallies j s hj
  · refine (Function.forall_update_iff charge
      (p := fun j d => d.Knows (newCustomer? commands j) _)).mpr ⟨hpasses.knows, fun j hj => ?_⟩
    refine hpasses.others _ _ ⟨fun id => newCustomer?_ne hfresh (Ne.symm hj), fun key hkey hkey' =>
      ?_⟩ (h.knows j)
    -- one lock is in one hand
    have hholder := h.held i key hkey
    rw [h.held j key hkey'] at hholder
    exact hj (Option.some.inj hholder)
  · refine (Function.forall_update_iff charge (p := fun j d => ∀ key, d.key? = some key →
      (p.answered i q next queue).holder? key = some j)).mpr ⟨fun key hkey => ?_,
        fun j hj key hkey => holder?_answered hqueue (Ne.symm hj) (h.held j key hkey)⟩
    refine holder?_answered_self hgranted hqueue ?_
    exact (hpasses.key key hkey).imp_right fun ⟨hkey, hkeep⟩ => ⟨h.held i key hkey, hkeep⟩
  · rw [answered_tasks_none] at hj
    have hji : j ≠ i := by
      rintro rfl
      rw [ht] at hj
      cases hj
    rw [Function.update_of_ne hji, Function.update_of_ne hji]
    exact h.absent j hj
  · rw [hlength, Finset.sum_update_of_mem hi, add_comm t, ← add_assoc]
    refine hreckoned _ ?_
    rw [add_assoc, ← Finset.erase_eq, Finset.sum_erase_add _ _ hi]
    exact h.reckoned

/-- A listener that is told of an event joins the pool. -/
theorem Reckons.deliverNext (h : p.Reckons commands past charge tally) :
    p.deliverNext.Reckons commands past charge tally := by
  unfold Pool.deliverNext
  cases p.backend.deliveries with
  | nil => exact h
  | cons d rest =>
    obtain ⟨hcharge, htally⟩ := h.absent p.tasks.length (List.getElem?_eq_none_iff.mpr le_rfl)
    refine ⟨?_, h.keyed, fun i t ht => ?_, h.knows, h.held, fun i hi => ?_, ?_⟩
    · rw [List.length_append]
      exact h.length.trans (Nat.le_add_right ..)
    · have ht : (p.tasks ++ [_])[i]? = some t := ht
      by_cases hi : i < p.tasks.length
      · rw [List.getElem?_append_left hi] at ht
        exact h.tallies i t ht
      · -- the listener comes behind all the commands
        have hi := Nat.not_lt.mp hi
        have hbeyond : commands[i]? = none := List.getElem?_eq_none_iff.mpr (h.length.trans hi)
        have hends : Ends commands i = fun _ t => t.OfListener := by
          unfold Ends
          rw [hbeyond]
        obtain ⟨hnothing, hzero⟩ := h.absent i (List.getElem?_eq_none_iff.mpr hi)
        rw [List.getElem?_append_right hi] at ht
        rw [List.mem_singleton.mp (List.mem_of_getElem? ht), hnothing, hzero, hends]
        exact Loyalty.tallies_deliver d _
    · have hi : (p.tasks ++ [_])[i]? = none := hi
      rw [List.getElem?_eq_none_iff, List.length_append] at hi
      exact h.absent i (List.getElem?_eq_none_iff.mpr (by omega))
    · rw [List.length_append, List.length_singleton, Finset.sum_range_succ, htally, add_zero]
      have hr := h.reckoned
      exact ⟨hr.counters, hr.families, hr.published, hr.placed, hr.cancelled, hr.points⟩

/-- **Every turn leaves the tallies as they should be.** -/
theorem Reckons.step (h : p.Reckons commands past charge tally)
    (htended : p.Tended commands custody) (hunits : p.UnitsApart unit)
    (hfresh : Backend.Fresh commands) (turn : Turn) :
    ∃ charge' tally', (p.step turn).Reckons commands past charge' tally' := by
  cases turn with
  | task i =>
    show ∃ charge' tally', (p.stepTask i).Reckons commands past charge' tally'
    rcases p.stepTask_cases i with hstep | ⟨key, hstep⟩ |
      ⟨q, next, queue, ht, hstep, hgranted, hqueue⟩
    · rw [hstep]
      exact ⟨charge, tally, h⟩
    · rw [hstep]
      exact ⟨charge, tally, h.length, h.keyed, h.tallies, h.knows, fun i key hkey =>
        holder?_append (h.held i key hkey) _, h.absent, h.reckoned⟩
    · rw [hstep]
      exact h.answered htended hunits hfresh ht hgranted hqueue
  | deliver => exact ⟨charge, tally, h.deliverNext⟩
  | faults faults =>
    have hr := h.reckoned
    exact ⟨charge, tally, h.length, h.keyed, h.tallies, h.knows, h.held, h.absent,
      ⟨hr.counters, hr.families, hr.published, hr.placed, hr.cancelled, hr.points⟩⟩

/-- Before anything has happened, nobody has anything in hand and nothing is tallied up. -/
theorem Reckons.start {b : Backend} (hkeyed : b.repositories.KeyedCustomers)
    (hnew : ∀ c ∈ commands, b.repositories.customers.get? (c.1.id .customer) = none)
    (hr : b.Reckoned past) :
    (Pool.start b commands).Reckons commands past (fun _ => .none) fun _ => 0 where
  length := (List.length_map ..).ge
  keyed := hkeyed
  tallies i t ht := by
    obtain ⟨supply, command, hi, rfl⟩ := of_start ht
    have hends : Ends commands i = fun x t => t = Command.tallyUp (command, x) := by
      unfold Ends
      rw [hi]
    rw [newCustomer?, hi, hends]
    exact Command.tallies command
  knows i id hid := by
    obtain ⟨c, hc, rfl⟩ := Option.map_eq_some_iff.mp hid
    exact hnew c (List.mem_of_getElem? hc)
  held _ _ := nofun
  absent _ _ := ⟨rfl, rfl⟩
  reckoned := by
    rw [Finset.sum_const_zero, add_zero]
    exact hr

/-- **So does every schedule.** -/
theorem Reckons.run (h : p.Reckons commands past charge tally)
    (htended : p.Tended commands custody) (hunits : p.UnitsApart unit)
    (hfresh : Backend.Fresh commands) {schedule : List Turn}
    (hs : ∀ turn ∈ schedule, turn.opensUnits = true) :
    ∃ charge' tally', (p.run schedule).Reckons commands past charge' tally' := by
  induction schedule generalizing p charge tally custody unit with
  | nil => exact ⟨charge, tally, h⟩
  | cons turn rest ih =>
    obtain ⟨charge', tally', hstep⟩ := h.step htended hunits hfresh turn
    obtain ⟨custody', hstepTended, -⟩ := htended.step hfresh turn
    obtain ⟨unit', hstepUnits⟩ := hunits.step (hs turn (List.mem_cons_self ..))
    exact ih hstep hstepTended hstepUnits fun t ht => hs t (List.mem_cons_of_mem _ ht)

/-- What all have tallied up, when they have come to their ends, is what the results of the commands
say, and what listeners have credited. -/
theorem Reckons.ends (h : p.Reckons commands past charge tally)
    (hdone : ∀ i < p.tasks.length, (p.result? i).isSome = true) :
    ∃ l : Tally, l.OfListener ∧ ∑ i ∈ Finset.range p.tasks.length, tally i =
      tallied commands (p.firstResults commands.length) + l := by
  have hends : ∀ i < p.tasks.length, ∃ x, p.result? i = some x ∧ Ends commands i x (tally i) := by
    intro i hi
    obtain ⟨x, hx⟩ := Option.isSome_iff_exists.mp (hdone i hi)
    exact ⟨x, hx, h.tallies i _ (outlook?_of_result hx).1⟩
  obtain ⟨listeners, hlength⟩ := Nat.exists_eq_add_of_le h.length
  refine ⟨∑ j ∈ Finset.range listeners, tally (commands.length + j), ?_, ?_⟩
  · refine Finset.sum_induction _ Tally.OfListener (fun _ _ => .add) .zero fun j hj => ?_
    have hj := Finset.mem_range.mp hj
    obtain ⟨x, -, hx⟩ := hends (commands.length + j) (by omega)
    unfold Ends at hx
    rwa [List.getElem?_eq_none_iff.mpr (Nat.le_add_right ..)] at hx
  · rw [hlength, Finset.sum_range_add]
    refine congrArg (· + _) (funext fun item => ?_)
    have htotal := total_pick (Command.tallyUp · item) commands p.result?
      (List.range commands.length) (fun i => List.mem_range.mp)
      fun i hi => hdone i (Nat.lt_of_lt_of_le (List.mem_range.mp hi) h.length)
    rw [pick_range] at htotal
    show _ = Backend.total _ _ _
    rw [firstResults, htotal, Finset.sum_apply]
    refine congrArg List.sum (List.map_congr_left fun i hi => ?_)
    have hi := List.mem_range.mp hi
    obtain ⟨x, hresult, hx⟩ := hends i (Nat.lt_of_lt_of_le hi h.length)
    unfold Ends at hx
    rw [List.getElem?_eq_getElem hi] at hx ⊢
    rw [hresult]
    exact congrFun hx item

end Pool

/-! ### Counters and what is kept -/

namespace Command

/-- The command is to place an order. -/
def createsOrder : Command → Bool
  | createOrder .. => true
  | _ => false

/-- The lines of an order that a cancellation has said it could not put back. -/
def unreleased : Command × Except Error Outcome → Nat
  | (.cancelOrder .., .ok (.cancellation c)) => c.failed.length
  | _ => 0

/-- How often a command has moved an order by a transition, once or not at all. -/
def moves (transition : OrderTransition) : Command × Except Error Outcome → Nat
  | (.advanceOrder _ t, .ok _) => if t = transition then 1 else 0
  | _ => 0

/-- The points that a command has redeemed. -/
def redeemed : Command × Except Error Outcome → Nat
  | (.redeemPoints _ points, .ok _) => points.toNat
  | _ => 0

end Command

/-- A tally in which the counters agree with what is done. -/
structure Tally.Agrees (t : Tally) (orders unreleased redeemed : Nat)
    (moves : OrderTransition → Nat) : Prop where
  created : t (.counter .ordersCreated) = t .placed
  handled : t (.counter .ordersCreated) + t (.family "orders_rejected_total") = orders
  cancelled : t (.counter .ordersCancelled) = t .cancelled
  unreleased : t (.counter .releaseFailures) = unreleased
  moved : ∀ transition, t (.counter (.orderTransitions transition)) = moves transition
  credited : t (.counter .pointsAwarded) = t .earned
  spent : t .spent = redeemed

namespace Tally

variable {t t' : Tally} {orders unreleased redeemed orders' unreleased' redeemed' : Nat}
  {moves moves' : OrderTransition → Nat}

theorem Agrees.add (h : t.Agrees orders unreleased redeemed moves)
    (h' : t'.Agrees orders' unreleased' redeemed' moves') :
    (t + t').Agrees (orders + orders') (unreleased + unreleased') (redeemed + redeemed')
      (moves + moves') where
  created := congrArg₂ (· + ·) h.created h'.created
  handled := by
    rw [← h.handled, ← h'.handled]
    exact add_add_add_comm ..
  cancelled := congrArg₂ (· + ·) h.cancelled h'.cancelled
  unreleased := congrArg₂ (· + ·) h.unreleased h'.unreleased
  moved transition := congrArg₂ (· + ·) (h.moved transition) (h'.moved transition)
  credited := congrArg₂ (· + ·) h.credited h'.credited
  spent := congrArg₂ (· + ·) h.spent h'.spent

/-- What a listener tallies up agrees by itself. -/
theorem OfListener.agrees (h : t.OfListener) : t.Agrees 0 0 0 0 := by
  obtain ⟨points, failures, rfl⟩ := h
  constructor <;> simp [counted, Counter.family]

end Tally

/-- **What a command tallies up agrees** with what has come of it. -/
theorem Command.tallyUp_agrees (x : Command × Except Error Outcome) :
    (tallyUp x).Agrees (if x.1.createsOrder then 1 else 0) (unreleased x) (redeemed x)
      (moves · x) := by
  obtain ⟨command, result⟩ := x
  cases command with
  | createOrder | advanceOrder | redeemPoints =>
    cases result with
    | error | ok =>
      constructor <;> simp [tallyUp, Tally.counted, Counter.family, Pi.single_apply, createsOrder,
        unreleased, moves, redeemed, eq_comm]
  | cancelOrder =>
    cases result with
    | error => constructor <;> simp [tallyUp, createsOrder, unreleased, moves, redeemed]
    | ok outcome =>
      cases outcome <;>
        constructor <;> simp [tallyUp, Tally.counted, Counter.family, createsOrder, unreleased,
          moves, redeemed]
  | _ => constructor <;> simp [tallyUp, createsOrder, unreleased, moves, redeemed]

/-- So does what many commands tally up. -/
theorem tallied_agrees {commands : List (Supply × Command)} {results : List (Except Error Outcome)}
    (h : results.length = commands.length) :
    (tallied commands results).Agrees (commands.countP fun c => c.2.createsOrder)
      (Backend.total Command.unreleased commands results)
      (Backend.total Command.redeemed commands results)
      fun transition => Backend.total (Command.moves transition) commands results := by
  induction commands generalizing results with
  | nil =>
    obtain rfl := List.length_eq_zero_iff.mp h
    exact ⟨rfl, rfl, rfl, rfl, fun _ => rfl, rfl, rfl⟩
  | cons c rest ih =>
    obtain ⟨supply, command⟩ := c
    cases results with
    | nil => cases h
    | cons x others =>
      have hboth := (Command.tallyUp_agrees (command, x)).add (ih (Nat.succ.inj h))
      have htallied : tallied ((supply, command) :: rest) (x :: others) =
          Command.tallyUp (command, x) + tallied rest others :=
        funext fun item => Backend.total_cons ..
      rw [htallied, List.countP_cons, Nat.add_comm (rest.countP _), Backend.total_cons,
        Backend.total_cons]
      refine ⟨hboth.created, hboth.handled, hboth.cancelled, hboth.unreleased, fun transition => ?_,
        hboth.credited, hboth.spent⟩
      rw [Backend.total_cons]
      exact hboth.moved transition

namespace Repositories

variable (r : Repositories)

theorem orderCount_eq : r.orderCount = r.orders.values.length := by
  simp [orderCount, Table.sum]

theorem cancelledCount_eq :
    r.cancelledCount = r.orders.values.countP fun o => o.status = .cancelled := by
  rw [List.countP_eq_length_filter]
  unfold cancelledCount Table.sum
  induction r.orders.values with
  | nil => rfl
  | cons o rest ih =>
    rw [List.map_cons, List.sum_cons, ih, List.filter_cons, Order.asCancelled]
    by_cases h : o.status = .cancelled
    · simp [h, Nat.add_comm]
    · simp [h]

end Repositories

/-- **The counters agree with what is kept**, and with what has come of commands. -/
structure Backend.Reconciled (b : Backend) (commands : List (Supply × Command))
    (results : List (Except Error Outcome)) : Prop where
  /-- Every order that is kept has been counted as created. -/
  created : b.metrics.value .ordersCreated = b.repositories.orders.values.length
  /-- Every command to place an order has been counted, as created or with the reason why it has
  been rejected. -/
  handled : b.metrics.value .ordersCreated + b.metrics.total "orders_rejected_total" =
    commands.countP fun c => c.2.createsOrder
  /-- Every order that is cancelled has been counted as such. -/
  cancelled : b.metrics.value .ordersCancelled =
    b.repositories.orders.values.countP fun o => o.status = .cancelled
  /-- Every line that a cancellation says it could not put back has been counted. -/
  unreleased : b.metrics.value .releaseFailures = total Command.unreleased commands results
  /-- Every command that has moved an order has been counted, with the transition. -/
  moved : ∀ transition, b.metrics.value (.orderTransitions transition) =
    total (Command.moves transition) commands results
  /-- Every event that has been handed to the publisher has been counted. -/
  published : b.metrics.total "events_published_total" = b.published.length
  /-- Every point that has been credited is on a balance or has been redeemed, and has been
  counted. -/
  points : b.metrics.value .pointsAwarded =
    (b.repositories.customers.values.map (·.loyaltyPoints.toNat)).sum +
      total Command.redeemed commands results

namespace Backend

variable {before commands : List (Supply × Command)}

/-- What is tallied up by commands and listeners agrees with what is kept. -/
theorem Reckoned.reconciled {b : Backend} {l : Tally} {results : List (Except Error Outcome)}
    (h : b.Reckoned (tallied commands results + l)) (hl : l.OfListener)
    (hlength : results.length = commands.length) : b.Reconciled commands results := by
  have hagrees := (tallied_agrees hlength).add hl.agrees
  have hcreated := h.counters .ordersCreated (by decide)
  refine ⟨?_, ?_, ?_, ?_, fun transition => ?_, h.published, ?_⟩
  · rw [hcreated, hagrees.created, ← h.placed, Repositories.orderCount_eq]
  · rw [hcreated, h.families _ (by decide), hagrees.handled]
    rfl
  · rw [h.counters _ (by decide), hagrees.cancelled, ← h.cancelled, Repositories.cancelledCount_eq]
  · rw [h.counters _ (by decide), hagrees.unreleased]
    rfl
  · rw [h.counters _ (by cases transition <;> decide), hagrees.moved]
    rfl
  · rw [h.counters _ (by decide), hagrees.credited, ← h.points, hagrees.spent]
    rfl

/-- **The counters agree with what is kept, whatever has been done.**  Let commands with new
identifiers come one after the other, and then let more commands run together; let their questions
be asked in whatever order, events be delivered in between or not, and reads, writes and publishing
fail at times.  When all the commands and all the listeners that have been told of an event have
come to their ends, every counter shows what there is to be counted. -/
theorem metrics_reconcile (before commands : List (Supply × Command))
    (schedule : List Pool.Turn) (hfresh : Fresh (before ++ commands))
    (hopen : ∀ turn ∈ schedule, turn.opensUnits = true) :
    let p := (Pool.start (empty.executeAll before).2 commands).run schedule
    (∀ i < p.tasks.length, (p.result? i).isSome = true) →
      p.backend.Reconciled (before ++ commands)
        ((empty.executeAll before).1 ++ p.firstResults commands.length) := by
  intro p hdone
  have hboth := hfresh
  rw [Fresh, List.map_append, List.nodup_append] at hboth
  obtain ⟨hbefore, hcommands, hdisjoint⟩ := hboth
  obtain ⟨hkept, hf⟩ := wellKept_of_run hbefore
  have hnew : ∀ c ∈ commands, c.1.uuid 0 ∉ before.map fun c => c.1.uuid 0 := fun c hc hm =>
    hdisjoint _ hm _ (List.mem_map.mpr ⟨c, hc, rfl⟩) rfl
  have hnobody : ∀ c ∈ commands,
      (empty.executeAll before).2.repositories.customers.get? (c.1.id .customer) = none :=
    fun c hc => nobody_of_run hbefore (hnew c hc)
  obtain ⟨l, hl, hpast⟩ := executeAll_reckoned before hbefore
  have htended : (Pool.start (empty.executeAll before).2 commands).Tended commands _ :=
    .start (executeAll_ordersKept before hbefore) fun c hc =>
      hkept.issued.order_eq_none (hnew c hc)
  have hunits := Pool.UnitsApart.start (b := (empty.executeAll before).2) (by rw [hf]; rfl) commands
  obtain ⟨charge, tally, h⟩ := (Pool.Reckons.start hkept.sound.customer hnobody hpast).run htended
    hunits hcommands hopen
  obtain ⟨l', hl', hsum⟩ := h.ends hdone
  have hreckoned := h.reckoned
  rw [hsum, add_add_add_comm, ← tallied_append (length_executeAll ..)] at hreckoned
  refine hreckoned.reconciled (hl.add hl') ?_
  rw [List.length_append, List.length_append, length_executeAll,
    Pool.length_firstResults fun i hi => hdone i (Nat.lt_of_lt_of_le hi h.length)]

/-- Before the bustle one order is placed, for two apples and a pear. -/
def beforeBustle : List (Supply × Command) := Sample.numbered (Sample.opening ++ [Sample.fruit 2 1])

/-- Ann spends points, and orders more pears than there are, and an apple, while the order is to be
prepared and then is cancelled. -/
def bustle : List (Supply × Command) := [
  (Supply.nth 7, .redeemPoints Sample.ann 3),
  (Supply.nth 8, .createOrder Sample.ann Sample.shop [⟨Sample.pear, 9⟩]),
  (Supply.nth 9, .advanceOrder (Sample.order 6) .startPreparing),
  (Supply.nth 10, .cancelOrder (Sample.order 6) "late"),
  (Supply.nth 11, .createOrder Sample.ann Sample.shop [⟨Sample.apple, 1⟩])]

/-- Stores cannot be written while the order is cancelled. -/
def bustleTurns : List Pool.Turn :=
  (List.replicate 8 [.task 2, .task 0, .task 1]).flatten ++ Pool.rounds 5 3 ++
    [.faults { saveStores := true }] ++ List.replicate 14 (.task 3) ++ [.faults .none] ++
      Pool.rounds 5 20 ++ [.deliver] ++ Pool.rounds 6 10

/-- Of three orders, one is rejected and one is cancelled, with two lines that cannot be put
back. -/
theorem metrics_reconcile_bustle :
    let p := (Pool.start (empty.executeAll beforeBustle).2 bustle).run bustleTurns
    [p.backend.metrics.value .ordersCreated, p.backend.metrics.total "orders_rejected_total",
        p.backend.metrics.value .ordersCancelled, p.backend.metrics.value .releaseFailures,
        p.backend.metrics.value (.orderTransitions .startPreparing),
        p.backend.metrics.total "events_published_total",
        p.backend.metrics.value .pointsAwarded] = [2, 1, 1, 2, 1, 16, 6] ∧
      p.backend.Reconciled (beforeBustle ++ bustle)
        ((empty.executeAll beforeBustle).1 ++ p.firstResults bustle.length) :=
  ⟨by decide +kernel, metrics_reconcile beforeBustle bustle bustleTurns (by decide +kernel)
    (by decide +kernel) (by decide +kernel)⟩

end Backend

end Storefront
