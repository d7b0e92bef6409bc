import Storefront.Proofs.Backlog
import Storefront.Proofs.Serializability

/-! # Listeners among commands

While commands for stores and orders run together, the events that they publish may be handed to the
listener at any turn, and it then is one more task of the pool.  It reads a customer and keeps
them again under the lock of the customer, so that nobody comes in between (`Pool.Listens`).  Hence
every turn keeps the accounts: what the balances have grown by, what is on its way and what
listeners have in hand add up to what the commands have told (`Pool.Accrues.step`).  When all
tasks have come to their ends, nothing is in any hand any more (`Pool.run_accrues`).
-/
namespace Storefront

open Job

/-! ### Sums over tasks -/

/-- What so many tasks come to for a customer. -/
def sumUpTo (f : Nat → CustomerId → Nat) (n : Nat) (id : CustomerId) : Nat :=
  ((List.range n).map (f · id)).sum

section Sums
variable {f : Nat → CustomerId → Nat} {i n : Nat}

theorem sumUpTo_succ (f : Nat → CustomerId → Nat) (n : Nat) (id : CustomerId) :
    sumUpTo f (n + 1) id = sumUpTo f n id + f n id := by
  simp [sumUpTo, List.range_succ]

theorem sumUpTo_eq_zero {id : CustomerId} (h : ∀ i < n, f i id = 0) : sumUpTo f n id = 0 := by
  rw [sumUpTo, List.sum_eq_zero_iff_forall_eq_nat]
  intro m hm
  obtain ⟨i, hi, rfl⟩ := List.mem_map.mp hm
  exact h i (List.mem_range.mp hi)

theorem sumUpTo_update_of_le (h : n ≤ i) (due : CustomerId → Nat) (id : CustomerId) :
    sumUpTo (Function.update f i due) n id = sumUpTo f n id := by
  refine congrArg List.sum (List.map_congr_left fun j hj => ?_)
  rw [Function.update_of_ne (by have := List.mem_range.mp hj; omega)]

/-- Another value at one place makes the difference between the values. -/
theorem sumUpTo_update (h : i < n) (due : CustomerId → Nat) (id : CustomerId) :
    sumUpTo (Function.update f i due) n id + f i id = sumUpTo f n id + due id := by
  induction n with
  | zero => cases h
  | succ n ih =>
    rw [sumUpTo_succ, sumUpTo_succ]
    rcases Nat.lt_or_ge i n with hlt | hge
    · rw [Function.update_of_ne (Nat.ne_of_gt hlt)]
      have := ih hlt
      omega
    · obtain rfl : i = n := Nat.le_antisymm (Nat.le_of_lt_succ h) hge
      rw [sumUpTo_update_of_le (Nat.le_refl i), Function.update_self]
      omega

theorem le_sumUpTo (h : i < n) (id : CustomerId) : f i id ≤ sumUpTo f n id := by
  have hnone := sumUpTo_update (f := f) h (fun _ => 0) id
  omega

end Sums

/-! ### The listener -/

/-- The question gives a lock back, or counts something that is no failure. -/
def Ask.Parting : Ask → Prop
  | .unlock _ => True
  | .count (.handlerFailures _) _ => False
  | .count .. => True
  | _ => False

theorem Ask.Parting.countsNoFailure {q : Ask} (h : q.Parting) : q.CountsNoFailure := by
  cases q with
  | count c n => cases c <;> trivial
  | _ => trivial

theorem Ask.Parting.repositories {q : Ask} (h : q.Parting) (b : Backend) :
    (b.answer q).2.repositories = b.repositories := by
  cases q with
  | unlock | count => rfl
  | _ => exact h.elim

/-- A script to which points can be credited once it is told who the customer is: it keeps the
customer with the points, and then has nothing more to do with customers. -/
def Script.Credits (id : CustomerId) (points : Nat) (next : Except Error Customer → TaskScript) :
    Prop :=
  ∀ c : Customer, c.id = id → c.CanEarn points → ∃ c' after,
    next (.ok c) = .ask (.saveCustomer c') after ∧ c'.id = c.id ∧ c'.email = c.email ∧
      c'.settled = c.earn points ∧ (after (.ok ())).Asks Ask.Parting

/-- **Crediting**, if there are points, reads the customer under their lock and then can credit
them. -/
theorem Loyalty.credit_andThen (p : Payload) {k : Except Error Unit → TaskScript}
    (hk : (k (.ok ())).Asks Ask.Parting) :
    (∀ id, p.award id = 0) ∧ ((credit p).andThen k).Asks Ask.Parting ∨
      ∃ id next, p.award id ≠ 0 ∧ (credit p).andThen k =
        .ask (.lock (.customer id)) (fun _ => .ask (.findCustomer id) next) ∧
          Script.Credits id (p.award id) next := by
  rcases credit_cases p with ⟨hnothing, heq⟩ | ⟨id, points, hp, haward, heq⟩
  · rw [heq]
    exact .inl ⟨hnothing, hk⟩
  · rw [heq]
    refine .inr ⟨id, _, ?_, andThen_withLock .., fun c hid hcan => ?_⟩
    · rw [haward]
      exact fun h => hp (UInt32.toNat_inj.mp h)
    rw [haward] at hcan ⊢
    obtain ⟨c', hadd, hsettled⟩ := Customer.addPoints_of_canEarn hp hcan
    obtain ⟨hcid, hemail, _⟩ := c.earn_fields points.toNat
    show ∃ c' after, ((do
      let customer ← c.addPoints points
      saveCustomer customer
      perform (.count .pointsAwarded points.toNat) : Job Unit).andThen fun x =>
        .ask (.unlock (.customer id)) fun _ => k x) = _ ∧ _
    rw [hadd]
    refine ⟨c', _, rfl, ?_, ?_, hsettled, trivial, fun _ => ⟨trivial, fun _ => hk⟩⟩
    · rw [← hcid, ← hsettled]
      rfl
    · rw [← hemail, ← hsettled]
      rfl

/-- **A delivery** has nothing to credit, or begins by asking for the lock of the customer. -/
theorem Loyalty.deliver_cases (d : Delivery) :
    let s : TaskScript := ((fun _ => Outcome.nothing) <$> deliver d : Job Outcome).run
    (∀ id, d.payload.award id = 0) ∧ s.Asks Ask.Parting ∨
      ∃ id next, d.payload.award id ≠ 0 ∧
        s = .ask (.lock (.customer id)) (fun _ => .ask (.findCustomer id) next) ∧
          Script.Credits id (d.payload.award id) next := by
  intro s
  obtain ⟨⟨⟩, p⟩ := d
  obtain ⟨k, hs, hk⟩ : ∃ k : Except Error Unit → TaskScript,
      s = (credit p).andThen k ∧ (k (.ok ())).Asks Ask.Parting := by
    show ∃ k, ExceptT.run _ = _ ∧ _
    rw [← andThen_done, map_eq_pure_bind, andThen_bind]
    unfold deliver
    rw [andThen_bind, andThen_attempt]
    exact ⟨_, rfl, trivial⟩
  rw [hs]
  exact credit_andThen p hk

/-! ### One listener in a pool -/

/-- **How far a listener has come** with the points that are due: it waits for the lock of the
customer; or it holds the lock and is about to read the customer, or to keep them again with the
points, and what it has read of them is what is kept; or it is done with them. -/
inductive Pool.Listens (p : Pool) (j : Nat) (due : CustomerId → Nat) : TaskScript → Prop where
  | waiting {event id next} (hdue : ∀ k, due k = Payload.award k event) (hp : event.award id ≠ 0)
      (h : Script.Credits id (event.award id) next) :
      Listens p j due (.ask (.lock (.customer id)) fun _ => .ask (.findCustomer id) next)
  | locked {event id next} (hdue : ∀ k, due k = Payload.award k event) (hp : event.award id ≠ 0)
      (h : Script.Credits id (event.award id) next)
      (hlock : p.holder? (.customer id) = some j) :
      Listens p j due (.ask (.findCustomer id) next)
  | ready {event id c c' after} (hdue : ∀ k, due k = Payload.award k event)
      (hp : event.award id ≠ 0) (hlock : p.holder? (.customer id) = some j)
      (hget : p.backend.repositories.customers.get? id = some c)
      (hid : c'.id = c.id) (hemail : c'.email = c.email)
      (hsettled : c'.settled = c.earn (event.award id))
      (h : (after (.ok ())).Asks Ask.Parting) : Listens p j due (.ask (.saveCustomer c') after)
  | parting {t} (hdue : ∀ k, due k = 0) (h : t.Asks Ask.Parting) : Listens p j due t

namespace Pool

variable {p p' : Pool} {b : Backend} {n : Nat} {told : CustomerId → Nat}
  {due : Nat → CustomerId → Nat}

/-- Whoever else does something, a listener goes on from where it was, if it keeps its lock and
the customer is not kept again by others. -/
theorem Listens.of_same {j : Nat} {due : CustomerId → Nat} {t : TaskScript} (h : p.Listens j due t)
    (hlock : ∀ key, p.holder? key = some j → p'.holder? key = some j)
    (hget : ∀ id, p.holder? (.customer id) = some j →
      p'.backend.repositories.customers.get? id = p.backend.repositories.customers.get? id) :
    p'.Listens j due t := by
  cases h with
  | waiting hdue hp h => exact .waiting hdue hp h
  | locked hdue hp h hl => exact .locked hdue hp h (hlock _ hl)
  | ready hdue hp hl hg hid hemail hsettled h =>
    exact .ready hdue hp (hlock _ hl) ((hget _ hl).trans hg) hid hemail hsettled h
  | parting hdue h => exact .parting hdue h

/-! ### The accounts -/

/-- **The accounts of a pool**, since it began with a backend and so many commands.  What the
balances have grown by, what is on its way and what listeners have in hand add up to what has
been told; no account has been closed, and no listener has failed. -/
structure Accounts (b : Backend) (n : Nat) (p : Pool) (told : CustomerId → Nat)
    (due : Nat → CustomerId → Nat) : Prop where
  clientele : p.backend.repositories.Clientele
  activity : p.backend.repositories.activity = b.repositories.activity
  failures : p.backend.failures = b.failures
  grown : ∀ id, b.repositories.balance id ≤ p.backend.repositories.balance id
  books : ∀ id, p.backend.repositories.balance id + p.backend.backlog id +
    sumUpTo due p.tasks.length id = b.repositories.balance id + told id
  commands : ∀ i < n, ∀ id, due i id = 0
  listens : ∀ j t, n ≤ j → p.tasks[j]? = some t → p.Listens j (due j) t

/-- A command has asked a question: what it has told is on its way. -/
theorem Accounts.answered (h : p.Accounts b n told due) (hf : p.backend.faults.publish = false)
    {i : Nat} {q : Ask} {next : q.Answer → TaskScript} {queue : List (Nat × LockKey)} (hi : i < n)
    (hq : q.LeavesAccounts)
    (hqueue : queue = p.queue ∨ ∃ key, q = .unlock key ∧ queue = p.queue.erase (i, key)) :
    (p.answered i q next queue).Accounts b n (fun id => told id + awards id q.told) due := by
  have hcustomers : (p.backend.answer q).2.repositories.customers =
      p.backend.repositories.customers := (p.backend.answer_writes q).customers hq
  have hbalance := Repositories.balance_congr hcustomers
  refine ⟨h.clientele.of_eq hcustomers,
    (Repositories.activity_congr hcustomers).trans h.activity,
    (Backend.failures_answer hq.countsNoFailure).trans h.failures, fun id => ?_, fun id => ?_,
    h.commands, ?_⟩
  · exact Nat.le_trans (h.grown id) (Nat.le_of_eq (congrFun hbalance id).symm)
  · have hbooks := h.books id
    have hbacklog := Backend.backlog_answer hf q id
    show (p.backend.answer q).2.repositories.balance id + (p.backend.answer q).2.backlog id +
      sumUpTo due (p.tasks.set i _).length id = _
    rw [List.length_set, hbalance, hbacklog]
    omega
  · intro j t hj ht
    have hne : i ≠ j := by omega
    have ht : (p.tasks.set i (next (p.backend.answer q).1))[j]? = some t := ht
    rw [List.getElem?_set_ne hne] at ht
    exact (h.listens j t hj ht).of_same (fun key => holder?_answered hqueue hne)
      fun id _ => congrArg (Table.get? · id) hcustomers

/-- The listener is told of an event: what is due for it is in its hands now. -/
theorem Accounts.deliverNext (h : p.Accounts b n told due) (hn : n ≤ p.tasks.length) :
    ∃ due', p.deliverNext.Accounts b n told due' := by
  unfold Pool.deliverNext
  cases hd : p.backend.deliveries with
  | nil => exact ⟨due, h⟩
  | cons d rest =>
    refine ⟨Function.update due p.tasks.length (d.payload.award ·), h.clientele, h.activity,
      h.failures, h.grown, fun id => ?_, fun i hi id => ?_, fun j t hj ht => ?_⟩
    · have hbooks := h.books id
      have hbacklog : p.backend.backlog id =
          d.payload.award id + awards id (rest.map Delivery.payload) := by
        rw [Backend.backlog, hd]
        rfl
      show p.backend.repositories.balance id + awards id (rest.map Delivery.payload) +
        sumUpTo _ (p.tasks ++ [_]).length id = _
      rw [List.length_append, List.length_singleton, sumUpTo_succ, Function.update_self,
        sumUpTo_update_of_le (Nat.le_refl _)]
      omega
    · rw [Function.update_of_ne (by omega)]
      exact h.commands i hi id
    · have ht : (p.tasks ++ [_])[j]? = some t := ht
      rcases Nat.lt_or_ge j p.tasks.length with hlt | hge
      · rw [List.getElem?_append_left hlt] at ht
        rw [Function.update_of_ne (Nat.ne_of_lt hlt)]
        exact (h.listens j t hj ht).of_same (fun _ hk => hk) fun _ _ => rfl
      · -- the new task
        have hlast : j = p.tasks.length := by
          have hbound := (List.getElem?_eq_some_iff.mp ht).1
          rw [List.length_append, List.length_singleton] at hbound
          omega
        subst hlast
        rw [List.getElem?_concat_length] at ht
        cases ht
        rw [Function.update_self]
        rcases Loyalty.deliver_cases d with ⟨hnone, hparting⟩ | ⟨id, next, hp, hs, hcredits⟩
        · exact .parting hnone hparting
        · rw [hs]
          exact .waiting (fun _ => rfl) hp hcredits

/-- A task has queued for a lock. -/
theorem Accounts.enqueue (h : p.Accounts b n told due) (request : Nat × LockKey) :
    { p with queue := p.queue ++ [request] }.Accounts b n told due :=
  ⟨h.clientele, h.activity, h.failures, h.grown, h.books, h.commands, fun j t hj ht =>
    (h.listens j t hj ht).of_same (fun _ hk => holder?_append hk request) fun _ _ => rfl⟩

section Listener
variable {j : Nat} {q : Ask} {next : q.Answer → TaskScript} {queue : List (Nat × LockKey)}

/-- A listener has gone on.  What has been credited is no longer in its hands, and nobody else is
concerned. -/
theorem Accounts.move (h : p.Accounts b n told due) (hj : n ≤ j) (hlt : j < p.tasks.length)
    (hqueue : queue = p.queue ∨ ∃ key, q = .unlock key ∧ queue = p.queue.erase (j, key))
    (hq : q.CountsNoFailure) (hsilent : q.told = []) (hf : p.backend.faults.publish = false)
    {rest : CustomerId → Nat} (hclientele : (p.backend.answer q).2.repositories.Clientele)
    (hactivity : (p.backend.answer q).2.repositories.activity = p.backend.repositories.activity)
    (hgrown : ∀ id, p.backend.repositories.balance id ≤
      (p.backend.answer q).2.repositories.balance id)
    (hrest : ∀ id, (p.backend.answer q).2.repositories.balance id + rest id =
      p.backend.repositories.balance id + due j id)
    (hothers : ∀ i id, j ≠ i → p.holder? (.customer id) = some i →
      (p.backend.answer q).2.repositories.customers.get? id =
        p.backend.repositories.customers.get? id)
    (hthis : (p.answered j q next queue).Listens j rest (next (p.backend.answer q).1)) :
    (p.answered j q next queue).Accounts b n told (Function.update due j rest) := by
  refine ⟨hclientele, hactivity.trans h.activity, (Backend.failures_answer hq).trans h.failures,
    fun id => Nat.le_trans (h.grown id) (hgrown id), fun id => ?_, fun i hi id => ?_, ?_⟩
  · have hbooks := h.books id
    have hbacklog := Backend.backlog_answer hf q id
    have hsum := sumUpTo_update (f := due) hlt rest id
    have hbalance := hrest id
    rw [hsilent, awards_nil] at hbacklog
    show (p.backend.answer q).2.repositories.balance id + (p.backend.answer q).2.backlog id +
      sumUpTo _ (p.tasks.set j _).length id = _
    rw [List.length_set]
    omega
  · rw [Function.update_of_ne (by omega)]
    exact h.commands i hi id
  · intro i t hi ht
    have ht : (p.tasks.set j (next (p.backend.answer q).1))[i]? = some t := ht
    by_cases hij : i = j
    · subst hij
      rw [List.getElem?_set_self hlt] at ht
      cases ht
      rw [Function.update_self]
      exact hthis
    · rw [List.getElem?_set_ne (Ne.symm hij)] at ht
      rw [Function.update_of_ne hij]
      exact (h.listens i t hi ht).of_same (fun key => holder?_answered hqueue (Ne.symm hij))
        fun id => hothers i id (Ne.symm hij)

/-- What listeners have in hand there is room for, if there is room for all that has been told. -/
theorem Accounts.roomFor (h : p.Accounts b n told due) (hroom : b.repositories.RoomFor told)
    (hlt : j < p.tasks.length) : p.backend.repositories.RoomFor (due j) := by
  refine hroom.rest h.activity h.grown fun id => ?_
  have hbooks := h.books id
  have hle := le_sumUpTo (f := due) hlt id
  omega

/-- **A listener that keeps the customer again** credits what it has in hand.  Nobody else who holds
the lock of a customer is concerned. -/
theorem Accounts.credited (h : p.Accounts b n told due) (hroom : b.repositories.RoomFor told)
    (hf : p.backend.faults = .none) (hj : n ≤ j) (hlt : j < p.tasks.length) {event : Payload}
    {id : CustomerId} {c c' : Customer} {after : Except Error Unit → TaskScript}
    (hqueue : queue = p.queue ∨
      ∃ key, Ask.saveCustomer c' = .unlock key ∧ queue = p.queue.erase (j, key))
    (hdue : ∀ k, due j k = event.award k) (hp : event.award id ≠ 0)
    (hlock : p.holder? (.customer id) = some j)
    (hget : p.backend.repositories.customers.get? id = some c) (hid : c'.id = c.id)
    (hemail : c'.email = c.email) (hsettled : c'.settled = c.earn (event.award id))
    (hparting : (after (.ok ())).Asks Ask.Parting) :
    (p.answered j (.saveCustomer c') after queue).Accounts b n told
      (Function.update due j fun _ => 0) := by
  have hthere := h.roomFor hroom hlt
  obtain ⟨hactive, hfits⟩ := hthere id (by rw [hdue]; exact hp)
  rw [Repositories.activity_eq hget] at hactive
  rw [Repositories.balance_eq hget, hdue] at hfits
  have hcid : c'.id = id := hid.trans (h.clientele.keyed id c hget)
  have hkept := h.clientele.saveCustomer hget hcid hemail
  rw [hcid, hsettled] at hkept
  have hsaved : p.backend.answer (.saveCustomer c') = (.ok (), _) :=
    Backend.perform_saveCustomer hf hkept
  have hcredits := Backend.Credits.credited hp hget ⟨Option.some.inj hactive, hfits⟩
  have hearned := (hcredits.of_roomFor (hthere.mono fun k => Nat.le_of_eq (hdue k).symm)).2
  refine h.move hj hlt hqueue trivial rfl (by rw [hf]; rfl) ?_ ?_ (fun k => ?_) (fun k => ?_)
    (fun i k hij hk => ?_) ?_
  · rw [hsaved]
    exact hcredits.clientele h.clientele
  · rw [hsaved]
    exact hcredits.activity
  · rw [hsaved]
    exact Nat.le.intro (hearned k).symm
  · rw [hsaved, hdue]
    exact hearned k
  · -- nobody else holds the lock of the customer
    have hne : k ≠ id := by
      rintro rfl
      rw [hlock] at hk
      exact hij (Option.some.inj hk)
    rw [hsaved]
    exact Table.get?_insert_of_ne _ hne _
  · rw [hsaved]
    exact .parting (fun _ => rfl) hparting

/-- **A listener has asked a question.**  As it holds the lock of the customer, what it has read of
them is still what is kept when it keeps them again. -/
theorem Accounts.listened (h : p.Accounts b n told due) (hroom : b.repositories.RoomFor told)
    (hf : p.backend.faults = .none) (hj : n ≤ j) (ht : p.tasks[j]? = some (.ask q next))
    (hgranted : ∀ key, q = .lock key → p.holder? key = some j)
    (hqueue : queue = p.queue ∨ ∃ key, q = .unlock key ∧ queue = p.queue.erase (j, key)) :
    ∃ due', (p.answered j q next queue).Accounts b n told due' := by
  have hlt := (List.getElem?_eq_some_iff.mp ht).1
  have hpublish : p.backend.faults.publish = false := by rw [hf]; rfl
  have hlisten := h.listens j _ hj ht
  -- whoever keeps their place in the queue is where they were
  have hkeep : ∀ key, (∀ k, q ≠ .unlock k) → p.holder? key = some j →
      (p.answered j q next queue).holder? key = some j := by
    intro key hq hk
    rcases hqueue with rfl | ⟨k, hk', _⟩
    · exact hk
    · exact absurd hk' (hq k)
  cases hlisten with
  | @waiting event id next hdue hp hcredits =>
    refine ⟨_, h.move hj hlt hqueue trivial rfl hpublish h.clientele rfl (fun _ => Nat.le_refl _)
      (fun _ => rfl) (fun _ _ _ _ => rfl) ?_⟩
    exact .locked hdue hp hcredits (hkeep _ (fun _ => Ask.noConfusion) (hgranted _ rfl))
  | @locked event id next hdue hp hcredits hlock =>
    obtain ⟨hactive, hfits⟩ := h.roomFor hroom hlt id (by rw [hdue]; exact hp)
    obtain ⟨c, hget, ha⟩ := Option.map_eq_some_iff.mp hactive
    rw [Repositories.balance_eq hget, hdue] at hfits
    obtain ⟨c', after, hnext, hid, hemail, hsettled, hparting⟩ :=
      hcredits c (h.clientele.keyed id c hget) ⟨ha, hfits⟩
    have hfound : p.backend.answer (.findCustomer id) = (.ok c, p.backend) := by
      refine (Backend.perform_findCustomer hf id).trans ?_
      rw [Repositories.findCustomer, hget]
    refine ⟨_, h.move hj hlt hqueue trivial rfl hpublish h.clientele rfl (fun _ => Nat.le_refl _)
      (fun _ => rfl) (fun _ _ _ _ => rfl) ?_⟩
    rw [hfound, hnext]
    exact .ready hdue hp (hkeep _ (fun _ => Ask.noConfusion) hlock) hget hid hemail hsettled hparting
  | ready hdue hp hlock hget hid hemail hsettled hparting =>
    exact ⟨_, h.credited hroom hf hj hlt hqueue hdue hp hlock hget hid hemail hsettled hparting⟩
  | parting hdue hparting =>
    have hrepos := hparting.1.repositories p.backend
    refine ⟨_, h.move hj hlt hqueue hparting.1.countsNoFailure ?_ hpublish (hrepos ▸ h.clientele)
      (by rw [hrepos]) (fun _ => by rw [hrepos]) (fun _ => by rw [hrepos])
      (fun _ _ _ _ => by rw [hrepos]) (.parting hdue (hparting.2 _))⟩
    cases q with
    | publish => exact hparting.1.elim
    | _ => rfl

end Listener

/-! ### Commands and listeners -/

/-- **What the commands of a pool have told so far**, one by one.  If there is room for all of it,
the accounts of the pool are in order. -/
structure Accrues (b : Backend) (commands : List (Supply × Command)) (p : Pool)
    (told : Nat → CustomerId → Nat) : Prop where
  faults : p.backend.faults = .none
  settled : p.backend.repositories.OrdersSettled
  length : commands.length ≤ p.tasks.length
  leaves : ∀ i < commands.length, ∀ t, p.tasks[i]? = some t → Script.Asks Ask.LeavesAccounts t
  tells : ∀ (i : Nat) (t : TaskScript) (supply : Supply) (command : Command),
    p.tasks[i]? = some t → commands[i]? = some (supply, command) →
      ∀ id, t.Tells id (fun x m => m = Command.earns id (command, x)) (told i id)
  accounts : b.repositories.RoomFor (sumUpTo told commands.length) →
    ∃ due, p.Accounts b commands.length (sumUpTo told commands.length) due

variable {commands : List (Supply × Command)} {told : Nat → CustomerId → Nat}

/-- Before anything has happened, nobody has told anything. -/
theorem Accrues.start (hf : b.faults = .none) (hb : b.repositories.OrdersSettled)
    (hc : b.repositories.Clientele) (hd : b.deliveries = [])
    (hkind : ∀ c ∈ commands, c.2.ofCustomers = false) :
    (Pool.start b commands).Accrues b commands fun _ _ => 0 where
  faults := hf
  settled := hb
  length := Nat.le_of_eq (List.length_map ..).symm
  leaves := fun i _ t ht => by
    obtain ⟨c, hc, rfl⟩ := List.mem_map.mp (List.mem_of_getElem? ht)
    exact Command.leavesAccounts (hkind c hc)
  tells := fun i t supply command ht hi id => by
    have ht : (commands.map fun c => (c.2.job c.1).run)[i]? = some t := ht
    rw [List.getElem?_map, hi] at ht
    cases ht
    exact Command.tells command
  accounts := fun _ => by
    have hnothing : ∀ n id, sumUpTo (fun _ _ => 0) n id = 0 := fun n id =>
      sumUpTo_eq_zero fun _ _ => rfl
    refine ⟨fun _ _ => 0, hc, rfl, rfl, fun _ => Nat.le_refl _, fun id => ?_, fun _ _ _ => rfl,
      fun j t hj ht => ?_⟩
    · rw [hnothing, hnothing, Backend.backlog]
      show _ + awards id (b.deliveries.map Delivery.payload) + 0 = _
      rw [hd]
      rfl
    · -- there are no other tasks yet
      have hlt := (List.getElem?_eq_some_iff.mp ht).1
      have hlength : (Pool.start b commands).tasks.length = commands.length := List.length_map ..
      omega

/-- **A task has asked a question.** -/
theorem Accrues.answered (h : p.Accrues b commands told) {i : Nat} {q : Ask}
    {next : q.Answer → TaskScript} {queue : List (Nat × LockKey)}
    (ht : p.tasks[i]? = some (.ask q next))
    (hgranted : ∀ key, q = .lock key → p.holder? key = some i)
    (hqueue : queue = p.queue ∨ ∃ key, q = .unlock key ∧ queue = p.queue.erase (i, key)) :
    ∃ told', (p.answered i q next queue).Accrues b commands told' := by
  have hlt := (List.getElem?_eq_some_iff.mp ht).1
  have hfaults := (Backend.faults_answer (b := p.backend) q).trans h.faults
  have hsettled := Backend.answer_ordersSettled h.settled q
  have hlength : commands.length ≤ (p.answered i q next queue).tasks.length :=
    Nat.le_trans h.length (Nat.le_of_eq (List.length_set ..).symm)
  -- other tasks are where they were
  have hother : ∀ k t, k ≠ i → (p.answered i q next queue).tasks[k]? = some t →
      p.tasks[k]? = some t := by
    intro k t hk ht
    rw [← ht]
    exact (List.getElem?_set_ne (Ne.symm hk)).symm
  have hself : (p.answered i q next queue).tasks[i]? = some (next (p.backend.answer q).1) :=
    List.getElem?_set_self hlt
  rcases Nat.lt_or_ge i commands.length with hi | hi
  · obtain ⟨hq, hnext⟩ := h.leaves i hi _ ht
    have htold : ∀ id, sumUpTo (Function.update told i fun id => told i id + awards id q.told)
        commands.length id = sumUpTo told commands.length id + awards id q.told := by
      intro id
      have hsum := sumUpTo_update (f := told) hi (fun id => told i id + awards id q.told) id
      omega
    refine ⟨Function.update told i fun id => told i id + awards id q.told, hfaults, hsettled,
      hlength, fun k hk t hkt => ?_, fun k t supply command hkt hc id => ?_, fun hroom => ?_⟩
    · by_cases hki : k = i
      · subst hki
        cases hself.symm.trans hkt
        exact hnext _
      · exact h.leaves k hk t (hother k t hki hkt)
    · by_cases hki : k = i
      · subst hki
        cases hself.symm.trans hkt
        rw [Function.update_self]
        exact (h.tells k _ supply command ht hc id).answer h.settled
      · rw [Function.update_of_ne hki]
        exact h.tells k t supply command (hother k t hki hkt) hc id
    · have hless := hroom.mono fun id => Nat.le.intro (htold id).symm
      obtain ⟨due, haccounts⟩ := h.accounts hless
      have hpublish : p.backend.faults.publish = false := by rw [h.faults]; rfl
      rw [funext htold]
      exact ⟨due, haccounts.answered hpublish hi hq hqueue⟩
  · refine ⟨told, hfaults, hsettled, hlength, fun k hk t hkt => ?_,
      fun k t supply command hkt hc id => ?_, fun hroom => ?_⟩
    · exact h.leaves k hk t (hother k t (by omega) hkt)
    · have hk := (List.getElem?_eq_some_iff.mp hc).1
      exact h.tells k t supply command (hother k t (by omega) hkt) hc id
    · obtain ⟨due, haccounts⟩ := h.accounts hroom
      exact haccounts.listened hroom h.faults hi ht hgranted hqueue

/-- The listener is told of an event: no command is concerned. -/
theorem Accrues.deliverNext (h : p.Accrues b commands told) :
    p.deliverNext.Accrues b commands told := by
  have hold : ∀ i < commands.length, p.deliverNext.tasks[i]? = p.tasks[i]? := by
    intro i hi
    unfold Pool.deliverNext
    cases p.backend.deliveries with
    | nil => rfl
    | cons d rest => exact List.getElem?_append_left (Nat.lt_of_lt_of_le hi h.length)
  obtain ⟨hfaults, hrepos, hlength⟩ : p.deliverNext.backend.faults = p.backend.faults ∧
      p.deliverNext.backend.repositories = p.backend.repositories ∧
        p.tasks.length ≤ p.deliverNext.tasks.length := by
    unfold Pool.deliverNext
    cases p.backend.deliveries with
    | nil => exact ⟨rfl, rfl, Nat.le_refl _⟩
    | cons d rest => exact ⟨rfl, rfl, by simp⟩
  refine ⟨hfaults.trans h.faults, ?_, Nat.le_trans h.length hlength,
    fun i hi t ht => h.leaves i hi t ((hold i hi).symm.trans ht),
    fun i t supply command ht hc => ?_, fun hroom => ?_⟩
  · rw [hrepos]
    exact h.settled
  · have hi := (List.getElem?_eq_some_iff.mp hc).1
    exact h.tells i t supply command ((hold i hi).symm.trans ht) hc
  · obtain ⟨due, haccounts⟩ := h.accounts hroom
    exact haccounts.deliverNext h.length

/-- **Every turn** leaves it known what has been told. -/
theorem Accrues.step (h : p.Accrues b commands told) {turn : Turn} (hturn : turn.ofTasks = true) :
    ∃ told', (p.step turn).Accrues b commands told' := by
  cases turn with
  | task i =>
    rcases p.stepTask_cases i with hstep | ⟨key, hstep⟩ |
      ⟨q, next, queue, ht, hstep, hgranted, hqueue⟩
    · rw [Pool.step, hstep]
      exact ⟨told, h⟩
    · rw [Pool.step, hstep]
      refine ⟨told, h.faults, h.settled, h.length, h.leaves, h.tells, fun hroom => ?_⟩
      obtain ⟨due, haccounts⟩ := h.accounts hroom
      exact ⟨due, haccounts.enqueue (i, key)⟩
    · rw [Pool.step, hstep]
      exact h.answered ht hgranted hqueue
  | deliver => exact ⟨told, h.deliverNext⟩
  | faults faults => cases hturn

/-- **So does every schedule.** -/
theorem Accrues.run (h : p.Accrues b commands told) {schedule : List Turn}
    (hs : ∀ turn ∈ schedule, turn.ofTasks = true) :
    ∃ told', (p.run schedule).Accrues b commands told' := by
  induction schedule generalizing p told with
  | nil => exact ⟨told, h⟩
  | cons turn rest ih =>
    obtain ⟨told', hstep⟩ := h.step (hs turn (List.mem_cons_self ..))
    exact ih hstep fun t ht => hs t (List.mem_cons_of_mem _ ht)

/-- What the commands have told, when they have come to their ends, is what is due for the orders
that they have placed. -/
theorem Accrues.told_eq (h : p.Accrues b commands told)
    (hdone : ∀ i < commands.length, (p.result? i).isSome = true) (id : CustomerId) :
    sumUpTo told commands.length id =
      Backend.total (Command.earns id) commands (p.firstResults commands.length) := by
  have hsum := total_pick (Command.earns id) commands p.result? (List.range commands.length)
    (fun i => List.mem_range.mp) fun i hi => hdone i (List.mem_range.mp hi)
  rw [pick_range] at hsum
  rw [firstResults, hsum, sumUpTo]
  refine congrArg List.sum (List.map_congr_left fun i hi => ?_)
  have hi := List.mem_range.mp hi
  obtain ⟨x, hx⟩ := Option.isSome_iff_exists.mp (hdone i hi)
  rw [hx, List.getElem?_eq_getElem hi]
  exact h.tells i _ _ _ (outlook?_of_result hx).1 (List.getElem?_eq_getElem hi) id

/-- **Commands that run together, and the listeners that are told of what they publish**, come to
their ends with the accounts in order, if there is room for what is due for all the orders that
have been placed.  It is on the balances, or still on its way. -/
theorem run_accrues (hf : b.faults = .none) (hb : b.repositories.OrdersSettled)
    (hc : b.repositories.Clientele) (hd : b.deliveries = [])
    (hkind : ∀ c ∈ commands, c.2.ofCustomers = false) (schedule : List Turn)
    (hs : ∀ turn ∈ schedule, turn.ofTasks = true) :
    let p := (Pool.start b commands).run schedule
    let placed := fun id =>
      Backend.total (Command.earns id) commands (p.firstResults commands.length)
    (∀ i < p.tasks.length, (p.result? i).isSome = true) → b.repositories.RoomFor placed →
      p.backend.faults = .none ∧ p.backend.repositories.OrdersSettled ∧
        p.backend.repositories.Clientele ∧
        p.backend.repositories.activity = b.repositories.activity ∧
        p.backend.failures = b.failures ∧
        ∀ id, b.repositories.balance id ≤ p.backend.repositories.balance id ∧
          p.backend.repositories.balance id + p.backend.backlog id =
            b.repositories.balance id + placed id := by
  intro p placed hdone hroom
  obtain ⟨told, h⟩ := (Accrues.start hf hb hc hd hkind).run hs
  have htold : sumUpTo told commands.length = placed :=
    funext (h.told_eq fun i hi => hdone i (Nat.lt_of_lt_of_le hi h.length))
  obtain ⟨due, haccounts⟩ := h.accounts (htold ▸ hroom)
  have hnone : ∀ id, sumUpTo due p.tasks.length id = 0 := by
    intro id
    refine sumUpTo_eq_zero fun i hi => ?_
    rcases Nat.lt_or_ge i commands.length with hcommand | hlistener
    · exact haccounts.commands i hcommand id
    · -- a listener that is done has nothing in hand
      obtain ⟨x, hx⟩ := Option.isSome_iff_exists.mp (hdone i hi)
      cases haccounts.listens i _ hlistener (outlook?_of_result hx).1 with
      | parting hdue _ => exact hdue id
  refine ⟨h.faults, h.settled, haccounts.clientele, haccounts.activity, haccounts.failures,
    fun id => ⟨haccounts.grown id, ?_⟩⟩
  have hbooks := haccounts.books id
  rw [hnone, htold] at hbooks
  exact hbooks

end Pool

end Storefront
