import Mathlib.Data.List.Induction
import Mathlib.Logic.Function.Basic
import Mathlib.Logic.Relation
import Storefront.Proofs.Tending
import Storefront.Proofs.Turns

/-! # The life of an order

From the moment at which it is placed, an order keeps the terms that have been agreed on, and
moves along the table of statuses one edge at a time, whatever else happens: commands may come one
after the other or together, events may be delivered in between, writes and publishing may fail.
It is told of as confirmed at most once, with what it is for (`Backend.order_lives`).

Of scripts that run together, each finds what it has in hand as it has left it, since an order is
in one hand at a time: that of the holder of its lock, or of the script that has made it
(`Pool.Tended`).
-/
namespace Storefront

/-! ### Commands that run together -/

/-- The identifier under which a task of a pool may make an order. -/
def newOrder? (commands : List (Supply × Command)) (i : Nat) : Option OrderId :=
  commands[i]?.map fun c => c.1.id .order

/-- **Everybody tends orders**, has in hand what their custody says, and holds the lock for it. -/
structure Pool.Tended (commands : List (Supply × Command)) (p : Pool)
    (custody : Nat → Custody) : Prop where
  ordersKept : p.backend.OrdersKept
  tends : ∀ (i : Nat) (t : TaskScript), p.tasks[i]? = some t →
    t.Tends (newOrder? commands i) (custody i)
  knows : ∀ i, (custody i).Knows (newOrder? commands i) p.backend
  held : ∀ i key, (custody i).key? = some key → p.holder? key = some i
  absent : ∀ i, p.tasks[i]? = none → custody i = .ended

namespace Pool

variable {p : Pool} {commands : List (Supply × Command)} {custody : Nat → Custody}

/-- No two commands may make an order under the same identifier. -/
theorem newOrder?_ne (hfresh : Backend.Fresh commands) {i j : Nat} (hij : i ≠ j) {id : OrderId}
    (hi : newOrder? commands i = some id) : newOrder? commands j ≠ some id := by
  intro hj
  obtain ⟨c, hc, rfl⟩ := Option.map_eq_some_iff.mp hi
  obtain ⟨d, hd, heq⟩ := Option.map_eq_some_iff.mp hj
  exact hij (Backend.place_of_fresh hfresh hc hd (congrArg Id.uuid heq).symm)

/-- A task has asked a question. -/
theorem Tended.answered (h : p.Tended commands custody) (hfresh : Backend.Fresh commands)
    {i : Nat} {q : Ask} {next : q.Answer → TaskScript} {queue : List (Nat × LockKey)}
    (ht : p.tasks[i]? = some (.ask q next))
    (hgranted : ∀ key, q = .lock key → p.holder? key = some i)
    (hqueue : queue = p.queue ∨ ∃ key, q = .unlock key ∧ queue = p.queue.erase (i, key)) :
    ∃ custody', (p.answered i q next queue).Tended commands custody' ∧
      p.backend.Onward (p.answered i q next queue).backend := by
  obtain ⟨c', hnext, hasked⟩ := (h.tends i _ ht).answer h.ordersKept (h.knows i)
  obtain ⟨hlt, _⟩ := List.getElem?_eq_some_iff.mp ht
  refine ⟨Function.update custody i c', ⟨hasked.ordersKept, fun j t hj => ?_, ?_, ?_, ?_⟩,
    hasked.onward⟩
  · have hj : (p.tasks.set i (next (p.backend.answer q).1))[j]? = some t := hj
    by_cases hji : j = i
    · subst hji
      rw [List.getElem?_set_self hlt] at hj
      cases hj
      rw [Function.update_self]
      exact hnext
    · rw [List.getElem?_set_ne (Ne.symm hji)] at hj
      rw [Function.update_of_ne hji]
      exact h.tends j t hj
  · refine (Function.forall_update_iff custody
      (p := fun j d => d.Knows (newOrder? commands j) _)).mpr ⟨hasked.knows, fun j hj => ?_⟩
    refine hasked.others _ _ ⟨fun id => newOrder?_ne hfresh (Ne.symm hj), fun key hkey hkey' => ?_⟩
      (h.knows j)
    -- one lock is in one hand
    have hholder := h.held i key hkey
    rw [h.held j key hkey'] at hholder
    exact hj (Option.some.inj hholder)
  · refine (Function.forall_update_iff custody (p := fun j d => ∀ key, d.key? = some key →
      (p.answered i q next queue).holder? key = some j)).mpr ⟨fun key hkey => ?_, fun j hj key hkey =>
        holder?_answered hqueue (Ne.symm hj) (h.held j key hkey)⟩
    refine holder?_answered_self hgranted hqueue ?_
    exact (hasked.key key hkey).imp_right fun ⟨hkey, hkeep⟩ => ⟨h.held i key hkey, hkeep⟩
  · intro j hj
    have hj : (p.tasks.set i (next (p.backend.answer q).1))[j]? = none := hj
    rw [List.getElem?_eq_none_iff, List.length_set] at hj
    rw [Function.update_of_ne (by omega)]
    exact h.absent j (List.getElem?_eq_none_iff.mpr hj)

/-- A listener that is told of an event joins the pool. -/
theorem Tended.deliverNext (h : p.Tended commands custody) :
    p.deliverNext.Tended commands custody ∧ p.backend.Onward p.deliverNext.backend := by
  unfold Pool.deliverNext
  cases p.backend.deliveries with
  | nil => exact ⟨h, .refl _⟩
  | cons d rest =>
    have hsame : p.backend.SameOrders { p.backend with deliveries := rest } :=
      ⟨fun _ => rfl, fun _ => rfl⟩
    refine ⟨⟨hsame.ordersKept h.ordersKept, fun i t ht => ?_, fun i => hsame.knows (h.knows i),
      h.held, fun i hi => ?_⟩, hsame.onward⟩
    · have ht : (p.tasks ++ [_])[i]? = some t := ht
      by_cases hi : i < p.tasks.length
      · rw [List.getElem?_append_left hi] at ht
        exact h.tends i t ht
      · rw [List.getElem?_append_right (Nat.not_lt.mp hi)] at ht
        rw [List.mem_singleton.mp (List.mem_of_getElem? ht),
          h.absent i (List.getElem?_eq_none_iff.mpr (Nat.not_lt.mp hi))]
        exact Loyalty.tends_deliver d _
    · have hi : (p.tasks ++ [_])[i]? = none := hi
      rw [List.getElem?_eq_none_iff, List.length_append] at hi
      exact h.absent i (List.getElem?_eq_none_iff.mpr (by omega))

/-- **Every turn leaves everybody tending orders**, and changes every order at most once. -/
theorem Tended.step (h : p.Tended commands custody) (hfresh : Backend.Fresh commands)
    (turn : Turn) :
    ∃ custody', (p.step turn).Tended commands custody' ∧
      p.backend.Onward (p.step turn).backend := by
  cases turn with
  | task i =>
    rcases p.stepTask_cases i with hstep | ⟨key, hstep⟩ |
      ⟨q, next, queue, ht, hstep, hgranted, hqueue⟩
    · rw [Pool.step, hstep]
      exact ⟨custody, h, .refl _⟩
    · rw [Pool.step, hstep]
      exact ⟨custody, ⟨h.ordersKept, h.tends, h.knows, fun i key hkey =>
        holder?_append (h.held i key hkey) _, h.absent⟩, .refl _⟩
    · rw [Pool.step, hstep]
      exact h.answered hfresh ht hgranted hqueue
  | deliver => exact ⟨custody, h.deliverNext⟩
  | faults faults =>
    have hsame : p.backend.SameOrders { p.backend with faults } := ⟨fun _ => rfl, fun _ => rfl⟩
    exact ⟨custody, ⟨hsame.ordersKept h.ordersKept, h.tends, fun i => hsame.knows (h.knows i),
      h.held, h.absent⟩, hsame.onward⟩

/-- Before anything has happened, nobody has anything in hand. -/
theorem Tended.start {b : Backend} (hb : b.OrdersKept)
    (hnew : ∀ c ∈ commands, b.order? (c.1.id .order) = none) :
    (Pool.start b commands).Tended commands
      fun i => if i < commands.length then .none else .ended := by
  have hkey : ∀ i : Nat, (if i < commands.length then Custody.none else .ended).key? = none := by
    intro i
    split <;> rfl
  refine ⟨hb, fun i t ht => ?_, fun i => ?_, fun i key h => ?_, fun i hi => ?_⟩
  · have ht : (commands.map fun c => (c.2.job c.1).run)[i]? = some t := ht
    rw [List.getElem?_map] at ht
    obtain ⟨⟨supply, command⟩, hc, rfl⟩ := Option.map_eq_some_iff.mp ht
    rw [if_pos (List.getElem?_eq_some_iff.mp hc).1, newOrder?, hc]
    exact Command.tends command
  · split
    · intro id hid
      obtain ⟨c, hc, rfl⟩ := Option.map_eq_some_iff.mp hid
      exact hnew c (List.mem_of_getElem? hc)
    · trivial
  · rw [hkey] at h
    cases h
  · have hi : (commands.map fun c => (c.2.job c.1).run)[i]? = none := hi
    rw [List.getElem?_eq_none_iff, List.length_map] at hi
    exact if_neg (Nat.not_lt.mpr hi)

/-- Every schedule leaves everybody tending orders. -/
theorem Tended.run (h : p.Tended commands custody) (hfresh : Backend.Fresh commands)
    (schedule : List Turn) : ∃ custody', (p.run schedule).Tended commands custody' := by
  induction schedule generalizing p custody with
  | nil => exact ⟨custody, h⟩
  | cons turn rest ih =>
    obtain ⟨custody', hstep, _⟩ := h.step hfresh turn
    exact ih hstep

end Pool

/-! ### All moments -/

namespace Backend

variable {before commands : List (Supply × Command)} {schedule : List Pool.Turn}

/-- The backend at each moment of a run: after so many of the commands that come one after the
other, from the beginning, and then after so many turns of those that run together. -/
def moment (before commands : List (Supply × Command)) (schedule : List Pool.Turn) (n : Nat) :
    Backend :=
  if n < before.length then (empty.executeAll (before.take n)).2
  else ((Pool.start (empty.executeAll before).2 commands).run
    (schedule.take (n - before.length))).backend

/-- **The life of every order**, moment by moment. -/
structure OrderLives (b : Nat → Backend) : Prop where
  /-- An order that is kept is no longer pending, and has a reason if and only if it is
  cancelled. -/
  kept : ∀ n id o, (b n).order? id = some o → o.id = id ∧ o.status ≠ .pending ∧
    (o.cancellationReason.isSome = true ↔ o.status = .cancelled)
  /-- From one moment to the next it comes in as confirmed, moves along one edge, or stays. -/
  becomes : ∀ n id, Order.Becomes ((b n).order? id) ((b (n + 1)).order? id)
  /-- It never goes away, keeps its terms, moves along edges only, and stays for good as it is
  once it is completed or cancelled. -/
  lasts : ∀ n m id o, n ≤ m → (b n).order? id = some o → ∃ o', (b m).order? id = some o' ∧
    o.SameTerms o' ∧ Relation.ReflTransGen OrderStatus.Edge o.status o'.status ∧
      (o.status = .completed ∨ o.status = .cancelled → o' = o)
  /-- What has been told of its confirmation stays told, and has been told once at most. -/
  told : ∀ n m id, n ≤ m →
    confirmations id (b n).published <+: confirmations id (b m).published ∧
      (confirmations id (b m).published).length ≤ 1
  /-- Whoever has been told of it finds what they have been told, then and later. -/
  confirms : ∀ n m id e, n ≤ m → e ∈ confirmations id (b n).published →
    ∃ o, (b m).order? id = some o ∧ e.Confirms o

namespace OrderLives

variable {b : Nat → Backend}

/-- **What holds from each moment to the next holds for good.** -/
theorem of_onward (hb : ∀ n, (b n).OrdersKept) (hnext : ∀ n, (b n).Onward (b (n + 1))) :
    OrderLives b := by
  have hlasts : ∀ n m id o, n ≤ m → (b n).order? id = some o → ∃ o', (b m).order? id = some o' ∧
      o.SameTerms o' ∧ Relation.ReflTransGen OrderStatus.Edge o.status o'.status ∧
        (o.status = .completed ∨ o.status = .cancelled → o' = o) := by
    intro n m id o hnm ho
    induction m, hnm using Nat.le_induction with
    | base => exact ⟨o, ho, .refl o, .refl, fun _ => rfl⟩
    | succ m hnm ih =>
      obtain ⟨o', ho', hterms, hpath, hended⟩ := ih
      have hstep := (hnext m).becomes id
      rw [ho'] at hstep
      generalize ho'' : (b (m + 1)).order? id = o'' at hstep
      cases hstep with
      | same => exact ⟨o', rfl, hterms, hpath, hended⟩
      | @moved _ o'' hterms' hedge =>
        refine ⟨o'', rfl, hterms.trans hterms', hpath.tail hedge, fun h => ?_⟩
        obtain rfl := hended h
        exact absurd h hedge.not_ended
  have hlog : ∀ n m id, n ≤ m →
      confirmations id (b n).published <+: confirmations id (b m).published := by
    intro n m id hnm
    induction m, hnm using Nat.le_induction with
    | base => exact List.prefix_rfl
    | succ m hnm ih => exact ih.trans ((hnext m).log id)
  refine ⟨fun n id o ho => ?_, fun n => (hnext n).becomes, hlasts, fun n m id hnm => ?_,
    fun n m id e hnm he => ?_⟩
  · obtain ⟨hid, hkept⟩ := (hb n).kept id o ho
    exact ⟨hid, hkept.placed, hkept.reason⟩
  · refine ⟨hlog n m id hnm, ?_⟩
    rcases (hb m).told id with hnone | ⟨_, _, _, _, hone⟩
    · rw [hnone]
      exact Nat.zero_le 1
    · rw [hone]
      exact Nat.le_refl 1
  · rcases (hb n).told id with hnone | ⟨o, e', ho, he', hone⟩
    · rw [hnone] at he
      cases he
    · rw [hone] at he
      obtain rfl := List.mem_singleton.mp he
      obtain ⟨o', ho', hterms, _⟩ := hlasts n m id o hnm ho
      exact ⟨o', ho', he'.of_sameTerms hterms⟩

end OrderLives

/-- A run with new identifiers keeps orders as they should be. -/
theorem executeAll_ordersKept (commands : List (Supply × Command)) (hfresh : Fresh commands) :
    (empty.executeAll commands).2.OrdersKept := by
  induction commands using List.reverseRecOn with
  | nil =>
    refine ⟨fun id o ho => ?_, fun _ => .inl rfl⟩
    cases ho
  | append_singleton commands c ih =>
    obtain ⟨hcommands, hnew⟩ := fresh_snoc hfresh
    rw [executeAll_append]
    exact (execute_orders (ih hcommands)
      ((wellKept_of_run hcommands).1.issued.order_eq_none hnew) c.2).1

theorem moment_of_lt {n : Nat} (h : n < before.length) :
    moment before commands schedule n = (empty.executeAll (before.take n)).2 := if_pos h

theorem moment_of_le {n : Nat} (h : before.length ≤ n) :
    moment before commands schedule n =
      ((Pool.start (empty.executeAll before).2 commands).run
        (schedule.take (n - before.length))).backend := if_neg (Nat.not_lt.mpr h)

/-- The last of the commands that come one after the other is over when the others begin. -/
theorem moment_of_le_length {n : Nat} (h : n ≤ before.length) :
    moment before commands schedule n = (empty.executeAll (before.take n)).2 := by
  rcases Nat.lt_or_eq_of_le h with hlt | rfl
  · exact moment_of_lt hlt
  · rw [moment_of_le (Nat.le_refl _), Nat.sub_self, List.take_length]
    rfl

/-- **Placed orders move along the table of statuses, and in no other way.**  Let commands with
new identifiers come one after the other, and then let more commands run together; let their
questions be asked in whatever order, events be delivered in between or not, and writes and
publishing fail at times.  Every order leads the life that it should. -/
theorem order_lives (before commands : List (Supply × Command)) (schedule : List Pool.Turn)
    (hfresh : Fresh (before ++ commands)) : OrderLives (moment before commands schedule) := by
  have hboth := hfresh
  rw [Fresh, List.map_append, List.nodup_append] at hboth
  obtain ⟨hbefore, hcommands, hdisjoint⟩ := hboth
  have hkept : (empty.executeAll before).2.OrdersKept := executeAll_ordersKept before hbefore
  have hstart : (Pool.start (empty.executeAll before).2 commands).Tended commands _ :=
    .start hkept fun c hc => (wellKept_of_run hbefore).1.issued.order_eq_none fun hm =>
      hdisjoint _ hm _ (List.mem_map.mpr ⟨c, hc, rfl⟩) rfl
  refine .of_onward (fun n => ?_) fun n => ?_
  · rcases Nat.lt_or_ge n before.length with hn | hn
    · rw [moment_of_lt hn]
      refine executeAll_ordersKept _ (hbefore.sublist ?_)
      exact ((List.take_sublist n before).map _)
    · rw [moment_of_le hn]
      obtain ⟨_, hrun⟩ := hstart.run hcommands (schedule.take (n - before.length))
      exact hrun.ordersKept
  · rcases Nat.lt_or_ge n before.length with hn | hn
    · -- one more command
      have hsub : Fresh (before.take (n + 1)) :=
        hbefore.sublist ((List.take_sublist (n + 1) before).map _)
      rw [moment_of_lt hn, moment_of_le_length hn]
      rw [List.take_add_one, List.getElem?_eq_getElem hn, Option.toList_some] at hsub ⊢
      obtain ⟨htake, hnew⟩ := fresh_snoc hsub
      rw [executeAll_append]
      exact (execute_orders (executeAll_ordersKept _ htake)
        ((wellKept_of_run htake).1.issued.order_eq_none hnew) _).2
    · -- one more turn
      rw [moment_of_le hn, moment_of_le (Nat.le_succ_of_le hn),
        show n + 1 - before.length = (n - before.length) + 1 by omega, List.take_add_one]
      obtain ⟨_, hrun⟩ := hstart.run hcommands (schedule.take (n - before.length))
      cases schedule[n - before.length]? with
      | none =>
        rw [Option.toList_none, List.append_nil]
        exact .refl _
      | some turn =>
        obtain ⟨_, _, honward⟩ := hrun.step hcommands turn
        rw [Option.toList_some, Pool.run, Pool.run, List.foldl_append]
        exact honward

/-- What comes before the race: one order is placed. -/
def beforeRace : List (Supply × Command) := Sample.numbered (Sample.opening ++ [Sample.fruit 2 1])

/-- The order is to be prepared and to be cancelled at the same time, while another one is placed
and the price of what it is for changes. -/
def race : List (Supply × Command) := [
  (Supply.nth 7, .cancelOrder (Sample.order 6) "late"),
  (Supply.nth 8, .advanceOrder (Sample.order 6) .startPreparing),
  (Supply.nth 9, .createOrder Sample.ann Sample.shop [⟨Sample.pear, 1⟩]),
  (Supply.nth 10, .updatePrice Sample.shop Sample.apple ⟨180, default, by decide⟩),
  (Supply.nth 11, .advanceOrder (Sample.order 6) .markReady)]

/-- For a while orders cannot be written, and then nothing can be published. -/
def raceTurns : List Pool.Turn :=
  (List.replicate 5 [.task 1, .task 2, .task 0, .task 3]).flatten ++
    [.faults { saveOrders := true }, .task 2, .deliver, .task 4, .faults { publish := true },
      .task 1, .faults .none] ++ Pool.rounds 5 20

theorem order_lives_race :
    let b := moment beforeRace race raceTurns
    [6, 7, 34, 90].map (fun n => ((b n).order? (Sample.order 6)).map (·.status)) =
        [none, some .confirmed, some .preparing, some .cancelled] ∧
      (confirmations (Sample.order 6) (b 90).published).length = 1 ∧
      OrderLives b :=
  ⟨by decide +kernel, by decide +kernel, order_lives _ _ _ (by decide +kernel)⟩

end Backend

end Storefront
