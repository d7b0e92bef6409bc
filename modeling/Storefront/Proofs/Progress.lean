import Mathlib.Logic.Function.Basic
import Mathlib.Logic.Hydra
import Storefront.Proofs.LockOrder
import Storefront.Proofs.OrderLife

/-! # Commands never wait for each other in a circle

Commands and deliveries that run together wait for each other's locks.  As all of them take locks
in the order of their ranks, whoever waits for a lock waits for somebody who holds it, and who
waits, if at all, for a lock of a higher rank.  That comes to an end, since there are three ranks
only: one of them need not wait (`Pool.LocksHeld.answerable`).  So as long as anybody has anything
left to do, there is somebody who can get on with it, and in the right order all of them can be
brought to their ends (`Pool.never_stuck`).

Which locks a task holds cannot be told from the queue, in which those who hold a lock and those
who wait for it stand in one line.  It is followed along the schedule (`Pool.locksHeld`).
-/
namespace Storefront

/-! ### What is left of a script -/

namespace Script

variable {α : Type}

/-- One script is what is left of another when a question has been answered. -/
def Remains (rest s : Script α) : Prop := ∃ q next a, s = .ask q next ∧ rest = next a

/-- Scripts come to an end, whatever they are answered. -/
theorem wellFounded_remains : WellFounded (Remains (α := α)) := by
  refine ⟨fun s => ?_⟩
  induction s with
  | done a => exact ⟨_, by rintro _ ⟨q, next, a, heq, rfl⟩; cases heq⟩
  | ask q next ih =>
    refine ⟨_, ?_⟩
    rintro _ ⟨q, next, a, heq, rfl⟩
    cases heq
    exact ih a

/-- An answer takes a script further. -/
theorem next_ne_ask {q : Ask} (next : q.Answer → Script α) (a : q.Answer) :
    next a ≠ .ask q next := fun heq =>
  wellFounded_remains.irrefl.irrefl (.ask q next) ⟨q, next, a, rfl, heq.symm⟩

end Script

namespace Pool

variable {p : Pool} {held : Nat → List LockKey} {i : Nat}

/-! ### Which locks are held -/

/-- The locks that tasks hold after a turn: each has taken those which it has been answered for,
until it gives them back. -/
def heldAfter (p : Pool) (held : Nat → List LockKey) : Turn → Nat → List LockKey
  | .task i =>
    match p.tasks[i]? with
    | some (.ask (.lock key) _) =>
      if p.holder? key = some i then Function.update held i (key :: held i) else held
    | some (.ask (.unlock key) _) => Function.update held i ((held i).erase key)
    | _ => held
  | _ => held

/-- The locks that tasks hold after some turns. -/
def heldFrom (held : Nat → List LockKey) (p : Pool) : List Turn → Nat → List LockKey
  | [] => held
  | turn :: rest => heldFrom (p.heldAfter held turn) (p.step turn) rest

/-- The locks that tasks hold after the turns of a schedule, if they hold none in the beginning. -/
def locksHeld (p : Pool) (schedule : List Turn) : Nat → List LockKey :=
  heldFrom (fun _ => []) p schedule

/-- The queue once a question of a task has been answered. -/
def queueAfter (p : Pool) (i : Nat) : Ask → List (Nat × LockKey)
  | .unlock key => p.queue.erase (i, key)
  | _ => p.queue

/-- **What a turn of a task does to the pool, and to what is held**: the task has to wait, or it
queues for a lock, or it is answered. -/
inductive TaskTurn (p : Pool) (held : Nat → List LockKey) (i : Nat) :
    Pool → (Nat → List LockKey) → Prop
  | idle : TaskTurn p held i p held
  | queues {key : LockKey} {next : Unit → TaskScript}
    (task : p.tasks[i]? = some (.ask (.lock key) next)) (fresh : (i, key) ∉ p.queue) :
    TaskTurn p held i { p with queue := p.queue ++ [(i, key)] } held
  | answered {q : Ask} {next : q.Answer → TaskScript} (task : p.tasks[i]? = some (.ask q next))
    (granted : ∀ key, q = .lock key → p.holder? key = some i) :
    TaskTurn p held i (p.answered i q next (p.queueAfter i q))
      (Function.update held i (q.heldAfter (held i)))

theorem taskTurn (p : Pool) (held : Nat → List LockKey) (i : Nat) :
    p.TaskTurn held i (p.stepTask i) (p.heldAfter held (.task i)) := by
  unfold stepTask heldAfter
  dsimp only
  cases ht : p.tasks[i]? with
  | none => exact .idle
  | some t =>
    cases t with
    | done r => exact .idle
    | ask q next =>
      cases q with
      | lock key =>
        dsimp only
        split
        · rename_i hholder
          refine .answered (q := .lock key) ht ?_
          rintro _ ⟨⟩
          exact hholder
        · split
          · exact .idle
          · rename_i hfresh
            exact .queues ht (by simpa using hfresh)
      | unlock key => exact .answered (q := .unlock key) ht nofun
      | openUnit | begin | commit | rollback | findStore | saveStore | findOrder | saveOrder
      | findCustomer | findCustomerByEmail | saveCustomer | publish | count =>
        have hturn : p.TaskTurn held i _ _ := .answered ht nofun
        rwa [show Ask.heldAfter (held i) _ = held i from rfl, Function.update_eq_self] at hturn

/-- **Everybody goes by the order of locks**, and holds what they have been granted: what is left
of a task's script keeps to the order and gives back what the task holds, and everybody in the
queue holds the lock or is just asking for it. -/
structure LocksHeld (p : Pool) (held : Nat → List LockKey) : Prop where
  script : ∀ (i : Nat) (t : TaskScript), p.tasks[i]? = some t → t.LocksInOrder [] (held i)
  absent : ∀ i, p.tasks[i]? = none → held i = []
  holder : ∀ i, ∀ key ∈ held i, p.holder? key = some i
  nodup : ∀ i, (held i).Nodup
  asked : ∀ i key, (i, key) ∈ p.queue →
    key ∈ held i ∨ ∃ next, p.tasks[i]? = some (.ask (.lock key) next)
  once : p.queue.Nodup

theorem LocksHeld.start (b : Backend) (commands : List (Supply × Command)) :
    (Pool.start b commands).LocksHeld fun _ => [] where
  script i t ht := by
    obtain ⟨supply, command, -, rfl⟩ := of_start ht
    exact command.locksInOrder supply
  absent _ _ := rfl
  holder _ _ h := absurd h List.not_mem_nil
  nodup _ := List.nodup_nil
  asked _ _ h := absurd h List.not_mem_nil
  once := List.nodup_nil

/-- Who asks for a lock does not hold it. -/
theorem LocksHeld.not_held (h : p.LocksHeld held) {key : LockKey} {next : Unit → TaskScript}
    (ht : p.tasks[i]? = some (.ask (.lock key) next)) : key ∉ held i := fun hmem =>
  Nat.lt_irrefl _ ((h.script i _ ht).1 key hmem)

/-- A question changes the queue only to give a lock back. -/
theorem queueAfter_cases (p : Pool) (i : Nat) (q : Ask) :
    p.queueAfter i q = p.queue ∨ ∃ key, q = .unlock key ∧ p.queueAfter i q = p.queue.erase (i, key) := by
  cases q with
  | unlock key => exact .inr ⟨key, rfl, rfl⟩
  | _ => exact .inl rfl

section Answered
variable {q : Ask} {next : q.Answer → TaskScript}

/-- Once a task has been answered, all hold what they have been granted. -/
theorem LocksHeld.holder_answered (h : p.LocksHeld held)
    (hgranted : ∀ key, q = .lock key → p.holder? key = some i) (j : Nat) :
    ∀ key ∈ Function.update held i (q.heldAfter (held i)) j,
      (p.answered i q next (p.queueAfter i q)).holder? key = some j := by
  refine (Function.forall_update_iff held
    (p := fun j locks => ∀ key ∈ locks, (p.answered i q next _).holder? key = some j)).mpr
      ⟨fun key hkey => ?_, fun j hj key hkey =>
        holder?_answered (p.queueAfter_cases i q) (Ne.symm hj) (h.holder j key hkey)⟩ j
  cases q with
  | lock k =>
    rcases List.mem_cons.mp hkey with rfl | hkey
    · exact hgranted key rfl
    · exact h.holder i key hkey
  | unlock k =>
    obtain ⟨hne, hkey⟩ := (h.nodup i).mem_erase_iff.mp hkey
    exact holder?_erase_of_ne (h.holder i key hkey) (Ne.symm hne) i
  | _ => exact h.holder i key hkey

/-- Once a task has been answered, everybody in the queue holds the lock that they are in the
queue for, or is asking for it. -/
theorem LocksHeld.asked_answered (h : p.LocksHeld held) (ht : p.tasks[i]? = some (.ask q next))
    {j : Nat} {key : LockKey} (hmem : (j, key) ∈ p.queueAfter i q) :
    key ∈ Function.update held i (q.heldAfter (held i)) j ∨
      ∃ next', (p.answered i q next (p.queueAfter i q)).tasks[j]? =
        some (.ask (.lock key) next') := by
  have hold : (j, key) ∈ p.queue := by
    rcases p.queueAfter_cases i q with heq | ⟨k, -, heq⟩ <;> rw [heq] at hmem
    · exact hmem
    · exact List.mem_of_mem_erase hmem
  by_cases hji : j = i
  · subst hji
    refine .inl ?_
    rw [Function.update_self]
    rcases h.asked j key hold with hheld | ⟨next', ht'⟩
    · cases q with
      | lock k => exact List.mem_cons_of_mem k hheld
      | unlock k =>
        obtain ⟨hne, -⟩ := h.once.mem_erase_iff.mp hmem
        exact (h.nodup j).mem_erase_iff.mpr ⟨fun he => hne (by rw [he]), hheld⟩
      | _ => exact hheld
    · cases ht.symm.trans ht'
      exact List.mem_cons_self ..
  · rw [Function.update_of_ne hji, answered_tasks_of_ne hji]
    exact h.asked j key hold

theorem LocksHeld.answered (h : p.LocksHeld held) (ht : p.tasks[i]? = some (.ask q next))
    (hgranted : ∀ key, q = .lock key → p.holder? key = some i) :
    (p.answered i q next (p.queueAfter i q)).LocksHeld
      (Function.update held i (q.heldAfter (held i))) := by
  obtain ⟨-, hnext⟩ := h.script i _ ht
  refine ⟨fun j t hj => ?_, fun j hj => ?_, h.holder_answered hgranted, ?_,
    fun j key hmem => h.asked_answered ht hmem, ?_⟩
  · rcases of_answered hj with ⟨rfl, rfl⟩ | ⟨hji, hj⟩
    · rw [Function.update_self]
      exact hnext _
    · rw [Function.update_of_ne hji]
      exact h.script j t hj
  · rw [answered_tasks_none] at hj
    have hji : j ≠ i := by
      rintro rfl
      rw [ht] at hj
      cases hj
    rw [Function.update_of_ne hji]
    exact h.absent j hj
  · refine (Function.forall_update_iff held (p := fun _ locks => locks.Nodup)).mpr
      ⟨?_, fun j _ => h.nodup j⟩
    cases q with
    | lock key => exact List.nodup_cons.mpr ⟨h.not_held ht, h.nodup i⟩
    | unlock key => exact (h.nodup i).erase key
    | _ => exact h.nodup i
  · rcases p.queueAfter_cases i q with heq | ⟨k, -, heq⟩
    · exact heq ▸ h.once
    · exact heq ▸ h.once.erase _

end Answered

/-- A listener that is told of an event joins the pool, holding nothing. -/
theorem LocksHeld.deliverNext (h : p.LocksHeld held) : p.deliverNext.LocksHeld held := by
  obtain ⟨-, -, -, hqueue⟩ := p.deliverNext_frame
  have hholder (key : LockKey) : p.deliverNext.holder? key = p.holder? key := by
    rw [holder?, holder?, hqueue]
  refine ⟨fun i t ht => ?_, fun i hi => h.absent i (deliverNext_tasks_none hi),
    fun i key hk => (hholder key).trans (h.holder i key hk), h.nodup, fun i key hmem => ?_,
    hqueue ▸ h.once⟩
  · rcases of_deliverNext ht with ht | ⟨hnone, d, rfl⟩
    · exact h.script i t ht
    · rw [h.absent i hnone]
      exact (Loyalty.locksInOrder_deliver d).map _
  · rcases h.asked i key (hqueue ▸ hmem) with hheld | ⟨next, ht⟩
    · exact .inl hheld
    · exact .inr ⟨next, deliverNext_tasks ht⟩

theorem LocksHeld.step (h : p.LocksHeld held) (turn : Turn) :
    (p.step turn).LocksHeld (p.heldAfter held turn) := by
  cases turn with
  | task i =>
    have hturn := p.taskTurn held i
    show (p.stepTask i).LocksHeld (p.heldAfter held (.task i))
    generalize p.stepTask i = p', p.heldAfter held (.task i) = held' at hturn
    cases hturn with
    | idle => exact h
    | answered ht hgranted => exact h.answered ht hgranted
    | @queues key next ht hfresh =>
      refine ⟨h.script, h.absent, fun j k hk => holder?_append (h.holder j k hk) _, h.nodup,
        fun j k hmem => ?_, ?_⟩
      · rcases List.mem_append.mp hmem with hold | hnew
        · exact h.asked j k hold
        · cases List.mem_singleton.mp hnew
          exact .inr ⟨next, ht⟩
      · rw [← List.concat_eq_append]
        exact h.once.concat hfresh
  | deliver => exact h.deliverNext
  | faults faults => exact ⟨h.script, h.absent, h.holder, h.nodup, h.asked, h.once⟩

/-- **Every schedule has everybody go by the order of locks.** -/
theorem LocksHeld.run (h : p.LocksHeld held) (schedule : List Turn) :
    (p.run schedule).LocksHeld (heldFrom held p schedule) := by
  induction schedule generalizing p held with
  | nil => exact h
  | cons turn rest ih => exact ih (h.step turn)

/-! ### Nobody waits in vain -/

/-- All tasks have come to their ends. -/
def Finished (p : Pool) : Prop := ∀ i < p.tasks.length, (p.result? i).isSome = true

theorem finished_iff : p.Finished ↔ ∀ (i : Nat) (t : TaskScript), p.tasks[i]? = some t →
    ∃ r, t = .done r := by
  refine ⟨fun h i t ht => ?_, fun h i hi => ?_⟩
  · have hi := h i (List.getElem?_eq_some_iff.mp ht).1
    rw [result?, ht] at hi
    cases t with
    | done r => exact ⟨r, rfl⟩
    | ask q next => cases hi
  · obtain ⟨r, ht⟩ := h i _ (List.getElem?_eq_getElem hi)
    rw [result?, List.getElem?_eq_getElem hi, ht]
    rfl

/-- The task asks for something that it does not have to wait for. -/
def Answerable (p : Pool) (i : Nat) : Prop :=
  ∃ q next, p.tasks[i]? = some (.ask q next) ∧
    ∀ key, q = .lock key → p.holder? key = none ∨ p.holder? key = some i

/-- The lock that somebody holds or asks for has a holder. -/
theorem holder?_ne_none {key : LockKey} (h : (i, key) ∈ p.queue) : p.holder? key ≠ none := by
  intro hnone
  rw [holder?, Option.map_eq_none_iff, List.find?_eq_none] at hnone
  exact hnone _ h (beq_self_eq_true key)

theorem mem_queue_of_holder? {key : LockKey} (h : p.holder? key = some i) :
    (i, key) ∈ p.queue := by
  obtain ⟨⟨j, k⟩, hfind, rfl⟩ := Option.map_eq_some_iff.mp h
  have hkey : k = key := beq_iff_eq.mp (List.find?_some (p := fun r : Nat × LockKey => r.2 == key) hfind)
  exact hkey ▸ List.mem_of_find?_eq_some hfind

/-- **If somebody has something left to ask, somebody need not wait.**  The induction is on how
many ranks there are above that of the lock that is asked for. -/
theorem LocksHeld.answerable (h : p.LocksHeld held) (n : Nat) {q : Ask}
    {next : q.Answer → TaskScript} (ht : p.tasks[i]? = some (.ask q next))
    (hrank : ∀ key, q = .lock key → 3 ≤ key.rank + n) : ∃ j, p.Answerable j := by
  induction n generalizing i q with
  | zero =>
    refine ⟨i, q, next, ht, fun key hq => ?_⟩
    have := hrank key hq
    cases key <;> simp [LockKey.rank] at this
  | succ n ih =>
    by_cases hfree : ∀ key, q = .lock key → p.holder? key = none ∨ p.holder? key = some i
    · exact ⟨i, q, next, ht, hfree⟩
    · push Not at hfree
      obtain ⟨key, rfl, hsome, hnot⟩ := hfree
      obtain ⟨j, hj⟩ := Option.ne_none_iff_exists'.mp hsome
      rcases h.asked j key (mem_queue_of_holder? hj) with hheld | ⟨next', ht'⟩
      · -- the holder has something left to do, if only to give the lock back
        cases hrest : p.tasks[j]? with
        | none => simp [h.absent j hrest] at hheld
        | some t =>
          have hscript := h.script j t hrest
          cases t with
          | done r =>
            rw [hscript] at hheld
            cases hheld
          | ask q' next' =>
            -- if the holder waits as well, it is for a lock of a higher rank
            refine ih hrest fun key' hq => ?_
            subst hq
            have hlt := hscript.1 key hheld
            have hle := hrank key rfl
            omega
      · exact ⟨j, _, next', ht', fun k hk => by cases hk; exact .inr hj⟩

theorem LocksHeld.answerable_of_not_finished (h : p.LocksHeld held) (hp : ¬ p.Finished) :
    ∃ j, p.Answerable j := by
  rw [finished_iff] at hp
  push Not at hp
  obtain ⟨i, t, ht, hnot⟩ := hp
  cases t with
  | done r => exact absurd rfl (hnot r)
  | ask q next => exact h.answerable 3 ht fun key _ => Nat.le_add_left 3 _

/-- Who asks for a lock that they have been granted, or for something else, is answered. -/
theorem stepTask_of_granted {q : Ask} {next : q.Answer → TaskScript}
    (ht : p.tasks[i]? = some (.ask q next))
    (hgranted : ∀ key, q = .lock key → p.holder? key = some i) :
    p.stepTask i = p.answered i q next (p.queueAfter i q) := by
  unfold stepTask
  rw [ht]
  cases q with
  | lock key =>
    dsimp only
    rw [if_pos (hgranted key rfl)]
    rfl
  | _ => rfl

/-- Who asks for a lock that nobody holds or asks for is the first to queue for it. -/
theorem stepTask_of_free {key : LockKey} {next : Unit → TaskScript}
    (ht : p.tasks[i]? = some (.ask (.lock key) next)) (hfree : p.holder? key = none) :
    p.stepTask i = { p with queue := p.queue ++ [(i, key)] } ∧
      (p.stepTask i).holder? key = some i := by
  have hfresh : ¬ p.queue.contains (i, key) = true := fun hmem =>
    holder?_ne_none (by simpa using hmem) hfree
  have hstep : p.stepTask i = { p with queue := p.queue ++ [(i, key)] } := by
    unfold stepTask
    rw [ht]
    dsimp only
    rw [if_neg (by rw [hfree]; exact (Option.some_ne_none i).symm), if_neg hfresh]
  refine ⟨hstep, ?_⟩
  rw [holder?, Option.map_eq_none_iff] at hfree
  rw [hstep, holder?, List.find?_append, hfree]
  simp

/-- Who need not wait does something on this turn, and is answered on this one or the next. -/
theorem Answerable.turns (h : p.Answerable i) :
    p.stepTask i ≠ p ∧ ∃ (turns : List Nat) (q : Ask) (next : q.Answer → TaskScript)
      (a : q.Answer), p.tasks[i]? = some (.ask q next) ∧
        (p.run (turns.map .task)).tasks = p.tasks.set i (next a) := by
  obtain ⟨q, next, ht, hfree⟩ := h
  by_cases hgranted : ∀ key, q = .lock key → p.holder? key = some i
  · have hstep := stepTask_of_granted ht hgranted
    have htasks : (p.stepTask i).tasks = p.tasks.set i (next (p.backend.answer q).1) :=
      congrArg Pool.tasks hstep
    refine ⟨fun heq => ?_, [i], q, next, (p.backend.answer q).1, ht, htasks⟩
    have hlookup : p.tasks[i]? = some (next (p.backend.answer q).1) := by
      rw [heq] at htasks
      rw [htasks]
      exact List.getElem?_set_self (List.getElem?_eq_some_iff.mp ht).1
    exact Script.next_ne_ask next _ (Option.some.inj (hlookup.symm.trans ht))
  · push Not at hgranted
    obtain ⟨key, rfl, hnot⟩ := hgranted
    obtain ⟨hstep, hholder⟩ := stepTask_of_free ht ((hfree key rfl).resolve_right hnot)
    refine ⟨fun heq => ?_, [i, i], .lock key, next, (), ht, ?_⟩
    · have hlength := congrArg (fun p => p.queue.length) (hstep.symm.trans heq)
      simp at hlength
    · have ht' : (p.stepTask i).tasks[i]? = some (.ask (.lock key) next) := by
        rw [hstep]
        exact ht
      have hsecond := stepTask_of_granted ht' fun k hk => by cases hk; exact hholder
      show ((p.stepTask i).stepTask i).tasks = _
      rw [hsecond, hstep]
      rfl

/-- **All tasks can be brought to their ends**: each answer replaces one of the scripts that are
left by what remains of it. -/
theorem LocksHeld.completes (h : p.LocksHeld held) :
    ∃ turns : List Nat, (p.run (turns.map .task)).Finished := by
  obtain ⟨left, hleft⟩ : ∃ left : Multiset TaskScript, left = p.tasks := ⟨_, rfl⟩
  induction left using (Script.wellFounded_remains.cutExpand).induction generalizing p held with
  | _ left ih =>
    subst hleft
    by_cases hp : p.Finished
    · exact ⟨[], hp⟩
    · obtain ⟨i, hi⟩ := h.answerable_of_not_finished hp
      obtain ⟨-, turns, q, next, a, ht, htasks⟩ := hi.turns
      obtain ⟨hlt, hget⟩ := List.getElem?_eq_some_iff.mp ht
      -- of all scripts that are left, one gives way to what remains of it
      have hless : Relation.CutExpand Script.Remains
          ((p.run (turns.map .task)).tasks : Multiset TaskScript) p.tasks := by
        refine ⟨{next a}, .ask q next, fun s hs => ?_, ?_⟩
        · rw [Multiset.mem_singleton.mp hs]
          exact ⟨q, next, a, rfl, rfl⟩
        · have hold := List.getElem_cons_eraseIdx_perm hlt
          rw [hget] at hold
          have hnew := List.set_perm_cons_eraseIdx hlt (next a)
          rw [htasks, Multiset.coe_eq_coe.mpr hnew, ← Multiset.coe_eq_coe.mpr hold]
          rw [← Multiset.cons_coe, ← Multiset.cons_coe, ← Multiset.singleton_add,
            ← Multiset.singleton_add, add_right_comm, add_comm {next a}, add_right_comm]
      obtain ⟨more, hmore⟩ := ih _ hless (h.run _) rfl
      refine ⟨turns ++ more, ?_⟩
      rw [List.map_append, Pool.run, List.foldl_append]
      exact hmore

/-- What is to be said of a pool whose tasks hold certain locks. -/
structure NeverStuck (p : Pool) (held : Nat → List LockKey) : Prop where
  /-- As long as some task has not come to its end, some task can do something on its turn. -/
  progress : ¬ p.Finished → ∃ i, p.stepTask i ≠ p
  /-- If turns come in the right order, all tasks come to their ends. -/
  completes : ∃ turns : List Nat, (p.run (turns.map .task)).Finished
  /-- Nobody asks for a lock that they hold, and would have to wait for themselves. -/
  fresh : ∀ i key next, p.tasks[i]? = some (.ask (.lock key) next) → key ∉ held i
  /-- Who holds a lock stands in front of all who wait for it. -/
  own : ∀ i, ∀ key ∈ held i, p.holder? key = some i
  /-- When all tasks have come to their ends, nobody holds or waits for a lock. -/
  free : p.Finished → p.queue = [] ∧ ∀ i, held i = []

theorem LocksHeld.neverStuck (h : p.LocksHeld held) : p.NeverStuck held := by
  refine ⟨fun hp => ?_, h.completes, fun i key next ht => h.not_held ht, h.holder, fun hp => ?_⟩
  · obtain ⟨i, hi⟩ := h.answerable_of_not_finished hp
    exact ⟨i, hi.turns.1⟩
  · rw [finished_iff] at hp
    have hnone (i : Nat) : held i = [] := by
      cases ht : p.tasks[i]? with
      | none => exact h.absent i ht
      | some t =>
        obtain ⟨r, rfl⟩ := hp i t ht
        exact h.script i _ ht
    refine ⟨List.eq_nil_iff_forall_not_mem.mpr ?_, hnone⟩
    rintro ⟨i, key⟩ hmem
    rcases h.asked i key hmem with hheld | ⟨next, ht⟩
    · simp [hnone i] at hheld
    · obtain ⟨r, hr⟩ := hp i _ ht
      cases hr

/-- **Commands and deliveries never wait for each other in a circle**, whichever they are, wherever
they begin, and whatever the schedule. -/
theorem never_stuck (b : Backend) (commands : List (Supply × Command)) (schedule : List Turn) :
    ((Pool.start b commands).run schedule).NeverStuck
      ((Pool.start b commands).locksHeld schedule) :=
  ((LocksHeld.start b commands).run schedule).neverStuck

end Pool

end Storefront
