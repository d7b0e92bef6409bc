import Mathlib.Logic.Function.Basic
import Storefront.Service.Pool
import Storefront.Proofs.Discipline
import Storefront.Proofs.Execution

/-! # Turns of a pool

A task on its turn does nothing, queues for a lock, or asks its next question and is answered
(`Pool.stepTask_cases`).  Who holds a lock goes on holding it until they give it back,
whatever others do (`Pool.holder?_append`, `Pool.holder?_erase`).  What a question does to the
backend does not depend on whose it is.  Every task keeps to a unit of work of its own
(`Pool.UnitsApart.step`).
-/
namespace Storefront

namespace Pool

variable {p : Pool} {task other : Nat} {key : LockKey}

/-! ### Locks -/

/-- Who queues for a lock does not take it from who holds it. -/
theorem holder?_append (h : p.holder? key = some task) (request : Nat × LockKey) :
    { p with queue := p.queue ++ [request] }.holder? key = some task := by
  obtain ⟨r, hr, ht⟩ := Option.map_eq_some_iff.mp h
  have hfind : (p.queue ++ [request]).find? (fun r => r.2 == key) = some r := by
    rw [List.find?_append, hr, Option.some_or]
  show ((p.queue ++ [request]).find? fun r => r.2 == key).map Prod.fst = some task
  rw [hfind, Option.map_some, ht]

/-- What is found in a list is found there still when something else is taken away. -/
theorem find?_erase_of_ne {α : Type} [BEq α] [LawfulBEq α] {f : α → Bool} {as : List α} {a b : α}
    (h : as.find? f = some a) (hne : b ≠ a) : (as.erase b).find? f = some a := by
  induction as with
  | nil => cases h
  | cons c rest ih =>
    rw [List.erase_cons]
    by_cases hc : c = b
    · -- the one that is taken away comes first: it is not the one that is found
      subst hc
      rw [if_pos (beq_self_eq_true c)]
      rw [List.find?_cons] at h
      cases hf : f c with
      | true =>
        rw [hf] at h
        exact absurd (Option.some.inj h) hne
      | false =>
        rw [hf] at h
        exact h
    · rw [if_neg (by simpa using hc)]
      rw [List.find?_cons] at h ⊢
      cases hf : f c with
      | true =>
        rw [hf] at h
        exact h
      | false =>
        rw [hf] at h
        exact ih h

/-- Who gives a lock back does not take one from who holds it. -/
theorem holder?_erase (h : p.holder? key = some task) (hne : other ≠ task) (k : LockKey) :
    { p with queue := p.queue.erase (other, k) }.holder? key = some task := by
  obtain ⟨r, hr, ht⟩ := Option.map_eq_some_iff.mp h
  have hfind : (p.queue.erase (other, k)).find? (fun r => r.2 == key) = some r := by
    refine find?_erase_of_ne hr ?_
    rintro rfl
    exact hne ht
  show ((p.queue.erase (other, k)).find? fun r => r.2 == key).map Prod.fst = some task
  rw [hfind, Option.map_some, ht]

/-- Who gives a lock back goes on holding the others. -/
theorem holder?_erase_of_ne {k : LockKey} (h : p.holder? key = some task)
    (hne : k ≠ key) (other : Nat) :
    { p with queue := p.queue.erase (other, k) }.holder? key = some task := by
  obtain ⟨r, hr, ht⟩ := Option.map_eq_some_iff.mp h
  have hfind : (p.queue.erase (other, k)).find? (fun r => r.2 == key) = some r := by
    refine find?_erase_of_ne hr ?_
    rintro rfl
    have hkey := List.find?_some (p := fun r : Nat × LockKey => r.2 == key) hr
    exact hne (beq_iff_eq.mp hkey)
  show ((p.queue.erase (other, k)).find? fun r => r.2 == key).map Prod.fst = some task
  rw [hfind, Option.map_some, ht]

/-! ### One turn -/

/-- The pool after a task has asked a question, with another queue. -/
def answered (p : Pool) (task : Nat) (q : Ask) (next : q.Answer → TaskScript)
    (queue : List (Nat × LockKey)) : Pool where
  backend := (p.backend.answer q).2
  queue := queue
  tasks := p.tasks.set task (next (p.backend.answer q).1)

/-- **What a task does on its turn**: nothing, or it queues for a lock, or it asks a question.
It asks for a lock only when it holds it, and no other lock changes hands. -/
theorem stepTask_cases (p : Pool) (task : Nat) :
    p.stepTask task = p ∨
      (∃ key, p.stepTask task = { p with queue := p.queue ++ [(task, key)] }) ∨
      ∃ q next queue, p.tasks[task]? = some (.ask q next) ∧
        p.stepTask task = p.answered task q next queue ∧
        (∀ key, q = .lock key → p.holder? key = some task) ∧
        (queue = p.queue ∨ ∃ key, q = .unlock key ∧ queue = p.queue.erase (task, key)) := by
  unfold stepTask
  cases ht : p.tasks[task]? with
  | none => exact .inl rfl
  | some t =>
    cases t with
    | done r => exact .inl rfl
    | ask q next =>
      cases q with
      | lock key =>
        dsimp only
        split
        · rename_i hholder
          refine .inr (.inr ⟨.lock key, next, p.queue, rfl, rfl, ?_, .inl rfl⟩)
          rintro _ ⟨⟩
          exact hholder
        · split
          · exact .inl rfl
          · exact .inr (.inl ⟨key, rfl⟩)
      | unlock key =>
        refine .inr (.inr ⟨.unlock key, next, _, rfl, rfl, nofun, .inr ⟨key, rfl, rfl⟩⟩)
      | _ => exact .inr (.inr ⟨_, next, p.queue, rfl, rfl, nofun, .inl rfl⟩)

/-- A lock that somebody else holds stays with them when a task asks a question. -/
theorem holder?_answered {q : Ask} {next : q.Answer → TaskScript} {queue : List (Nat × LockKey)}
    (hqueue : queue = p.queue ∨ ∃ key, q = .unlock key ∧ queue = p.queue.erase (task, key))
    (hne : task ≠ other) (h : p.holder? key = some other) :
    (p.answered task q next queue).holder? key = some other := by
  rcases hqueue with rfl | ⟨k, _, rfl⟩
  · exact h
  · exact holder?_erase h hne k

/-- Whoever has a lock still has it after their own question, if it does not give it back. -/
theorem holder?_answered_self {q : Ask} {next : q.Answer → TaskScript}
    {queue : List (Nat × LockKey)} (hgranted : ∀ key, q = .lock key → p.holder? key = some task)
    (hqueue : queue = p.queue ∨ ∃ key, q = .unlock key ∧ queue = p.queue.erase (task, key))
    (h : q = .lock key ∨ p.holder? key = some task ∧ q ≠ .unlock key) :
    (p.answered task q next queue).holder? key = some task := by
  rcases hqueue with rfl | ⟨k, rfl, rfl⟩
  · exact h.elim (hgranted key) And.left
  · rcases h with hlock | ⟨hheld, hkeep⟩
    · cases hlock
    · exact holder?_erase_of_ne hheld (fun he => hkeep (by rw [he])) task

section Tasks
variable {i j : Nat} {q : Ask} {next : q.Answer → TaskScript} {queue : List (Nat × LockKey)}
  {t : TaskScript}

/-- In the beginning every task stands before the script of its command. -/
theorem of_start {b : Backend} {commands : List (Supply × Command)}
    (h : (start b commands).tasks[i]? = some t) :
    ∃ supply command, commands[i]? = some (supply, command) ∧ t = (command.job supply).run := by
  have h : (commands.map fun c => (c.2.job c.1).run)[i]? = some t := h
  rw [List.getElem?_map] at h
  obtain ⟨⟨supply, command⟩, hi, rfl⟩ := Option.map_eq_some_iff.mp h
  exact ⟨supply, command, hi, rfl⟩

/-- A task that is answered makes no difference to where the others stand. -/
theorem answered_tasks_of_ne (h : j ≠ i) :
    (p.answered i q next queue).tasks[j]? = p.tasks[j]? := List.getElem?_set_ne (Ne.symm h)

/-- Once a task has been answered, that one has moved on, and all the others are where they
were. -/
theorem of_answered (h : (p.answered i q next queue).tasks[j]? = some t) :
    j = i ∧ t = next (p.backend.answer q).1 ∨ j ≠ i ∧ p.tasks[j]? = some t := by
  by_cases hji : j = i
  · subst hji
    have h : (p.tasks.set j _)[j]? = some t := h
    have hlt := (List.getElem?_eq_some_iff.mp h).1
    rw [List.length_set] at hlt
    rw [List.getElem?_set_self hlt] at h
    exact .inl ⟨rfl, (Option.some.inj h).symm⟩
  · rw [answered_tasks_of_ne hji] at h
    exact .inr ⟨hji, h⟩

/-- Nobody comes to the pool or leaves it when a task is answered. -/
theorem answered_tasks_none :
    (p.answered i q next queue).tasks[j]? = none ↔ p.tasks[j]? = none := by
  show (p.tasks.set i _)[j]? = none ↔ _
  rw [List.getElem?_eq_none_iff, List.getElem?_eq_none_iff, List.length_set]

/-- Once an event has been delivered, all are where they were, and a listener may have come. -/
theorem of_deliverNext (h : p.deliverNext.tasks[i]? = some t) :
    p.tasks[i]? = some t ∨
      p.tasks[i]? = none ∧
        ∃ d, t = ((fun _ => Outcome.nothing) <$> Loyalty.deliver d : Job Outcome).run := by
  unfold deliverNext at h
  split at h
  · exact .inl h
  · have h : (p.tasks ++ [_])[i]? = some t := h
    by_cases hlt : i < p.tasks.length
    · rw [List.getElem?_append_left hlt] at h
      exact .inl h
    · have hle := Nat.not_lt.mp hlt
      rw [List.getElem?_append_right hle] at h
      exact .inr ⟨List.getElem?_eq_none_iff.mpr hle, _,
        List.mem_singleton.mp (List.mem_of_getElem? h)⟩

/-- Who is in the pool when an event is delivered stays there. -/
theorem deliverNext_tasks (h : p.tasks[i]? = some t) : p.deliverNext.tasks[i]? = some t := by
  unfold deliverNext
  split
  · exact h
  · exact (List.getElem?_append_left (List.getElem?_eq_some_iff.mp h).1).trans h

theorem deliverNext_tasks_none (h : p.deliverNext.tasks[i]? = none) : p.tasks[i]? = none := by
  cases ht : p.tasks[i]? with
  | none => rfl
  | some t =>
    rw [deliverNext_tasks ht] at h
    cases h

/-- Delivering an event makes no difference to what is kept or to who waits for what. -/
theorem deliverNext_frame (p : Pool) :
    p.deliverNext.backend.repositories = p.backend.repositories ∧
      p.deliverNext.backend.faults = p.backend.faults ∧
      p.deliverNext.backend.units = p.backend.units ∧
      p.deliverNext.queue = p.queue := by
  unfold deliverNext
  split <;> exact ⟨rfl, rfl, rfl, rfl⟩

end Tasks

/-! ### Units of work -/

section Units
variable {i : Nat} {q : Ask} {next : q.Answer → TaskScript} {queue : List (Nat × LockKey)}

/-- Units of work can be begun after the turn, if they could be before. -/
def Turn.opensUnits : Turn → Bool
  | .faults switches => !switches.begun
  | .task _ | .deliver => true

/-- Units of work can be begun, and every task keeps to one of its own. -/
structure UnitsApart (p : Pool) (unit : Nat → UnitStage) : Prop where
  begun : p.backend.faults.begun = false
  orderly : ∀ (i : Nat) (t : TaskScript), p.tasks[i]? = some t → t.Orderly (unit i)
  holds : ∀ i, (unit i).Holds p.backend.units
  apart : ∀ i j, i ≠ j → (unit i).Apart (unit j)
  absent : ∀ i, p.tasks[i]? = none → unit i = .unopened

theorem UnitsApart.start {b : Backend} (hf : b.faults.begun = false)
    (commands : List (Supply × Command)) :
    (Pool.start b commands).UnitsApart fun _ => .unopened where
  begun := hf
  orderly i t ht := by
    obtain ⟨supply, command, -, rfl⟩ := of_start ht
    exact command.orderly
  holds _ := trivial
  apart _ _ _ := nofun
  absent _ _ := rfl

theorem UnitsApart.answered {unit : Nat → UnitStage} (h : p.UnitsApart unit)
    (ht : p.tasks[i]? = some (.ask q next)) :
    ∃ unit', (p.answered i q next queue).UnitsApart unit' := by
  obtain ⟨stage, hnext, hholds, hothers⟩ := (h.orderly i _ ht).proceed h.begun (h.holds i)
  have hbegun := (congrArg Faults.begun (p.backend.faults_answer q)).trans h.begun
  have hother (j : Nat) (hj : j ≠ i) := hothers _ (h.holds j) (h.apart i j (Ne.symm hj))
  refine ⟨Function.update unit i stage, hbegun, fun j t hj => ?_, ?_, fun j k hjk => ?_,
    fun j hj => ?_⟩
  · rcases of_answered hj with ⟨rfl, rfl⟩ | ⟨hji, hj⟩
    · rw [Function.update_self]
      exact hnext
    · rw [Function.update_of_ne hji]
      exact h.orderly j t hj
  · exact (Function.forall_update_iff unit (p := fun _ s => s.Holds _)).mpr
      ⟨hholds, fun j hj => (hother j hj).1⟩
  · by_cases hj : j = i
    · subst hj
      rw [Function.update_self, Function.update_of_ne (Ne.symm hjk)]
      exact (hother k (Ne.symm hjk)).2
    · rw [Function.update_of_ne hj]
      by_cases hk : k = i
      · subst hk
        rw [Function.update_self]
        exact (hother j hj).2.symm
      · rw [Function.update_of_ne hk]
        exact h.apart j k hjk
  · rw [answered_tasks_none] at hj
    have hji : j ≠ i := by
      rintro rfl
      rw [ht] at hj
      cases hj
    rw [Function.update_of_ne hji]
    exact h.absent j hj

theorem UnitsApart.deliverNext {unit : Nat → UnitStage} (h : p.UnitsApart unit) :
    p.deliverNext.UnitsApart unit := by
  obtain ⟨-, hfaults, hunits, -⟩ := p.deliverNext_frame
  refine ⟨(congrArg Faults.begun hfaults).trans h.begun, fun i t ht => ?_,
    fun i => hunits ▸ h.holds i, h.apart, fun i hi => h.absent i (deliverNext_tasks_none hi)⟩
  rcases of_deliverNext ht with ht | ⟨hnone, d, rfl⟩
  · exact h.orderly i t ht
  · rw [h.absent i hnone]
    exact (Loyalty.orderly_deliver d).map _

/-- **Every turn leaves everybody with a unit of work of their own**, whatever switch is set but
the one by which units cannot be begun. -/
theorem UnitsApart.step {unit : Nat → UnitStage} (h : p.UnitsApart unit) {turn : Turn}
    (hturn : turn.opensUnits = true) : ∃ unit', (p.step turn).UnitsApart unit' := by
  cases turn with
  | task i =>
    show ∃ unit', (p.stepTask i).UnitsApart unit'
    rcases p.stepTask_cases i with hstep | ⟨key, hstep⟩ | ⟨q, next, queue, ht, hstep, -, -⟩
    · rw [hstep]
      exact ⟨unit, h⟩
    · rw [hstep]
      exact ⟨unit, h.begun, h.orderly, h.holds, h.apart, h.absent⟩
    · rw [hstep]
      exact h.answered ht
  | deliver => exact ⟨unit, h.deliverNext⟩
  | faults faults =>
    have hbegun : faults.begun = false := by simpa [Turn.opensUnits] using hturn
    exact ⟨unit, hbegun, h.orderly, h.holds, h.apart, h.absent⟩

end Units

/-! ### Results -/

/-- What will come of a task, judging by where it stands now. -/
def outlook? (p : Pool) (task : Nat) : Option (Except Error Outcome) :=
  p.tasks[task]?.map fun t => (t.eval .empty).1

theorem outlook?_of_eval {t : TaskScript} {x : Except Error Outcome}
    (ht : p.tasks[task]? = some t) (hx : ∀ r, (t.eval r).1 = x) : p.outlook? task = some x := by
  rw [outlook?, ht, Option.map_some, hx]

theorem outlook?_of_result {x : Except Error Outcome} (h : p.result? task = some x) :
    p.tasks[task]? = some (.done x) ∧ p.outlook? task = some x := by
  unfold result? at h
  cases ht : p.tasks[task]? with
  | none =>
    rw [ht] at h
    cases h
  | some t =>
    cases t with
    | done y =>
      rw [ht] at h
      cases h
      exact ⟨rfl, outlook?_of_eval ht fun _ => rfl⟩
    | ask q next =>
      rw [ht] at h
      cases h

end Pool

end Storefront
