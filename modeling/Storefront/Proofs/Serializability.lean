import Mathlib.Data.List.Induction
import Storefront.Proofs.Conservation
import Storefront.Proofs.Explanation

/-! # Commands that run together

However the questions of several commands for stores and orders are interleaved, what comes of
them is what comes of them one after the other, in some order.  The order is that in which
they become quiet.  Every turn leaves the pool explained by an order
(`Pool.Explained.step`); in the end all commands are quiet, nothing is overlaid any more, and
the present is the past.
-/
namespace Storefront

open Repositories

variable {b : Backend} {used : List Uuid} {commands : List (Supply × Command)}

/-- A question that closes a script tells it nothing about what is kept, and changes nothing. -/
theorem Script.Orderly.closing_answer {α : Type} {q : Ask} {next : q.Answer → Script α}
    {stage : UnitStage} {b : Backend} (hs : (ask q next).Orderly stage) (hf : b.faults = .none)
    (hu : stage.Holds b.units) (hq : q.closing = true) :
    (b.answer q).2.repositories = b.repositories ∧
      ∀ r, (ask q next).eval r = (next (b.answer q).1).eval r := by
  by_cases hunits : q.ofUnits = true
  · exact hs.transparent hu hunits
  · obtain ⟨_, hr, _⟩ := Backend.answer_eq_reply hf (by simpa using hunits)
    rw [hr]
    cases q with
    | unlock | publish | count => exact ⟨rfl, fun _ => rfl⟩
    | commit | rollback => exact absurd rfl hunits
    | _ => cases hq

/-- A question that begins a unit of work leaves a script in two phases. -/
theorem Script.TwoPhase.unit_answer {α : Type} {q : Ask} {next : q.Answer → Script α}
    {stage : UnitStage} {b : Backend} {new : Uuid} {held seen : List LockKey}
    (h : (ask q next).TwoPhase new held seen) (hs : (ask q next).Orderly stage)
    (hu : stage.Holds b.units) (hunits : q.ofUnits = true) (hq : q.closing = false) :
    (next (b.answer q).1).TwoPhase new held seen := by
  cases q with
  | openUnit => exact h _
  | begin unit =>
    obtain ⟨rfl, _⟩ := hs
    rw [Backend.answer_begin hu]
    exact h
  | commit | rollback => cases hq
  | _ => cases hunits

/-- Who does not save customers leaves everything neat. -/
theorem Repositories.Neat.reply {A : CustomerId → Option Bool} {r : Repositories} (h : r.Neat A)
    {q : Ask} (hq : ∀ c, q ≠ .saveCustomer c) : (q.reply r).2.Neat A := by
  cases q with
  | saveStore s => exact ⟨h.records.keep (.store s), h.customers, h.activity⟩
  | saveOrder o => exact ⟨h.records.keep (.order o), h.customers, h.activity⟩
  | saveCustomer c => exact absurd rfl (hq c)
  | _ => exact h

theorem Overlay.of_eq {now now' past : Repositories} {hand : Nat → Hand}
    (h : Overlay now past hand) (hs : now'.stores = now.stores) (ho : now'.orders = now.orders) :
    Overlay now' past hand where
  keys := h.keys.trans (sameKeys_of_eq hs ho).symm
  fits i := (h.fits i).congr fun key _ => record?_congr hs ho key
  apart := h.apart
  free_eq key hk := (record?_congr hs ho key).trans (h.free_eq key hk)

namespace Pool.Explained

variable {p : Pool} {order : List Nat} {hand : Nat → Hand} {stage : Nat → UnitStage}
  {i : Nat} {q : Ask} {next : q.Answer → TaskScript} {queue : List (Nat × LockKey)}

/-- A command that has asked a question has moved. -/
theorem moved_of_orderly (h : p.Explained b commands order hand stage)
    (hs : (Script.ask q next).Orderly (stage i))
    (hneat : (p.backend.answer q).2.repositories.Neat b.repositories.activity)
    (hqueue : queue = p.queue ∨ ∃ key, q = .unlock key ∧ queue = p.queue.erase (i, key)) :
    ∃ st, (next (p.backend.answer q).1).Orderly st ∧
      Moved b.repositories.activity stage p (p.answered i q next queue) i
        (next (p.backend.answer q).1) st := by
  obtain ⟨st, horderly, hholds, hfaults, hothers⟩ := hs.step h.faults (h.holds i)
  refine ⟨st, horderly, rfl, hfaults, hneat, ?_, fun j hj => ?_, fun j hj key hk => ?_⟩
  · exact (Function.forall_update_iff stage (p := fun _ s => s.Holds _)).mpr
      ⟨hholds, fun j hj => (hothers _ (h.holds j) (h.apart i j (Ne.symm hj))).1⟩
  · exact (hothers _ (h.holds j) (h.apart i j (Ne.symm hj))).2
  · exact holder?_answered hqueue (Ne.symm hj) hk

/-- A listener has asked a question. -/
theorem listen (h : p.Explained b commands order hand stage)
    (ht : p.tasks[i]? = some (.ask q next)) (hi : commands[i]? = none)
    (hb : (Script.ask q next).Bystander b.repositories.activity)
    (hqueue : queue = p.queue ∨ ∃ key, q = .unlock key ∧ queue = p.queue.erase (i, key)) :
    ∃ hand' stage', (p.answered i q next queue).Explained b commands order hand' stage' := by
  obtain ⟨hnext, haside⟩ := hb.step h.neat.activity h.neat.customers
  have hm : Moved b.repositories.activity stage p (p.answered i q next queue) i
      (next (p.backend.answer q).1) (stage i) := by
    refine ⟨rfl, haside.faults.trans h.faults, ⟨fun key w hw => ?_, haside.keyed h.neat.customers,
      haside.activity.trans h.neat.activity⟩, fun j => ?_, fun j hj => h.apart i j (Ne.symm hj),
      fun j hj key hk => holder?_answered hqueue (Ne.symm hj) hk⟩
    · have hw : (p.backend.answer q).2.repositories.record? key = some w := hw
      rw [record?_congr haside.stores haside.orders] at hw
      exact h.neat.records key w hw
    · rw [Function.update_eq_self]
      exact haside.units ▸ h.holds j
  refine ⟨_, _, h.move_same (d := hand i) hm (List.getElem?_eq_some_iff.mp ht).1 (h.beyond i)
    ?_ ?_ ?_ (.listens hi hnext)⟩
  · rw [h.beyond i hi]
    exact fun _ hk => absurd hk List.not_mem_nil
  · -- a listener is no command, and so does not belong to the past
    intro ho
    have hlt := h.bound i ho
    rw [List.getElem?_eq_none_iff] at hi
    omega
  · rw [Function.update_eq_self]
    exact h.overlay.of_eq haside.stores haside.orders

/-- A command that belongs to the past has asked a question. -/
theorem close (h : p.Explained b commands order hand stage)
    (ht : p.tasks[i]? = some (.ask q next)) {c : Supply × Command} (hi : commands[i]? = some c)
    (ho : i ∈ order) (hh : hand i = .empty) (hs : (Script.ask q next).Orderly (stage i))
    (hquiet : (Script.ask q next).Quiet)
    (hqueue : queue = p.queue ∨ ∃ key, q = .unlock key ∧ queue = p.queue.erase (i, key)) :
    ∃ hand' stage', (p.answered i q next queue).Explained b commands order hand' stage' := by
  obtain ⟨hrepos, heval⟩ := hs.closing_answer h.faults (h.holds i) hquiet.1
  obtain ⟨st, horderly, hm⟩ := h.moved_of_orderly hs (hrepos.symm ▸ h.neat) hqueue
  have hlt := (List.getElem?_eq_some_iff.mp ht).1
  refine ⟨_, _, h.move_same (d := hand i) hm hlt (h.beyond i) ?_ ?_ ?_
    (.closes hi ho hh horderly (hquiet.2 _))⟩
  · rw [hh]
    exact fun _ hk => absurd hk List.not_mem_nil
  · intro _
    -- what will come of a quiet script is not changed by closing it
    have ht' : (p.answered i q next queue).tasks[i]? = some (next (p.backend.answer q).1) :=
      List.getElem?_set_self hlt
    rw [outlook?, outlook?, ht, ht', Option.map_some, Option.map_some, heval]
  · rw [Function.update_eq_self]
    show Overlay (p.backend.answer q).2.repositories _ _
    rw [hrepos]
    exact h.overlay

/-- A command that is quiet before it is asked anything more becomes part of the past. -/
theorem add_quiet (h : p.Explained b commands order hand stage) (hr : b.Ready used commands)
    {t : TaskScript} (ht : p.tasks[i]? = some t) {supply : Supply} {command : Command}
    (hi : commands[i]? = some (supply, command)) (ho : i ∉ order) (horderly : t.Orderly (stage i))
    (hfollows : Follows b.repositories.activity (b.serially commands order).2.repositories
      (command.job supply).run t (hand i)) (hquiet : t.Quiet) :
    p.Explained b commands (order ++ [i]) (Function.update hand i .empty) stage := by
  obtain ⟨hlt, hget⟩ := List.getElem?_eq_some_iff.mp ht
  have hm : Moved b.repositories.activity stage p p i t (stage i) := by
    refine ⟨?_, h.faults, h.neat, ?_, fun j hj => h.apart i j (Ne.symm hj), fun _ _ _ hk => hk⟩
    · rw [← hget, List.set_getElem_self]
    · rw [Function.update_eq_self]
      exact h.holds
  have hnothing : ∀ w ∈ ([] : List Record), p.backend.repositories.record? w.key = none :=
    fun _ hw => absurd hw List.not_mem_nil
  have hall := h.move_add hr hm hlt hi ho hnothing rfl (hfollows _ (fun _ _ => rfl) h.active)
    horderly hquiet
  rwa [Function.update_eq_self] at hall

/-- A command that is under way has begun its unit of work: nothing of what is kept is
concerned. -/
theorem begin_unit (h : p.Explained b commands order hand stage)
    (ht : p.tasks[i]? = some (.ask q next)) {supply : Supply} {command : Command}
    (hi : commands[i]? = some (supply, command)) (ho : i ∉ order)
    (hs : (Script.ask q next).Orderly (stage i))
    (hd : (Script.ask q next).TwoPhase (supply.uuid 0) (hand i).held (hand i).seen)
    (hfollows : Follows b.repositories.activity (b.serially commands order).2.repositories
      (command.job supply).run (.ask q next) (hand i))
    (hunits : q.ofUnits = true) (hq : q.closing = false) :
    ∃ hand' stage', (p.answered i q next p.queue).Explained b commands order hand' stage' := by
  obtain ⟨hrepos, heval⟩ := hs.transparent (h.holds i) hunits
  obtain ⟨st, horderly, hm⟩ := h.moved_of_orderly hs (hrepos.symm ▸ h.neat) (.inl rfl)
  have hnext := hd.unit_answer hs (h.holds i) hunits hq
  refine ⟨_, _, h.move_same (d := hand i) hm (List.getElem?_eq_some_iff.mp ht).1 (h.beyond i)
    (h.locked i) (fun hm => absurd hm ho) ?_ (.works hi ho horderly hnext ?_)⟩
  · rw [Function.update_eq_self]
    show Overlay (p.backend.answer q).2.repositories _ _
    rw [hrepos]
    exact h.overlay
  · intro r hr hA
    rw [hfollows r hr hA, heval]

/-- A command that is under way has asked a question that does not close it. -/
theorem work (h : p.Explained b commands order hand stage) (hr : b.Ready used commands)
    (ht : p.tasks[i]? = some (.ask q next)) {supply : Supply} {command : Command}
    (hi : commands[i]? = some (supply, command)) (ho : i ∉ order)
    (hs : (Script.ask q next).Orderly (stage i))
    (hd : (Script.ask q next).TwoPhase (supply.uuid 0) (hand i).held (hand i).seen)
    (hfollows : Follows b.repositories.activity (b.serially commands order).2.repositories
      (command.job supply).run (.ask q next) (hand i))
    (hq : q.closing = false) (hgranted : ∀ key, q = .lock key → p.holder? key = some i) :
    ∃ order' hand' stage',
      (p.answered i q next p.queue).Explained b commands order' hand' stage' := by
  have hlt := (List.getElem?_eq_some_iff.mp ht).1
  have hsome : commands[i]? ≠ none := by
    rw [hi]
    exact Option.some_ne_none _
  by_cases hunits : q.ofUnits = true
  · exact ⟨order, h.begin_unit ht hi ho hs hd hfollows hunits hq⟩
  · have hunits : q.ofUnits = false := by simpa using hunits
    obtain ⟨hanswer, hrepos, _⟩ := Backend.answer_eq_reply h.faults hunits
    have hsave : ∀ c, q ≠ .saveCustomer c := by
      rintro c rfl
      exact hd
    have hneat := h.neat.reply hsave
    rw [← hrepos] at hneat
    obtain ⟨st, horderly, hm⟩ := h.moved_of_orderly hs hneat (.inl rfl)
    -- nobody else holds a lock that is granted to this task
    have hlock : ∀ key, q = .lock key → ∀ j ≠ i, key ∉ (hand j).held := by
      intro key hkey j hj hm
      have hi := hgranted key hkey
      rw [h.locked j key hm] at hi
      exact hj (Option.some.inj hi)
    cases hd.step h.overlay hfollows h.neat.records h.neat.activity h.active
        (hr.unmade h.nodup ho hi h.overlay.keys) hlock hunits hq with
    | onward d overlay discipline follows held =>
      rw [← hrepos] at overlay
      rw [← hanswer] at discipline follows
      refine ⟨_, _, _, h.move_same hm hlt (fun hn => absurd hn hsome) (fun key hk => ?_)
        (fun hm => absurd hm ho) overlay (.works hi ho horderly discipline follows)⟩
      rcases held key hk with hk | hk
      · exact h.locked i key hk
      · exact hgranted key hk
    | ending made quiet unmade now_eq eval_eq =>
      rw [← hrepos] at now_eq
      rw [← hanswer] at quiet eval_eq
      exact ⟨_, _, _, h.move_add hr hm hlt hi ho unmade now_eq eval_eq horderly quiet⟩

/-- A task has queued for a lock. -/
theorem enqueue (h : p.Explained b commands order hand stage) (request : Nat × LockKey) :
    { p with queue := p.queue ++ [request] }.Explained b commands order hand stage :=
  ⟨h.faults, h.neat, h.holds, h.apart, fun i key hk => holder?_append (h.locked i key hk) request,
    h.length, h.beyond, h.nodup, h.bound, h.active, h.results, h.overlay, h.standing⟩

/-- **A task on its turn leaves the pool explained.** -/
theorem stepTask (h : p.Explained b commands order hand stage) (hr : b.Ready used commands)
    (i : Nat) :
    ∃ order' hand' stage', (p.stepTask i).Explained b commands order' hand' stage' := by
  rcases p.stepTask_cases i with hstep | ⟨key, hstep⟩ |
    ⟨q, next, queue, ht, hstep, hgranted, hqueue⟩
  · rw [hstep]
    exact ⟨order, hand, stage, h⟩
  · rw [hstep]
    exact ⟨order, hand, stage, h.enqueue (i, key)⟩
  · rw [hstep]
    cases h.standing i _ ht with
    | listens hi bystander => exact ⟨order, h.listen ht hi bystander hqueue⟩
    | closes hi ho hh orderly quiet => exact ⟨order, h.close ht hi ho hh orderly quiet hqueue⟩
    | works hi ho orderly discipline follows =>
      cases hq : q.closing with
      | true =>
        -- the command becomes part of the past first, and then closes
        have hquiet := discipline.quiet hq
        have hadded := h.add_quiet hr ht hi ho orderly follows hquiet
        exact ⟨_, hadded.close ht hi (List.mem_append_right _ (List.mem_singleton.mpr rfl))
          (Function.update_self ..) orderly hquiet hqueue⟩
      | false =>
        rcases hqueue with rfl | ⟨key, rfl, _⟩
        · exact h.work hr ht hi ho orderly discipline follows hq hgranted
        · cases hq

/-- A listener that is told of an event joins the pool. -/
theorem deliverNext (h : p.Explained b commands order hand stage) :
    p.deliverNext.Explained b commands order hand stage := by
  unfold Pool.deliverNext
  cases p.backend.deliveries with
  | nil => exact h
  | cons d rest =>
    have hold : ∀ i, i < p.tasks.length → ∀ t : TaskScript,
        (p.tasks ++ [t])[i]? = p.tasks[i]? := fun i hi t => List.getElem?_append_left hi
    refine ⟨h.faults, h.neat, h.holds, h.apart, h.locked, ?_, h.beyond, h.nodup, h.bound, h.active,
      ?_, h.overlay, ?_⟩
    · exact Nat.le_trans h.length (by simp)
    · rw [h.results]
      refine List.filterMap_congr fun i hi => ?_
      rw [outlook?, outlook?, hold i (Nat.lt_of_lt_of_le (h.bound i hi) h.length)]
    · intro i t ht
      by_cases hi : i < p.tasks.length
      · have ht : (p.tasks ++ [_])[i]? = some t := ht
        rw [hold i hi] at ht
        exact h.standing i t ht
      · -- the new task comes behind all commands
        have hnone : commands[i]? = none :=
          List.getElem?_eq_none_iff.mpr (Nat.le_trans h.length (Nat.not_lt.mp hi))
        refine .listens hnone ?_
        have ht : (p.tasks ++ [_])[i]? = some t := ht
        rw [List.getElem?_append_right (Nat.not_lt.mp hi)] at ht
        have hjob := List.mem_singleton.mp (List.mem_of_getElem? ht)
        rw [hjob, map_eq_pure_bind, Job.run_bind]
        refine (Loyalty.bystander_deliver d).bind fun x => ?_
        cases x <;> trivial

end Pool.Explained

/-- Whether the turn leaves all switches as they are. -/
def Pool.Turn.ofTasks : Pool.Turn → Bool
  | .faults _ => false
  | .task _ | .deliver => true

theorem Pool.Turn.opensUnits_of_ofTasks {turn : Turn} (hturn : turn.ofTasks = true) :
    turn.opensUnits = true := by
  cases turn with
  | faults faults => cases hturn
  | task | deliver => rfl

theorem Pool.faults_step {p : Pool} {turn : Turn} (hturn : turn.ofTasks = true) :
    (p.step turn).backend.faults = p.backend.faults := by
  cases turn with
  | task i =>
    show (p.stepTask i).backend.faults = _
    rcases p.stepTask_cases i with hstep | ⟨key, hstep⟩ | ⟨q, next, queue, -, hstep, -, -⟩
    · rw [hstep]
    · rw [hstep]
    · rw [hstep]
      exact Backend.faults_answer q
  | deliver => exact p.deliverNext_frame.2.1
  | faults faults => cases hturn

namespace Pool.Explained

variable {p : Pool} {order : List Nat} {hand : Nat → Hand} {stage : Nat → UnitStage}

/-- **Every turn leaves the pool explained**, by an order that may have become longer. -/
theorem step (h : p.Explained b commands order hand stage) (hr : b.Ready used commands)
    {turn : Turn} (hturn : turn.ofTasks = true) :
    ∃ order' hand' stage', (p.step turn).Explained b commands order' hand' stage' := by
  cases turn with
  | task i => exact h.stepTask hr i
  | deliver => exact ⟨order, hand, stage, h.deliverNext⟩
  | faults faults => cases hturn

/-- **So does every schedule.** -/
theorem run (h : p.Explained b commands order hand stage) (hr : b.Ready used commands)
    {schedule : List Turn} (hs : ∀ turn ∈ schedule, turn.ofTasks = true) :
    ∃ order' hand' stage', (p.run schedule).Explained b commands order' hand' stage' := by
  induction schedule generalizing p order hand stage with
  | nil => exact ⟨order, hand, stage, h⟩
  | cons turn rest ih =>
    obtain ⟨order', hand', stage', hstep⟩ := h.step hr (hs turn (List.mem_cons_self ..))
    exact ih hstep fun t ht => hs t (List.mem_cons_of_mem _ ht)

/-- Before anything has happened, nothing is past and nobody has anything in hand. -/
theorem start (hr : b.Ready used commands) :
    (Pool.start b commands).Explained b commands [] (fun _ => .empty) (fun _ => .unopened) where
  faults := hr.faults
  neat := by
    refine ⟨fun key w hw => ?_, hr.kept.sound.customer, rfl⟩
    cases key with
    | store id =>
      obtain ⟨s, hs, rfl⟩ := Option.map_eq_some_iff.mp hw
      exact congrArg LockKey.store (hr.kept.sound.store id s hs).1
    | order id =>
      obtain ⟨o, ho, rfl⟩ := Option.map_eq_some_iff.mp hw
      exact congrArg LockKey.order (hr.kept.sound.order id o ho).1
    | customer id => cases hw
  holds _ := trivial
  apart _ _ _ := nofun
  locked _ _ hk := absurd hk List.not_mem_nil
  length := by simp [Pool.start]
  beyond _ _ := rfl
  nodup := List.nodup_nil
  bound _ hi := absurd hi List.not_mem_nil
  active := rfl
  results := rfl
  overlay := Overlay.refl _
  standing i t ht := by
    have ht : (commands.map fun c => (c.2.job c.1).run)[i]? = some t := ht
    rw [List.getElem?_map] at ht
    obtain ⟨⟨supply, command⟩, hc, rfl⟩ := Option.map_eq_some_iff.mp ht
    exact .works hc List.not_mem_nil (Command.orderly command)
      (Command.twoPhase (hr.kind _ (List.mem_of_getElem? hc))) fun _ _ _ => rfl

/-- **When the first so many commands have come to their ends**, an order explains the pool that
they all belong to. -/
theorem complete (h : p.Explained b commands order hand stage) (hr : b.Ready used commands)
    {n : Nat} (hn : n ≤ commands.length) (hdone : ∀ i < n, (p.result? i).isSome = true) :
    ∃ order' hand' stage', p.Explained b commands order' hand' stage' ∧ ∀ i < n, i ∈ order' := by
  induction n with
  | zero => exact ⟨order, hand, stage, h, fun i hi => absurd hi (Nat.not_lt_zero i)⟩
  | succ n ih =>
    obtain ⟨order', hand', stage', h', hmem⟩ :=
      ih (Nat.le_of_succ_le hn) fun i hi => hdone i (Nat.lt_succ_of_lt hi)
    by_cases hm : n ∈ order'
    · refine ⟨order', hand', stage', h', fun i hi => ?_⟩
      rcases Nat.lt_succ_iff_lt_or_eq.mp hi with hi | rfl
      · exact hmem i hi
      · exact hm
    · -- a command that is done is quiet, and can become part of the past now
      obtain ⟨x, hx⟩ := Option.isSome_iff_exists.mp (hdone n (Nat.lt_succ_self n))
      have ht := (outlook?_of_result hx).1
      have hquiet : Script.Quiet (Script.done x) := trivial
      cases h'.standing n _ ht with
      | listens hi bystander =>
        rw [List.getElem?_eq_none_iff] at hi
        omega
      | works hi ho orderly discipline follows =>
        refine ⟨_, _, _, h'.add_quiet hr ht hi ho orderly follows hquiet, fun i hi => ?_⟩
        rcases Nat.lt_succ_iff_lt_or_eq.mp hi with hi | rfl
        · exact List.mem_append_left _ (hmem i hi)
        · exact List.mem_append_right _ (List.mem_singleton.mpr rfl)
      | closes hi ho hh orderly quiet => exact absurd ho hm

end Pool.Explained

/-- **However commands run together, what comes of them and what they leave is what comes of
them and what they leave one after the other, in some order.** -/
theorem Pool.serial_of_ready (hr : b.Ready used commands) (schedule : List Turn)
    (hs : ∀ turn ∈ schedule, turn.ofTasks = true)
    (hdone : ∀ i < commands.length,
      (((Pool.start b commands).run schedule).result? i).isSome = true) :
    let p := (Pool.start b commands).run schedule
    ∃ order, order.Perm (List.range commands.length) ∧
      (b.serially commands order).1 = order.filterMap p.result? ∧
      p.backend.repositories.stores = (b.serially commands order).2.repositories.stores ∧
      p.backend.repositories.orders = (b.serially commands order).2.repositories.orders := by
  intro p
  obtain ⟨_, _, _, hrun⟩ := (Explained.start hr).run hr hs
  obtain ⟨order, hand, stage, h, hall⟩ := hrun.complete hr (Nat.le_refl _) hdone
  refine ⟨order, ?_, ?_, ?_⟩
  · refine (List.perm_ext_iff_of_nodup h.nodup List.nodup_range).mpr fun i => ?_
    rw [List.mem_range]
    exact ⟨h.bound i, hall i⟩
  · rw [h.results]
    refine List.filterMap_congr fun i hi => ?_
    obtain ⟨x, hx⟩ := Option.isSome_iff_exists.mp (hdone i (h.bound i hi))
    rw [(outlook?_of_result hx).2, hx]
  · -- nobody has anything in hand any more
    have hempty : ∀ i, hand i = .empty := by
      intro i
      by_cases hi : i < commands.length
      · obtain ⟨x, hx⟩ := Option.isSome_iff_exists.mp (hdone i hi)
        cases h.standing i _ (outlook?_of_result hx).1 with
        | listens hn _ => exact h.beyond i hn
        | works _ ho => exact absurd (hall i hi) ho
        | closes _ _ hh => exact hh
      · exact h.beyond i (List.getElem?_eq_none_iff.mpr (Nat.not_lt.mp hi))
    refine eq_of_record? h.overlay.keys fun key => h.overlay.free_eq key fun i => ?_
    rw [hempty]
    exact List.not_mem_nil

/-! ### In whatever order -/

/-- The results of the first so many tasks, as far as they have come to their ends. -/
def Pool.firstResults (p : Pool) (n : Nat) : List (Except Error Outcome) :=
  (List.range n).filterMap p.result?

theorem Pool.length_firstResults {p : Pool} {n : Nat}
    (h : ∀ i < n, (p.result? i).isSome = true) : (p.firstResults n).length = n := by
  rw [firstResults, List.length_filterMap_eq_countP, List.countP_eq_length.mpr, List.length_range]
  exact fun i hi => h i (List.mem_range.mp hi)

theorem pick_range (commands : List (Supply × Command)) :
    pick commands (List.range commands.length) = commands := by
  induction commands using List.reverseRecOn with
  | nil => rfl
  | append_singleton commands c ih =>
    have hlast : (commands ++ [c])[commands.length]? = some c := List.getElem?_concat_length
    have hfirst : pick (commands ++ [c]) (List.range commands.length) =
        pick commands (List.range commands.length) := by
      refine List.filterMap_congr fun i hi => ?_
      exact List.getElem?_append_left (List.mem_range.mp hi)
    rw [List.length_append, List.length_singleton, List.range_succ, pick_snoc hlast, hfirst, ih]

/-- A sum over commands and their results is a sum over the places where they stand. -/
theorem total_pick (f : Command × Except Error Outcome → Nat)
    (commands : List (Supply × Command)) (result : Nat → Option (Except Error Outcome))
    (order : List Nat) (hc : ∀ i ∈ order, i < commands.length)
    (hr : ∀ i ∈ order, (result i).isSome = true) :
    Backend.total f (pick commands order) (order.filterMap result) =
      (order.map fun i => ((commands[i]?.bind fun c => (result i).map fun x =>
        f (c.2, x)).getD 0)).sum := by
  induction order with
  | nil => rfl
  | cons i rest ih =>
    have hrest := ih (fun j hj => hc j (List.mem_cons_of_mem _ hj)) fun j hj =>
      hr j (List.mem_cons_of_mem _ hj)
    obtain ⟨x, hx⟩ := Option.isSome_iff_exists.mp (hr i (List.mem_cons_self ..))
    obtain ⟨⟨supply, command⟩, hi⟩ : ∃ c, commands[i]? = some c :=
      ⟨_, List.getElem?_eq_getElem (hc i (List.mem_cons_self ..))⟩
    have hpick : pick commands (i :: rest) = (supply, command) :: pick commands rest :=
      List.filterMap_cons_some hi
    rw [hpick, List.filterMap_cons_some hx, Backend.total_cons, hrest, List.map_cons,
      List.sum_cons, hi, Option.bind_some, hx, Option.map_some, Option.getD_some]

/-- **What is summed up over commands and their results does not depend on their order.** -/
theorem Pool.total_eq (f : Command × Except Error Outcome → Nat) {p : Pool} {order : List Nat}
    (hperm : order.Perm (List.range commands.length))
    (hdone : ∀ i < commands.length, (p.result? i).isSome = true) :
    Backend.total f commands (p.firstResults commands.length) =
      Backend.total f (pick commands order) (order.filterMap p.result?) := by
  have hbound : ∀ i ∈ order, i < commands.length := fun i hi =>
    List.mem_range.mp (hperm.mem_iff.mp hi)
  have hrange := total_pick f commands p.result? (List.range commands.length)
    (fun i => List.mem_range.mp) fun i hi => hdone i (List.mem_range.mp hi)
  rw [pick_range] at hrange
  rw [firstResults, hrange,
    total_pick f commands p.result? order hbound fun i hi => hdone i (hbound i hi)]
  exact (hperm.map _).symm.sum_nat

/-! ### Together -/

/-- Commands with new identifiers can be run together after every run. -/
theorem Backend.ready_of_run {before commands : List (Supply × Command)}
    (hfresh : Fresh (before ++ commands)) (hkind : ∀ c ∈ commands, c.2.ofCustomers = false) :
    (empty.executeAll before).2.Ready (before.map fun c => c.1.uuid 0) commands := by
  rw [Fresh, List.map_append, List.nodup_append] at hfresh
  obtain ⟨hbefore, hcommands, hdisjoint⟩ := hfresh
  obtain ⟨hkept, hfaults⟩ := wellKept_of_run hbefore
  refine ⟨hfaults, hkept, hcommands, fun c hc hm => ?_, hkind⟩
  exact hdisjoint _ hm _ (List.mem_map.mpr ⟨c, hc, rfl⟩) rfl

namespace Pool

/-- **Commands for stores and orders that run together do as if they ran one after the other.**
Whatever the turns by which they all come to their ends, and although events may be delivered
in between, there is an order in which they give the same results one by one and leave the same
stores and orders.  Hence no stock is set aside twice and none that is added or put back is
lost, and of all the cancellations of one order at most one is carried out. -/
theorem serializable (before commands : List (Supply × Command)) (schedule : List Turn)
    (hfresh : Backend.Fresh (before ++ commands))
    (hkind : ∀ c ∈ commands, c.2.ofCustomers = false)
    (hschedule : ∀ turn ∈ schedule, turn.ofTasks = true)
    (hdone : ∀ i < commands.length,
      (((start (Backend.empty.executeAll before).2 commands).run schedule).result? i).isSome =
        true) :
    let b := (Backend.empty.executeAll before).2
    let p := (start b commands).run schedule
    let results := p.firstResults commands.length
    (∃ order, order.Perm (List.range commands.length) ∧
      (b.executeAll (pick commands order)).1 = order.filterMap p.result? ∧
        p.backend.repositories.stores =
          (b.executeAll (pick commands order)).2.repositories.stores ∧
        p.backend.repositories.orders =
          (b.executeAll (pick commands order)).2.repositories.orders) ∧
      (∀ store product, p.backend.repositories.stockOf store product +
          Backend.total (withdrawn store product) commands results =
        b.repositories.stockOf store product +
          Backend.total (fun c => restocked store product c + returned store product c) commands
            results) ∧
      ∀ id, Backend.total (cancels id) commands results ≤ 1 := by
  intro b p results
  have hr := Backend.ready_of_run hfresh hkind
  obtain ⟨order, hperm, hresults, hstores, horders⟩ :=
    serial_of_ready hr schedule hschedule hdone
  have hpick : ∀ c ∈ pick commands order, c.1.uuid 0 ∉ before.map fun c => c.1.uuid 0 := by
    intro c hc
    obtain ⟨i, _, hi⟩ := mem_pick.mp hc
    exact hr.new c (List.mem_of_getElem? hi)
  have hfreshPick := fresh_pick hr.fresh (hperm.nodup_iff.mpr List.nodup_range)
  -- sums over the results are those over the results one by one
  have htotal : ∀ f, Backend.total f commands results =
      Backend.total f (pick commands order) (b.executeAll (pick commands order)).1 := fun f =>
    (total_eq f hperm hdone).trans (by rw [← hresults]; rfl)
  refine ⟨⟨order, hperm, hresults, hstores, horders⟩, fun store product => ?_, fun id => ?_⟩
  · have hflow := Backend.run_stock_flow (pick commands order) hr.faults hr.kept hfreshPick hpick
      store product
    rw [htotal, htotal, stockOf, hstores]
    exact hflow
  · rw [htotal]
    exact Backend.run_cancels_le_one (pick commands order) hr.faults hr.kept hfreshPick hpick id

/-- Two of the three pears are left when two orders for two pears each come in, and the order for
the third is cancelled twice at the same time. -/
def rush : List (Supply × Command) := [
  (Supply.nth 7, .createOrder Sample.ann Sample.shop [⟨Sample.pear, 2⟩]),
  (Supply.nth 8, .createOrder Sample.ann Sample.shop [⟨Sample.pear, 1⟩, ⟨Sample.pear, 1⟩]),
  (Supply.nth 9, .cancelOrder (Sample.order 6) "late"),
  (Supply.nth 10, .cancelOrder (Sample.order 6) "later")]

/-- What goes before. -/
def beforeRush : List (Supply × Command) := Sample.numbered (Sample.opening ++ [
  .createOrder Sample.ann Sample.shop [⟨Sample.apple, 2⟩, ⟨Sample.pear, 1⟩]])

/-- The four take turns, not in the order in which they stand, while events are delivered. -/
def rushTurns : List Turn :=
  (List.replicate 10 [.task 1, .task 0, .task 2, .task 3, .deliver, .task 4, .task 2]).flatten ++
    rounds 4 30

theorem serializable_rush :
    let b := (Backend.empty.executeAll beforeRush).2
    let p := (start b rush).run rushTurns
    (∃ order, order.Perm (List.range 4) ∧
      (b.executeAll (pick rush order)).1 = order.filterMap p.result? ∧
        p.backend.repositories.stores = (b.executeAll (pick rush order)).2.repositories.stores ∧
        p.backend.repositories.orders = (b.executeAll (pick rush order)).2.repositories.orders) ∧
      p.backend.repositories.stockOf Sample.shop Sample.pear + 2 = 2 + 1 ∧
      Backend.total (cancels (Sample.order 6)) rush (p.firstResults 4) ≤ 1 := by
  have hwithdrawn : Backend.total (withdrawn Sample.shop Sample.pear) rush
      (((start (Backend.empty.executeAll beforeRush).2 rush).run rushTurns).firstResults 4) =
        2 := by
    decide +kernel
  have hreturned : Backend.total
      (fun c => restocked Sample.shop Sample.pear c + returned Sample.shop Sample.pear c) rush
      (((start (Backend.empty.executeAll beforeRush).2 rush).run rushTurns).firstResults 4) =
        1 := by
    decide +kernel
  have hleft : (Backend.empty.executeAll beforeRush).2.repositories.stockOf Sample.shop
      Sample.pear = 2 := by decide +kernel
  obtain ⟨horder, hstock, hcancels⟩ := serializable beforeRush rush rushTurns (by decide +kernel)
    (by decide +kernel) (by decide +kernel) (by decide +kernel)
  have hpears := hstock Sample.shop Sample.pear
  rw [show rush.length = 4 from rfl, hwithdrawn, hreturned, hleft] at hpears
  exact ⟨horder, hpears, hcancels _⟩

end Pool

end Storefront
