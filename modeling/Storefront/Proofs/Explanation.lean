import Mathlib.Data.List.Nodup
import Storefront.Proofs.Execution
import Storefront.Proofs.Turns

/-! # How a pool is explained

Of the commands in a pool some have become quiet: they have done the last thing that matters to
what is kept.  The invariant `Pool.Explained` says that what is kept now is what these leave
when they are carried out one after the other, overlaid with what each of the others has kept
under its locks; and that each of the others gets on as it would in that past.

When a task has moved, it is enough to look at this task: the past stays as it is and the task
has something else in hand (`Pool.Explained.move_same`), or the task has become quiet and its
command comes last in the past (`Pool.Explained.move_add`).
-/
namespace Storefront

open Repositories

variable {b : Backend} {used : List Uuid} {commands : List (Supply × Command)}

/-! ### One after the other, in another order -/

/-- Some of the commands, in an order of their own. -/
def pick (commands : List (Supply × Command)) (order : List Nat) : List (Supply × Command) :=
  order.filterMap (commands[·]?)

/-- Carries some of the commands out one after the other, in an order of their own. -/
def Backend.serially (b : Backend) (commands : List (Supply × Command)) (order : List Nat) :
    List (Except Error Outcome) × Backend := b.executeAll (pick commands order)

theorem pick_snoc {order : List Nat} {i : Nat} {c : Supply × Command}
    (hi : commands[i]? = some c) : pick commands (order ++ [i]) = pick commands order ++ [c] := by
  rw [pick, List.filterMap_append]
  simp [pick, hi]

/-- One command more comes last. -/
theorem Backend.serially_snoc (b : Backend) {order : List Nat} {i : Nat} {supply : Supply}
    {command : Command} (hi : commands[i]? = some (supply, command)) :
    b.serially commands (order ++ [i]) =
      ((b.serially commands order).1 ++
          [((b.serially commands order).2.execute supply command).1],
        ((b.serially commands order).2.execute supply command).2) := by
  rw [serially, pick_snoc hi, executeAll_append]
  rfl

theorem mem_pick {order : List Nat} {c : Supply × Command} :
    c ∈ pick commands order ↔ ∃ i ∈ order, commands[i]? = some c := List.mem_filterMap

/-- Commands with different identifiers have different identifiers in every order. -/
theorem fresh_pick (hfresh : Backend.Fresh commands) {order : List Nat} (hn : order.Nodup) :
    Backend.Fresh (pick commands order) := by
  induction order with
  | nil => exact List.nodup_nil
  | cons i rest ih =>
    obtain ⟨hi, hrest⟩ := List.nodup_cons.mp hn
    unfold pick
    rw [List.filterMap_cons]
    cases hc : commands[i]? with
    | none => exact ih hrest
    | some c =>
      refine List.nodup_cons.mpr ⟨fun hm => ?_, ih hrest⟩
      obtain ⟨d, hd, he⟩ := List.mem_map.mp hm
      obtain ⟨j, hj, hd⟩ := mem_pick.mp hd
      -- two places with one identifier are one place
      have hji : (commands.map fun c => c.1.uuid 0)[j]? =
          (commands.map fun c => c.1.uuid 0)[i]? := by
        rw [List.getElem?_map, List.getElem?_map, hd, hc, Option.map_some, Option.map_some, he]
      have hlt : j < (commands.map fun c => c.1.uuid 0).length := by
        rw [List.length_map]
        exact (List.getElem?_eq_some_iff.mp hd).1
      exact hi ((List.getElem?_inj hlt hfresh).mp hji ▸ hj)

/-- Commands for stores and orders that can be run together from a backend on. -/
structure Backend.Ready (b : Backend) (used : List Uuid) (commands : List (Supply × Command)) :
    Prop where
  faults : b.faults = .none
  kept : b.repositories.WellKept used
  fresh : Backend.Fresh commands
  new : ∀ c ∈ commands, c.1.uuid 0 ∉ used
  kind : ∀ c ∈ commands, c.2.ofCustomers = false

namespace Backend.Ready

variable {order : List Nat} {i : Nat} {supply : Supply} {command : Command}

/-- Whatever the order, everything is well kept. -/
theorem wellKept (h : b.Ready used commands) (hn : order.Nodup) :
    (b.serially commands order).2.repositories.WellKept
        (((pick commands order).map fun c => c.1.uuid 0) ++ used) ∧
      (b.serially commands order).2.faults = .none := by
  refine executeAll_wellKept _ h.faults h.kept (fresh_pick h.fresh hn) fun c hc => ?_
  obtain ⟨i, _, hi⟩ := mem_pick.mp hc
  exact h.new c (List.mem_of_getElem? hi)

/-- A command that has not been carried out has a new identifier. -/
theorem uuid_new (h : b.Ready used commands) (hn : order.Nodup) (ho : i ∉ order)
    (hi : commands[i]? = some (supply, command)) :
    supply.uuid 0 ∉ ((pick commands order).map fun c => c.1.uuid 0) ++ used := by
  intro hm
  rcases List.mem_append.mp hm with hm | hm
  · have hmore : (order ++ [i]).Nodup := List.concat_eq_append ▸ List.Nodup.concat ho hn
    have hfresh := fresh_pick h.fresh hmore
    rw [pick_snoc hi] at hfresh
    exact (fresh_snoc hfresh).2 hm
  · exact h.new _ (List.mem_of_getElem? hi) hm

/-- **One command more**, of which it is known what it leaves where the others have been carried
out. -/
theorem serially_snoc (h : b.Ready used commands) (hn : order.Nodup) (ho : i ∉ order)
    (hi : commands[i]? = some (supply, command)) {x : Except Error Outcome} {r : Repositories}
    (heval : Script.eval (command.job supply).run (b.serially commands order).2.repositories =
      (x, r)) :
    (b.serially commands (order ++ [i])).1 = (b.serially commands order).1 ++ [x] ∧
      r.Aside (b.serially commands (order ++ [i])).2.repositories := by
  obtain ⟨hkept, hfaults⟩ := h.wellKept hn
  obtain ⟨hresult, haside, _⟩ := execute_spec hfaults hkept (h.uuid_new hn ho hi) command
  have heval : (command.job supply).eval (b.serially commands order).2.repositories = (x, r) :=
    heval
  rw [heval] at hresult haside
  rw [Backend.serially_snoc b hi, hresult]
  exact ⟨rfl, haside⟩

/-- What a command has to itself, nobody has kept anything under yet. -/
theorem unmade (h : b.Ready used commands) (hn : order.Nodup) (ho : i ∉ order)
    (hi : commands[i]? = some (supply, command)) {now : Repositories}
    (hkeys : (b.serially commands order).2.repositories.SameKeys now) :
    now.record? (.store ⟨supply.uuid 0⟩) = none ∧ now.record? (.order ⟨supply.uuid 0⟩) = none := by
  have hissued := (h.wellKept hn).1.issued
  have hnew := h.uuid_new hn ho hi
  rw [hkeys.record?_eq_none_iff, hkeys.record?_eq_none_iff]
  constructor
  · rw [record?, hissued.store_eq_none hnew]
    rfl
  · rw [record?, hissued.order_eq_none hnew]
    rfl

end Backend.Ready

/-! ### The invariant -/

/-- Everything is kept under its own key, and certain customers are active. -/
structure Repositories.Neat (A : CustomerId → Option Bool) (r : Repositories) : Prop where
  records : r.KeyedRecords
  customers : r.KeyedCustomers
  activity : r.activity = A

/-- **Where a task stands.**  It listens to events; or it carries out a command that does not
belong to the past yet, in two phases and as it would in that past; or it closes a command that
does. -/
inductive Standing (commands : List (Supply × Command)) (A : CustomerId → Option Bool)
    (past : Repositories) (order : List Nat) (h : Hand) (stage : UnitStage) (i : Nat)
    (t : TaskScript) : Prop
  | listens (hi : commands[i]? = none) (bystander : t.Bystander A)
  | works {supply : Supply} {command : Command} (hi : commands[i]? = some (supply, command))
    (ho : i ∉ order) (orderly : t.Orderly stage)
    (discipline : t.TwoPhase (supply.uuid 0) h.held h.seen)
    (follows : Follows A past (command.job supply).run t h)
  | closes {c : Supply × Command} (hi : commands[i]? = some c) (ho : i ∈ order)
    (hh : h = .empty) (orderly : t.Orderly stage) (quiet : t.Quiet)

/-- **The pool is explained by an order.**  What is kept now is the past, in which the commands
of the order have been carried out one after the other, overlaid with what the others have kept
under their locks. -/
structure Pool.Explained (b : Backend) (commands : List (Supply × Command)) (p : Pool)
    (order : List Nat) (hand : Nat → Hand) (stage : Nat → UnitStage) : Prop where
  faults : p.backend.faults = .none
  neat : p.backend.repositories.Neat b.repositories.activity
  holds : ∀ i, (stage i).Holds p.backend.units
  apart : ∀ i j, i ≠ j → (stage i).Apart (stage j)
  locked : ∀ i, ∀ key ∈ (hand i).held, p.holder? key = some i
  length : commands.length ≤ p.tasks.length
  beyond : ∀ i, commands[i]? = none → hand i = .empty
  nodup : order.Nodup
  bound : ∀ i ∈ order, i < commands.length
  active : (b.serially commands order).2.repositories.activity = b.repositories.activity
  results : (b.serially commands order).1 = order.filterMap p.outlook?
  overlay : Overlay p.backend.repositories (b.serially commands order).2.repositories hand
  standing : ∀ i t, p.tasks[i]? = some t →
    Standing commands b.repositories.activity (b.serially commands order).2.repositories order
      (hand i) (stage i) i t

/-- A task stands where it stood as long as it is not concerned. -/
theorem Standing.frame {A : CustomerId → Option Bool} {past past' : Repositories}
    {order order' : List Nat} {h : Hand} {stage : UnitStage} {i : Nat} {t : TaskScript}
    (hs : Standing commands A past order h stage i t) (hmem : i ∈ order' ↔ i ∈ order)
    (hseen : ∀ key ∈ h.seen, past'.record? key = past.record? key) :
    Standing commands A past' order' h stage i t := by
  -- only who is at work depends on the past, and only as far as it has found something there
  cases hs with
  | listens hi bystander => exact .listens hi bystander
  | works hi ho orderly discipline follows =>
    refine .works hi (fun hm => ho (hmem.mp hm)) orderly discipline fun r hr hA => ?_
    exact follows r (fun key hk => (hr key hk).trans (hseen key hk)) hA
  | closes hi ho hh orderly quiet => exact .closes hi (hmem.mpr ho) hh orderly quiet

/-- One task has moved, and what it leaves is in order as far as the others are concerned. -/
structure Pool.Moved (A : CustomerId → Option Bool) (stage : Nat → UnitStage) (p p' : Pool)
    (i : Nat) (t : TaskScript) (st : UnitStage) : Prop where
  tasks : p'.tasks = p.tasks.set i t
  faults : p'.backend.faults = .none
  neat : p'.backend.repositories.Neat A
  holds : ∀ j, (Function.update stage i st j).Holds p'.backend.units
  apart : ∀ j ≠ i, st.Apart (stage j)
  holder : ∀ j ≠ i, ∀ key, p.holder? key = some j → p'.holder? key = some j

namespace Pool.Explained

variable {p p' : Pool} {order order' : List Nat} {hand : Nat → Hand} {stage : Nat → UnitStage}
  {i : Nat} {t t' : TaskScript} {d : Hand} {st : UnitStage}

/-- **One task has moved**: it is enough to look at this task, and at what the past has become. -/
theorem move (h : p.Explained b commands order hand stage)
    (hm : Moved b.repositories.activity stage p p' i t' st) (hi : i < p.tasks.length)
    (hbeyond : commands[i]? = none → d = .empty)
    (hlocked : ∀ key ∈ d.held, p'.holder? key = some i)
    (hnodup : order'.Nodup) (hbound : ∀ j ∈ order', j < commands.length)
    (hactive : (b.serially commands order').2.repositories.activity = b.repositories.activity)
    (hresults : (b.serially commands order').1 = order'.filterMap p'.outlook?)
    (hoverlay : Overlay p'.backend.repositories (b.serially commands order').2.repositories
      (Function.update hand i d))
    (hmem : ∀ j ≠ i, j ∈ order' ↔ j ∈ order)
    (hseen : ∀ j ≠ i, ∀ key ∈ (hand j).seen,
      (b.serially commands order').2.repositories.record? key =
        (b.serially commands order).2.repositories.record? key)
    (hthis : Standing commands b.repositories.activity
      (b.serially commands order').2.repositories order' d st i t') :
    p'.Explained b commands order' (Function.update hand i d) (Function.update stage i st) where
  faults := hm.faults
  neat := hm.neat
  holds := hm.holds
  apart j k hjk := by
    by_cases hj : j = i
    · subst hj
      rw [Function.update_self, Function.update_of_ne (Ne.symm hjk)]
      exact hm.apart k (Ne.symm hjk)
    · rw [Function.update_of_ne hj]
      by_cases hk : k = i
      · subst hk
        rw [Function.update_self]
        exact (hm.apart j hj).symm
      · rw [Function.update_of_ne hk]
        exact h.apart j k hjk
  locked := (Function.forall_update_iff hand (p := fun j e => ∀ key ∈ e.held,
    p'.holder? key = some j)).mpr
      ⟨hlocked, fun j hj key hk => hm.holder j hj key (h.locked j key hk)⟩
  length := by
    rw [hm.tasks, List.length_set]
    exact h.length
  beyond := (Function.forall_update_iff hand (p := fun j e => commands[j]? = none →
    e = .empty)).mpr ⟨hbeyond, fun j _ => h.beyond j⟩
  nodup := hnodup
  bound := hbound
  active := hactive
  results := hresults
  overlay := hoverlay
  standing j u hu := by
    rw [hm.tasks] at hu
    by_cases hj : j = i
    · subst hj
      rw [List.getElem?_set_self hi] at hu
      cases hu
      rw [Function.update_self, Function.update_self]
      exact hthis
    · rw [List.getElem?_set_ne (Ne.symm hj)] at hu
      rw [Function.update_of_ne hj, Function.update_of_ne hj]
      exact (h.standing j u hu).frame (hmem j hj) (hseen j hj)

theorem outlook?_of_ne (hm : Moved b.repositories.activity stage p p' i t' st) {j : Nat}
    (hj : j ≠ i) : p'.outlook? j = p.outlook? j := by
  rw [outlook?, outlook?, hm.tasks, List.getElem?_set_ne (Ne.symm hj)]

/-- One task has moved, and the past is as it was. -/
theorem move_same (h : p.Explained b commands order hand stage)
    (hm : Moved b.repositories.activity stage p p' i t' st) (hi : i < p.tasks.length)
    (hbeyond : commands[i]? = none → d = .empty)
    (hlocked : ∀ key ∈ d.held, p'.holder? key = some i)
    (houtlook : i ∈ order → p'.outlook? i = p.outlook? i)
    (hoverlay : Overlay p'.backend.repositories (b.serially commands order).2.repositories
      (Function.update hand i d))
    (hthis : Standing commands b.repositories.activity
      (b.serially commands order).2.repositories order d st i t') :
    p'.Explained b commands order (Function.update hand i d) (Function.update stage i st) := by
  refine h.move hm hi hbeyond hlocked h.nodup h.bound h.active ?_ hoverlay (fun _ _ => Iff.rfl)
    (fun _ _ _ _ => rfl) hthis
  rw [h.results]
  refine List.filterMap_congr fun j hj => ?_
  by_cases hji : j = i
  · subst hji
    exact (houtlook hj).symm
  · exact (outlook?_of_ne hm hji).symm

/-- **One task has moved and has become quiet**: its command comes last in the past. -/
theorem move_add (h : p.Explained b commands order hand stage) (hr : b.Ready used commands)
    (hm : Moved b.repositories.activity stage p p' i t' st) (hlt : i < p.tasks.length)
    {supply : Supply} {command : Command} (hi : commands[i]? = some (supply, command))
    (ho : i ∉ order) {made : List Record}
    (hunmade : ∀ w ∈ made, p.backend.repositories.record? w.key = none)
    (hnow : p'.backend.repositories = p.backend.repositories.keepAll made)
    (heval : Script.eval (command.job supply).run (b.serially commands order).2.repositories =
      t'.eval (((b.serially commands order).2.repositories.keepAll (hand i).kept).keepAll made))
    (horderly : t'.Orderly st) (hquiet : t'.Quiet) :
    p'.Explained b commands (order ++ [i]) (Function.update hand i .empty)
      (Function.update stage i st) := by
  obtain ⟨x, hx⟩ := hquiet.eval_eq
  obtain ⟨hresults, haside⟩ := hr.serially_snoc h.nodup ho hi (heval.trans (hx _))
  have ht' : p'.tasks[i]? = some t' := by
    rw [hm.tasks]
    exact List.getElem?_set_self hlt
  have hmem : ∀ j ≠ i, j ∈ order ++ [i] ↔ j ∈ order := fun j hj => by simp [hj]
  refine h.move hm hlt (fun _ => rfl) (fun _ hk => absurd hk List.not_mem_nil)
    (List.concat_eq_append ▸ List.Nodup.concat ho h.nodup) ?_ ?_ ?_ ?_ hmem ?_ ?_
  · intro j hj
    rcases List.mem_append.mp hj with hj | hj
    · exact h.bound j hj
    · rw [List.mem_singleton.mp hj]
      exact (List.getElem?_eq_some_iff.mp hi).1
  · rw [haside.activity, activity_keepAll, activity_keepAll]
    exact h.active
  · have hbefore : order.filterMap p'.outlook? = order.filterMap p.outlook? :=
      List.filterMap_congr fun j hj => outlook?_of_ne hm fun he => ho (he ▸ hj)
    have hthis : p'.outlook? i = some x := outlook?_of_eval ht' fun r => by rw [hx r]
    rw [hresults, h.results, List.filterMap_append, hbefore, List.filterMap_cons, hthis]
    rfl
  · rw [hnow]
    exact h.overlay.conclude hunmade haside.stores haside.orders
  · intro j hj key hkey
    rw [record?_congr haside.stores haside.orders]
    exact h.overlay.found_eq hunmade hj ((h.overlay.fits j).seen_held key hkey)
      (h.overlay.seen_present hkey)
  · exact .closes hi (List.mem_append_right _ (List.mem_singleton.mpr rfl)) rfl horderly hquiet

end Pool.Explained

end Storefront
