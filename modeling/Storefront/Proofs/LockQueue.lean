import Mathlib.Data.List.Nodup
import Storefront.LockRegistry

/-! # Queues for locks

Who has queued for the lock of a key stands in a queue, the one who came first in front.
`LockRegistry.Proper` is what every registry satisfies at every moment: a key has one lock and a
lock one key, although locks are thrown away and made again, and everybody who has anything to
do with a key has found the lock that the key has now.  Throwing a lock away is safe because of
this: nobody who has looked it up and not queued yet can be left with a lock of the past.

In such a registry whoever stands first in the queue of a key holds its lock
(`Proper.holds_iff`), everybody else in the queue waits, and a step lets somebody join at the
end, lets the first leave, or lets somebody else give up (`Proper.queue_step`).
-/
namespace Storefront.LockRegistry

variable {ν κ : Type} {r : LockRegistry ν κ} {q p : LockRequest ν κ}

/-- Every key has one lock and every lock one key, and whoever has anything to do with a key has
found the lock that it has.  No two requests go by one name. -/
structure Proper (r : LockRegistry ν κ) : Prop where
  keys : (r.locks.map Prod.fst).Nodup
  numbers : (r.locks.map Prod.snd).Nodup
  made : ∀ l ∈ r.locks, l.2 < r.next
  found : ∀ q ∈ r.requests, (q.key, q.lock) ∈ r.locks
  names : (r.requests.map (·.name)).Nodup

namespace Proper

theorem empty : (empty : LockRegistry ν κ).Proper :=
  ⟨List.nodup_nil, List.nodup_nil, fun _ h => absurd h List.not_mem_nil,
    fun _ h => absurd h List.not_mem_nil, List.nodup_nil⟩

/-- **One key, one lock.** -/
theorem key_eq_iff (h : r.Proper) (hq : q ∈ r.requests) (hp : p ∈ r.requests) :
    q.key = p.key ↔ q.lock = p.lock := by
  constructor
  · intro hkey
    have hsame := List.inj_on_of_nodup_map h.keys (h.found q hq) (h.found p hp) hkey
    exact congrArg Prod.snd hsame
  · intro hlock
    have hsame := List.inj_on_of_nodup_map h.numbers (h.found q hq) (h.found p hp) hlock
    exact congrArg Prod.fst hsame

theorem eq_of_name (h : r.Proper) (hq : q ∈ r.requests) (hp : p ∈ r.requests)
    (hname : q.name = p.name) : q = p := List.inj_on_of_nodup_map h.names hq hp hname

theorem nodup (h : r.Proper) : r.requests.Nodup := List.Nodup.of_map _ h.names

theorem prune (h : r.Proper) : r.prune.Proper := by
  refine ⟨h.keys.sublist (List.filter_sublist.map _), h.numbers.sublist (List.filter_sublist.map _),
    fun l hl => h.made l (List.mem_of_mem_filter hl), fun q hq => ?_, h.names⟩
  -- a lock that somebody has found is wanted
  refine List.mem_filter.mpr ⟨h.found q hq, ?_⟩
  exact List.any_eq_true.mpr ⟨q, hq, beq_self_eq_true _⟩

/-- One more request for a lock that the key has. -/
theorem request (h : r.Proper) {name : ν} {key : κ} {lock : Nat}
    (hlock : (key, lock) ∈ r.locks) (hname : ∀ q ∈ r.requests, q.name ≠ name) :
    Proper { r with requests := r.requests ++ [⟨name, key, lock, false⟩] } := by
  refine ⟨h.keys, h.numbers, h.made, fun q hq => ?_, ?_⟩
  · rcases List.mem_append.mp hq with hq | hq
    · exact h.found q hq
    · obtain rfl := List.mem_singleton.mp hq
      exact hlock
  · rw [List.map_append, List.nodup_append]
    refine ⟨h.names, List.nodup_singleton _, fun n hn m hm he => ?_⟩
    obtain ⟨q, hq, rfl⟩ := List.mem_map.mp hn
    rw [List.map_singleton, List.mem_singleton] at hm
    exact hname q hq (he.trans hm)

/-- A new lock for a key that has none. -/
theorem makeLock (h : r.Proper) {key : κ} (hkey : key ∉ r.locks.map Prod.fst) :
    Proper { r with locks := r.locks ++ [(key, r.next)], next := r.next + 1 } := by
  refine ⟨?_, ?_, fun l hl => ?_, fun q hq => List.mem_append_left _ (h.found q hq), h.names⟩
  · rw [List.map_append, List.nodup_append]
    refine ⟨h.keys, List.nodup_singleton _, fun k hk m hm he => hkey ?_⟩
    rw [List.map_singleton, List.mem_singleton] at hm
    rw [← show k = key from he.trans hm]
    exact hk
  · rw [List.map_append, List.nodup_append]
    refine ⟨h.numbers, List.nodup_singleton _, fun n hn m hm he => ?_⟩
    obtain ⟨l, hl, rfl⟩ := List.mem_map.mp hn
    rw [List.map_singleton, List.mem_singleton] at hm
    have hlt := h.made l hl
    omega
  · rcases List.mem_append.mp hl with hl | hl
    · exact Nat.lt_succ_of_lt (h.made l hl)
    · obtain rfl := List.mem_singleton.mp hl
      exact Nat.lt_succ_self _

variable [DecidableEq κ]

/-- Looking up the lock of a key finds the one that it has, or makes one. -/
theorem lockOf (h : r.Proper) (key : κ) :
    (r.lockOf key).2.Proper ∧ (key, (r.lockOf key).1) ∈ (r.lockOf key).2.locks ∧
      (r.lockOf key).2.requests = r.requests := by
  unfold LockRegistry.lockOf
  cases hl : r.locks.find? fun l => l.1 == key with
  | some l =>
    have hkey : l.1 = key := by simpa using List.find?_some hl
    refine ⟨h, ?_, rfl⟩
    rw [← hkey]
    exact List.mem_of_find?_eq_some hl
  | none =>
    have hkey : key ∉ r.locks.map Prod.fst := by
      intro hm
      obtain ⟨l, hmem, he⟩ := List.mem_map.mp hm
      exact List.find?_eq_none.mp hl l hmem (beq_iff_eq.mpr he)
    exact ⟨h.makeLock hkey, List.mem_append_right _ (List.mem_singleton.mpr rfl), rfl⟩

/-- What looking a lock up leaves: the same requests, and a new one of somebody who has not
queued. -/
theorem lookUp_requests (r : LockRegistry ν κ) (name : ν) (key : κ) :
    ∃ lock, (r.lookUp name key).requests = r.requests ++ [⟨name, key, lock, false⟩] := by
  refine ⟨(r.prune.lockOf key).1, ?_⟩
  unfold LockRegistry.lookUp LockRegistry.lockOf
  cases r.prune.locks.find? fun l => l.1 == key <;> rfl

theorem lookUp (h : r.Proper) {name : ν} (hname : ∀ q ∈ r.requests, q.name ≠ name) (key : κ) :
    (r.lookUp name key).Proper := by
  obtain ⟨hproper, hlock, hrequests⟩ := h.prune.lockOf key
  refine hproper.request hlock ?_
  rw [hrequests]
  exact hname

variable [DecidableEq ν]

/-- A request that ends. -/
theorem withdraw (h : r.Proper) (q : LockRequest ν κ) :
    Proper { r with requests := r.requests.erase q } :=
  ⟨h.keys, h.numbers, h.made, fun p hp => h.found p (List.mem_of_mem_erase hp),
    h.names.sublist (List.erase_sublist.map _)⟩

/-- Somebody who queues. -/
theorem join (h : r.Proper) (hq : q ∈ r.requests) :
    Proper { r with requests := r.requests.erase q ++ [{ q with queued := true }] } := by
  refine ⟨h.keys, h.numbers, h.made, fun p hp => ?_, ?_⟩
  · rcases List.mem_append.mp hp with hp | hp
    · exact h.found p (List.mem_of_mem_erase hp)
    · obtain rfl := List.mem_singleton.mp hp
      exact h.found q hq
  · rw [List.map_append, List.map_singleton]
    have hperm : ((r.requests.erase q).map (·.name) ++ [q.name]).Perm
        (r.requests.map (·.name)) := by
      refine (List.perm_append_singleton _ _).trans ?_
      exact ((List.perm_cons_erase hq).map (·.name)).symm
    exact hperm.nodup_iff.mpr h.names

end Proper

/-! ### Who holds -/

section Queues
variable [DecidableEq κ]

/-- Those who have queued for a key, the one who came first in front. -/
def queue (r : LockRegistry ν κ) (key : κ) : List (LockRequest ν κ) :=
  r.requests.filter fun q => q.queued && q.key == key

theorem mem_queue {key : κ} : q ∈ r.queue key ↔ q ∈ r.requests ∧ q.queued = true ∧ q.key = key := by
  simp [queue]

namespace Proper

theorem nodup_queue (h : r.Proper) (key : κ) : (r.queue key).Nodup := h.nodup.filter _

theorem nodup_queue_names (h : r.Proper) (key : κ) :
    ((r.queue key).map (·.name)).Nodup := h.names.sublist (List.filter_sublist.map _)

variable [DecidableEq ν]

/-- **The first in a queue holds the lock.** -/
theorem holds_iff (h : r.Proper) (hq : q ∈ r.requests) :
    r.holds q = true ↔ (r.queue q.key).head? = some q := by
  have hqueue : (r.requests.filter fun p => p.queued && p.lock == q.lock) = r.queue q.key := by
    refine List.filter_congr fun p hp => ?_
    have hsame := h.key_eq_iff hp hq
    by_cases hlock : p.lock = q.lock
    · rw [beq_iff_eq.mpr hlock, beq_iff_eq.mpr (hsame.mpr hlock)]
    · rw [beq_eq_false_iff_ne.mpr hlock, beq_eq_false_iff_ne.mpr fun hk => hlock (hsame.mp hk)]
  rw [holds, holder?, ← List.head?_filter, hqueue, beq_iff_eq]

/-- Who holds the lock of a key is the first in its queue. -/
theorem filter_held (h : r.Proper) (key : κ) :
    r.held.filter (fun q => q.key == key) = (r.queue key).take 1 := by
  have hiff : ∀ q ∈ r.requests, (r.holds q && q.key == key) = true ↔
      (r.queue key).head? = some q := by
    intro q hq
    rw [Bool.and_eq_true, beq_iff_eq]
    constructor
    · rintro ⟨hh, rfl⟩
      exact (h.holds_iff hq).mp hh
    · intro hhead
      obtain ⟨_, _, rfl⟩ := mem_queue.mp (List.mem_of_mem_head? hhead)
      exact ⟨(h.holds_iff hq).mpr hhead, rfl⟩
  rw [held, List.filter_filter]
  cases hqueue : r.queue key with
  | nil =>
    rw [hqueue] at hiff
    rw [List.filter_eq_nil_iff.mpr fun q hq hc => by
      rw [Bool.and_comm] at hc
      cases (hiff q hq).mp hc]
    rfl
  | cons first rest =>
    rw [hqueue] at hiff
    have hfirst : first ∈ r.requests :=
      (mem_queue.mp (hqueue ▸ List.mem_cons_self ..)).1
    have hall : r.requests.filter (fun q => (q.key == key) && r.holds q) =
        r.requests.filter (· == first) := by
      refine List.filter_congr fun q hq => Bool.eq_iff_iff.mpr ?_
      rw [Bool.and_comm, hiff q hq, beq_iff_eq, List.head?_cons, Option.some.injEq, eq_comm]
    rw [hall, List.filter_beq, List.count_eq_one_of_mem h.nodup hfirst]
    rfl

/-- Who waits for the lock of a key stands further back in its queue. -/
theorem filter_waiting (h : r.Proper) (key : κ) :
    r.waiting.filter (fun q => q.key == key) = (r.queue key).drop 1 := by
  have hwaits : r.waiting.filter (fun q => q.key == key) =
      (r.queue key).filter fun q => !r.holds q := by
    rw [waiting, queue, List.filter_filter, List.filter_filter]
    refine List.filter_congr fun q _ => ?_
    cases q.queued <;> cases r.holds q <;> cases q.key == key <;> rfl
  rw [hwaits]
  cases hqueue : r.queue key with
  | nil => rfl
  | cons first rest =>
    have hmem : ∀ q ∈ first :: rest, q ∈ r.requests ∧ q.key = key := by
      intro q hq
      rw [← hqueue] at hq
      obtain ⟨hq, _, hkey⟩ := mem_queue.mp hq
      exact ⟨hq, hkey⟩
    have hholds : ∀ q ∈ first :: rest, r.holds q = true ↔ first = q := by
      intro q hq
      obtain ⟨hq, rfl⟩ := hmem q hq
      rw [h.holds_iff hq, hqueue, List.head?_cons, Option.some.injEq]
    have hnodup := h.nodup_queue key
    rw [hqueue, List.nodup_cons] at hnodup
    have hfirst : r.holds first = true := (hholds first (List.mem_cons_self ..)).mpr rfl
    rw [List.filter_cons_of_neg (by simp [hfirst]), List.drop_one, List.tail_cons]
    refine List.filter_eq_self.mpr fun q hq => ?_
    have hne : first ≠ q := fun he => hnodup.1 (he ▸ hq)
    cases hh : r.holds q with
    | true => exact absurd ((hholds q (List.mem_cons_of_mem _ hq)).mp hh) hne
    | false => rfl

end Proper

end Queues

variable [DecidableEq ν] [DecidableEq κ]

/-! ### What a step does -/

/-- **What a step can do to those who want a lock.** -/
inductive Turn (r : LockRegistry ν κ) : Step ν κ → List (LockRequest ν κ) → Prop where
  | none {s} : Turn r s r.requests
  | lookUp {name key lock} : Turn r (.lookUp name key) (r.requests ++ [⟨name, key, lock, false⟩])
  | join {q : LockRequest ν κ} (hq : q ∈ r.requests) (hnew : q.queued = false) :
      Turn r (.enqueue q.name) (r.requests.erase q ++ [{ q with queued := true }])
  | release {q : LockRequest ν κ} (hq : q ∈ r.requests) (hh : r.holds q = true) :
      Turn r (.release q.name) (r.requests.erase q)
  | abandon {q : LockRequest ν κ} (hq : q ∈ r.requests) (hh : r.holds q = false) :
      Turn r (.abandon q.name) (r.requests.erase q)

theorem turn (r : LockRegistry ν κ) (s : Step ν κ) : r.Turn s (r.step s).requests := by
  cases s with
  | lookUp name key =>
    obtain ⟨lock, hrequests⟩ := Proper.lookUp_requests r name key
    show r.Turn _ (r.lookUp name key).requests
    rw [hrequests]
    exact .lookUp
  | enqueue name =>
    show r.Turn _ (r.enqueue name).requests
    unfold enqueue
    cases hq : r.requests.find? fun q => q.name == name && !q.queued with
    | none => exact .none
    | some q =>
      have hfound := List.find?_some hq
      simp only [Bool.and_eq_true, beq_iff_eq, Bool.not_eq_true'] at hfound
      obtain ⟨rfl, hnew⟩ := hfound
      exact .join (List.mem_of_find?_eq_some hq) hnew
  | release name =>
    show r.Turn _ (r.release name).requests
    unfold release
    cases hq : r.held.find? fun q => q.name == name with
    | none => exact .none
    | some q =>
      obtain rfl : q.name = name := by simpa using List.find?_some hq
      obtain ⟨hmem, hh⟩ := List.mem_filter.mp (List.mem_of_find?_eq_some hq)
      exact .release hmem hh
  | abandon name =>
    show r.Turn _ (r.abandon name).requests
    unfold abandon
    cases hq : r.requests.find? fun q => q.name == name && !r.holds q with
    | none => exact .none
    | some q =>
      have hfound := List.find?_some hq
      simp only [Bool.and_eq_true, beq_iff_eq, Bool.not_eq_true'] at hfound
      obtain ⟨rfl, hh⟩ := hfound
      exact .abandon (List.mem_of_find?_eq_some hq) hh

/-- The name by which a step looks a lock up, if it does. -/
def Step.caller? : Step ν κ → Option ν
  | lookUp name _ => some name
  | _ => none

/-- A step looks no lock up by a name that is in use. -/
def Step.IsFresh (r : LockRegistry ν κ) (s : Step ν κ) : Prop :=
  ∀ q ∈ r.requests, s.caller? ≠ some q.name

/-- **Every step leaves a registry proper.** -/
theorem Proper.step (h : r.Proper) {s : Step ν κ} (hs : s.IsFresh r) : (r.step s).Proper := by
  cases s with
  | lookUp name key => exact h.lookUp (fun q hq he => hs q hq (congrArg some he.symm)) key
  | enqueue name =>
    show (r.enqueue name).Proper
    unfold LockRegistry.enqueue
    cases hq : r.requests.find? fun q => q.name == name && !q.queued with
    | none => exact h
    | some q => exact h.join (List.mem_of_find?_eq_some hq)
  | release name =>
    show (r.release name).Proper
    unfold LockRegistry.release
    cases r.held.find? fun q => q.name == name with
    | none => exact h
    | some q => exact h.withdraw q
  | abandon name =>
    show (r.abandon name).Proper
    unfold LockRegistry.abandon
    cases r.requests.find? fun q => q.name == name && !r.holds q with
    | none => exact h
    | some q => exact h.withdraw q

/-- **What a step can do to the queue of a key.** -/
inductive QueueMove (r : LockRegistry ν κ) :
    List (LockRequest ν κ) → List (LockRequest ν κ) → Prop where
  | stay {l} : QueueMove r l l
  | join {l} {q : LockRequest ν κ} (hq : q ∈ r.requests) (hnew : q.queued = false) :
      QueueMove r l (l ++ [{ q with queued := true }])
  | leave {first rest} : QueueMove r (first :: rest) rest
  | giveUp {first l l'} {q : LockRequest ν κ} : QueueMove r (first :: l ++ q :: l') (first :: l ++ l')

/-- **A step lets somebody join a queue at its end, lets the first leave it, or lets somebody
else give up.** -/
theorem Proper.queue_step (h : r.Proper) (s : Step ν κ) (key : κ) :
    r.QueueMove (r.queue key) ((r.step s).queue key) := by
  have hturn := r.turn s
  have herase : ∀ q, (r.requests.erase q).filter (fun q => q.queued && q.key == key) =
      (r.queue key).erase q := fun q => List.erase_filter.symm
  show r.QueueMove (r.queue key)
    ((r.step s).requests.filter fun q => q.queued && q.key == key)
  generalize (r.step s).requests = requests at hturn ⊢
  cases hturn with
  | none => exact .stay
  | @lookUp name key' lock =>
    rw [List.filter_append, List.filter_cons_of_neg (by simp), List.filter_nil, List.append_nil]
    exact .stay
  | @join q hq hnew =>
    have hout : q ∉ r.queue key := fun hm => by
      rw [(mem_queue.mp hm).2.1] at hnew
      cases hnew
    rw [List.filter_append, herase, List.erase_of_not_mem hout]
    by_cases hkey : q.key = key
    · rw [List.filter_cons_of_pos (by simp [hkey]), List.filter_nil]
      exact .join hq hnew
    · rw [List.filter_cons_of_neg (by simp [hkey]), List.filter_nil, List.append_nil]
      exact .stay
  | @release q hq hh =>
    rw [herase]
    by_cases hkey : q.key = key
    · have hhead := (h.holds_iff hq).mp hh
      rw [hkey] at hhead
      obtain ⟨rest, hrest⟩ := List.head?_eq_some_iff.mp hhead
      rw [hrest, List.erase_cons_head]
      exact .leave
    · rw [List.erase_of_not_mem fun hm => hkey (mem_queue.mp hm).2.2]
      exact .stay
  | @abandon q hq hh =>
    rw [herase]
    by_cases hm : q ∈ r.queue key
    · obtain ⟨l, l', hl, hcut, hrest⟩ := List.exists_erase_eq hm
      rw [hrest, hcut]
      cases l with
      | nil =>
        -- who stands first holds the lock, and does not wait for it
        have hhead : (r.queue key).head? = some q := by rw [hcut]; rfl
        obtain ⟨_, _, rfl⟩ := mem_queue.mp hm
        rw [(h.holds_iff hq).mpr hhead] at hh
        cases hh
      | cons first l => exact .giveUp
    · rw [List.erase_of_not_mem hm]
      exact .stay

end Storefront.LockRegistry
