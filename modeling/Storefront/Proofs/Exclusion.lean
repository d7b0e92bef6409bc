import Mathlib.Data.Finset.Card
import Storefront.Proofs.LockQueue

/-! # One holder at a time, and first come, first served

Whatever the order in which tasks look locks up, queue for them, give them back and give up, no
key is ever held twice, nobody waits for a key that is not held, and nobody waits for a key
because of another one.  Who comes to hold the lock of a key is decided by who began to wait
first: if those who gave up are left out, the names of those who came are the names of those who
have held the lock, in the order in which they did, followed by the names of those who wait
(`Served.fifo`).  All of it is said of every run in which no name is used for two requests
(`LockRegistry.run_fair`).

What happens at a step is read off the registry before it and after it.
-/
namespace Storefront.LockRegistry

variable {ν κ : Type} [DecidableEq ν] [DecidableEq κ] {r : LockRegistry ν κ}

/-! ### What happens in a run -/

/-- The names of those who hold the lock of a key. -/
def holding (r : LockRegistry ν κ) (key : κ) : List ν :=
  (r.held.filter fun q => q.key == key).map (·.name)

/-- The names of those who wait for the lock of a key. -/
def awaiting (r : LockRegistry ν κ) (key : κ) : List ν :=
  (r.waiting.filter fun q => q.key == key).map (·.name)

/-- Those who hold the lock of a key and did not hold it before. -/
def granted (key : κ) (r r' : LockRegistry ν κ) : List ν :=
  (r'.holding key).filter (· ∉ r.holding key)

/-- Those who have queued for a key and had not done so before. -/
def arrived (key : κ) (r r' : LockRegistry ν κ) : List ν :=
  (r'.holding key ++ r'.awaiting key).filter (· ∉ r.holding key ++ r.awaiting key)

/-- Those who waited for a key before, and neither wait for it nor hold it any more. -/
def gone (key : κ) (r r' : LockRegistry ν κ) : List ν :=
  (r.awaiting key).filter (· ∉ r'.holding key ++ r'.awaiting key)

/-- What happens at the steps of a run, one after the other. -/
def history (happens : LockRegistry ν κ → LockRegistry ν κ → List ν) (r : LockRegistry ν κ) :
    List (Step ν κ) → List ν
  | [] => []
  | s :: rest => happens r (r.step s) ++ history happens (r.step s) rest

/-- The names by which locks were looked up in a run. -/
def callers (steps : List (Step ν κ)) : List ν := steps.filterMap Step.caller?

/-- No name is used to look a lock up twice. -/
def Distinct (steps : List (Step ν κ)) : Prop := (callers steps).Nodup

instance (steps : List (Step ν κ)) : Decidable (Distinct steps) :=
  inferInstanceAs (Decidable (List.Nodup _))

/-- The names of those who queued for a key in a run, in the order in which they did. -/
def arrivals (key : κ) (steps : List (Step ν κ)) : List ν := history (arrived key) empty steps

/-- The names of those who came to hold the lock of a key in a run, in the order in which they
did. -/
def grants (key : κ) (steps : List (Step ν κ)) : List ν := history (granted key) empty steps

/-- The names of those who gave up waiting for a key in a run. -/
def departures (key : κ) (steps : List (Step ν κ)) : List ν := history (gone key) empty steps

theorem history_append (happens : LockRegistry ν κ → LockRegistry ν κ → List ν)
    (r : LockRegistry ν κ) (steps rest : List (Step ν κ)) :
    history happens r (steps ++ rest) =
      history happens r steps ++ history happens (steps.foldl step r) rest := by
  induction steps generalizing r with
  | nil => rfl
  | cons s steps ih =>
    rw [List.cons_append, history, history, ih, List.append_assoc]
    rfl

theorem history_snoc (happens : LockRegistry ν κ → LockRegistry ν κ → List ν)
    (steps : List (Step ν κ)) (s : Step ν κ) :
    history happens empty (steps ++ [s]) =
      history happens empty steps ++ happens (run steps) ((run steps).step s) := by
  rw [history_append]
  exact congrArg _ (List.append_nil _)

theorem arrivals_snoc (key : κ) (steps : List (Step ν κ)) (s : Step ν κ) :
    arrivals key (steps ++ [s]) =
      arrivals key steps ++ arrived key (run steps) ((run steps).step s) := history_snoc ..

theorem grants_snoc (key : κ) (steps : List (Step ν κ)) (s : Step ν κ) :
    grants key (steps ++ [s]) =
      grants key steps ++ granted key (run steps) ((run steps).step s) := history_snoc ..

theorem departures_snoc (key : κ) (steps : List (Step ν κ)) (s : Step ν κ) :
    departures key (steps ++ [s]) =
      departures key steps ++ gone key (run steps) ((run steps).step s) := history_snoc ..

theorem run_snoc (steps : List (Step ν κ)) (s : Step ν κ) :
    run (steps ++ [s]) = (run steps).step s := List.foldl_append ..

/-! ### One step -/

namespace Proper

theorem holding_eq (h : r.Proper) (key : κ) :
    r.holding key = ((r.queue key).map (·.name)).take 1 := by
  rw [holding, h.filter_held, List.map_take]

theorem awaiting_eq (h : r.Proper) (key : κ) :
    r.awaiting key = ((r.queue key).map (·.name)).drop 1 := by
  rw [awaiting, h.filter_waiting, List.map_drop]

theorem holding_append_awaiting (h : r.Proper) (key : κ) :
    r.holding key ++ r.awaiting key = (r.queue key).map (·.name) := by
  rw [h.holding_eq, h.awaiting_eq, List.take_append_drop]

end Proper

/-- **What happens at a step with one key**: nothing; somebody comes, and holds the lock at once
if nobody else does; the lock is given back, and the first who waits has it then; or somebody
who waits gives up. -/
inductive Happens (key : κ) (r r' : LockRegistry ν κ) : Prop where
  | nothing (hwait : r'.awaiting key = r.awaiting key) (hg : granted key r r' = [])
      (ha : arrived key r r' = []) (hq : gone key r r' = [])
  | entry (name : ν) (hnew : ∃ q ∈ r.requests, q.name = name ∧ q.queued = false)
      (hfree : r.awaiting key = []) (hwait : r'.awaiting key = []) (hg : granted key r r' = [name])
      (ha : arrived key r r' = [name]) (hq : gone key r r' = [])
  | arrival (name : ν) (hnew : ∃ q ∈ r.requests, q.name = name ∧ q.queued = false)
      (hwait : r'.awaiting key = r.awaiting key ++ [name]) (hg : granted key r r' = [])
      (ha : arrived key r r' = [name]) (hq : gone key r r' = [])
  | handover (hwait : r.awaiting key = granted key r r' ++ r'.awaiting key)
      (ha : arrived key r r' = []) (hq : gone key r r' = [])
  | leaving (before : List ν) (name : ν) (after : List ν)
      (hwait : r.awaiting key = before ++ name :: after)
      (hwait' : r'.awaiting key = before ++ after) (hg : granted key r r' = [])
      (ha : arrived key r r' = []) (hq : gone key r r' = [name])

theorem filter_not_mem_eq_nil {as bs : List ν} (h : ∀ a ∈ as, a ∈ bs) :
    as.filter (· ∉ bs) = [] := by
  refine List.filter_eq_nil_iff.mpr fun a ha hn => ?_
  exact of_decide_eq_true hn (h a ha)

theorem filter_not_mem_eq_self {as bs : List ν} (h : ∀ a ∈ as, a ∉ bs) :
    as.filter (· ∉ bs) = as :=
  List.filter_eq_self.mpr fun a ha => decide_eq_true (h a ha)

/-- **One of five things happens at a step with a key.** -/
theorem Proper.happens (h : r.Proper) {s : Step ν κ} (hs : s.IsFresh r) (key : κ) :
    Happens key r (r.step s) := by
  have h' := h.step hs
  have hmove := h.queue_step s key
  have hnames := h.nodup_queue_names key
  have hnames' := h'.nodup_queue_names key
  have hg : granted key r (r.step s) = ((((r.step s).queue key).map (·.name)).take 1).filter
      (· ∉ ((r.queue key).map (·.name)).take 1) := by
    rw [granted, h.holding_eq, h'.holding_eq]
  have ha : arrived key r (r.step s) = (((r.step s).queue key).map (·.name)).filter
      (· ∉ (r.queue key).map (·.name)) := by
    rw [arrived, h.holding_append_awaiting, h'.holding_append_awaiting]
  have hq : gone key r (r.step s) = (((r.queue key).map (·.name)).drop 1).filter
      (· ∉ ((r.step s).queue key).map (·.name)) := by
    rw [gone, h.awaiting_eq, h'.holding_append_awaiting]
  have hw := h.awaiting_eq key
  have hw' := h'.awaiting_eq key
  generalize (r.step s).queue key = after at *
  generalize r.queue key = before at *
  cases hmove with
  | stay =>
    refine .nothing (hw'.trans hw.symm) ?_ ?_ ?_
    · rw [hg, filter_not_mem_eq_nil fun a h => h]
    · rw [ha, filter_not_mem_eq_nil fun a h => h]
    · rw [hq, filter_not_mem_eq_nil fun a h => List.mem_of_mem_drop h]
  | @join _ q hmem hnew =>
    rw [List.map_append, List.map_singleton] at *
    have hother : q.name ∉ before.map (·.name) := fun hm =>
      (List.nodup_append.mp hnames').2.2 _ hm _ (List.mem_singleton.mpr rfl) rfl
    have ha' : arrived key r (r.step s) = [q.name] := by
      rw [ha, List.filter_append, filter_not_mem_eq_nil fun a h => h, List.nil_append,
        filter_not_mem_eq_self fun a h => List.mem_singleton.mp h ▸ hother]
    have hq' : gone key r (r.step s) = [] := by
      rw [hq, filter_not_mem_eq_nil fun a h => List.mem_append_left _ (List.mem_of_mem_drop h)]
    cases before with
    | nil => exact .entry q.name ⟨q, hmem, rfl, hnew⟩ hw hw' hg ha' hq'
    | cons first rest =>
      refine .arrival q.name ⟨q, hmem, rfl, hnew⟩ ?_ ?_ ha' hq'
      · rw [hw, hw']
        rfl
      · rw [hg]
        exact filter_not_mem_eq_nil fun a h => h
  | @leave first _ =>
    rw [List.map_cons] at *
    have hother := (List.nodup_cons.mp hnames).1
    have hgranted : granted key r (r.step s) = (after.map (·.name)).take 1 := by
      rw [hg]
      refine filter_not_mem_eq_self fun a ha hm => ?_
      obtain rfl := List.mem_singleton.mp hm
      exact hother (List.mem_of_mem_take ha)
    refine .handover ?_ ?_ ?_
    · rw [hgranted, hw, hw', List.take_append_drop]
      rfl
    · rw [ha, filter_not_mem_eq_nil fun a h => List.mem_cons_of_mem _ h]
    · rw [hq]
      exact filter_not_mem_eq_nil fun a h => h
  | @giveUp first l l' q =>
    simp only [List.map_append, List.map_cons, List.cons_append] at *
    generalize l.map (·.name) = front at *
    generalize l'.map (·.name) = back at *
    obtain ⟨hfirst, hrest⟩ := List.nodup_cons.mp hnames
    obtain ⟨_, hlater, hdisjoint⟩ := List.nodup_append.mp hrest
    have hout : q.name ∉ first.name :: (front ++ back) := by
      rw [List.mem_cons, List.mem_append, not_or, not_or]
      refine ⟨fun he => hfirst ?_, fun hm => ?_, (List.nodup_cons.mp hlater).1⟩
      · rw [← he]
        exact List.mem_append_right _ (List.mem_cons_self ..)
      · exact hdisjoint _ hm _ (List.mem_cons_self ..) rfl
    refine .leaving front q.name back hw hw' ?_ ?_ ?_
    · rw [hg]
      exact filter_not_mem_eq_nil fun a h => h
    · rw [ha]
      refine filter_not_mem_eq_nil fun a h => ?_
      simp only [List.mem_cons, List.mem_append] at h ⊢
      rcases h with h | h | h
      · exact .inl h
      · exact .inr (.inl h)
      · exact .inr (.inr (.inr h))
    · rw [hq, List.drop_one, List.tail_cons, List.filter_append,
        filter_not_mem_eq_nil fun a h => List.mem_cons_of_mem _ (List.mem_append_left _ h),
        List.filter_cons_of_pos (by simpa using hout),
        filter_not_mem_eq_nil fun a h => List.mem_cons_of_mem _ (List.mem_append_right _ h)]
      rfl

/-! ### A run -/

omit [DecidableEq ν] [DecidableEq κ] in
theorem callers_snoc (steps : List (Step ν κ)) (s : Step ν κ) :
    callers (steps ++ [s]) = callers steps ++ s.caller?.toList := by
  rw [callers, List.filterMap_append]
  cases h : s.caller? <;> simp [callers, h]

omit [DecidableEq ν] [DecidableEq κ] in
/-- In a run in which names are used once, the last step uses a new one. -/
theorem Distinct.snoc {steps : List (Step ν κ)} {s : Step ν κ} (h : Distinct (steps ++ [s])) :
    Distinct steps ∧ ∀ n ∈ callers steps, s.caller? ≠ some n := by
  rw [Distinct, callers_snoc, List.nodup_append] at h
  obtain ⟨hd, _, hdisjoint⟩ := h
  refine ⟨hd, fun n hn he => hdisjoint n hn n ?_ rfl⟩
  rw [he]
  exact List.mem_singleton.mpr rfl

/-- **Every run in which names are used once is proper**, and only names that have been used are
in use. -/
theorem run_proper {steps : List (Step ν κ)} (hd : Distinct steps) :
    (run steps).Proper ∧ ∀ q ∈ (run steps).requests, q.name ∈ callers steps := by
  induction steps using List.reverseRecOn with
  | nil => exact ⟨.empty, fun q hq => absurd hq List.not_mem_nil⟩
  | append_singleton steps s ih =>
    obtain ⟨hd, hnew⟩ := hd.snoc
    obtain ⟨hproper, hused⟩ := ih hd
    rw [run_snoc, callers_snoc]
    refine ⟨hproper.step fun q hq => hnew _ (hused q hq), fun q hq => ?_⟩
    have hturn := (run steps).turn s
    generalize ((run steps).step s).requests = requests at hturn hq
    cases hturn with
    | none => exact List.mem_append_left _ (hused q hq)
    | lookUp =>
      rcases List.mem_append.mp hq with hq | hq
      · exact List.mem_append_left _ (hused q hq)
      · rw [List.mem_singleton.mp hq]
        exact List.mem_append_right _ (List.mem_singleton.mpr rfl)
    | @join p hp _ =>
      rcases List.mem_append.mp hq with hq | hq
      · exact List.mem_append_left _ (hused q (List.mem_of_mem_erase hq))
      · rw [List.mem_singleton.mp hq]
        exact List.mem_append_left _ (hused p hp)
    | release | abandon =>
      exact List.mem_append_left _ (hused q (List.mem_of_mem_erase hq))

/-- Who has queued stays queued, as long as nobody else comes by their name. -/
theorem queued_step {names : List ν} {s : Step ν κ} (hs : ∀ n ∈ names, s.caller? ≠ some n)
    (hqueued : ∀ q ∈ r.requests, q.name ∈ names → q.queued = true) :
    ∀ q ∈ (r.step s).requests, q.name ∈ names → q.queued = true := by
  intro q hq hname
  have hturn := r.turn s
  generalize (r.step s).requests = requests at hturn hq
  cases hturn with
  | none => exact hqueued q hq hname
  | lookUp =>
    rcases List.mem_append.mp hq with hq | hq
    · exact hqueued q hq hname
    · rw [List.mem_singleton.mp hq] at hname
      exact absurd rfl (hs _ hname)
  | join hp hnew =>
    rcases List.mem_append.mp hq with hq | hq
    · exact hqueued q (List.mem_of_mem_erase hq) hname
    · rw [List.mem_singleton.mp hq]
  | release | abandon => exact hqueued q (List.mem_of_mem_erase hq) hname

/-- Who holds or awaits the lock of a key has queued for it. -/
theorem Proper.queued_of_mem (h : r.Proper) {key : κ} {n : ν}
    (hn : n ∈ r.holding key ++ r.awaiting key) :
    ∃ q ∈ r.requests, q.name = n ∧ q.queued = true := by
  rw [h.holding_append_awaiting] at hn
  obtain ⟨q, hq, he⟩ := List.mem_map.mp hn
  obtain ⟨hmem, hqueued, _⟩ := mem_queue.mp hq
  exact ⟨q, hmem, he, hqueued⟩

/-- **First come, first served.** -/
structure Served (key : κ) (steps : List (Step ν κ)) : Prop where
  /-- Nobody queues twice. -/
  nodup : (arrivals key steps).Nodup
  known : ∀ n ∈ arrivals key steps, n ∈ callers steps
  /-- Who has queued and is still there is still queued. -/
  queued : ∀ q ∈ (run steps).requests, q.name ∈ arrivals key steps → q.queued = true
  departed : ∀ n ∈ departures key steps, n ∈ arrivals key steps
  /-- But for those who gave up, those who came have held the lock in the order in which they
  came, or are waiting for it in this order. -/
  fifo : (arrivals key steps).filter (· ∉ departures key steps) =
    grants key steps ++ (run steps).awaiting key

theorem Served.empty (key : κ) : Served key ([] : List (Step ν κ)) :=
  ⟨List.nodup_nil, fun _ h => absurd h List.not_mem_nil, fun _ h => absurd h List.not_mem_nil,
    fun _ h => absurd h List.not_mem_nil, rfl⟩

/-- Who waits has come. -/
theorem Served.mem_of_awaiting {key : κ} {steps : List (Step ν κ)} (h : Served key steps) {n : ν}
    (hn : n ∈ (run steps).awaiting key) : n ∈ arrivals key steps := by
  have hmem : n ∈ grants key steps ++ (run steps).awaiting key := List.mem_append_right _ hn
  rw [← h.fifo] at hmem
  exact List.mem_of_mem_filter hmem

/-- **A step serves those who came first.** -/
theorem Served.fifo_snoc {key : κ} {steps : List (Step ν κ)} {s : Step ν κ}
    (h : Served key steps) (hhappens : Happens key (run steps) ((run steps).step s)) :
    (arrivals key (steps ++ [s])).Nodup ∧
      (arrivals key (steps ++ [s])).filter (· ∉ departures key (steps ++ [s])) =
        grants key (steps ++ [s]) ++ ((run steps).step s).awaiting key := by
  -- who comes now has not queued before, and so has not come before
  have hnew : ∀ n, (∃ q ∈ (run steps).requests, q.name = n ∧ q.queued = false) →
      n ∉ arrivals key steps := by
    rintro n ⟨q, hq, rfl, hqueued⟩ hn
    rw [h.queued q hq hn] at hqueued
    cases hqueued
  have hcome : ∀ n, n ∉ arrivals key steps → (arrivals key steps ++ [n]).Nodup ∧
      (arrivals key steps ++ [n]).filter (· ∉ departures key steps) =
        (grants key steps ++ (run steps).awaiting key) ++ [n] := by
    intro n hn
    refine ⟨List.nodup_append.mpr ⟨h.nodup, List.nodup_singleton n, fun m hm k hk he => ?_⟩, ?_⟩
    · obtain rfl := List.mem_singleton.mp hk
      exact hn (he ▸ hm)
    · rw [List.filter_append, h.fifo, filter_not_mem_eq_self fun a ha => ?_]
      obtain rfl := List.mem_singleton.mp ha
      exact fun hd => hn (h.departed a hd)
  rw [arrivals_snoc, departures_snoc, grants_snoc]
  cases hhappens with
  | nothing hwait hg ha hq =>
    rw [ha, hq, hg, hwait, List.append_nil, List.append_nil, List.append_nil]
    exact ⟨h.nodup, h.fifo⟩
  | entry name hcomes hfree hwait hg ha hq =>
    rw [ha, hq, hg, hwait, List.append_nil, List.append_nil]
    have hthis := hcome name (hnew name hcomes)
    rwa [hfree, List.append_nil] at hthis
  | arrival name hcomes hwait hg ha hq =>
    rw [ha, hq, hg, hwait, List.append_nil, List.append_nil, ← List.append_assoc]
    exact hcome name (hnew name hcomes)
  | handover hwait ha hq =>
    rw [ha, hq, List.append_nil, List.append_nil, List.append_assoc, ← hwait]
    exact ⟨h.nodup, h.fifo⟩
  | leaving before name after hwait hwait' hg ha hq =>
    rw [ha, hq, hg, hwait', List.append_nil, List.append_nil]
    refine ⟨h.nodup, ?_⟩
    have hfifo := h.fifo
    have hnodup : (grants key steps ++ (before ++ name :: after)).Nodup := by
      rw [← hwait, ← h.fifo]
      exact h.nodup.filter _
    rw [hwait] at hfifo
    have hsplit : (arrivals key steps).filter (· ∉ departures key steps ++ [name]) =
        ((arrivals key steps).filter (· ∉ departures key steps)).filter (· ∉ [name]) := by
      rw [List.filter_filter]
      refine List.filter_congr fun n _ => ?_
      simp [List.mem_append, not_or, Bool.and_comm]
    rw [hsplit, hfifo]
    obtain ⟨_, hwaiting, hheld⟩ := List.nodup_append.mp hnodup
    obtain ⟨_, hlater, hfront⟩ := List.nodup_append.mp hwaiting
    have hname : name ∈ before ++ name :: after :=
      List.mem_append_right _ (List.mem_cons_self ..)
    have hother : ∀ n, n ≠ name → n ∉ [name] := fun n hn hm => hn (List.mem_singleton.mp hm)
    rw [List.filter_append, List.filter_append, List.filter_cons_of_neg (by simp),
      filter_not_mem_eq_self fun n hn => hother n (hheld n hn name hname),
      filter_not_mem_eq_self fun n hn => hother n (hfront n hn name (List.mem_cons_self ..)),
      filter_not_mem_eq_self fun n hn => hother n fun he =>
        (List.nodup_cons.mp hlater).1 (he ▸ hn)]

theorem Served.snoc {key : κ} {steps : List (Step ν κ)} {s : Step ν κ} (h : Served key steps)
    (hd : Distinct (steps ++ [s])) : Served key (steps ++ [s]) := by
  obtain ⟨hd', hnew⟩ := hd.snoc
  obtain ⟨hproper, hused⟩ := run_proper hd'
  obtain ⟨hproper', hused'⟩ := run_proper hd
  have hfresh : s.IsFresh (run steps) := fun q hq => hnew _ (hused q hq)
  obtain ⟨hnodup, hfifo⟩ := h.fifo_snoc (hproper.happens hfresh key)
  have hcome : ∀ n ∈ arrived key (run steps) ((run steps).step s),
      ∃ q ∈ ((run steps).step s).requests, q.name = n ∧ q.queued = true := by
    rw [run_snoc] at hproper'
    exact fun n hn => hproper'.queued_of_mem (List.mem_of_mem_filter hn)
  rw [run_snoc] at hproper' hused'
  refine ⟨hnodup, fun n hn => ?_, fun q hq hn => ?_, fun n hn => ?_, ?_⟩
  · rw [arrivals_snoc] at hn
    rcases List.mem_append.mp hn with hn | hn
    · rw [callers_snoc]
      exact List.mem_append_left _ (h.known n hn)
    · obtain ⟨q, hq, rfl, _⟩ := hcome n hn
      exact hused' q hq
  · rw [run_snoc] at hq
    rw [arrivals_snoc] at hn
    rcases List.mem_append.mp hn with hn | hn
    · exact queued_step (fun n hn => hnew n (h.known n hn)) h.queued q hq hn
    · obtain ⟨p, hp, he, hqueued⟩ := hcome _ hn
      rwa [hproper'.eq_of_name hq hp he.symm]
  · rw [arrivals_snoc]
    rw [departures_snoc] at hn
    rcases List.mem_append.mp hn with hn | hn
    · exact List.mem_append_left _ (h.departed n hn)
    · exact List.mem_append_left _ (h.mem_of_awaiting (List.mem_of_mem_filter hn))
  · rw [run_snoc]
    exact hfifo

/-- **Every run serves those who came first.** -/
theorem run_served {steps : List (Step ν κ)} (hd : Distinct steps) (key : κ) :
    Served key steps := by
  induction steps using List.reverseRecOn with
  | nil => exact .empty key
  | append_singleton steps s ih => exact (ih hd.snoc.1).snoc hd

/-! ### How many keys are in use -/

omit [DecidableEq ν] in
/-- **The locks that somebody wants are as many as the keys that somebody wants.** -/
theorem Proper.activeCount_eq (h : r.Proper) :
    r.activeCount = (r.requests.map (·.key)).toFinset.card := by
  have hnodup : ((r.locks.filter fun l => r.isWanted l.2).map Prod.fst).Nodup :=
    h.keys.sublist (List.filter_sublist.map _)
  have hkeys : ((r.locks.filter fun l => r.isWanted l.2).map Prod.fst).toFinset =
      (r.requests.map (·.key)).toFinset := by
    ext key
    rw [List.mem_toFinset, List.mem_toFinset, List.mem_map, List.mem_map]
    constructor
    · rintro ⟨l, hl, rfl⟩
      obtain ⟨hl, hwanted⟩ := List.mem_filter.mp hl
      obtain ⟨q, hq, he⟩ := List.any_eq_true.mp hwanted
      have hsame := List.inj_on_of_nodup_map h.numbers (h.found q hq) hl (beq_iff_eq.mp he)
      exact ⟨q, hq, congrArg Prod.fst hsame⟩
    · rintro ⟨q, hq, rfl⟩
      refine ⟨(q.key, q.lock), List.mem_filter.mpr ⟨h.found q hq, ?_⟩, rfl⟩
      exact List.any_eq_true.mpr ⟨q, hq, beq_self_eq_true _⟩
  rw [← hkeys, List.toFinset_card_of_nodup hnodup, List.length_map]
  rfl

/-! ### What holds of every run -/

/-- Those who have asked for a lock and have not been given it yet. -/
def pending (r : LockRegistry ν κ) : List (LockRequest ν κ) :=
  r.requests.filter fun q => !r.holds q

/-- The name that a step is about. -/
def Step.name : Step ν κ → ν
  | lookUp name _ => name
  | enqueue name => name
  | release name => name
  | abandon name => name

namespace Proper

/-- Only who gives up stops waiting without having held the lock. -/
theorem eq_abandon_of_gone (h : r.Proper) {s : Step ν κ} (hs : s.IsFresh r) {key : κ} {n : ν}
    (hn : n ∈ gone key r (r.step s)) : s = .abandon n := by
  obtain ⟨hwaits, hout⟩ := List.mem_filter.mp hn
  obtain ⟨q, hq, rfl⟩ := List.mem_map.mp hwaits
  obtain ⟨hq, hkey⟩ := List.mem_filter.mp hq
  obtain ⟨hq, hqueued⟩ := List.mem_filter.mp hq
  rw [Bool.and_eq_true, Bool.not_eq_true'] at hqueued
  rw [(h.step hs).holding_append_awaiting] at hout
  have hleft : q ∉ (r.step s).requests := by
    intro hm
    refine of_decide_eq_true hout (List.mem_map.mpr ⟨q, mem_queue.mpr ?_, rfl⟩)
    exact ⟨hm, hqueued.1, beq_iff_eq.mp hkey⟩
  have hturn := r.turn s
  generalize (r.step s).requests = requests at hturn hleft
  cases hturn with
  | none => exact absurd hq hleft
  | lookUp => exact absurd (List.mem_append_left _ hq) hleft
  | @join p _ hnew =>
    have hne : q ≠ p := by
      rintro rfl
      rw [hqueued.1] at hnew
      cases hnew
    exact absurd (List.mem_append_left _ ((List.mem_erase_of_ne hne).mpr hq)) hleft
  | @release p _ hh =>
    have hne : q ≠ p := by
      rintro rfl
      rw [hqueued.2] at hh
      cases hh
    exact absurd ((List.mem_erase_of_ne hne).mpr hq) hleft
  | @abandon p _ _ =>
    by_cases he : q = p
    · rw [he]
    · exact absurd ((List.mem_erase_of_ne he).mpr hq) hleft

/-- Who holds the lock of a key is alone with it. -/
theorem eq_of_held (h : r.Proper) {q p : LockRequest ν κ} (hq : q ∈ r.held) (hp : p ∈ r.held)
    (hkey : q.key = p.key) : q = p := by
  obtain ⟨hq, hqh⟩ := List.mem_filter.mp hq
  obtain ⟨hp, hph⟩ := List.mem_filter.mp hp
  rw [h.holds_iff hq, hkey] at hqh
  rw [h.holds_iff hp, hqh] at hph
  exact Option.some.inj hph

/-- **Who has queued waits if somebody else holds the lock of the same key, and only then.** -/
theorem mem_waiting_iff (h : r.Proper) {q : LockRequest ν κ} (hq : q ∈ r.requests)
    (hqueued : q.queued = true) : q ∈ r.waiting ↔ ∃ p ∈ r.held, p.key = q.key ∧ p ≠ q := by
  have hmem : q ∈ r.queue q.key := mem_queue.mpr ⟨hq, hqueued, rfl⟩
  obtain ⟨first, rest, hqueue⟩ := List.exists_cons_of_ne_nil (List.ne_nil_of_mem hmem)
  obtain ⟨hfirst, _, hkey⟩ := mem_queue.mp (hqueue ▸ List.mem_cons_self .. : first ∈ r.queue q.key)
  have hheld : first ∈ r.held := by
    refine List.mem_filter.mpr ⟨hfirst, (h.holds_iff hfirst).mpr ?_⟩
    rw [hkey, hqueue, List.head?_cons]
  constructor
  · intro hw
    obtain ⟨_, hnot⟩ := List.mem_filter.mp hw
    refine ⟨first, hheld, hkey, ?_⟩
    rintro rfl
    rw [(List.mem_filter.mp hheld).2, Bool.not_true, Bool.and_false] at hnot
    cases hnot
  · rintro ⟨p, hp, hpkey, hne⟩
    refine List.mem_filter.mpr ⟨hq, ?_⟩
    cases hh : r.holds q with
    | true => exact absurd (h.eq_of_held hp (List.mem_filter.mpr ⟨hq, hh⟩) hpkey) hne
    | false => rw [hqueued]; rfl

/-- Who queues joins the queue of the key at its end. -/
theorem queue_enqueue (h : r.Proper) {q : LockRequest ν κ} (hq : q ∈ r.requests)
    (hnew : q.queued = false) :
    (r.enqueue q.name).queue q.key = r.queue q.key ++ [{ q with queued := true }] := by
  have hfind : r.requests.find? (fun p => p.name == q.name && !p.queued) = some q := by
    obtain ⟨p, hp⟩ : ∃ p, r.requests.find? (fun p => p.name == q.name && !p.queued) = some p := by
      rw [← Option.isSome_iff_exists, List.find?_isSome]
      exact ⟨q, hq, by simp [hnew]⟩
    have hfound := List.find?_some hp
    rw [Bool.and_eq_true, beq_iff_eq] at hfound
    rw [hp, h.eq_of_name (List.mem_of_find?_eq_some hp) hq hfound.1]
  have hout : q ∉ r.queue q.key := fun hm => by
    rw [(mem_queue.mp hm).2.1] at hnew
    cases hnew
  show ((r.enqueue q.name).requests.filter fun p => p.queued && p.key == q.key) = _
  unfold LockRegistry.enqueue
  rw [hfind]
  show ((r.requests.erase q ++ [{ q with queued := true }]).filter
    fun p : LockRequest ν κ => p.queued && p.key == q.key) = _
  rw [List.filter_append, ← List.erase_filter, List.filter_cons_of_pos (by simp), List.filter_nil]
  rw [show (r.requests.filter fun p => p.queued && p.key == q.key) = r.queue q.key from rfl,
    List.erase_of_not_mem hout]

/-- Keys that somebody holds the lock of, or has asked for the lock of. -/
theorem card_held_or_pending (h : r.Proper) :
    r.activeCount = ((r.held ++ r.pending).map (·.key)).toFinset.card := by
  have hperm : (r.held ++ r.pending).Perm r.requests := List.filter_append_perm ..
  rw [h.activeCount_eq]
  refine congrArg Finset.card ?_
  ext key
  rw [List.mem_toFinset, List.mem_toFinset]
  exact ((hperm.map (·.key)).mem_iff).symm

end Proper

/-- A step about somebody who has nothing to do with a key leaves its queue alone. -/
theorem queue_step_other {s : Step ν κ} {key : κ}
    (hs : ∀ q ∈ r.requests, q.name = s.name → q.key ≠ key) :
    (r.step s).queue key = r.queue key := by
  have herase : ∀ q ∈ r.requests, q.name = s.name →
      (r.requests.erase q).filter (fun q => q.queued && q.key == key) = r.queue key := by
    intro q hq hname
    rw [← List.erase_filter, List.erase_of_not_mem]
    · rfl
    · intro hm
      exact hs q hq hname (mem_queue.mp hm).2.2
  have hturn := r.turn s
  show ((r.step s).requests.filter fun q => q.queued && q.key == key) = _
  generalize (r.step s).requests = requests at hturn ⊢
  cases hturn with
  | none => rfl
  | lookUp =>
    rw [List.filter_append, List.filter_cons_of_neg (by simp), List.filter_nil, List.append_nil]
    rfl
  | @join q hq _ =>
    rw [List.filter_append, herase q hq rfl, List.filter_cons_of_neg, List.filter_nil,
      List.append_nil]
    simp [hs q hq rfl]
  | release hq _ => exact herase _ hq rfl
  | abandon hq _ => exact herase _ hq rfl

/-- When everybody who has looked a lock up has queued, they hold it or wait for it. -/
theorem pending_eq_waiting (hqueued : ∀ q ∈ r.requests, q.queued = true) :
    r.pending = r.waiting := by
  refine List.filter_congr fun q hq => ?_
  rw [hqueued q hq, Bool.true_and]

/-- What is true of the locks after some steps. -/
structure Fair (steps : List (Step ν κ)) : Prop where
  /-- A key has at most one holder. -/
  exclusive : ∀ q ∈ (run steps).held, ∀ p ∈ (run steps).held, q.key = p.key → q = p
  /-- Whoever holds, awaits or has looked up the lock of a key has the same lock, which is no
  other key's. -/
  oneLock : ∀ q ∈ (run steps).requests, ∀ p ∈ (run steps).requests,
    q.key = p.key ↔ q.lock = p.lock
  /-- Who has queued waits exactly if somebody else holds the lock of the same key: other keys
  keep nobody waiting, and no key has waiters without a holder. -/
  blocked : ∀ q ∈ (run steps).requests, q.queued = true →
    (q ∈ (run steps).waiting ↔ ∃ p ∈ (run steps).held, p.key = q.key ∧ p ≠ q)
  /-- Who queues for a key that nobody holds the lock of holds it at once. -/
  atOnce : ∀ q ∈ (run steps).requests, q.queued = false → (run steps).holding q.key = [] →
    (run (steps ++ [.enqueue q.name])).holding q.key = [q.name]
  /-- Another step about other keys changes nothing for those who hold or await a lock. -/
  apart : ∀ s key, Distinct (steps ++ [s]) →
    (∀ q ∈ (run steps).requests, q.name = s.name → q.key ≠ key) →
    (run (steps ++ [s])).holding key = (run steps).holding key ∧
      (run (steps ++ [s])).awaiting key = (run steps).awaiting key
  /-- Those who began to wait and did not give up have held the lock of the key in the order in
  which they came, and those who have not held it yet wait in this order. -/
  inTurn : ∀ key, (arrivals key steps).filter (· ∉ departures key steps) =
    grants key steps ++ (run steps).awaiting key
  /-- Who is passed over has given up. -/
  skipped : ∀ key, ∀ n ∈ departures key steps, .abandon n ∈ steps
  /-- The active count is the number of keys that somebody holds the lock of or is acquiring. -/
  counted : (run steps).activeCount =
    (((run steps).held ++ (run steps).pending).map (·.key)).toFinset.card
  /-- When nobody is between looking a lock up and queueing for it, these are the keys that are
  held or waited for. -/
  countedQueued : (∀ q ∈ (run steps).requests, q.queued = true) → (run steps).activeCount =
    (((run steps).held ++ (run steps).waiting).map (·.key)).toFinset.card

/-- Who stopped waiting in a run gave up. -/
theorem abandon_mem_of_departures {steps : List (Step ν κ)} (hd : Distinct steps) {key : κ} {n : ν}
    (hn : n ∈ departures key steps) : .abandon n ∈ steps := by
  induction steps using List.reverseRecOn with
  | nil => exact absurd hn List.not_mem_nil
  | append_singleton steps s ih =>
    obtain ⟨hd', hnew⟩ := hd.snoc
    obtain ⟨hproper, hused⟩ := run_proper hd'
    rw [departures_snoc] at hn
    rcases List.mem_append.mp hn with hn | hn
    · exact List.mem_append_left _ (ih hd' hn)
    · have hs := hproper.eq_abandon_of_gone (fun q hq => hnew _ (hused q hq)) hn
      exact List.mem_append_right _ (List.mem_singleton.mpr hs.symm)

/-- **Locks exclude and serve in turn, in every order of the steps of any number of tasks**, as
long as every call has a name of its own. -/
theorem run_fair {steps : List (Step ν κ)} (hd : Distinct steps) : Fair steps := by
  obtain ⟨hproper, _⟩ := run_proper hd
  refine ⟨fun q hq p hp => hproper.eq_of_held hq hp, fun q hq p hp => hproper.key_eq_iff hq hp,
    fun q hq hqueued => hproper.mem_waiting_iff hq hqueued, fun q hq hnew hfree => ?_,
    fun s key hd' hs => ?_, fun key => (run_served hd key).fifo,
    fun key n hn => abandon_mem_of_departures hd hn, hproper.card_held_or_pending,
    fun hqueued => ?_⟩
  · have hd' : Distinct (steps ++ [Step.enqueue (κ := κ) q.name]) := by
      rw [Distinct, callers_snoc]
      exact (List.append_nil _).symm ▸ hd
    obtain ⟨hproper', _⟩ := run_proper hd'
    rw [hproper'.holding_eq, run_snoc]
    show (((run steps).enqueue q.name).queue q.key |>.map (·.name)).take 1 = _
    rw [hproper.queue_enqueue hq hnew]
    rw [hproper.holding_eq, List.take_eq_nil_iff] at hfree
    rw [List.map_append, hfree.resolve_left (by decide)]
    rfl
  · obtain ⟨hproper', _⟩ := run_proper hd'
    rw [hproper'.holding_eq, hproper'.awaiting_eq, hproper.holding_eq, hproper.awaiting_eq,
      run_snoc, queue_step_other hs]
    exact ⟨rfl, rfl⟩
  · rw [hproper.card_held_or_pending, pending_eq_waiting hqueued]

/-- One key changes hands, its second lock is another than its first, and somebody gives up. -/
theorem run_fair_changing :
    let steps : List (Step Nat Nat) :=
      [.lookUp 1 7, .enqueue 1, .lookUp 2 7, .lookUp 3 8, .enqueue 2, .enqueue 3, .lookUp 4 7,
        .enqueue 4, .lookUp 5 7, .enqueue 5, .abandon 4, .release 1, .release 2, .release 5,
        .lookUp 6 7, .lookUp 9 7, .enqueue 6]
    Distinct steps ∧ (run steps).locks = [(8, 1), (7, 2)] ∧
      arrivals 7 steps = [1, 2, 4, 5, 6] ∧ departures 7 steps = [4] ∧
      grants 7 steps = [1, 2, 5, 6] ∧ Fair steps :=
  ⟨by decide, by decide, by decide, by decide, by decide, run_fair (by decide)⟩

end Storefront.LockRegistry
