import Mathlib.Data.List.Perm.Subperm
import Storefront.Proofs.Dispatch

/-! # Waiting for a dispatcher to be idle

A call that has not come to its end is in flight, or somebody who waits has taken it
(`Dispatcher.Tracked`).  While nobody waits, therefore, there are never more such calls than
calls in flight; and whoever comes to the end of a wait while nobody else waits leaves no call
behind that has not ended.  Together with what is known of the calls that are made, this is how
events are delivered (`Dispatcher.delivers`).

Who waits at the same time as others learns less.  What others have taken is not in flight any
more, so that a wait can be over at once although calls that were started before it go on; these
are calls that somebody else waits for, and there are no others (`Dispatcher.left_to_others`).
-/
namespace Storefront.Dispatcher

variable {d : Dispatcher}

/-- The calls that were started and have not come to their end. -/
def unfinished (d : Dispatcher) : List Nat :=
  (List.range d.calls.length).filter fun call => !d.isFinished call

theorem mem_unfinished {call : Nat} :
    call ∈ d.unfinished ↔ call < d.calls.length ∧ d.isFinished call = false := by
  simp [unfinished]

/-- Whether a waiter's wait is over, if there is such a waiter. -/
def returned? (d : Dispatcher) (waiter : Nat) : Option Bool :=
  d.waiters[waiter]?.map Waiter.returned

/-- A waiter's wait comes to its end when it is the waiter's turn. -/
def Returns (d : Dispatcher) (waiter : Nat) : Prop :=
  d.returned? waiter = some false ∧ (d.continueWait waiter).returned? waiter = some true

instance (d : Dispatcher) (waiter : Nat) : Decidable (d.Returns waiter) :=
  inferInstanceAs (Decidable (_ ∧ _))

/-! ### No call gets lost -/

/-- Every call that has not ended is in flight or has been taken by somebody, and nobody whose
wait is over has anything left to wait for. -/
structure Tracked (d : Dispatcher) : Prop where
  known : ∀ call ∈ d.unfinished,
    call ∈ d.inFlight ∨ ∃ (waiter : Nat) (w : Waiter), d.waiters[waiter]? = some w ∧ call ∈ w.taken
  emptied : ∀ (waiter : Nat) (w : Waiter), d.waiters[waiter]? = some w → w.returned = true → w.taken = []

theorem Tracked.empty : Tracked empty where
  known := by simp [unfinished, Dispatcher.empty]
  emptied := by simp [Dispatcher.empty]

theorem Tracked.publish (h : d.Tracked) (payloads : List Payload) :
    (d.publish payloads).Tracked := by
  obtain ⟨flight, heq, hkept, hnew⟩ := d.startAll_eq (d.due payloads)
  have hfinished := d.isFinished_startAll (d.due payloads)
  rw [← publish_eq] at heq hfinished
  refine ⟨fun call hcall => ?_, by rw [heq]; exact h.emptied⟩
  obtain ⟨hlt, hunfinished⟩ := mem_unfinished.mp hcall
  rw [hfinished] at hunfinished
  rw [heq] at hlt ⊢
  simp only [List.length_append, List.length_map] at hlt
  rcases Nat.lt_or_ge call d.calls.length with hold | hyoung
  · rcases h.known call (mem_unfinished.mpr ⟨hold, hunfinished⟩) with hflight | htaken
    · exact .inl (hkept call hflight hunfinished)
    · exact .inr htaken
  · exact .inl (hnew call hyoung hlt)

/-- A call that has not ended may come further. -/
theorem Tracked.setState (h : d.Tracked) {call : Nat} (hcall : d.isFinished call = false)
    (state : CallState) : (d.setState call state).Tracked := by
  refine ⟨fun i hi => h.known i ?_, h.emptied⟩
  obtain ⟨hlt, hunfinished⟩ := mem_unfinished.mp hi
  refine mem_unfinished.mpr ⟨by simpa [Dispatcher.setState] using hlt, ?_⟩
  by_cases heq : call = i
  · exact heq ▸ hcall
  · simpa [isFinished, Dispatcher.setState, List.getElem?_modify, heq] using hunfinished

theorem Tracked.proceed (h : d.Tracked) (call : Nat) : (d.proceed call).Tracked := by
  rcases d.proceed_cases call with ⟨heq, -⟩ | ⟨c, state, hc, hunfinished, heq⟩
  · rwa [heq]
  · have hcall : (d.publish (d.publishedBy call)).isFinished call = false := by
      rw [publish_eq, isFinished_startAll, isFinished, hc]
      exact hunfinished
    rw [heq]
    exact (h.publish _).setState hcall state

/-- **What a waiter does on its turn**: nothing, or it takes what is in flight and is at the end
of its wait if that is nothing, or it gives up a taken call that has ended. -/
theorem continueWait_cases (d : Dispatcher) (waiter : Nat) :
    d.continueWait waiter = d ∨
      ∃ w, d.waiters[waiter]? = some w ∧ w.returned = false ∧
        ((w.taken = [] ∧
          d.continueWait waiter =
            { d with
              inFlight := []
              waiters := d.waiters.set waiter ⟨d.inFlight, d.inFlight.isEmpty⟩ }) ∨
        (w.taken ≠ [] ∧
          d.continueWait waiter =
            { d with
              waiters := d.waiters.set waiter ⟨w.taken.eraseP d.isFinished, false⟩ })) := by
  unfold continueWait
  cases hw : d.waiters[waiter]? with
  | none => exact .inl rfl
  | some w =>
    obtain ⟨taken, returned⟩ := w
    cases returned with
    | true => exact .inl rfl
    | false =>
      refine .inr ⟨_, rfl, rfl, ?_⟩
      cases taken with
      | nil => exact .inl ⟨rfl, rfl⟩
      | cons call rest => exact .inr ⟨List.cons_ne_nil _ _, rfl⟩

theorem Tracked.continueWait (h : d.Tracked) (waiter : Nat) : (d.continueWait waiter).Tracked := by
  rcases d.continueWait_cases waiter with heq | ⟨w, hw, -, heq⟩
  · rwa [heq]
  have hlt : waiter < d.waiters.length := (List.getElem?_eq_some_iff.mp hw).1
  rcases heq with ⟨hnone, heq⟩ | ⟨-, heq⟩
  · -- the waiter had nothing, and takes all that is in flight
    rw [heq]
    refine ⟨fun call hcall => .inr ?_, fun other v hv hover => ?_⟩
    · rcases h.known call hcall with hflight | ⟨other, v, hv, hmem⟩
      · exact ⟨waiter, _, List.getElem?_set_self hlt, hflight⟩
      · have hne : waiter ≠ other := by
          rintro rfl
          cases hw.symm.trans hv
          simp [hnone] at hmem
        exact ⟨other, v, by rwa [List.getElem?_set_ne hne], hmem⟩
    · by_cases hne : waiter = other
      · subst hne
        rw [List.getElem?_set_self hlt] at hv
        cases hv
        exact List.isEmpty_iff.mp hover
      · rw [List.getElem?_set_ne hne] at hv
        exact h.emptied other v hv hover
  · -- what the waiter gives up has ended, so that it still has all that it waits for
    rw [heq]
    refine ⟨fun call hcall => ?_, fun other v hv hover => ?_⟩
    · refine (h.known call hcall).imp_right ?_
      rintro ⟨other, v, hv, hmem⟩
      by_cases hne : waiter = other
      · subst hne
        cases hw.symm.trans hv
        have hunfinished : ¬ d.isFinished call = true := Bool.eq_false_iff.mp (mem_unfinished.mp hcall).2
        exact ⟨waiter, _, List.getElem?_set_self hlt,
          (List.mem_eraseP_of_neg hunfinished).mpr hmem⟩
      · exact ⟨other, v, by rwa [List.getElem?_set_ne hne], hmem⟩
    · by_cases hne : waiter = other
      · subst hne
        rw [List.getElem?_set_self hlt] at hv
        cases hv
        cases hover
      · rw [List.getElem?_set_ne hne] at hv
        exact h.emptied other v hv hover

theorem Tracked.beginWait (h : d.Tracked) : d.beginWait.Tracked := by
  have hlookup {waiter : Nat} {w : Waiter} (hw : d.beginWait.waiters[waiter]? = some w) :
      d.waiters[waiter]? = some w ∨ w = ⟨[], false⟩ := by
    simp only [Dispatcher.beginWait, List.getElem?_append] at hw
    split at hw
    · exact .inl hw
    · simp only [List.getElem?_singleton] at hw
      split at hw
      · exact .inr (Option.some.inj hw).symm
      · cases hw
  refine ⟨fun call hcall => ?_, fun waiter w hw hover => ?_⟩
  · refine (h.known call hcall).imp_right ?_
    rintro ⟨waiter, w, hw, hmem⟩
    exact ⟨waiter, w, List.getElem?_append_left (List.getElem?_eq_some_iff.mp hw).1 ▸ hw, hmem⟩
  · rcases hlookup hw with hold | rfl
    · exact h.emptied waiter w hold hover
    · cases hover

theorem Tracked.step (h : d.Tracked) (s : Step) : (d.step s).Tracked := by
  cases s with
  | subscribe behaviour names => exact ⟨h.known, h.emptied⟩
  | publish payloads => exact h.publish payloads
  | proceed call => exact h.proceed call
  | openGate => exact ⟨h.known, h.emptied⟩
  | beginWait => exact h.beginWait
  | continueWait waiter => exact h.continueWait waiter

/-- **No call gets lost in a run**, whatever happens in it. -/
theorem tracked_run (steps : List Step) : (run steps).Tracked := by
  induction steps using List.reverseRecOn with
  | nil => exact .empty
  | append_singleton steps s ih =>
    rw [run, List.foldl_append]
    exact ih.step s

/-! ### The end of a wait -/

/-- While nobody waits there are no more unfinished calls than calls in flight. -/
theorem Tracked.length_unfinished_le (h : d.Tracked)
    (hnobody : ∀ waiter, d.returned? waiter ≠ some false) :
    d.unfinished.length ≤ d.inFlight.length := by
  have hnodup : d.unfinished.Nodup := List.nodup_range.filter _
  refine (List.subperm_of_subset hnodup fun call hcall => ?_).length_le
  refine (h.known call hcall).resolve_right ?_
  rintro ⟨waiter, w, hw, hmem⟩
  have hreturned : w.returned = true := by
    simpa [returned?, hw] using hnobody waiter
  rw [h.emptied waiter w hw hreturned] at hmem
  cases hmem

/-- Whoever returns has found nothing in flight, and leaves everything else as it was. -/
theorem Returns.elim {waiter : Nat} (h : d.Returns waiter) :
    d.inFlight = [] ∧ (∃ w, d.waiters[waiter]? = some w ∧ w.taken = []) ∧
      d.continueWait waiter =
        { d with inFlight := [], waiters := d.waiters.set waiter ⟨[], true⟩ } := by
  obtain ⟨hwaits, hover⟩ := h
  rcases d.continueWait_cases waiter with heq | ⟨w, hw, -, ⟨hnone, heq⟩ | ⟨-, heq⟩⟩
  · rw [heq, hwaits] at hover
    cases hover
  · have hlt : waiter < d.waiters.length := (List.getElem?_eq_some_iff.mp hw).1
    have hflight : d.inFlight = [] := by
      rw [heq, returned?, List.getElem?_set_self hlt] at hover
      exact List.isEmpty_iff.mp (Option.some.inj hover)
    refine ⟨hflight, ⟨w, hw, hnone⟩, ?_⟩
    rw [heq, hflight]
    rfl
  · rw [heq, returned?, List.getElem?_set_self (List.getElem?_eq_some_iff.mp hw).1] at hover
    cases hover

/-- The calls that a wait leaves behind, when it comes to its end, are waited for by others. -/
theorem Tracked.left (h : d.Tracked) {waiter : Nat} (hreturns : d.Returns waiter) {call : Nat}
    (hcall : call ∈ (d.continueWait waiter).unfinished) :
    ∃ (other : Nat) (w : Waiter), other ≠ waiter ∧ d.waiters[other]? = some w ∧ w.returned = false ∧
      call ∈ w.taken := by
  obtain ⟨hflight, ⟨v, hv, hnone⟩, heq⟩ := hreturns.elim
  rw [heq] at hcall
  rcases h.known call hcall with hmem | ⟨other, w, hw, hmem⟩
  · rw [hflight] at hmem
    cases hmem
  · refine ⟨other, w, ?_, hw, ?_, hmem⟩
    · rintro rfl
      cases hw.symm.trans hv
      simp [hnone] at hmem
    · rw [Bool.eq_false_iff]
      intro hover
      rw [h.emptied other w hw hover] at hmem
      cases hmem

/-! ### How events are delivered -/

/-- What is to be said of a dispatcher after some steps. -/
structure Delivers (steps : List Step) : Prop where
  /-- Every event that was published has started one call for every subscription to its name
  that there was then, and no call was started but for that. -/
  once : (run steps).calls.map Call.told =
    (publications steps).flatMap fun x => (registered x.before x.payload.name).map (·, x.payload)
  /-- Publishing succeeds, leaves the calls that there are as they were, and queues new ones. -/
  prompt : ∀ payloads, ((run steps).publishing payloads).1 = .ok () ∧
    ∃ fresh, ((run steps).publishing payloads).2.calls = (run steps).calls ++ fresh ∧
      ∀ c ∈ fresh, c.state = .queued
  /-- If calls had ended otherwise, the calls made and how far they have come would be the
  same. -/
  isolated : ∀ other, List.Forall₂ Step.Alike steps other →
    (run other).calls.map Call.outline = (run steps).calls.map Call.outline
  /-- While nobody waits, there are no fewer calls in flight than unfinished ones. -/
  counted : (∀ waiter, (run steps).returned? waiter ≠ some false) →
    (run steps).unfinished.length ≤ (run steps).inFlight.length
  /-- If a wait comes to its end and nobody else waits, all calls have ended and none is in
  flight. -/
  idle : ∀ waiter, (run steps).Returns waiter →
    (∀ other, other ≠ waiter → (run steps).returned? other ≠ some false) →
    ((run steps).continueWait waiter).unfinished = [] ∧
      ((run steps).continueWait waiter).inFlight = []

/-- **Events are delivered to everybody who has asked for them, once, and independently**, in
every run of a dispatcher. -/
theorem delivers (steps : List Step) : Delivers steps where
  once := calls_made steps
  prompt payloads := by
    refine ⟨rfl, _, (run steps).publish_calls payloads, fun c hc => ?_⟩
    obtain ⟨x, -, rfl⟩ := List.mem_map.mp hc
    rfl
  isolated other h := (calls_of_alike h).symm
  counted := (tracked_run steps).length_unfinished_le
  idle waiter hreturns hothers := by
    refine ⟨List.eq_nil_iff_forall_not_mem.mpr fun call hcall => ?_, ?_⟩
    · obtain ⟨other, w, hne, hw, hwaits, -⟩ := (tracked_run steps).left hreturns hcall
      exact hothers other hne (by rw [returned?, hw, Option.map_some, hwaits])
    · rw [hreturns.elim.2.2]

/-- A call publishes something and crashes.  Whoever has asked for that by then is called, and
whoever asks later is not. -/
example :
    let news : Payload := .customer (.deactivated default)
    let more : Payload := .customer (.registered default "" "" "")
    let steps : List Step :=
      [.subscribe (.always [.publish [more]] .crash) [news.name], .subscribe .fail [more.name],
        .publish [news], .proceed 0, .subscribe .succeed [more.name], .proceed 1, .proceed 0]
    (run steps).calls.map (fun c => (c.handler.number, c.payload, c.state)) =
      [(0, news, .ended .crash), (1, more, .ended .failure)] := by
  decide +kernel

/-! ### Waiting while others wait -/

/-- **A wait that comes to its end leaves no call unfinished but those that others wait for.** -/
theorem left_to_others (steps : List Step) (waiter : Nat) (h : (run steps).Returns waiter) :
    ∀ call < (run steps).calls.length,
      ((run steps).continueWait waiter).isFinished call = true ∨
        ∃ (other : Nat) (w : Waiter), other ≠ waiter ∧
          (run steps).waiters[other]? = some w ∧ w.returned = false ∧ call ∈ w.taken := by
  intro call hlt
  rw [or_iff_not_imp_left, Bool.not_eq_true]
  intro hunfinished
  refine (tracked_run steps).left h (mem_unfinished.mpr ⟨?_, hunfinished⟩)
  rw [h.elim.2.2]
  exact hlt

/-- A call stands before the gate, and somebody waits for it. -/
def Sample.gatedCall : List Step :=
  [.subscribe .gated ["customer.deactivated"], .publish [.customer (.deactivated default)],
    .proceed 0, .beginWait, .continueWait 0]

/-- Somebody else comes, and need not wait at all. -/
theorem left_to_others_gatedCall :
    let d := run (Sample.gatedCall ++ [.beginWait])
    d.Returns 1 ∧ ∀ call < d.calls.length,
      (d.continueWait 1).isFinished call = true ∨
        ∃ (other : Nat) (w : Waiter), other ≠ 1 ∧
          d.waiters[other]? = some w ∧ w.returned = false ∧ call ∈ w.taken :=
  have hreturns : (run (Sample.gatedCall ++ [.beginWait])).Returns 1 := by decide +kernel
  ⟨hreturns, left_to_others _ 1 hreturns⟩

/-- A wait may come to its end before a call that was started before it began. -/
theorem wait_overtaken :
    ¬ ∀ before during : List Step,
      let waiter := (run before).waiters.length
      let d := run (before ++ .beginWait :: during)
      d.Returns waiter →
        ∀ call < (run before).calls.length, (d.continueWait waiter).isFinished call = true := by
  intro h
  have hfinished := h Sample.gatedCall [] (by decide +kernel) 0 (by decide +kernel)
  revert hfinished
  decide +kernel

end Storefront.Dispatcher
