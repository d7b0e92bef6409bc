import Mathlib.Data.List.Forall2
import Mathlib.Data.List.Induction
import Storefront.Dispatcher

/-! # Who is told of an event

The calls that a dispatcher has started can be told from the steps alone.  Whoever has asked for
events of a name, at the time when an event of that name is published, is called with it once,
and nobody else is (`Dispatcher.calls_made`).  It makes no difference whether the event was
published from outside or by a call, in which order calls proceed, whether they wait for the
gate, and who waits for the dispatcher to be idle.

How calls end makes no difference either (`Dispatcher.calls_of_alike`): a dispatcher that is
told to forget about it, by taking every end for a success, still does the same at every step.
-/
namespace Storefront

/-- Whom a call calls, and with what. -/
def Call.told (c : Call) : Handler × Payload := (c.handler, c.payload)

namespace Dispatcher

variable {d : Dispatcher}

/-! ### Publishing -/

/-- The calls that are due for some events: every handler that is told of one, with that one. -/
def due (d : Dispatcher) (payloads : List Payload) : List (Handler × Payload) :=
  payloads.flatMap fun p => (d.subscriptions.handlersOf p.name).map (·, p)

/-- Starts some calls, one after the other. -/
def startAll (d : Dispatcher) (calls : List (Handler × Payload)) : Dispatcher :=
  calls.foldl (fun d call => d.start call.1 call.2) d

/-- Starting a call finishes none and makes none unfinished again: a call that has not been
started counts as unfinished. -/
theorem isFinished_start (d : Dispatcher) (h : Handler) (p : Payload) :
    (d.start h p).isFinished = d.isFinished := by
  funext i
  simp only [isFinished, start]
  rcases Nat.lt_trichotomy i d.calls.length with hi | rfl | hi
  · rw [List.getElem?_append_left hi]
  · simp [CallState.isFinished]
  · rw [List.getElem?_eq_none (by simp; omega), List.getElem?_eq_none (by omega)]

theorem isFinished_startAll (d : Dispatcher) (calls : List (Handler × Payload)) :
    (d.startAll calls).isFinished = d.isFinished := by
  induction calls generalizing d with
  | nil => rfl
  | cons c rest ih => exact (ih _).trans (d.isFinished_start ..)

/-- **What starting some calls does**: they are queued behind those that there are, and the calls
in flight are theirs and whichever of the others are not reaped, which are all that have not
finished. -/
theorem startAll_eq (d : Dispatcher) (calls : List (Handler × Payload)) :
    ∃ flight,
      d.startAll calls =
        { d with
          calls := d.calls ++ calls.map fun c => ⟨c.1, c.2, .queued⟩
          inFlight := flight } ∧
      (∀ i ∈ d.inFlight, d.isFinished i = false → i ∈ flight) ∧
      ∀ i, d.calls.length ≤ i → i < d.calls.length + calls.length → i ∈ flight := by
  induction calls generalizing d with
  | nil => exact ⟨d.inFlight, by simp [startAll], fun i hi _ => hi, fun i h h' => by simp at h'; omega⟩
  | cons c rest ih =>
    obtain ⟨flight, heq, hkept, hnew⟩ := ih (d.start c.1 c.2)
    rw [isFinished_start] at hkept
    have hlength : (d.start c.1 c.2).calls.length = d.calls.length + 1 := by simp [start]
    refine ⟨flight, ?_, ?_, ?_⟩
    · rw [show d.startAll (c :: rest) = (d.start c.1 c.2).startAll rest from rfl, heq]
      simp [start]
    · intro i hi hunfinished
      exact hkept i (List.mem_append_left _ (List.mem_filter.mpr ⟨hi, by simp [hunfinished]⟩))
        hunfinished
    · intro i hge hlt
      rcases Nat.eq_or_lt_of_le hge with rfl | hgt
      · -- the first call is in flight when it is started, and the others do not reap it
        have hqueued : d.isFinished d.calls.length = false := by simp [isFinished]
        exact hkept _ (List.mem_append_right _ (List.mem_singleton_self _)) hqueued
      · refine hnew i (by omega) ?_
        rw [hlength]
        simp only [List.length_cons] at hlt
        omega

theorem startAll_subscriptions (d : Dispatcher) (calls : List (Handler × Payload)) :
    (d.startAll calls).subscriptions = d.subscriptions := by
  obtain ⟨flight, heq, -⟩ := d.startAll_eq calls
  rw [heq]

/-- **Publishing some events starts all calls that are due for them**, and nothing else. -/
theorem publish_eq (d : Dispatcher) (payloads : List Payload) :
    d.publish payloads = d.startAll (d.due payloads) := by
  show payloads.foldl publishOne d = _
  induction payloads generalizing d with
  | nil => rfl
  | cons p rest ih =>
    have hone : d.publishOne p =
        d.startAll ((d.subscriptions.handlersOf p.name).map (·, p)) := by
      rw [startAll, List.foldl_map]
      rfl
    have hdue : (d.publishOne p).due rest = d.due rest := by
      rw [due, due, hone, startAll_subscriptions]
    rw [List.foldl_cons, ih, hdue, hone]
    exact (List.foldl_append ..).symm

theorem publish_calls (d : Dispatcher) (payloads : List Payload) :
    (d.publish payloads).calls =
      d.calls ++ (d.due payloads).map fun c => ⟨c.1, c.2, .queued⟩ := by
  obtain ⟨flight, heq, -⟩ := d.startAll_eq (d.due payloads)
  rw [publish_eq, heq]

/-! ### What a step publishes -/

/-- What a call publishes as its next act. -/
def publishedBy (d : Dispatcher) (call : Nat) : List Payload :=
  match d.calls[call]? with
  | none => []
  | some c =>
    match c.ahead call with
    | .publish payloads :: _ => payloads
    | _ => []

/-- What a step publishes. -/
def published (d : Dispatcher) : Step → List Payload
  | .publish payloads => payloads
  | .proceed call => d.publishedBy call
  | _ => []

/-- **What a call does on its turn**: nothing, or it publishes something, if it has anything to
publish, and has come further then. -/
theorem proceed_cases (d : Dispatcher) (call : Nat) :
    (d.proceed call = d ∧ d.publishedBy call = []) ∨
      ∃ c state, d.calls[call]? = some c ∧ c.state.isFinished = false ∧
        d.proceed call = (d.publish (d.publishedBy call)).setState call state := by
  unfold proceed publishedBy
  cases hc : d.calls[call]? with
  | none => exact .inl ⟨rfl, rfl⟩
  | some c =>
    dsimp only
    cases hfinished : c.state.isFinished with
    | true =>
      have hahead : c.ahead call = [] := by
        cases hs : c.state with
        | ended e => simp [Call.ahead, hs]
        | queued => simp [hs, CallState.isFinished] at hfinished
        | underWay rest => simp [hs, CallState.isFinished] at hfinished
      exact .inl ⟨rfl, by rw [hahead]⟩
    | false =>
      refine .inr ⟨c, ?_⟩
      cases c.ahead call with
      | nil => exact ⟨_, rfl, hfinished, rfl⟩
      | cons act rest =>
        cases act with
        | await => exact ⟨_, rfl, hfinished, rfl⟩
        | publish payloads => exact ⟨_, rfl, hfinished, rfl⟩

theorem setState_told (d : Dispatcher) (call : Nat) (state : CallState) :
    (d.setState call state).calls.map Call.told = d.calls.map Call.told := by
  refine List.ext_getElem? fun i => ?_
  simp only [setState, List.getElem?_map, List.getElem?_modify, Option.map_eq_map,
    Option.map_map]
  congr 1
  funext c
  simp only [Function.comp_apply]
  split <;> rfl

/-- **A step starts the calls that are due for what it publishes**, and no others. -/
theorem step_told (d : Dispatcher) (s : Step) :
    (d.step s).calls.map Call.told = d.calls.map Call.told ++ d.due (d.published s) := by
  have hpublish (payloads : List Payload) : (d.publish payloads).calls.map Call.told =
      d.calls.map Call.told ++ d.due payloads := by
    simp [publish_calls, Function.comp_def, Call.told]
  have hnothing : d.due [] = [] := rfl
  cases s with
  | publish payloads => exact hpublish payloads
  | proceed call =>
    show (d.proceed call).calls.map Call.told = _ ++ d.due (d.publishedBy call)
    rcases d.proceed_cases call with ⟨heq, hnone⟩ | ⟨c, state, -, -, heq⟩
    · rw [heq, hnone, hnothing, List.append_nil]
    · rw [heq, setState_told, hpublish]
  | continueWait waiter =>
    have hcalls : (d.continueWait waiter).calls = d.calls := by
      unfold continueWait
      repeat' split
      all_goals rfl
    simp [step, hcalls, published, hnothing]
  | _ => simp [step, subscribe, openGate, beginWait, published, hnothing]

/-! ### Who has asked for what -/

/-- What a step asks for, if it is the subscription of a handler. -/
def Step.asking? : Step → Option (Behaviour × List String)
  | .subscribe behaviour names => some (behaviour, names)
  | _ => none

/-- The handlers that were registered in some steps, each with a name that it asks for, as often
as it does. -/
def askers (steps : List Step) : List (String × Handler) :=
  (steps.filterMap Step.asking?).zipIdx.flatMap fun x => x.1.2.map (·, ⟨x.2, x.1.1⟩)

/-- The handlers that were registered for a name in some steps: one for every subscription. -/
def registered (steps : List Step) (name : String) : List Handler :=
  ((askers steps).filter fun e => e.1 == name).map Prod.snd

theorem subscribe_eq (d : Dispatcher) (behaviour : Behaviour) (names : List String) :
    d.subscribe behaviour names =
      { d with
        handlers := d.handlers ++ [⟨d.handlers.length, behaviour⟩]
        subscriptions :=
          ⟨d.subscriptions.entries ++ names.map (·, ⟨d.handlers.length, behaviour⟩)⟩ } := by
  have hadd (s : Subscriptions Handler) (h : Handler) :
      names.foldl (fun s name => s.add name h) s = ⟨s.entries ++ names.map (·, h)⟩ := by
    induction names generalizing s with
    | nil => simp
    | cons name rest ih =>
      rw [List.foldl_cons, ih]
      simp [Subscriptions.add]
  rw [subscribe, hadd]

/-- Only subscribing changes who has asked for what. -/
theorem step_asked (d : Dispatcher) (s : Step) (h : s.asking? = none) :
    (d.step s).subscriptions = d.subscriptions ∧ (d.step s).handlers = d.handlers := by
  have hpublish (payloads : List Payload) :
      (d.publish payloads).subscriptions = d.subscriptions ∧
        (d.publish payloads).handlers = d.handlers := by
    obtain ⟨flight, heq, -⟩ := d.startAll_eq (d.due payloads)
    rw [publish_eq, heq]
    exact ⟨rfl, rfl⟩
  cases s with
  | subscribe behaviour names => cases h
  | publish payloads => exact hpublish payloads
  | proceed call =>
    rcases d.proceed_cases call with ⟨heq, -⟩ | ⟨c, state, -, -, heq⟩
    · simp [step, heq]
    · simpa [step, heq, setState] using hpublish (d.publishedBy call)
  | continueWait waiter =>
    simp only [step, continueWait]
    repeat' split
    all_goals exact ⟨rfl, rfl⟩
  | _ => exact ⟨rfl, rfl⟩

/-- A dispatcher knows whom the steps so far have registered. -/
theorem run_asked (steps : List Step) :
    (run steps).subscriptions.entries = askers steps ∧
      (run steps).handlers.length = (steps.filterMap Step.asking?).length := by
  induction steps using List.reverseRecOn with
  | nil => exact ⟨rfl, rfl⟩
  | append_singleton steps s ih =>
    obtain ⟨hentries, hcount⟩ := ih
    have hrun : run (steps ++ [s]) = (run steps).step s := by simp [run]
    rw [hrun, askers, List.filterMap_append]
    cases hs : s.asking? with
    | none =>
      obtain ⟨hsubscriptions, hhandlers⟩ := (run steps).step_asked s hs
      simpa [hsubscriptions, hhandlers, hs] using ⟨hentries, hcount⟩
    | some asking =>
      cases s with
      | subscribe behaviour names =>
        cases hs
        constructor
        · simp [step, subscribe_eq, hentries, hcount, askers, Step.asking?, List.zipIdx_append]
        · simp [step, subscribe_eq, hcount, Step.asking?]
      | _ => cases hs

theorem handlersOf_run (steps : List Step) (name : String) :
    (run steps).subscriptions.handlersOf name = registered steps name := by
  rw [Subscriptions.handlersOf, (run_asked steps).1, registered]

/-! ### Every event to everybody who has asked for it, once -/

/-- An event that was published, with all steps before that. -/
structure Publication where
  before : List Step
  payload : Payload

/-- What is published in some steps, after others. -/
def publicationsAfter (before : List Step) : List Step → List Publication
  | [] => []
  | s :: rest =>
    ((run before).published s).map (⟨before, ·⟩) ++ publicationsAfter (before ++ [s]) rest

/-- All events that are published in some steps, from outside and by calls. -/
def publications (steps : List Step) : List Publication := publicationsAfter [] steps

theorem publicationsAfter_append (before steps more : List Step) :
    publicationsAfter before (steps ++ more) =
      publicationsAfter before steps ++ publicationsAfter (before ++ steps) more := by
  induction steps generalizing before with
  | nil => simp [publicationsAfter]
  | cons s rest ih => simp [publicationsAfter, ih]

/-- **The calls made are those of the handlers registered for an event's name when it was
published**, each with that event, and in this order. -/
theorem calls_made (steps : List Step) :
    (run steps).calls.map Call.told =
      (publications steps).flatMap fun x => (registered x.before x.payload.name).map (·, x.payload) := by
  induction steps using List.reverseRecOn with
  | nil => rfl
  | append_singleton steps s ih =>
    have hrun : run (steps ++ [s]) = (run steps).step s := by simp [run]
    have hsnoc : publications (steps ++ [s]) =
        publications steps ++ ((run steps).published s).map (⟨steps, ·⟩) := by
      simp [publications, publicationsAfter_append, publicationsAfter]
    rw [hrun, step_told, ih, hsnoc, List.flatMap_append, List.flatMap_map]
    simp only [due, handlersOf_run]

/-! ### How calls end -/

end Dispatcher

/-- The behaviour with the same acts, but every call succeeds. -/
def Behaviour.smoothed (b : Behaviour) : Behaviour := ⟨fun n p => ⟨(b.course n p).acts, .success⟩⟩

/-- The handler with the same acts, but every call succeeds. -/
def Handler.smoothed (h : Handler) : Handler := ⟨h.number, h.behaviour.smoothed⟩

/-- How far a call has come, but not how it ended. -/
def CallState.smoothed : CallState → CallState
  | .ended _ => .ended .success
  | s => s

/-- The call, taken for a success if it has ended. -/
def Call.smoothed (c : Call) : Call := ⟨c.handler.smoothed, c.payload, c.state.smoothed⟩

/-- What can be said of a call without saying how it ended. -/
def Call.outline (c : Call) : Nat × Payload × CallState :=
  (c.handler.number, c.payload, c.state.smoothed)

@[simp] theorem CallState.isFinished_smoothed (s : CallState) :
    s.smoothed.isFinished = s.isFinished := by
  cases s <;> rfl

@[simp] theorem Call.ahead_smoothed (c : Call) (place : Nat) :
    c.smoothed.ahead place = c.ahead place := by
  obtain ⟨h, p, s⟩ := c
  cases s <;> rfl

namespace Dispatcher

/-- The step, with handlers all of whose calls succeed. -/
def Step.smoothed : Step → Step
  | .subscribe behaviour names => .subscribe behaviour.smoothed names
  | s => s

/-- Two steps are alike if there is no difference between them but how calls end. -/
def Step.Alike : Step → Step → Prop
  | .subscribe b names, .subscribe b' names' =>
    (∀ place p, (b.course place p).acts = (b'.course place p).acts) ∧ names = names'
  | s, s' => s = s'

/-- The dispatcher that takes every end of a call for a success. -/
def smoothed (d : Dispatcher) : Dispatcher :=
  { d with
    subscriptions := ⟨d.subscriptions.entries.map fun e => (e.1, e.2.smoothed)⟩
    handlers := d.handlers.map Handler.smoothed
    calls := d.calls.map Call.smoothed }

@[simp] theorem isFinished_smoothed (d : Dispatcher) : d.smoothed.isFinished = d.isFinished := by
  funext i
  simp only [isFinished, smoothed, List.getElem?_map]
  cases d.calls[i]? with
  | none => rfl
  | some c => exact c.state.isFinished_smoothed

theorem setState_smoothed (d : Dispatcher) (call : Nat) (state : CallState) :
    (d.setState call state).smoothed = d.smoothed.setState call state.smoothed := by
  have hcalls : (d.calls.modify call fun c => { c with state }).map Call.smoothed =
      (d.calls.map Call.smoothed).modify call fun c => { c with state := state.smoothed } := by
    refine List.ext_getElem? fun i => ?_
    simp only [List.getElem?_map, List.getElem?_modify, Option.map_eq_map, Option.map_map]
    congr 1
    funext c
    simp only [Function.comp_apply]
    split <;> rfl
  simp [setState, smoothed, hcalls]

theorem startAll_smoothed (d : Dispatcher) (calls : List (Handler × Payload)) :
    (d.startAll calls).smoothed =
      d.smoothed.startAll (calls.map fun c => (c.1.smoothed, c.2)) := by
  induction calls generalizing d with
  | nil => rfl
  | cons c rest ih =>
    have hstart : (d.start c.1 c.2).smoothed = d.smoothed.start c.1.smoothed c.2 := by
      simp only [start, isFinished_smoothed]
      simp [smoothed, Call.smoothed, CallState.smoothed]
    calc (d.startAll (c :: rest)).smoothed
        = ((d.start c.1 c.2).startAll rest).smoothed := rfl
      _ = (d.smoothed.start c.1.smoothed c.2).startAll _ := by rw [ih, hstart]

theorem publish_smoothed (d : Dispatcher) (payloads : List Payload) :
    (d.publish payloads).smoothed = d.smoothed.publish payloads := by
  have hdue : d.smoothed.due payloads =
      (d.due payloads).map fun c => (c.1.smoothed, c.2) := by
    simp [due, List.map_flatMap, Subscriptions.handlersOf, smoothed, List.filter_map,
      Function.comp_def]
  rw [publish_eq, publish_eq, startAll_smoothed, hdue]

theorem proceed_smoothed (d : Dispatcher) (call : Nat) :
    (d.proceed call).smoothed = d.smoothed.proceed call := by
  have hcall : d.smoothed.calls[call]? = d.calls[call]?.map Call.smoothed := by simp [smoothed]
  unfold proceed
  rw [hcall]
  cases d.calls[call]? with
  | none => rfl
  | some c =>
    simp only [Option.map_some]
    rw [c.ahead_smoothed, show c.smoothed.state.isFinished = c.state.isFinished from
      c.state.isFinished_smoothed]
    cases c.state.isFinished with
    | true => rfl
    | false =>
      simp only [Bool.false_eq_true, if_false]
      cases c.ahead call with
      | nil => exact d.setState_smoothed ..
      | cons act rest =>
        cases act with
        | await => exact d.setState_smoothed ..
        | publish payloads => simp only [setState_smoothed, publish_smoothed, CallState.smoothed]

/-- **No step depends on how a call has ended.** -/
theorem step_smoothed (d : Dispatcher) (s : Step) :
    (d.step s).smoothed = d.smoothed.step s.smoothed := by
  cases s with
  | subscribe behaviour names =>
    show (d.subscribe behaviour names).smoothed = d.smoothed.subscribe behaviour.smoothed names
    simp [subscribe_eq, smoothed, Handler.smoothed, Function.comp_def]
  | publish payloads => exact d.publish_smoothed payloads
  | proceed call => exact d.proceed_smoothed call
  | continueWait waiter =>
    show (d.continueWait waiter).smoothed = d.smoothed.continueWait waiter
    simp only [continueWait, isFinished_smoothed]
    simp only [smoothed]
    repeat' split
    all_goals simp_all
  | _ => rfl

theorem run_smoothed (steps : List Step) :
    (run steps).smoothed = run (steps.map Step.smoothed) := by
  induction steps using List.reverseRecOn with
  | nil => rfl
  | append_singleton steps s ih =>
    rw [List.map_append, run, run, List.foldl_append, List.foldl_append]
    show ((run steps).step s).smoothed = (run (steps.map Step.smoothed)).step s.smoothed
    rw [step_smoothed, ih]

theorem Step.Alike.smoothed {s s' : Step} (h : s.Alike s') : s.smoothed = s'.smoothed := by
  cases s with
  | subscribe b names =>
    cases s' with
    | subscribe b' names' =>
      obtain ⟨hacts, rfl⟩ := h
      simp [Step.smoothed, Behaviour.smoothed, hacts]
    | _ => cases h
  | _ => exact congrArg Step.smoothed h

/-- **How calls end has no effect on which calls are made** and on how far they come. -/
theorem calls_of_alike {steps other : List Step} (h : List.Forall₂ Step.Alike steps other) :
    (run steps).calls.map Call.outline = (run other).calls.map Call.outline := by
  have hsmoothed : steps.map Step.smoothed = other.map Step.smoothed := by
    induction h with
    | nil => rfl
    | cons hs _ ih => rw [List.map_cons, List.map_cons, hs.smoothed, ih]
  have hcalls : (run steps).calls.map Call.smoothed = (run other).calls.map Call.smoothed := by
    have hrun := congrArg calls (congrArg run hsmoothed)
    rwa [← run_smoothed, ← run_smoothed] at hrun
  -- an outline can be drawn of the smoothed call as well
  have houtline : Call.outline = Call.outline ∘ Call.smoothed := by
    funext c
    obtain ⟨h, p, s⟩ := c
    cases s <;> rfl
  rw [houtline, ← List.map_map, ← List.map_map, hcalls]

end Dispatcher

end Storefront
