import Storefront.Error
import Storefront.Event
import Storefront.Subscriptions

/-! # Telling handlers of events

Publishing an event starts one *call* of every handler that asks for events of its
name, and does not wait for any of them.  Calls then proceed one by one and in any
order, and each comes to its own end: it succeeds, fails or crashes.  On its way a call
may wait for a gate to be opened, and it may publish events itself.

Calls that were started are *in flight* until they are reaped.  Finished ones are
reaped whenever another call is started, and by whoever waits for the dispatcher to be
idle.  A waiter takes all calls in flight at once, so that nobody else sees them any
longer, waits for each of them, and starts over until there was nothing to take.
-/
namespace Storefront

/-- What a call does on its way. -/
inductive Act where
  /-- It waits for the gate to be open. -/
  | await
  /-- It publishes something. -/
  | publish (payloads : List Payload)
  deriving DecidableEq

/-- How a call ends. -/
inductive Ending where
  | success
  | failure
  | crash
  deriving DecidableEq

/-- All that a call does: its acts, one after the other, and how it ends. -/
structure Course where
  acts : List Act
  ending : Ending
  deriving DecidableEq

/-- What a handler does when it is called.  That may depend on the event and on which call
it is, so that no two calls need be alike. -/
structure Behaviour where
  course : Nat → Payload → Course

namespace Behaviour

/-- Does the same in every call. -/
def always (acts : List Act) (ending : Ending) : Behaviour := ⟨fun _ _ => ⟨acts, ending⟩⟩

/-- Succeeds. -/
def succeed : Behaviour := always [] .success

/-- Answers with an error. -/
def fail : Behaviour := always [] .failure

/-- Breaks off. -/
def crash : Behaviour := always [] .crash

/-- Waits for the gate to be open, and then succeeds. -/
def gated : Behaviour := always [.await] .success

/-- Publishes something else, and then succeeds. -/
def chain (next : Payload) : Behaviour := always [.publish [next]] .success

end Behaviour

/-- A handler of events. -/
structure Handler where
  number : Nat
  behaviour : Behaviour

/-- How far a call has come. -/
inductive CallState where
  | queued
  /-- It has begun, and this is what is left to do. -/
  | underWay (rest : List Act)
  | ended (ending : Ending)
  deriving DecidableEq

/-- Whether the call has come to its end. -/
def CallState.isFinished : CallState → Bool
  | ended _ => true
  | queued | underWay _ => false

/-- A call of a handler with an event. -/
structure Call where
  handler : Handler
  payload : Payload
  state : CallState

namespace Call

/-- All that a call does, given which call it is. -/
def course (place : Nat) (c : Call) : Course := c.handler.behaviour.course place c.payload

/-- What a call has left to do. -/
def ahead (place : Nat) (c : Call) : List Act :=
  match c.state with
  | .queued => (c.course place).acts
  | .underWay rest => rest
  | .ended _ => []

end Call

/-- Somebody who waits for the dispatcher to be idle. -/
structure Waiter where
  /-- The calls that were taken and have not been seen to finish. -/
  taken : List Nat
  /-- Whether the wait is over. -/
  returned : Bool
  deriving DecidableEq

/-- A dispatcher of events. -/
structure Dispatcher where
  subscriptions : Subscriptions Handler
  handlers : List Handler
  /-- Whether gated handlers may finish. -/
  gateOpen : Bool
  /-- Every call that was ever started; a call is known by its place. -/
  calls : List Call
  /-- The calls that were started and have not been reaped. -/
  inFlight : List Nat
  waiters : List Waiter

namespace Dispatcher

/-- The dispatcher without handlers. -/
def empty : Dispatcher := ⟨.empty, [], false, [], [], []⟩

instance : Inhabited Dispatcher := ⟨empty⟩

/-- Whether a call has come to its end. -/
def isFinished (d : Dispatcher) (call : Nat) : Bool :=
  match d.calls[call]? with
  | some c => c.state.isFinished
  | none => false

/-- Adds a handler that asks for events of some names; it is told once for each time that a
name is among them. -/
def subscribe (d : Dispatcher) (behaviour : Behaviour) (names : List String) : Dispatcher :=
  let handler : Handler := ⟨d.handlers.length, behaviour⟩
  { d with
    handlers := d.handlers ++ [handler]
    subscriptions := names.foldl (fun s name => s.add name handler) d.subscriptions }

/-- Starts a call, after reaping those that have finished. -/
def start (d : Dispatcher) (handler : Handler) (payload : Payload) : Dispatcher :=
  { d with
    calls := d.calls ++ [⟨handler, payload, .queued⟩]
    inFlight := (d.inFlight.filter fun call => !d.isFinished call) ++ [d.calls.length] }

/-- Publishes one event. -/
def publishOne (d : Dispatcher) (payload : Payload) : Dispatcher :=
  (d.subscriptions.handlersOf payload.name).foldl (fun d handler => d.start handler payload) d

/-- Publishes some events, one after the other, and answers that this is done.  Nothing
that becomes of a call can change the answer. -/
def publishing (d : Dispatcher) (payloads : List Payload) : Except Error Unit × Dispatcher :=
  (.ok (), payloads.foldl publishOne d)

/-- The dispatcher after publishing some events. -/
def publish (d : Dispatcher) (payloads : List Payload) : Dispatcher := (d.publishing payloads).2

/-- Notes how far a call has come. -/
def setState (d : Dispatcher) (call : Nat) (state : CallState) : Dispatcher :=
  { d with calls := d.calls.modify call fun c => { c with state } }

/-- Whether a call can proceed: it has not ended, and it does not stand before the closed
gate. -/
def canProceed (d : Dispatcher) (c : Call) : Bool :=
  match c.state with
  | .queued => true
  | .underWay (.await :: _) => d.gateOpen
  | .underWay _ => true
  | .ended _ => false

/-- Lets a call proceed by one act, or come to its end if there are no more.  One that has
begun to wait for the gate stays where it is until the gate is open. -/
def proceed (d : Dispatcher) (call : Nat) : Dispatcher :=
  match d.calls[call]? with
  | none => d
  | some c =>
    if c.state.isFinished then d
    else
      match c.ahead call with
      | [] => d.setState call (.ended (c.course call).ending)
      | .await :: rest =>
        d.setState call (.underWay (if d.gateOpen then rest else .await :: rest))
      | .publish payloads :: rest => (d.publish payloads).setState call (.underWay rest)

/-- Opens the gate for good. -/
def openGate (d : Dispatcher) : Dispatcher := { d with gateOpen := true }

/-- Somebody begins to wait. -/
def beginWait (d : Dispatcher) : Dispatcher := { d with waiters := d.waiters ++ [⟨[], false⟩] }

/-- Lets a waiter go on: with nothing taken it takes what is in flight, and its wait is
over if that is nothing; otherwise it drops a taken call that has finished. -/
def continueWait (d : Dispatcher) (waiter : Nat) : Dispatcher :=
  match d.waiters[waiter]? with
  | none => d
  | some w =>
    if w.returned then d
    else if w.taken.isEmpty then
      { d with
        inFlight := []
        waiters := d.waiters.set waiter ⟨d.inFlight, d.inFlight.isEmpty⟩ }
    else
      { d with waiters := d.waiters.set waiter { w with taken := w.taken.eraseP d.isFinished } }

/-- What can happen at a dispatcher. -/
inductive Step where
  | subscribe (behaviour : Behaviour) (names : List String)
  | publish (payloads : List Payload)
  | proceed (call : Nat)
  | openGate
  | beginWait
  | continueWait (waiter : Nat)

/-- The dispatcher after a step. -/
def step (d : Dispatcher) : Step → Dispatcher
  | .subscribe behaviour names => d.subscribe behaviour names
  | .publish payloads => d.publish payloads
  | .proceed call => d.proceed call
  | .openGate => d.openGate
  | .beginWait => d.beginWait
  | .continueWait waiter => d.continueWait waiter

/-- The dispatcher after some steps from the beginning. -/
def run (steps : List Step) : Dispatcher := steps.foldl step empty

/-- Lets calls proceed, the oldest first, until none can, but no more than `limit` times. -/
def settle (limit : Nat) (d : Dispatcher) : Dispatcher :=
  match limit with
  | 0 => d
  | limit + 1 =>
    match d.calls.findIdx? d.canProceed with
    | some call => settle limit (d.proceed call)
    | none => d

/-- Lets calls proceed and a waiter go on until its wait is over, but no longer than
`limit` rounds. -/
def settleWait (limit : Nat) (waiter : Nat) (d : Dispatcher) : Dispatcher :=
  match limit with
  | 0 => d
  | limit' + 1 =>
    if (d.waiters[waiter]?.map Waiter.returned).getD true then d
    else settleWait limit' waiter ((d.settle limit).continueWait waiter)

/-- Waits until the dispatcher is idle. -/
def waitIdle (limit : Nat) (d : Dispatcher) : Dispatcher :=
  d.beginWait.settleWait limit d.waiters.length

/-- The calls of a handler that have begun. -/
def begun (d : Dispatcher) (handler : Handler) : List Call :=
  d.calls.filter fun c => c.handler.number == handler.number && c.state != .queued

/-- The calls of a handler that have succeeded. -/
def succeeded (d : Dispatcher) (handler : Handler) : List Call :=
  d.calls.filter fun c => c.handler.number == handler.number && c.state == .ended .success

end Dispatcher

end Storefront
