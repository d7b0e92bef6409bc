import Storefront.InPlace
import Storefront.Order

/-! # Calls on an order

Whoever holds an order calls on it to change.  `Order.answer` puts a call together from the
operations of `Order`, which give a new order or none.  `Order.perform` has a call made in place:
fields are written one after the other, the total before the lines and the status before the event
that tells of it.
-/
namespace Storefront

/-- More of a product, under the name and at the price that go with it.  `fresh` identifies its
line if it becomes one of its own. -/
structure Addition where
  fresh : LineId
  product : ProductId
  name : String
  quantity : Count
  price : Money
  deriving DecidableEq

/-- What can be asked of an order. -/
inductive OrderCall where
  | add (a : Addition)
  | remove (line : LineId)
  | confirm
  | cancel (reason : String)
  | advance (transition : OrderTransition) (now : Timestamp)
  /-- Has everything told that is pending. -/
  | settle
  deriving DecidableEq

namespace Order

/-- Orders more, as an addition says. -/
def add (o : Order) (a : Addition) : Except OrderError (LineId × Order) :=
  o.addLine a.fresh a.product a.name a.quantity a.price

/-- What a call gives: the order that results, and before it the identifier of the line if more
was ordered. -/
def answer (o : Order) : OrderCall → Except OrderError (Option LineId × Order)
  | .add a => do
    let (id, o) ← o.add a
    return (some id, o)
  | .remove line => do return (none, ← o.removeLine line)
  | .confirm => do return (none, ← o.confirm)
  | .cancel reason => do return (none, ← o.cancel reason)
  | .advance transition now => do return (none, ← o.advance now transition)
  | .settle => return (none, o.settled)

/-! ### In place -/

/-- An operation on an order in its place. -/
abbrev Edit (α : Type) := InPlace OrderError Order α

namespace Edit

/-- Writes other lines, and their total before them. -/
def setLines (lines : List OrderLine) : Edit Unit := do
  let total ← sumLines (← get).total.currency lines
  modify ({ · with total })
  modify ({ · with lines })

/-- Orders more, and gives the identifier of the line. -/
def add (a : Addition) : Edit LineId := do
  (← get).ensureOpen
  if a.quantity = 0 then throw (.invalidQuantity a.quantity)
  let (id, lines) ← placeLine a.fresh a.product a.name a.quantity a.price (← get).lines
  setLines lines
  return id

/-- Takes the first line of an identifier away. -/
def remove (id : LineId) : Edit Unit := do
  (← get).ensureOpen
  if (← get).lines.any fun line => line.id == id then
    setLines ((← get).lines.eraseP fun line => line.id == id)
  else throw (.itemNotFound id)

/-- Accepts a pending order that has lines. -/
def confirm : Edit Unit := do
  (← get).ensureMove .confirmed
  if (← get).lines.isEmpty then throw .noItems
  let items ← (← get).snapshots
  modify ({ · with status := .confirmed })
  modify fun o => o.raise (.confirmed o.id o.customerId o.storeId o.total items)

/-- Gives the order up. -/
def cancel (reason : String) : Edit Unit := do
  (← get).ensureMove .cancelled
  let previous := (← get).status
  modify ({ · with status := .cancelled })
  modify ({ · with cancellationReason := some reason })
  modify fun o => o.raise (.cancelled o.id o.customerId o.storeId reason previous)

/-- Moves the order on to a status, and raises what there is to tell of it then. -/
def moveOn (next : OrderStatus) (event : Order → OrderEvent) : Edit Unit := do
  (← get).ensureMove next
  modify ({ · with status := next })
  modify fun o => o.raise (event o)

/-- Takes one of the steps by which a confirmed order moves on. -/
def advance (now : Timestamp) : OrderTransition → Edit Unit
  | .startPreparing => moveOn .preparing fun o => .preparationStarted o.id o.storeId
  | .markReady => moveOn .ready fun o => .ready o.id o.customerId
  | .complete => moveOn .completed fun o => .completed o.id o.customerId o.total now

/-- Makes a call. -/
def call : OrderCall → Edit (Option LineId)
  | .add a => some <$> add a
  | .remove line => do
    remove line
    return none
  | .confirm => do
    confirm
    return none
  | .cancel reason => do
    cancel reason
    return none
  | .advance transition now => do
    advance now transition
    return none
  | .settle => do
    modify settled
    return none

end Edit

/-- Has a call made on an order in its place. -/
def perform (o : Order) (call : OrderCall) : Except OrderError (Option LineId) × Order :=
  InPlace.on o (Edit.call call)

/-- The order as a call leaves it. -/
def after (o : Order) (call : OrderCall) : Order := (o.perform call).2

/-- The order as some calls leave it, one after the other. -/
def afterAll (o : Order) (calls : List OrderCall) : Order := InPlace.afterAll perform o calls

end Order

end Storefront
