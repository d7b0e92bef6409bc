import Storefront.Order.Event

/-! # Orders

An order collects lines while it is pending and then moves along the table of
`OrderStatus`.  Each operation gives the order that results, or says why it is refused;
a refused operation leaves nothing behind.  What happened to an order is kept in
`pending` until it has been told to others.

The total is summed up anew after each change of the lines, from nothing and line by
line, so that it is the exact sum or there is no order.
-/
namespace Storefront

/-- An order of a customer at a store. -/
structure Order where
  id : OrderId
  customerId : CustomerId
  storeId : StoreId
  /-- The lines, in the order in which their products were first ordered. -/
  lines : List OrderLine
  status : OrderStatus
  total : Money
  placedAt : Timestamp
  /-- Why the order was cancelled, if it was. -/
  cancellationReason : Option String
  /-- What happened and has not been told to others. -/
  pending : List OrderEvent
  deriving DecidableEq

namespace Order

/-- The order with one more thing that happened to it. -/
def raise (o : Order) (e : OrderEvent) : Order := { o with pending := o.pending ++ [e] }

/-- The order with nothing left to tell. -/
def settled (o : Order) : Order := { o with pending := [] }

/-- A new order without lines, priced in a currency given by its code. -/
def create (id : OrderId) (customerId : CustomerId) (storeId : StoreId) (currency : String)
    (now : Timestamp) : Except OrderError Order := do
  let total ← Money.zero currency
  return {
    id, customerId, storeId, lines := [], status := .pending, total, placedAt := now
    cancellationReason := none, pending := [.created id customerId storeId now] }

/-! ### Lines -/

/-- The sum of the totals of some lines, in a currency. -/
def sumLines (currency : Currency) (lines : List OrderLine) : Except MoneyError Money :=
  lines.foldlM (fun sum line => do sum.add (← line.total)) (Money.zeroOf currency)

/-- Refuses to go on unless lines may change. -/
def ensureOpen (o : Order) : Except OrderError Unit :=
  if o.status.canChangeLines then .ok () else .error (.itemsLocked o.status)

/-- The order with other lines and the total of those. -/
def withLines (o : Order) (lines : List OrderLine) : Except OrderError Order := do
  let total ← sumLines o.total.currency lines
  return { o with lines, total }

/-- The lines with more of a product: on its line if there is one, and otherwise on a
line of its own at the end, which gets the identifier `fresh`.  Also gives the
identifier of the line. -/
def placeLine (fresh : LineId) (productId : ProductId) (name : String) (quantity : Count)
    (unitPrice : Money) : List OrderLine → Except OrderError (LineId × List OrderLine)
  | [] => do
    let line ← OrderLine.make fresh productId name quantity unitPrice
    return (line.id, [line])
  | line :: rest =>
    if line.productId = productId then do
      let line ← line.addQuantity quantity
      return (line.id, line :: rest)
    else do
      let (id, rest) ← placeLine fresh productId name quantity unitPrice rest
      return (id, line :: rest)

/-- Orders more of a product.  Also gives the identifier of its line. -/
def addLine (o : Order) (fresh : LineId) (productId : ProductId) (name : String)
    (quantity : Count) (unitPrice : Money) : Except OrderError (LineId × Order) := do
  o.ensureOpen
  if quantity = 0 then throw (.invalidQuantity quantity)
  let (id, lines) ← placeLine fresh productId name quantity unitPrice o.lines
  return (id, ← o.withLines lines)

/-- Takes the first line of an identifier away. -/
def removeLine (o : Order) (id : LineId) : Except OrderError Order := do
  o.ensureOpen
  if o.lines.any fun line => line.id == id then
    o.withLines (o.lines.eraseP fun line => line.id == id)
  else throw (.itemNotFound id)

/-- The line of an identifier. -/
def line? (o : Order) (id : LineId) : Option OrderLine := o.lines.find? fun line => line.id == id

/-- The line of a product. -/
def lineOf? (o : Order) (product : ProductId) : Option OrderLine :=
  o.lines.find? fun line => line.productId == product

/-- How many things are ordered, over all lines. -/
def totalQuantity (o : Order) : Nat :=
  o.lines.foldr (fun line n => line.quantity.toNat + n) 0

/-- The lines as they are told to others. -/
def snapshots (o : Order) : Except MoneyError (List LineSnapshot) := o.lines.mapM (·.snapshot)

/-! ### Moving on -/

/-- Refuses to go on unless the order may move to a status. -/
def ensureMove (o : Order) (next : OrderStatus) : Except OrderError Unit :=
  if o.status.canMoveTo next then .ok () else .error (.invalidTransition o.status next)

/-- Accepts a pending order that has lines. -/
def confirm (o : Order) : Except OrderError Order := do
  o.ensureMove .confirmed
  if o.lines.isEmpty then throw .noItems
  let items ← o.snapshots
  return { o with status := .confirmed }.raise
    (.confirmed o.id o.customerId o.storeId o.total items)

/-- Gives the order up. -/
def cancel (o : Order) (reason : String) : Except OrderError Order := do
  o.ensureMove .cancelled
  return { o with status := .cancelled, cancellationReason := some reason }.raise
    (.cancelled o.id o.customerId o.storeId reason o.status)

/-- Starts to prepare a confirmed order. -/
def startPreparing (o : Order) : Except OrderError Order := do
  o.ensureMove .preparing
  return { o with status := .preparing }.raise (.preparationStarted o.id o.storeId)

/-- Has an order wait for its customer. -/
def markReady (o : Order) : Except OrderError Order := do
  o.ensureMove .ready
  return { o with status := .ready }.raise (.ready o.id o.customerId)

/-- Hands an order over. -/
def complete (o : Order) (now : Timestamp) : Except OrderError Order := do
  o.ensureMove .completed
  return { o with status := .completed }.raise (.completed o.id o.customerId o.total now)

/-- Takes one of the steps by which a confirmed order moves on. -/
def advance (o : Order) (now : Timestamp) : OrderTransition → Except OrderError Order
  | .startPreparing => o.startPreparing
  | .markReady => o.markReady
  | .complete => o.complete now

end Order

end Storefront
