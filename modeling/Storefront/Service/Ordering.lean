import Storefront.Order.Cancellation
import Storefront.Order.Placement
import Storefront.Service.Script
import Storefront.Service.Supply

/-! # Commands for orders

Placing an order sets stock aside while the store is locked.  The store is saved before
the order, so that no confirmed order can be without its stock; if the second write
fails, stock is set aside for nobody.

Cancelling an order saves it before any stock is put back, so that a second attempt
never puts stock back twice.  The cancellation stands even if stock could not be put
back.  Of two locks, the one of the order is taken first.
-/
namespace Storefront.Ordering

open Job

/-! ### Placing -/

/-- Places and confirms an order in the unit of work that is under way. -/
def place (supply : Supply) (customerId : CustomerId) (storeId : StoreId)
    (lines : List RequestedLine) : Job (Order × Store) := do
  let customer ← findCustomer customerId
  if !customer.active then throw (.customer (.inactive customerId))
  withLock (.store storeId) do
    let store ← findStore storeId
    let (order, store) ←
      Order.place (supply.id .order) supply.line supply.now customerId store lines
    saveStore store
    saveOrder order
    return (order, store)

/-- Counts a refusal. -/
def reject {α : Type} (e : Error) : Job α := do
  countOne (.ordersRejected e.kind)
  throw e

/-- Places and confirms an order. -/
def createOrder (supply : Supply) (customerId : CustomerId) (storeId : StoreId)
    (lines : List RequestedLine) : Job Order := do
  match Order.checkRequest lines with
  | .error e => reject e
  | .ok () =>
    match ← inUnit (place supply customerId storeId lines) with
    | .error e => reject e
    | .ok (order, store) =>
      publish (order.news ++ store.news)
      countOne .ordersCreated
      return order.settled

/-! ### Cancelling -/

/-- Puts the stock of an order back: what was put back, what was not, and what the
store has to tell. -/
def releaseStock (order : Order) :
    Job (List Release × List FailedRelease × List Payload) :=
  withLock (.store order.storeId) do
    match ← (findStore order.storeId).attempt with
    | .error e => return ([], order.lines.map fun l => l.release.fail e.message, [])
    | .ok store =>
      let (store, released, failed) := store.release order.lines
      match ← (saveStore store).attempt with
      | .ok () => return (released, failed, store.news)
      | .error e => return ([], failed ++ released.map (·.fail e.message), [])

/-- Cancels an order in the unit of work that is under way.  Also gives what there is to
tell. -/
def cancel (id : OrderId) (reason : String) : Job (Cancellation × List Payload) :=
  withLock (.order id) do
    let before ← findOrder id
    let order ← before.cancel reason
    saveOrder order
    let (released, failed, storeNews) ←
      if before.status.holdsReservation then releaseStock order else pure ([], [], [])
    if !failed.isEmpty then perform (.count .releaseFailures failed.length)
    return (⟨order.settled, released, failed⟩, order.news ++ storeNews)

/-- Cancels an order and puts its stock back. -/
def cancelOrder (id : OrderId) (reason : String) : Job Cancellation := do
  let (cancellation, news) ← committed (cancel id reason)
  publish news
  countOne .ordersCancelled
  return cancellation

/-! ### Moving on -/

/-- Takes an order one step on. -/
def advanceOrder (supply : Supply) (id : OrderId) (transition : OrderTransition) :
    Job Order := do
  let order ← committed (withLock (.order id) do
    let order ← findOrder id
    let order ← order.advance supply.now transition
    saveOrder order
    return order)
  publish order.news
  countOne (.orderTransitions transition)
  return order.settled

end Storefront.Ordering
