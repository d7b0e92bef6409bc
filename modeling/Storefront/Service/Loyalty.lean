import Storefront.Service.Script

/-! # Loyalty points

Whoever has an order confirmed gets a point for each whole unit of money that it comes
to.  The points are credited after the order is placed and apart from it: if they
cannot be credited they are lost.  Nothing is published about them.
-/
namespace Storefront.Loyalty

open Job

/-- The points for an amount of money, as many as a count can say. -/
def pointsFor (total : Money) : Count := UInt32.ofNat (min total.majorUnits Count.max.toNat)

/-- Credits the points for a confirmed order; other events are of no interest. -/
def credit : Payload → Job Unit
  | .order (.confirmed _ customerId _ total _) => do
    let points := pointsFor total
    if points = 0 then return ()
    withLock (.customer customerId) do
      let customer ← findCustomer customerId
      let customer ← customer.addPoints points
      saveCustomer customer
      perform (.count .pointsAwarded points.toNat)
  | _ => return ()

/-- Has a listener told of an event; if that fails, the failure is counted. -/
def deliver (d : Delivery) : Job Unit := do
  match ← (match d.listener with | .loyalty => credit d.payload).attempt with
  | .ok () => return ()
  | .error _ => countOne (.handlerFailures d.listener.name)

end Storefront.Loyalty
