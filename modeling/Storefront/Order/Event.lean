import Storefront.Order.Line
import Storefront.Timestamp

/-! # What happens to an order -/
namespace Storefront

/-- Something that happened to an order. -/
inductive OrderEvent where
  | created (order : OrderId) (customer : CustomerId) (store : StoreId) (placedAt : Timestamp)
  | confirmed (order : OrderId) (customer : CustomerId) (store : StoreId) (total : Money)
      (items : List LineSnapshot)
  | cancelled (order : OrderId) (customer : CustomerId) (store : StoreId) (reason : String)
      (previous : OrderStatus)
  | preparationStarted (order : OrderId) (store : StoreId)
  | ready (order : OrderId) (customer : CustomerId)
  | completed (order : OrderId) (customer : CustomerId) (total : Money) (completedAt : Timestamp)
  deriving DecidableEq

namespace OrderEvent

/-- The name under which the event is told to others. -/
def name : OrderEvent → String
  | created .. => "order.created"
  | confirmed .. => "order.confirmed"
  | cancelled .. => "order.cancelled"
  | preparationStarted .. => "order.preparation_started"
  | ready .. => "order.ready"
  | completed .. => "order.completed"

/-- The order to which it happened. -/
def order : OrderEvent → OrderId
  | created order .. => order
  | confirmed order .. => order
  | cancelled order .. => order
  | preparationStarted order .. => order
  | ready order .. => order
  | completed order .. => order

end OrderEvent

end Storefront
