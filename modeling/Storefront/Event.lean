import Storefront.Customer.Event
import Storefront.Order.Event
import Storefront.Store.Event

/-! # Events

What happens to a store, an order or a customer is told to others as an event.  Name,
sort and identifier of what it happened to can all be read off the payload; an event
that was read from storage keeps the sort and the identifier it was stored with.
-/
namespace Storefront

/-- Something that happened. -/
inductive Payload where
  | store (e : StoreEvent)
  | order (e : OrderEvent)
  | customer (e : CustomerEvent)
  deriving DecidableEq

namespace Payload

/-- The name under which others can ask to be told. -/
def name : Payload → String
  | store e => e.name
  | order e => e.name
  | customer e => e.name

/-- The sort of thing to which it happened. -/
def aggregateType : Payload → String
  | store _ => "Store"
  | order _ => "Order"
  | customer _ => "Customer"

/-- The identifier of the thing to which it happened. -/
def aggregateId : Payload → String
  | store e => e.store.text
  | order e => e.order.text
  | customer e => e.customer.text

/-- The store to which it happened, if it happened to one. -/
def store? : Payload → Option StoreId
  | store e => some e.store
  | _ => none

/-- The order to which it happened, if it happened to one. -/
def order? : Payload → Option OrderId
  | order e => some e.order
  | _ => none

/-- Whether it happened to a customer. -/
def isCustomer : Payload → Bool
  | customer _ => true
  | _ => false

end Payload

/-- Something that happened, when it did and what it happened to. -/
structure Event where
  id : EventId
  aggregateId : String
  aggregateType : String
  occurredAt : Timestamp
  payload : Payload
  deriving DecidableEq

namespace Event

/-- The event of a payload. -/
def ofPayload (id : EventId) (now : Timestamp) (payload : Payload) : Event :=
  ⟨id, payload.aggregateId, payload.aggregateType, now, payload⟩

/-- The name under which others can ask to be told. -/
def name (e : Event) : String := e.payload.name

end Event

end Storefront
