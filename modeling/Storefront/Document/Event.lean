import Storefront.Document.Customer
import Storefront.Document.Order
import Storefront.Document.Store
import Storefront.Event

/-! # Documents: events

How events are written as JSON, and how they are read back.
-/
namespace Storefront

open Json

namespace Payload

/-- What happened, under the sort of thing to which it happened. -/
def toJson : Payload → Json
  | store e => .obj [("store", e.toJson)]
  | order e => .obj [("order", e.toJson)]
  | customer e => .obj [("customer", e.toJson)]

/-- Reads what happened. -/
def reader : Reader Payload := Reader.oneField [
  ("store", fun d => (StoreEvent.reader d).map store),
  ("order", fun d => (OrderEvent.reader d).map order),
  ("customer", fun d => (CustomerEvent.reader d).map customer)]

end Payload

namespace Event

/-- The document of an event. -/
def toJson (e : Event) : Json :=
  .obj [("event_id", e.id.toJson), ("aggregate_id", .str e.aggregateId),
    ("aggregate_type", .str e.aggregateType), ("occurred_at", e.occurredAt.toJson),
    ("payload", e.payload.toJson)]

/-- The fields of an event. -/
def fields : Record Event :=
  Event.mk <$> .required "event_id" Id.reader <*> .required "aggregate_id" Reader.string
    <*> .required "aggregate_type" Reader.string <*> .required "occurred_at" Timestamp.reader
    <*> .required "payload" Payload.reader

/-- Reads an event. -/
def reader : Reader Event := fields.read

end Event

end Storefront
