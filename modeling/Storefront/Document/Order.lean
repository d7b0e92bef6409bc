import Storefront.Document.Value
import Storefront.Order

/-! # Documents: orders

How orders, their lines and what happens to them are written as JSON, and how they are
read back.  What has not been told to others is no part of the document of an order.
-/
namespace Storefront

open Json

/-- A line is written without its total. -/
def OrderLine.toJson (l : OrderLine) : Json :=
  .obj [("id", l.id.toJson), ("product_id", l.productId.toJson), ("name", .str l.name),
    ("quantity", .word l.quantity), ("unit_price", l.unitPrice.toJson)]

/-- The fields of a line. -/
def OrderLine.fields : Record OrderLine :=
  OrderLine.mk <$> .required "id" Id.reader <*> .required "product_id" Id.reader
    <*> .required "name" Reader.string <*> .required "quantity" Reader.word
    <*> .required "unit_price" Money.reader

/-- Reads a line. -/
def OrderLine.reader : Reader OrderLine := OrderLine.fields.read

/-- A snapshot of a line is written with its total. -/
def LineSnapshot.toJson (l : LineSnapshot) : Json :=
  .obj [("product_id", l.productId.toJson), ("name", .str l.name), ("quantity", .word l.quantity),
    ("unit_price", l.unitPrice.toJson), ("total", l.total.toJson)]

/-- The fields of a snapshot of a line. -/
def LineSnapshot.fields : Record LineSnapshot :=
  LineSnapshot.mk <$> .required "product_id" Id.reader <*> .required "name" Reader.string
    <*> .required "quantity" Reader.word <*> .required "unit_price" Money.reader
    <*> .required "total" Money.reader

/-- Reads a snapshot of a line, whose total is not worked out again. -/
def LineSnapshot.reader : Reader LineSnapshot := LineSnapshot.fields.read

/-- The document of an order. -/
def Order.toJson (o : Order) : Json :=
  .obj [("id", o.id.toJson), ("customer_id", o.customerId.toJson),
    ("store_id", o.storeId.toJson), ("items", .list OrderLine.toJson o.lines),
    ("status", o.status.toJson), ("total_amount", o.total.toJson),
    ("placed_at", o.placedAt.toJson), ("cancellation_reason", .option .str o.cancellationReason)]

/-- The fields of an order. -/
def Order.fields : Record Order :=
  (fun id customerId storeId lines status total placedAt cancellationReason =>
    { id, customerId, storeId, lines, status, total, placedAt, cancellationReason, pending := [] })
    <$> .required "id" Id.reader <*> .required "customer_id" Id.reader
    <*> .required "store_id" Id.reader <*> .required "items" (Reader.list OrderLine.reader)
    <*> .required "status" (OrderStatus.reader false) <*> .required "total_amount" Money.reader
    <*> .required "placed_at" Timestamp.reader
    <*> .optional "cancellation_reason" Reader.string

/-- Reads an order, none of whose rules are checked. -/
def Order.reader : Reader Order := Order.fields.read

namespace OrderEvent

/-- The name under which the shape of the event is stored. -/
def shapeName : OrderEvent → String
  | created .. => "OrderCreated"
  | confirmed .. => "OrderConfirmed"
  | cancelled .. => "OrderCancelled"
  | preparationStarted .. => "OrderPreparationStarted"
  | ready .. => "OrderReady"
  | completed .. => "OrderCompleted"

/-- What the event says. -/
def content : OrderEvent → Json
  | created order customer store placedAt =>
    .obj [("order_id", order.toJson), ("customer_id", customer.toJson),
      ("store_id", store.toJson), ("placed_at", placedAt.toJson)]
  | confirmed order customer store total items =>
    .obj [("order_id", order.toJson), ("customer_id", customer.toJson),
      ("store_id", store.toJson), ("total_amount", total.toJson),
      ("items", .list LineSnapshot.toJson items)]
  | cancelled order customer store reason previous =>
    .obj [("order_id", order.toJson), ("customer_id", customer.toJson),
      ("store_id", store.toJson), ("reason", .str reason), ("previous_status", previous.toJson)]
  | preparationStarted order store =>
    .obj [("order_id", order.toJson), ("store_id", store.toJson)]
  | ready order customer => .obj [("order_id", order.toJson), ("customer_id", customer.toJson)]
  | completed order customer total completedAt =>
    .obj [("order_id", order.toJson), ("customer_id", customer.toJson),
      ("total_amount", total.toJson), ("completed_at", completedAt.toJson)]

/-- The event with the name of its shape. -/
def toJson (e : OrderEvent) : Json := .obj [("type", .str e.shapeName), ("data", e.content)]

/-- How events of each shape are read. -/
def shapes : Shapes OrderEvent := [
  ("OrderCreated", fun _ => Record.read (
    created <$> .required "order_id" Id.reader <*> .required "customer_id" Id.reader
      <*> .required "store_id" Id.reader <*> .required "placed_at" Timestamp.reader)),
  ("OrderConfirmed", fun _ => Record.read (
    confirmed <$> .required "order_id" Id.reader <*> .required "customer_id" Id.reader
      <*> .required "store_id" Id.reader <*> .required "total_amount" Money.reader
      <*> .required "items" (Reader.list LineSnapshot.reader))),
  ("OrderCancelled", fun aside => Record.read (
    cancelled <$> .required "order_id" Id.reader <*> .required "customer_id" Id.reader
      <*> .required "store_id" Id.reader <*> .required "reason" Reader.string
      <*> .required "previous_status" (OrderStatus.reader aside))),
  ("OrderPreparationStarted", fun _ => Record.read (
    preparationStarted <$> .required "order_id" Id.reader <*> .required "store_id" Id.reader)),
  ("OrderReady", fun _ => Record.read (
    ready <$> .required "order_id" Id.reader <*> .required "customer_id" Id.reader)),
  ("OrderCompleted", fun _ => Record.read (
    completed <$> .required "order_id" Id.reader <*> .required "customer_id" Id.reader
      <*> .required "total_amount" Money.reader <*> .required "completed_at" Timestamp.reader))]

/-- Reads an event. -/
def reader : Reader OrderEvent := shapes.read

end OrderEvent

end Storefront
