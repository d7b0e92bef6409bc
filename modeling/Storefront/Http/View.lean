import Storefront.Document.Value
import Storefront.Order.Cancellation
import Storefront.Order.Policy

/-! # What responses show

Stores are shown with their products, by name and those on sale first; products with
their stock; orders with the totals of their lines and the time it takes to prepare
them.
-/
namespace Storefront.Http

open Storefront.Json

/-- What is shown of a product with some stock. -/
def productView (p : Product) (available : Count) : Json :=
  .obj [("id", p.id.toJson), ("name", .str p.name.text), ("description", .str p.description),
    ("price", p.price.toJson), ("active", .bool p.active),
    ("available_quantity", .word available)]

/-- What is shown of a product of a store; a product without a stock level has none. -/
def stockedView (s : Store) (p : Product) : Json :=
  productView p ((s.available p.id).toOption.getD 0)

/-- Whether one product is shown no later than another. -/
def productLe (p q : Product) : Bool :=
  decide (p.name.text < q.name.text) || (p.name.text == q.name.text && (p.active || !q.active))

/-- What is shown of a store. -/
def storeView (s : Store) : Json :=
  .obj [("id", s.id.toJson), ("name", .str s.name), ("location", s.location.toJson),
    ("currency", .str s.currency),
    ("products", .list (stockedView s) (s.products.values.mergeSort productLe))]

/-- What is shown of a stock level. -/
def levelView (product : ProductId) (available : Count) : Json :=
  .obj [("product_id", product.toJson), ("available_quantity", .word available)]

/-- What is shown of a customer. -/
def customerView (c : Customer) : Json :=
  .obj [("id", c.id.toJson), ("email", c.email.toJson), ("first_name", .str c.firstName),
    ("last_name", .str c.lastName), ("phone_number", .option PhoneNumber.toJson c.phoneNumber),
    ("address", .option Address.toJson c.address), ("tier", c.tier.toJson),
    ("loyalty_points", .word c.loyaltyPoints), ("discount_percent", .nat c.tier.discountPercent),
    ("active", .bool c.active), ("registered_at", c.registeredAt.toJson)]

/-- What is shown of a line. -/
def lineView (l : OrderLine) : Except MoneyError Json := do
  let total ← l.total
  return .obj [("id", l.id.toJson), ("product_id", l.productId.toJson), ("name", .str l.name),
    ("quantity", .word l.quantity), ("unit_price", l.unitPrice.toJson), ("total", total.toJson)]

/-- What is shown of an order. -/
def orderView (o : Order) : Except MoneyError Json := do
  let items ← o.lines.mapM lineView
  return .obj [("id", o.id.toJson), ("customer_id", o.customerId.toJson),
    ("store_id", o.storeId.toJson), ("status", o.status.toJson), ("items", .arr items),
    ("total", o.total.toJson), ("placed_at", o.placedAt.toJson),
    ("cancellation_reason", .option .str o.cancellationReason),
    ("estimated_preparation_minutes", .word o.preparationMinutes)]

/-- What is shown of some orders. -/
def orderViews (orders : List Order) : Except MoneyError Json := do
  return .arr (← orders.mapM orderView)

/-- What is shown of a cancellation. -/
def cancellationView (c : Cancellation) : Except MoneyError Json := do
  let order ← orderView c.order
  let released := c.released.map fun r =>
    .obj [("product_id", r.product.toJson), ("quantity", .word r.quantity)]
  let failed := c.failed.map fun f =>
    .obj [("product_id", f.product.toJson), ("quantity", .word f.quantity), ("error", .str f.error)]
  return .obj [("order", order), ("released", .arr released), ("failed_releases", .arr failed)]

end Storefront.Http
