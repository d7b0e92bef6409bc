import Storefront.Error

/-! # Placing an order

A new order is filled line by line, in the order in which the lines are requested: the
stock is set aside in the store, and the line is added at the price that the product
has there.  The first line for which either is refused ends the whole attempt.
-/
namespace Storefront

/-- So many of a product, as requested. -/
structure RequestedLine where
  product : ProductId
  quantity : Count
  deriving DecidableEq

namespace Order

/-- Refuses a request for nothing at all, or for none of some product. -/
def checkRequest (lines : List RequestedLine) : Except Error Unit :=
  if lines.isEmpty then .error (.validation "order must contain at least one item")
  else
    match lines.find? fun l => l.quantity == 0 with
    | some l => .error (.validation s!"quantity for product {l.product} must be greater than 0")
    | none => .ok ()

/-- Fills one requested line, which gets the identifier `fresh` if it becomes a line of
its own. -/
def fillLine (order : Order) (store : Store) (fresh : LineId) (l : RequestedLine) :
    Except Error (Order × Store) := do
  let p ← store.activeProduct l.product
  let store ← store.reserve l.product l.quantity
  let (_, order) ← order.addLine fresh p.id p.name.text l.quantity p.price
  return (order, store)

/-- Fills requested lines one after the other. -/
def fillLines (order : Order) (store : Store) :
    List (LineId × RequestedLine) → Except Error (Order × Store)
  | [] => .ok (order, store)
  | (fresh, l) :: rest => do
    let (order, store) ← order.fillLine store fresh l
    order.fillLines store rest

/-- Places an order at a store and confirms it.  `fresh` gives the lines identifiers. -/
def place (id : OrderId) (fresh : Nat → LineId) (now : Timestamp) (customer : CustomerId)
    (store : Store) (lines : List RequestedLine) : Except Error (Order × Store) := do
  let order ← Order.create id customer store.id store.currency now
  let numbered := lines.zipIdx.map fun (l, i) => (fresh i, l)
  let (order, store) ← order.fillLines store numbered
  let order ← order.confirm
  return (order, store)

end Order

end Storefront
