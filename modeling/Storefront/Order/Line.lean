import Storefront.Count
import Storefront.ErrorKind
import Storefront.Id
import Storefront.Money
import Storefront.Order.Status

/-! # Order lines

A line keeps the name and the price that the product had when it was ordered, so that
later price changes leave it as it is.  The total of a line that was put together here
is an amount of money; a line read back from storage may be too large to have one.
-/
namespace Storefront

/-- Why an operation on an order is refused. -/
inductive OrderError where
  | invalidTransition (source target : OrderStatus)
  | itemsLocked (status : OrderStatus)
  | itemNotFound (line : LineId)
  | invalidQuantity (quantity : Count)
  | noItems
  | money (cause : MoneyError)
  deriving DecidableEq

namespace OrderError

/-- The name of the cause; that of a cause inside it follows behind a point. -/
def code : OrderError → String
  | invalidTransition .. => "InvalidTransition"
  | itemsLocked _ => "ItemsLocked"
  | itemNotFound _ => "ItemNotFound"
  | invalidQuantity _ => "InvalidQuantity"
  | noItems => "NoItems"
  | money cause => "Money." ++ cause.code

/-- The wording of the error. -/
def message : OrderError → String
  | invalidTransition source target =>
    s!"Invalid state transition: cannot move from {source} to {target}"
  | itemsLocked status => s!"Cannot modify items of an order in {status} status"
  | itemNotFound line => s!"Item not found: {line}"
  | invalidQuantity quantity => s!"Invalid quantity: {quantity} (must be greater than 0)"
  | noItems => "Order has no items"
  | money cause => cause.message

/-- The kind of the error. -/
def kind : OrderError → ErrorKind
  | invalidTransition .. | itemsLocked _ => .invalidTransition
  | itemNotFound _ => .notFound
  | invalidQuantity _ | noItems | money _ => .validation

end OrderError

instance : MonadLift (Except MoneyError) (Except OrderError) := ⟨Except.mapError .money⟩

/-- A line of an order. -/
structure OrderLine where
  id : LineId
  productId : ProductId
  name : String
  quantity : Count
  unitPrice : Money
  deriving DecidableEq

/-- A line as it is told to others: with its total, and without its identifier. -/
structure LineSnapshot where
  productId : ProductId
  name : String
  quantity : Count
  unitPrice : Money
  total : Money
  deriving DecidableEq

namespace OrderLine

/-- The unit price times the quantity. -/
def total (line : OrderLine) : Except MoneyError Money := line.unitPrice.mul line.quantity

/-- The line itself, if it has a total. -/
def checkTotal (line : OrderLine) : Except OrderError OrderLine := do
  let _ ← line.total
  return line

/-- A line of a positive quantity that has a total. -/
def make (id : LineId) (productId : ProductId) (name : String) (quantity : Count)
    (unitPrice : Money) : Except OrderError OrderLine :=
  if quantity = 0 then .error (.invalidQuantity quantity)
  else checkTotal ⟨id, productId, name, quantity, unitPrice⟩

/-- The line with more of its product, at the price it has. -/
def addQuantity (line : OrderLine) (quantity : Count) : Except OrderError OrderLine :=
  match line.quantity.add? quantity with
  | some sum => checkTotal { line with quantity := sum }
  | none => .error (.invalidQuantity quantity)

/-- The line as it is told to others. -/
def snapshot (line : OrderLine) : Except MoneyError LineSnapshot := do
  let total ← line.total
  return ⟨line.productId, line.name, line.quantity, line.unitPrice, total⟩

end OrderLine

end Storefront
