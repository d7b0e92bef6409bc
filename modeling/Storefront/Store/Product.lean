import Storefront.Count
import Storefront.ErrorKind
import Storefront.Id
import Storefront.Money

/-! # Products

A product that is put on sale has a name of three to a hundred characters and a price
above zero.  It is never taken off the books: a product that is no longer sold is kept
as inactive.
-/
namespace Storefront

/-- Why an operation on a store is refused. -/
inductive StoreError where
  | nameRequired
  | invalidProductName (length : Nat)
  | invalidPrice (amount : Int)
  | currencyMismatch (expected actual : String)
  | invalidQuantity (quantity : Count)
  | duplicateProduct (name : String)
  | productNotFound (product : ProductId)
  | productInactive (product : ProductId)
  | insufficientStock (product : ProductId) (requested available : Count)
  | inventoryOverflow (product : ProductId)
  | money (cause : MoneyError)
  deriving DecidableEq

namespace StoreError

/-- The name of the cause; that of a cause inside it follows behind a point. -/
def code : StoreError → String
  | nameRequired => "NameRequired"
  | invalidProductName _ => "InvalidProductName"
  | invalidPrice _ => "InvalidPrice"
  | currencyMismatch .. => "CurrencyMismatch"
  | invalidQuantity _ => "InvalidQuantity"
  | duplicateProduct _ => "DuplicateProduct"
  | productNotFound _ => "ProductNotFound"
  | productInactive _ => "ProductInactive"
  | insufficientStock .. => "InsufficientStock"
  | inventoryOverflow _ => "InventoryOverflow"
  | money cause => "Money." ++ cause.code

/-- The wording of the error. -/
def message : StoreError → String
  | nameRequired => "Store name is required"
  | invalidProductName length =>
    s!"Product name must be between 3 and 100 characters (got {length})"
  | invalidPrice amount => s!"Product price must be greater than zero (got {amount})"
  | currencyMismatch expected actual =>
    s!"Currency mismatch: store uses {expected}, got {actual}"
  | invalidQuantity quantity => s!"Invalid quantity: {quantity} (must be greater than 0)"
  | duplicateProduct name => s!"Product with name '{name}' already exists"
  | productNotFound product => s!"Product not found: {product}"
  | productInactive product => s!"Product is inactive: {product}"
  | insufficientStock product requested available =>
    s!"Insufficient stock for product {product}: requested {requested}, available {available}"
  | inventoryOverflow product => s!"Inventory level overflow for product {product}"
  | money cause => cause.message

/-- The kind of the error. -/
def kind : StoreError → ErrorKind
  | duplicateProduct _ => .conflict
  | productNotFound _ => .notFound
  | productInactive _ => .inactive
  | insufficientStock .. => .insufficientStock
  | nameRequired | invalidProductName _ | invalidPrice _ | currencyMismatch .. | invalidQuantity _
  | inventoryOverflow _ | money _ => .validation

end StoreError

instance : MonadLift (Except MoneyError) (Except StoreError) := ⟨Except.mapError .money⟩

/-- The name of a product. -/
structure ProductName where
  text : String
  deriving DecidableEq

namespace ProductName

/-- A name of three to a hundred characters. -/
def make (text : String) : Except StoreError ProductName :=
  if 3 ≤ text.length ∧ text.length ≤ 100 then .ok ⟨text⟩
  else .error (.invalidProductName text.length)

end ProductName

/-- A product of a store. -/
structure Product where
  id : ProductId
  name : ProductName
  description : String
  price : Money
  active : Bool
  deriving DecidableEq

namespace Product

/-- Refuses a price of nothing. -/
def checkPrice (price : Money) : Except StoreError Unit :=
  if 0 < price.amount then .ok () else .error (.invalidPrice price.amount)

/-- A product on sale. -/
def make (id : ProductId) (name : ProductName) (description : String) (price : Money) :
    Except StoreError Product := do
  checkPrice price
  return ⟨id, name, description, price, true⟩

/-- The product at another price in the same currency. -/
def withPrice (p : Product) (price : Money) : Except StoreError Product := do
  checkPrice price
  if price.currency = p.price.currency then return { p with price }
  else throw (.currencyMismatch p.price.currency.code price.currency.code)

end Product

end Storefront
