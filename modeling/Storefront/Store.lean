import Storefront.Store.Event
import Storefront.Table
import Storefront.Text.Blank

/-! # Stores

A store has a catalogue of products, all priced in one currency, and a stock level for
each of them.  Stock goes up when it is added and down when it is reserved, and it is
never reserved beyond what there is.  A product that is no longer sold keeps its stock
level, which then stays as it is.

Each operation gives the store that results, or says why it is refused; a refused
operation leaves nothing behind.  What happened to a store is kept in `pending` until
it has been told to others.
-/
namespace Storefront

/-- A store. -/
structure Store where
  id : StoreId
  name : String
  location : Address
  /-- The code of the currency in which everything is priced. -/
  currency : String
  products : Table ProductId Product
  inventory : Table ProductId Count
  /-- What happened and has not been told to others. -/
  pending : List StoreEvent

namespace Store

/-- The store with one more thing that happened to it. -/
def raise (s : Store) (e : StoreEvent) : Store := { s with pending := s.pending ++ [e] }

/-- The store with nothing left to tell. -/
def settled (s : Store) : Store := { s with pending := [] }

/-- A new store with an empty catalogue, priced in a currency given by its code. -/
def create (id : StoreId) (name : String) (location : Address) (currency : String) :
    Except StoreError Store := do
  if Text.isBlank name then throw .nameRequired
  let zero ← Money.zero currency
  let code := zero.currency.code
  return {
    id, name, location, currency := code, products := .empty, inventory := .empty
    pending := [.created id name location code] }

/-! ### Questions -/

/-- A product, on sale or not. -/
def product (s : Store) (id : ProductId) : Except StoreError Product :=
  match s.products.get? id with
  | some p => .ok p
  | none => .error (.productNotFound id)

/-- A product that is on sale. -/
def activeProduct (s : Store) (id : ProductId) : Except StoreError Product := do
  let p ← s.product id
  if p.active then return p else throw (.productInactive id)

/-- The stock level of a product. -/
def available (s : Store) (id : ProductId) : Except StoreError Count :=
  match s.inventory.get? id with
  | some n => .ok n
  | none => .error (.productNotFound id)

/-- Whether a product on sale has the name. -/
def sells (s : Store) (name : ProductName) : Bool :=
  s.products.values.any fun p => p.active && p.name == name

/-! ### The catalogue -/

/-- Puts a product on sale, without any stock of it.  Also gives the product. -/
def addProduct (s : Store) (id : ProductId) (name description : String) (price : Money) :
    Except StoreError (Product × Store) := do
  let name ← ProductName.make name
  if price.currency.code ≠ s.currency then
    throw (.currencyMismatch s.currency price.currency.code)
  if s.sells name then throw (.duplicateProduct name.text)
  let p ← Product.make id name description price
  let s' := { s with products := s.products.insert id p, inventory := s.inventory.insert id 0 }
  return (p, s'.raise (.productAdded s.id id name.text price))

/-- Changes the price of a product that is on sale. -/
def updatePrice (s : Store) (id : ProductId) (price : Money) : Except StoreError Store := do
  let p ← s.activeProduct id
  let p' ← p.withPrice price
  return { s with products := s.products.insert id p' }.raise
    (.priceUpdated s.id id p.price p'.price)

/-- Takes a product off sale. -/
def deactivateProduct (s : Store) (id : ProductId) : Except StoreError Store := do
  let p ← s.activeProduct id
  return { s with products := s.products.insert id { p with active := false } }.raise
    (.productDeactivated s.id id)

/-! ### Stock -/

/-- The stock level of a product on sale of which a positive quantity is asked. -/
def levelFor (s : Store) (id : ProductId) (quantity : Count) : Except StoreError Count := do
  if quantity = 0 then throw (.invalidQuantity quantity)
  let _ ← s.activeProduct id
  s.available id

/-- Adds stock of a product that is on sale. -/
def addInventory (s : Store) (id : ProductId) (quantity : Count) : Except StoreError Store := do
  let level ← s.levelFor id quantity
  match level.add? quantity with
  | none => throw (.inventoryOverflow id)
  | some sum =>
    return { s with inventory := s.inventory.insert id sum }.raise
      (.inventoryAdded s.id id quantity sum)

/-- Sets stock of a product aside, if there is enough of it. -/
def reserve (s : Store) (id : ProductId) (quantity : Count) : Except StoreError Store := do
  let level ← s.levelFor id quantity
  if level < quantity then throw (.insufficientStock id quantity level)
  return { s with inventory := s.inventory.insert id (level - quantity) }.raise
    (.inventoryReserved s.id id quantity (level - quantity))

end Store

end Storefront
