import Storefront.InPlace
import Storefront.Store

/-! # Calls on a store

Whoever holds a store calls on it to change.  `Store.answer` puts a call together from the
operations of `Store`, which give a new store or none.

A store that is held somewhere is changed in its place, and a product of its catalogue in its
place there: what has become of the product is in the catalogue then, even if the change of it is
refused.  `Store.perform` has a call made in this way.
-/
namespace Storefront

/-- What can be asked of a store.  `fresh` identifies the product if it gets into the catalogue. -/
inductive StoreCall where
  | addProduct (fresh : ProductId) (name description : String) (price : Money)
  | updatePrice (product : ProductId) (price : Money)
  | deactivateProduct (product : ProductId)
  | addInventory (product : ProductId) (quantity : Count)
  | reserve (product : ProductId) (quantity : Count)
  deriving DecidableEq

namespace Store

/-- What a call gives: the store that results, and before it the product if one is put on sale. -/
def answer (s : Store) : StoreCall → Except StoreError (Option Product × Store)
  | .addProduct fresh name description price => do
    let (p, s) ← s.addProduct fresh name description price
    return (some p, s)
  | .updatePrice id price => do return (none, ← s.updatePrice id price)
  | .deactivateProduct id => do return (none, ← s.deactivateProduct id)
  | .addInventory id quantity => do return (none, ← s.addInventory id quantity)
  | .reserve id quantity => do return (none, ← s.reserve id quantity)

/-! ### In place -/

/-- An operation on a store in its place. -/
abbrev Edit (α : Type) := InPlace StoreError Store α

namespace Edit

/-- Puts a product on sale, without any stock of it, and gives the product. -/
def addProduct (id : ProductId) (name description : String) (price : Money) : Edit Product := do
  let name ← ProductName.make name
  if price.currency.code ≠ (← get).currency then
    throw (.currencyMismatch (← get).currency price.currency.code)
  if (← get).sells name then throw (.duplicateProduct name.text)
  let p ← Product.make id name description price
  modify fun s => { s with products := s.products.insert id p }
  modify fun s => { s with inventory := s.inventory.insert id 0 }
  modify fun s => s.raise (.productAdded s.id id p.name.text p.price)
  return p

/-- Changes a product that is on sale in its place in the catalogue. -/
def onProduct {α : Type} (id : ProductId) (e : InPlace StoreError Product α) : Edit α := do
  let p ← (← get).activeProduct id
  let (result, p) := InPlace.on p e
  modify fun s => { s with products := s.products.insert id p }
  result

/-- Writes another price in the same currency. -/
def setPrice (price : Money) : InPlace StoreError Product Unit := do
  Product.checkPrice price
  if price.currency ≠ (← get).price.currency then
    throw (.currencyMismatch (← get).price.currency.code price.currency.code)
  modify ({ · with price })

/-- Changes the price of a product that is on sale. -/
def updatePrice (id : ProductId) (price : Money) : Edit Unit := do
  let (oldPrice, newPrice) ← onProduct id do
    let oldPrice := (← get).price
    setPrice price
    return (oldPrice, (← get).price)
  modify fun s => s.raise (.priceUpdated s.id id oldPrice newPrice)

/-- Takes a product off sale. -/
def deactivateProduct (id : ProductId) : Edit Unit := do
  onProduct id (modify ({ · with active := false }))
  modify fun s => s.raise (.productDeactivated s.id id)

/-- Adds stock of a product that is on sale. -/
def addInventory (id : ProductId) (quantity : Count) : Edit Unit := do
  let level ← (← get).levelFor id quantity
  match level.add? quantity with
  | none => throw (.inventoryOverflow id)
  | some sum =>
    modify fun s => { s with inventory := s.inventory.insert id sum }
    modify fun s => s.raise (.inventoryAdded s.id id quantity sum)

/-- Sets stock of a product aside, if there is enough of it. -/
def reserve (id : ProductId) (quantity : Count) : Edit Unit := do
  let level ← (← get).levelFor id quantity
  if level < quantity then throw (.insufficientStock id quantity level)
  let remaining := level - quantity
  modify fun s => { s with inventory := s.inventory.insert id remaining }
  modify fun s => s.raise (.inventoryReserved s.id id quantity remaining)

/-- Makes a call. -/
def call : StoreCall → Edit (Option Product)
  | .addProduct fresh name description price => some <$> addProduct fresh name description price
  | .updatePrice id price => do
    updatePrice id price
    return none
  | .deactivateProduct id => do
    deactivateProduct id
    return none
  | .addInventory id quantity => do
    addInventory id quantity
    return none
  | .reserve id quantity => do
    reserve id quantity
    return none

end Edit

/-- Has a call made on a store in its place. -/
def perform (s : Store) (call : StoreCall) : Except StoreError (Option Product) × Store :=
  InPlace.on s (Edit.call call)

/-- The store as some calls leave it, one after the other. -/
def afterAll (s : Store) (calls : List StoreCall) : Store := InPlace.afterAll perform s calls

/-- Those of some calls that are carried out, when they are made one after the other. -/
def carriedOut (s : Store) (calls : List StoreCall) : List StoreCall :=
  InPlace.carriedOut perform s calls

end Store

end Storefront
