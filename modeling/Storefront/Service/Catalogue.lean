import Storefront.Service.Script
import Storefront.Service.Supply

/-! # Commands for stores

A store is changed while its lock is held, so that no reservation comes in between.
What happened is published once the unit of work is committed.
-/
namespace Storefront.Catalogue

open Job

variable {α : Type}

/-- Opens a store. -/
def createStore (supply : Supply) (name : String) (location : Address) (currency : String) :
    Job Store := do
  let store ← Store.create (supply.id .store) name location currency
  committed (saveStore store)
  publish store.news
  return store.settled

/-- Changes a store.  Also gives what the change gives. -/
def withStore (id : StoreId) (change : Store → Except StoreError (α × Store)) :
    Job (α × Store) := do
  let (a, store) ← committed (withLock (.store id) do
    let store ← findStore id
    let (a, store) ← change store
    saveStore store
    return (a, store))
  publish store.news
  return (a, store.settled)

/-- Puts a product on sale. -/
def addProduct (supply : Supply) (id : StoreId) (name description : String) (price : Money) :
    Job Product := do
  let (p, _) ← withStore id fun s => s.addProduct (supply.id .product) name description price
  return p

/-- Adds stock of a product, and gives the level that results. -/
def addInventory (id : StoreId) (product : ProductId) (quantity : Count) : Job Count := do
  let ((), store) ← withStore id fun s => do return ((), ← s.addInventory product quantity)
  store.available product

/-- Changes the price of a product. -/
def updatePrice (id : StoreId) (product : ProductId) (price : Money) : Job Product := do
  let ((), store) ← withStore id fun s => do return ((), ← s.updatePrice product price)
  store.product product

/-- Takes a product off sale. -/
def deactivateProduct (id : StoreId) (product : ProductId) : Job Unit := do
  let ((), _) ← withStore id fun s => do return ((), ← s.deactivateProduct product)

end Storefront.Catalogue
