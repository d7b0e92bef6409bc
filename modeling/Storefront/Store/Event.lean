import Storefront.Address
import Storefront.Store.Product

/-! # What happens to a store -/
namespace Storefront

/-- Something that happened to a store. -/
inductive StoreEvent where
  | created (store : StoreId) (name : String) (location : Address) (currency : String)
  | productAdded (store : StoreId) (product : ProductId) (name : String) (price : Money)
  | priceUpdated (store : StoreId) (product : ProductId) (oldPrice newPrice : Money)
  | productDeactivated (store : StoreId) (product : ProductId)
  | inventoryAdded (store : StoreId) (product : ProductId) (added level : Count)
  | inventoryReserved (store : StoreId) (product : ProductId) (reserved remaining : Count)
  deriving DecidableEq

namespace StoreEvent

/-- The name under which the event is told to others. -/
def name : StoreEvent → String
  | created .. => "store.created"
  | productAdded .. => "product.added"
  | priceUpdated .. => "product.price_updated"
  | productDeactivated .. => "product.deactivated"
  | inventoryAdded .. => "inventory.added"
  | inventoryReserved .. => "inventory.reserved"

/-- The store to which it happened. -/
def store : StoreEvent → StoreId
  | created store .. => store
  | productAdded store .. => store
  | priceUpdated store .. => store
  | productDeactivated store .. => store
  | inventoryAdded store .. => store
  | inventoryReserved store .. => store

end StoreEvent

end Storefront
