import Storefront.Document.Value
import Storefront.Store

/-! # Documents: stores

How stores, their products and what happens to them are written as JSON, and how they
are read back.  What has not been told to others is no part of the document of a store.
-/
namespace Storefront

open Json

/-- A product is written field by field. -/
def Product.toJson (p : Product) : Json :=
  .obj [("id", p.id.toJson), ("name", p.name.toJson), ("description", .str p.description),
    ("price", p.price.toJson), ("active", .bool p.active)]

/-- The fields of a product. -/
def Product.fields : Record Product :=
  Product.mk <$> .required "id" Id.reader <*> .required "name" ProductName.reader
    <*> .required "description" Reader.string <*> .required "price" Money.reader
    <*> .required "active" Reader.bool

/-- Reads a product. -/
def Product.reader : Reader Product := Product.fields.read

/-- A table by product is written as an object. -/
def Table.toJson {α : Type} (write : α → Json) (t : Table ProductId α) : Json :=
  .obj (t.entries.map fun (id, a) => (id.text, write a))

/-- Reads a table by product; of two entries for one product the later counts. -/
def Table.reader {α : Type} (r : Reader α) : Reader (Table ProductId α) := fun d =>
  (Reader.entries Id.parse? r d).map Table.ofList

/-- The document of a store. -/
def Store.toJson (s : Store) : Json :=
  .obj [("id", s.id.toJson), ("name", .str s.name), ("location", s.location.toJson),
    ("currency", .str s.currency), ("products", s.products.toJson Product.toJson),
    ("inventory", s.inventory.toJson .word)]

/-- The fields of a store. -/
def Store.fields : Record Store :=
  (fun id name location currency products inventory =>
    { id, name, location, currency, products, inventory, pending := [] })
    <$> .required "id" Id.reader <*> .required "name" Reader.string
    <*> .required "location" Address.reader <*> .required "currency" Reader.string
    <*> .required "products" (Table.reader Product.reader)
    <*> .required "inventory" (Table.reader Reader.word)

/-- Reads a store, none of whose rules are checked. -/
def Store.reader : Reader Store := Store.fields.read

namespace StoreEvent

/-- The name under which the shape of the event is stored. -/
def shapeName : StoreEvent → String
  | created .. => "StoreCreated"
  | productAdded .. => "ProductAdded"
  | priceUpdated .. => "ProductPriceUpdated"
  | productDeactivated .. => "ProductDeactivated"
  | inventoryAdded .. => "InventoryAdded"
  | inventoryReserved .. => "InventoryReserved"

/-- What the event says. -/
def content : StoreEvent → Json
  | created store name location currency =>
    .obj [("store_id", store.toJson), ("name", .str name), ("location", location.toJson),
      ("currency", .str currency)]
  | productAdded store product name price =>
    .obj [("store_id", store.toJson), ("product_id", product.toJson), ("product_name", .str name),
      ("price", price.toJson)]
  | priceUpdated store product oldPrice newPrice =>
    .obj [("store_id", store.toJson), ("product_id", product.toJson),
      ("old_price", oldPrice.toJson), ("new_price", newPrice.toJson)]
  | productDeactivated store product =>
    .obj [("store_id", store.toJson), ("product_id", product.toJson)]
  | inventoryAdded store product added level =>
    .obj [("store_id", store.toJson), ("product_id", product.toJson),
      ("quantity_added", .word added), ("new_total", .word level)]
  | inventoryReserved store product reserved remaining =>
    .obj [("store_id", store.toJson), ("product_id", product.toJson),
      ("quantity_reserved", .word reserved), ("remaining_quantity", .word remaining)]

/-- The event with the name of its shape. -/
def toJson (e : StoreEvent) : Json := .obj [("type", .str e.shapeName), ("data", e.content)]

/-- How events of each shape are read. -/
def shapes : Shapes StoreEvent := [
  ("StoreCreated", fun _ => Record.read (
    created <$> .required "store_id" Id.reader <*> .required "name" Reader.string
      <*> .required "location" Address.reader <*> .required "currency" Reader.string)),
  ("ProductAdded", fun _ => Record.read (
    productAdded <$> .required "store_id" Id.reader <*> .required "product_id" Id.reader
      <*> .required "product_name" Reader.string <*> .required "price" Money.reader)),
  ("ProductPriceUpdated", fun _ => Record.read (
    priceUpdated <$> .required "store_id" Id.reader <*> .required "product_id" Id.reader
      <*> .required "old_price" Money.reader <*> .required "new_price" Money.reader)),
  ("ProductDeactivated", fun _ => Record.read (
    productDeactivated <$> .required "store_id" Id.reader <*> .required "product_id" Id.reader)),
  ("InventoryAdded", fun _ => Record.read (
    inventoryAdded <$> .required "store_id" Id.reader <*> .required "product_id" Id.reader
      <*> .required "quantity_added" Reader.word <*> .required "new_total" Reader.word)),
  ("InventoryReserved", fun _ => Record.read (
    inventoryReserved <$> .required "store_id" Id.reader <*> .required "product_id" Id.reader
      <*> .required "quantity_reserved" Reader.word
      <*> .required "remaining_quantity" Reader.word))]

/-- Reads an event. -/
def reader : Reader StoreEvent := shapes.read

end StoreEvent

end Storefront
