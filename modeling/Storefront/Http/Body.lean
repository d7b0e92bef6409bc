import Storefront.Document.Value
import Storefront.Json.Draft

/-! # Bodies of requests

What the bodies of requests have to say.  They have the shape of records, but money,
addresses and identifiers in them are checked only after the whole body was read.
-/
namespace Storefront.Http

open Storefront.Json

/-- A store to be opened. -/
structure NewStore where
  name : String
  location : Address
  currency : Option String

/-- Reads a store to be opened. -/
def NewStore.reader : Reader NewStore := Record.read (
  NewStore.mk <$> .required "name" Reader.string <*> .required "location" Address.reader
    <*> .optional "currency" Reader.string)

/-- A product to be put on sale. -/
structure NewProduct where
  name : String
  description : String
  price : UncheckedMoney

/-- Reads a product to be put on sale. -/
def NewProduct.reader : Reader NewProduct := Record.read (
  NewProduct.mk <$> .required "name" Reader.string <*> .defaulting "description" Reader.string ""
    <*> .required "price" UncheckedMoney.reader)

/-- Reads a new price. -/
def priceReader : Reader UncheckedMoney := Record.read (.required "price" UncheckedMoney.reader)

/-- Reads an amount of stock. -/
def quantityReader : Reader Count := Record.read (.required "quantity" Reader.word)

/-- A customer to be registered. -/
structure NewCustomer where
  email : String
  firstName : String
  lastName : String

/-- Reads a customer to be registered. -/
def NewCustomer.reader : Reader NewCustomer := Record.read (
  NewCustomer.mk <$> .required "email" Reader.string <*> .required "first_name" Reader.string
    <*> .required "last_name" Reader.string)

/-- How a customer can be reached. -/
structure Contact where
  phoneNumber : String
  address : Address

/-- Reads how a customer can be reached. -/
def Contact.reader : Reader Contact := Record.read (
  Contact.mk <$> .required "phone_number" Reader.string <*> .required "address" Address.reader)

/-- Reads a number of points. -/
def pointsReader : Reader Count := Record.read (.required "points" Reader.word)

/-- A line of an order to be placed. -/
structure NewLine where
  productId : String
  quantity : Count

/-- Reads a line of an order to be placed. -/
def NewLine.reader : Reader NewLine := Record.read (
  NewLine.mk <$> .required "product_id" Reader.string <*> .required "quantity" Reader.word)

/-- An order to be placed. -/
structure NewOrder where
  customerId : String
  storeId : String
  items : List NewLine

/-- Reads an order to be placed. -/
def NewOrder.reader : Reader NewOrder := Record.read (
  NewOrder.mk <$> .required "customer_id" Reader.string <*> .required "store_id" Reader.string
    <*> .required "items" (Reader.list NewLine.reader))

/-- Reads why an order is cancelled. -/
def reasonReader : Reader String := Record.read (.defaulting "reason" Reader.string "")

/-- Reads a text that is JSON of some shape from its first character to its last. -/
def readText {α : Type} (r : Reader α) (text : String) : Except Fault α := do
  let (d, whole) := Draft.ofText text
  let a ← r d
  if whole then return a else throw .malformed

/-- The status that goes with a fault in a body. -/
def faultStatus : Fault → Nat
  | .malformed => 400
  | .mismatch => 422

end Storefront.Http
