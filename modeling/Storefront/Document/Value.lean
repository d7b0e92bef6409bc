import Storefront.Address
import Storefront.Customer
import Storefront.Json.Reader
import Storefront.Order.Status
import Storefront.Store.Product

/-! # Documents: values

How the values that orders, stores and customers are made of are written as JSON, and
how they are read back.  Money is checked when it is read, and its currency is put in
capitals; the other values are taken as they were stored.
-/
namespace Storefront

open Json

/-- An identifier is written as its hyphenated text. -/
def Id.toJson {noun : Noun} (id : Id noun) : Json := .str id.text

/-- Reads an identifier in any form that a UUID may have. -/
def Id.reader {noun : Noun} : Reader (Id noun) := Reader.parsed Id.parse?

/-- An instant is written as its text. -/
def Timestamp.toJson (t : Timestamp) : Json := .str t.text

/-- Reads an instant. -/
def Timestamp.reader : Reader Timestamp := Reader.parsed Timestamp.parse?

/-- Money is written as its minor units and its currency. -/
def Money.toJson (m : Money) : Json :=
  .obj [("amount", .nat m.amount), ("currency", .str m.currency.code)]

/-- Money as it is written, not checked yet. -/
structure UncheckedMoney where
  amount : Int
  currency : String

namespace UncheckedMoney

/-- The fields of money. -/
def fields : Record UncheckedMoney :=
  mk <$> .required "amount" Reader.signed <*> .required "currency" Reader.string

/-- Reads money without checking it. -/
def reader : Reader UncheckedMoney := fields.read

/-- The money, if there is such. -/
def check (m : UncheckedMoney) : Except MoneyError Money := Money.make m.amount m.currency

end UncheckedMoney

/-- Reads money. -/
def Money.reader : Reader Money :=
  Reader.checked UncheckedMoney.reader fun m => m.check.toOption

/-- An address is written line by line. -/
def Address.toJson (a : Address) : Json :=
  .obj [("street", .str a.street), ("city", .str a.city), ("state", .str a.state),
    ("zip_code", .str a.zipCode), ("country", .str a.country)]

/-- The lines of an address. -/
def Address.fields : Record Address :=
  Address.mk <$> .required "street" Reader.string <*> .required "city" Reader.string
    <*> .required "state" Reader.string <*> .required "zip_code" Reader.string
    <*> .required "country" Reader.string

/-- Reads an address. -/
def Address.reader : Reader Address := Address.fields.read

/-- An email address is written as its text. -/
def Email.toJson (e : Email) : Json := .str e.text

/-- Reads an email address as it was stored. -/
def Email.reader : Reader Email := Reader.parsed fun text => some ⟨text⟩

/-- A phone number is written as its text. -/
def PhoneNumber.toJson (p : PhoneNumber) : Json := .str p.text

/-- Reads a phone number as it was stored. -/
def PhoneNumber.reader : Reader PhoneNumber := Reader.parsed fun text => some ⟨text⟩

/-- The name of a product is written as its text. -/
def ProductName.toJson (n : ProductName) : Json := .str n.text

/-- Reads the name of a product as it was stored. -/
def ProductName.reader : Reader ProductName := Reader.parsed fun text => some ⟨text⟩

/-- A tier is written as its name. -/
def Tier.toJson (t : Tier) : Json := .str t.name

/-- Reads a tier, which may be in a part of the document that was put aside. -/
def Tier.reader (aside : Bool) : Reader Tier :=
  Reader.choice (Tier.all.map fun t => (t.name, t)) aside

/-- A status is written as its name. -/
def OrderStatus.toJson (s : OrderStatus) : Json := .str s.name

/-- Reads a status, which may be in a part of the document that was put aside. -/
def OrderStatus.reader (aside : Bool) : Reader OrderStatus :=
  Reader.choice (OrderStatus.all.map fun s => (s.name, s)) aside

end Storefront
