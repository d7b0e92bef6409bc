import Storefront.Uuid

/-! # Names of things

Stores, products, orders, order lines, customers and events each have identifiers
of a type of their own, so that one can never be passed for another.
-/
namespace Storefront

/-- What an identifier names. -/
inductive Noun where
  | store
  | product
  | order
  | line
  | customer
  | event
  deriving DecidableEq

/-- An identifier of things of one sort. -/
structure Id (noun : Noun) where
  uuid : Uuid
  deriving DecidableEq

abbrev StoreId := Id .store

abbrev ProductId := Id .product

abbrev OrderId := Id .order

abbrev LineId := Id .line

abbrev CustomerId := Id .customer

abbrev EventId := Id .event

namespace Id

variable {noun : Noun}

instance : Inhabited (Id noun) := ⟨⟨.nil⟩⟩

/-- Reads an identifier in any form that a UUID may have. -/
def parse? (s : String) : Option (Id noun) := (Uuid.parse? s).map Id.mk

/-- The identifier as a lower-case hyphenated UUID. -/
def text (id : Id noun) : String := id.uuid.text

instance : ToString (Id noun) := ⟨text⟩

/-- Identifiers are ordered as their UUIDs are. -/
def le (a b : Id noun) : Bool := a.uuid.le b.uuid

end Id

end Storefront
