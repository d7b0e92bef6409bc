import Storefront.Text.Blank

/-! # Postal addresses

An address is five lines of text.  One that is entered has none of them blank; one
that is read back from storage is taken as it was stored.
-/
namespace Storefront

/-- The lines of an address. -/
inductive AddressField where
  | street
  | city
  | state
  | zipCode
  | country
  deriving DecidableEq

namespace AddressField

/-- Every line, in the order in which they are checked. -/
def all : List AddressField := [.street, .city, .state, .zipCode, .country]

/-- The name of the line. -/
def name : AddressField → String
  | .street => "street"
  | .city => "city"
  | .state => "state"
  | .zipCode => "zip_code"
  | .country => "country"

end AddressField

/-- A line of an address was left blank. -/
structure AddressError where
  field : String
  deriving DecidableEq

/-- The wording of the error. -/
def AddressError.message (e : AddressError) : String :=
  s!"Address field '{e.field}' is required"

/-- A postal address. -/
structure Address where
  street : String
  city : String
  state : String
  zipCode : String
  country : String
  deriving DecidableEq, Inhabited

namespace Address

/-- One line of the address. -/
def get (a : Address) : AddressField → String
  | .street => a.street
  | .city => a.city
  | .state => a.state
  | .zipCode => a.zipCode
  | .country => a.country

/-- The address itself if no line is blank, and otherwise the first that is. -/
def check (a : Address) : Except AddressError Address :=
  match AddressField.all.find? fun f => Text.isBlank (a.get f) with
  | none => .ok a
  | some f => .error ⟨f.name⟩

/-- The address on one line. -/
def text (a : Address) : String :=
  s!"{a.street}, {a.city}, {a.state} {a.zipCode}, {a.country}"

instance : ToString Address := ⟨text⟩

end Address

end Storefront
