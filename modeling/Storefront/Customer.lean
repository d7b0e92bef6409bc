import Storefront.Customer.Event
import Storefront.Email
import Storefront.ErrorKind
import Storefront.Timestamp

/-! # Customers

A customer is registered with a name and an email address, collects loyalty points and
spends them, and can be deactivated for good.  The tier follows the balance of points.

Each operation gives the customer that results, or says why it is refused; a refused
operation leaves nothing behind.  What happened to a customer is kept in `pending`
until it has been told to others.
-/
namespace Storefront

/-- Why an operation on a customer is refused. -/
inductive CustomerError where
  | nameRequired
  | invalidEmail (email : String)
  | invalidPhone (phone : String)
  | invalidPoints
  | insufficientPoints (requested available : Count)
  | pointsOverflow
  | inactive (customer : CustomerId)
  | emailTaken (email : String)
  deriving DecidableEq

namespace CustomerError

/-- The name of the cause. -/
def code : CustomerError → String
  | nameRequired => "NameRequired"
  | invalidEmail _ => "InvalidEmail"
  | invalidPhone _ => "InvalidPhone"
  | invalidPoints => "InvalidPoints"
  | insufficientPoints .. => "InsufficientPoints"
  | pointsOverflow => "PointsOverflow"
  | inactive _ => "Inactive"
  | emailTaken _ => "EmailTaken"

/-- The wording of the error. -/
def message : CustomerError → String
  | nameRequired => "First and last name are required"
  | invalidEmail email => s!"Invalid email address: '{email}'"
  | invalidPhone phone => s!"Invalid phone number: '{phone}'"
  | invalidPoints => "Points must be greater than zero"
  | insufficientPoints requested available =>
    s!"Insufficient loyalty points: requested {requested}, available {available}"
  | pointsOverflow => "Loyalty point balance overflow"
  | inactive customer => s!"Customer is inactive: {customer}"
  | emailTaken email => s!"Email already registered: {email}"

/-- The kind of the error. -/
def kind : CustomerError → ErrorKind
  | inactive _ => .inactive
  | emailTaken _ => .conflict
  | nameRequired | invalidEmail _ | invalidPhone _ | invalidPoints | insufficientPoints ..
  | pointsOverflow => .validation

end CustomerError

/-- An email address as it is entered. -/
def Email.make (text : String) : Except CustomerError Email :=
  match Email.parse? text with
  | some email => .ok email
  | none => .error (.invalidEmail text)

/-- A phone number. -/
structure PhoneNumber where
  text : String
  deriving DecidableEq

namespace PhoneNumber

/-- Whether the character may stand in a phone number. -/
def isAllowed (c : Char) : Bool := c.isDigit || "+-() ".toList.contains c

/-- Ten or more digits, plus and minus signs, parentheses and spaces, with white space
around them. -/
def make (text : String) : Except CustomerError PhoneNumber :=
  let text := Text.trim text
  if 10 ≤ text.length ∧ text.toList.all isAllowed = true then .ok ⟨text⟩
  else .error (.invalidPhone text)

end PhoneNumber

/-- A customer. -/
structure Customer where
  id : CustomerId
  email : Email
  firstName : String
  lastName : String
  phoneNumber : Option PhoneNumber
  address : Option Address
  tier : Tier
  loyaltyPoints : Count
  registeredAt : Timestamp
  active : Bool
  /-- What happened and has not been told to others. -/
  pending : List CustomerEvent
  deriving DecidableEq

namespace Customer

/-- The customer with one more thing that happened to them. -/
def raise (c : Customer) (e : CustomerEvent) : Customer := { c with pending := c.pending ++ [e] }

/-- The customer with nothing left to tell. -/
def settled (c : Customer) : Customer := { c with pending := [] }

/-- A new customer of the lowest tier, without points. -/
def register (id : CustomerId) (email firstName lastName : String) (now : Timestamp) :
    Except CustomerError Customer := do
  if Text.isBlank firstName || Text.isBlank lastName then throw .nameRequired
  let firstName := Text.trim firstName
  let lastName := Text.trim lastName
  let email ← Email.make email
  return {
    id, email, firstName, lastName, phoneNumber := none, address := none, tier := .regular
    loyaltyPoints := 0, registeredAt := now, active := true
    pending := [.registered id email.text firstName lastName] }

/-- First and last name. -/
def fullName (c : Customer) : String := s!"{c.firstName} {c.lastName}"

/-- Refuses to go on unless the customer is active. -/
def ensureActive (c : Customer) : Except CustomerError Unit :=
  if c.active then .ok () else .error (.inactive c.id)

/-- Takes down a phone number and an address. -/
def updateContact (c : Customer) (phone : String) (address : Address) :
    Except CustomerError Customer := do
  c.ensureActive
  let phone ← PhoneNumber.make phone
  return { c with phoneNumber := some phone, address := some address }.raise
    (.contactUpdated c.id phone.text address)

/-- The customer in the tier that the balance earns. -/
def reviewTier (c : Customer) : Customer :=
  let tier := Tier.forPoints c.loyaltyPoints
  if tier = c.tier then c
  else { c with tier }.raise (.tierChanged c.id c.tier tier c.loyaltyPoints)

/-- Credits points. -/
def addPoints (c : Customer) (points : Count) : Except CustomerError Customer := do
  if points = 0 then throw .invalidPoints
  c.ensureActive
  match c.loyaltyPoints.add? points with
  | none => throw .pointsOverflow
  | some balance =>
    return ({ c with loyaltyPoints := balance }.raise
      (.pointsAwarded c.id points balance)).reviewTier

/-- Spends points. -/
def redeemPoints (c : Customer) (points : Count) : Except CustomerError Customer := do
  if points = 0 then throw .invalidPoints
  c.ensureActive
  if c.loyaltyPoints < points then throw (.insufficientPoints points c.loyaltyPoints)
  let balance := c.loyaltyPoints - points
  return ({ c with loyaltyPoints := balance }.raise
    (.pointsRedeemed c.id points balance)).reviewTier

/-- Closes the account for good. -/
def deactivate (c : Customer) : Except CustomerError Customer := do
  c.ensureActive
  return { c with active := false }.raise (.deactivated c.id)

end Customer

end Storefront
