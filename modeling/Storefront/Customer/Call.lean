import Storefront.Customer
import Storefront.InPlace

/-! # Calls on a customer

Whoever holds a customer calls on them to change.  `Customer.answer` puts a call together from the
operations of `Customer`, which give a new customer or none.  `Customer.perform` has a call made in
place: fields are written one after the other, and the tier is reviewed at the end.
-/
namespace Storefront

/-- What can be asked of a customer. -/
inductive CustomerCall where
  | updateContact (phone : String) (address : Address)
  | addPoints (points : Count)
  | redeemPoints (points : Count)
  | deactivate
  deriving DecidableEq

namespace Customer

/-- What a call gives. -/
def answer (c : Customer) : CustomerCall → Except CustomerError (Unit × Customer)
  | .updateContact phone address => do return ((), ← c.updateContact phone address)
  | .addPoints points => do return ((), ← c.addPoints points)
  | .redeemPoints points => do return ((), ← c.redeemPoints points)
  | .deactivate => do return ((), ← c.deactivate)

/-! ### In place -/

/-- An operation on a customer in their place. -/
abbrev Edit (α : Type) := InPlace CustomerError Customer α

namespace Edit

/-- Takes down a phone number and an address. -/
def updateContact (phone : String) (address : Address) : Edit Unit := do
  (← get).ensureActive
  let phone ← PhoneNumber.make phone
  modify ({ · with phoneNumber := some phone })
  modify ({ · with address := some address })
  modify fun c => c.raise (.contactUpdated c.id phone.text address)

/-- Writes the tier that the balance earns, and raises that it has changed if it has. -/
def reviewTier : Edit Unit := do
  let tier := Tier.forPoints (← get).loyaltyPoints
  if tier = (← get).tier then return
  let oldTier := (← get).tier
  modify ({ · with tier })
  modify fun c => c.raise (.tierChanged c.id oldTier tier c.loyaltyPoints)

/-- Credits points. -/
def addPoints (points : Count) : Edit Unit := do
  if points = 0 then throw .invalidPoints
  (← get).ensureActive
  match (← get).loyaltyPoints.add? points with
  | none => throw .pointsOverflow
  | some balance =>
    modify ({ · with loyaltyPoints := balance })
    modify fun c => c.raise (.pointsAwarded c.id points balance)
    reviewTier

/-- Spends points. -/
def redeemPoints (points : Count) : Edit Unit := do
  if points = 0 then throw .invalidPoints
  (← get).ensureActive
  if (← get).loyaltyPoints < points then
    throw (.insufficientPoints points (← get).loyaltyPoints)
  modify fun c => { c with loyaltyPoints := c.loyaltyPoints - points }
  modify fun c => c.raise (.pointsRedeemed c.id points c.loyaltyPoints)
  reviewTier

/-- Closes the account for good. -/
def deactivate : Edit Unit := do
  (← get).ensureActive
  modify ({ · with active := false })
  modify fun c => c.raise (.deactivated c.id)

/-- Makes a call. -/
def call : CustomerCall → Edit Unit
  | .updateContact phone address => updateContact phone address
  | .addPoints points => addPoints points
  | .redeemPoints points => redeemPoints points
  | .deactivate => deactivate

end Edit

/-- Has a call made on a customer in their place. -/
def perform (c : Customer) (call : CustomerCall) : Except CustomerError Unit × Customer :=
  InPlace.on c (Edit.call call)

/-- The customer as some calls leave them, one after the other. -/
def afterAll (c : Customer) (calls : List CustomerCall) : Customer :=
  InPlace.afterAll perform c calls

/-- Those of some calls that are carried out, when they are made one after the other. -/
def carriedOut (c : Customer) (calls : List CustomerCall) : List CustomerCall :=
  InPlace.carriedOut perform c calls

end Customer

end Storefront
