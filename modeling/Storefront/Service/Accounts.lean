import Storefront.Service.Script
import Storefront.Service.Supply

/-! # Commands for customers

A customer is changed while their lock is held.  Nobody is registered with an email
address that another customer has: this is looked up first, and looked up again when
the customer is saved.
-/
namespace Storefront.Accounts

open Job

/-- Refuses an email address that some customer has. -/
def ensureEmailFree (email : Email) : Job Unit := do
  match ← (findCustomerByEmail email).attempt with
  | .ok _ => throw (.customer (.emailTaken email.text))
  | .error e => if e.kind = .notFound then return () else throw e

/-- Registers a customer. -/
def register (supply : Supply) (email firstName lastName : String) : Job Customer := do
  let customer ← Customer.register (supply.id .customer) email firstName lastName supply.now
  committed do
    ensureEmailFree customer.email
    saveCustomer customer
  publish customer.news
  return customer.settled

/-- Changes a customer. -/
def withCustomer (id : CustomerId) (change : Customer → Except CustomerError Customer) :
    Job Customer := do
  let customer ← committed (withLock (.customer id) do
    let customer ← findCustomer id
    let customer ← change customer
    saveCustomer customer
    return customer)
  publish customer.news
  return customer.settled

/-- Takes down a phone number and an address. -/
def updateContact (id : CustomerId) (phone : String) (address : Address) : Job Customer :=
  withCustomer id fun c => c.updateContact phone address

/-- Spends points. -/
def redeemPoints (id : CustomerId) (points : Count) : Job Customer :=
  withCustomer id fun c => c.redeemPoints points

/-- Closes an account. -/
def deactivate (id : CustomerId) : Job Customer := withCustomer id Customer.deactivate

end Storefront.Accounts
