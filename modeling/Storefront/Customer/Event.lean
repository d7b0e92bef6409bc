import Storefront.Address
import Storefront.Count
import Storefront.Customer.Tier
import Storefront.Id

/-! # What happens to a customer -/
namespace Storefront

/-- Something that happened to a customer. -/
inductive CustomerEvent where
  | registered (customer : CustomerId) (email firstName lastName : String)
  | contactUpdated (customer : CustomerId) (phoneNumber : String) (address : Address)
  | pointsAwarded (customer : CustomerId) (points balance : Count)
  | pointsRedeemed (customer : CustomerId) (points balance : Count)
  | tierChanged (customer : CustomerId) (oldTier newTier : Tier) (balance : Count)
  | deactivated (customer : CustomerId)
  deriving DecidableEq

namespace CustomerEvent

/-- The name under which the event is told to others. -/
def name : CustomerEvent → String
  | registered .. => "customer.registered"
  | contactUpdated .. => "customer.contact_updated"
  | pointsAwarded .. => "customer.points_awarded"
  | pointsRedeemed .. => "customer.points_redeemed"
  | tierChanged .. => "customer.tier_changed"
  | deactivated .. => "customer.deactivated"

/-- The customer to whom it happened. -/
def customer : CustomerEvent → CustomerId
  | registered customer .. => customer
  | contactUpdated customer .. => customer
  | pointsAwarded customer .. => customer
  | pointsRedeemed customer .. => customer
  | tierChanged customer .. => customer
  | deactivated customer => customer

end CustomerEvent

end Storefront
