import Storefront.Count

/-! # Loyalty tiers

The tier of a customer depends on nothing but the balance of points, so that spending
points can lower it.
-/
namespace Storefront

/-- How loyal a customer is. -/
inductive Tier where
  | regular
  | premium
  | vip
  deriving DecidableEq, Inhabited

namespace Tier

/-- Every tier, from the lowest to the highest. -/
def all : List Tier := [regular, premium, vip]

/-- The tier that a balance earns. -/
def forPoints (points : Count) : Tier :=
  if 1000 ≤ points then vip else if 500 ≤ points then premium else regular

/-- The discount that the tier is granted, in percent. -/
def discountPercent : Tier → Nat
  | vip => 20
  | premium => 10
  | regular => 0

/-- The name of the tier. -/
def name : Tier → String
  | regular => "REGULAR"
  | premium => "PREMIUM"
  | vip => "VIP"

instance : ToString Tier := ⟨name⟩

/-- The tiers from the lowest up to this one, counted from zero. -/
def rank : Tier → Nat
  | regular => 0
  | premium => 1
  | vip => 2

/-- Tiers are ordered from the lowest to the highest. -/
def le (a b : Tier) : Bool := decide (a.rank ≤ b.rank)

end Tier

end Storefront
