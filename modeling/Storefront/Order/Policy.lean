import Storefront.Order

/-! # Rules about orders

A rule is something an order meets or not; two rules can be joined.  How long an order
takes to prepare is estimated from its number of lines and from whether it is large.
-/
namespace Storefront

/-- A rule that an order meets or not. -/
abbrev OrderRule := Order → Bool

namespace OrderRule

/-- The order comes to at least some minor units of its currency. -/
def large (minTotal : Int) : OrderRule := fun o => decide (minTotal ≤ o.total.amount)

/-- The order has few enough lines to be rushed. -/
def rush (maxLines : Nat) : OrderRule := fun o => decide (o.lines.length ≤ maxLines)

/-- Both rules are met. -/
def both (r s : OrderRule) : OrderRule := fun o => r o && s o

/-- The total from which an order takes longer. -/
def largeTotal : Int := 5000

end OrderRule

/-- How many minutes a store takes over an order: five, two for each line, and ten more
if the order is large, but never more than a count can say. -/
def Order.preparationMinutes (o : Order) : Count :=
  let minutes := 5 + 2 * o.lines.length + if OrderRule.large OrderRule.largeTotal o then 10 else 0
  UInt32.ofNat (min minutes Count.max.toNat)

end Storefront
