/-! # Kinds of error

Whoever has to react to an error looks at its kind and not at its cause.
-/
namespace Storefront

/-- How an error is classed for those who have to react to it. -/
inductive ErrorKind where
  | validation
  | notFound
  | invalidTransition
  | insufficientStock
  | inactive
  | conflict
  | infrastructure
  deriving DecidableEq

/-- The name of the kind. -/
def ErrorKind.name : ErrorKind → String
  | .validation => "validation"
  | .notFound => "not_found"
  | .invalidTransition => "invalid_transition"
  | .insufficientStock => "insufficient_stock"
  | .inactive => "inactive"
  | .conflict => "conflict"
  | .infrastructure => "infrastructure"

end Storefront
