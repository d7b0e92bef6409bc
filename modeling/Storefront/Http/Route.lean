import Storefront.Http.Target

/-! # Routes

Each resource has one path.  What is fixed in a path is compared as it is written; what
may vary is one segment that is not empty.
-/
namespace Storefront.Http

/-- What a request can be about.  Identifiers are as they are written in the path. -/
inductive Resource where
  | health
  | metrics
  | stores
  | store (id : String)
  | products (store : String)
  | price (store product : String)
  | productDeactivation (store product : String)
  | inventory (store product : String)
  | customers
  | customer (id : String)
  | contact (customer : String)
  | redemption (customer : String)
  | customerDeactivation (customer : String)
  | orders
  | order (id : String)
  | cancellation (order : String)
  | preparation (order : String)
  | readiness (order : String)
  | completion (order : String)
  deriving DecidableEq

namespace Resource

/-- The resource of a path, whatever its varying segments are. -/
def ofSegments? : List String → Option Resource
  | ["health"] => some health
  | ["metrics"] => some metrics
  | ["stores"] => some stores
  | ["stores", id] => some (store id)
  | ["stores", id, "products"] => some (products id)
  | ["stores", id, "products", p, "price"] => some (price id p)
  | ["stores", id, "products", p, "deactivate"] => some (productDeactivation id p)
  | ["stores", id, "products", p, "inventory"] => some (inventory id p)
  | ["customers"] => some customers
  | ["customers", id] => some (customer id)
  | ["customers", id, "contact"] => some (contact id)
  | ["customers", id, "redeem"] => some (redemption id)
  | ["customers", id, "deactivate"] => some (customerDeactivation id)
  | ["orders"] => some orders
  | ["orders", id] => some (order id)
  | ["orders", id, "cancel"] => some (cancellation id)
  | ["orders", id, "prepare"] => some (preparation id)
  | ["orders", id, "ready"] => some (readiness id)
  | ["orders", id, "complete"] => some (completion id)
  | _ => none

/-- The resource of a path. -/
def find? (segments : List String) : Option Resource :=
  if segments.contains "" then none else ofSegments? segments

end Resource

end Storefront.Http
