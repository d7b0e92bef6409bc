import Storefront.Error

/-! # Cancelling an order

The stock of a cancelled order is put back line by line.  A line that cannot be put
back is noted with the reason, and the others are put back all the same.
-/
namespace Storefront

/-- Stock that was put back. -/
structure Release where
  product : ProductId
  quantity : Count
  deriving DecidableEq

/-- Stock that could not be put back, and why. -/
structure FailedRelease where
  product : ProductId
  quantity : Count
  error : String
  deriving DecidableEq

/-- What came of a cancellation. -/
structure Cancellation where
  order : Order
  released : List Release
  failed : List FailedRelease
  deriving DecidableEq

/-- Whether everything was put back. -/
def Cancellation.isFullyCompensated (c : Cancellation) : Bool := c.failed.isEmpty

/-- What can be said of a line that was put back. -/
def OrderLine.release (l : OrderLine) : Release := ⟨l.productId, l.quantity⟩

/-- What can be said of a release that did not last. -/
def Release.fail (r : Release) (error : String) : FailedRelease := ⟨r.product, r.quantity, error⟩

/-- Puts the stock of some lines back: the store that results, what was put back, and
what was not. -/
def Store.release (store : Store) : List OrderLine → Store × List Release × List FailedRelease
  | [] => (store, [], [])
  | l :: rest =>
    match store.addInventory l.productId l.quantity with
    | .ok store =>
      let (store, released, failed) := store.release rest
      (store, l.release :: released, failed)
    | .error e =>
      let (store, released, failed) := store.release rest
      (store, released, l.release.fail e.message :: failed)

end Storefront
