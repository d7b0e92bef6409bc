import Storefront.Address
import Storefront.Customer
import Storefront.Order
import Storefront.Store

/-! # Errors

Every reason for which a command can be refused: one from the thing it was meant for,
or one of its own.
-/
namespace Storefront

/-- Why a command is refused. -/
inductive Error where
  | money (cause : MoneyError)
  | address (cause : AddressError)
  | store (cause : StoreError)
  | order (cause : OrderError)
  | customer (cause : CustomerError)
  | notFound (aggregateType aggregateId : String)
  | validation (text : String)
  | unitOfWork (text : String)
  | infrastructure (text : String)
  deriving DecidableEq

namespace Error

/-- The name of the cause; that of a cause inside it follows behind a point. -/
def code : Error → String
  | money cause => "Money." ++ cause.code
  | address _ => "Address.AddressError"
  | store cause => "Store." ++ cause.code
  | order cause => "Order." ++ cause.code
  | customer cause => "Customer." ++ cause.code
  | notFound .. => "NotFound"
  | validation _ => "Validation"
  | unitOfWork _ => "UnitOfWork"
  | infrastructure _ => "Infrastructure"

/-- The wording of the error. -/
def message : Error → String
  | money cause => s!"Money error: {cause.message}"
  | address cause => s!"Address error: {cause.message}"
  | store cause => s!"Store error: {cause.message}"
  | order cause => s!"Order error: {cause.message}"
  | customer cause => s!"Customer error: {cause.message}"
  | notFound aggregateType aggregateId =>
    s!"Aggregate not found: {aggregateType} with id {aggregateId}"
  | validation text => s!"Validation error: {text}"
  | unitOfWork text => s!"Unit of work error: {text}"
  | infrastructure text => s!"Infrastructure error: {text}"

/-- The kind of the error. -/
def kind : Error → ErrorKind
  | money _ | address _ | validation _ => .validation
  | store cause => cause.kind
  | order cause => cause.kind
  | customer cause => cause.kind
  | notFound .. => .notFound
  | unitOfWork _ | infrastructure _ => .infrastructure

end Error

/-- An error about money is a cause of its own unless a store or an order raised it. -/
instance : MonadLiftT (Except MoneyError) (Except Error) := ⟨Except.mapError .money⟩

instance : MonadLift (Except AddressError) (Except Error) := ⟨Except.mapError .address⟩

instance : MonadLift (Except StoreError) (Except Error) := ⟨Except.mapError .store⟩

instance : MonadLift (Except OrderError) (Except Error) := ⟨Except.mapError .order⟩

instance : MonadLift (Except CustomerError) (Except Error) := ⟨Except.mapError .customer⟩

end Storefront
