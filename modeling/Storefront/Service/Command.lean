import Storefront.Service.Accounts
import Storefront.Service.Catalogue
import Storefront.Service.Loyalty
import Storefront.Service.Ordering

/-! # Commands

Everything that the service can be told to do, as one type, with the script of each.  A
command is carried out by running its script; the events that it published then reach
those who asked for them, the oldest first.
-/
namespace Storefront

/-- Something that the service can be told to do. -/
inductive Command where
  | createStore (name : String) (location : Address) (currency : String)
  | addProduct (store : StoreId) (name description : String) (price : Money)
  | addInventory (store : StoreId) (product : ProductId) (quantity : Count)
  | updatePrice (store : StoreId) (product : ProductId) (price : Money)
  | deactivateProduct (store : StoreId) (product : ProductId)
  | register (email firstName lastName : String)
  | updateContact (customer : CustomerId) (phone : String) (address : Address)
  | redeemPoints (customer : CustomerId) (points : Count)
  | deactivateCustomer (customer : CustomerId)
  | createOrder (customer : CustomerId) (store : StoreId) (lines : List RequestedLine)
  | cancelOrder (order : OrderId) (reason : String)
  | advanceOrder (order : OrderId) (transition : OrderTransition)
  deriving DecidableEq

/-- What comes of a command that is not refused. -/
inductive Outcome where
  | store (s : Store)
  | product (p : Product)
  | level (n : Count)
  | customer (c : Customer)
  | order (o : Order)
  | cancellation (c : Cancellation)
  | nothing

/-- The script of a command. -/
def Command.job (supply : Supply) : Command → Job Outcome
  | createStore name location currency =>
    Outcome.store <$> Catalogue.createStore supply name location currency
  | addProduct store name description price =>
    Outcome.product <$> Catalogue.addProduct supply store name description price
  | addInventory store product quantity =>
    Outcome.level <$> Catalogue.addInventory store product quantity
  | updatePrice store product price =>
    Outcome.product <$> Catalogue.updatePrice store product price
  | deactivateProduct store product =>
    (fun _ => Outcome.nothing) <$> Catalogue.deactivateProduct store product
  | register email firstName lastName =>
    Outcome.customer <$> Accounts.register supply email firstName lastName
  | updateContact customer phone address =>
    Outcome.customer <$> Accounts.updateContact customer phone address
  | redeemPoints customer points => Outcome.customer <$> Accounts.redeemPoints customer points
  | deactivateCustomer customer => Outcome.customer <$> Accounts.deactivate customer
  | createOrder customer store lines =>
    Outcome.order <$> Ordering.createOrder supply customer store lines
  | cancelOrder order reason => Outcome.cancellation <$> Ordering.cancelOrder order reason
  | advanceOrder order transition =>
    Outcome.order <$> Ordering.advanceOrder supply order transition

namespace Backend

/-- Runs a script, and gives its value or its error. -/
def perform {α : Type} (b : Backend) (job : Job α) : Except Error α × Backend := job.run.run b

/-- Delivers some events, one after the other. -/
def deliverAll (b : Backend) (deliveries : List Delivery) : Backend :=
  deliveries.foldl (fun b d => (b.perform (Loyalty.deliver d)).2) b

/-- Delivers the events that are on their way. -/
def settle (b : Backend) : Backend :=
  { b with deliveries := [] }.deliverAll b.deliveries

/-- Carries a command out, and delivers what it published. -/
def execute (b : Backend) (supply : Supply) (command : Command) : Except Error Outcome × Backend :=
  let (result, b) := b.perform (command.job supply)
  (result, b.settle)

end Backend

end Storefront
