import Storefront.Event
import Storefront.Metrics
import Storefront.Subscriptions
import Storefront.UnitOfWork

/-! # What commands work on

Stores, orders and customers are kept in three repositories.  What is kept has nothing
left to tell: whoever saves it has to publish what happened.  Events that are published
are written down and delivered later to the handlers that ask for them.

Some of this can be made to fail on purpose, by switches.
-/
namespace Storefront

/-- What a store has to tell. -/
def Store.news (s : Store) : List Payload := s.pending.map .store

/-- What an order has to tell. -/
def Order.news (o : Order) : List Payload := o.pending.map .order

/-- What a customer has to tell. -/
def Customer.news (c : Customer) : List Payload := c.pending.map .customer

/-- What is kept. -/
structure Repositories where
  stores : Table StoreId Store
  orders : Table OrderId Order
  customers : Table CustomerId Customer
  deriving Inhabited

namespace Repositories

/-- The repositories with nothing in them. -/
def empty : Repositories := ⟨.empty, .empty, .empty⟩

/-! ### Stores -/

/-- The store of an identifier. -/
def findStore (r : Repositories) (id : StoreId) : Except Error Store :=
  match r.stores.get? id with
  | some s => .ok s
  | none => .error (.notFound "Store" id.text)

/-- Keeps a store. -/
def saveStore (r : Repositories) (s : Store) : Repositories :=
  { r with stores := r.stores.insert s.id s.settled }

/-- Every store, by name. -/
def allStores (r : Repositories) : List Store :=
  r.stores.values.mergeSort fun s t => decide (s.name ≤ t.name)

/-! ### Orders -/

/-- The order of an identifier. -/
def findOrder (r : Repositories) (id : OrderId) : Except Error Order :=
  match r.orders.get? id with
  | some o => .ok o
  | none => .error (.notFound "Order" id.text)

/-- Keeps an order. -/
def saveOrder (r : Repositories) (o : Order) : Repositories :=
  { r with orders := r.orders.insert o.id o.settled }

/-- The orders that meet a condition, the oldest first. -/
def ordersWhere (r : Repositories) (p : Order → Bool) : List Order :=
  (r.orders.values.filter p).mergeSort fun o q => o.placedAt.le q.placedAt

/-- The orders of a customer, the oldest first. -/
def ordersOfCustomer (r : Repositories) (id : CustomerId) : List Order :=
  r.ordersWhere fun o => o.customerId == id

/-- The orders of a status, the oldest first. -/
def ordersOfStatus (r : Repositories) (status : OrderStatus) : List Order :=
  r.ordersWhere fun o => o.status == status

/-! ### Customers -/

/-- The customer of an identifier. -/
def findCustomer (r : Repositories) (id : CustomerId) : Except Error Customer :=
  match r.customers.get? id with
  | some c => .ok c
  | none => .error (.notFound "Customer" id.text)

/-- The customer of an email address. -/
def findCustomerByEmail (r : Repositories) (email : Email) : Except Error Customer :=
  match r.customers.values.find? fun c => c.email == email with
  | some c => .ok c
  | none => .error (.notFound "Customer" email.text)

/-- Keeps a customer, unless another one has the same email address. -/
def saveCustomer (r : Repositories) (c : Customer) : Except Error Repositories :=
  if r.customers.values.any fun d => d.email == c.email && d.id != c.id then
    .error (.customer (.emailTaken c.email.text))
  else .ok { r with customers := r.customers.insert c.id c.settled }

/-- The customers of a tier, the one registered first standing first. -/
def customersOfTier (r : Repositories) (tier : Tier) : List Customer :=
  (r.customers.values.filter fun c => c.tier == tier).mergeSort fun c d =>
    c.registeredAt.le d.registeredAt

end Repositories

/-- Switches that make parts of the service fail. -/
structure Faults where
  saveStores : Bool := false
  saveOrders : Bool := false
  saveCustomers : Bool := false
  findStores : Bool := false
  findCustomers : Bool := false
  /-- Units of work are handed out already begun. -/
  begun : Bool := false
  /-- The publisher refuses every event. -/
  publish : Bool := false
  deriving DecidableEq

/-- No switch is on. -/
def Faults.none : Faults := {}

/-- The switches of some names, on. -/
def Faults.ofNames (names : List String) : Faults where
  saveStores := names.contains "save_stores"
  saveOrders := names.contains "save_orders"
  saveCustomers := names.contains "save_customers"
  findStores := names.contains "find_stores"
  findCustomers := names.contains "find_customers"
  begun := names.contains "begun"
  publish := names.contains "publish"

/-- The error of a repository that is made to fail. -/
def Faults.error : Error := .infrastructure "disk full"

/-- Those who are told of events by the service. -/
inductive Listener where
  | loyalty
  deriving DecidableEq

/-- The name of the listener. -/
def Listener.name : Listener → String
  | .loyalty => "loyalty_points"

/-- What each listener asks to be told of. -/
def Listener.subscriptions : Subscriptions Listener := ⟨[("order.confirmed", .loyalty)]⟩

/-- An event on its way to a listener. -/
structure Delivery where
  listener : Listener
  payload : Payload
  deriving DecidableEq

/-- Everything that commands work on. -/
structure Backend where
  repositories : Repositories
  /-- Every unit of work that was handed out. -/
  units : List UnitOfWork
  /-- Every event that was published, the oldest first. -/
  published : List Payload
  /-- The events that are on their way, the oldest first. -/
  deliveries : List Delivery
  metrics : Metrics
  faults : Faults

namespace Backend

/-- The backend before anything has happened. -/
def empty : Backend := ⟨.empty, [], [], [], .empty, .none⟩

instance : Inhabited Backend := ⟨empty⟩

/-- Counts something. -/
def count (b : Backend) (c : Counter) (n : Nat) : Backend :=
  { b with metrics := b.metrics.add c n }

/-- Hands a unit of work out, known by its place. -/
def openUnit (b : Backend) : Nat × Backend :=
  (b.units.length, { b with units := b.units ++ [⟨b.faults.begun⟩] })

/-- Begins or commits a unit of work. -/
def changeUnit (b : Backend) (unit : Nat) (f : UnitOfWork → Except Error UnitOfWork) :
    Except Error Unit × Backend :=
  match f (b.units[unit]?.getD .idle) with
  | .ok u => (.ok (), { b with units := b.units.set unit u })
  | .error e => (.error e, b)

/-- Rolls a unit of work back. -/
def rollback (b : Backend) (unit : Nat) : Backend :=
  { b with units := b.units.modify unit UnitOfWork.rollback }

/-- Publishes one event: it is written down, counted, and sent to those who ask for it. -/
def publishOne (b : Backend) (p : Payload) : Backend :=
  { b with
    published := b.published ++ [p]
    deliveries := b.deliveries ++ (Listener.subscriptions.handlersOf p.name).map (⟨·, p⟩)
    metrics := b.metrics.add (.eventsPublished p.name) 1 }

/-- Publishes events one after the other, unless the publisher refuses them. -/
def publish (b : Backend) (events : List Payload) : Backend :=
  if b.faults.publish then b else events.foldl publishOne b

/-- An attempt to change the repositories, which a switch can make fail. -/
def save (b : Backend) (fault : Bool) (f : Repositories → Except Error Repositories) :
    Except Error Unit × Backend :=
  if fault then (.error Faults.error, b)
  else
    match f b.repositories with
    | .ok r => (.ok (), { b with repositories := r })
    | .error e => (.error e, b)

/-- An attempt to read from the repositories, which a switch can make fail. -/
def find {α : Type} (b : Backend) (fault : Bool) (f : Repositories → Except Error α) :
    Except Error α :=
  if fault then .error Faults.error else f b.repositories

end Backend

end Storefront
