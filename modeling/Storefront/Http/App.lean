import Storefront.Http.Body
import Storefront.Http.MediaType
import Storefront.Http.Message
import Storefront.Http.Route
import Storefront.Http.View
import Storefront.Service.Command

/-! # The service over HTTP

A request names a resource by its path and says with its method what to do about it.
What can be wrong with a request is looked at in this order: the path, the method, the
text of the varying segments, the media type and the size of the body, the body as JSON
and as a record, the identifiers in path and body, money and addresses, and at last
whatever the command finds.

Each request has a supply of identifiers of its own.  The events that it published are
delivered before the next one.
-/
namespace Storefront.Http

/-- The service with what it needs to answer requests. -/
structure App where
  backend : Backend
  /-- The currency of stores that are opened without naming one. -/
  defaultCurrency : String
  /-- The number of the next supply of identifiers. -/
  next : Nat

/-- What is done on the backend to answer a request; it may end in a refusal. -/
abbrev Action (α : Type) := ExceptT Refusal (StateM Backend) α

instance : MonadLift (Except Error) (Except Refusal) := ⟨Except.mapError .domain⟩

instance : MonadLift (Except Refusal) Action := ⟨fun x => ExceptT.mk (pure x)⟩

namespace Action

variable {α : Type}

/-- Runs a command. -/
def perform (job : Job α) : Action α :=
  ExceptT.mk fun b => let (r, b) := b.perform job; (r.mapError .domain, b)

/-- What is kept. -/
def repositories : Action Repositories := do return (← getThe Backend).repositories

end Action

open Storefront.Http.Action

/-! ### Parts of requests -/

/-- The text of a varying segment of the path. -/
def segment (raw : String) : Except Refusal String :=
  match decodeSegment? raw with
  | some s => .ok s
  | none => .error (.bare 400)

/-- An identifier, which the message calls by its field. -/
def parseId {noun : Noun} (field raw : String) : Except Refusal (Id noun) :=
  match Id.parse? raw with
  | some id => .ok id
  | none => .error (.badRequest s!"Invalid {field}: <uuid error>")

/-- The body of a request, which has to be JSON and to say so, and must not be too large. -/
def readBody {α : Type} (r : Json.Reader α) (q : Request) : Except Refusal α :=
  if (q.contentType.map MediaType.isJson).getD false then
    if Request.maxBodySize < q.body.utf8ByteSize then .error (.bare 413)
    else (readText r q.body).mapError fun fault => .bare (faultStatus fault)
  else .error (.bare 415)

/-- The body of a request that may have none, which it then says nothing about. -/
def readOptionalBody {α : Type} (r : Json.Reader α) (q : Request) : Except Refusal (Option α) :=
  match q.contentType with
  | none => .ok none
  | some _ => (readBody r q).map some

/-- The only field of a name in a query.  Two of one name are too many. -/
def queryField (q : Request) (name : String) : Except Refusal (Option String) :=
  match q.target.query.filter fun f => f.1 == name with
  | [] => .ok none
  | [(_, value)] => .ok (some value)
  | _ => .error (.bare 400)

/-- A response that shows something. -/
def ok (j : Json) : Response := ⟨200, .json j⟩

/-- A response that shows something new. -/
def created (j : Json) : Response := ⟨201, .json j⟩

/-! ### Stores -/

/-- Opens a store. -/
def createStore (supply : Supply) (currency : String) (q : Request) : Action Response := do
  let new ← readBody NewStore.reader q
  let location ← new.location.check
  let store ← perform
    (Catalogue.createStore supply new.name location (new.currency.getD currency))
  return created (storeView store)

/-- Shows every store. -/
def listStores : Action Response := do
  return ok (.list storeView (← repositories).allStores)

/-- Shows a store. -/
def showStore (id : String) : Action Response := do
  let id ← parseId "store id" (← segment id)
  return ok (storeView (← (← repositories).findStore id))

/-- Puts a product on sale. -/
def addProduct (supply : Supply) (id : String) (q : Request) : Action Response := do
  let id ← segment id
  let new ← readBody NewProduct.reader q
  let id ← parseId "store id" id
  let price ← new.price.check
  let p ← perform (Catalogue.addProduct supply id new.name new.description price)
  return created (productView p 0)

/-- Shows a product of a store. -/
def showProduct (storeId : StoreId) (productId : ProductId) : Action Response := do
  let store ← (← repositories).findStore storeId
  return ok (stockedView store (← store.product productId))

/-- Changes the price of a product. -/
def updatePrice (store product : String) (q : Request) : Action Response := do
  let store ← segment store
  let product ← segment product
  let price ← readBody priceReader q
  let store ← parseId "store id" store
  let product ← parseId "product id" product
  let price ← price.check
  let _ ← perform (Catalogue.updatePrice store product price)
  showProduct store product

/-- Takes a product off sale. -/
def deactivateProduct (store product : String) : Action Response := do
  let store ← segment store
  let product ← segment product
  let store ← parseId "store id" store
  let product ← parseId "product id" product
  perform (Catalogue.deactivateProduct store product)
  showProduct store product

/-- Adds stock of a product. -/
def addInventory (store product : String) (q : Request) : Action Response := do
  let store ← segment store
  let product ← segment product
  let quantity ← readBody quantityReader q
  let store ← parseId "store id" store
  let product ← parseId "product id" product
  return ok (levelView product (← perform (Catalogue.addInventory store product quantity)))

/-! ### Customers -/

/-- Registers a customer. -/
def register (supply : Supply) (q : Request) : Action Response := do
  let new ← readBody NewCustomer.reader q
  return created (customerView
    (← perform (Accounts.register supply new.email new.firstName new.lastName)))

/-- Shows a customer. -/
def showCustomer (id : String) : Action Response := do
  let id ← parseId "customer id" (← segment id)
  return ok (customerView (← (← repositories).findCustomer id))

/-- Takes down how a customer can be reached. -/
def updateContact (id : String) (q : Request) : Action Response := do
  let id ← segment id
  let contact ← readBody Contact.reader q
  let id ← parseId "customer id" id
  let address ← contact.address.check
  return ok (customerView (← perform (Accounts.updateContact id contact.phoneNumber address)))

/-- Spends points. -/
def redeem (id : String) (q : Request) : Action Response := do
  let id ← segment id
  let points ← readBody pointsReader q
  let id ← parseId "customer id" id
  return ok (customerView (← perform (Accounts.redeemPoints id points)))

/-- Closes an account. -/
def deactivateCustomer (id : String) : Action Response := do
  let id ← parseId "customer id" (← segment id)
  return ok (customerView (← perform (Accounts.deactivate id)))

/-! ### Orders -/

/-- A line of an order to be placed. -/
def requestedLine (l : NewLine) : Except Refusal RequestedLine := do
  return ⟨← parseId "product_id" l.productId, l.quantity⟩

/-- The lines of an order to be placed. -/
def requestedLines (items : List NewLine) : Except Refusal (List RequestedLine) :=
  items.mapM requestedLine

/-- Places an order. -/
def createOrder (supply : Supply) (q : Request) : Action Response := do
  let new ← readBody NewOrder.reader q
  let customer ← parseId "customer_id" new.customerId
  let store ← parseId "store_id" new.storeId
  let lines ← requestedLines new.items
  let order ← perform (Ordering.createOrder supply customer store lines)
  return created (← orderView order)

/-- Shows an order. -/
def showOrder (id : String) : Action Response := do
  let id ← parseId "order id" (← segment id)
  return ok (← orderView (← (← repositories).findOrder id))

/-- The status that a query asks for. -/
def queryStatus (raw : Option String) : Except Refusal (Option OrderStatus) :=
  match raw with
  | none => .ok none
  | some raw =>
    match OrderStatus.parse? raw with
    | some s => .ok (some s)
    | none => .error (.badRequest (OrderStatus.unknown raw))

/-- The orders that a query asks for, by customer, by status or by both. -/
def queryOrders (r : Repositories) (customer : Option String) (status : Option OrderStatus) :
    Except Refusal (List Order) :=
  match customer, status with
  | some raw, status => do
    let orders := r.ordersOfCustomer (← parseId "customer_id" raw)
    return orders.filter fun o => (status.map (o.status == ·)).getD true
  | none, some s => .ok (r.ordersOfStatus s)
  | none, none => .error (.badRequest "customer_id or status query parameter is required")

/-- Shows the orders that a query asks for. -/
def listOrders (q : Request) : Action Response := do
  let customer ← queryField q "customer_id"
  let status ← queryField q "status"
  let status ← queryStatus status
  let orders ← queryOrders (← repositories) customer status
  return ok (← orderViews orders)

/-- Why an order is cancelled that nobody gave a reason for. -/
def defaultReason : String := "cancelled by request"

/-- Cancels an order. -/
def cancelOrder (id : String) (q : Request) : Action Response := do
  let id ← segment id
  let given ← readOptionalBody reasonReader q
  let id ← parseId "order id" id
  let reason := (given.filter fun reason => !Text.isBlank reason).getD defaultReason
  return ok (← cancellationView (← perform (Ordering.cancelOrder id reason)))

/-- Takes an order one step on. -/
def advanceOrder (supply : Supply) (id : String) (transition : OrderTransition) :
    Action Response := do
  let id ← parseId "order id" (← segment id)
  return ok (← orderView (← perform (Ordering.advanceOrder supply id transition)))

/-! ### Everything together -/

/-- Says that the service is there. -/
def health : Response := ok (.obj [("status", .str "ok"), ("version", .str "0.1.0")])

/-- Shows the counters. -/
def showMetrics : Action Response := do return ⟨200, .lines (← getThe Backend).metrics.lines⟩

/-- What a method does about a resource, if it can do anything. -/
def action? (supply : Supply) (currency : String) (q : Request) (method : Method) :
    Resource → Option (Action Response)
  | .health => if method = .get then some (pure health) else none
  | .metrics => if method = .get then some showMetrics else none
  | .stores =>
    if method = .get then some listStores
    else if method = .post then some (createStore supply currency q) else none
  | .store id => if method = .get then some (showStore id) else none
  | .products id => if method = .post then some (addProduct supply id q) else none
  | .price id p => if method = .put then some (updatePrice id p q) else none
  | .productDeactivation id p => if method = .post then some (deactivateProduct id p) else none
  | .inventory id p => if method = .post then some (addInventory id p q) else none
  | .customers => if method = .post then some (register supply q) else none
  | .customer id => if method = .get then some (showCustomer id) else none
  | .contact id => if method = .put then some (updateContact id q) else none
  | .redemption id => if method = .post then some (redeem id q) else none
  | .customerDeactivation id => if method = .post then some (deactivateCustomer id) else none
  | .orders =>
    if method = .get then some (listOrders q)
    else if method = .post then some (createOrder supply q) else none
  | .order id => if method = .get then some (showOrder id) else none
  | .cancellation id => if method = .post then some (cancelOrder id q) else none
  | .preparation id =>
    if method = .post then some (advanceOrder supply id .startPreparing) else none
  | .readiness id => if method = .post then some (advanceOrder supply id .markReady) else none
  | .completion id => if method = .post then some (advanceOrder supply id .complete) else none

/-- What is done about a request: what a method without an effect of its own would do is
found under the method that it stands for. -/
def action (supply : Supply) (currency : String) (q : Request) : Action Response :=
  match Resource.find? q.target.segments with
  | none => throw (.bare 404)
  | some resource =>
    let method := if q.method = .head then .get else q.method
    match action? supply currency q method resource with
    | some h => h
    | none => throw (.bare 405)

namespace App

/-- The service before anything has happened. -/
def start (defaultCurrency : String) : App := ⟨.empty, defaultCurrency, 0⟩

/-- What is done about a request with a supply of identifiers, and the backend that it leaves. -/
def outcome (app : App) (supply : Supply) (q : Request) : Except Refusal Response × Backend :=
  (action supply app.defaultCurrency q).run app.backend

/-- A response as it is sent: to a request for its head, without a body. -/
def sent (q : Request) (r : Response) : Response :=
  if q.method = .head then { r with body := .empty } else r

/-- Answers a request with a supply of identifiers.  Any path may be asked what can be done about
it, and is answered without a body. -/
def answer (app : App) (supply : Supply) (q : Request) : Response × App :=
  if q.method = .options then (⟨200, .empty⟩, app)
  else
    let (result, backend) := app.outcome supply q
    let response := match result with
      | .ok r => r
      | .error e => e.response
    (sent q response, { app with backend := backend.settle, next := app.next + 1 })

/-- Answers a request with the next supply of identifiers. -/
def respond (app : App) (q : Request) : Response × App := app.answer (.nth app.next) q

end App

end Storefront.Http
