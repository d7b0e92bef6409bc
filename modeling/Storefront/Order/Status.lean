import Storefront.Text.Ascii

/-! # The life of an order

An order is put together while it is pending, and its lines can change only then.  A
confirmed order holds stock until it is handed over or cancelled:

    pending → confirmed → preparing → ready → completed
    pending, confirmed, preparing → cancelled

`OrderStatus.allowed` is this table; every question about a status is answered from it.
-/
namespace Storefront

/-- Where an order stands in its life. -/
inductive OrderStatus where
  | pending
  | confirmed
  | preparing
  | ready
  | completed
  | cancelled
  deriving DecidableEq, Inhabited

namespace OrderStatus

/-- Every status. -/
def all : List OrderStatus := [pending, confirmed, preparing, ready, completed, cancelled]

/-- The name of the status. -/
def name : OrderStatus → String
  | pending => "PENDING"
  | confirmed => "CONFIRMED"
  | preparing => "PREPARING"
  | ready => "READY"
  | completed => "COMPLETED"
  | cancelled => "CANCELLED"

instance : ToString OrderStatus := ⟨name⟩

/-- The statuses that may come next. -/
def allowed : OrderStatus → List OrderStatus
  | pending => [confirmed, cancelled]
  | confirmed => [preparing, cancelled]
  | preparing => [ready, cancelled]
  | ready => [completed]
  | completed | cancelled => []

/-- Whether the order may move from one status to another. -/
def canMoveTo (s next : OrderStatus) : Bool := s.allowed.contains next

/-- Whether lines may be added and taken away. -/
def canChangeLines (s : OrderStatus) : Bool := s == pending

/-- Whether the order may be cancelled. -/
def canCancel (s : OrderStatus) : Bool := s.canMoveTo cancelled

/-- Whether stock is set aside for the order and has not been handed over. -/
def holdsReservation (s : OrderStatus) : Bool := s == confirmed || s == preparing || s == ready

/-- Whether the order has come to its end. -/
def isTerminal (s : OrderStatus) : Bool := s.allowed.isEmpty

/-- The status of a name, in any case. -/
def parse? (text : String) : Option OrderStatus :=
  all.find? fun s => Text.eqIgnoringCase s.name text

/-- The wording used for a name that no status has. -/
def unknown (text : String) : String := s!"Unknown order status: '{text}'"

end OrderStatus

/-- The steps by which a confirmed order moves on. -/
inductive OrderTransition where
  | startPreparing
  | markReady
  | complete
  deriving DecidableEq

namespace OrderTransition

/-- Every step. -/
def all : List OrderTransition := [startPreparing, markReady, complete]

/-- The name of the step. -/
def name : OrderTransition → String
  | startPreparing => "start_preparing"
  | markReady => "mark_ready"
  | complete => "complete"

/-- The step of a name. -/
def parse? (text : String) : Option OrderTransition := all.find? fun t => t.name == text

end OrderTransition

end Storefront
