import Storefront.ErrorKind
import Storefront.Order.Status
import Storefront.Table

/-! # Counters

What the service did is counted.  A counter that was never touched is not shown; the
others are shown in the text format of Prometheus, one family after the other, each
under its description and its type.
-/
namespace Storefront

/-- A thing that is counted. -/
inductive Counter where
  | ordersCreated
  | ordersRejected (reason : ErrorKind)
  | ordersCancelled
  | releaseFailures
  | orderTransitions (transition : OrderTransition)
  | eventsPublished (name : String)
  | handlerFailures (handler : String)
  | pointsAwarded
  deriving DecidableEq

namespace Counter

/-- The name of the family to which the counter belongs. -/
def family : Counter → String
  | ordersCreated => "orders_created_total"
  | ordersRejected _ => "orders_rejected_total"
  | ordersCancelled => "orders_cancelled_total"
  | releaseFailures => "inventory_release_failures_total"
  | orderTransitions _ => "order_transitions_total"
  | eventsPublished _ => "events_published_total"
  | handlerFailures _ => "event_handler_failures_total"
  | pointsAwarded => "loyalty_points_awarded_total"

/-- The description of the family. -/
def help : Counter → String
  | ordersCreated => "Orders confirmed with stock reserved"
  | ordersRejected _ => "Order creations that failed, by reason"
  | ordersCancelled => "Orders cancelled"
  | releaseFailures => "Order lines whose stock could not be released on cancellation"
  | orderTransitions _ => "Lifecycle transitions, by transition"
  | eventsPublished _ => "Domain events handed to the dispatcher"
  | handlerFailures _ => "Event handler invocations that failed or panicked"
  | pointsAwarded => "Loyalty points credited"

/-- What tells the counter from others of its family. -/
def label : Counter → Option (String × String)
  | ordersRejected reason => some ("reason", reason.name)
  | orderTransitions transition => some ("transition", transition.name)
  | eventsPublished name => some ("event", name)
  | handlerFailures handler => some ("handler", handler)
  | ordersCreated | ordersCancelled | releaseFailures | pointsAwarded => none

/-- The line that shows a value of the counter. -/
def sample (c : Counter) (value : Nat) : String :=
  match c.label with
  | none => s!"{c.family} {value}"
  | some (key, name) => c.family ++ "\x7b" ++ s!"{key}=\"{name}\"" ++ "\x7d" ++ s!" {value}"

end Counter

/-- The counters that were touched, with their values. -/
abbrev Metrics := Table Counter Nat

namespace Metrics

/-- The value of a counter. -/
def value (m : Metrics) (c : Counter) : Nat := (m.get? c).getD 0

/-- The counters with one of them raised. -/
def add (m : Metrics) (c : Counter) (n : Nat) : Metrics := m.insert c (m.value c + n)

theorem value_add (m : Metrics) (c d : Counter) (n : Nat) :
    (m.add c n).value d = if d = c then m.value c + n else m.value d := by
  unfold add value
  rw [Table.get?_insert]
  split <;> rfl

/-- The families that were touched, each by one of its counters. -/
def families (m : Metrics) : List Counter :=
  (m.entries.foldl (fun found e =>
    if found.any fun c => c.family == e.1.family then found else found ++ [e.1]) [])

/-- The lines that show every counter that was touched. -/
def lines (m : Metrics) : List String :=
  m.families.flatMap fun c =>
    s!"# HELP {c.family} {c.help}" :: s!"# TYPE {c.family} counter" ::
      (m.entries.filter fun e => e.1.family == c.family).map fun e => e.1.sample e.2

end Metrics

end Storefront
