import Storefront.Proofs.Soundness
import Storefront.Proofs.StoreView

/-! # Orders as they are told of

A view of an order is kept from what is told of it, as one of a store is.  An event fits if the
order may move on in this way, and if customer, store, total and the status before are the ones
that the view has.  Each way in which an order moves on raises one event, which takes every view
of the order to one of what it is then (`Order.shows_cancel`, `Order.shows_advance`).

An order that is placed raises two events of its own and has its store raise one for each line
that was requested, in turn (`Order.place_tells`), although lines for one product are merged.
-/
namespace Storefront

/-! ### Views of an order -/

/-- What is told of an order. -/
structure OrderView where
  customer : CustomerId
  store : StoreId
  placedAt : Timestamp
  status : OrderStatus
  reason : Option String
  /-- What the order comes to, once it is confirmed. -/
  total : Option Money
  lines : List LineSnapshot
  deriving DecidableEq

namespace OrderView

/-- The view of an order that moves to another status, if it may. -/
def moveTo (v : OrderView) (next : OrderStatus) : Option OrderView :=
  if v.status.canMoveTo next then some { v with status := next } else none

/-- The view after one more event, if the event fits the view. -/
def apply (v : OrderView) : OrderEvent → Option OrderView
  | .created .. => none
  | .confirmed _ customer store total items =>
    if v.customer = customer ∧ v.store = store then
      { v with total := some total, lines := items }.moveTo .confirmed
    else none
  | .cancelled _ customer store reason previous =>
    if v.customer = customer ∧ v.store = store ∧ v.status = previous then
      { v with reason := some reason }.moveTo .cancelled
    else none
  | .preparationStarted _ store => if v.store = store then v.moveTo .preparing else none
  | .ready _ customer => if v.customer = customer then v.moveTo .ready else none
  | .completed _ customer total _ =>
    if v.customer = customer ∧ v.total = some total then v.moveTo .completed else none

/-- The view after some events, of which the first has to be that the order was created. -/
def replay : List OrderEvent → Option OrderView
  | .created _ customer store placedAt :: rest =>
    rest.foldlM apply ⟨customer, store, placedAt, .pending, none, none, []⟩
  | _ => none

/-- The view shows an order as it is, but for the identifiers of its lines. -/
structure Shows (v : OrderView) (o : Order) : Prop where
  customer : v.customer = o.customerId
  store : v.store = o.storeId
  placedAt : v.placedAt = o.placedAt
  status : v.status = o.status
  reason : v.reason = o.cancellationReason
  total : v.total = some o.total
  lines : o.snapshots = .ok v.lines

theorem Shows.settled {v : OrderView} {o : Order} (h : v.Shows o) : v.Shows o.settled :=
  ⟨h.customer, h.store, h.placedAt, h.status, h.reason, h.total, h.lines⟩

end OrderView

/-! ### Moving on -/

/-- What is told of a confirmed order that moves on. -/
def Order.progress (o : Order) (now : Timestamp) : OrderTransition → OrderEvent
  | .startPreparing => .preparationStarted o.id o.storeId
  | .markReady => .ready o.id o.customerId
  | .complete => .completed o.id o.customerId o.total now

/-- The event tells that stock has been set aside for a requested line. -/
def StoreEvent.Reserves (store : StoreId) (l : RequestedLine) (e : StoreEvent) : Prop :=
  ∃ remaining, e = .inventoryReserved store l.product l.quantity remaining

namespace Order

/-- What has been agreed on when an order was placed is the same in both orders. -/
structure SameTerms (o o' : Order) : Prop where
  id : o'.id = o.id
  customer : o'.customerId = o.customerId
  store : o'.storeId = o.storeId
  lines : o'.lines = o.lines
  total : o'.total = o.total
  placedAt : o'.placedAt = o.placedAt

theorem SameTerms.refl (o : Order) : SameTerms o o := ⟨rfl, rfl, rfl, rfl, rfl, rfl⟩

theorem SameTerms.trans {o o' o'' : Order} (h : SameTerms o o') (h' : SameTerms o' o'') :
    SameTerms o o'' :=
  ⟨h'.id.trans h.id, h'.customer.trans h.customer, h'.store.trans h.store,
    h'.lines.trans h.lines, h'.total.trans h.total, h'.placedAt.trans h.placedAt⟩

variable {o o' : Order} {v : OrderView}

/-- The view of an order moves when the order does. -/
theorem shows_moveTo {next : OrderStatus} (hv : v.Shows o) (h : o.status.canMoveTo next = true)
    (events : List OrderEvent) :
    ∃ v', v.moveTo next = some v' ∧ v'.Shows { o with status := next, pending := events } := by
  refine ⟨{ v with status := next }, ?_, ?_⟩
  · unfold OrderView.moveTo
    rw [hv.status, if_pos h]
  · exact ⟨hv.customer, hv.store, hv.placedAt, rfl, hv.reason, hv.total, hv.lines⟩

/-- **A cancellation is told of**, with the status before it. -/
theorem shows_cancel {reason : String} (h : o.cancel reason = .ok o') (hv : v.Shows o) :
    ∃ v', v.apply (.cancelled o.id o.customerId o.storeId reason o.status) = some v' ∧
      v'.Shows o' := by
  obtain ⟨hmove, rfl⟩ := cancel_eq_ok_iff.mp h
  have hreason : OrderView.Shows { v with reason := some reason }
      { o with cancellationReason := some reason } :=
    ⟨hv.customer, hv.store, hv.placedAt, hv.status, rfl, hv.total, hv.lines⟩
  show ∃ v', (if v.customer = o.customerId ∧ v.store = o.storeId ∧ v.status = o.status then
    { v with reason := some reason }.moveTo .cancelled else none) = some v' ∧ _
  rw [if_pos ⟨hv.customer, hv.store, hv.status⟩]
  exact shows_moveTo hreason hmove _

/-- **Each step by which a confirmed order moves on is told of.** -/
theorem shows_advance {now : Timestamp} {transition : OrderTransition}
    (h : o.advance now transition = .ok o') :
    o'.pending = o.pending ++ [o.progress now transition] ∧
      ∀ v : OrderView, v.Shows o →
        ∃ v', v.apply (o.progress now transition) = some v' ∧ v'.Shows o' := by
  cases transition with
  | startPreparing =>
    obtain ⟨_, hmove, he⟩ := bind_eq_ok_iff.mp h
    cases he
    refine ⟨rfl, fun v hv => ?_⟩
    show ∃ v', (if v.store = o.storeId then v.moveTo .preparing else none) = some v' ∧ _
    rw [if_pos hv.store]
    exact shows_moveTo hv (ensureMove_eq_ok_iff.mp hmove) _
  | markReady =>
    obtain ⟨_, hmove, he⟩ := bind_eq_ok_iff.mp h
    cases he
    refine ⟨rfl, fun v hv => ?_⟩
    show ∃ v', (if v.customer = o.customerId then v.moveTo .ready else none) = some v' ∧ _
    rw [if_pos hv.customer]
    exact shows_moveTo hv (ensureMove_eq_ok_iff.mp hmove) _
  | complete =>
    obtain ⟨_, hmove, he⟩ := bind_eq_ok_iff.mp h
    cases he
    refine ⟨rfl, fun v hv => ?_⟩
    show ∃ v', (if v.customer = o.customerId ∧ v.total = some o.total then v.moveTo .completed
      else none) = some v' ∧ _
    rw [if_pos ⟨hv.customer, hv.total⟩]
    exact shows_moveTo hv (ensureMove_eq_ok_iff.mp hmove) _

/-! ### Placing -/

/-- Adding a line changes the lines and the total alone. -/
theorem addLine_frame {fresh id : LineId} {product : ProductId} {name : String}
    {quantity : Count} {price : Money}
    (h : o.addLine fresh product name quantity price = .ok (id, o')) :
    o' = { o with lines := o'.lines, total := o'.total } := by
  unfold addLine at h
  obtain ⟨_, _, h⟩ := bind_eq_ok_iff.mp h
  split at h
  · cases h
  · obtain ⟨placed, _, h⟩ := bind_eq_ok_iff.mp h
    obtain ⟨o'', ho, h⟩ := bind_eq_ok_iff.mp h
    unfold withLines at ho
    obtain ⟨total, _, ho⟩ := bind_eq_ok_iff.mp ho
    cases ho
    cases h
    rfl

/-- **Filling lines tells of each line that is filled**, in turn. -/
theorem fillLines_tells {s s' : Store} {lines : List (LineId × RequestedLine)}
    (h : o.fillLines s lines = .ok (o', s')) :
    o' = { o with lines := o'.lines, total := o'.total } ∧
      ∃ events, s.Grows s' events ∧
        List.Forall₂ (StoreEvent.Reserves s.id) (lines.map Prod.snd) events := by
  induction lines generalizing o s with
  | nil =>
    cases h
    exact ⟨rfl, [], .refl _, .nil⟩
  | cons n rest ih =>
    obtain ⟨fresh, l⟩ := n
    obtain ⟨⟨o₁, s₁⟩, hone, hrest⟩ := bind_eq_ok_iff.mp h
    obtain ⟨p, _, hone⟩ := bind_eq_ok_iff.mp hone
    obtain ⟨s₂, hreserve, hone⟩ := bind_eq_ok_iff.mp hone
    obtain ⟨⟨id, o₂⟩, hadd, he⟩ := bind_eq_ok_iff.mp hone
    cases he
    rw [liftM_store, mapError_eq_ok_iff] at hreserve
    rw [liftM_order, mapError_eq_ok_iff] at hadd
    obtain ⟨remaining, hgrows⟩ := Store.grows_reserve hreserve
    obtain ⟨hframe, events, hgrows', htold⟩ := ih hrest
    rw [hgrows.id_eq] at htold
    refine ⟨?_, _, hgrows.trans hgrows', .cons ⟨remaining, rfl⟩ htold⟩
    rw [hframe, addLine_frame hadd]

/-- A confirmation is told of, with the total and all lines. -/
theorem confirm_eq_ok (h : o.confirm = .ok o') :
    o.status.canMoveTo .confirmed = true ∧ ∃ items, o.snapshots = .ok items ∧
      o' = { o with
        status := .confirmed
        pending := o.pending ++ [.confirmed o.id o.customerId o.storeId o.total items] } := by
  unfold confirm at h
  obtain ⟨_, hmove, h⟩ := bind_eq_ok_iff.mp h
  split at h
  · cases h
  · obtain ⟨items, hitems, he⟩ := bind_eq_ok_iff.mp h
    cases he
    exact ⟨ensureMove_eq_ok_iff.mp hmove, items, mapError_eq_ok_iff.mp hitems, rfl⟩

/-- An order that has been filled can be told of once it is confirmed. -/
theorem replay_confirmed {id : OrderId} {customer : CustomerId} {store : StoreId}
    {now : Timestamp} {total : Money} (hframe : o = ⟨id, customer, store, o.lines, .pending, total,
      now, none, [.created id customer store now]⟩) (h : o.confirm = .ok o') :
    o'.id = id ∧ (∃ items, o'.snapshots = .ok items ∧ o'.pending =
        [.created id customer store now, .confirmed id customer store o'.total items]) ∧
      ∃ v, OrderView.replay o'.pending = some v ∧ v.Shows o' := by
  obtain ⟨_, items, hitems, rfl⟩ := confirm_eq_ok h
  generalize o.lines = lines at hframe
  subst hframe
  refine ⟨rfl, ⟨items, hitems, rfl⟩, ⟨customer, store, now, .confirmed, none, some total, items⟩, ?_, ?_⟩
  · simp [OrderView.replay, OrderView.apply, OrderView.moveTo, OrderStatus.canMoveTo,
      OrderStatus.allowed]
  · exact ⟨rfl, rfl, rfl, rfl, rfl, rfl, hitems⟩

/-- **An order that is placed is told of as created and as confirmed**, and its store tells of
each line that was requested. -/
theorem place_tells {id : OrderId} {fresh : Nat → LineId} {now : Timestamp}
    {customer : CustomerId} {s s' : Store} {lines : List RequestedLine}
    (h : place id fresh now customer s lines = .ok (o, s')) :
    o.id = id ∧ (∃ items, o.snapshots = .ok items ∧ o.pending =
        [.created id customer s.id now, .confirmed id customer s.id o.total items]) ∧
      (∃ v, OrderView.replay o.pending = some v ∧ v.Shows o) ∧
      ∃ events, s.Grows s' events ∧ List.Forall₂ (StoreEvent.Reserves s.id) lines events := by
  obtain ⟨o₀, hcreate, h⟩ := bind_eq_ok_iff.mp h
  obtain ⟨⟨o₁, s₁⟩, hfill, h⟩ := bind_eq_ok_iff.mp h
  obtain ⟨o₂, hconfirm, he⟩ := bind_eq_ok_iff.mp h
  cases he
  rw [liftM_order, mapError_eq_ok_iff] at hcreate hconfirm
  obtain ⟨total, _, he⟩ := bind_eq_ok_iff.mp hcreate
  cases he
  obtain ⟨hframe, events, hgrows, htold⟩ := fillLines_tells hfill
  have htold : List.Forall₂ (StoreEvent.Reserves s.id)
    ((numbered fresh lines).map Prod.snd) events := htold
  rw [map_snd_numbered] at htold
  obtain ⟨hid, hpending, hview⟩ := replay_confirmed hframe hconfirm
  exact ⟨hid, hpending, hview, events, hgrows, htold⟩

end Order

end Storefront
