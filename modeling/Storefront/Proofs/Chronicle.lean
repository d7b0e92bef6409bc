import Storefront.Proofs.Effect
import Storefront.Proofs.OrderView

/-! # Logs that tell how everything has come about

A log is a chronicle of the repositories (`Chronicle`) if what it tells of a store or of an
order, taken out of it and replayed, leads to a view of the store or the order as it is kept,
and if it tells of none that is not kept.  A chronicle goes on when something is kept: what is
told then has to take the view before to the view after, and to concern nothing else
(`Chronicle.saveStore`, `Chronicle.saveOrder`).
-/
namespace Storefront

/-! ### What a log tells of one thing -/

/-- What a log tells of a store. -/
def storeEvents (id : StoreId) (log : List Payload) : List StoreEvent :=
  log.filterMap fun
    | .store e => if e.store = id then some e else none
    | _ => none

/-- What a log tells of an order. -/
def orderEvents (id : OrderId) (log : List Payload) : List OrderEvent :=
  log.filterMap fun
    | .order e => if e.order = id then some e else none
    | _ => none

theorem storeEvents_append (id : StoreId) (log more : List Payload) :
    storeEvents id (log ++ more) = storeEvents id log ++ storeEvents id more :=
  List.filterMap_append ..

theorem orderEvents_append (id : OrderId) (log more : List Payload) :
    orderEvents id (log ++ more) = orderEvents id log ++ orderEvents id more :=
  List.filterMap_append ..

/-- Of events that concern one thing, either all concern what is asked for or none. -/
theorem filterMap_about {α κ : Type} [DecidableEq κ] {about : α → κ} {events : List α} {k : κ}
    (h : ∀ e ∈ events, about e = k) (id : κ) :
    (events.filterMap fun e => if about e = id then some e else none) =
      if id = k then events else [] := by
  induction events with
  | nil => exact (ite_self _).symm
  | cons e rest ih =>
    have he := h e (List.mem_cons_self ..)
    have hrest := ih fun e he => h e (List.mem_cons_of_mem _ he)
    rw [List.filterMap_cons, hrest, he]
    by_cases hid : id = k
    · rw [if_pos hid, if_pos hid, if_pos hid.symm]
    · rw [if_neg hid, if_neg hid, if_neg (Ne.symm hid)]

theorem storeEvents_map_store {events : List StoreEvent} {k : StoreId}
    (h : ∀ e ∈ events, e.store = k) (id : StoreId) :
    storeEvents id (events.map .store) = if id = k then events else [] := by
  rw [storeEvents, List.filterMap_map]
  exact filterMap_about h id

theorem orderEvents_map_order {events : List OrderEvent} {k : OrderId}
    (h : ∀ e ∈ events, e.order = k) (id : OrderId) :
    orderEvents id (events.map .order) = if id = k then events else [] := by
  rw [orderEvents, List.filterMap_map]
  exact filterMap_about h id

theorem storeEvents_map_order (id : StoreId) (events : List OrderEvent) :
    storeEvents id (events.map .order) = [] := by
  rw [storeEvents, List.filterMap_map, List.filterMap_eq_nil_iff]
  exact fun _ _ => rfl

theorem orderEvents_map_store (id : OrderId) (events : List StoreEvent) :
    orderEvents id (events.map .store) = [] := by
  rw [orderEvents, List.filterMap_map, List.filterMap_eq_nil_iff]
  exact fun _ _ => rfl

theorem events_map_customer (events : List CustomerEvent) :
    (∀ id, storeEvents id (events.map .customer) = []) ∧
      ∀ id, orderEvents id (events.map .customer) = [] := by
  constructor
  · intro id
    rw [storeEvents, List.filterMap_map, List.filterMap_eq_nil_iff]
    exact fun _ _ => rfl
  · intro id
    rw [orderEvents, List.filterMap_map, List.filterMap_eq_nil_iff]
    exact fun _ _ => rfl

/-! ### Replaying on -/

theorem StoreView.replay_append {events more : List StoreEvent} {v : StoreView}
    (h : replay events = some v) : replay (events ++ more) = more.foldlM apply v := by
  unfold replay at h
  split at h
  · rename_i name location currency rest
    show (rest ++ more).foldlM apply _ = _
    rw [List.foldlM_append, h]
    rfl
  · cases h

theorem OrderView.replay_append {events more : List OrderEvent} {v : OrderView}
    (h : replay events = some v) : replay (events ++ more) = more.foldlM apply v := by
  unfold replay at h
  split at h
  · rename_i customer store placedAt rest
    show (rest ++ more).foldlM apply _ = _
    rw [List.foldlM_append, h]
    rfl
  · cases h

/-! ### Tables that can be told of -/

/-- What is told of each key leads to a view of what the table has under it, and nothing is
told of keys that the table does not have. -/
structure Traced {κ α ε V : Type} [DecidableEq κ] (replay : List ε → Option V)
    (Shows : V → α → Prop) (events : κ → List ε) (t : Table κ α) : Prop where
  kept : ∀ key a, t.get? key = some a → ∃ v, replay (events key) = some v ∧ Shows v a
  silent : ∀ key, t.get? key = none → events key = []

namespace Traced

variable {κ α ε V : Type} [DecidableEq κ] {replay : List ε → Option V} {Shows : V → α → Prop}
  {events events' : κ → List ε} {t : Table κ α}

theorem congr (h : Traced replay Shows events t) (he : ∀ key, events' key = events key) :
    Traced replay Shows events' t := by
  obtain rfl : events' = events := funext he
  exact h

/-- **What is told of one key may go on together with what is kept under it.** -/
theorem insert (h : Traced replay Shows events t) {key : κ} {more : List ε} {a : α}
    (he : ∀ k, events' k = events k ++ if k = key then more else [])
    (hview : ∃ v, replay (events key ++ more) = some v ∧ Shows v a) :
    Traced replay Shows events' (t.insert key a) := by
  constructor
  · intro k b hb
    rw [Table.get?_insert] at hb
    rw [he k]
    by_cases hk : k = key
    · rw [if_pos hk] at hb ⊢
      cases hb
      rw [hk]
      exact hview
    · rw [if_neg hk] at hb ⊢
      rw [List.append_nil]
      exact h.kept k b hb
  · intro k hn
    rw [Table.get?_insert] at hn
    by_cases hk : k = key
    · rw [if_pos hk] at hn
      cases hn
    · rw [if_neg hk] at hn
      rw [he k, if_neg hk, h.silent k hn]
      rfl

/-- **What is kept under a key may come to be something else while more is told of it.** -/
theorem follow {t' : Table κ α} (h : Traced replay Shows events t) (more : κ → List ε)
    (he : ∀ key, events' key = events key ++ more key)
    (hnone : ∀ key, t.get? key = none → t'.get? key = none ∧ more key = [])
    (hsome : ∀ key a v, t.get? key = some a → replay (events key) = some v → Shows v a →
      ∃ a', t'.get? key = some a' ∧
        ∃ v', replay (events key ++ more key) = some v' ∧ Shows v' a') :
    Traced replay Shows events' t' := by
  constructor
  · intro key a' ha'
    cases hget : t.get? key with
    | none =>
      rw [(hnone key hget).1] at ha'
      cases ha'
    | some a =>
      obtain ⟨v, hreplay, hv⟩ := h.kept key a hget
      obtain ⟨a'', hget', hview⟩ := hsome key a v hget hreplay hv
      rw [he key]
      rw [hget'] at ha'
      cases ha'
      exact hview
  · intro key hget'
    cases hget : t.get? key with
    | none => rw [he key, h.silent key hget, (hnone key hget).2, List.append_nil]
    | some a =>
      obtain ⟨v, hreplay, hv⟩ := h.kept key a hget
      obtain ⟨a'', hkept, _⟩ := hsome key a v hget hreplay hv
      rw [hget'] at hkept
      cases hkept

end Traced

/-! ### Chronicles -/

/-- **The log tells how every store and every order has come about**, and of no others. -/
structure Chronicle (log : List Payload) (r : Repositories) : Prop where
  stores : Traced StoreView.replay StoreView.Shows (storeEvents · log) r.stores
  orders : Traced OrderView.replay OrderView.Shows (orderEvents · log) r.orders

namespace Chronicle

variable {log : List Payload} {r r' : Repositories}

theorem empty : Chronicle [] Repositories.empty := by
  refine ⟨⟨fun id s hs => ?_, fun _ _ => rfl⟩, ⟨fun id o ho => ?_, fun _ _ => rfl⟩⟩
  · cases hs
  · cases ho

/-- What is told of neither stores nor orders, and what is done to neither, makes no
difference. -/
theorem of_eq (h : Chronicle log r) {more : List Payload} (hstores : r'.stores = r.stores)
    (horders : r'.orders = r.orders) (hs : ∀ id, storeEvents id more = [])
    (ho : ∀ id, orderEvents id more = []) : Chronicle (log ++ more) r' := by
  constructor
  · rw [hstores]
    refine h.stores.congr fun id => ?_
    rw [storeEvents_append, hs, List.append_nil]
  · rw [horders]
    refine h.orders.congr fun id => ?_
    rw [orderEvents_append, ho, List.append_nil]

theorem customers (h : Chronicle log r) (events : List CustomerEvent)
    (hstores : r'.stores = r.stores) (horders : r'.orders = r.orders) :
    Chronicle (log ++ events.map .customer) r' :=
  have hnone := events_map_customer events
  h.of_eq hstores horders hnone.1 hnone.2

/-- **A store may be kept when what is told of it leads to it.** -/
theorem saveStore (h : Chronicle log r) {s : Store} {events : List StoreEvent}
    (habout : ∀ e ∈ events, e.store = s.id)
    (hview : ∃ v, StoreView.replay (storeEvents s.id log ++ events) = some v ∧ v.Shows s) :
    Chronicle (log ++ events.map .store) (r.saveStore s) := by
  obtain ⟨v, hreplay, hv⟩ := hview
  constructor
  · refine h.stores.insert (fun id => ?_) ⟨v, hreplay, hv.settled⟩
    rw [storeEvents_append, storeEvents_map_store habout]
  · refine h.orders.congr fun id => ?_
    rw [orderEvents_append, orderEvents_map_store, List.append_nil]

/-- **An order may be kept when what is told of it leads to it.** -/
theorem saveOrder (h : Chronicle log r) {o : Order} {events : List OrderEvent}
    (habout : ∀ e ∈ events, e.order = o.id)
    (hview : ∃ v, OrderView.replay (orderEvents o.id log ++ events) = some v ∧ v.Shows o) :
    Chronicle (log ++ events.map .order) (r.saveOrder o) := by
  obtain ⟨v, hreplay, hv⟩ := hview
  constructor
  · refine h.stores.congr fun id => ?_
    rw [storeEvents_append, storeEvents_map_order, List.append_nil]
  · refine h.orders.insert (fun id => ?_) ⟨v, hreplay, hv.settled⟩
    rw [orderEvents_append, orderEvents_map_order habout]

/-- A new store is kept. -/
theorem newStore (h : Chronicle log r) {id : StoreId} {name : String} {location : Address}
    {currency : String} {s : Store} (hs : Store.create id name location currency = .ok s)
    (hnone : r.stores.get? id = none) :
    Chronicle (log ++ [.store (.created id name location s.currency)]) (r.saveStore s) := by
  have hid := (Store.create_eq_ok hs).1
  obtain ⟨hpending, hview⟩ := Store.replay_create hs
  show Chronicle (log ++ [.created id name location s.currency].map .store) _
  refine h.saveStore (fun e he => ?_) ?_
  · rw [List.mem_singleton.mp he]
    exact hid.symm
  · rw [hid, h.stores.silent id hnone, ← hpending]
    exact hview

/-- A store that is kept is kept as what it has come to be. -/
theorem growStore (h : Chronicle log r) {id : StoreId} {s s' : Store}
    {events : List StoreEvent} (hs : r.stores.get? id = some s) (hid : s.id = id)
    (hgrows : s.Grows s' events) : Chronicle (log ++ events.map .store) (r.saveStore s') := by
  have hid' : s'.id = id := hgrows.id_eq.trans hid
  obtain ⟨v, hreplay, hv⟩ := h.stores.kept id s hs
  refine h.saveStore (fun e he => ?_) ?_
  · rw [hgrows.about e he, hid, hid']
  · rw [hid', StoreView.replay_append hreplay]
    exact hgrows.shown v hv

/-- An order that is kept is kept as it is after one more event. -/
theorem moveOrder (h : Chronicle log r) {id : OrderId} {o o' : Order} {e : OrderEvent}
    (ho : r.orders.get? id = some o) (hid : o'.id = id) (habout : e.order = id)
    (hshown : ∀ v : OrderView, v.Shows o → ∃ v', v.apply e = some v' ∧ v'.Shows o') :
    Chronicle (log ++ [.order e]) (r.saveOrder o') := by
  obtain ⟨v, hreplay, hv⟩ := h.orders.kept id o ho
  obtain ⟨v', happly, hv'⟩ := hshown v hv
  show Chronicle (log ++ [e].map .order) _
  refine h.saveOrder (fun e' he' => ?_) ⟨v', ?_, hv'⟩
  · rw [List.mem_singleton.mp he', habout, hid]
  · rw [hid, OrderView.replay_append hreplay]
    show (v.apply e >>= fun v' => some v') = some v'
    rw [happly]
    rfl

end Chronicle

end Storefront
