import Storefront.Proofs.Flow

/-! # What a cancellation puts back

Whether a line can be put back is decided by its own product alone: it cannot if the product
is no longer sold, or if the level would no longer be a count.  Since no product stands on
two lines, putting one line back makes no difference to the others (`Store.release_exact`);
and since products never leave a catalogue and no line is for nothing, there is no third
reason.  `Repositories.cancelOrder_spec` decides every cancellation: there is no such order,
the order cannot be cancelled any more, or it leaves what `Repositories.Cancels` says.
-/
namespace Storefront

/-! ### Line by line -/

namespace Store

variable {s s' : Store} {l k : OrderLine}

/-- Whether the store has a product that it no longer sells. -/
def retired (s : Store) (id : ProductId) : Bool := (s.products.get? id).any fun p => !p.active

/-- Whether a line cannot be put back: its product is no longer sold, or there would be more
of it than a count can say. -/
def stuck (s : Store) (l : OrderLine) : Bool :=
  s.retired l.productId || decide (UInt32.size ≤ s.stock l.productId + l.quantity.toNat)

/-- Why a line that is stuck cannot be put back. -/
def stuckError (s : Store) (l : OrderLine) : StoreError :=
  if s.retired l.productId then .productInactive l.productId else .inventoryOverflow l.productId

/-- **A line of a product that there is can be put back unless it is stuck.** -/
theorem addInventory_line (hs : s.Sound) (hp : l.productId ∈ s.products.keys)
    (hq : l.quantity ≠ 0) :
    if s.stuck l then s.addInventory l.productId l.quantity = .error (s.stuckError l)
    else ∃ s', s.addInventory l.productId l.quantity = .ok s' := by
  obtain ⟨p, hget⟩ : ∃ p, s.products.get? l.productId = some p :=
    Option.ne_none_iff_exists'.mp fun hn => Table.get?_eq_none_iff.mp hn hp
  obtain ⟨level, hlevel⟩ := hs.level hget
  have hretired : s.retired l.productId = !p.active := by
    rw [retired, hget]
    rfl
  unfold stuck stuckError addInventory levelFor activeProduct product
  rw [hretired, stock_of_level hlevel, hget, if_neg hq]
  cases ha : p.active with
  | false => simp [ha]
  | true =>
    have havail : s.available l.productId = .ok level := available_eq_ok_iff.mpr hlevel
    simp only [ok_bind, ha, havail, if_true, pure_eq_ok, Bool.not_true, Bool.false_or,
      decide_eq_true_eq, Bool.false_eq_true, if_false]
    by_cases hover : UInt32.size ≤ level.toNat + l.quantity.toNat
    · rw [if_pos hover, Count.add?, if_neg (Nat.not_lt.mpr hover)]
      rfl
    · rw [if_neg hover, Count.add?, if_pos (Nat.not_le.mp hover)]
      exact ⟨_, rfl⟩

/-- Putting another product back makes no difference to a line. -/
theorem stuck_of_addInventory (h : s.addInventory l.productId l.quantity = .ok s')
    (hne : k.productId ≠ l.productId) :
    s'.stuck k = s.stuck k ∧ s'.stuckError k = s.stuckError k := by
  have hstock := stock_addInventory h k.productId
  rw [if_neg (Ne.symm hne), Nat.add_zero] at hstock
  have hretired : s'.retired k.productId = s.retired k.productId := by
    rw [retired, retired, (addInventory_sameCatalogue h).products_eq]
  exact ⟨by rw [stuck, stuck, hretired, hstock], by rw [stuckError, stuckError, hretired]⟩

/-- **Lines of different products are put back or fail independently of each other**: those
that are stuck fail, all others are put back, both in the order of the lines. -/
theorem release_exact {lines : List OrderLine} (hs : s.Sound)
    (hn : (lines.map (·.productId)).Nodup) (hq : ∀ l ∈ lines, l.quantity ≠ 0)
    (hp : ∀ l ∈ lines, l.productId ∈ s.products.keys) :
    (s.release lines).2.1 = (lines.filter fun l => !s.stuck l).map OrderLine.release ∧
      (s.release lines).2.2 = (lines.filter s.stuck).map fun l =>
        l.release.fail (s.stuckError l).message := by
  induction lines generalizing s with
  | nil => exact ⟨rfl, rfl⟩
  | cons l rest ih =>
    rw [List.map_cons, List.nodup_cons] at hn
    have hq' : ∀ k ∈ rest, k.quantity ≠ 0 := fun k hk => hq k (List.mem_cons_of_mem _ hk)
    have hp' : ∀ k ∈ rest, k.productId ∈ s.products.keys := fun k hk =>
      hp k (List.mem_cons_of_mem _ hk)
    have hne : ∀ k ∈ rest, k.productId ≠ l.productId := fun k hk he =>
      hn.1 (List.mem_map.mpr ⟨k, hk, he⟩)
    have hline := addInventory_line hs (hp l (List.mem_cons_self ..)) (hq l (List.mem_cons_self ..))
    rw [release]
    cases hstuck : s.stuck l with
    | true =>
      rw [hstuck, if_pos rfl] at hline
      obtain ⟨hreleased, hfailed⟩ := ih hs hn.2 hq' hp'
      rw [hline, List.filter_cons_of_neg (by simp [hstuck]), List.filter_cons_of_pos hstuck,
        List.map_cons, ← hreleased, ← hfailed]
      exact ⟨rfl, rfl⟩
    | false =>
      rw [hstuck, if_neg Bool.noConfusion] at hline
      obtain ⟨s', hs'⟩ := hline
      have hcat := addInventory_sameCatalogue hs'
      obtain ⟨hreleased, hfailed⟩ := ih (hs.of_sameCatalogue hcat) hn.2 hq'
        (by rw [hcat.products_eq]; exact hp')
      -- the lines behind this one are as stuck as they were
      have hsame : ∀ k ∈ rest, s'.stuck k = s.stuck k ∧ s'.stuckError k = s.stuckError k :=
        fun k hk => stuck_of_addInventory hs' (hne k hk)
      have hfree : rest.filter (fun k => !s'.stuck k) = rest.filter fun k => !s.stuck k :=
        List.filter_congr fun k hk => by rw [(hsame k hk).1]
      have hheld : rest.filter s'.stuck = rest.filter s.stuck :=
        List.filter_congr fun k hk => (hsame k hk).1
      rw [hfree] at hreleased
      rw [hheld] at hfailed
      have hmessages : (rest.filter s.stuck).map (fun k => k.release.fail (s'.stuckError k).message)
          = (rest.filter s.stuck).map fun k => k.release.fail (s.stuckError k).message :=
        List.map_congr_left fun k hk => by rw [(hsame k (List.mem_filter.mp hk).1).2]
      rw [hs', List.filter_cons_of_pos (by simp [hstuck]),
        List.filter_cons_of_neg (by simp [hstuck]), List.map_cons, ← hmessages, ← hreleased,
        ← hfailed]
      exact ⟨rfl, rfl⟩

end Store

/-! ### A whole cancellation -/

namespace Repositories

variable {r r' : Repositories} {used : List Uuid} {id : OrderId} {reason : String}

/-- **What is put back when an order is cancelled that holds stock.**  Each line is put back
or fails, as it is stuck or not in the store as it is then; the level of each product that is
put back rises by what its line asks for, and nothing else of the store changes. -/
structure PutsBack (r r' : Repositories) (o : Order) (c : Cancellation) (s s' : Store) :
    Prop where
  store_eq : r.stores.get? o.storeId = some s
  stores_eq : r'.stores = r.stores.insert o.storeId s'
  /-- Nothing of the store but its levels may have changed. -/
  store_frame : s' = { s with inventory := s'.inventory }
  levels_eq : s'.inventory.keys = s.inventory.keys
  released_eq : c.released = (o.lines.filter fun l => !s.stuck l).map OrderLine.release
  failed_eq : c.failed =
    (o.lines.filter s.stuck).map fun l => l.release.fail (s.stuckError l).message
  stock_released : ∀ l ∈ o.lines, s.stuck l = false →
    s'.stock l.productId = s.stock l.productId + l.quantity.toNat
  stock_other : ∀ p, (∀ l ∈ o.lines, s.stuck l = false → l.productId ≠ p) →
    s'.stock p = s.stock p

/-- **What a cancellation leaves.**  The order is cancelled, with the reason, and otherwise as
it was; stock is put back if the order held any. -/
structure Cancels (r r' : Repositories) (id : OrderId) (reason : String) (o : Order)
    (c : Cancellation) : Prop where
  order_eq : r.orders.get? id = some o
  cancelled_eq : c.order = { o with status := .cancelled, cancellationReason := some reason }
  orders_eq : r'.orders = r.orders.insert id c.order
  customers_eq : r'.customers = r.customers
  nothing_held : o.status.holdsReservation = false →
    r'.stores = r.stores ∧ c.released = [] ∧ c.failed = []
  held : o.status.holdsReservation = true → ∃ s s', r.PutsBack r' o c s s'

/-- Putting the lines of a backed order back is what `PutsBack` says. -/
theorem putsBack_of_release {o : Order} {s : Store} (hr : r.Sound) (ho : r.Backs o)
    (hs : r.stores.get? o.storeId = some s) (hr' : r'.stores = r.stores.insert o.storeId
      (s.release o.lines).1.settled) {c : Cancellation}
    (hreleased : c.released = (s.release o.lines).2.1)
    (hfailed : c.failed = (s.release o.lines).2.2) :
    r.PutsBack r' o c s (s.release o.lines).1.settled := by
  have hsound := (hr.store _ s hs).2
  have hnews := hr.storeNews _ s hs
  have hproducts : ∀ l ∈ o.lines, l.productId ∈ s.products.keys := by
    obtain ⟨t, ht, hall⟩ := ho.store
    rw [hs] at ht
    cases ht
    exact hall
  obtain ⟨hout, hstuck⟩ := Store.release_exact hsound ho.nodup ho.quantity hproducts
  obtain ⟨hcat, hstock, _⟩ := s.release_spec o.lines
  -- the lines that are put back are for different products, too
  have hn : (((o.lines.filter fun l => !s.stuck l).map OrderLine.entry).map Prod.fst).Nodup := by
    rw [map_fst_entry]
    exact (List.filter_sublist.map _).nodup ho.nodup
  have hentries : (s.release o.lines).2.1.map Release.entry =
      (o.lines.filter fun l => !s.stuck l).map OrderLine.entry := by
    rw [hout, List.map_map]
    rfl
  refine ⟨hs, hr', ?_, hcat.keys_eq, hreleased.trans hout, hfailed.trans hstuck, ?_, ?_⟩
  · generalize (s.release o.lines).1 = s' at hcat
    obtain ⟨id, name, location, currency, products, inventory, pending⟩ := s
    obtain ⟨rfl, rfl, rfl, rfl, rfl, _⟩ := hcat
    cases hnews
    rfl
  · intro l hl hfree
    show (s.release o.lines).1.stock l.productId = _
    rw [hstock, hentries]
    have hmem : l.entry ∈ (o.lines.filter fun l => !s.stuck l).map OrderLine.entry :=
      List.mem_map.mpr ⟨l, List.mem_filter.mpr ⟨hl, by rw [hfree]; rfl⟩, rfl⟩
    exact congrArg (s.stock l.productId + ·) (tally_of_mem hn hmem)
  · intro p hp
    show (s.release o.lines).1.stock p = _
    rw [hstock, hentries, tally_eq_zero ?_, Nat.add_zero]
    rw [map_fst_entry]
    intro hm
    obtain ⟨l, hl, he⟩ := List.mem_map.mp hm
    obtain ⟨hl, hfree⟩ := List.mem_filter.mp hl
    exact hp l hl (by simpa using hfree) he

/-- The stock of an order goes back to the store that the order names. -/
theorem putBack_of_store {o : Order} {s : Store} (hs : r.stores.get? o.storeId = some s) :
    r.putBack o = (((s.release o.lines).2.1, (s.release o.lines).2.2, (s.release o.lines).1.news),
      r.saveStore (s.release o.lines).1) := by
  rw [putBack, findStore_eq_ok_iff.mpr hs]

theorem cancel_refused {o : Order} (h : o.status.canCancel = false) :
    o.cancel reason = .error (.invalidTransition o.status .cancelled) := by
  unfold Order.cancel Order.ensureMove
  rw [if_neg (by rw [← OrderStatus.canCancel, h]; exact Bool.noConfusion)]
  rfl

/-- What is kept when an order has been cancelled. -/
theorem saveOrder_cancelled {o order : Order} (hid : o.id = id) (hnews : o.pending = [])
    (h : o.cancel reason = .ok order) :
    order.settled = { o with status := .cancelled, cancellationReason := some reason } ∧
      (r.saveOrder order).orders = r.orders.insert id order.settled := by
  obtain ⟨_, rfl⟩ := Order.cancel_eq_ok_iff.mp h
  constructor
  · rw [Order.settled, hnews]
  · exact congrArg (r.orders.insert · _) hid

/-- **What has been put back for an order that was cancelled** is what `PutsBack` says. -/
theorem putsBack_of_cancel {o order : Order} (hr : r.Sound) (ho : r.Backs o)
    (h : o.cancel reason = .ok order) {released : List Release} {failed : List FailedRelease}
    {news : List Payload}
    (hback : (r.saveOrder order).putBack order = ((released, failed, news), r')) :
    r'.orders = (r.saveOrder order).orders ∧ r'.customers = r.customers ∧
      ∃ s s', r.PutsBack r' o ⟨order.settled, released, failed⟩ s s' := by
  have he := (Order.cancel_eq_ok_iff.mp h).2
  have hlines : order.lines = o.lines := by rw [he]
  obtain ⟨s, hs, _⟩ := ho.store
  have hstored : (r.saveOrder order).stores.get? order.storeId = some s := by
    rw [he]
    exact hs
  rw [putBack_of_store hstored, hlines] at hback
  cases hback
  refine ⟨rfl, rfl, s, _, putsBack_of_release hr ho hs ?_ rfl rfl⟩
  -- the store is kept under the identifier that the order names
  have hstore : (s.release o.lines).1.id = o.storeId :=
    (s.release_spec o.lines).1.id_eq.trans (hr.store _ s hs).1
  exact congrArg (r.stores.insert · _) hstore

/-- **An order is cancelled if and only if there is one that is pending, confirmed or being
prepared.** -/
theorem cancelOrder_spec (supply : Supply) (hr : r.WellKept used) (id : OrderId)
    (reason : String) :
    match r.orders.get? id with
    | none => ((Command.cancelOrder id reason).job supply).eval r =
        (.error (.notFound "Order" id.text), r)
    | some o =>
      if o.status.canCancel then
        ∃ c r', ((Command.cancelOrder id reason).job supply).eval r =
          (.ok (.cancellation c), r') ∧ r.Cancels r' id reason o c
      else ((Command.cancelOrder id reason).job supply).eval r =
        (.error (.order (.invalidTransition o.status .cancelled)), r) := by
  rw [Command.job, Job.eval_map, Ordering.eval_cancelOrder, decideCancel, findOrder]
  cases ho : r.orders.get? id with
  | none => rfl
  | some o =>
    obtain ⟨hid, hbacks⟩ := hr.sound.order id o ho
    have hnews := hr.sound.orderNews id o ho
    dsimp only [ok_bind]
    cases hmove : o.status.canCancel with
    | false =>
      rw [cancel_refused hmove]
      rfl
    | true =>
      obtain ⟨order, hcancel⟩ : ∃ order, o.cancel reason = .ok order :=
        ⟨_, Order.cancel_eq_ok_iff.mpr ⟨hmove, rfl⟩⟩
      obtain ⟨hsettled, horders⟩ := saveOrder_cancelled (r := r) hid hnews hcancel
      rw [hcancel, if_pos rfl]
      dsimp only [ok_bind, liftM_order, mapError_ok, pure_eq_ok]
      cases hheld : o.status.holdsReservation with
      | false =>
        refine ⟨_, _, rfl, ho, hsettled, horders, rfl, fun _ => ⟨rfl, rfl, rfl⟩, ?_⟩
        intro h
        rw [hheld] at h
        cases h
      | true =>
        obtain ⟨⟨⟨released, failed, news⟩, r'⟩, hback⟩ :
            ∃ x, (r.saveOrder order).putBack order = x := ⟨_, rfl⟩
        obtain ⟨hsame, hcustomers, hputs⟩ := putsBack_of_cancel hr.sound hbacks hcancel hback
        rw [if_pos rfl, hback]
        refine ⟨_, _, rfl, ho, hsettled, hsame.trans horders, hcustomers, ?_, fun _ => hputs⟩
        intro h
        rw [hheld] at h
        cases h

end Repositories

end Storefront
