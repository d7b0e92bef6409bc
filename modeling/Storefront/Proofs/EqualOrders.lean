import Storefront.Proofs.Acceptance
import Storefront.Proofs.Serializability

/-! # Equal orders that run together

Orders for the same lines at the same store are filled as long as there is enough of every
product, and nobody can tell them apart but by who comes first.  The stock of a store affords a
number of them (`Store.affords`): the product decides of which there is the least, compared with
what all lines of one order request of it.  Each order that is placed leaves a store that affords
one less (`Store.affords_of_stock`), and an order that is refused leaves the store as it is, so
that every later one is refused as well.

This is an argument about orders one after the other (`Backend.executeAll_equalOrders`).  Since
orders that run together do as if they ran one after the other, it holds however they are
interleaved (`Pool.equal_orders`).
-/
namespace Storefront

/-! ### How many orders a stock affords -/

theorem requested_pos {lines : List RequestedLine} (hpos : ∀ l ∈ lines, 0 < l.quantity.toNat)
    {l : RequestedLine} (hl : l ∈ lines) : 0 < requested l.product lines := by
  obtain ⟨before, after, rfl⟩ := List.append_of_mem hl
  rw [requested_append, requested_cons, if_pos rfl]
  have hquantity := hpos l hl
  omega

theorem requested_eq_zero {p : ProductId} {lines : List RequestedLine}
    (hp : ∀ l ∈ lines, l.product ≠ p) : requested p lines = 0 := by
  refine tally_eq_zero fun hm => ?_
  obtain ⟨e, he, rfl⟩ := List.mem_map.mp hm
  obtain ⟨l, hl, rfl⟩ := List.mem_map.mp he
  exact hp l hl rfl

namespace Store

variable {s s' : Store} {lines : List RequestedLine}

/-- **How many orders for some lines the stock affords**: as many as it does of the product of
which there is the least, compared with what one order requests of it. -/
def affords (s : Store) (lines : List RequestedLine) : Nat :=
  (lines.map fun l => s.stock l.product / requested l.product lines).min?.getD 0

/-- The stock affords so many orders if and only if it holds so many times what one of them
requests. -/
theorem le_affords_iff (hne : lines ≠ []) (hpos : ∀ l ∈ lines, 0 < l.quantity.toNat) {n : Nat} :
    n ≤ s.affords lines ↔ ∀ p, n * requested p lines ≤ s.stock p := by
  obtain ⟨least, hleast⟩ : ∃ least, (lines.map fun l =>
      s.stock l.product / requested l.product lines).min? = some least :=
    Option.isSome_iff_exists.mp (by simp [List.isSome_min?_iff, hne])
  rw [affords, hleast, Option.getD_some, List.le_min?_iff hleast, List.forall_mem_map]
  constructor
  · intro h p
    by_cases hp : ∃ l ∈ lines, l.product = p
    · obtain ⟨l, hl, rfl⟩ := hp
      exact (Nat.le_div_iff_mul_le (requested_pos hpos hl)).mp (h l hl)
    · rw [requested_eq_zero fun l hl he => hp ⟨l, hl, he⟩]
      exact Nat.zero_le _
  · intro h l hl
    exact (Nat.le_div_iff_mul_le (requested_pos hpos hl)).mpr (h l.product)

/-- **An order that is placed leaves a stock that affords one less.** -/
theorem affords_of_stock (hne : lines ≠ []) (hpos : ∀ l ∈ lines, 0 < l.quantity.toNat)
    (hstock : ∀ p, s'.stock p + requested p lines = s.stock p) :
    s.affords lines = s'.affords lines + 1 := by
  have hall := (le_affords_iff (s := s) hne hpos).mp (Nat.le_refl _)
  have hall' := (le_affords_iff (s := s') hne hpos).mp (Nat.le_refl _)
  refine Nat.le_antisymm ?_ ((le_affords_iff hne hpos).mpr fun p => ?_)
  · refine Nat.le_add_of_sub_le ((le_affords_iff hne hpos).mpr fun p => ?_)
    have hp := hall p
    have hp' := hstock p
    rw [Nat.sub_one_mul]
    omega
  · have hp := hall' p
    have hp' := hstock p
    rw [Nat.succ_mul]
    omega

/-- If every product is on sale and nothing costs too much, a line is refused for want of stock
only. -/
theorem firstRefusal_insufficient {before : List RequestedLine} {e : Error}
    (h : s.firstRefusal before lines = some e)
    (hon : ∀ l ∈ lines, ∃ p, s.products.get? l.product = some p ∧ p.active = true)
    (hcost : s.cost (before ++ lines) ≤ Money.maxAmount) :
    ∃ l ∈ lines, ∃ left, e = .store (.insufficientStock l.product l.quantity left) := by
  induction lines generalizing before with
  | nil => cases h
  | cons l rest ih =>
    have happ : before ++ l :: rest = (before ++ [l]) ++ rest := by simp
    rw [happ] at hcost
    rw [firstRefusal] at h
    cases hl : s.lineRefusal before l with
    | none =>
      rw [hl] at h
      obtain ⟨k, hk, left, he⟩ := ih h (fun k hk => hon k (List.mem_cons_of_mem _ hk)) hcost
      exact ⟨k, List.mem_cons_of_mem _ hk, left, he⟩
    | some e' =>
      rw [hl] at h
      cases h
      refine ⟨l, List.mem_cons_self .., ?_⟩
      obtain ⟨p, hp, ha⟩ := hon l (List.mem_cons_self ..)
      have hprice := Nat.le_trans (s.cost_le_append (before ++ [l]) rest) hcost
      unfold lineRefusal at hl
      rw [hp] at hl
      dsimp only at hl
      rw [if_neg (by rw [ha]; exact Bool.noConfusion), if_neg (Nat.not_lt.mpr hprice)] at hl
      split at hl
      · cases hl
        exact ⟨_, rfl⟩
      · cases hl

end Store

/-! ### One after the other -/

/-- The order is refused for want of stock, or because it is for nothing. -/
inductive OutOfStock (lines : List RequestedLine) : Error → Prop where
  | stock {l left} (hl : l ∈ lines) :
      OutOfStock lines (.store (.insufficientStock l.product l.quantity left))
  | nothing (hlines : lines = []) :
      OutOfStock lines (.validation "order must contain at least one item")

/-- **What equal orders leave of which some have been placed.**  These are kept, confirmed, under
new identifiers; the store has so many times less of each product as one of them requests; and
nothing else of it, no other store and no other order has changed. -/
structure Repositories.Shared (r r' : Repositories) (customer : CustomerId) (storeId : StoreId)
    (lines : List RequestedLine) (s : Store) (placed : List Order) : Prop where
  distinct : (placed.map (·.id)).Nodup
  new : ∀ o ∈ placed, r.orders.get? o.id = none
  kept : ∀ o ∈ placed, r'.orders.get? o.id = some o
  others : ∀ id, id ∉ placed.map (·.id) → r'.orders.get? id = r.orders.get? id
  confirmed : ∀ o ∈ placed, ∃ supply : Supply,
    o.Placed (supply.id .order) supply.line supply.now customer s lines
  store : ∃ s', r'.stores.get? storeId = some s' ∧ s' = { s with inventory := s'.inventory } ∧
    ∀ p, s'.stock p + placed.length * requested p lines = s.stock p
  stores : ∀ id, id ≠ storeId → r'.stores.get? id = r.stores.get? id

namespace Repositories.Shared

variable {r r₁ r₂ r' : Repositories} {customer : CustomerId} {storeId : StoreId}
  {lines : List RequestedLine} {s s₁ : Store} {placed : List Order}

/-- Nothing has changed if none has been placed. -/
theorem none_placed (hs : r.stores.get? storeId = some s) (hstores : r'.stores = r.stores)
    (horders : r'.orders = r.orders) : r.Shared r' customer storeId lines s [] where
  distinct := List.nodup_nil
  new := fun o ho => absurd ho List.not_mem_nil
  kept := fun o ho => absurd ho List.not_mem_nil
  others := fun id _ => by rw [horders]
  confirmed := fun o ho => absurd ho List.not_mem_nil
  store := ⟨s, by rw [hstores, hs], rfl, fun p => by simp⟩
  stores := fun id _ => by rw [hstores]

/-- Only stores and orders matter. -/
theorem of_eq (h : r₁.Shared r₂ customer storeId lines s placed) (hstores : r.stores = r₁.stores)
    (horders : r.orders = r₁.orders) (hstores' : r'.stores = r₂.stores)
    (horders' : r'.orders = r₂.orders) : r.Shared r' customer storeId lines s placed where
  distinct := h.distinct
  new := by rw [horders]; exact h.new
  kept := by rw [horders']; exact h.kept
  others := by rw [horders, horders']; exact h.others
  confirmed := h.confirmed
  store := by rw [hstores']; exact h.store
  stores := by rw [hstores, hstores']; exact h.stores

/-- One more is placed before the others. -/
theorem cons {supply : Supply} {o : Order}
    (hone : r.Ordered r₁ supply customer storeId lines o s s₁) (haside : r₁.Aside r₂)
    (h : r₂.Shared r' customer storeId lines s₁ placed) :
    r.Shared r' customer storeId lines s (o :: placed) := by
  have horders : ∀ id, r₂.orders.get? id = if id = o.id then some o else r.orders.get? id := by
    intro id
    rw [haside.orders, hone.orders_eq, Table.get?_insert]
  have hother : ∀ o' ∈ placed, o'.id ≠ o.id := by
    intro o' ho' he
    have hnew := h.new o' ho'
    rw [horders, if_pos he] at hnew
    cases hnew
  have hout : o.id ∉ placed.map (·.id) := by
    intro hm
    obtain ⟨o', ho', he⟩ := List.mem_map.mp hm
    exact hother o' ho' he
  have hframe := hone.store_frame
  refine ⟨?_, ?_, ?_, ?_, ?_, ?_, ?_⟩
  · exact List.nodup_cons.mpr ⟨hout, h.distinct⟩
  · intro o' ho'
    rcases List.mem_cons.mp ho' with rfl | ho'
    · exact hone.order_new
    · have hnew := h.new o' ho'
      rwa [horders, if_neg (hother o' ho')] at hnew
  · intro o' ho'
    rcases List.mem_cons.mp ho' with rfl | ho'
    · rw [h.others _ hout, horders, if_pos rfl]
    · exact h.kept o' ho'
  · intro id hid
    rw [List.map_cons, List.mem_cons, not_or] at hid
    rw [h.others id hid.2, horders, if_neg hid.1]
  · intro o' ho'
    rcases List.mem_cons.mp ho' with rfl | ho'
    · exact ⟨supply, hone.placed⟩
    · -- names and prices are still the same
      obtain ⟨supply', hp⟩ := h.confirmed o' ho'
      rw [hframe] at hp
      exact ⟨supply', hp.id_eq, hp.customerId_eq, hp.storeId_eq, hp.status_eq, hp.placedAt_eq,
        hp.reason_eq, hp.products_eq, hp.quantity_eq, hp.product_eq, hp.line_id_eq, hp.amount_eq,
        hp.currency_eq⟩
  · obtain ⟨s', hget, hsame, hstock⟩ := h.store
    refine ⟨s', hget, ?_, fun p => ?_⟩
    · rw [hframe] at hsame
      exact hsame
    · have hp := hstock p
      have hp' := hone.stock_eq p
      rw [List.length_cons, Nat.succ_mul]
      omega
  · intro id hid
    rw [h.stores id hid, haside.stores, hone.stores_eq, Table.get?_insert, if_neg hid]

end Repositories.Shared

namespace Backend

variable {b : Backend} {used : List Uuid} {customer : CustomerId} {storeId : StoreId}
  {lines : List RequestedLine} {s : Store}

/-- An order of an active customer's, for products on sale that do not cost too much, is refused
if and only if the stock does not afford it. -/
theorem orderRefusal_cases {r : Repositories} (hs : r.stores.get? storeId = some s)
    (ha : r.activity customer = some true) (hpos : ∀ l ∈ lines, 0 < l.quantity.toNat)
    (hon : ∀ l ∈ lines, ∃ p, s.products.get? l.product = some p ∧ p.active = true)
    (hcost : s.cost lines ≤ Money.maxAmount) :
    (∃ e, r.orderRefusal customer storeId lines = some e ∧ OutOfStock lines e ∧
        s.affords lines = 0) ∨
      r.orderRefusal customer storeId lines = none ∧ lines ≠ [] := by
  obtain ⟨c, hc, hactive⟩ := Option.map_eq_some_iff.mp ha
  unfold Repositories.orderRefusal
  by_cases hne : lines = []
  · rw [if_pos hne]
    exact .inl ⟨_, rfl, .nothing hne, by rw [hne]; rfl⟩
  rw [if_neg hne, Repositories.find?_zero_eq_none_iff.mpr fun l hl =>
    Repositories.quantity_pos_iff.mp (hpos l hl), hc, hs]
  dsimp only
  rw [if_neg (by rw [hactive]; exact Bool.noConfusion)]
  cases hf : s.firstRefusal [] lines with
  | none => exact .inr ⟨rfl, hne⟩
  | some e =>
    obtain ⟨l, hl, left, rfl⟩ := Store.firstRefusal_insufficient hf hon hcost
    refine .inl ⟨_, rfl, .stock hl, Nat.eq_zero_of_not_pos fun haffords => ?_⟩
    have henough := (Store.le_affords_iff hne hpos).mp haffords
    have hnone := (s.firstRefusal_nil_eq_none_iff lines).mpr
      ⟨hon, fun p => by have := henough p; omega, hcost⟩
    rw [hf] at hnone
    cases hnone

/-- **Equal orders one after the other**: as many are placed as the stock affords, and then all
others are refused. -/
theorem executeAll_equalOrders (commands : List (Supply × Command))
    (hequal : ∀ c ∈ commands, c.2 = .createOrder customer storeId lines) (hf : b.faults = .none)
    (hb : b.repositories.WellKept used) (hfresh : Fresh commands)
    (hnew : ∀ c ∈ commands, c.1.uuid 0 ∉ used) (hs : b.repositories.stores.get? storeId = some s)
    (ha : b.repositories.activity customer = some true)
    (hpos : ∀ l ∈ lines, 0 < l.quantity.toNat)
    (hon : ∀ l ∈ lines, ∃ p, s.products.get? l.product = some p ∧ p.active = true)
    (hcost : s.cost lines ≤ Money.maxAmount) :
    ∃ (placed : List Order) (refusals : List Error), (b.executeAll commands).1 =
        placed.map (fun o => .ok (.order o)) ++ refusals.map .error ∧
      placed.length = min commands.length (s.affords lines) ∧
      refusals.length = commands.length - placed.length ∧
      (∀ e ∈ refusals, OutOfStock lines e) ∧
      b.repositories.Shared (b.executeAll commands).2.repositories customer storeId lines s
        placed := by
  induction commands generalizing b used s with
  | nil =>
    exact ⟨[], [], rfl, (Nat.zero_min _).symm, rfl, fun e he => absurd he List.not_mem_nil,
      .none_placed hs rfl rfl⟩
  | cons c rest ih =>
    obtain ⟨supply, command⟩ := c
    obtain rfl : command = _ := hequal _ (List.mem_cons_self ..)
    have hone : supply.uuid 0 ∉ used := hnew _ (List.mem_cons_self ..)
    obtain ⟨hresult, haside, hkept, hfaults⟩ :=
      execute_spec hf hb hone (.createOrder customer storeId lines)
    have hspec := Repositories.createOrder_spec hb hone customer storeId lines
    have hrest : ∀ c ∈ rest, c.2 = .createOrder customer storeId lines :=
      fun c hc => hequal c (List.mem_cons_of_mem _ hc)
    have hfreshRest := (List.nodup_cons.mp hfresh).2
    have hnewRest := new_of_cons hfresh hnew
    rw [executeAll_cons, List.length_cons]
    rcases orderRefusal_cases hs ha hpos hon hcost with ⟨e, he, hout, hzero⟩ | ⟨hnone, hne⟩
    · -- an order that is refused leaves everything to those that come later
      rw [he] at hspec
      rw [show Job.eval _ _ = (.error e, b.repositories) from hspec] at hresult haside
      obtain ⟨placed, refusals, hresults, hlength, hrefused, houts, hshared⟩ := ih hrest hfaults hkept
        hfreshRest hnewRest (by rw [haside.stores, hs]) (by rw [haside.activity, ha]) hon hcost
      rw [hzero, Nat.min_zero] at hlength
      obtain rfl := List.eq_nil_of_length_eq_zero hlength
      refine ⟨[], e :: refusals, ?_, ?_, ?_, List.forall_mem_cons.mpr ⟨hout, houts⟩, ?_⟩
      · rw [hresult, hresults]
        rfl
      · rw [hzero, Nat.min_zero, List.length_nil]
      · rw [List.length_cons, hrefused]
        rfl
      · exact hshared.of_eq haside.stores.symm haside.orders.symm rfl rfl
    · -- an order that is placed leaves a store that affords one less
      rw [hnone] at hspec
      obtain ⟨o, s₀, s₁, r₁, heval, hordered⟩ := hspec
      obtain rfl : s₀ = s := Option.some.inj (hordered.store_eq.symm.trans hs)
      rw [heval] at hresult haside
      have hframe := hordered.store_frame
      have hs₁ : (b.execute supply (.createOrder customer storeId lines)).2.repositories.stores.get?
          storeId = some s₁ := by
        rw [haside.stores, hordered.stores_eq, Table.get?_insert, if_pos rfl]
      have ha₁ : (b.execute supply
          (.createOrder customer storeId lines)).2.repositories.activity customer = some true := by
        rw [haside.activity, Repositories.activity, hordered.customers_eq]
        exact ha
      obtain ⟨placed, refusals, hresults, hlength, hrefused, houts, hshared⟩ := ih hrest hfaults hkept
        hfreshRest hnewRest hs₁ ha₁ (by rw [hframe]; exact hon) (by rw [hframe]; exact hcost)
      refine ⟨o :: placed, refusals, ?_, ?_, ?_, houts, hshared.cons hordered haside⟩
      · rw [hresult, hresults]
        rfl
      · rw [List.length_cons, hlength, Store.affords_of_stock hne hpos hordered.stock_eq,
          Nat.add_min_add_right]
      · rw [List.length_cons, hrefused, Nat.add_sub_add_right]

end Backend

/-! ### Together -/

namespace Pool

/-- Orders of a customer's for the same lines at the same store. -/
def equalOrders (supplies : List Supply) (customer : CustomerId) (storeId : StoreId)
    (lines : List RequestedLine) : List (Supply × Command) :=
  supplies.map fun supply => (supply, .createOrder customer storeId lines)

/-- **Equal orders that run together share the stock.**  However they are interleaved, when all
have come to their ends as many have been placed as the stock of their store affords, and all
others have been refused for want of stock; what is left is what the orders that have been placed
leave. -/
theorem equal_orders (before : List (Supply × Command)) (supplies : List Supply)
    (customer : CustomerId) (storeId : StoreId) (lines : List RequestedLine)
    (schedule : List Turn) {s : Store}
    (hfresh : Backend.Fresh (before ++ equalOrders supplies customer storeId lines))
    (hs : (Backend.empty.executeAll before).2.repositories.stores.get? storeId = some s)
    (hcustomer : ∃ c, (Backend.empty.executeAll before).2.repositories.customers.get? customer =
      some c ∧ c.active = true)
    (hpos : ∀ l ∈ lines, 0 < l.quantity.toNat)
    (hon : ∀ l ∈ lines, ∃ p, s.products.get? l.product = some p ∧ p.active = true)
    (hcost : s.cost lines ≤ Money.maxAmount)
    (hschedule : ∀ turn ∈ schedule, turn.ofTasks = true)
    (hdone : ∀ i < supplies.length, (((start (Backend.empty.executeAll before).2
      (equalOrders supplies customer storeId lines)).run schedule).result? i).isSome = true) :
    let b := (Backend.empty.executeAll before).2
    let p := (start b (equalOrders supplies customer storeId lines)).run schedule
    ∃ (placed : List Order) (refusals : List Error),
      (p.firstResults supplies.length).Perm
        (placed.map (fun o => .ok (.order o)) ++ refusals.map .error) ∧
      placed.length = min supplies.length (s.affords lines) ∧
      refusals.length = supplies.length - placed.length ∧
      (∀ e ∈ refusals, OutOfStock lines e) ∧
      b.repositories.Shared p.backend.repositories customer storeId lines s placed := by
  obtain ⟨c, hc, hactive⟩ := hcustomer
  have hequal : ∀ c ∈ equalOrders supplies customer storeId lines,
      c.2 = .createOrder customer storeId lines := by
    intro c hc
    obtain ⟨supply, _, rfl⟩ := List.mem_map.mp hc
    rfl
  have hlength : (equalOrders supplies customer storeId lines).length = supplies.length :=
    List.length_map ..
  generalize equalOrders supplies customer storeId lines = commands at *
  intro b p
  have hr := Backend.ready_of_run hfresh fun c hc => by rw [hequal c hc]; rfl
  rw [← hlength] at hdone ⊢
  obtain ⟨order, hperm, hresults, hstores, horders⟩ := serial_of_ready hr schedule hschedule hdone
  -- one after the other, in the order that explains the run
  have hpickPerm : (pick commands order).Perm commands := by
    have hp := hperm.filterMap (commands[·]?)
    rwa [show List.filterMap _ _ = commands from pick_range commands] at hp
  obtain ⟨placed, refusals, hserial, hplaced, hrefused, hout, hshared⟩ :=
    Backend.executeAll_equalOrders (pick commands order) (fun c hc => hequal c (hpickPerm.mem_iff.mp hc))
      hr.faults hr.kept (fresh_pick hr.fresh (hperm.nodup_iff.mpr List.nodup_range))
      (fun c hc => hr.new c (hpickPerm.mem_iff.mp hc)) hs
      (by rw [Repositories.activity, hc, Option.map_some, hactive]) hpos hon hcost
  rw [hpickPerm.length_eq] at hplaced hrefused
  refine ⟨placed, refusals, ?_, hplaced, hrefused, hout, hshared.of_eq rfl rfl hstores horders⟩
  rw [← hserial]
  exact hresults ▸ (hperm.filterMap p.result?).symm

/-- An order for four apples, in two lines, and a pear. -/
def lunch : List RequestedLine :=
  [⟨Sample.apple, 3⟩, ⟨Sample.pear, 1⟩, ⟨Sample.apple, 1⟩]

/-- Four of them take turns, the third being the first to queue for the shop. -/
def lunchTurns : List Turn :=
  (List.replicate 9 [.task 2, .task 0, .deliver, .task 3, .task 1, .task 4]).flatten ++ rounds 4 20

/-- Ten apples and three pears are enough for two of them. -/
theorem equal_orders_lunch :
    let b := (Backend.empty.executeAll (Sample.numbered Sample.opening)).2
    let p := (start b (equalOrders [.nth 6, .nth 7, .nth 8, .nth 9] Sample.ann Sample.shop
      lunch)).run lunchTurns
    ∃ (placed : List Order) (refusals : List Error), (p.firstResults 4).Perm
        (placed.map (fun o => .ok (.order o)) ++ refusals.map .error) ∧
      placed.length = 2 ∧ refusals.length = 2 ∧ (∀ e ∈ refusals, OutOfStock lunch e) ∧
      p.backend.repositories.stockOf Sample.shop Sample.apple + 2 * 4 = 10 := by
  intro b p
  have hopen : (b.repositories.stores.get? Sample.shop).map (fun s => (s.affords lunch,
      s.cost lunch, s.stock Sample.apple)) = some (2, 800, 10) := by decide +kernel
  have hsale : ∀ l ∈ lunch, ((b.repositories.stores.get? Sample.shop).bind fun s =>
      (s.products.get? l.product).map (·.active)) = some true := by decide +kernel
  have hann : (b.repositories.customers.get? Sample.ann).map (·.active) = some true := by
    decide +kernel
  obtain ⟨s, hs, hfacts⟩ := Option.map_eq_some_iff.mp hopen
  simp only [Prod.mk.injEq] at hfacts
  obtain ⟨haffords, hcost, happles⟩ := hfacts
  obtain ⟨placed, refusals, hresults, hplaced, hrefused, hout, hshared⟩ :=
    equal_orders (Sample.numbered Sample.opening) [.nth 6, .nth 7, .nth 8, .nth 9] Sample.ann
      Sample.shop lunch lunchTurns (by decide +kernel) hs (Option.map_eq_some_iff.mp hann)
      (by decide) (fun l hl => by
        have hl' := hsale l hl
        rw [hs, Option.bind_some] at hl'
        exact Option.map_eq_some_iff.mp hl')
      (by rw [hcost]; decide) (by decide +kernel) (by decide +kernel)
  rw [haffords] at hplaced
  rw [hplaced] at hrefused
  obtain ⟨s', hs', _, hstock⟩ := hshared.store
  refine ⟨placed, refusals, hresults, hplaced, hrefused, hout, ?_⟩
  rw [Repositories.stockOf, hs', Option.map_some, Option.getD_some, ← happles,
    ← hstock Sample.apple, hplaced]
  rfl

end Pool

end Storefront
