import Storefront.Proofs.Execution

/-! # When orders are accepted, and what they change

`Repositories.createOrder_spec` decides every order: it is refused by the first check that
fails, and changes nothing, or no check fails and it leaves what `Repositories.Ordered`
says.  Both halves together characterise the command in every state that a run can reach
(`Backend.createOrder_exact`): although stock is set aside and the total summed up line by
line, the order is accepted on one condition about everything that is requested.
-/
namespace Storefront

/-- **What an order leaves that is accepted.**  One order is kept under a new identifier, as
`Order.Placed` describes it; the store has as much less of each product as is requested, and
nothing else of it has changed; customers and other stores are as they were. -/
structure Repositories.Ordered (r r' : Repositories) (supply : Supply) (customerId : CustomerId)
    (storeId : StoreId) (lines : List RequestedLine) (o : Order) (s s' : Store) : Prop where
  placed : o.Placed (supply.id .order) supply.line supply.now customerId s lines
  order_news_eq : o.pending = []
  order_new : r.orders.get? o.id = none
  orders_eq : r'.orders = r.orders.insert o.id o
  store_eq : r.stores.get? storeId = some s
  stores_eq : r'.stores = r.stores.insert storeId s'
  customers_eq : r'.customers = r.customers
  /-- Nothing of the store but its levels may have changed. -/
  store_frame : s' = { s with inventory := s'.inventory }
  levels_eq : s'.inventory.keys = s.inventory.keys
  stock_eq : ∀ p, s'.stock p + requested p lines = s.stock p

theorem Repositories.createOrder_spec {r : Repositories} {used : List Uuid} {supply : Supply}
    (hr : r.WellKept used) (hfresh : supply.uuid 0 ∉ used) (customerId : CustomerId)
    (storeId : StoreId) (lines : List RequestedLine) :
    match r.orderRefusal customerId storeId lines with
    | some e => ((Command.createOrder customerId storeId lines).job supply).eval r = (.error e, r)
    | none => ∃ o s s' r', ((Command.createOrder customerId storeId lines).job supply).eval r =
        (.ok (.order o), r') ∧ r.Ordered r' supply customerId storeId lines o s s' := by
  have hsound : ∀ s, r.stores.get? storeId = some s → s.Sound := fun s hs =>
    (hr.sound.store _ s hs).2
  have hspec := decideOrder_spec supply customerId lines hsound
  rw [Command.job, Job.eval_map, Ordering.eval_createOrder]
  cases hf : r.orderRefusal customerId storeId lines with
  | some e =>
    rw [hf] at hspec
    rw [show r.decideOrder supply customerId storeId lines = .error e from hspec]
    rfl
  | none =>
    rw [hf] at hspec
    obtain ⟨o, s, s', ho, hs, hplaced, hcat, hstock⟩ := hspec
    have hid := (hr.sound.store _ s hs).1
    have hnews := hr.sound.storeNews _ s hs
    rw [ho]
    refine ⟨o.settled, s, s'.settled, (r.saveStore s').saveOrder o, rfl, ?_⟩
    refine ⟨?_, rfl, ?_, rfl, hs, ?_, rfl, ?_, hcat.keys_eq, hstock⟩
    · exact ⟨hplaced.id_eq, hplaced.customerId_eq, hplaced.storeId_eq, hplaced.status_eq,
        hplaced.placedAt_eq, hplaced.reason_eq, hplaced.products_eq, hplaced.quantity_eq,
        hplaced.product_eq, hplaced.line_id_eq, hplaced.amount_eq, hplaced.currency_eq⟩
    · show r.orders.get? o.id = none
      rw [hplaced.id_eq]
      exact hr.issued.order_eq_none hfresh
    · show r.stores.insert s'.id s'.settled = _
      rw [hcat.id_eq, hid]
    · -- the catalogue is as it was, and neither store has anything to tell
      obtain ⟨id, name, location, currency, products, inventory, pending⟩ := s
      obtain ⟨rfl, rfl, rfl, rfl, rfl, _⟩ := hcat
      cases hnews
      rfl

namespace Backend

/-- **An order is accepted if and only if everything requested can be had at once; then it
leaves exactly what was requested, and otherwise the first check that fails refuses it and
nothing changes.**  This holds of every order in every state that a run can reach. -/
theorem createOrder_exact (commands : List (Supply × Command)) (supply : Supply)
    (customerId : CustomerId) (storeId : StoreId) (lines : List RequestedLine)
    (hfresh : Fresh (commands ++ [(supply, .createOrder customerId storeId lines)])) :
    let b := (empty.executeAll commands).2
    let r := b.repositories
    let result := b.perform ((Command.createOrder customerId storeId lines).job supply)
    ((∃ outcome, result.1 = .ok outcome) ↔ r.Accepts customerId storeId lines) ∧
      (∀ outcome, result.1 = .ok outcome → ∃ o s s', outcome = .order o ∧
        r.Ordered result.2.repositories supply customerId storeId lines o s s') ∧
      (∀ e, result.1 = .error e ↔ r.orderRefusal customerId storeId lines = some e) ∧
      ∀ e, result.1 = .error e → result.2.repositories = r := by
  intro b r result
  -- what the repositories decide is what is performed, since no switch is on
  obtain ⟨hbefore, hnew⟩ := fresh_snoc hfresh
  obtain ⟨hkept, hfaults⟩ := wellKept_of_run hbefore
  obtain ⟨hresult, hrepos, _⟩ :=
    perform_eq_eval hfaults supply (.createOrder customerId storeId lines)
  have hresult : result.1 = _ := hresult
  have hrepos : result.2.repositories = _ := hrepos
  have hspec := Repositories.createOrder_spec hkept hnew customerId storeId lines
  rw [hresult, hrepos, ← Repositories.orderRefusal_eq_none_iff]
  cases hf : Repositories.orderRefusal _ customerId storeId lines with
  | some e =>
    rw [hf] at hspec
    rw [show Job.eval _ _ = (.error e, _) from hspec]
    refine ⟨?_, ?_, ?_, ?_⟩
    · constructor
      · rintro ⟨_, ⟨⟩⟩
      · rintro ⟨⟩
    · rintro _ ⟨⟩
    · intro e'
      constructor
      · rintro ⟨⟩
        rfl
      · rintro ⟨⟩
        rfl
    · intro _ _
      rfl
  | none =>
    rw [hf] at hspec
    obtain ⟨o, s, s', r', ho, hordered⟩ := hspec
    rw [ho]
    refine ⟨?_, ?_, ?_, ?_⟩
    · exact ⟨fun _ => rfl, fun _ => ⟨_, rfl⟩⟩
    · rintro _ ⟨⟩
      exact ⟨o, s, s', rfl, hordered⟩
    · intro e
      constructor
      · rintro ⟨⟩
      · rintro ⟨⟩
    · rintro _ ⟨⟩

/-- Eight apples in two lines, and a pear. -/
def basket : List RequestedLine :=
  [⟨Sample.apple, 2⟩, ⟨Sample.pear, 1⟩, ⟨Sample.apple, 6⟩]

/-- Eleven apples in two lines, of which the shop has ten, and all three pears. -/
def fullBasket : List RequestedLine :=
  [⟨Sample.pear, 3⟩, ⟨Sample.apple, 7⟩, ⟨Sample.apple, 4⟩]

theorem createOrder_exact_baskets :
    let b := (empty.executeAll (Sample.numbered Sample.opening)).2
    let order := fun lines =>
      b.perform ((Command.createOrder Sample.ann Sample.shop lines).job (Supply.nth 6))
    (∃ o s s', (order basket).1 = .ok (.order o) ∧
      b.repositories.Ordered (order basket).2.repositories (Supply.nth 6) Sample.ann Sample.shop
        basket o s s') ∧
      (order fullBasket).1 = .error (.store (.insufficientStock Sample.apple 4 3)) ∧
      (order fullBasket).2.repositories = b.repositories := by
  intro b order
  have hok : (order basket).1.toOption.isSome = true := by decide +kernel
  have hrefusal : b.repositories.orderRefusal Sample.ann Sample.shop fullBasket =
      some (.store (.insufficientStock Sample.apple 4 3)) := by decide +kernel
  obtain ⟨_, hbasket, _, _⟩ := createOrder_exact (Sample.numbered Sample.opening) (Supply.nth 6)
    Sample.ann Sample.shop basket (by decide +kernel)
  obtain ⟨_, _, herror, hsame⟩ := createOrder_exact (Sample.numbered Sample.opening)
    (Supply.nth 6) Sample.ann Sample.shop fullBasket (by decide +kernel)
  refine ⟨?_, (herror _).mpr hrefusal, hsame _ ((herror _).mpr hrefusal)⟩
  cases hb : (order basket).1 with
  | error e =>
    rw [hb] at hok
    cases hok
  | ok outcome =>
    obtain ⟨o, s, s', rfl, hordered⟩ := hbasket outcome hb
    exact ⟨o, s, s', rfl, hordered⟩

end Backend

end Storefront
