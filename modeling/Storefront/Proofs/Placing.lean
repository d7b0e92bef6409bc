import Storefront.Proofs.Effect
import Storefront.Proofs.Filling

/-! # Placing an order

An order that has been filled is confirmed, which cannot fail any more.  So an order is
placed unless one of its lines is refused (`Order.place_spec`), and what has been placed is
told completely by `Order.Placed`.  `Repositories.orderRefusal` lists every check that an
order has to pass, in the order in which they are made; the first that fails is why the
order is refused (`Repositories.decideOrder_spec`).  That none fails is the same as one
condition on everything that is requested (`Repositories.orderRefusal_eq_none_iff`).
-/
namespace Storefront

/-! ### The whole order -/

theorem nodup_eraseDups {α : Type} [DecidableEq α] (as : List α) : as.eraseDups.Nodup := by
  match as with
  | [] => exact List.nodup_nil
  | a :: rest =>
    rw [List.eraseDups_cons, List.nodup_cons]
    have : (rest.filter fun b => !b == a).length < rest.length + 1 :=
      Nat.lt_succ_of_le (List.length_filter_le _ rest)
    refine ⟨?_, nodup_eraseDups _⟩
    rw [List.mem_eraseDups, List.mem_filter]
    simp
termination_by as.length

/-- If no product stands twice, an entry says how much of its product there is. -/
theorem tally_of_mem {entries : List (ProductId × Count)} (hn : (entries.map Prod.fst).Nodup)
    {e : ProductId × Count} (he : e ∈ entries) : tally e.1 entries = e.2.toNat := by
  induction entries with
  | nil => cases he
  | cons d rest ih =>
    rw [List.map_cons, List.nodup_cons] at hn
    rw [tally_cons]
    rcases List.mem_cons.mp he with rfl | hr
    · rw [if_pos rfl, tally_eq_zero hn.1]
      omega
    · have hne : d.1 ≠ e.1 := fun h => hn.1 (h ▸ List.mem_map.mpr ⟨e, hr, rfl⟩)
      rw [if_neg hne, ih hn.2 hr]
      omega

theorem map_fst_entry (lines : List OrderLine) :
    (lines.map OrderLine.entry).map Prod.fst = lines.map (·.productId) := by
  rw [List.map_map]
  rfl

/-- **What an order is when it has been placed**: confirmed, with one line for each product
that is requested, in the order in which they are first requested. -/
structure Order.Placed (id : OrderId) (fresh : Nat → LineId) (now : Timestamp)
    (customer : CustomerId) (s : Store) (lines : List RequestedLine) (o : Order) : Prop where
  id_eq : o.id = id
  customerId_eq : o.customerId = customer
  storeId_eq : o.storeId = s.id
  status_eq : o.status = .confirmed
  placedAt_eq : o.placedAt = now
  reason_eq : o.cancellationReason = none
  products_eq : o.lines.map (·.productId) = (lines.map (·.product)).eraseDups
  /-- A line asks for as much as is requested of its product, over all requested lines. -/
  quantity_eq : ∀ l ∈ o.lines, l.quantity.toNat = requested l.productId lines
  /-- A line has the name and the price that its product has. -/
  product_eq : ∀ l ∈ o.lines,
    ∃ p, s.products.get? l.productId = some p ∧ l.name = p.name.text ∧ l.unitPrice = p.price
  /-- A line has the identifier of the first request for its product. -/
  line_id_eq : ∀ l ∈ o.lines, l.id = fresh (lines.findIdx fun r => r.product == l.productId)
  amount_eq : o.total.amount = s.cost lines
  currency_eq : o.total.currency.code = s.currency

namespace Order

variable {s : Store} {o : Order} {lines : List RequestedLine} {id : OrderId}
  {fresh : Nat → LineId} {now : Timestamp} {customer : CustomerId}

theorem Placed.nodup (h : Placed id fresh now customer s lines o) :
    (o.lines.map (·.productId)).Nodup := by
  rw [h.products_eq]
  exact nodup_eraseDups _

/-- **An order that has been placed is for what was requested**, product by product. -/
theorem Placed.quantityOf_eq (h : Placed id fresh now customer s lines o) (p : ProductId) :
    o.quantityOf p = requested p lines := by
  by_cases hp : p ∈ o.lines.map (·.productId)
  · obtain ⟨l, hl, rfl⟩ := List.mem_map.mp hp
    rw [← h.quantity_eq l hl]
    refine tally_of_mem (e := l.entry) ?_ (List.mem_map.mpr ⟨l, hl, rfl⟩)
    rw [map_fst_entry]
    exact h.nodup
  · have hr : p ∉ (lines.map RequestedLine.entry).map Prod.fst := by
      rw [h.products_eq, List.mem_eraseDups] at hp
      rw [List.map_map]
      exact hp
    rw [requested, tally_eq_zero hr]
    refine tally_eq_zero ?_
    rw [map_fst_entry]
    exact hp

theorem find?_numbered (fresh : Nat → LineId) (p : ProductId) (lines : List RequestedLine)
    (n : Nat) {fresh' : LineId}
    (h : (((lines.zipIdx n).map fun (l, i) => (fresh i, l)).find? fun m =>
      m.2.product == p).map Prod.fst = some fresh') :
    fresh' = fresh (n + lines.findIdx fun r => r.product == p) := by
  induction lines generalizing n with
  | nil => cases h
  | cons l rest ih =>
    rw [List.zipIdx_cons, List.map_cons, List.find?_cons] at h
    rw [List.findIdx_cons]
    cases hp : l.product == p with
    | true =>
      simp only [hp, Option.map_some, Option.some.injEq] at h
      exact h.symm
    | false =>
      simp only [hp] at h
      have hi := ih (n + 1) h
      simpa [Nat.add_assoc, Nat.add_comm 1] using hi

/-- An order that is ready to be confirmed is confirmed, and nothing else of it changes but
its news: all of its lines are told of. -/
theorem confirm_eq (hopen : o.status = .pending) (hne : o.lines ≠ [])
    (hw : worth o.lines ≤ Money.maxAmount) :
    ∃ items, List.Forall₂ LineSnapshot.Tells items o.lines ∧
      o.confirm = .ok { o with
        status := .confirmed
        pending := o.pending ++ [.confirmed o.id o.customerId o.storeId o.total items] } := by
  obtain ⟨items, hi, htold⟩ := snapshots_of_worth_le hw
  have hsnapshots : o.snapshots = .ok items := hi
  have hmove : o.ensureMove .confirmed = .ok () := by
    simp [ensureMove, hopen, OrderStatus.canMoveTo, OrderStatus.allowed]
  have hempty : ¬ o.lines.isEmpty = true := by simpa using hne
  unfold confirm
  rw [hmove, ok_bind, if_neg hempty, hsnapshots]
  exact ⟨items, htold, rfl⟩

/-- An order begins with no lines, and with a total of nothing in the currency of its store. -/
theorem create_spec (id : OrderId) (customer : CustomerId) (now : Timestamp) (hs : s.Sound) :
    ∃ o total, create id customer s.id s.currency now = .ok o ∧
      o = { id, customerId := customer, storeId := s.id, lines := [], status := .pending, total
            placedAt := now, cancellationReason := none
            pending := [.created id customer s.id now] } ∧
        total.amount = 0 ∧ total.currency.code = s.currency := by
  unfold create
  rw [Money.zero_of_isCode hs.currency]
  exact ⟨_, _, rfl, rfl, rfl, rfl⟩

/-- Requested lines with an identifier for each. -/
def numbered (fresh : Nat → LineId) (lines : List RequestedLine) :
    List (LineId × RequestedLine) :=
  lines.zipIdx.map fun (l, i) => (fresh i, l)

theorem map_snd_numbered (fresh : Nat → LineId) (lines : List RequestedLine) :
    (numbered fresh lines).map Prod.snd = lines := by
  rw [numbered, List.map_map]
  exact List.zipIdx_map_fst ..

theorem products_of_filled {o₀ : Order} {s' : Store}
    (h : Filled s o₀ (numbered fresh lines) o s') :
    o.lines.map (·.productId) = (lines.map (·.product)).eraseDups := by
  have hproducts := congrArg (List.map (·.product)) (map_snd_numbered fresh lines)
  rw [List.map_map] at hproducts
  exact h.products.trans (congrArg List.eraseDups hproducts)

/-- **An order that has been filled with all lines is placed once it is confirmed.** -/
theorem placed_of_filled {o₀ : Order} {s' : Store}
    (h : Filled s o₀ (numbered fresh lines) o s') (hid : o₀.id = id)
    (hcustomer : o₀.customerId = customer) (hstore : o₀.storeId = s.id)
    (hat : o₀.placedAt = now) (hreason : o₀.cancellationReason = none)
    (events : List OrderEvent) :
    Placed id fresh now customer s lines { o with status := .confirmed, pending := events } := by
  have hproducts := products_of_filled h
  refine ⟨?_, ?_, ?_, rfl, ?_, ?_, hproducts, fun l hl => ?_, fun l hl => (h.line l hl).1,
    fun l hl => ?_, ?_, h.currency⟩
  · rw [h.order]
    exact hid
  · rw [h.order]
    exact hcustomer
  · rw [h.order]
    exact hstore
  · rw [h.order]
    exact hat
  · rw [h.order]
    exact hreason
  · have hquantity := h.quantity l.productId
    rw [map_snd_numbered] at hquantity
    rw [← hquantity]
    refine (tally_of_mem (e := l.entry) ?_ (List.mem_map.mpr ⟨l, hl, rfl⟩)).symm
    rw [map_fst_entry, hproducts]
    exact nodup_eraseDups _
  · have hline := find?_numbered fresh l.productId lines 0 (h.line l hl).2
    rwa [Nat.zero_add] at hline
  · have htotal := h.total
    rw [h.worth, map_snd_numbered] at htotal
    exact htotal

/-- **An order is placed unless there is a first line that is refused.** -/
theorem place_spec (id : OrderId) (fresh : Nat → LineId) (now : Timestamp)
    (customer : CustomerId) (hs : s.Sound) (hne : lines ≠ []) (hq : ∀ l ∈ lines, l.quantity ≠ 0) :
    match s.firstRefusal [] lines with
    | some e => place id fresh now customer s lines = .error e
    | none => ∃ o s', place id fresh now customer s lines = .ok (o, s') ∧
        Placed id fresh now customer s lines o ∧ Store.SameCatalogue s s' ∧
          ∀ p, s'.stock p + requested p lines = s.stock p := by
  obtain ⟨o₀, total, hcreate, hnew, hzero, hcode⟩ := create_spec id customer now hs
  have hopen : o₀.status = .pending := by rw [hnew]
  have hbegin : Filled s o₀ [] o₀ s := by
    rw [hnew]
    exact Filled.start s rfl hzero hcode
  have hq' : ∀ n ∈ numbered fresh lines, n.2.quantity ≠ 0 := by
    intro n hn
    refine hq n.2 ?_
    rw [← map_snd_numbered fresh lines]
    exact List.mem_map.mpr ⟨n, hn, rfl⟩
  have hfill := fillLines_spec hbegin hs hopen (numbered fresh lines) hq'
  rw [map_snd_numbered, List.map_nil] at hfill
  unfold place
  rw [hcreate]
  cases hr : s.firstRefusal [] lines with
  | some e =>
    rw [hr] at hfill
    show (o₀.fillLines s (numbered fresh lines) >>= _) = _
    rw [hfill]
    rfl
  | none =>
    rw [hr] at hfill
    obtain ⟨o, s', ho, hf⟩ := hfill
    rw [List.nil_append] at hf
    have hopen' : o.status = .pending := by
      rw [hf.order]
      exact hopen
    have hworth : worth o.lines ≤ Money.maxAmount := hf.total ▸ o.total.amount_le
    -- the first line that is requested is for some product, which stands on a line then
    have hlines : o.lines ≠ [] := by
      intro he
      have hproducts := products_of_filled hf
      obtain ⟨l, rest, rfl⟩ := List.exists_cons_of_ne_nil hne
      rw [he, List.map_cons, List.eraseDups_cons] at hproducts
      cases hproducts
    obtain ⟨items, _, hconfirm⟩ := confirm_eq hopen' hlines hworth
    generalize o.pending ++ [_] = events at hconfirm
    refine ⟨{ o with status := .confirmed, pending := events }, s', ?_,
      placed_of_filled hf (by rw [hnew]) (by rw [hnew]) (by rw [hnew]) (by rw [hnew])
        (by rw [hnew]) events, hf.catalogue, fun p => ?_⟩
    · show (o₀.fillLines s (numbered fresh lines) >>= _) = _
      simp [ho, hconfirm]
    · have hp := hf.stock p
      rwa [map_snd_numbered] at hp

end Order

/-! ### The decision -/

namespace Repositories

/-- Why an order is refused, if it is.  The checks stand in the order in which they are
made: no lines, a line for none of a product, the customer, the store, and then line by
line the product, its stock and the price of everything so far. -/
def orderRefusal (r : Repositories) (customerId : CustomerId) (storeId : StoreId)
    (lines : List RequestedLine) : Option Error :=
  if lines = [] then some (.validation "order must contain at least one item")
  else
    match lines.find? fun l => l.quantity == 0 with
    | some l => some (.validation s!"quantity for product {l.product} must be greater than 0")
    | none =>
      match r.customers.get? customerId with
      | none => some (.notFound "Customer" customerId.text)
      | some c =>
        if c.active = false then some (.customer (.inactive customerId))
        else
          match r.stores.get? storeId with
          | none => some (.notFound "Store" storeId.text)
          | some s => s.firstRefusal [] lines

/-- What has to be the case for an order to be placed, all at once. -/
structure Accepts (r : Repositories) (customerId : CustomerId) (storeId : StoreId)
    (lines : List RequestedLine) : Prop where
  nonempty : lines ≠ []
  positive : ∀ l ∈ lines, 0 < l.quantity.toNat
  customer : ∃ c, r.customers.get? customerId = some c ∧ c.active = true
  store : ∃ s, r.stores.get? storeId = some s ∧
    (∀ l ∈ lines, ∃ p, s.products.get? l.product = some p ∧ p.active = true) ∧
      (∀ p, requested p lines ≤ s.stock p) ∧ s.cost lines ≤ Money.maxAmount

theorem quantity_pos_iff {q : Count} : 0 < q.toNat ↔ q ≠ 0 := by
  constructor
  · rintro h rfl
    exact absurd h (Nat.lt_irrefl 0)
  · intro h
    exact Nat.pos_of_ne_zero fun h0 => h (UInt32.toNat_inj.mp h0)

theorem find?_zero_eq_none_iff {lines : List RequestedLine} :
    (lines.find? fun l => l.quantity == 0) = none ↔ ∀ l ∈ lines, l.quantity ≠ 0 := by
  simp [List.find?_eq_none]

variable {r : Repositories} {customerId : CustomerId} {storeId : StoreId}
  {lines : List RequestedLine}

/-- **That no check fails is one condition on everything that is requested.** -/
theorem orderRefusal_eq_none_iff :
    r.orderRefusal customerId storeId lines = none ↔ r.Accepts customerId storeId lines := by
  unfold orderRefusal
  by_cases hne : lines = []
  · rw [if_pos hne]
    exact ⟨nofun, fun h => absurd hne h.nonempty⟩
  rw [if_neg hne]
  cases hz : lines.find? fun l => l.quantity == 0 with
  | some l =>
    refine ⟨nofun, fun h => ?_⟩
    rw [find?_zero_eq_none_iff.mpr fun k hk => quantity_pos_iff.mp (h.positive k hk)] at hz
    cases hz
  | none =>
    have hpos : ∀ l ∈ lines, 0 < l.quantity.toNat := fun l hl =>
      quantity_pos_iff.mpr (find?_zero_eq_none_iff.mp hz l hl)
    dsimp only
    cases hc : r.customers.get? customerId with
    | none =>
      refine ⟨nofun, fun h => ?_⟩
      obtain ⟨c, hget, _⟩ := h.customer
      rw [hc] at hget
      cases hget
    | some c =>
      dsimp only
      cases ha : c.active with
      | false =>
        refine ⟨nofun, fun h => ?_⟩
        obtain ⟨d, hget, hd⟩ := h.customer
        rw [hc] at hget
        cases hget
        rw [ha] at hd
        cases hd
      | true =>
        rw [if_neg Bool.noConfusion]
        cases hs : r.stores.get? storeId with
        | none =>
          refine ⟨nofun, fun h => ?_⟩
          obtain ⟨s, hget, _⟩ := h.store
          rw [hs] at hget
          cases hget
        | some s =>
          have hall := s.firstRefusal_nil_eq_none_iff lines
          constructor
          · intro h
            exact ⟨hne, hpos, ⟨c, hc, ha⟩, ⟨s, hs, hall.mp h⟩⟩
          · intro h
            obtain ⟨t, hget, ht⟩ := h.store
            rw [hs] at hget
            cases hget
            exact hall.mpr ht

/-- **An order is refused by the first check that fails**, and decided on as `Order.Placed`
says if there is none. -/
theorem decideOrder_spec (supply : Supply) (customerId : CustomerId)
    (lines : List RequestedLine) (hr : ∀ s, r.stores.get? storeId = some s → s.Sound) :
    match r.orderRefusal customerId storeId lines with
    | some e => r.decideOrder supply customerId storeId lines = .error e
    | none => ∃ o s s', r.decideOrder supply customerId storeId lines = .ok (o, s') ∧
        r.stores.get? storeId = some s ∧
          o.Placed (supply.id .order) supply.line supply.now customerId s lines ∧
            Store.SameCatalogue s s' ∧ ∀ p, s'.stock p + requested p lines = s.stock p := by
  unfold orderRefusal decideOrder Order.checkRequest findCustomer findStore
  generalize hplace : Order.place (supply.id .order) supply.line supply.now customerId = place
  by_cases hne : lines = []
  · rw [if_pos hne, hne]
    rfl
  rw [if_neg hne, if_neg (by simpa using hne)]
  cases hz : lines.find? fun l => l.quantity == 0 with
  | some l => rfl
  | none =>
    dsimp only
    cases hc : r.customers.get? customerId with
    | none => rfl
    | some c =>
      dsimp only
      cases ha : c.active with
      | false =>
        simp only [ok_bind, ha]
        rfl
      | true =>
        simp only [ok_bind, ha, Bool.true_eq_false, if_false]
        cases hs : r.stores.get? storeId with
        | none => rfl
        | some s =>
          have hspec := Order.place_spec (supply.id .order) supply.line supply.now customerId
            (hr s hs) hne (find?_zero_eq_none_iff.mp hz)
          rw [hplace] at hspec
          dsimp only
          cases hf : s.firstRefusal [] lines with
          | some e =>
            rw [hf] at hspec
            exact hspec
          | none =>
            rw [hf] at hspec
            obtain ⟨o, s', ho, hplaced, hcat, hstock⟩ := hspec
            exact ⟨o, s, s', ho, rfl, hplaced, hcat, hstock⟩

/-- What is known of an order that has been decided on. -/
theorem decideOrder_eq_ok {supply : Supply} {o : Order} {s' : Store}
    (hr : ∀ s, r.stores.get? storeId = some s → s.Sound)
    (h : r.decideOrder supply customerId storeId lines = .ok (o, s')) :
    (∀ l ∈ lines, l.quantity ≠ 0) ∧ ∃ s, r.stores.get? storeId = some s ∧
      o.Placed (supply.id .order) supply.line supply.now customerId s lines ∧
        Store.SameCatalogue s s' ∧ ∀ p, s'.stock p + requested p lines = s.stock p := by
  have hspec := decideOrder_spec supply customerId lines hr
  cases hf : r.orderRefusal customerId storeId lines with
  | some e =>
    rw [hf] at hspec
    rw [show r.decideOrder supply customerId storeId lines = .error e from hspec] at h
    cases h
  | none =>
    rw [hf] at hspec
    obtain ⟨o', s, s'', ho, hs, hplaced, hcat, hstock⟩ := hspec
    rw [ho] at h
    cases h
    refine ⟨fun l hl => ?_, s, hs, hplaced, hcat, hstock⟩
    exact quantity_pos_iff.mp ((orderRefusal_eq_none_iff.mp hf).positive l hl)

end Repositories

end Storefront
