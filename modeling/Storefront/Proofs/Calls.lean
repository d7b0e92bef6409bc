import Storefront.Proofs.Consistency

/-! # Calls on an order

An order is created, and then called on in whatever way, however often, and with whatever
arguments.  It stays consistent throughout (`Order.Consistent.afterAll`), which is shown call by
call: a call merges something into the lines of a pending order, takes one of them away, or leaves
lines and total alone (`Order.Consistent.answer_cases`), and one that is refused leaves everything
alone.  What follows is said of every order that comes about in this way: what it is like and what
no call does to it (`Order.calls_uphold`), that no arithmetic fails on it once its lines have been
taken, since the sum of some lines is at most that of all of them (`Order.calls_sum_up`), and that
no line of it is ever in a foreign currency (`Order.foreign_price`), although an addition in one
is not always refused for that (`Order.foreign_price_unnoticed`).
-/
namespace Storefront

theorem OrderStatus.canMoveTo_confirmed_iff {s : OrderStatus} :
    s.canMoveTo .confirmed = true ↔ s = .pending := by
  cases s <;> decide

theorem OrderStatus.ne_cancelled_of_takesStock {s : OrderStatus} (h : s.takesStock = true) :
    s ≠ .cancelled := by
  rintro rfl
  cases h

/-- The identifier that a call brings along for a new line. -/
def OrderCall.fresh? : OrderCall → Option LineId
  | .add a => some a.fresh
  | _ => none

namespace Order

variable {o o' : Order} {call : OrderCall} {id : LineId}

/-! ### Taking lines away -/

/-- The identifiers of the lines. -/
def lineIds (o : Order) : List LineId := o.lines.map (·.id)

/-- The lines but for the first one of an identifier. -/
def without (o : Order) (id : LineId) : List OrderLine :=
  o.lines.eraseP fun line => line.id == id

/-- The order with the first line of an identifier taken away, if the rest is not worth too much. -/
def shortened (o : Order) (id : LineId) (h : worth (o.without id) ≤ Money.maxAmount) : Order :=
  { o with lines := o.without id, total := ⟨worth (o.without id), o.total.currency, h⟩ }

theorem mem_of_mem_without {l : OrderLine} (h : l ∈ o.without id) : l ∈ o.lines :=
  List.mem_of_mem_eraseP h

namespace Consistent

theorem worth_without_le (h : o.Consistent) (id : LineId) :
    worth (o.without id) ≤ Money.maxAmount :=
  Nat.le_trans (worth_le_of_sublist List.eraseP_sublist) h.worth_le

/-- **What taking a line away answers.** -/
theorem removeLine_eq (h : o.Consistent) (id : LineId) :
    o.removeLine id =
      if o.status = .pending then
        if id ∈ o.lineIds then .ok (o.shortened id (h.worth_without_le id))
        else .error (.itemNotFound id)
      else .error (.itemsLocked o.status) := by
  have hany : (o.lines.any fun line => line.id == id) = true ↔ id ∈ o.lineIds := by
    simp [lineIds]
  unfold removeLine
  rw [ensureOpen_eq]
  by_cases hopen : o.status = .pending
  · rw [if_pos hopen, if_pos hopen, ok_bind]
    by_cases hm : id ∈ o.lineIds
    · rw [if_pos hm, if_pos (hany.mpr hm)]
      show o.withLines (o.without id) = _
      have hcurrency : ∀ l ∈ o.without id, l.unitPrice.currency = o.total.currency := fun l hl =>
        h.currency l (mem_of_mem_without hl)
      rw [withLines, sumLines_eq hcurrency, Money.ofNat_of_le (h.worth_without_le id)]
      rfl
    · rw [if_neg hm, if_neg fun hn => hm (hany.mp hn)]
      rfl
  · rw [if_neg hopen, if_neg hopen]
    rfl

theorem shortened (h : o.Consistent) (hopen : o.status = .pending) (id : LineId) :
    (o.shortened id (h.worth_without_le id)).Consistent where
  total := rfl
  currency l hl := h.currency l (mem_of_mem_without hl)
  quantity l hl := h.quantity l (mem_of_mem_without hl)
  products := h.products.sublist (List.eraseP_sublist.map _)
  filled ht := by
    have ht : o.status.takesStock = true := ht
    rw [hopen] at ht
    cases ht
  reason := h.reason

end Consistent

/-! ### Moving on -/

namespace Consistent

/-- **What confirming answers.**  All lines can be told of, since they come to the total. -/
theorem confirm_cases (h : o.Consistent) :
    (o.status ≠ .pending ∧ o.confirm = .error (.invalidTransition o.status .confirmed)) ∨
      (o.status = .pending ∧ o.lines = [] ∧ o.confirm = .error .noItems) ∨
        (o.status = .pending ∧ o.lines ≠ [] ∧
          ∃ items, List.Forall₂ LineSnapshot.Tells items o.lines ∧
            o.confirm = .ok { o with
              status := .confirmed
              pending := o.pending ++ [.confirmed o.id o.customerId o.storeId o.total items] }) := by
  by_cases hopen : o.status = .pending
  · by_cases hlines : o.lines = []
    · refine .inr (.inl ⟨hopen, hlines, ?_⟩)
      unfold confirm ensureMove
      rw [if_pos (OrderStatus.canMoveTo_confirmed_iff.mpr hopen), ok_bind, hlines]
      rfl
    · exact .inr (.inr ⟨hopen, hlines, confirm_eq hopen hlines h.worth_le⟩)
  · refine .inl ⟨hopen, ?_⟩
    unfold confirm ensureMove
    rw [if_neg fun hm => hopen (OrderStatus.canMoveTo_confirmed_iff.mp hm)]
    rfl

theorem confirm_ok (h : o.Consistent) (ho : o.confirm = .ok o') :
    o.status = .pending ∧ o.lines ≠ [] ∧
      ∃ items, List.Forall₂ LineSnapshot.Tells items o.lines ∧ o' = { o with
        status := .confirmed
        pending := o.pending ++ [.confirmed o.id o.customerId o.storeId o.total items] } := by
  rcases h.confirm_cases with ⟨_, he⟩ | ⟨_, _, he⟩ | ⟨hopen, hlines, items, htold, he⟩
  · rw [he] at ho
    cases ho
  · rw [he] at ho
    cases ho
  · rw [he] at ho
    cases ho
    exact ⟨hopen, hlines, items, htold, rfl⟩

theorem confirmed (h : o.Consistent) (ho : o.confirm = .ok o') : o'.Consistent := by
  obtain ⟨hopen, hlines, _, _, rfl⟩ := h.confirm_ok ho
  refine ⟨h.total, h.currency, h.quantity, h.products, fun _ => hlines, ?_⟩
  rw [h.reason, hopen]
  simp

theorem cancelled (h : o.Consistent) {reason : String} (ho : o.cancel reason = .ok o') :
    o'.Consistent := by
  obtain ⟨_, rfl⟩ := cancel_eq_ok_iff.mp ho
  exact ⟨h.total, h.currency, h.quantity, h.products, nofun, by simp⟩

theorem advanced (h : o.Consistent) {now : Timestamp} {transition : OrderTransition}
    (ho : o.advance now transition = .ok o') : o'.Consistent := by
  obtain ⟨htakes, htakes', he⟩ := advance_eq_ok ho
  rw [he]
  refine ⟨h.total, h.currency, h.quantity, h.products, fun _ => h.filled htakes, ?_⟩
  have hne := OrderStatus.ne_cancelled_of_takesStock htakes
  have hne' := OrderStatus.ne_cancelled_of_takesStock htakes'
  rw [h.reason]
  exact ⟨fun hc => absurd hc hne, fun hc => absurd hc hne'⟩

end Consistent

/-! ### One call -/

/-- **What a call does that is carried out.**  It merges something into the lines of a pending
order, it takes a line of one away, or it leaves lines and total alone. -/
theorem Consistent.answer_cases (h : o.Consistent) {result : Option LineId}
    (ho : o.answer call = .ok (result, o')) :
    (∃ a, ∃ ha : o.Admits a, call = .add a ∧ result = some (o.lineIdFor a) ∧
        o' = o.extended a ha.affordable) ∨
      (∃ id, call = .remove id ∧ o.status = .pending ∧
          o' = o.shortened id (h.worth_without_le id)) ∨
        (call.fresh? = none ∧ o.SameTerms o' ∧ o'.Consistent) := by
  cases call with
  | add a =>
    obtain ⟨⟨_, _⟩, ha, he⟩ := bind_eq_ok_iff.mp ho
    cases he
    obtain ⟨hadmits, rfl, rfl⟩ := h.add_eq_ok_iff.mp ha
    exact .inl ⟨a, hadmits, rfl, rfl, rfl⟩
  | remove id =>
    obtain ⟨_, hr, he⟩ := bind_eq_ok_iff.mp ho
    cases he
    rw [h.removeLine_eq] at hr
    split at hr
    · split at hr
      · cases hr
        exact .inr (.inl ⟨id, rfl, ‹_›, rfl⟩)
      · cases hr
    · cases hr
  | confirm =>
    obtain ⟨_, hc, he⟩ := bind_eq_ok_iff.mp ho
    cases he
    obtain ⟨_, _, items, _, rfl⟩ := h.confirm_ok hc
    exact .inr (.inr ⟨rfl, ⟨rfl, rfl, rfl, rfl, rfl, rfl⟩, h.confirmed hc⟩)
  | cancel reason =>
    obtain ⟨_, hc, he⟩ := bind_eq_ok_iff.mp ho
    cases he
    obtain ⟨_, rfl⟩ := cancel_eq_ok_iff.mp hc
    exact .inr (.inr ⟨rfl, ⟨rfl, rfl, rfl, rfl, rfl, rfl⟩, h.cancelled hc⟩)
  | advance transition now =>
    obtain ⟨_, hm, he⟩ := bind_eq_ok_iff.mp ho
    cases he
    refine .inr (.inr ⟨rfl, ?_, h.advanced hm⟩)
    obtain ⟨_, _, he⟩ := advance_eq_ok hm
    rw [he]
    exact ⟨rfl, rfl, rfl, rfl, rfl, rfl⟩
  | settle =>
    cases ho
    exact .inr (.inr ⟨rfl, ⟨rfl, rfl, rfl, rfl, rfl, rfl⟩,
      h.total, h.currency, h.quantity, h.products, h.filled, h.reason⟩)

/-- **A call leaves a consistent order.** -/
theorem Consistent.after (h : o.Consistent) (call : OrderCall) : (o.after call).Consistent := by
  refine after_keeps h fun result o' ho => ?_
  rcases h.answer_cases ho with ⟨a, ha, _, _, rfl⟩ | ⟨id, _, hopen, rfl⟩ | ⟨_, _, ho'⟩
  · exact h.extended ha
  · exact h.shortened hopen id
  · exact ho'

theorem Consistent.currency_after (h : o.Consistent) (call : OrderCall) :
    (o.after call).total.currency = o.total.currency := by
  refine after_keeps (p := fun o' => o'.total.currency = o.total.currency) rfl
    fun result o' ho => ?_
  rcases h.answer_cases ho with ⟨a, ha, _, _, rfl⟩ | ⟨id, _, _, rfl⟩ | ⟨_, hterms, _⟩
  · rfl
  · rfl
  · rw [hterms.total]

/-- Lines and total change only while the order is pending. -/
theorem Consistent.locked (h : o.Consistent) (hlocked : o.status ≠ .pending) (call : OrderCall) :
    (o.after call).lines = o.lines ∧ (o.after call).total = o.total := by
  refine after_keeps (p := fun o' => o'.lines = o.lines ∧ o'.total = o.total) ⟨rfl, rfl⟩
    fun result o' ho => ?_
  rcases h.answer_cases ho with ⟨a, ha, _, _, _⟩ | ⟨id, _, hopen, _⟩ | ⟨_, hterms, _⟩
  · exact absurd ha.pending hlocked
  · exact absurd hopen hlocked
  · exact ⟨hterms.lines, hterms.total⟩

/-- The identifiers are different, and all of them have been given out. -/
structure Issued (used ids : List LineId) : Prop where
  nodup : ids.Nodup
  used : ∀ id ∈ ids, id ∈ used

/-- An addition goes onto a line that there is, or onto a new one at the end. -/
theorem lineIds_extended {a : Addition} (ha : o.Admits a) :
    (o.extended a ha.affordable).lineIds = o.lineIds ∨
      (o.extended a ha.affordable).lineIds = o.lineIds ++ [a.fresh] := by
  unfold lineIds
  show (a.mergeInto o.lines).map _ = _ ∨ (a.mergeInto o.lines).map _ = _
  by_cases hm : a.product ∈ o.lines.map (·.productId)
  · exact .inl (map_mergeLine_of_mem (·.id) (fun _ _ => rfl) hm)
  · refine .inr ?_
    rw [Addition.mergeInto, mergeLine_of_not_mem hm, List.map_append]
    rfl

/-- A call keeps identifiers apart as long as it brings a new one along. -/
theorem Consistent.issued_after (h : o.Consistent) {used : List LineId}
    (hids : Issued used o.lineIds) (hnew : ∀ id, call.fresh? = some id → id ∉ used) :
    Issued (used ++ call.fresh?.toList) (o.after call).lineIds := by
  have hmono : Issued (used ++ call.fresh?.toList) o.lineIds :=
    ⟨hids.nodup, fun id hid => List.mem_append_left _ (hids.used id hid)⟩
  refine after_keeps (p := fun o' => Issued (used ++ call.fresh?.toList) o'.lineIds) hmono
    fun result o' ho => ?_
  rcases h.answer_cases ho with ⟨a, ha, rfl, _, rfl⟩ | ⟨id, _, _, rfl⟩ | ⟨_, hterms, _⟩
  · rcases lineIds_extended ha with hsame | hmore
    · rw [hsame]
      exact hmono
    · rw [hmore]
      have hfresh : a.fresh ∉ o.lineIds := fun hm => hnew a.fresh rfl (hids.used _ hm)
      refine ⟨List.concat_eq_append ▸ List.Nodup.concat hfresh hids.nodup, fun id hid => ?_⟩
      rcases List.mem_append.mp hid with hid | hid
      · exact hmono.used id hid
      · exact List.mem_append_right _ hid
  · have hsub : ((o.without id).map (·.id)).Sublist o.lineIds := List.eraseP_sublist.map _
    exact ⟨hmono.nodup.sublist hsub, fun id hid => hmono.used id (hsub.subset hid)⟩
  · rw [lineIds, hterms.lines]
    exact hmono

/-! ### Any number of calls -/

/-- **Calls leave a consistent order**, however many. -/
theorem Consistent.afterAll (h : o.Consistent) (calls : List OrderCall) :
    (o.afterAll calls).Consistent :=
  InPlace.afterAll_keeps h (fun _ call h => h.after call) calls

theorem Consistent.currency_afterAll (h : o.Consistent) (calls : List OrderCall) :
    (o.afterAll calls).total.currency = o.total.currency := by
  have hkeeps : ∀ (o' : Order) (call : OrderCall),
      o'.Consistent ∧ o'.total.currency = o.total.currency →
        (o'.after call).Consistent ∧ (o'.after call).total.currency = o.total.currency :=
    fun _ call h' => ⟨h'.1.after call, (h'.1.currency_after call).trans h'.2⟩
  exact (InPlace.afterAll_keeps ⟨h, rfl⟩ hkeeps calls).2

/-- Lines are kept apart by calls that bring different identifiers along. -/
theorem Consistent.issued_afterAll (h : o.Consistent) {used : List LineId}
    (hids : Issued used o.lineIds) (calls : List OrderCall)
    (hfresh : (used ++ calls.filterMap OrderCall.fresh?).Nodup) :
    (o.afterAll calls).lineIds.Nodup := by
  induction calls generalizing o used with
  | nil => exact hids.nodup
  | cons call rest ih =>
    have hsplit : (call :: rest).filterMap OrderCall.fresh? =
        call.fresh?.toList ++ rest.filterMap OrderCall.fresh? := by
      cases h : call.fresh? <;> simp [h]
    rw [hsplit, ← List.append_assoc] at hfresh
    refine ih (h.after call) (h.issued_after hids fun id hid hused => ?_) hfresh
    have hdisjoint := (List.nodup_append.mp (List.nodup_append.mp hfresh).1).2.2
    exact hdisjoint id hused id (by rw [hid]; exact List.mem_singleton.mpr rfl) rfl

section Create
variable {id : OrderId} {customer : CustomerId} {store : StoreId} {currency : String}
  {now : Timestamp} {o₀ : Order}

/-- An order begins with no lines, pending, and with a total of nothing. -/
theorem create_eq_ok (h : create id customer store currency now = .ok o₀) :
    o₀.lines = [] ∧ o₀.status = .pending ∧ o₀.total.amount = 0 ∧ o₀.cancellationReason = none := by
  obtain ⟨total, htotal, he⟩ := bind_eq_ok_iff.mp h
  cases he
  have htotal : Money.zero currency = .ok total := mapError_eq_ok_iff.mp htotal
  obtain ⟨_, _, hzero⟩ := bind_eq_ok_iff.mp htotal
  exact ⟨rfl, rfl, (Money.ofNat_eq_ok_iff.mp hzero).1, rfl⟩

theorem consistent_create (h : create id customer store currency now = .ok o₀) :
    o₀.Consistent := by
  obtain ⟨hlines, hstatus, htotal, hreason⟩ := create_eq_ok h
  refine ⟨?_, ?_, ?_, ?_, ?_, ?_⟩
  · rw [htotal, hlines]
    rfl
  · simp [hlines]
  · simp [hlines]
  · simp [hlines]
  · rw [hstatus]
    nofun
  · simp [hreason, hstatus]

/-! ### What calls uphold -/

/-- **What can be said of an order in a currency, whatever it has been asked for.** -/
structure Upheld (currency : Currency) (o : Order) : Prop where
  /-- The total is the exact sum of price times quantity, which is an amount of money. -/
  total : o.total.amount = (o.lines.map fun l => l.unitPrice.amount * l.quantity.toNat).sum
  bounded : (o.lines.map fun l => l.unitPrice.amount * l.quantity.toNat).sum ≤ Money.maxAmount
  currency : o.total.currency = currency ∧ ∀ l ∈ o.lines, l.unitPrice.currency = currency
  quantity : ∀ l ∈ o.lines, 1 ≤ l.quantity.toNat
  products : (o.lines.map (·.productId)).Nodup
  ids : (o.lines.map (·.id)).Nodup
  /-- Once confirmed and not cancelled, the order has lines. -/
  filled : o.status ∈ [.confirmed, .preparing, .ready, .completed] → 1 ≤ o.lines.length
  reason : o.cancellationReason.isSome = true ↔ o.status = .cancelled
  /-- The next call changes lines and total only if the order is pending. -/
  locked : ∀ call, o.status ≠ .pending →
    (o.after call).lines = o.lines ∧ (o.after call).total = o.total
  /-- In place, the next call makes of the order what the operations of `Order` make of it, -/
  done : ∀ call result o', o.perform call = (.ok result, o') ↔ o.answer call = .ok (result, o')
  /-- and leaves it as it was in all of its fields if it is refused. -/
  refused : ∀ call e o', o.perform call = (.error e, o') ↔ o.answer call = .error e ∧ o' = o

/-- **Whatever is asked of an order, however often, it stays as it should be**, as long as new lines
are given different identifiers. -/
theorem calls_uphold (h : create id customer store currency now = .ok o₀)
    (calls : List OrderCall) (hfresh : (calls.filterMap OrderCall.fresh?).Nodup) :
    (o₀.afterAll calls).Upheld o₀.total.currency := by
  have hstart := consistent_create h
  have hnow := hstart.afterAll calls
  have hcurrency := hstart.currency_afterAll calls
  have hids : Issued [] o₀.lineIds := by
    rw [lineIds, (create_eq_ok h).1]
    exact ⟨List.nodup_nil, fun _ hid => hid⟩
  refine ⟨hnow.total, hnow.worth_le, ⟨hcurrency, fun l hl => ?_⟩, hnow.quantity, hnow.products,
    hstart.issued_afterAll hids calls hfresh, fun hs => ?_, hnow.reason, fun call hs => ?_,
    fun _ _ _ => perform_eq_ok_iff, fun _ _ _ => perform_eq_error_iff⟩
  · rw [hnow.currency l hl, hcurrency]
  · refine List.length_pos_iff.mpr (hnow.filled ?_)
    simp only [List.mem_cons, List.not_mem_nil, or_false] at hs
    rcases hs with hs | hs | hs | hs <;> (rw [hs]; rfl)
  · exact hnow.locked hs call

end Create

/-- A new order in dollars. -/
def Sample.draft : Order where
  id := default
  customerId := default
  storeId := default
  lines := []
  status := .pending
  total := default
  placedAt := .epoch
  cancellationReason := none
  pending := [.created default default default .epoch]

def Sample.euro : Currency := ⟨"EUR", by decide⟩

theorem Sample.create_draft :
    create default default default "usd" .epoch = .ok Sample.draft := by
  decide +kernel

/-- A price in a currency. -/
def Sample.cents (n : Nat) (c : Currency) : Money :=
  if h : n ≤ Money.maxAmount then ⟨n, c, h⟩ else default

/-- An addition with a number, of a product with a number. -/
def Sample.tea (n product : Nat) (quantity : Count) (price : Money) : Addition :=
  ⟨(Supply.nth 0).line n, (Supply.nth product).id .product, "Tea", quantity, price⟩

/-- Two lines come to the largest amount, so that the order takes nothing more until one of them
has been taken away.  It takes nothing more once it is confirmed, and is cancelled once. -/
def Sample.afternoon : List OrderCall := [
  .add (tea 0 1 2 (cents 150 default)),
  .add (tea 1 2 1 (cents (Money.maxAmount - 300) default)),
  .add (tea 2 1 3 (cents 150 default)),
  .remove ((Supply.nth 0).line 1),
  .add (tea 3 1 3 (cents 150 default)),
  .confirm,
  .add (tea 4 3 1 (cents 100 default)),
  .cancel "No more thirst",
  .cancel "No more hunger"]

theorem calls_uphold_afternoon :
    let o := Sample.draft.afterAll Sample.afternoon
    create default default default "usd" .epoch = .ok Sample.draft ∧
      (Sample.afternoon.filterMap OrderCall.fresh?).Nodup ∧
      o.Upheld Sample.draft.total.currency ∧
      o.lines.map (·.quantity) = [5] ∧ o.total.amount = 750 ∧ o.status = .cancelled ∧
      o.cancellationReason = some "No more thirst" := by
  have hfresh : (Sample.afternoon.filterMap OrderCall.fresh?).Nodup := by decide +kernel
  exact ⟨Sample.create_draft, hfresh,
    calls_uphold Sample.create_draft Sample.afternoon hfresh, by decide +kernel⟩

/-! ### Sums that cannot fail -/

/-- **What can be added up in an order.** -/
structure SumsUp (o : Order) : Prop where
  /-- Each line comes to an amount of money and can be told of with it, -/
  lines : ∀ l ∈ o.lines, ∃ total s, l.total = .ok total ∧ l.snapshot = .ok s ∧ s.total = total ∧
    s.Tells l
  /-- and so can all of them. -/
  snapshots : ∃ items, o.snapshots = .ok items ∧ List.Forall₂ LineSnapshot.Tells items o.lines
  /-- A line is taken away unless the lines are locked or there is no such line. -/
  remove : ∀ id e o', o.perform (.remove id) = (.error e, o') → o' = o ∧
    (o.status ≠ .pending ∧ e = .itemsLocked o.status ∨
      o.status = .pending ∧ id ∉ o.lineIds ∧ e = .itemNotFound id)
  /-- The order is confirmed unless it is past that or has no lines, -/
  confirm : ∀ e o', o.perform .confirm = (.error e, o') → o' = o ∧
    (o.status ≠ .pending ∧ e = .invalidTransition o.status .confirmed ∨
      o.status = .pending ∧ o.lines = [] ∧ e = .noItems)
  /-- and then tells of its lines one by one, in amounts that come to its total. -/
  told : ∀ r o', o.perform .confirm = (.ok r, o') → ∃ items,
    o'.pending = o.pending ++ [.confirmed o'.id o'.customerId o'.storeId o'.total items] ∧
      List.Forall₂ LineSnapshot.Tells items o'.lines ∧
      (∀ s ∈ items, s.total.currency = o'.total.currency) ∧
      (items.map (·.total.amount)).sum = o'.total.amount

namespace Consistent

theorem remove_refused (h : o.Consistent) {e : OrderError}
    (he : o.answer (.remove id) = .error e) :
    o.status ≠ .pending ∧ e = .itemsLocked o.status ∨
      o.status = .pending ∧ id ∉ o.lineIds ∧ e = .itemNotFound id := by
  rw [answer, h.removeLine_eq] at he
  split at he
  · split at he
    · cases he
    · cases he
      exact .inr ⟨‹_›, ‹_›, rfl⟩
  · cases he
    exact .inl ⟨‹_›, rfl⟩

theorem confirm_refused (h : o.Consistent) {e : OrderError}
    (he : o.answer .confirm = .error e) :
    o.status ≠ .pending ∧ e = .invalidTransition o.status .confirmed ∨
      o.status = .pending ∧ o.lines = [] ∧ e = .noItems := by
  rw [answer] at he
  rcases h.confirm_cases with ⟨hs, hc⟩ | ⟨hs, hlines, hc⟩ | ⟨_, _, _, _, hc⟩
  · rw [hc] at he
    cases he
    exact .inl ⟨hs, rfl⟩
  · rw [hc] at he
    cases he
    exact .inr ⟨hs, hlines, rfl⟩
  · rw [hc] at he
    cases he

/-- Lines of one currency are told of in that currency. -/
theorem currency_of_told (h : o.Consistent) {items : List LineSnapshot} {lines : List OrderLine}
    (hsub : lines ⊆ o.lines) (htold : List.Forall₂ LineSnapshot.Tells items lines) :
    ∀ s ∈ items, s.total.currency = o.total.currency := by
  induction htold with
  | nil => simp
  | cons htells _ ih =>
    rw [List.cons_subset] at hsub
    rintro s (_ | ⟨_, hs⟩)
    · rw [htells.currency, h.currency _ hsub.1]
    · exact ih hsub.2 s hs

/-- **In a consistent order everything can be added up.** -/
theorem sumsUp (h : o.Consistent) : o.SumsUp where
  lines l hl := by
    obtain ⟨total, s, htotal, hs, htells⟩ :=
      OrderLine.snapshot_of_le (Nat.le_trans (OrderLine.worth_le hl) h.worth_le)
    refine ⟨total, s, htotal, hs, ?_, htells⟩
    rw [OrderLine.snapshot, htotal] at hs
    cases hs
    rfl
  snapshots := snapshots_of_worth_le h.worth_le
  remove id e o' hp := by
    obtain ⟨he, ho'⟩ := perform_eq_error_iff.mp hp
    exact ⟨ho', h.remove_refused he⟩
  confirm e o' hp := by
    obtain ⟨he, ho'⟩ := perform_eq_error_iff.mp hp
    exact ⟨ho', h.confirm_refused he⟩
  told r o' hp := by
    obtain ⟨_, hc, he⟩ := bind_eq_ok_iff.mp (perform_eq_ok_iff.mp hp)
    cases he
    obtain ⟨_, _, items, htold, rfl⟩ := h.confirm_ok hc
    exact ⟨items, rfl, htold, h.currency_of_told (List.Subset.refl _) htold,
      (sum_of_told htold).trans h.total.symm⟩

end Consistent

/-- **Whatever has been asked of an order, it can be added up**: what the lines come to has been
checked when they were added. -/
theorem calls_sum_up {id : OrderId} {customer : CustomerId} {store : StoreId} {currency : String}
    {now : Timestamp} {o₀ : Order} (h : create id customer store currency now = .ok o₀)
    (calls : List OrderCall) : (o₀.afterAll calls).SumsUp :=
  ((consistent_create h).afterAll calls).sumsUp

/-- The largest amount can be confirmed, and so can what is left when a line is taken away. -/
theorem calls_sum_up_afternoon :
    let o := Sample.draft.afterAll (Sample.afternoon.take 2)
    let o' := Sample.draft.afterAll (Sample.afternoon.take 4)
    create default default default "usd" .epoch = .ok Sample.draft ∧
      o.SumsUp ∧ o.total.amount = Money.maxAmount ∧ (o.perform .confirm).1 = .ok none ∧
      o'.SumsUp ∧ o'.total.amount = 300 ∧ (o'.perform .confirm).1 = .ok none := by
  exact ⟨Sample.create_draft, calls_sum_up Sample.create_draft _, by decide +kernel,
    by decide +kernel, calls_sum_up Sample.create_draft _, by decide +kernel, by decide +kernel⟩

/-! ### Foreign currencies -/

/-- **What does not get into an order** with an addition in another currency. -/
structure KeepsOut (o : Order) (a : Addition) : Prop where
  /-- It does not become a line: it is refused for its currency, unless it is too expensive by
  itself. -/
  refused : o.lineOf? a.product = none → o.perform (.add a) =
    (.error (.money (if a.cost ≤ Money.maxAmount then
      .currencyMismatch o.total.currency.code a.price.currency.code else .overflow)), o)
  /-- It changes nothing about the lines that there are but how much of something is ordered, -/
  kept : (o.after (.add a)).lines.map ({ · with quantity := 0 }) =
    o.lines.map ({ · with quantity := 0 })
  /-- so that all of them are in the currency of the order, which stays the same. -/
  currency : (o.after (.add a)).total.currency = o.total.currency ∧
    ∀ l ∈ (o.after (.add a)).lines, l.unitPrice.currency = o.total.currency

theorem Consistent.keepsOut (h : o.Consistent) (hopen : o.status = .pending) {a : Addition}
    (hpos : 0 < a.quantity.toNat) (hforeign : o.total.currency ≠ a.price.currency) :
    o.KeepsOut a where
  refused hnew := by
    have hadd := h.add_new hopen (Repositories.quantity_pos_iff.mp hpos) hnew
    rw [if_neg hforeign] at hadd
    rw [perform_eq, answer, hadd]
    split <;> rfl
  kept := by
    refine after_keeps (p := fun o' => o'.lines.map ({ · with quantity := 0 }) = _) rfl
      fun result o' ho => ?_
    rcases h.answer_cases ho with ⟨_, ha, he, _, rfl⟩ | ⟨_, he, _⟩ | ⟨he, _⟩
    · cases he
      have hmem : a.product ∈ o.lines.map (·.productId) := by
        by_contra hnew
        exact hforeign (ha.currency (lineOf?_eq_none_iff.mpr hnew))
      exact map_mergeLine_of_mem _ (fun _ _ => rfl) hmem
    · cases he
    · cases he
  currency := by
    have hcurrency := h.currency_after (.add a)
    refine ⟨hcurrency, fun l hl => ?_⟩
    rw [(h.after _).currency l hl, hcurrency]

/-- **No line is in a foreign currency**, whatever has been asked of the order. -/
theorem foreign_price {id : OrderId} {customer : CustomerId} {store : StoreId} {currency : String}
    {now : Timestamp} {o₀ : Order} (h : create id customer store currency now = .ok o₀)
    (calls : List OrderCall) (hopen : (o₀.afterAll calls).status = .pending) {a : Addition}
    (hpos : 0 < a.quantity.toNat) (hforeign : a.price.currency ≠ o₀.total.currency) :
    (o₀.afterAll calls).KeepsOut a := by
  have hstart := consistent_create h
  refine (hstart.afterAll calls).keepsOut hopen hpos ?_
  rw [hstart.currency_afterAll calls]
  exact Ne.symm hforeign

theorem foreign_price_euro :
    let o := Sample.draft.afterAll (Sample.afternoon.take 1)
    let a := Sample.tea 7 2 2 (Sample.cents 100 Sample.euro)
    create default default default "usd" .epoch = .ok Sample.draft ∧ o.status = .pending ∧
      0 < a.quantity.toNat ∧ a.price.currency ≠ Sample.draft.total.currency ∧ o.KeepsOut a ∧
      o.perform (.add a) = (.error (.money (.currencyMismatch "USD" "EUR")), o) := by
  have hopen : (Sample.draft.afterAll (Sample.afternoon.take 1)).status = .pending := by
    decide +kernel
  have hpos : 0 < (Sample.tea 7 2 2 (Sample.cents 100 Sample.euro)).quantity.toNat := by decide
  have hforeign : Sample.euro ≠ Sample.draft.total.currency := by decide +kernel
  exact ⟨Sample.create_draft, hopen, hpos, hforeign,
    foreign_price Sample.create_draft _ hopen hpos hforeign, by decide +kernel⟩

/-- An addition in another currency can be refused because it is too expensive, whatever its
currency, and one for a line that there is can be taken. -/
theorem foreign_price_unnoticed :
    let o := Sample.draft.afterAll (Sample.afternoon.take 1)
    let large := Sample.tea 7 2 2 (Sample.cents Money.maxAmount Sample.euro)
    let more := Sample.tea 8 1 1 (Sample.cents 100 Sample.euro)
    create default default default "usd" .epoch = .ok Sample.draft ∧ o.status = .pending ∧
      Sample.euro ≠ o.total.currency ∧
      (o.perform (.add large)).1 = .error (.money .overflow) ∧
      (o.perform (.add more)).1 = .ok (some ((Supply.nth 0).line 0)) ∧
      (o.after (.add more)).total.amount = 450 := by
  decide +kernel

end Order

end Storefront
