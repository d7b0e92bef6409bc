import Mathlib.Data.List.Nodup
import Storefront.Proofs.Editing
import Storefront.Proofs.OrderView

/-! # Consistent orders

In an order that is *consistent*, the total is the exact sum of what the lines are worth, all of
them in one currency, and the status fits the lines.  Of such an order one can say exactly what an
addition answers.  It goes onto the line of its product if there is one
(`Order.Consistent.add_more`) and onto a new line otherwise (`Order.Consistent.add_new`); only on a
new line does its price matter, and with it the currency.  Either way it is carried out if and only
if the order admits it (`Order.Consistent.add_eq_ok_iff`), and leaves a consistent order.
-/
namespace Storefront

namespace Order

section Merge
variable {fresh : LineId} {product : ProductId} {name : String} {quantity : Count}
  {price : Money} {lines : List OrderLine} {l : OrderLine}

/-- There is something of every product that there is a line of. -/
theorem quantity_pos_mergeLine (hpos : ∀ k ∈ lines, 0 < k.quantity.toNat)
    (hq : 0 < quantity.toNat)
    (hfit : ∀ k ∈ lines, k.productId = product →
      k.quantity.toNat + quantity.toNat < UInt32.size)
    (h : l ∈ mergeLine fresh product name quantity price lines) : 0 < l.quantity.toNat := by
  induction lines with
  | nil =>
    rw [List.mem_singleton.mp h]
    exact hq
  | cons k rest ih =>
    rw [mergeLine] at h
    have hrest : ∀ k ∈ rest, 0 < k.quantity.toNat := fun k hk =>
      hpos k (List.mem_cons_of_mem _ hk)
    by_cases hk : k.productId = product
    · rw [if_pos hk] at h
      rcases List.mem_cons.mp h with rfl | h
      · show 0 < (k.quantity + quantity).toNat
        rw [Count.toNat_add_of_lt (hfit k (List.mem_cons_self ..) hk)]
        omega
      · exact hrest l h
    · rw [if_neg hk] at h
      rcases List.mem_cons.mp h with rfl | h
      · exact hpos l (List.mem_cons_self ..)
      · exact ih hrest (fun k hk => hfit k (List.mem_cons_of_mem _ hk)) h

end Merge

/-- A line at the end is summed up last. -/
theorem sumLines_snoc {c : Currency} {lines : List OrderLine}
    (hc : ∀ l ∈ lines, l.unitPrice.currency = c) (hw : worth lines ≤ Money.maxAmount)
    (l : OrderLine) :
    sumLines c (lines ++ [l]) = (do Money.add ⟨worth lines, c, hw⟩ (← l.total)) := by
  have hlines : sumLines c lines = .ok ⟨worth lines, c, hw⟩ := by
    rw [sumLines_eq hc, Money.ofNat_of_le hw]
  unfold sumLines at hlines ⊢
  rw [List.foldlM_append, hlines, ok_bind, List.foldlM_cons]
  cases l.total with
  | error e => rfl
  | ok m =>
    rw [ok_bind]
    cases Money.add ⟨worth lines, c, hw⟩ m <;> rfl

theorem lineOf?_eq_none_iff {o : Order} {product : ProductId} :
    o.lineOf? product = none ↔ product ∉ o.lines.map (·.productId) := by
  simp [lineOf?]

theorem mem_of_lineOf? {o : Order} {product : ProductId} {l : OrderLine}
    (h : o.lineOf? product = some l) : l ∈ o.lines ∧ l.productId = product := by
  unfold lineOf? at h
  exact ⟨List.mem_of_find?_eq_some h, by simpa using List.find?_some h⟩

end Order

/-! ### Additions -/

namespace Addition

/-- The price times the quantity, as a number. -/
def cost (a : Addition) : Nat := a.price.amount * a.quantity.toNat

/-- The line that the addition becomes. -/
def line (a : Addition) : OrderLine := ⟨a.fresh, a.product, a.name, a.quantity, a.price⟩

/-- The lines with what is added merged in. -/
def mergeInto (a : Addition) (lines : List OrderLine) : List OrderLine :=
  Order.mergeLine a.fresh a.product a.name a.quantity a.price lines

end Addition

namespace Order

/-- The identifier of the line that an addition goes onto. -/
def lineIdFor (o : Order) (a : Addition) : LineId :=
  ((o.lineOf? a.product).map (·.id)).getD a.fresh

/-- The order with an addition merged in that is not worth too much. -/
def extended (o : Order) (a : Addition) (h : worth (a.mergeInto o.lines) ≤ Money.maxAmount) :
    Order :=
  { o with
    lines := a.mergeInto o.lines
    total := ⟨worth (a.mergeInto o.lines), o.total.currency, h⟩ }

/-- **The lines, the total and the status of the order fit together.** -/
structure Consistent (o : Order) : Prop where
  total : o.total.amount = worth o.lines
  currency : ∀ l ∈ o.lines, l.unitPrice.currency = o.total.currency
  quantity : ∀ l ∈ o.lines, 0 < l.quantity.toNat
  products : (o.lines.map (·.productId)).Nodup
  /-- Only an order that has lines is confirmed. -/
  filled : o.status.takesStock = true → o.lines ≠ []
  reason : o.cancellationReason.isSome = true ↔ o.status = .cancelled

namespace Consistent

variable {o o' : Order} {a : Addition} {l : OrderLine}

theorem worth_le (h : o.Consistent) : worth o.lines ≤ Money.maxAmount := h.total ▸ o.total.amount_le

/-- A line has all that there is of its product. -/
theorem quantityOf_of_mem (h : o.Consistent) (hl : l ∈ o.lines) :
    o.quantityOf l.productId = l.quantity.toNat := by
  refine tally_of_mem (e := l.entry) ?_ (List.mem_map.mpr ⟨l, hl, rfl⟩)
  rw [map_fst_entry]
  exact h.products

theorem quantityOf_eq (h : o.Consistent) {product : ProductId}
    (hl : o.lineOf? product = some l) : o.quantityOf product = l.quantity.toNat := by
  obtain ⟨hmem, rfl⟩ := mem_of_lineOf? hl
  exact h.quantityOf_of_mem hmem

theorem quantityOf_eq_zero {product : ProductId} (hl : o.lineOf? product = none) :
    o.quantityOf product = 0 := by
  refine tally_eq_zero ?_
  rw [map_fst_entry]
  exact lineOf?_eq_none_iff.mp hl

/-- Lines are open if and only if the order is pending. -/
theorem ensureOpen_eq (o : Order) :
    o.ensureOpen = if o.status = .pending then .ok () else .error (.itemsLocked o.status) := by
  unfold ensureOpen OrderStatus.canChangeLines
  simp only [beq_iff_eq]

/-- **What an addition for a new product answers.**  Its own cost is checked first, then its
currency, and then what everything comes to. -/
theorem add_new (h : o.Consistent) (hopen : o.status = .pending) (hq : a.quantity ≠ 0)
    (hnew : o.lineOf? a.product = none) :
    o.add a =
      if a.cost ≤ Money.maxAmount then
        if o.total.currency = a.price.currency then
          if hle : worth (a.mergeInto o.lines) ≤ Money.maxAmount then
            .ok (o.lineIdFor a, o.extended a hle)
          else .error (.money .overflow)
        else .error (.money (.currencyMismatch o.total.currency.code a.price.currency.code))
      else .error (.money .overflow) := by
  have hnot := lineOf?_eq_none_iff.mp hnew
  have hmerge : a.mergeInto o.lines = o.lines ++ [a.line] := mergeLine_of_not_mem hnot
  have hworth : worth (a.mergeInto o.lines) = worth o.lines + a.cost := by
    rw [hmerge, worth_append]
    rfl
  have hmake : OrderLine.make a.fresh a.product a.name a.quantity a.price = a.line.checkTotal :=
    if_neg hq
  have htotal : a.line.total = Money.ofNat a.cost a.price.currency := rfl
  unfold add addLine
  rw [ensureOpen_eq, if_pos hopen, ok_bind, if_neg hq, placeLine_of_not_mem hnot, hmake,
    OrderLine.checkTotal, htotal]
  by_cases hcost : a.cost ≤ Money.maxAmount
  · rw [if_pos hcost, Money.ofNat_of_le hcost]
    show (o.withLines (o.lines ++ [a.line]) >>= fun o' => .ok (a.fresh, o')) = _
    rw [withLines, sumLines_snoc h.currency h.worth_le, htotal, Money.ofNat_of_le hcost, ok_bind,
      Money.add]
    by_cases hcur : o.total.currency = a.price.currency
    · rw [if_pos hcur, if_pos hcur]
      by_cases hle : worth (a.mergeInto o.lines) ≤ Money.maxAmount
      · rw [dif_pos hle, Money.ofNat_of_le (hworth ▸ hle)]
        simp only [lineIdFor, hnew, extended, hmerge, worth_append]
        rfl
      · rw [dif_neg hle, Money.ofNat_of_not_le (hworth ▸ hle)]
        rfl
    · rw [if_neg hcur, if_neg hcur]
      rfl
  · rw [if_neg hcost, Money.ofNat_of_not_le hcost]
    rfl

/-- **What an addition for a product that is there answers.**  Its price does not matter. -/
theorem add_more (h : o.Consistent) (hopen : o.status = .pending) (hq : a.quantity ≠ 0)
    (hl : o.lineOf? a.product = some l) :
    o.add a =
      if l.quantity.toNat + a.quantity.toNat < UInt32.size then
        if hle : worth (a.mergeInto o.lines) ≤ Money.maxAmount then
          .ok (o.lineIdFor a, o.extended a hle)
        else .error (.money .overflow)
      else .error (.invalidQuantity a.quantity) := by
  have hid : o.lineIdFor a = l.id := by
    rw [lineIdFor, hl]
    rfl
  have hcurrency : ∀ k ∈ a.mergeInto o.lines, k.unitPrice.currency = o.total.currency := by
    intro k hk
    rcases mem_mergeLine hk with ⟨k', hk', he⟩ | ⟨hn, _⟩
    · rw [he]
      exact h.currency k' hk'
    · rw [lineOf?_eq_none_iff.mpr hn] at hl
      cases hl
  unfold add addLine
  rw [hid, ensureOpen_eq, if_pos hopen, ok_bind, if_neg hq, placeLine_of_find hl,
    OrderLine.addQuantity_eq, OrderLine.checkTotal_eq]
  by_cases hfit : l.quantity.toNat + a.quantity.toNat < UInt32.size
  · rw [if_pos hfit, if_pos hfit]
    have hmem : { l with quantity := l.quantity + a.quantity } ∈ a.mergeInto o.lines :=
      mem_mergeLine_of_find hl
    by_cases hone : { l with quantity := l.quantity + a.quantity }.worth ≤ Money.maxAmount
    · rw [if_pos hone]
      show (o.withLines (a.mergeInto o.lines) >>= fun o' => .ok (l.id, o')) = _
      rw [withLines, sumLines_eq hcurrency]
      by_cases hle : worth (a.mergeInto o.lines) ≤ Money.maxAmount
      · rw [dif_pos hle, Money.ofNat_of_le hle]
        rfl
      · rw [dif_neg hle, Money.ofNat_of_not_le hle]
        rfl
    · -- the line by itself is worth too much, and with it all lines are
      have hle : ¬ worth (a.mergeInto o.lines) ≤ Money.maxAmount := fun hle =>
        hone (Nat.le_trans (OrderLine.worth_le hmem) hle)
      rw [if_neg hone, dif_neg hle]
      rfl
  · rw [if_neg hfit, if_neg hfit]
    rfl

end Consistent

/-- What an addition has to be like for the order to take it. -/
structure Admits (o : Order) (a : Addition) : Prop where
  pending : o.status = .pending
  positive : 0 < a.quantity.toNat
  /-- All that there is of the product then is a count. -/
  fits : o.quantityOf a.product + a.quantity.toNat < UInt32.size
  /-- Only the price of a new line matters. -/
  currency : o.lineOf? a.product = none → o.total.currency = a.price.currency
  /-- All lines together then come to an amount of money. -/
  affordable : worth (a.mergeInto o.lines) ≤ Money.maxAmount

namespace Consistent

variable {o o' : Order} {a : Addition} {id : LineId}

/-- Nothing can be added to an order that is not pending, and not nothing. -/
theorem pending_of_add (ha : o.add a = .ok (id, o')) :
    o.status = .pending ∧ a.quantity ≠ 0 := by
  unfold add addLine at ha
  rw [ensureOpen_eq] at ha
  by_cases hopen : o.status = .pending
  · rw [if_pos hopen, ok_bind] at ha
    refine ⟨hopen, fun hq => ?_⟩
    rw [if_pos hq] at ha
    cases ha
  · rw [if_neg hopen] at ha
    cases ha

/-- An addition that is carried out is one that the order admits. -/
theorem admits_of_add (h : o.Consistent) (ha : o.add a = .ok (id, o')) :
    ∃ hadmits : o.Admits a, id = o.lineIdFor a ∧ o' = o.extended a hadmits.affordable := by
  obtain ⟨hopen, hq⟩ := pending_of_add ha
  have hpos := Repositories.quantity_pos_iff.mpr hq
  cases hl : o.lineOf? a.product with
  | none =>
    have hfit : o.quantityOf a.product + a.quantity.toNat < UInt32.size := by
      rw [quantityOf_eq_zero hl, Nat.zero_add]
      exact a.quantity.toNat_lt
    rw [h.add_new hopen hq hl] at ha
    split at ha
    · split at ha
      · split at ha
        · rename_i hcur hle
          cases ha
          exact ⟨⟨hopen, hpos, hfit, fun _ => hcur, hle⟩, rfl, rfl⟩
        · cases ha
      · cases ha
    · cases ha
  | some l =>
    rw [h.add_more hopen hq hl] at ha
    split at ha
    · rename_i hfit
      rw [← h.quantityOf_eq hl] at hfit
      split at ha
      · rename_i hle
        cases ha
        exact ⟨⟨hopen, hpos, hfit, fun hn => absurd hn (by simp [hl]), hle⟩, rfl, rfl⟩
      · cases ha
    · cases ha

/-- An addition that the order admits is carried out. -/
theorem add_of_admits (h : o.Consistent) (hadmits : o.Admits a) :
    o.add a = .ok (o.lineIdFor a, o.extended a hadmits.affordable) := by
  have hq := Repositories.quantity_pos_iff.mp hadmits.positive
  cases hl : o.lineOf? a.product with
  | none =>
    have hmem : a.line ∈ a.mergeInto o.lines := by
      rw [Addition.mergeInto, mergeLine_of_not_mem (lineOf?_eq_none_iff.mp hl)]
      exact List.mem_append_right _ (List.mem_singleton.mpr rfl)
    have hcost : a.cost ≤ Money.maxAmount :=
      Nat.le_trans (OrderLine.worth_le hmem) hadmits.affordable
    rw [h.add_new hadmits.pending hq hl, if_pos hcost, if_pos (hadmits.currency hl),
      dif_pos hadmits.affordable]
  | some l =>
    have hfit := hadmits.fits
    rw [h.quantityOf_eq hl] at hfit
    rw [h.add_more hadmits.pending hq hl, if_pos hfit, dif_pos hadmits.affordable]

/-- **An addition is carried out if and only if the order admits it**, and then it is merged into
the lines. -/
theorem add_eq_ok_iff (h : o.Consistent) :
    o.add a = .ok (id, o') ↔
      ∃ hadmits : o.Admits a, id = o.lineIdFor a ∧ o' = o.extended a hadmits.affordable := by
  constructor
  · exact h.admits_of_add
  · rintro ⟨hadmits, rfl, rfl⟩
    exact h.add_of_admits hadmits

/-- What an addition leaves is consistent. -/
theorem extended (h : o.Consistent) (ha : o.Admits a) :
    (o.extended a ha.affordable).Consistent := by
  have hline : ∀ k ∈ o.lines, k.productId = a.product →
      k.quantity.toNat + a.quantity.toNat < UInt32.size := by
    intro k hk he
    have hfit := ha.fits
    rwa [← he, h.quantityOf_of_mem hk] at hfit
  refine ⟨rfl, fun l hl => ?_, fun l hl => ?_, ?_, fun ht => ?_, h.reason⟩
  · rcases mem_mergeLine hl with ⟨k, hk, he⟩ | ⟨hn, rfl⟩
    · rw [he]
      exact h.currency k hk
    · exact (ha.currency (lineOf?_eq_none_iff.mpr hn)).symm
  · exact quantity_pos_mergeLine h.quantity ha.positive hline hl
  · by_cases hm : a.product ∈ o.lines.map (·.productId)
    · show ((a.mergeInto o.lines).map (·.productId)).Nodup
      rw [Addition.mergeInto, map_mergeLine_of_mem (·.productId) (fun _ _ => rfl) hm]
      exact h.products
    · show ((a.mergeInto o.lines).map (·.productId)).Nodup
      rw [Addition.mergeInto, mergeLine_of_not_mem hm, List.map_append]
      exact List.concat_eq_append ▸ List.Nodup.concat hm h.products
  · have ht : o.status.takesStock = true := ht
    rw [ha.pending] at ht
    cases ht

end Consistent

end Order

end Storefront
