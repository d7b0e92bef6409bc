import Storefront.Proofs.Stock

/-! # Lines and their sums

The total of an order is summed up in money, which refuses sums that are too large; the
*worth* of lines is the same sum as a natural number, which is never refused.
`Order.sumLines_eq` says that the two differ in nothing but the refusal: checking each
line and each partial sum comes to the same as checking the whole sum once, since all of
them are at most the whole.  `Order.addLine_eq` carries this over to a line that is added
to an order, where quantities are merged by product.
-/
namespace Storefront

theorem Count.toNat_add_of_lt {a b : Count} (h : a.toNat + b.toNat < UInt32.size) :
    (a + b).toNat = a.toNat + b.toNat := by
  rw [UInt32.toNat_add]
  exact Nat.mod_eq_of_lt h

theorem le_tally {entries : List (ProductId × Count)} {e : ProductId × Count}
    (h : e ∈ entries) : e.2.toNat ≤ tally e.1 entries := by
  induction entries with
  | nil => cases h
  | cons d rest ih =>
    rw [tally_cons]
    rcases List.mem_cons.mp h with rfl | hrest
    · rw [if_pos rfl]
      omega
    · have := ih hrest
      omega

namespace Currency

theorem isWhiteSpace_of_isUpper {c : Char} (h : c.isUpper = true) :
    Text.isWhiteSpace c = false := by
  have hcode : c.val ≥ 'A'.val ∧ c.val ≤ 'Z'.val := of_decide_eq_true h
  have hrange : 65 ≤ c.toNat ∧ c.toNat ≤ 90 :=
    ⟨UInt32.le_iff_toNat_le.mp hcode.1, UInt32.le_iff_toNat_le.mp hcode.2⟩
  obtain ⟨hlo, hhi⟩ := hrange
  simp only [Text.isWhiteSpace, Bool.or_eq_false_iff, Bool.and_eq_false_iff, beq_eq_false_iff_ne,
    decide_eq_false_iff_not]
  omega

theorem toUpper_of_isUpper {c : Char} (h : c.isUpper = true) : c.toUpper = c := by
  unfold Char.toUpper
  have hcode : c.val ≥ 'A'.val ∧ c.val ≤ 'Z'.val := of_decide_eq_true h
  have hhi := UInt32.le_iff_toNat_le.mp hcode.2
  rw [dif_neg]
  rintro ⟨hlo, _⟩
  have hlo' := UInt32.le_iff_toNat_le.mp hlo
  simp at hhi hlo'
  omega

theorem trimStart_of_all_isUpper {cs : List Char} (h : cs.all Char.isUpper = true) :
    Text.trimStart cs = cs := by
  cases cs with
  | nil => rfl
  | cons c rest =>
    rw [List.all_cons, Bool.and_eq_true] at h
    rw [Text.trimStart, List.dropWhile_cons, isWhiteSpace_of_isUpper h.1]
    rfl

theorem eq_of_code_eq {c d : Currency} (h : c.code = d.code) : c = d := by
  obtain ⟨code, hc⟩ := c
  subst h
  rfl

/-- **A code that is a code already is read as itself.** -/
theorem parse_of_isCode {code : String} (h : isCode code = true) : parse code = .ok ⟨code, h⟩ := by
  have hall : code.toList.all Char.isUpper = true := by
    rw [isCode, Bool.and_eq_true] at h
    exact h.2
  have htrim : Text.trim code = code := by
    rw [Text.trim, trimStart_of_all_isUpper hall, Text.trimEnd,
      trimStart_of_all_isUpper (by rw [List.all_reverse]; exact hall), List.reverse_reverse,
      String.ofList_toList]
  have hupper : Text.asciiUpper code = code := by
    rw [Text.asciiUpper]
    have hmap : code.toList.map Char.toUpper = code.toList := by
      conv => rhs; rw [← List.map_id code.toList]
      exact List.map_congr_left fun c hc => toUpper_of_isUpper (List.all_eq_true.mp hall c hc)
    rw [hmap, String.ofList_toList]
  simp [parse, htrim, hupper, h]

end Currency

theorem Money.ext {a b : Money} (ha : a.amount = b.amount) (hc : a.currency = b.currency) :
    a = b := by
  cases a
  cases b
  cases ha
  cases hc
  rfl

theorem Money.zero_of_isCode {code : String} (h : Currency.isCode code = true) :
    Money.zero code = .ok (Money.zeroOf ⟨code, h⟩) := by
  simp [Money.zero, Money.make, Currency.parse_of_isCode h, Money.ofNat, Money.zeroOf]

theorem Money.ofNat_of_le {n : Nat} (h : n ≤ maxAmount) (c : Currency) :
    ofNat n c = .ok ⟨n, c, h⟩ := dif_pos h

theorem Money.ofNat_of_not_le {n : Nat} (h : ¬ n ≤ maxAmount) (c : Currency) :
    ofNat n c = .error .overflow := dif_neg h

/-! ### Worth -/

/-- The unit price times the quantity, as a number. -/
def OrderLine.worth (l : OrderLine) : Nat := l.unitPrice.amount * l.quantity.toNat

/-- What some lines come to, as a number. -/
def worth (lines : List OrderLine) : Nat := (lines.map OrderLine.worth).sum

@[simp] theorem worth_nil : worth [] = 0 := rfl

@[simp] theorem worth_cons (l : OrderLine) (lines : List OrderLine) :
    worth (l :: lines) = l.worth + worth lines := rfl

theorem OrderLine.total_eq (l : OrderLine) : l.total = Money.ofNat l.worth l.unitPrice.currency :=
  rfl

/-- A line with a total is kept, and one without is worth too much by itself. -/
theorem OrderLine.checkTotal_eq (l : OrderLine) :
    l.checkTotal = if l.worth ≤ Money.maxAmount then .ok l else .error (.money .overflow) := by
  unfold checkTotal
  rw [total_eq]
  by_cases hw : l.worth ≤ Money.maxAmount
  · rw [Money.ofNat_of_le hw, if_pos hw]
    rfl
  · rw [Money.ofNat_of_not_le hw, if_neg hw]
    rfl

theorem OrderLine.addQuantity_eq (l : OrderLine) (quantity : Count) :
    l.addQuantity quantity =
      if l.quantity.toNat + quantity.toNat < UInt32.size then
        { l with quantity := l.quantity + quantity }.checkTotal
      else .error (.invalidQuantity quantity) := by
  unfold addQuantity Count.add?
  by_cases h : l.quantity.toNat + quantity.toNat < UInt32.size
  · rw [if_pos h, if_pos h]
  · rw [if_neg h, if_neg h]

theorem worth_append (lines lines' : List OrderLine) :
    worth (lines ++ lines') = worth lines + worth lines' := by
  simp [worth]

/-- Fewer lines are not worth more. -/
theorem worth_le_of_sublist {lines lines' : List OrderLine} (h : lines.Sublist lines') :
    worth lines ≤ worth lines' := by
  induction h with
  | slnil => exact Nat.le_refl _
  | cons l _ ih =>
    rw [worth_cons]
    omega
  | cons_cons l _ ih =>
    rw [worth_cons, worth_cons]
    omega

theorem OrderLine.worth_le {l : OrderLine} {lines : List OrderLine} (h : l ∈ lines) :
    l.worth ≤ Storefront.worth lines := worth_le_of_sublist (List.singleton_sublist.mpr h)

/-- The snapshot tells of the line, with what it comes to. -/
structure LineSnapshot.Tells (s : LineSnapshot) (l : OrderLine) : Prop where
  productId : s.productId = l.productId
  name : s.name = l.name
  quantity : s.quantity = l.quantity
  unitPrice : s.unitPrice = l.unitPrice
  amount : s.total.amount = l.worth
  currency : s.total.currency = l.unitPrice.currency

/-- A line has a total and can be told of if it is not worth too much. -/
theorem OrderLine.snapshot_of_le {l : OrderLine} (h : l.worth ≤ Money.maxAmount) :
    ∃ total s, l.total = .ok total ∧ l.snapshot = .ok s ∧ s.Tells l := by
  refine ⟨⟨l.worth, l.unitPrice.currency, h⟩, ⟨l.productId, l.name, l.quantity, l.unitPrice,
    ⟨l.worth, l.unitPrice.currency, h⟩⟩, ?_, ?_, ⟨rfl, rfl, rfl, rfl, rfl, rfl⟩⟩
  · rw [total_eq, Money.ofNat_of_le h]
  · rw [snapshot, total_eq, Money.ofNat_of_le h]
    rfl

/-- Lines that are not worth too much together can be told of one by one. -/
theorem snapshots_of_worth_le {lines : List OrderLine} (h : worth lines ≤ Money.maxAmount) :
    ∃ items, lines.mapM (·.snapshot) = .ok items ∧
      List.Forall₂ LineSnapshot.Tells items lines := by
  induction lines with
  | nil => exact ⟨[], rfl, .nil⟩
  | cons l rest ih =>
    rw [worth_cons] at h
    obtain ⟨items, hitems, htold⟩ := ih (by omega)
    obtain ⟨_, s, _, hs, htells⟩ := OrderLine.snapshot_of_le (l := l) (by omega)
    refine ⟨s :: items, ?_, .cons htells htold⟩
    rw [List.mapM_cons, hs, ok_bind, hitems]
    rfl

/-- What is told of lines comes to what they are worth. -/
theorem sum_of_told {items : List LineSnapshot} {lines : List OrderLine}
    (h : List.Forall₂ LineSnapshot.Tells items lines) :
    (items.map (·.total.amount)).sum = worth lines := by
  induction h with
  | nil => rfl
  | cons htells _ ih => rw [List.map_cons, List.sum_cons, worth_cons, htells.amount, ih]

namespace Order

/-- Summing up from some amount on comes to that amount and the worth of the lines. -/
theorem foldlM_add_eq {c : Currency} {lines : List OrderLine}
    (hc : ∀ l ∈ lines, l.unitPrice.currency = c) (sum : Money) (hs : sum.currency = c) :
    lines.foldlM (fun sum line => do sum.add (← line.total)) sum =
      Money.ofNat (sum.amount + worth lines) c := by
  induction lines generalizing sum with
  | nil =>
    obtain ⟨amount, currency, hle⟩ := sum
    subst hs
    exact (Money.ofNat_of_le hle currency).symm
  | cons l rest ih =>
    have hl : l.unitPrice.currency = c := hc l (List.mem_cons_self ..)
    have hrest : ∀ k ∈ rest, k.unitPrice.currency = c := fun k hk =>
      hc k (List.mem_cons_of_mem _ hk)
    rw [List.foldlM_cons, OrderLine.total_eq, hl, worth_cons]
    by_cases hw : l.worth ≤ Money.maxAmount
    · rw [Money.ofNat_of_le hw, ok_bind, Money.add, if_pos hs, hs]
      by_cases hsum : sum.amount + l.worth ≤ Money.maxAmount
      · show (Money.ofNat (sum.amount + l.worth) c >>= _) = _
        rw [Money.ofNat_of_le hsum, ok_bind, ih hrest _ rfl, Nat.add_assoc]
      · -- a sum that is too large already does not become smaller
        have hall : ¬ sum.amount + (l.worth + worth rest) ≤ Money.maxAmount := by omega
        show (Money.ofNat (sum.amount + l.worth) c >>= _) = _
        rw [Money.ofNat_of_not_le hsum, error_bind, Money.ofNat_of_not_le hall]
    · have hall : ¬ sum.amount + (l.worth + worth rest) ≤ Money.maxAmount := by omega
      rw [Money.ofNat_of_not_le hw, error_bind, error_bind, Money.ofNat_of_not_le hall]

/-- **The sum of lines is their worth, and is refused only if that is too large.** -/
theorem sumLines_eq {c : Currency} {lines : List OrderLine}
    (hc : ∀ l ∈ lines, l.unitPrice.currency = c) :
    sumLines c lines = Money.ofNat (worth lines) c := by
  rw [sumLines, foldlM_add_eq hc (Money.zeroOf c) rfl]
  exact congrArg (Money.ofNat · c) (Nat.zero_add _)

/-! ### Merging -/

/-- The lines with more of a product, merged into the line of it if there is one. -/
def mergeLine (fresh : LineId) (product : ProductId) (name : String) (quantity : Count)
    (price : Money) : List OrderLine → List OrderLine
  | [] => [⟨fresh, product, name, quantity, price⟩]
  | l :: rest =>
    if l.productId = product then { l with quantity := l.quantity + quantity } :: rest
    else l :: mergeLine fresh product name quantity price rest

section Merge
variable {fresh : LineId} {product : ProductId} {name : String} {quantity : Count} {price : Money}
  {lines : List OrderLine}

theorem mergeLine_of_not_mem (h : product ∉ lines.map (·.productId)) :
    mergeLine fresh product name quantity price lines =
      lines ++ [⟨fresh, product, name, quantity, price⟩] := by
  induction lines with
  | nil => rfl
  | cons l rest ih =>
    rw [List.map_cons, List.mem_cons, not_or] at h
    rw [mergeLine, if_neg (Ne.symm h.1), ih h.2, List.cons_append]

/-- Merging into a line that is there changes nothing but a quantity. -/
theorem map_mergeLine_of_mem {β : Type} (f : OrderLine → β)
    (hf : ∀ l q, f { l with quantity := q } = f l) (h : product ∈ lines.map (·.productId)) :
    (mergeLine fresh product name quantity price lines).map f = lines.map f := by
  induction lines with
  | nil => cases h
  | cons l rest ih =>
    rw [mergeLine]
    by_cases hl : l.productId = product
    · rw [if_pos hl, List.map_cons, List.map_cons, hf]
    · rw [List.map_cons, List.mem_cons] at h
      rw [if_neg hl, List.map_cons, List.map_cons, ih (h.resolve_left (Ne.symm hl))]

/-- A new product comes last, and the others stay where they are. -/
theorem map_productId_mergeLine {products : List ProductId}
    (h : lines.map (·.productId) = products.eraseDups) :
    (mergeLine fresh product name quantity price lines).map (·.productId) =
      (products ++ [product]).eraseDups := by
  have hmem : product ∈ lines.map (·.productId) ↔ product ∈ products := by
    rw [h, List.mem_eraseDups]
  rw [List.eraseDups_append, ← h]
  by_cases hm : product ∈ products
  · rw [map_mergeLine_of_mem (·.productId) (fun _ _ => rfl) (hmem.mpr hm)]
    simp [List.removeAll, hm]
  · rw [mergeLine_of_not_mem (mt hmem.mp hm), List.map_append]
    simp [List.removeAll, hm, List.eraseDups_cons]

/-- A line is one that was there, up to its quantity, or the new one of a new product. -/
theorem mem_mergeLine {l : OrderLine} (h : l ∈ mergeLine fresh product name quantity price lines) :
    (∃ k ∈ lines, l = { k with quantity := l.quantity }) ∨
      (product ∉ lines.map (·.productId) ∧ l = ⟨fresh, product, name, quantity, price⟩) := by
  induction lines with
  | nil => exact .inr ⟨List.not_mem_nil, List.mem_singleton.mp h⟩
  | cons k rest ih =>
    rw [mergeLine] at h
    by_cases hk : k.productId = product
    · rw [if_pos hk] at h
      rcases List.mem_cons.mp h with rfl | hr
      · exact .inl ⟨k, List.mem_cons_self .., rfl⟩
      · exact .inl ⟨l, List.mem_cons_of_mem _ hr, rfl⟩
    · rw [if_neg hk] at h
      rcases List.mem_cons.mp h with rfl | hr
      · exact .inl ⟨l, List.mem_cons_self .., rfl⟩
      · rcases ih hr with ⟨k', hk', he⟩ | ⟨hn, he⟩
        · exact .inl ⟨k', List.mem_cons_of_mem _ hk', he⟩
        · refine .inr ⟨?_, he⟩
          rw [List.map_cons, List.mem_cons, not_or]
          exact ⟨Ne.symm hk, hn⟩

/-- Merging adds the quantity to what there was of the product, and to nothing else. -/
theorem tally_mergeLine (other : ProductId)
    (hfit : tally product (lines.map OrderLine.entry) + quantity.toNat < UInt32.size) :
    tally other ((mergeLine fresh product name quantity price lines).map OrderLine.entry) =
      tally other (lines.map OrderLine.entry) + if product = other then quantity.toNat else 0 := by
  induction lines with
  | nil => simp [mergeLine, OrderLine.entry]
  | cons l rest ih =>
    simp only [List.map_cons, tally_cons, OrderLine.entry] at hfit
    rw [mergeLine]
    by_cases hl : l.productId = product
    · subst hl
      rw [if_pos rfl] at hfit ⊢
      have hsum : (l.quantity + quantity).toNat = l.quantity.toNat + quantity.toNat :=
        Count.toNat_add_of_lt (by omega)
      simp only [List.map_cons, tally_cons, OrderLine.entry, hsum]
      split <;> omega
    · rw [if_neg hl] at hfit ⊢
      simp only [List.map_cons, tally_cons, OrderLine.entry]
      rw [ih (by omega)]
      omega

/-- Merging at the price of the line that is there adds the worth of what is added. -/
theorem worth_mergeLine
    (hfit : tally product (lines.map OrderLine.entry) + quantity.toNat < UInt32.size)
    (hprice : ∀ l ∈ lines, l.productId = product → l.unitPrice = price) :
    worth (mergeLine fresh product name quantity price lines) =
      worth lines + price.amount * quantity.toNat := by
  induction lines with
  | nil => simp [mergeLine, OrderLine.worth]
  | cons l rest ih =>
    simp only [List.map_cons, tally_cons, OrderLine.entry] at hfit
    rw [mergeLine]
    by_cases hl : l.productId = product
    · have hp : l.unitPrice = price := hprice l (List.mem_cons_self ..) hl
      rw [if_pos hl] at hfit ⊢
      have hsum : (l.quantity + quantity).toNat = l.quantity.toNat + quantity.toNat :=
        Count.toNat_add_of_lt (by omega)
      rw [worth_cons, worth_cons, OrderLine.worth, OrderLine.worth, hp, hsum, Nat.mul_add]
      omega
    · rw [if_neg hl] at hfit ⊢
      have hrest := ih (by omega) fun k hk => hprice k (List.mem_cons_of_mem _ hk)
      rw [worth_cons, worth_cons, hrest]
      omega

theorem placeLine_of_not_mem (h : product ∉ lines.map (·.productId)) :
    placeLine fresh product name quantity price lines =
      (OrderLine.make fresh product name quantity price).map fun l => (l.id, lines ++ [l]) := by
  induction lines with
  | nil =>
    rw [placeLine]
    cases OrderLine.make fresh product name quantity price <;> rfl
  | cons l rest ih =>
    rw [List.map_cons, List.mem_cons, not_or] at h
    rw [placeLine, if_neg (Ne.symm h.1), ih h.2]
    cases OrderLine.make fresh product name quantity price <;> rfl

section Found
variable {l : OrderLine}

/-- What is ordered of a product goes onto its first line. -/
theorem placeLine_of_find (h : (lines.find? fun k => k.productId == product) = some l) :
    placeLine fresh product name quantity price lines =
      (l.addQuantity quantity).map fun _ =>
        (l.id, mergeLine fresh product name quantity price lines) := by
  induction lines with
  | nil => cases h
  | cons k rest ih =>
    rw [List.find?_cons] at h
    rw [placeLine, mergeLine]
    by_cases hk : k.productId = product
    · simp only [hk, beq_self_eq_true, Option.some.injEq] at h
      subst h
      rw [if_pos hk, if_pos hk, OrderLine.addQuantity_eq, OrderLine.checkTotal_eq]
      split
      · split <;> rfl
      · rfl
    · simp only [beq_eq_false_iff_ne.mpr hk] at h
      rw [if_neg hk, if_neg hk, ih h]
      cases l.addQuantity quantity <;> rfl

/-- The line that there was is there with more of its product. -/
theorem mem_mergeLine_of_find (h : (lines.find? fun k => k.productId == product) = some l) :
    { l with quantity := l.quantity + quantity } ∈
      mergeLine fresh product name quantity price lines := by
  induction lines with
  | nil => cases h
  | cons k rest ih =>
    rw [List.find?_cons] at h
    rw [mergeLine]
    by_cases hk : k.productId = product
    · simp only [hk, beq_self_eq_true, Option.some.injEq] at h
      subst h
      rw [if_pos hk]
      exact List.mem_cons_self ..
    · simp only [beq_eq_false_iff_ne.mpr hk] at h
      rw [if_neg hk]
      exact List.mem_cons_of_mem _ (ih h)

end Found

/-- A line is placed unless it is worth too much when it has been merged. -/
theorem placeLine_eq (fresh : LineId) (name : String) (price : Money) (hq : quantity ≠ 0)
    (hfit : tally product (lines.map OrderLine.entry) + quantity.toNat < UInt32.size) :
    (∃ id, placeLine fresh product name quantity price lines =
        .ok (id, mergeLine fresh product name quantity price lines)) ∨
      (placeLine fresh product name quantity price lines = .error (.money .overflow) ∧
        ¬ worth (mergeLine fresh product name quantity price lines) ≤ Money.maxAmount) := by
  cases hl : lines.find? fun k => k.productId == product with
  | none =>
    have hnew : product ∉ lines.map (·.productId) := by simpa using hl
    rw [placeLine_of_not_mem hnew, OrderLine.make, if_neg hq, OrderLine.checkTotal_eq,
      mergeLine_of_not_mem hnew]
    split
    · exact .inl ⟨fresh, rfl⟩
    · rename_i hw
      refine .inr ⟨rfl, fun hle => hw (Nat.le_trans (OrderLine.worth_le ?_) hle)⟩
      exact List.mem_append_right _ (List.mem_singleton.mpr rfl)
  | some l =>
    have hmem : l ∈ lines := List.mem_of_find?_eq_some hl
    have hproduct : l.productId = product := by simpa using List.find?_some hl
    have hone : l.quantity.toNat ≤ tally product (lines.map OrderLine.entry) :=
      hproduct ▸ le_tally (List.mem_map.mpr ⟨l, hmem, rfl⟩ : l.entry ∈ lines.map OrderLine.entry)
    rw [placeLine_of_find hl, OrderLine.addQuantity_eq, if_pos (by omega), OrderLine.checkTotal_eq]
    split
    · exact .inl ⟨l.id, rfl⟩
    · rename_i hw
      exact .inr ⟨rfl, fun hle =>
        hw (Nat.le_trans (OrderLine.worth_le (mem_mergeLine_of_find hl)) hle)⟩

end Merge

/-- **More of a product is refused only if the lines would be worth too much.** -/
theorem addLine_eq {o : Order} {product : ProductId} {quantity : Count} {price : Money}
    (fresh : LineId) (name : String) (hopen : o.status = .pending) (hq : quantity ≠ 0)
    (hfit : tally product (o.lines.map OrderLine.entry) + quantity.toNat < UInt32.size)
    (hc : ∀ l ∈ mergeLine fresh product name quantity price o.lines,
      l.unitPrice.currency = o.total.currency) :
    if h : worth (mergeLine fresh product name quantity price o.lines) ≤ Money.maxAmount then
      ∃ id, o.addLine fresh product name quantity price =
        .ok (id, { o with
          lines := mergeLine fresh product name quantity price o.lines
          total := ⟨_, o.total.currency, h⟩ })
    else o.addLine fresh product name quantity price = .error (.money .overflow) := by
  have hens : o.ensureOpen = .ok () := by simp [ensureOpen, hopen, OrderStatus.canChangeLines]
  unfold addLine
  rw [hens, ok_bind, if_neg hq]
  rcases placeLine_eq fresh name price hq hfit with ⟨id, h⟩ | ⟨h, hw⟩
  · rw [h]
    simp only [ok_bind, withLines, sumLines_eq hc]
    split
    · rename_i hw
      rw [Money.ofNat_of_le hw]
      exact ⟨id, rfl⟩
    · rename_i hw
      rw [Money.ofNat_of_not_le hw]
      rfl
  · rw [h, dif_neg hw]
    rfl

end Order

end Storefront
