import Storefront.Order.Placement
import Storefront.Proofs.Catalogue
import Storefront.Proofs.Lines

/-! # Filling an order

An order is filled one requested line after the other, with a running store and a running
order, and each line is checked against both as they are then.  Here the same checks are
stated against the store as it was in the beginning: `Store.lineRefusal` says why a line
is refused behind the lines before it, and `Store.firstRefusal` finds the first line that
is.  `Filled` relates what has been filled to the lines that have been requested so far;
one line keeps it (`Order.fillLine_spec`), so that all lines do (`Order.fillLines_spec`),
and the running checks come to the same as the global ones (`Store.firstRefusal_eq_none_iff`).
-/
namespace Storefront

/-- The product and the quantity of a requested line. -/
def RequestedLine.entry (l : RequestedLine) : ProductId × Count := (l.product, l.quantity)

/-- How much of a product some requested lines come to. -/
def requested (product : ProductId) (lines : List RequestedLine) : Nat :=
  tally product (lines.map RequestedLine.entry)

theorem requested_append (product : ProductId) (lines lines' : List RequestedLine) :
    requested product (lines ++ lines') = requested product lines + requested product lines' := by
  rw [requested, List.map_append, tally_append]
  rfl

theorem requested_le_append (product : ProductId) (lines lines' : List RequestedLine) :
    requested product lines ≤ requested product (lines ++ lines') := by
  rw [requested_append]
  omega

@[simp] theorem requested_nil (product : ProductId) : requested product [] = 0 := rfl

@[simp] theorem requested_cons (product : ProductId) (l : RequestedLine)
    (lines : List RequestedLine) : requested product (l :: lines) =
      (if l.product = product then l.quantity.toNat else 0) + requested product lines := rfl

namespace Store

/-- The price of a product as a number, nothing if there is none. -/
def priceOf (s : Store) (id : ProductId) : Nat :=
  ((s.products.get? id).map (·.price.amount)).getD 0

/-- What some requested lines come to at the prices of the store. -/
def cost (s : Store) (lines : List RequestedLine) : Nat :=
  (lines.map fun l => s.priceOf l.product * l.quantity.toNat).sum

theorem cost_append (s : Store) (lines lines' : List RequestedLine) :
    s.cost (lines ++ lines') = s.cost lines + s.cost lines' := by
  simp [cost]

theorem cost_le_append (s : Store) (lines lines' : List RequestedLine) :
    s.cost lines ≤ s.cost (lines ++ lines') := by
  rw [cost_append]
  omega

theorem cost_singleton (s : Store) (l : RequestedLine) :
    s.cost [l] = s.priceOf l.product * l.quantity.toNat := Nat.add_zero _

/-! ### Refusals -/

/-- Why a line is refused behind the lines before it, if it is. -/
def lineRefusal (s : Store) (before : List RequestedLine) (l : RequestedLine) : Option Error :=
  match s.products.get? l.product with
  | none => some (.store (.productNotFound l.product))
  | some p =>
    let left := s.stock l.product - requested l.product before
    if p.active = false then some (.store (.productInactive l.product))
    else if left < l.quantity.toNat then
      some (.store (.insufficientStock l.product l.quantity (UInt32.ofNat left)))
    else if Money.maxAmount < s.cost (before ++ [l]) then some (.order (.money .overflow))
    else none

/-- Why the first line that is refused is refused, if any is. -/
def firstRefusal (s : Store) (before : List RequestedLine) : List RequestedLine → Option Error
  | [] => none
  | l :: rest =>
    match s.lineRefusal before l with
    | some e => some e
    | none => s.firstRefusal (before ++ [l]) rest

theorem lineRefusal_eq_none_iff {s : Store} {before : List RequestedLine} {l : RequestedLine} :
    s.lineRefusal before l = none ↔
      (∃ p, s.products.get? l.product = some p ∧ p.active = true) ∧
        l.quantity.toNat ≤ s.stock l.product - requested l.product before ∧
          s.cost (before ++ [l]) ≤ Money.maxAmount := by
  unfold lineRefusal
  cases s.products.get? l.product with
  | none => simp
  | some p =>
    cases ha : p.active with
    | false => simp [ha]
    | true =>
      simp only [ha, Bool.true_eq_false, if_false, Option.some.injEq, exists_eq_left']
      split
      · simp only [reduceCtorEq, false_iff, not_and]
        omega
      · split
        · simp only [reduceCtorEq, false_iff, not_and]
          omega
        · exact ⟨fun _ => ⟨trivial, by omega, by omega⟩, fun _ => rfl⟩

/-- One more line for which there is stock does not ask for more than there is. -/
theorem requested_snoc_le {s : Store} {before : List RequestedLine} {l : RequestedLine}
    (hs : ∀ p, requested p before ≤ s.stock p)
    (hl : l.quantity.toNat ≤ s.stock l.product - requested l.product before) (p : ProductId) :
    requested p (before ++ [l]) ≤ s.stock p := by
  have hp := hs p
  rw [requested_append, requested_cons, requested_nil]
  by_cases he : l.product = p
  · subst he
    rw [if_pos rfl]
    omega
  · rw [if_neg he]
    omega

/-- **No line is refused if and only if every product is on sale, there is enough of each
for all lines together, and all lines together do not cost too much.** -/
theorem firstRefusal_eq_none_iff {s : Store} {before lines : List RequestedLine}
    (hb : s.cost before ≤ Money.maxAmount)
    (hs : ∀ p, requested p before ≤ s.stock p) :
    s.firstRefusal before lines = none ↔
      (∀ l ∈ lines, ∃ p, s.products.get? l.product = some p ∧ p.active = true) ∧
        (∀ p, requested p (before ++ lines) ≤ s.stock p) ∧
          s.cost (before ++ lines) ≤ Money.maxAmount := by
  induction lines generalizing before with
  | nil =>
    rw [List.append_nil]
    exact ⟨fun _ => ⟨fun _ h => absurd h List.not_mem_nil, hs, hb⟩, fun _ => rfl⟩
  | cons l rest ih =>
    have happ : before ++ l :: rest = (before ++ [l]) ++ rest := by simp
    rw [firstRefusal, happ]
    cases hl : s.lineRefusal before l with
    | some e =>
      simp only [reduceCtorEq, false_iff]
      rintro ⟨hon, henough, hle⟩
      -- all lines together ask for at least as much, and cost as much, as those up to this one
      have hreq := Nat.le_trans (requested_le_append _ _ rest) (henough l.product)
      have hcost := Nat.le_trans (s.cost_le_append _ rest) hle
      have hthis : s.lineRefusal before l = none := by
        refine lineRefusal_eq_none_iff.mpr ⟨hon l (List.mem_cons_self ..), ?_, hcost⟩
        rw [requested_append, requested_cons, if_pos rfl, requested_nil] at hreq
        omega
      rw [hl] at hthis
      cases hthis
    | none =>
      obtain ⟨hon, hleft, hle⟩ := lineRefusal_eq_none_iff.mp hl
      show s.firstRefusal (before ++ [l]) rest = none ↔ _
      rw [ih hle (requested_snoc_le hs hleft)]
      constructor
      · rintro ⟨h, h'⟩
        refine ⟨fun k hk => ?_, h'⟩
        rcases List.mem_cons.mp hk with rfl | hk
        · exact hon
        · exact h k hk
      · rintro ⟨h, h'⟩
        exact ⟨fun k hk => h k (List.mem_cons_of_mem _ hk), h'⟩

theorem firstRefusal_nil_eq_none_iff (s : Store) (lines : List RequestedLine) :
    s.firstRefusal [] lines = none ↔
      (∀ l ∈ lines, ∃ p, s.products.get? l.product = some p ∧ p.active = true) ∧
        (∀ p, requested p lines ≤ s.stock p) ∧ s.cost lines ≤ Money.maxAmount :=
  firstRefusal_eq_none_iff (Nat.zero_le _) fun _ => Nat.zero_le _

theorem reserve_of_level {s : Store} {id : ProductId} {p : Product} {level quantity : Count}
    (hq : quantity ≠ 0) (hp : s.products.get? id = some p) (ha : p.active = true)
    (hl : s.inventory.get? id = some level) :
    if level < quantity then s.reserve id quantity = .error (.insufficientStock id quantity level)
    else ∃ s', s.reserve id quantity = .ok s' := by
  have hlevel : s.levelFor id quantity = .ok level := levelFor_eq_ok_iff.mpr ⟨hq, ⟨p, hp, ha⟩, hl⟩
  unfold reserve
  rw [hlevel, ok_bind]
  by_cases hlt : level < quantity
  · rw [if_pos hlt, if_pos hlt]
    rfl
  · rw [if_neg hlt, if_neg hlt]
    exact ⟨_, rfl⟩

end Store

/-! ### Line by line -/

/-- What has been filled, of an order that began as `o₀` at a store that began as `s₀`, once
the lines `done` have been requested. -/
structure Filled (s₀ : Store) (o₀ : Order) (done : List (LineId × RequestedLine)) (o : Order)
    (s : Store) : Prop where
  order : o = { o₀ with lines := o.lines, total := o.total }
  catalogue : Store.SameCatalogue s₀ s
  stock : ∀ p, s.stock p + requested p (done.map Prod.snd) = s₀.stock p
  products : o.lines.map (·.productId) = (done.map (·.2.product)).eraseDups
  quantity : ∀ p, o.quantityOf p = requested p (done.map Prod.snd)
  /-- A line has the name and the price that its product has, and the identifier that came
  with the first request for it. -/
  line : ∀ l ∈ o.lines, (∃ p, s₀.products.get? l.productId = some p ∧ l.name = p.name.text ∧
    l.unitPrice = p.price) ∧
      (done.find? fun n => n.2.product == l.productId).map Prod.fst = some l.id
  worth : worth o.lines = s₀.cost (done.map Prod.snd)
  total : o.total.amount = Storefront.worth o.lines
  currency : o.total.currency.code = s₀.currency

theorem Store.stock_lt (s : Store) (id : ProductId) : s.stock id < UInt32.size := by
  unfold stock
  cases s.inventory.get? id with
  | none => exact Nat.zero_lt_of_lt (UInt32.toNat_lt 0)
  | some n => exact UInt32.toNat_lt n

namespace Filled

variable {s₀ s : Store} {o₀ o : Order} {done : List (LineId × RequestedLine)} {fresh : LineId}
  {l : RequestedLine} {p : Product}

/-- An order with no lines is filled with nothing. -/
theorem start (s : Store) (hlines : o.lines = []) (htotal : o.total.amount = 0)
    (hcode : o.total.currency.code = s.currency) : Filled s o [] o s where
  order := rfl
  catalogue := Store.SameCatalogue.refl s
  stock := fun _ => rfl
  products := by
    rw [hlines]
    rfl
  quantity := fun p => by
    rw [Order.quantityOf, hlines]
    rfl
  line := fun l hl => by
    rw [hlines] at hl
    cases hl
  worth := by
    rw [hlines]
    rfl
  total := by
    rw [hlines, htotal]
    rfl
  currency := hcode

/-- What is known of the lines once one more is merged in. -/
theorem line_mergeLine (h : Filled s₀ o₀ done o s) (hp : s₀.products.get? l.product = some p)
    {k : OrderLine}
    (hk : k ∈ Order.mergeLine fresh l.product p.name.text l.quantity p.price o.lines) :
    (∃ q, s₀.products.get? k.productId = some q ∧ k.name = q.name.text ∧ k.unitPrice = q.price) ∧
      ((done ++ [(fresh, l)]).find? fun n => n.2.product == k.productId).map Prod.fst =
        some k.id := by
  rcases Order.mem_mergeLine hk with ⟨k', hk', he⟩ | ⟨hn, rfl⟩
  · obtain ⟨hq, hid⟩ := h.line k' hk'
    rw [he]
    refine ⟨hq, ?_⟩
    rw [List.find?_append]
    cases hf : done.find? fun n => n.2.product == k'.productId with
    | none =>
      rw [hf] at hid
      cases hid
    | some n =>
      rw [hf] at hid
      exact hid
  · refine ⟨⟨p, hp, rfl, rfl⟩, ?_⟩
    -- nobody has asked for the product before
    have hnone : (done.find? fun n => n.2.product == l.product) = none := by
      rw [h.products, List.mem_eraseDups] at hn
      refine List.find?_eq_none.mpr fun n hm he => hn ?_
      exact List.mem_map.mpr ⟨n, hm, eq_of_beq he⟩
    rw [List.find?_append, hnone]
    simp

theorem products_mergeLine (h : Filled s₀ o₀ done o s) {name : String} {price : Money} :
    (Order.mergeLine fresh l.product name l.quantity price o.lines).map (·.productId) =
      ((done ++ [(fresh, l)]).map (·.2.product)).eraseDups := by
  rw [List.map_append]
  exact Order.map_productId_mergeLine h.products

/-- What has been set aside before, and what is set aside now, are a count together. -/
theorem fits (h : Filled s₀ o₀ done o s) {s' : Store}
    (hs' : s.reserve l.product l.quantity = .ok s') :
    tally l.product (o.lines.map OrderLine.entry) + l.quantity.toNat < UInt32.size := by
  have hstock := h.stock l.product
  have hres := Store.stock_reserve hs' l.product
  have hlt := s₀.stock_lt l.product
  have hqty : tally l.product (o.lines.map OrderLine.entry) = _ := h.quantity l.product
  rw [if_pos rfl] at hres
  omega

/-- The lines are worth what is requested, at the prices of the store. -/
theorem worth_mergeLine (h : Filled s₀ o₀ done o s) (hp : s₀.products.get? l.product = some p)
    (hfit : tally l.product (o.lines.map OrderLine.entry) + l.quantity.toNat < UInt32.size) :
    Storefront.worth (Order.mergeLine fresh l.product p.name.text l.quantity p.price o.lines) =
      s₀.cost ((done ++ [(fresh, l)]).map Prod.snd) := by
  have hprice : ∀ k ∈ o.lines, k.productId = l.product → k.unitPrice = p.price := by
    intro k hk he
    obtain ⟨⟨q, hq, _, hkp⟩, _⟩ := h.line k hk
    rw [he, hp] at hq
    cases hq
    exact hkp
  have hof : s₀.priceOf l.product = p.price.amount := by
    rw [Store.priceOf, hp]
    rfl
  rw [Order.worth_mergeLine hfit hprice, h.worth, List.map_append, Store.cost_append]
  simp [Store.cost_singleton, hof]

/-- All lines are priced in the currency of the order. -/
theorem currency_mergeLine (h : Filled s₀ o₀ done o s) (hs : s₀.Sound)
    (hp : s₀.products.get? l.product = some p) :
    ∀ k ∈ Order.mergeLine fresh l.product p.name.text l.quantity p.price o.lines,
      k.unitPrice.currency = o.total.currency := by
  intro k hk
  obtain ⟨⟨q, hq, _, hkp⟩, _⟩ := h.line_mergeLine hp hk
  refine Currency.eq_of_code_eq ?_
  rw [hkp, (hs.product _ q hq).2, h.currency]

/-- One more line of a product on sale, for which there is stock and which is not worth too
much, leaves everything filled. -/
theorem add (h : Filled s₀ o₀ done o s) (hp : s₀.products.get? l.product = some p) {s' : Store}
    (hs' : s.reserve l.product l.quantity = .ok s') {total : Money}
    (htotal : total.amount =
      Storefront.worth (Order.mergeLine fresh l.product p.name.text l.quantity p.price o.lines))
    (hcur : total.currency = o.total.currency) :
    Filled s₀ o₀ (done ++ [(fresh, l)])
      { o with
        lines := Order.mergeLine fresh l.product p.name.text l.quantity p.price o.lines
        total := total } s' where
  order := by
    rw [h.order]
  catalogue := h.catalogue.trans (Store.reserve_sameCatalogue hs')
  stock := fun q => by
    have hq := h.stock q
    have hr := Store.stock_reserve hs' q
    rw [List.map_append, requested_append]
    simp only [List.map_cons, List.map_nil, requested_cons, requested_nil]
    omega
  products := h.products_mergeLine
  quantity := fun q => by
    rw [List.map_append, requested_append, ← h.quantity q]
    exact Order.tally_mergeLine q (h.fits hs')
  line := fun k hk => h.line_mergeLine hp hk
  worth := h.worth_mergeLine hp (h.fits hs')
  total := htotal
  currency := by
    rw [hcur]
    exact h.currency

end Filled

namespace Order

variable {s₀ s : Store} {o₀ o : Order} {done : List (LineId × RequestedLine)}
  {l : RequestedLine} {p : Product}

/-- A line for which stock has been set aside is refused only if it is worth too much. -/
theorem addLine_spec (fresh : LineId) (h : Filled s₀ o₀ done o s) (hs : s₀.Sound)
    (hopen : o₀.status = .pending) (hq : l.quantity ≠ 0)
    (hp : s₀.products.get? l.product = some p) {s' : Store}
    (hs' : s.reserve l.product l.quantity = .ok s') :
    if Money.maxAmount < s₀.cost (done.map Prod.snd ++ [l]) then
      o.addLine fresh p.id p.name.text l.quantity p.price = .error (.money .overflow)
    else ∃ id o', o.addLine fresh p.id p.name.text l.quantity p.price = .ok (id, o') ∧
      Filled s₀ o₀ (done ++ [(fresh, l)]) o' s' := by
  have hid := (hs.product l.product p hp).1
  have hstatus : o.status = .pending := by
    rw [h.order]
    exact hopen
  have hworth : Storefront.worth
      (mergeLine fresh l.product p.name.text l.quantity p.price o.lines) = _ :=
    h.worth_mergeLine hp (h.fits hs')
  have hadd := addLine_eq fresh p.name.text hstatus hq (h.fits hs') (h.currency_mergeLine hs hp)
  have hcost : s₀.cost (done.map Prod.snd ++ [l]) =
      s₀.cost ((done ++ [(fresh, l)]).map Prod.snd) := by
    rw [List.map_append]
    rfl
  rw [hid]
  by_cases hover : Money.maxAmount < s₀.cost (done.map Prod.snd ++ [l])
  · rw [if_pos hover]
    rw [dif_neg (by omega)] at hadd
    exact hadd
  · rw [if_neg hover]
    have hle : Storefront.worth (mergeLine fresh l.product p.name.text l.quantity p.price o.lines) ≤
        Money.maxAmount := by omega
    rw [dif_pos hle] at hadd
    obtain ⟨id, ho⟩ := hadd
    exact ⟨id, _, ho, h.add hp hs' rfl rfl⟩

/-- **One line is filled unless it is refused behind those before it.** -/
theorem fillLine_spec (h : Filled s₀ o₀ done o s) (hs : s₀.Sound) (hopen : o₀.status = .pending)
    (fresh : LineId) (hq : l.quantity ≠ 0) :
    match s₀.lineRefusal (done.map Prod.snd) l with
    | some e => o.fillLine s fresh l = .error e
    | none => ∃ o' s', o.fillLine s fresh l = .ok (o', s') ∧
        Filled s₀ o₀ (done ++ [(fresh, l)]) o' s' := by
  have hprod : s.products.get? l.product = s₀.products.get? l.product := by
    rw [h.catalogue.products_eq]
  unfold fillLine Store.lineRefusal Store.activeProduct Store.product
  rw [hprod]
  cases hp : s₀.products.get? l.product with
  | none => simp
  | some p =>
    cases ha : p.active with
    | false => simp [ha]
    | true =>
      obtain ⟨level, hl⟩ := (hs.of_sameCatalogue h.catalogue).level (hprod.trans hp)
      have hlevel : s.stock l.product = level.toNat := Store.stock_of_level hl
      have hstock := h.stock l.product
      -- the running level is what is left of the first one
      have hleft : s₀.stock l.product - requested l.product (done.map Prod.snd) = level.toNat := by
        omega
      have hres := Store.reserve_of_level hq (hprod.trans hp) ha hl
      simp only [ha, ok_bind, if_true, pure_eq_ok, Bool.true_eq_false, if_false, hleft,
        liftM_store, mapError_ok, UInt32.ofNat_toNat]
      by_cases hlt : level < l.quantity
      · rw [if_pos hlt] at hres
        rw [if_pos (UInt32.lt_iff_toNat_lt.mp hlt), hres]
        rfl
      · rw [if_neg hlt] at hres
        obtain ⟨s', hs'⟩ := hres
        have hge : ¬ level.toNat < l.quantity.toNat := fun hn => hlt (UInt32.lt_iff_toNat_lt.mpr hn)
        have hadd := addLine_spec fresh h hs hopen hq hp hs'
        rw [if_neg hge, hs']
        by_cases hover : Money.maxAmount < s₀.cost (done.map Prod.snd ++ [l])
        · rw [if_pos hover] at hadd ⊢
          simp [hadd]
        · rw [if_neg hover] at hadd ⊢
          obtain ⟨id, o', ho, hf⟩ := hadd
          exact ⟨o', s', by simp [ho], hf⟩

/-- **All lines are filled unless there is a first that is refused.** -/
theorem fillLines_spec (h : Filled s₀ o₀ done o s) (hs : s₀.Sound) (hopen : o₀.status = .pending)
    (rest : List (LineId × RequestedLine)) (hq : ∀ n ∈ rest, n.2.quantity ≠ 0) :
    match s₀.firstRefusal (done.map Prod.snd) (rest.map Prod.snd) with
    | some e => o.fillLines s rest = .error e
    | none => ∃ o' s', o.fillLines s rest = .ok (o', s') ∧ Filled s₀ o₀ (done ++ rest) o' s' := by
  induction rest generalizing done o s with
  | nil =>
    rw [List.append_nil]
    exact ⟨o, s, rfl, h⟩
  | cons n rest ih =>
    obtain ⟨fresh, l⟩ := n
    have hline := fillLine_spec h hs hopen fresh (hq _ (List.mem_cons_self ..))
    rw [List.map_cons, Store.firstRefusal, fillLines]
    cases hl : s₀.lineRefusal (done.map Prod.snd) l with
    | some e =>
      rw [hl] at hline
      show (o.fillLine s fresh l >>= _) = .error e
      rw [hline]
      rfl
    | none =>
      rw [hl] at hline
      obtain ⟨o', s', ho, hf⟩ := hline
      have hrest := ih hf fun k hk => hq k (List.mem_cons_of_mem _ hk)
      rw [List.map_append, List.append_assoc] at hrest
      rw [ho]
      exact hrest

end Order

end Storefront
