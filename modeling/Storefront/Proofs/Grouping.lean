import Storefront.Proofs.Calls

/-! # Grouping

An order merges additions into its lines one after the other, and each time it checks the
quantity, the line and the total.  If each product is added at one price, this comes to the same
as *grouping* the additions by product: the lines are the groups (`Order.Groups`), and an addition
is taken if and only if what its product comes to is a count and what all groups come to is an
amount of money (`Order.Grouped.admits_iff`).  Both only grow with what is added, so that additions
that are all taken are taken in any other order, too (`Order.Grouped.taken_eq`).
-/
namespace Storefront

namespace Addition

variable {a : Addition} {adds adds' : List Addition} {p : ProductId}

/-- How much is added of which product. -/
def entry (a : Addition) : ProductId × Count := (a.product, a.quantity)

/-- How much of a product is added altogether. -/
def added (p : ProductId) (adds : List Addition) : Nat := tally p (adds.map entry)

/-- The products of which something is added, as they come up. -/
def products (adds : List Addition) : List ProductId := (adds.map (·.product)).eraseDups

/-- The first addition of a product. -/
def firstOf? (p : ProductId) (adds : List Addition) : Option Addition :=
  adds.find? fun a => a.product == p

/-- What additions come to, product by product, at the prices of a list. -/
def groupedCost (price : ProductId → Money) (adds : List Addition) : Nat :=
  ((products adds).map fun p => (price p).amount * added p adds).sum

/-- The addition is made at the price of a list, which is in some currency. -/
structure Priced (price : ProductId → Money) (c : Currency) (a : Addition) : Prop where
  price : a.price = price a.product
  currency : a.price.currency = c

theorem added_append (p : ProductId) (adds adds' : List Addition) :
    added p (adds ++ adds') = added p adds + added p adds' := by
  unfold added
  rw [List.map_append, tally_append]

theorem added_snoc (p : ProductId) (adds : List Addition) (a : Addition) :
    added p (adds ++ [a]) = added p adds + if a.product = p then a.quantity.toNat else 0 :=
  added_append p adds [a]

theorem added_of_perm (h : adds.Perm adds') (p : ProductId) : added p adds = added p adds' :=
  ((h.map entry).map _).sum_nat

theorem firstOf?_append (h : firstOf? p adds = some a) (adds' : List Addition) :
    firstOf? p (adds ++ adds') = some a := by
  unfold firstOf? at h ⊢
  rw [List.find?_append, h]
  rfl

theorem firstOf?_snoc_self (h : a.product ∉ adds.map (·.product)) :
    firstOf? a.product (adds ++ [a]) = some a := by
  have hnone : adds.find? (fun b => b.product == a.product) = none :=
    List.find?_eq_none.mpr fun b hb he => h (List.mem_map.mpr ⟨b, hb, eq_of_beq he⟩)
  unfold firstOf?
  rw [List.find?_append, hnone]
  simp

end Addition

namespace Order

open Addition

variable {price : ProductId → Money} {c : Currency} {a : Addition} {adds : List Addition}
  {lines : List OrderLine} {o o' : Order} {id : LineId}

/-! ### Lines -/

/-- **The lines are the groups of the additions.** -/
structure Groups (price : ProductId → Money) (adds : List Addition) (lines : List OrderLine) :
    Prop where
  products : lines.map (·.productId) = products adds
  /-- A line was begun by the first addition of its product. -/
  first : ∀ l ∈ lines, ∃ a, firstOf? l.productId adds = some a ∧ l.id = a.fresh ∧ l.name = a.name
  price : ∀ l ∈ lines, l.unitPrice = price l.productId
  quantity : ∀ p, tally p (lines.map OrderLine.entry) = added p adds
  worth : worth lines = (adds.map cost).sum

namespace Groups

theorem nil : Groups price [] [] := ⟨rfl, nofun, nofun, fun _ => rfl, rfl⟩

/-- One more addition goes to its group. -/
theorem mergeInto (h : Groups price adds lines) (hprice : a.price = price a.product)
    (hfit : added a.product (adds ++ [a]) < UInt32.size) :
    Groups price (adds ++ [a]) (a.mergeInto lines) := by
  have hfit : tally a.product (lines.map OrderLine.entry) + a.quantity.toNat < UInt32.size := by
    rw [added_snoc, if_pos rfl] at hfit
    rwa [h.quantity]
  refine ⟨?_, fun l hl => ?_, fun l hl => ?_, fun p => ?_, ?_⟩
  · rw [Addition.products, List.map_append]
    exact map_productId_mergeLine h.products
  · rcases mem_mergeLine hl with ⟨k, hk, he⟩ | ⟨hn, rfl⟩
    · obtain ⟨b, hb, hid, hname⟩ := h.first k hk
      rw [he]
      exact ⟨b, firstOf?_append hb _, hid, hname⟩
    · rw [h.products, Addition.products, List.mem_eraseDups] at hn
      exact ⟨a, firstOf?_snoc_self hn, rfl, rfl⟩
  · rcases mem_mergeLine hl with ⟨k, hk, he⟩ | ⟨_, rfl⟩
    · rw [he]
      exact h.price k hk
    · exact hprice
  · rw [Addition.mergeInto, tally_mergeLine p hfit, h.quantity, added_snoc]
  · have hsame : ∀ l ∈ lines, l.productId = a.product → l.unitPrice = a.price := fun l hl he => by
      rw [h.price l hl, he, hprice]
    rw [Addition.mergeInto, worth_mergeLine hfit hsame, h.worth, List.map_append, List.sum_append]
    simp [cost]

theorem quantity_of_mem (h : Groups price adds lines) {l : OrderLine} (hl : l ∈ lines) :
    l.quantity.toNat = added l.productId adds := by
  rw [← h.quantity]
  refine (tally_of_mem (e := l.entry) ?_ (List.mem_map.mpr ⟨l, hl, rfl⟩)).symm
  rw [map_fst_entry, h.products]
  exact nodup_eraseDups _

/-- **Summing up by product comes to the same as summing up one after the other.** -/
theorem groupedCost_eq (h : Groups price adds lines) :
    groupedCost price adds = Storefront.worth lines := by
  unfold groupedCost Storefront.worth
  rw [← h.products, List.map_map]
  congr 1
  refine List.map_congr_left fun l hl => ?_
  rw [Function.comp_apply, OrderLine.worth, h.price l hl, h.quantity_of_mem hl]

end Groups

/-! ### What an order takes -/

/-- The additions that an order takes one after the other, each with the identifier it gives. -/
def taken (o : Order) : List Addition → List (Addition × LineId)
  | [] => []
  | a :: rest =>
    match o.perform (.add a) with
    | (.ok (some id), o') => (a, id) :: o'.taken rest
    | (_, o') => o'.taken rest

theorem taken_of_ok (h : o.perform (.add a) = (.ok (some id), o')) (rest : List Addition) :
    o.taken (a :: rest) = (a, id) :: o'.taken rest := by
  rw [taken, h]

theorem taken_of_error {e : OrderError} (h : o.perform (.add a) = (.error e, o'))
    (rest : List Addition) : o.taken (a :: rest) = o'.taken rest := by
  rw [taken, h]

theorem Consistent.perform_add (h : o.Consistent) (a : Addition) :
    (∃ ha : o.Admits a,
        o.perform (.add a) = (.ok (some (o.lineIdFor a)), o.extended a ha.affordable)) ∨
      (¬ o.Admits a ∧ ∃ e, o.perform (.add a) = (.error e, o)) := by
  rw [perform_eq, answer]
  cases hadd : o.add a with
  | ok r =>
    obtain ⟨ha, hid, ho⟩ := h.admits_of_add hadd
    refine .inl ⟨ha, ?_⟩
    rw [← hid, ← ho]
    rfl
  | error e =>
    refine .inr ⟨fun ha => ?_, e, rfl⟩
    rw [h.add_of_admits ha] at hadd
    cases hadd

/-- The order is what taking some additions makes of it, and nothing else. -/
structure Grouped (price : ProductId → Money) (c : Currency) (done : List (Addition × LineId))
    (o : Order) : Prop where
  consistent : o.Consistent
  pending : o.status = .pending
  currency : o.total.currency = c
  positive : ∀ a ∈ done.map Prod.fst, 0 < a.quantity.toNat
  groups : Groups price (done.map Prod.fst) o.lines
  /-- Additions are given the identifier of the line that the first of them began. -/
  ids : ∀ t ∈ done, (firstOf? t.1.product (done.map Prod.fst)).map (·.fresh) = some t.2

namespace Grouped

variable {done : List (Addition × LineId)}

theorem quantityOf_lt (h : Grouped price c done o) (p : ProductId) :
    added p (done.map Prod.fst) < UInt32.size := by
  rw [← h.groups.quantity p]
  show o.quantityOf p < _
  cases hl : o.lineOf? p with
  | none =>
    rw [Consistent.quantityOf_eq_zero hl]
    decide
  | some l =>
    rw [h.consistent.quantityOf_eq hl]
    exact l.quantity.toNat_lt

/-- **An addition is taken if and only if the groups are not too much with it.** -/
theorem admits_iff (h : Grouped price c done o) (ha : a.Priced price c) :
    o.Admits a ↔ 0 < a.quantity.toNat ∧
      added a.product (done.map Prod.fst ++ [a]) < UInt32.size ∧
      groupedCost price (done.map Prod.fst ++ [a]) ≤ Money.maxAmount := by
  have hquantity : o.quantityOf a.product + a.quantity.toNat =
      added a.product (done.map Prod.fst ++ [a]) := by
    rw [added_snoc, if_pos rfl, ← h.groups.quantity]
    rfl
  rw [← hquantity]
  constructor
  · intro hadmits
    have hgroups := h.groups.mergeInto ha.price (hquantity ▸ hadmits.fits)
    exact ⟨hadmits.positive, hadmits.fits, hgroups.groupedCost_eq ▸ hadmits.affordable⟩
  · rintro ⟨hpos, hfit, hcost⟩
    have hgroups := h.groups.mergeInto ha.price (hquantity ▸ hfit)
    exact ⟨h.pending, hpos, hfit, fun _ => h.currency.trans ha.currency.symm,
      hgroups.groupedCost_eq ▸ hcost⟩

theorem firstOf?_lineIdFor (h : Grouped price c done o) (a : Addition) :
    (firstOf? a.product (done.map Prod.fst ++ [a])).map (·.fresh) = some (o.lineIdFor a) := by
  unfold lineIdFor
  cases hl : o.lineOf? a.product with
  | none =>
    have hnew := lineOf?_eq_none_iff.mp hl
    rw [h.groups.products, Addition.products, List.mem_eraseDups] at hnew
    rw [firstOf?_snoc_self hnew]
    rfl
  | some l =>
    obtain ⟨hmem, hproduct⟩ := mem_of_lineOf? hl
    obtain ⟨b, hb, hid, _⟩ := h.groups.first l hmem
    rw [← hproduct, firstOf?_append hb]
    exact congrArg some hid.symm

theorem extended (h : Grouped price c done o) (ha : a.Priced price c) (hadmits : o.Admits a) :
    Grouped price c (done ++ [(a, o.lineIdFor a)]) (o.extended a hadmits.affordable) := by
  obtain ⟨hpos, hfit, _⟩ := (h.admits_iff ha).mp hadmits
  have hdone : (done ++ [(a, o.lineIdFor a)]).map Prod.fst = done.map Prod.fst ++ [a] := by simp
  refine ⟨h.consistent.extended hadmits, h.pending, h.currency, ?_, ?_, ?_⟩
  · rw [hdone]
    intro b hb
    rcases List.mem_append.mp hb with hb | hb
    · exact h.positive b hb
    · rwa [List.mem_singleton.mp hb]
  · rw [hdone]
    exact h.groups.mergeInto ha.price hfit
  · rw [hdone]
    intro t ht
    rcases List.mem_append.mp ht with ht | ht
    · obtain ⟨b, hb, hfresh⟩ := Option.map_eq_some_iff.mp (h.ids t ht)
      rw [firstOf?_append hb]
      exact congrArg some hfresh
    · rw [List.mem_singleton.mp ht]
      exact h.firstOf?_lineIdFor a

/-- **Taking additions groups them.** -/
theorem afterAll (h : Grouped price c done o) (hpriced : ∀ a ∈ adds, a.Priced price c) :
    Grouped price c (done ++ o.taken adds) (o.afterAll (adds.map .add)) := by
  induction adds generalizing o done with
  | nil =>
    rw [taken, List.append_nil]
    exact h
  | cons a rest ih =>
    have ha := hpriced a (List.mem_cons_self ..)
    have hrest : ∀ b ∈ rest, b.Priced price c := fun b hb => hpriced b (List.mem_cons_of_mem _ hb)
    show Grouped price c _ ((o.after (.add a)).afterAll (rest.map .add))
    rw [after]
    rcases h.consistent.perform_add a with ⟨hadmits, hp⟩ | ⟨_, e, hp⟩
    · rw [taken_of_ok hp, hp, List.append_cons]
      exact ih (h.extended ha hadmits) hrest
    · rw [taken_of_error hp, hp]
      exact ih h hrest

/-- **Additions that are not too much altogether are all taken.** -/
theorem taken_eq (h : Grouped price c done o) (hpriced : ∀ a ∈ adds, a.Priced price c)
    (hpos : ∀ a ∈ adds, 0 < a.quantity.toNat)
    (hfit : ∀ p, added p (done.map Prod.fst ++ adds) < UInt32.size)
    (hcost : ((done.map Prod.fst ++ adds).map cost).sum ≤ Money.maxAmount) :
    (o.taken adds).map Prod.fst = adds := by
  induction adds generalizing o done with
  | nil => rfl
  | cons a rest ih =>
    have ha := hpriced a (List.mem_cons_self ..)
    rw [List.append_cons] at hfit hcost
    have hfit' : added a.product (done.map Prod.fst ++ [a]) < UInt32.size := by
      have := hfit a.product
      rw [added_append] at this
      omega
    have hgroups := h.groups.mergeInto ha.price hfit'
    have hcost' : groupedCost price (done.map Prod.fst ++ [a]) ≤ Money.maxAmount := by
      rw [hgroups.groupedCost_eq, hgroups.worth]
      rw [List.map_append, List.sum_append] at hcost
      omega
    have hadmits := (h.admits_iff ha).mpr ⟨hpos a (List.mem_cons_self ..), hfit', hcost'⟩
    rcases h.consistent.perform_add a with ⟨_, hp⟩ | ⟨hnot, _⟩
    · have hdone : (done ++ [(a, o.lineIdFor a)]).map Prod.fst = done.map Prod.fst ++ [a] := by
        simp
      rw [taken_of_ok hp, List.map_cons,
        ih (h.extended ha hadmits) (fun b hb => hpriced b (List.mem_cons_of_mem _ hb))
          (fun b hb => hpos b (List.mem_cons_of_mem _ hb)) (hdone ▸ hfit) (hdone ▸ hcost)]
    · exact absurd hadmits hnot

end Grouped

/-! ### A new order -/

/-- The additions that an order takes. -/
def admitted (o : Order) (adds : List Addition) : List Addition := (o.taken adds).map Prod.fst

/-- The order with everything added that it takes. -/
def adding (o : Order) (adds : List Addition) : Order := o.afterAll (adds.map .add)

theorem Grouped.start {customer : CustomerId} {store : StoreId} {orderId : OrderId}
    {currency : String} {now : Timestamp}
    (h : create orderId customer store currency now = .ok o) :
    Grouped price o.total.currency [] o := by
  obtain ⟨hlines, hstatus, _, _⟩ := create_eq_ok h
  refine ⟨consistent_create h, hstatus, rfl, nofun, ?_, nofun⟩
  rw [hlines]
  exact .nil

theorem Grouped.adding (h : Grouped price c [] o) (hpriced : ∀ a ∈ adds, a.Priced price c) :
    Grouped price c (o.taken adds) (o.adding adds) := h.afterAll hpriced

/-- What additions come to does not depend on their order, and so neither does whether all of
them are taken. -/
theorem Grouped.admitted_of_perm (h : Grouped price c [] o)
    (hpriced : ∀ a ∈ adds, a.Priced price c) (hall : o.admitted adds = adds)
    {adds' : List Addition} (hperm : adds.Perm adds') : o.admitted adds' = adds' := by
  have hend := h.adding hpriced
  have hdone : (o.taken adds).map Prod.fst = adds := hall
  refine h.taken_eq (fun a ha => hpriced a (hperm.mem_iff.mpr ha)) (fun a ha => ?_)
    (fun p => ?_) ?_
  · exact hend.positive a (hdone.symm ▸ hperm.mem_iff.mpr ha)
  · have hlt := hend.quantityOf_lt p
    rwa [hdone, added_of_perm hperm p] at hlt
  · have hworth := hend.groups.worth
    rw [hdone, (hperm.map cost).sum_nat] at hworth
    exact hworth ▸ hend.consistent.worth_le

/-- Quantities and total do not depend on the order in which everything has been taken. -/
theorem Grouped.same_of_perm (h : Grouped price c [] o)
    (hpriced : ∀ a ∈ adds, a.Priced price c) (hall : o.admitted adds = adds)
    {adds' : List Addition} (hperm : adds.Perm adds') :
    (∀ p, (o.adding adds').quantityOf p = (o.adding adds).quantityOf p) ∧
      (o.adding adds').total = (o.adding adds).total := by
  have hend := h.adding hpriced
  have hend' := h.adding fun a ha => hpriced a (hperm.mem_iff.mpr ha)
  have hdone : (o.taken adds).map Prod.fst = adds := hall
  have hdone' : (o.taken adds').map Prod.fst = adds' := h.admitted_of_perm hpriced hall hperm
  refine ⟨fun p => ?_, Money.ext ?_ (hend'.currency.trans hend.currency.symm)⟩
  · have hquantity := hend.groups.quantity p
    have hquantity' := hend'.groups.quantity p
    rw [hdone, added_of_perm hperm p] at hquantity
    rw [hdone'] at hquantity'
    exact hquantity'.trans hquantity.symm
  · have hworth := hend.groups.worth
    have hworth' := hend'.groups.worth
    rw [hdone, (hperm.map cost).sum_nat] at hworth
    rw [hdone'] at hworth'
    rw [hend.consistent.total, hend'.consistent.total, hworth, hworth']

/-- **What becomes of additions to a new order.** -/
structure Collects (o : Order) (price : ProductId → Money) (adds : List Addition) : Prop where
  /-- The lines are of the products of which something is taken, as they come up, -/
  products : (o.adding adds).lines.map (·.productId) = products (o.admitted adds)
  /-- each with the name of the first addition of its product and the quantity of all of them. -/
  line : ∀ l ∈ (o.adding adds).lines, ∃ first,
    firstOf? l.productId (o.admitted adds) = some first ∧ l.id = first.fresh ∧
      l.name = first.name ∧ l.unitPrice = price l.productId ∧
      l.quantity.toNat = added l.productId (o.admitted adds)
  /-- All additions of a product are given the same identifier. -/
  ids : ∀ t ∈ o.taken adds, ∀ t' ∈ o.taken adds, t.1.product = t'.1.product → t.2 = t'.2
  /-- An addition is taken if it adds something, what its product comes to with it is a count,
  and what all products come to with it is an amount of money, and only then. -/
  taken : ∀ before a rest, adds = before ++ a :: rest →
    ((∃ id, ((o.adding before).perform (.add a)).1 = .ok (some id)) ↔
      0 < a.quantity.toNat ∧ added a.product (o.admitted before ++ [a]) ≤ Count.max.toNat ∧
        groupedCost price (o.admitted before ++ [a]) ≤ Money.maxAmount)
  /-- Otherwise it leaves the order as it was. -/
  refused : ∀ before a rest e o', adds = before ++ a :: rest →
    (o.adding before).perform (.add a) = (.error e, o') → o' = o.adding before
  /-- If all additions are taken, then all of them are taken in any other order, and come to the
  same. -/
  permuted : o.admitted adds = adds → ∀ adds', adds.Perm adds' →
    o.admitted adds' = adds' ∧
      (∀ p, (o.adding adds').quantityOf p = (o.adding adds).quantityOf p) ∧
      (o.adding adds').total = (o.adding adds).total

theorem Grouped.taken_iff {done : List (Addition × LineId)} (h : Grouped price c done o)
    (ha : a.Priced price c) :
    (∃ id, (o.perform (.add a)).1 = .ok (some id)) ↔
      0 < a.quantity.toNat ∧ added a.product (done.map Prod.fst ++ [a]) ≤ Count.max.toNat ∧
        groupedCost price (done.map Prod.fst ++ [a]) ≤ Money.maxAmount := by
  have hmax : ∀ n, n ≤ Count.max.toNat ↔ n < UInt32.size := fun n => Nat.lt_succ_iff.symm
  rw [hmax, ← h.admits_iff ha]
  rcases h.consistent.perform_add a with ⟨hadmits, hp⟩ | ⟨hnot, e, hp⟩
  · rw [hp]
    exact ⟨fun _ => hadmits, fun _ => ⟨_, rfl⟩⟩
  · rw [hp]
    exact ⟨fun ⟨_, he⟩ => (nomatch he), fun hadmits => absurd hadmits hnot⟩

/-- **Merging additions into lines is grouping them by product**, if each product is added at one
price in the currency of the order. -/
theorem additions_grouped {orderId : OrderId} {customer : CustomerId} {store : StoreId}
    {currency : String} {now : Timestamp} {o₀ : Order}
    (h : create orderId customer store currency now = .ok o₀) {price : ProductId → Money}
    {adds : List Addition} (hpriced : ∀ a ∈ adds, a.Priced price o₀.total.currency) :
    o₀.Collects price adds := by
  have hstart : Grouped price o₀.total.currency [] o₀ := .start h
  have hend := hstart.adding hpriced
  refine ⟨hend.groups.products, fun l hl => ?_, fun t ht t' ht' he => ?_,
    fun before a rest he => ?_, fun before a rest e o' _ hp => (perform_eq_error_iff.mp hp).2,
    fun hall adds' hperm => ?_⟩
  · obtain ⟨first, hfirst, hid, hname⟩ := hend.groups.first l hl
    exact ⟨first, hfirst, hid, hname, hend.groups.price l hl, hend.groups.quantity_of_mem hl⟩
  · have hid := hend.ids t ht
    rw [he, hend.ids t' ht'] at hid
    exact (Option.some.inj hid).symm
  · have hbefore := hstart.adding fun b hb => hpriced b (he ▸ List.mem_append_left _ hb)
    exact hbefore.taken_iff (hpriced a (he ▸ List.mem_append_right _ (List.mem_cons_self ..)))
  · exact ⟨hstart.admitted_of_perm hpriced hall hperm, hstart.same_of_perm hpriced hall hperm⟩

/-- One product is close to the largest amount, and the other one is ordered little by little. -/
def Sample.teatime : List Addition := [
  tea 0 1 2 (cents 150 default),
  tea 1 2 1 (cents (Money.maxAmount - 1000) default),
  tea 2 1 0 (cents 150 default),
  tea 3 1 5 (cents 150 default),
  tea 4 1 4 (cents 150 default)]

/-- The prices that the products have then. -/
def Sample.priceList (p : ProductId) : Money :=
  cents (if p = (Supply.nth 2).id .product then Money.maxAmount - 1000 else 150) default

theorem additions_grouped_teatime :
    let line n := (Supply.nth 0).line n
    create default default default "usd" .epoch = .ok Sample.draft ∧
      (∀ a ∈ Sample.teatime, a.Priced Sample.priceList Sample.draft.total.currency) ∧
      Sample.draft.Collects Sample.priceList Sample.teatime ∧
      (Sample.draft.taken Sample.teatime).map Prod.snd = [line 0, line 1, line 0] ∧
      (Sample.draft.adding Sample.teatime).lines.map (·.quantity) = [6, 1] ∧
      (Sample.draft.adding Sample.teatime).total.amount = Money.maxAmount - 100 := by
  have hprices : ∀ a ∈ Sample.teatime, a.price = Sample.priceList a.product ∧
      a.price.currency = Sample.draft.total.currency := by decide +kernel
  have hpriced : ∀ a ∈ Sample.teatime,
      a.Priced Sample.priceList Sample.draft.total.currency := fun a ha =>
    ⟨(hprices a ha).1, (hprices a ha).2⟩
  exact ⟨Sample.create_draft, hpriced, additions_grouped Sample.create_draft hpriced,
    by decide +kernel⟩

end Order

end Storefront
