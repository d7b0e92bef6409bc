import Storefront.Proofs.Balance
import Storefront.Proofs.CustomerView
import Storefront.Proofs.Journal

/-! # What a log tells of customers

The points for an order are credited without telling anybody, so that events are missing between
those that are told of a customer as soon as an order of theirs is worth a point.  What is told of
the account still leads to the account (`CustomerView.account_of_retell`), but the balance that it
leads to, if it leads to one at all, is not the one that is kept
(`CustomerView.points_ne_of_retell`).

What is missing can be worked out, however, since every order that is confirmed is told of, together
with what it comes to (`CustomerView.retell`).
-/
namespace Storefront

/-- What a log tells of a customer. -/
def customerEvents (id : CustomerId) (log : List Payload) : List CustomerEvent :=
  log.filterMap fun
    | .customer e => if e.customer = id then some e else none
    | _ => none

/-- Whether the event tells of a customer, or of an order that is worth something to them. -/
def Payload.concerns (id : CustomerId) : Payload → Bool
  | .customer e => decide (e.customer = id)
  | p => decide (p.award id ≠ 0)

theorem customerEvents_cons_customer (id : CustomerId) (e : CustomerEvent) (rest : List Payload) :
    customerEvents id (.customer e :: rest) =
      if e.customer = id then e :: customerEvents id rest else customerEvents id rest := by
  by_cases he : e.customer = id
  · rw [if_pos he]
    exact List.filterMap_cons_some (if_pos he)
  · rw [if_neg he]
    exact List.filterMap_cons_none (if_neg he)

theorem Payload.concerns_customer {id : CustomerId} {e : CustomerEvent} :
    (Payload.customer e).concerns id = true ↔ e.customer = id := decide_eq_true_iff

namespace CustomerView

/-- The view after one more event of a log.  If an order of the customer is confirmed, what
crediting the points for it raises is put in. -/
def take (v : CustomerView) : Payload → Option CustomerView
  | .customer e => v.apply e
  | .order (.confirmed _ customer _ total _) =>
    if Loyalty.pointsFor total = 0 then some v
    else (v.raises customer (Loyalty.pointsFor total)).foldlM apply v
  | _ => some v

/-- The view after some events of a log that concern one customer, with what is missing put in. -/
def retell : List Payload → Option CustomerView
  | .customer (.registered _ email firstName lastName) :: rest =>
    rest.foldlM take (start email firstName lastName)
  | _ => none

end CustomerView

/-! ### Logs -/

section Logs
variable {id : CustomerId} {log more : List Payload} {v : CustomerView}

/-- Whoever is told of has been registered first. -/
theorem CustomerView.retell_eq_some (h : retell log = some v) :
    ∃ k email firstName lastName rest,
      log = .customer (.registered k email firstName lastName) :: rest ∧
        rest.foldlM take (start email firstName lastName) = some v := by
  unfold retell at h
  split at h
  · exact ⟨_, _, _, _, _, rfl, h⟩
  · cases h

theorem CustomerView.retell_append (h : retell log = some v) :
    retell (log ++ more) = more.foldlM take v := by
  obtain ⟨k, email, firstName, lastName, rest, rfl, hrest⟩ := retell_eq_some h
  show (rest ++ more).foldlM take _ = _
  rw [List.foldlM_append, hrest]
  rfl

theorem CustomerView.foldlM_take_customer (events : List CustomerEvent) (v : CustomerView) :
    (events.map Payload.customer).foldlM take v = events.foldlM apply v :=
  List.foldlM_map ..

theorem CustomerView.retell_customer (events : List CustomerEvent) :
    retell (events.map Payload.customer) = replay events := by
  cases events with
  | nil => rfl
  | cons e rest =>
    cases e with
    | registered k email firstName lastName => exact foldlM_take_customer rest _
    | _ => rfl

theorem mem_customerEvents {e : CustomerEvent} (h : e ∈ customerEvents id log) :
    .customer e ∈ log := by
  obtain ⟨p, hp, he⟩ := List.mem_filterMap.mp h
  cases p with
  | store | order => cases he
  | customer e' =>
    obtain ⟨_, he⟩ := Option.ite_none_right_eq_some.mp he
    cases he
    exact hp

/-- Events about one customer concern them, and nobody else. -/
theorem filter_concerns_customer {events : List CustomerEvent} {k : CustomerId}
    (h : ∀ e ∈ events, e.customer = k) (id : CustomerId) :
    (events.map .customer).filter (Payload.concerns id) =
      if id = k then events.map .customer else [] := by
  by_cases hid : id = k
  · rw [if_pos hid, List.filter_eq_self]
    intro p hp
    obtain ⟨e, he, rfl⟩ := List.mem_map.mp hp
    exact decide_eq_true ((h e he).trans hid.symm)
  · rw [if_neg hid, List.filter_eq_nil_iff]
    intro p hp
    obtain ⟨e, he, rfl⟩ := List.mem_map.mp hp
    exact fun hc => hid ((of_decide_eq_true hc).symm.trans (h e he))

/-- What is worth something confirms an order. -/
theorem Payload.award_ne_zero {p : Payload} (h : p.award id ≠ 0) :
    ∃ order store total items, p = .order (.confirmed order id store total items) ∧
      Loyalty.pointsFor total ≠ 0 ∧ p.award id = (Loyalty.pointsFor total).toNat := by
  unfold award at h
  split at h
  · rename_i order customer store total items
    by_cases hid : customer = id
    · subst hid
      rw [if_pos rfl, ← Loyalty.toNat_pointsFor] at h
      refine ⟨order, store, total, items, rfl, fun hz => h (by rw [hz]; rfl), ?_⟩
      rw [Loyalty.toNat_pointsFor]
      exact if_pos rfl
    · rw [if_neg hid] at h
      exact absurd rfl h
  · exact absurd rfl h

/-- Where nothing is said of customers, only orders that are worth something concern them. -/
theorem concerns_eq {p : Payload} (hp : ∀ e, p ≠ .customer e) :
    p.concerns id = decide (p.award id ≠ 0) := by
  cases p with
  | customer e => exact absurd rfl (hp e)
  | _ => rfl

/-- Of the events that concern a customer, those that tell of them are all that tell of them. -/
theorem customerEvents_concerns (id : CustomerId) (log : List Payload) :
    customerEvents id (log.filter (Payload.concerns id)) = customerEvents id log := by
  rw [customerEvents, customerEvents, List.filterMap_filter]
  congr 1
  funext p
  cases p with
  | store | order => exact ite_self _
  | customer e =>
    dsimp only
    simp only [Payload.concerns_customer]
    by_cases he : e.customer = id
    · rw [if_pos he]
    · rw [if_neg he, if_neg he]

/-- **If no order is worth anything, nothing is missing.** -/
theorem filter_concerns_of_awards (h : awards id log = 0) :
    log.filter (Payload.concerns id) = (customerEvents id log).map .customer := by
  induction log with
  | nil => rfl
  | cons p rest ih =>
    rw [awards_cons] at h
    have hrest := ih (by omega)
    cases p with
    | store | order =>
      rw [List.filter_cons, if_neg (by simp [Payload.concerns]; omega)]
      exact hrest
    | customer e =>
      rw [List.filter_cons, customerEvents_cons_customer, hrest]
      simp only [Payload.concerns_customer]
      split <;> rfl

/-- An event of which something is missing is worth something. -/
theorem exists_award (h : awards id log ≠ 0) :
    ∃ p ∈ log.filter (Payload.concerns id), p.award id ≠ 0 := by
  by_contra hnone
  refine h (List.sum_eq_zero_iff_forall_eq_nat.mpr fun n hn => ?_)
  obtain ⟨p, hp, rfl⟩ := List.mem_map.mp hn
  by_contra hne
  refine hnone ⟨p, List.mem_filter.mpr ⟨hp, ?_⟩, hne⟩
  rw [concerns_eq]
  · exact decide_eq_true hne
  · rintro e rfl
    exact hne rfl

end Logs

/-! ### What is told, and what is put in -/

namespace CustomerView

variable {id : CustomerId} {log : List Payload} {v v' w : CustomerView}

/-- What is put in for an order leaves the account as it is, and points on the balance. -/
theorem take_of_award {p : Payload} (hp : p.award id ≠ 0) (h : v.take p = some v') :
    v'.account = v.account ∧ v.points ≤ v'.points ∧ v'.points ≠ 0 := by
  obtain ⟨order, store, total, items, rfl, hpoints, _⟩ := Payload.award_ne_zero hp
  have htake : v.take (.order (.confirmed order id store total items)) =
      (v.raises id (Loyalty.pointsFor total)).foldlM apply v := if_neg hpoints
  rw [htake] at h
  exact foldlM_raises hpoints h

/-- **What is told of the account leads to the account**, with or without what is missing. -/
theorem account_foldlM (hlog : ∀ p ∈ log, p.concerns id = true) (h : log.foldlM take v = some v')
    (hw : w.account = v.account) :
    ∃ w', ((customerEvents id log).filter CustomerEvent.ofAccount).foldlM apply w = some w' ∧
      w'.account = v'.account := by
  induction log generalizing v w with
  | nil =>
    cases h
    exact ⟨w, rfl, hw⟩
  | cons p rest ih =>
    obtain ⟨v₁, htake, hrest⟩ := Option.bind_eq_some_iff.mp h
    have hone := hlog p (List.mem_cons_self ..)
    have ih := fun w (hw : w.account = v₁.account) =>
      ih (w := w) (fun q hq => hlog q (List.mem_cons_of_mem _ hq)) hrest hw
    cases p with
    | store e => cases hone
    | order e => exact ih w (hw.trans (take_of_award (of_decide_eq_true hone) htake).1.symm)
    | customer e =>
      rw [customerEvents_cons_customer, if_pos (Payload.concerns_customer.mp hone),
        List.filter_cons]
      cases he : e.ofAccount with
      | false => exact ih w (hw.trans (account_apply he htake).symm)
      | true =>
        obtain ⟨w₁, happly, hw₁⟩ := apply_of_account he htake hw
        obtain ⟨w', hfold, hw'⟩ := ih w₁ hw₁
        refine ⟨w', ?_, hw'⟩
        rw [if_pos rfl, List.foldlM_cons, happly]
        exact hfold

/-- As long as no points are spent, whoever has earned some has some. -/
theorem points_foldlM (hlog : ∀ p ∈ log, p.concerns id = true)
    (hspends : ∀ e ∈ customerEvents id log, e.spends = false) (h : log.foldlM take v = some v') :
    v.points ≤ v'.points ∧ ((∃ p ∈ log, p.award id ≠ 0) → v'.points ≠ 0) := by
  induction log generalizing v with
  | nil =>
    cases h
    exact ⟨UInt32.le_refl _, fun ⟨p, hp, _⟩ => absurd hp List.not_mem_nil⟩
  | cons p rest ih =>
    obtain ⟨v₁, htake, hrest⟩ := Option.bind_eq_some_iff.mp h
    have hone := hlog p (List.mem_cons_self ..)
    have hmem : ∀ e ∈ customerEvents id rest, e ∈ customerEvents id (p :: rest) := fun e he =>
      (List.sublist_cons_self p rest).filterMap _ |>.subset he
    obtain ⟨hle, hsome⟩ := ih (fun q hq => hlog q (List.mem_cons_of_mem _ hq))
      (fun e he => hspends e (hmem e he)) hrest
    have hfirst : v.points ≤ v₁.points ∧ (p.award id ≠ 0 → v₁.points ≠ 0) := by
      cases p with
      | store e => cases hone
      | order e =>
        obtain ⟨_, hmore, hpoints⟩ := take_of_award (of_decide_eq_true hone) htake
        exact ⟨hmore, fun _ => hpoints⟩
      | customer e =>
        rw [customerEvents_cons_customer, if_pos (Payload.concerns_customer.mp hone)] at hspends
        have he := hspends e (List.mem_cons_self ..)
        exact ⟨points_apply he htake, fun hp => absurd rfl hp⟩
    refine ⟨UInt32.le_trans hfirst.1 hle, fun ⟨q, hq, hworth⟩ => ?_⟩
    rcases List.mem_cons.mp hq with rfl | hq
    · -- what has been earned here is still there in the end
      intro hz
      rw [hz] at hle
      refine hfirst.2 hworth (UInt32.le_antisymm hle ?_)
      exact UInt32.le_iff_toNat_le.mpr (Nat.zero_le _)
    · exact hsome ⟨q, hq, hworth⟩

end CustomerView

/-! ### Points that are credited -/

section Credit
variable {id : CustomerId} {c : Customer} {v : CustomerView}

/-- **What crediting the points for an order raises is put in.** -/
theorem CustomerView.Shows.take (hv : v.Shows c) (hid : c.id = id) (ha : c.active = true)
    {p : Payload} (hp : p.award id ≠ 0) :
    ∃ v', v.take p = some v' ∧ v'.Shows (c.earn (p.award id)) := by
  obtain ⟨order, store, total, items, rfl, hpoints, haward⟩ := Payload.award_ne_zero hp
  have htake : v.take (.order (.confirmed order id store total items)) =
      (v.raises id (Loyalty.pointsFor total)).foldlM apply v := if_neg hpoints
  rw [haward, htake, ← hid]
  generalize Loyalty.pointsFor total = points at hpoints
  by_cases hearn : c.CanEarn points.toNat
  · obtain ⟨c', hadd, hsettled⟩ := Customer.addPoints_of_canEarn hpoints hearn
    obtain ⟨v', hfold, hv'⟩ := (Customer.grows_addPoints hv hadd).shown v hv
    exact ⟨v', hfold, hsettled ▸ hv'.settled⟩
  · -- the balance cannot hold the points, and nothing is raised
    have hnone : v.points.add? points = none := by
      rw [hv.points]
      exact if_neg fun hlt => hearn ⟨ha, Nat.le_of_lt_succ hlt⟩
    refine ⟨v, ?_, (Customer.earn_of_not hearn).symm ▸ hv⟩
    unfold raises
    rw [hnone]
    rfl

theorem Customer.rated_earn (hc : c.Rated) (n : Nat) : (c.earn n).Rated := by
  unfold earn
  split
  · rfl
  · exact hc

/-- **A story in which nothing is said of customers** takes the view of a customer to one of what
they are when all its points have been credited. -/
theorem CustomerView.Shows.story (hv : v.Shows c) (hid : c.id = id) {story : List Payload}
    (hnone : ∀ e, .customer e ∉ story) (ha : awards id story ≠ 0 → c.active = true) :
    ∃ v', (story.filter (Payload.concerns id)).foldlM CustomerView.take v = some v' ∧
      v'.Shows (c.earnAll id story) := by
  induction story generalizing v c with
  | nil => exact ⟨v, rfl, hv⟩
  | cons p rest ih =>
    have hrest : ∀ e, .customer e ∉ rest := fun e he => hnone e (List.mem_cons_of_mem _ he)
    have hp : ∀ e, p ≠ .customer e := fun e he => hnone e (he ▸ List.mem_cons_self ..)
    rw [awards_cons] at ha
    rw [List.filter_cons, concerns_eq hp]
    by_cases hzero : p.award id = 0
    · rw [if_neg (by simp [hzero])]
      obtain ⟨v', hfold, hv'⟩ := ih hv hid hrest fun h => ha (by omega)
      refine ⟨v', hfold, ?_⟩
      show v'.Shows ((c.earn (p.award id)).earnAll id rest)
      rwa [hzero, Customer.earn_zero]
    · rw [if_pos (decide_eq_true hzero)]
      have hactive := ha (by omega)
      obtain ⟨v₁, htake, hv₁⟩ := hv.take hid hactive hzero
      obtain ⟨hid', _, hactive'⟩ := c.earn_fields (p.award id)
      obtain ⟨v', hfold, hv'⟩ := ih hv₁ (hid'.trans hid) hrest fun _ => hactive'.trans hactive
      refine ⟨v', ?_, hv'⟩
      rw [List.foldlM_cons, htake]
      exact hfold

theorem Customer.rated_earnAll (hc : c.Rated) (id : CustomerId) (events : List Payload) :
    (c.earnAll id events).Rated := by
  induction events generalizing c with
  | nil => exact hc
  | cons p rest ih => exact ih (rated_earn hc _)

/-- Nothing is earned with events that are worth nothing. -/
theorem Customer.earnAll_of_awards {events : List Payload} (h : ∀ p ∈ events, p.award id = 0) :
    c.earnAll id events = c := by
  induction events generalizing c with
  | nil => rfl
  | cons p rest ih =>
    show (c.earn (p.award id)).earnAll id rest = c
    rw [h p (List.mem_cons_self ..), earn_zero]
    exact ih fun q hq => h q (List.mem_cons_of_mem _ hq)

/-- **Whatever is worth something is delivered once**, so that what is delivered earns what has been
told. -/
theorem Customer.earnAll_deliveries (c : Customer) (id : CustomerId) (story : List Payload) :
    c.earnAll id ((story.flatMap Payload.deliveries).map Delivery.payload) =
      c.earnAll id story := by
  induction story generalizing c with
  | nil => rfl
  | cons p rest ih =>
    have hone : c.earnAll id (p.deliveries.map Delivery.payload) = c.earn (p.award id) := by
      by_cases hp : p.award id = 0
      · have hall : ∀ q ∈ p.deliveries.map Delivery.payload, q.award id = 0 := by
          intro q hq
          obtain ⟨d, hd, rfl⟩ := List.mem_map.mp hq
          obtain ⟨l, _, rfl⟩ := List.mem_map.mp hd
          exact hp
        rw [hp, earn_zero, earnAll_of_awards hall]
      · obtain ⟨order, store, total, items, rfl, _⟩ := Payload.award_ne_zero hp
        rfl
    rw [List.flatMap_cons, List.map_append, earnAll, List.foldl_append]
    exact (congrArg (fun d : Customer => d.earnAll id _) hone).trans (ih _)

end Credit

/-! ### With and without what is missing -/

namespace CustomerView

variable {id : CustomerId} {log : List Payload} {v w : CustomerView}

/-- What concerns a customer begins with what is told of them. -/
theorem customerEvents_of_retell (h : retell (log.filter (Payload.concerns id)) = some v) :
    ∃ k email firstName lastName rest, (∀ p ∈ rest, p.concerns id = true) ∧
      log.filter (Payload.concerns id) =
        .customer (.registered k email firstName lastName) :: rest ∧
      customerEvents id log = .registered k email firstName lastName :: customerEvents id rest ∧
      rest.foldlM take (start email firstName lastName) = some v := by
  obtain ⟨k, email, firstName, lastName, rest, hlog, hrest⟩ := retell_eq_some h
  have hall : ∀ p ∈ log.filter (Payload.concerns id), p.concerns id = true := fun p hp =>
    (List.mem_filter.mp hp).2
  have hevents := customerEvents_concerns id log
  rw [hlog] at hall hevents
  rw [customerEvents_cons_customer,
    if_pos (Payload.concerns_customer.mp (hall _ (List.mem_cons_self ..)))] at hevents
  exact ⟨k, email, firstName, lastName, rest, fun p hp => hall p (List.mem_cons_of_mem _ hp), hlog,
    hevents.symm, hrest⟩

/-- **What is told of an account leads to the account** of the customer. -/
theorem account_of_retell (h : retell (log.filter (Payload.concerns id)) = some v) :
    ∃ w, replay ((customerEvents id log).filter CustomerEvent.ofAccount) = some w ∧
      w.account = v.account := by
  obtain ⟨k, email, firstName, lastName, rest, hall, _, hevents, hrest⟩ :=
    customerEvents_of_retell h
  rw [hevents, List.filter_cons_of_pos rfl]
  exact account_foldlM hall hrest rfl

/-- If no order is worth anything, what is told of a customer leads to them. -/
theorem replay_of_retell (h : retell (log.filter (Payload.concerns id)) = some v)
    (hzero : awards id log = 0) : replay (customerEvents id log) = some v := by
  rwa [filter_concerns_of_awards hzero, retell_customer] at h

/-- **If an order is worth something, what is told of a customer leads nowhere**, or to a balance of
nothing, which is not the one that they have. -/
theorem points_ne_of_retell (h : retell (log.filter (Payload.concerns id)) = some v)
    (hworth : awards id log ≠ 0) (hfalls : ∀ e ∈ customerEvents id log, e.rises = false)
    (hw : replay (customerEvents id log) = some w) : w.points ≠ v.points := by
  obtain ⟨k, email, firstName, lastName, rest, hall, hlog, hevents, hrest⟩ :=
    customerEvents_of_retell h
  obtain ⟨p, hp, haward⟩ := exists_award hworth
  rw [hlog] at hp
  rw [hevents] at hw hfalls
  obtain ⟨hnothing, hspends⟩ := foldlM_of_no_points (v := start email firstName lastName) rfl
    (fun e he => hfalls e (List.mem_cons_of_mem _ he)) hw
  have hsome := (points_foldlM hall hspends hrest).2
  rcases List.mem_cons.mp hp with rfl | hp
  · exact absurd rfl haward
  · rw [hnothing]
    exact (hsome ⟨p, hp, haward⟩).symm

end CustomerView

end Storefront
