import Storefront.Proofs.Atomicity
import Storefront.Proofs.Crediting

/-! # In which order points arrive

Points are credited event by event.  As long as all of them fit into the balance, the order in
which the events arrive makes no difference.  But an event that finds the balance too full is lost
with all of its points, and then it depends on the order which events those are: together, those
that are kept fill the balance up so far that none of the lost ones would fit in, too
(`FillsUp`), and every way to fill it up comes about in some order.  So the order makes no
difference if and only if all ways to fill up the balance come to the same
(`Backend.accrual_order`).

In general they do not (`Backend.accrual_order_matters`): what matters is whether the event that is
worth the most comes first or last.
-/
namespace Storefront

theorem awards_perm {id : CustomerId} {events events' : List Payload}
    (h : events.Perm events') : awards id events = awards id events' := (h.map _).sum_nat

/-- What is kept fills a balance up: it fits in, and nothing of what is lost would, too. -/
structure FillsUp (id : CustomerId) (balance : Nat) (kept lost : List Payload) : Prop where
  fits : balance + awards id kept ≤ Count.max.toNat
  full : ∀ p ∈ lost, Count.max.toNat < balance + awards id kept + p.award id

/-! ### One customer -/

/-- The balance that results when some events come one after the other. -/
def fill (id : CustomerId) (balance : Nat) : List Payload → Nat
  | [] => balance
  | p :: rest =>
    fill id (if balance + p.award id ≤ Count.max.toNat then balance + p.award id else balance) rest

section Fill
variable {id : CustomerId} {balance : Nat} {kept lost events : List Payload}

/-- **The balance is filled up**, in one way or another. -/
theorem fill_eq (id : CustomerId) (events : List Payload) (h : balance ≤ Count.max.toNat) :
    ∃ kept lost, (kept ++ lost).Perm events ∧ FillsUp id balance kept lost ∧
      fill id balance events = balance + awards id kept := by
  induction events generalizing balance with
  | nil => exact ⟨[], [], .nil, ⟨h, fun p hp => absurd hp List.not_mem_nil⟩, rfl⟩
  | cons p rest ih =>
    by_cases hp : balance + p.award id ≤ Count.max.toNat
    · obtain ⟨kept, lost, hperm, hfills, hfill⟩ := ih hp
      refine ⟨p :: kept, lost, hperm.cons p, ⟨?_, fun q hq => ?_⟩, ?_⟩
      · rw [awards_cons, ← Nat.add_assoc]
        exact hfills.fits
      · rw [awards_cons, ← Nat.add_assoc]
        exact hfills.full q hq
      · rw [fill, if_pos hp, hfill, awards_cons, Nat.add_assoc]
    · -- what does not fit in now does not fit in later, either
      obtain ⟨kept, lost, hperm, hfills, hfill⟩ := ih h
      refine ⟨kept, p :: lost, List.perm_middle.trans (hperm.cons p), ⟨hfills.fits, fun q hq => ?_⟩,
        ?_⟩
      · rcases List.mem_cons.mp hq with rfl | hq
        · omega
        · exact hfills.full q hq
      · rw [fill, if_neg hp, hfill]

/-- Of events that do not fit in any more, none changes the balance. -/
theorem fill_of_full (h : ∀ p ∈ lost, Count.max.toNat < balance + p.award id) :
    fill id balance lost = balance := by
  induction lost with
  | nil => rfl
  | cons p rest ih =>
    have hp := h p (List.mem_cons_self ..)
    rw [fill, if_neg (Nat.not_le.mpr hp)]
    exact ih fun q hq => h q (List.mem_cons_of_mem _ hq)

/-- **Every way to fill up the balance comes about**, if what is kept comes first. -/
theorem FillsUp.fill_append (h : FillsUp id balance kept lost) :
    fill id balance (kept ++ lost) = balance + awards id kept := by
  induction kept generalizing balance with
  | nil => exact fill_of_full h.full
  | cons p rest ih =>
    have hfits := h.fits
    have hfull := h.full
    rw [awards_cons, ← Nat.add_assoc] at hfits hfull
    rw [List.cons_append, fill, if_pos (Nat.le_trans (Nat.le_add_right ..) hfits), ih ⟨hfits, hfull⟩,
      awards_cons, Nat.add_assoc]

end Fill

namespace Customer

variable {c : Customer} {id : CustomerId}

theorem points_earnAll (events : List Payload) (ha : c.active = true) :
    (c.earnAll id events).loyaltyPoints.toNat = fill id c.loyaltyPoints.toNat events := by
  induction events generalizing c with
  | nil => rfl
  | cons p rest ih =>
    have hone := c.points_earn (p.award id)
    have hcan : c.CanEarn (p.award id) ↔
        c.loyaltyPoints.toNat + p.award id ≤ Count.max.toNat := and_iff_right ha
    simp only [hcan] at hone
    rw [fill, ← hone]
    exact ih ((c.earn_fields _).2.2.trans ha)

/-- Whoever has earned something has another balance, and the tier that goes with it. -/
theorem earnAll_cases (c : Customer) (id : CustomerId) (events : List Payload) :
    c.earnAll id events = c ∨
      c.loyaltyPoints.toNat < (c.earnAll id events).loyaltyPoints.toNat ∧
        c.earnAll id events = c.withBalance (c.earnAll id events).loyaltyPoints := by
  induction events generalizing c with
  | nil => exact .inl rfl
  | cons p rest ih =>
    show (c.earn (p.award id)).earnAll id rest = c ∨ _ ∧ _
    change _ ∨ _ < ((c.earn (p.award id)).earnAll id rest).loyaltyPoints.toNat ∧
      (c.earn (p.award id)).earnAll id rest =
        c.withBalance ((c.earn (p.award id)).earnAll id rest).loyaltyPoints
    by_cases hearn : p.award id ≠ 0 ∧ c.CanEarn (p.award id)
    · have hone : c.earn (p.award id) =
          c.withBalance (UInt32.ofNat (c.loyaltyPoints.toNat + p.award id)) := if_pos hearn
      have hmore : c.loyaltyPoints.toNat < (c.earn (p.award id)).loyaltyPoints.toNat := by
        rw [points_earn, if_pos hearn.2]
        omega
      refine .inr ?_
      rcases ih (c.earn (p.award id)) with hsame | ⟨hlt, heq⟩
      · rw [hsame]
        refine ⟨hmore, ?_⟩
        rw [hone]
        rfl
      · refine ⟨Nat.lt_trans hmore hlt, heq.trans ?_⟩
        rw [hone]
        rfl
    · have hone : c.earn (p.award id) = c := if_neg hearn
      rw [hone]
      exact ih c

/-- The balance decides everything else. -/
theorem earnAll_eq_of_points {events events' : List Payload}
    (h : (c.earnAll id events).loyaltyPoints.toNat = (c.earnAll id events').loyaltyPoints.toNat) :
    c.earnAll id events = c.earnAll id events' := by
  have hpoints := UInt32.toNat_inj.mp h
  rcases c.earnAll_cases id events with hsame | ⟨hlt, heq⟩ <;>
    rcases c.earnAll_cases id events' with hsame' | ⟨hlt', heq'⟩
  · rw [hsame, hsame']
  · rw [← h, hsame] at hlt'
    omega
  · rw [h, hsame'] at hlt
    omega
  · rw [heq, heq', hpoints]

end Customer

/-! ### The backend -/

/-- The balance and the tier of a customer. -/
def Repositories.standing (r : Repositories) (id : CustomerId) : Option (Count × Tier) :=
  (r.customers.get? id).map fun c => (c.loyaltyPoints, c.tier)

namespace Backend

variable {b : Backend} {id : CustomerId} {c : Customer}

/-- Credits the points for some events, one after the other. -/
def creditAll (b : Backend) (events : List Payload) : Backend :=
  events.foldl (fun b p => (b.perform (Loyalty.credit p)).2) b

/-- Crediting has everybody earn what the events are worth to them. -/
theorem creditAll_customers (events : List Payload) (hf : b.faults = .none)
    (hc : b.repositories.Clientele) (id : CustomerId) :
    (b.creditAll events).repositories.customers.get? id =
      (b.repositories.customers.get? id).map (·.earnAll id events) := by
  induction events generalizing b with
  | nil => exact Option.map_id'.symm
  | cons p rest ih =>
    have hone := perform_credit hf hc p
    have hrest := ih (hone.frame.2.2.2.2.trans hf) (hone.clientele hc)
    rw [hone.customers, Option.map_map] at hrest
    exact hrest

theorem creditAll_standing (hf : b.faults = .none) (hc : b.repositories.Clientele)
    (hget : b.repositories.customers.get? id = some c) (events : List Payload) :
    (b.creditAll events).repositories.standing id =
      some ((c.earnAll id events).loyaltyPoints, (c.earnAll id events).tier) := by
  rw [Repositories.standing, creditAll_customers events hf hc, hget]
  rfl

/-- **When the order of events makes a difference.**  For a customer whose account is open,
whatever their balance is, every order of some events leads to the same balance and the same tier
if and only if all ways to fill up the balance come to the same.  If all that the events are worth
fits into the balance, it does not matter in which order they come. -/
theorem accrual_order (hf : b.faults = .none) (hc : b.repositories.Clientele)
    (hget : b.repositories.customers.get? id = some c) (ha : c.active = true)
    (events : List Payload) :
    ((∀ order, order.Perm events → (b.creditAll order).repositories.standing id =
        (b.creditAll events).repositories.standing id) ↔
      ∀ kept lost kept' lost', (kept ++ lost).Perm events → (kept' ++ lost').Perm events →
        FillsUp id c.loyaltyPoints.toNat kept lost →
          FillsUp id c.loyaltyPoints.toNat kept' lost' → awards id kept = awards id kept') ∧
      (c.loyaltyPoints.toNat + awards id events ≤ Count.max.toNat → ∀ order, order.Perm events →
        (b.creditAll order).repositories.standing id =
          if awards id events = 0 then some (c.loyaltyPoints, c.tier)
          else some (UInt32.ofNat (c.loyaltyPoints.toNat + awards id events),
            Tier.forPoints (UInt32.ofNat (c.loyaltyPoints.toNat + awards id events)))) := by
  have hpoints : ∀ order, (c.earnAll id order).loyaltyPoints.toNat =
      fill id c.loyaltyPoints.toNat order := fun order => Customer.points_earnAll order ha
  have hstanding := creditAll_standing hf hc hget
  refine ⟨⟨fun hsame kept lost kept' lost' hperm hperm' hfills hfills' => ?_,
    fun hsame order hperm => ?_⟩, fun hfits order hperm => ?_⟩
  · -- what is kept may come first
    have hboth := (hsame _ hperm).trans (hsame _ hperm').symm
    rw [hstanding, hstanding, Option.some.injEq, Prod.mk.injEq] at hboth
    have hbalance := congrArg UInt32.toNat hboth.1
    rw [hpoints, hpoints, hfills.fill_append, hfills'.fill_append] at hbalance
    exact Nat.add_left_cancel hbalance
  · obtain ⟨kept, lost, hk, hfills, hfill⟩ := fill_eq id order c.loyaltyPoints.toNat_le_max
    obtain ⟨kept', lost', hk', hfills', hfill'⟩ := fill_eq id events c.loyaltyPoints.toNat_le_max
    have hbalance := hsame kept lost kept' lost' (hk.trans hperm) hk' hfills hfills'
    rw [hstanding, hstanding, Customer.earnAll_eq_of_points]
    rw [hpoints, hpoints, hfill, hfill', hbalance]
  · rw [← awards_perm hperm] at hfits ⊢
    have hfills : FillsUp id c.loyaltyPoints.toNat order [] :=
      ⟨hfits, fun p hp => absurd hp List.not_mem_nil⟩
    have hbalance : (c.earnAll id order).loyaltyPoints.toNat =
        c.loyaltyPoints.toNat + awards id order := by
      have hall := hfills.fill_append
      rw [List.append_nil] at hall
      rw [hpoints, hall]
    have hcount : (c.earnAll id order).loyaltyPoints =
        UInt32.ofNat (c.loyaltyPoints.toNat + awards id order) := by
      rw [← hbalance, UInt32.ofNat_toNat]
    rw [hstanding]
    rcases c.earnAll_cases id order with hsame | ⟨hlt, heq⟩
    · rw [hsame] at hbalance
      rw [if_pos (by omega), hsame]
    · rw [if_neg (by omega), heq, hcount]
      rfl

/-- Two small orders of ann's fit into her balance: they earn her three points, whichever is told
of first. -/
theorem accrual_order_ann :
    let events := [Sample.confirmed 6 ⟨150, default, by decide⟩,
      Sample.confirmed 7 ⟨250, default, by decide⟩]
    ∀ order, order.Perm events →
      (Sample.opened.creditAll order).repositories.standing Sample.ann = some (3, .regular) := by
  intro events order hperm
  have hknown : (Sample.opened.repositories.customers.get? Sample.ann).map
      (fun c => (c.active, c.loyaltyPoints)) = some (true, 0) := by decide +kernel
  obtain ⟨c, hget, hfields⟩ := Option.map_eq_some_iff.mp hknown
  obtain ⟨ha, hp⟩ := Prod.mk.inj hfields
  have hclientele := (executeAll_clientele (b := empty) (Sample.numbered Sample.opening) rfl
    Repositories.Clientele.empty).1
  have h := (accrual_order (b := Sample.opened) (by decide +kernel) hclientele hget ha events).2
  rw [hp] at h
  rw [h (by decide) order hperm, if_neg (by decide)]
  decide

/-- An order that is worth all the points there can be, and one that is worth a single point:
if the small one is told of first, there is no room for the large one any more. -/
theorem accrual_order_matters :
    let large := Sample.confirmed 6 ⟨Money.maxAmount, default, Nat.le_refl _⟩
    let small := Sample.confirmed 7 ⟨100, default, by decide⟩
    (Sample.opened.creditAll [large, small]).repositories.standing Sample.ann =
        some (4294967295, .vip) ∧
      (Sample.opened.creditAll [small, large]).repositories.standing Sample.ann =
        some (1, .regular) := by
  decide +kernel

end Backend

end Storefront
