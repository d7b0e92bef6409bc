import Storefront.Customer.Call
import Storefront.Proofs.CustomerView
import Storefront.Proofs.Documents
import Storefront.Proofs.InPlace

/-! # Calls on a customer

A customer is registered, and then called on in whatever way, however often, and with whatever
arguments.  A call in place comes to the same as the operations of `Customer`
(`Customer.perform_eq`), and one that is carried out does one of four things (`Customer.Does`).  The
tier is written apart from the balance, and so is what is told of either; that they agree is kept
by each call and so by any number of them (`Customer.Follows`).

A customer who is read from a document may be in any tier.  From the first points on that they are
awarded or spend they are in the one that their balance earns (`Customer.tier_upheld`).
-/
namespace Storefront

namespace CustomerCall

/-- How many points a call awards. -/
def awarded : CustomerCall → Nat
  | addPoints points => points.toNat
  | _ => 0

/-- How many points a call spends. -/
def redeemed : CustomerCall → Nat
  | redeemPoints points => points.toNat
  | _ => 0

/-- Whether a call is about points. -/
def ofPoints : CustomerCall → Bool
  | addPoints _ | redeemPoints _ => true
  | updateContact .. | deactivate => false

end CustomerCall

/-- The tier after one more event.  One that tells of a change of tier has to tell of one from this
tier to another one. -/
def Tier.follow (tier : Tier) : CustomerEvent → Option Tier
  | .tierChanged _ oldTier newTier _ =>
    if oldTier = tier ∧ newTier ≠ tier then some newTier else none
  | .registered .. | .contactUpdated .. | .pointsAwarded .. | .pointsRedeemed ..
  | .deactivated .. => some tier

namespace Customer

/-! ### In place -/

section Place
variable {c : Customer}

namespace Edit

open InPlace

/-- The tier is written, and told of, if it is another one. -/
theorem on_reviewTier : on c reviewTier = (.ok (), c.reviewTier) := by
  unfold reviewTier Customer.reviewTier
  rw [on_get_bind]
  by_cases htier : Tier.forPoints c.loyaltyPoints = c.tier
  · rw [on_get_bind, if_pos htier]
    dsimp only
    rw [if_pos htier]
    rfl
  · rw [on_get_bind, if_neg htier]
    dsimp only
    rw [if_neg htier]
    rfl

theorem on_updateContact (phone : String) (address : Address) :
    on c (updateContact phone address) = kept c ((c.updateContact phone address).map ((), ·)) := by
  unfold updateContact Customer.updateContact
  rw [on_get_bind, on_check_bind]
  cases c.ensureActive with
  | error e => rfl
  | ok =>
    dsimp only [ok_bind]
    rw [on_check_bind]
    cases PhoneNumber.make phone <;> rfl

theorem on_addPoints (points : Count) :
    on c (addPoints points) = kept c ((c.addPoints points).map ((), ·)) := by
  unfold addPoints Customer.addPoints
  by_cases hp : points = 0
  · rw [if_pos hp, if_pos hp]
    rfl
  · rw [if_neg hp, if_neg hp]
    show on c (get >>= _) = _
    rw [on_get_bind, on_check_bind]
    cases c.ensureActive with
    | error e => rfl
    | ok =>
      dsimp only [ok_bind]
      rw [on_get_bind]
      cases c.loyaltyPoints.add? points with
      | none => rfl
      | some balance => exact on_reviewTier

theorem on_redeemPoints (points : Count) :
    on c (redeemPoints points) = kept c ((c.redeemPoints points).map ((), ·)) := by
  unfold redeemPoints Customer.redeemPoints
  by_cases hp : points = 0
  · rw [if_pos hp, if_pos hp]
    rfl
  · rw [if_neg hp, if_neg hp]
    show on c (get >>= _) = _
    rw [on_get_bind, on_check_bind]
    cases c.ensureActive with
    | error e => rfl
    | ok =>
      dsimp only [ok_bind]
      rw [on_get_bind]
      by_cases hlt : c.loyaltyPoints < points
      · rw [if_pos hlt, if_pos hlt]
        rfl
      · rw [if_neg hlt, if_neg hlt]
        exact on_reviewTier

theorem on_deactivate : on c deactivate = kept c (c.deactivate.map ((), ·)) := by
  unfold deactivate Customer.deactivate
  rw [on_get_bind, on_check_bind]
  cases c.ensureActive <;> rfl

end Edit

/-- **A call in place comes to the same as the operations**, and a refused one leaves the customer
as they were. -/
theorem perform_eq (c : Customer) (call : CustomerCall) :
    c.perform call = InPlace.kept c (c.answer call) := by
  cases call with
  | updateContact phone address =>
    refine (Edit.on_updateContact phone address).trans ?_
    rw [answer]
    cases c.updateContact phone address <;> rfl
  | addPoints points =>
    refine (Edit.on_addPoints points).trans ?_
    rw [answer]
    cases c.addPoints points <;> rfl
  | redeemPoints points =>
    refine (Edit.on_redeemPoints points).trans ?_
    rw [answer]
    cases c.redeemPoints points <;> rfl
  | deactivate =>
    refine Edit.on_deactivate.trans ?_
    rw [answer]
    cases c.deactivate <;> rfl

end Place

/-! ### One call -/

/-- **The balance is another one, and told of**: in one event that says the new balance, followed
by one about the tier if that is another one then.  Nothing else is another. -/
structure Rebalanced (c : Customer) (event : CustomerEvent) (c' : Customer) : Prop where
  tier : c'.tier = Tier.forPoints c'.loyaltyPoints
  pending : c'.pending = c.pending ++ event ::
    if c'.tier = c.tier then [] else [.tierChanged c.id c.tier c'.tier c'.loyaltyPoints]
  rest : c' = { c with
    loyaltyPoints := c'.loyaltyPoints
    tier := c'.tier
    pending := c'.pending }

/-- **What a call does that is carried out.** -/
inductive Does (c : Customer) : CustomerCall → Customer → Prop where
  | contact {phone : String} {address : Address} {number : PhoneNumber}
      (hnumber : PhoneNumber.make phone = .ok number) :
      Does c (.updateContact phone address)
        (raise { c with phoneNumber := some number, address := some address }
          (.contactUpdated c.id number.text address))
  | awards {points : Count} {c' : Customer} (hp : points ≠ 0)
      (hsum : c'.loyaltyPoints.toNat = c.loyaltyPoints.toNat + points.toNat)
      (h : c.Rebalanced (.pointsAwarded c.id points c'.loyaltyPoints) c') :
      Does c (.addPoints points) c'
  | redeems {points : Count} {c' : Customer} (hp : points ≠ 0)
      (hsum : c'.loyaltyPoints.toNat + points.toNat = c.loyaltyPoints.toNat)
      (h : c.Rebalanced (.pointsRedeemed c.id points c'.loyaltyPoints) c') :
      Does c (.redeemPoints points) c'
  | closes : Does c .deactivate (raise { c with active := false } (.deactivated c.id))

section Step
variable {c c' : Customer} {call : CustomerCall} {event : CustomerEvent} {points balance : Count}

theorem ensureActive_eq_ok_iff : c.ensureActive = .ok () ↔ c.active = true := by
  unfold ensureActive
  split <;> simp [*]

/-- The review of the tier completes the change of the balance. -/
theorem rebalanced_iff :
    c.Rebalanced event c' ↔
      c' = (raise { c with loyaltyPoints := c'.loyaltyPoints } event).reviewTier := by
  by_cases hsame : Tier.forPoints c'.loyaltyPoints = c.tier
  · have hreview : (raise { c with loyaltyPoints := c'.loyaltyPoints } event).reviewTier =
        raise { c with loyaltyPoints := c'.loyaltyPoints } event := if_pos hsame
    rw [hreview]
    constructor
    · rintro ⟨htier, hpending, hrest⟩
      have hstays := htier.trans hsame
      rw [if_pos hstays] at hpending
      rwa [hpending, hstays] at hrest
    · intro h
      rw [h]
      exact ⟨hsame.symm, congrArg (c.pending ++ event :: ·) (if_pos rfl).symm, rfl⟩
  · have hreview : (raise { c with loyaltyPoints := c'.loyaltyPoints } event).reviewTier =
        { c with
          loyaltyPoints := c'.loyaltyPoints
          tier := Tier.forPoints c'.loyaltyPoints
          pending := c.pending ++ [event] ++
            [.tierChanged c.id c.tier (Tier.forPoints c'.loyaltyPoints) c'.loyaltyPoints] } :=
      if_neg hsame
    rw [hreview, List.append_assoc]
    constructor
    · rintro ⟨htier, hpending, hrest⟩
      rw [htier, if_neg hsame] at hpending
      rwa [hpending, htier] at hrest
    · intro h
      rw [h]
      exact ⟨rfl, congrArg (c.pending ++ event :: ·) (if_neg hsame).symm, rfl⟩

/-- **When points are awarded, and what comes of that.** -/
theorem addPoints_eq_ok_iff :
    c.addPoints points = .ok c' ↔ c.active = true ∧ points ≠ 0 ∧
      c'.loyaltyPoints.toNat = c.loyaltyPoints.toNat + points.toNat ∧
      c.Rebalanced (.pointsAwarded c.id points c'.loyaltyPoints) c' := by
  rw [rebalanced_iff, ← Count.add?_eq_some_iff]
  unfold addPoints
  by_cases hp : points = 0
  · rw [if_pos hp]
    exact iff_of_false (fun h => by cases h) fun h => h.2.1 hp
  · rw [if_neg hp]
    show (c.ensureActive >>= _) = _ ↔ _
    rw [bind_eq_ok_iff]
    constructor
    · rintro ⟨_, ha, h⟩
      cases hsum : c.loyaltyPoints.add? points with
      | none =>
        rw [hsum] at h
        cases h
      | some balance =>
        rw [hsum] at h
        cases h
        rw [(reviewTier_account _).2.2]
        exact ⟨ensureActive_eq_ok ha, hp, rfl, rfl⟩
    · rintro ⟨ha, -, hsum, h⟩
      rw [hsum]
      exact ⟨(), ensureActive_eq_ok_iff.mpr ha, congrArg Except.ok h.symm⟩

/-- **When points are spent, and what comes of that.** -/
theorem redeemPoints_eq_ok_iff :
    c.redeemPoints points = .ok c' ↔ c.active = true ∧ points ≠ 0 ∧
      c'.loyaltyPoints.toNat + points.toNat = c.loyaltyPoints.toNat ∧
      c.Rebalanced (.pointsRedeemed c.id points c'.loyaltyPoints) c' := by
  rw [rebalanced_iff]
  unfold redeemPoints
  by_cases hp : points = 0
  · rw [if_pos hp]
    exact iff_of_false (fun h => by cases h) fun h => h.2.1 hp
  · rw [if_neg hp]
    show (c.ensureActive >>= _) = _ ↔ _
    rw [bind_eq_ok_iff]
    by_cases hlt : c.loyaltyPoints < points
    · rw [if_pos hlt]
      refine iff_of_false ?_ ?_
      · rintro ⟨_, _, h⟩
        cases h
      · rintro ⟨_, _, hsum, _⟩
        rw [UInt32.lt_iff_toNat_lt] at hlt
        omega
    · rw [if_neg hlt]
      have hle : points ≤ c.loyaltyPoints := UInt32.not_lt.mp hlt
      have hsub := Count.toNat_sub_of_le hle
      rw [UInt32.le_iff_toNat_le] at hle
      constructor
      · rintro ⟨_, ha, h⟩
        cases h
        rw [(reviewTier_account _).2.2]
        have hsum : (c.loyaltyPoints - points).toNat + points.toNat = c.loyaltyPoints.toNat := by
          omega
        exact ⟨ensureActive_eq_ok ha, hp, hsum, rfl⟩
      · rintro ⟨ha, -, hsum, h⟩
        have hbalance : c'.loyaltyPoints = c.loyaltyPoints - points :=
          UInt32.toNat_inj.mp (by omega)
        rw [hbalance] at h
        exact ⟨(), ensureActive_eq_ok_iff.mpr ha, congrArg Except.ok h.symm⟩

/-- **A call is carried out exactly if it can be**, by a customer who is active. -/
theorem answer_eq_ok_iff : c.answer call = .ok ((), c') ↔ c.active = true ∧ c.Does call c' := by
  have hmap : ∀ x : Except CustomerError Customer,
      (do return ((), ← x)) = .ok ((), c') ↔ x = .ok c' := fun x => by
    cases x <;> simp
  cases call with
  | updateContact phone address =>
    rw [answer, hmap, updateContact, bind_eq_ok_iff]
    constructor
    · rintro ⟨_, ha, h⟩
      obtain ⟨number, hnumber, he⟩ := bind_eq_ok_iff.mp h
      cases he
      exact ⟨ensureActive_eq_ok ha, .contact hnumber⟩
    · rintro ⟨ha, ⟨hnumber⟩⟩
      exact ⟨(), ensureActive_eq_ok_iff.mpr ha, bind_eq_ok_iff.mpr ⟨_, hnumber, rfl⟩⟩
  | addPoints points =>
    rw [answer, hmap, addPoints_eq_ok_iff]
    constructor
    · rintro ⟨ha, hp, hsum, h⟩
      exact ⟨ha, .awards hp hsum h⟩
    · rintro ⟨ha, h⟩
      cases h with
      | awards hp hsum h => exact ⟨ha, hp, hsum, h⟩
  | redeemPoints points =>
    rw [answer, hmap, redeemPoints_eq_ok_iff]
    constructor
    · rintro ⟨ha, hp, hsum, h⟩
      exact ⟨ha, .redeems hp hsum h⟩
    · rintro ⟨ha, h⟩
      cases h with
      | redeems hp hsum h => exact ⟨ha, hp, hsum, h⟩
  | deactivate =>
    rw [answer, hmap, deactivate, bind_eq_ok_iff]
    constructor
    · rintro ⟨_, ha, h⟩
      cases h
      exact ⟨ensureActive_eq_ok ha, .closes⟩
    · rintro ⟨ha, ⟨⟩⟩
      exact ⟨(), ensureActive_eq_ok_iff.mpr ha, rfl⟩

/-- The customer is in the tier that their balance earns if they have been, or if the call is about
points. -/
theorem Does.rated (h : c.Does call c') (hc : c.Rated ∨ call.ofPoints = true) : c'.Rated := by
  cases h with
  | contact => exact hc.resolve_right nofun
  | awards _ _ h => exact h.tier
  | redeems _ _ h => exact h.tier
  | closes => exact hc.resolve_right nofun

/-- **A call moves the balance by what it says.** -/
theorem Does.points_eq (h : c.Does call c') :
    c'.loyaltyPoints.toNat + call.redeemed = c.loyaltyPoints.toNat + call.awarded := by
  cases h with
  | contact => rfl
  | awards _ hsum _ => exact hsum
  | redeems _ hsum _ => exact hsum
  | closes => rfl

/-- **What a call raises leads from tier to tier.** -/
theorem Does.told (h : c.Does call c') :
    ∃ events, c'.pending = c.pending ++ events ∧
      events.foldlM Tier.follow c.tier = some c'.tier := by
  have hpoints : ∀ event, (∀ tier : Tier, tier.follow event = some tier) →
      c.Rebalanced event c' → ∃ events, c'.pending = c.pending ++ events ∧
        events.foldlM Tier.follow c.tier = some c'.tier := by
    intro event hevent h
    refine ⟨_, h.pending, ?_⟩
    rw [List.foldlM_cons, hevent]
    by_cases hsame : c'.tier = c.tier
    · rw [if_pos hsame, hsame]
      rfl
    · rw [if_neg hsame]
      have hfollow : c.tier.follow (.tierChanged c.id c.tier c'.tier c'.loyaltyPoints) =
          some c'.tier := if_pos ⟨rfl, hsame⟩
      show (c.tier.follow _ >>= fun tier => some tier) = some c'.tier
      rw [hfollow]
      rfl
  cases h with
  | contact => exact ⟨_, rfl, rfl⟩
  | awards _ _ h => exact hpoints _ (fun _ => rfl) h
  | redeems _ _ h => exact hpoints _ (fun _ => rfl) h
  | closes => exact ⟨_, rfl, rfl⟩

/-- Only closing the account ends it. -/
theorem Does.active_iff (h : c.Does call c') (ha : c.active = true) :
    c'.active = true ↔ call ≠ .deactivate := by
  cases h with
  | contact => exact iff_of_true ha nofun
  | awards _ _ h => exact iff_of_true (by rw [h.rest]; exact ha) nofun
  | redeems _ _ h => exact iff_of_true (by rw [h.rest]; exact ha) nofun
  | closes => exact iff_of_false nofun fun h => h rfl

end Step

/-! ### Any number of calls -/

/-- What calls that have been carried out make of a customer. -/
structure Follows (c : Customer) (done : List CustomerCall) (c' : Customer) : Prop where
  rated : (c.Rated ∨ ∃ call ∈ done, call.ofPoints = true) → c'.Rated
  points : c'.loyaltyPoints.toNat + (done.map CustomerCall.redeemed).sum =
    c.loyaltyPoints.toNat + (done.map CustomerCall.awarded).sum
  told : ∃ events, c'.pending = c.pending ++ events ∧
    events.foldlM Tier.follow c.tier = some c'.tier
  active : c'.active = true ↔ c.active = true ∧ .deactivate ∉ done

section Run
variable {c c' c₀ : Customer} {done : List CustomerCall}

/-- **Calls keep tier, balance and what is told of them together**, however many. -/
theorem follows_of_carries (h : InPlace.Carries answer c done c') : c.Follows done c' := by
  induction h with
  | refl c =>
    refine ⟨fun h => h.resolve_right ?_, rfl, ⟨[], (List.append_nil _).symm, rfl⟩, ?_⟩
    · rintro ⟨_, hmem, _⟩
      exact List.not_mem_nil hmem
    · exact (and_iff_left List.not_mem_nil).symm
  | @step c c₁ c' call rest result hcall _ ih =>
    obtain ⟨ha, hdoes⟩ := answer_eq_ok_iff.mp hcall
    refine ⟨fun hc => ih.rated ?_, ?_, ?_, ?_⟩
    · rcases hc with hc | ⟨other, hmem, hother⟩
      · exact .inl (hdoes.rated (.inl hc))
      · rcases List.mem_cons.mp hmem with rfl | hmem
        · exact .inl (hdoes.rated (.inr hother))
        · exact .inr ⟨other, hmem, hother⟩
    · have hone := hdoes.points_eq
      have hall := ih.points
      simp only [List.map_cons, List.sum_cons]
      omega
    · obtain ⟨events, hpending, hfold⟩ := hdoes.told
      obtain ⟨more, hpending', hfold'⟩ := ih.told
      refine ⟨events ++ more, by rw [hpending', hpending, List.append_assoc], ?_⟩
      rw [List.foldlM_append, hfold]
      exact hfold'
    · rw [ih.active, hdoes.active_iff ha, List.mem_cons, not_or, and_iff_right ha, ne_comm]

/-- What has become of a customer after some calls, refused ones among them. -/
theorem follows_afterAll (c : Customer) (calls : List CustomerCall) :
    c.Follows (c.carriedOut calls) (c.afterAll calls) :=
  follows_of_carries (InPlace.carries_carriedOut perform_eq c calls)

/-- **A closed account stays as it is**: every call on it is refused. -/
theorem refused_of_inactive (ha : c.active = false) (call : CustomerCall) :
    ∃ e, c.perform call = (.error e, c) := by
  rw [perform_eq]
  cases h : c.answer call with
  | error e => exact ⟨e, rfl⟩
  | ok x =>
    have hactive := (answer_eq_ok_iff.mp h).1
    rw [ha] at hactive
    cases hactive

theorem afterAll_of_inactive (ha : c.active = false) (calls : List CustomerCall) :
    c.afterAll calls = c := by
  refine InPlace.afterAll_keeps (p := (· = c)) rfl (fun c' call hsame => ?_) calls
  obtain ⟨e, h⟩ := refused_of_inactive ha call
  rw [hsame, h]

end Run

section Register
variable {id : CustomerId} {email firstName lastName : String} {now : Timestamp} {c₀ : Customer}

theorem register_eq_ok (h : register id email firstName lastName now = .ok c₀) :
    c₀.tier = .regular ∧ c₀.loyaltyPoints = 0 ∧ c₀.active = true ∧
      c₀.pending = [.registered id c₀.email.text c₀.firstName c₀.lastName] := by
  unfold register at h
  split at h
  · cases h
  · obtain ⟨e, _, he⟩ := bind_eq_ok_iff.mp h
    cases he
    exact ⟨rfl, rfl, rfl, rfl⟩

/-- **What can be said of a customer, whatever has been asked of them** since they were registered,
where `done` is what has been carried out of that. -/
structure Upheld (done : List CustomerCall) (c : Customer) : Prop where
  tier : c.tier = Tier.forPoints c.loyaltyPoints
  /-- The balance is what has been awarded less what has been spent, exactly. -/
  points : c.loyaltyPoints.toNat < UInt32.size ∧
    c.loyaltyPoints.toNat + (done.map CustomerCall.redeemed).sum =
      (done.map CustomerCall.awarded).sum
  /-- The changes of tier that are told of lead from the lowest tier to this one. -/
  chain : c.pending.foldlM Tier.follow .regular = some c.tier
  /-- The account is closed once that has been asked for with success, -/
  closed : .deactivate ∈ done ↔ c.active = false
  /-- and then it stays as it is: each call is refused, and many of them change nothing. -/
  final : c.active = false →
    (∀ call, ∃ e, c.perform call = (.error e, c)) ∧ ∀ more, c.afterAll more = c
  /-- In place, the next call is carried out if it can be, with all that belongs to it, -/
  done : ∀ call c', c.perform call = (.ok (), c') ↔ c.active = true ∧ c.Does call c'
  /-- and leaves the customer as they were in all of their fields if it is refused. -/
  refused : ∀ call e c', c.perform call = (.error e, c') → c' = c

/-- **Whatever is asked of a customer, however often, tier, balance and what is told of them stay
together.**  Somebody of whom that is not true, as they have been read from a document, is in the
right tier as soon as they have been awarded points or have spent any. -/
theorem tier_upheld (h : register id email firstName lastName now = .ok c₀)
    (calls : List CustomerCall) :
    (c₀.afterAll calls).Upheld (c₀.carriedOut calls) ∧
      ∀ (c : Customer) (calls : List CustomerCall),
        (∃ call ∈ c.carriedOut calls, call.ofPoints = true) →
          (c.afterAll calls).tier = Tier.forPoints (c.afterAll calls).loyaltyPoints := by
  obtain ⟨htier, hpoints, hactive, hpending⟩ := register_eq_ok h
  have hrated : c₀.Rated := by
    rw [Rated, htier, hpoints]
    rfl
  have hnow := follows_afterAll c₀ calls
  refine ⟨⟨hnow.rated (.inl hrated), ⟨UInt32.toNat_lt _, ?_⟩, ?_, ?_, fun hoff => ⟨fun call => ?_,
    fun more => ?_⟩, fun call c' => ?_, fun call e c' hcall => ?_⟩, fun c calls hmoved => ?_⟩
  · rw [hnow.points, hpoints, UInt32.toNat_zero, Nat.zero_add]
  · obtain ⟨events, htold, hfold⟩ := hnow.told
    rw [htold, hpending, List.foldlM_append]
    rwa [htier] at hfold
  · rw [← Bool.not_eq_true, hnow.active, and_iff_right hactive, not_not]
  · exact refused_of_inactive hoff call
  · exact afterAll_of_inactive hoff more
  · rw [perform_eq, InPlace.kept_eq_ok_iff, answer_eq_ok_iff]
  · rw [perform_eq, InPlace.kept_eq_error_iff] at hcall
    exact hcall.2
  · exact (follows_afterAll c calls).rated (.inr hmoved)

end Register

/-- Ann, who has just been registered. -/
def Sample.ann : Customer where
  id := default
  email := ⟨"ann@example.com"⟩
  firstName := "Ann"
  lastName := "Lee"
  phoneNumber := none
  address := none
  tier := .regular
  loyaltyPoints := 0
  registeredAt := default
  active := true
  pending := [.registered default "ann@example.com" "Ann" "Lee"]

/-- Ann gets to the second tier in two steps and to the highest with as many points as there can be,
and falls to the lowest at once. -/
def Sample.summer : List CustomerCall := [
  .addPoints 499,
  .addPoints 1,
  .redeemPoints 501,
  .addPoints 4294966795,
  .addPoints 1,
  .redeemPoints 4294967295,
  .addPoints 0,
  .deactivate,
  .addPoints 500]

/-- Somebody in the highest tier who has three points. -/
def Sample.misfit : Customer := { ann with tier := .vip, loyaltyPoints := 3, pending := [] }

theorem tier_upheld_summer :
    let c := Sample.ann.afterAll Sample.summer
    let calls := [.addPoints 4294967295, .redeemPoints 1]
    register default " Ann@Example.com" "Ann" "Lee" default = .ok Sample.ann ∧
      c.Upheld (Sample.ann.carriedOut Sample.summer) ∧
      c.pending.drop 1 = [
        .pointsAwarded default 499 499,
        .pointsAwarded default 1 500,
        .tierChanged default .regular .premium 500,
        .pointsAwarded default 4294966795 4294967295,
        .tierChanged default .premium .vip 4294967295,
        .pointsRedeemed default 4294967295 0,
        .tierChanged default .vip .regular 0,
        .deactivated default] ∧
      reader.Reads Sample.misfit.toJson Sample.misfit ∧
      Sample.misfit.carriedOut calls = [.redeemPoints 1] ∧
      (Sample.misfit.afterAll calls).tier =
        Tier.forPoints (Sample.misfit.afterAll calls).loyaltyPoints := by
  have hregister : register default " Ann@Example.com" "Ann" "Lee" default = .ok Sample.ann := by
    decide +kernel
  obtain ⟨hupheld, hright⟩ := tier_upheld hregister Sample.summer
  have hdone : Sample.misfit.carriedOut [.addPoints 4294967295, .redeemPoints 1] =
      [.redeemPoints 1] := by decide +kernel
  refine ⟨hregister, hupheld, by decide +kernel, Customer.reads Sample.misfit, hdone,
    hright Sample.misfit _ ⟨.redeemPoints 1, ?_, rfl⟩⟩
  rw [hdone]
  exact List.mem_singleton.mpr rfl

end Customer

end Storefront
