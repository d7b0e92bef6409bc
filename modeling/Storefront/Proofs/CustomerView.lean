import Storefront.Proofs.Crediting

/-! # Customers as they are told of

A view of a customer is kept from what is told of them, as one of a store or of an order is.  An
event fits if the account is open, if the balance that it tells of is the one before with the points
added or taken away, and if a tier that it tells of is the one that the balance earns.

Each operation on a customer raises events that take every view of the customer to one of what they
are then (`Customer.Grows`).  What crediting points raises can be worked out from the view alone
(`CustomerView.raises`), although nobody is told of it.
-/
namespace Storefront

/-! ### Views of a customer -/

/-- What is told of a customer. -/
structure CustomerView where
  email : String
  firstName : String
  lastName : String
  phone : Option String
  address : Option Address
  points : Count
  tier : Tier
  active : Bool
  deriving DecidableEq

/-- Everything about an account but the points and the tier. -/
structure Account where
  email : String
  firstName : String
  lastName : String
  phone : Option String
  address : Option Address
  active : Bool
  deriving DecidableEq

/-- The account of a customer. -/
def Customer.account (c : Customer) : Account :=
  ⟨c.email.text, c.firstName, c.lastName, c.phoneNumber.map (·.text), c.address, c.active⟩

namespace CustomerEvent

/-- Whether the event tells of something other than points and tiers. -/
def ofAccount : CustomerEvent → Bool
  | registered .. | contactUpdated .. | deactivated .. => true
  | pointsAwarded .. | pointsRedeemed .. | tierChanged .. => false

/-- Whether the event tells of points that are gained, or of a tier that is not a lower one. -/
def rises : CustomerEvent → Bool
  | pointsAwarded .. => true
  | tierChanged _ oldTier newTier _ => oldTier.le newTier
  | registered .. | contactUpdated .. | pointsRedeemed .. | deactivated .. => false

/-- Whether the event tells of points that are spent. -/
def spends : CustomerEvent → Bool
  | pointsRedeemed .. => true
  | registered .. | contactUpdated .. | pointsAwarded .. | tierChanged .. | deactivated .. => false

end CustomerEvent

namespace CustomerView

/-- The view of somebody who has been registered. -/
def start (email firstName lastName : String) : CustomerView :=
  ⟨email, firstName, lastName, none, none, 0, .regular, true⟩

/-- What the view says of the account. -/
def account (v : CustomerView) : Account :=
  ⟨v.email, v.firstName, v.lastName, v.phone, v.address, v.active⟩

/-- The view after one more event, if the event fits the view. -/
def apply (v : CustomerView) : CustomerEvent → Option CustomerView
  | .registered .. => none
  | .contactUpdated _ phone address =>
    if v.active then some { v with phone := some phone, address := some address } else none
  | .pointsAwarded _ points balance =>
    if v.active ∧ points ≠ 0 ∧ balance.toNat = v.points.toNat + points.toNat then
      some { v with points := balance }
    else none
  | .pointsRedeemed _ points balance =>
    if v.active ∧ points ≠ 0 ∧ balance.toNat + points.toNat = v.points.toNat then
      some { v with points := balance }
    else none
  | .tierChanged _ oldTier newTier balance =>
    if v.active ∧ v.tier = oldTier ∧ v.points = balance ∧ newTier = Tier.forPoints balance then
      some { v with tier := newTier }
    else none
  | .deactivated _ => if v.active then some { v with active := false } else none

/-- The view after some events, of which the first has to be that the customer was registered. -/
def replay : List CustomerEvent → Option CustomerView
  | .registered _ email firstName lastName :: rest =>
    rest.foldlM apply (start email firstName lastName)
  | _ => none

/-- What crediting points to a customer with an open account raises: that the points have been
awarded, and the tier if it is another one then; nothing if the balance cannot hold the points. -/
def raises (v : CustomerView) (id : CustomerId) (points : Count) : List CustomerEvent :=
  match v.points.add? points with
  | none => []
  | some balance => .pointsAwarded id points balance ::
      if Tier.forPoints balance = v.tier then []
      else [.tierChanged id v.tier (Tier.forPoints balance) balance]

/-- The view shows a customer as they are. -/
structure Shows (v : CustomerView) (c : Customer) : Prop where
  account : v.account = c.account
  points : v.points = c.loyaltyPoints
  tier : v.tier = c.tier

variable {v : CustomerView} {c : Customer}

theorem Shows.active (h : v.Shows c) : v.active = c.active := congrArg Account.active h.account

theorem Shows.settled (h : v.Shows c) : v.Shows c.settled := ⟨h.account, h.points, h.tier⟩

end CustomerView

/-! ### One more event -/

namespace CustomerView

variable {v v' w : CustomerView} {e : CustomerEvent} {events : List CustomerEvent}

/-- What is told of an account does not depend on points and tiers. -/
theorem apply_of_account (he : e.ofAccount = true) (h : v.apply e = some v')
    (hw : w.account = v.account) : ∃ w', w.apply e = some w' ∧ w'.account = v'.account := by
  have hactive : w.active = v.active := congrArg Account.active hw
  cases e with
  | registered => cases h
  | contactUpdated id phone address =>
    obtain ⟨ha, h⟩ := Option.ite_none_right_eq_some.mp h
    cases h
    refine ⟨{ w with phone := some phone, address := some address }, if_pos (hactive.trans ha), ?_⟩
    exact congrArg (fun a : Account => { a with phone := some phone, address := some address }) hw
  | deactivated id =>
    obtain ⟨ha, h⟩ := Option.ite_none_right_eq_some.mp h
    cases h
    refine ⟨{ w with active := false }, if_pos (hactive.trans ha), ?_⟩
    exact congrArg (fun a : Account => { a with active := false }) hw
  | pointsAwarded | pointsRedeemed | tierChanged => cases he

/-- Points and tiers do not change the account. -/
theorem account_apply (he : e.ofAccount = false) (h : v.apply e = some v') :
    v'.account = v.account := by
  cases e with
  | registered | contactUpdated | deactivated => cases he
  | pointsAwarded | pointsRedeemed | tierChanged =>
    obtain ⟨_, h⟩ := Option.ite_none_right_eq_some.mp h
    cases h
    rfl

/-- The balance shrinks with points that are spent, and with nothing else. -/
theorem points_apply (he : e.spends = false) (h : v.apply e = some v') : v.points ≤ v'.points := by
  cases e with
  | registered => cases h
  | pointsRedeemed => cases he
  | pointsAwarded id points balance =>
    obtain ⟨⟨_, _, hsum⟩, h⟩ := Option.ite_none_right_eq_some.mp h
    cases h
    exact UInt32.le_iff_toNat_le.mpr (hsum ▸ Nat.le_add_right ..)
  | contactUpdated | tierChanged | deactivated =>
    obtain ⟨_, h⟩ := Option.ite_none_right_eq_some.mp h
    cases h
    exact UInt32.le_refl _

/-- **Without points, none can be spent**, and none are gained as long as nothing rises. -/
theorem apply_of_no_points (hv : v.points = 0) (he : e.rises = false) (h : v.apply e = some v') :
    v'.points = 0 ∧ e.spends = false := by
  cases e with
  | registered => cases h
  | pointsAwarded => cases he
  | pointsRedeemed id points balance =>
    obtain ⟨⟨_, hp, hsum⟩, _⟩ := Option.ite_none_right_eq_some.mp h
    rw [hv, UInt32.toNat_zero] at hsum
    exact absurd (UInt32.toNat_inj.mp (Nat.eq_zero_of_add_eq_zero_left hsum)) hp
  | contactUpdated | tierChanged | deactivated =>
    obtain ⟨_, h⟩ := Option.ite_none_right_eq_some.mp h
    cases h
    exact ⟨hv, rfl⟩

theorem foldlM_of_no_points (hv : v.points = 0) (he : ∀ e ∈ events, e.rises = false)
    (h : events.foldlM apply v = some v') :
    v'.points = 0 ∧ ∀ e ∈ events, e.spends = false := by
  induction events generalizing v with
  | nil =>
    cases h
    exact ⟨hv, fun e he => absurd he List.not_mem_nil⟩
  | cons e rest ih =>
    obtain ⟨v₁, happly, hrest⟩ := Option.bind_eq_some_iff.mp h
    obtain ⟨hv₁, hspends⟩ := apply_of_no_points hv (he e (List.mem_cons_self ..)) happly
    obtain ⟨hv', hall⟩ := ih hv₁ (fun e' h' => he e' (List.mem_cons_of_mem _ h')) hrest
    refine ⟨hv', fun e' h' => ?_⟩
    rcases List.mem_cons.mp h' with rfl | h'
    · exact hspends
    · exact hall e' h'

/-- What crediting points raises leaves the account as it is, and points on the balance. -/
theorem foldlM_raises {id : CustomerId} {points : Count} (hp : points ≠ 0)
    (h : (v.raises id points).foldlM apply v = some v') :
    v'.account = v.account ∧ v.points ≤ v'.points ∧ v'.points ≠ 0 := by
  unfold raises at h
  cases hsum : v.points.add? points with
  | none =>
    rw [hsum] at h
    cases h
    -- who has no points has room for these
    refine ⟨rfl, UInt32.le_refl _, fun hz => ?_⟩
    have hroom : v.points.add? points = some points :=
      Count.add?_eq_some_iff.mpr (by rw [hz, UInt32.toNat_zero, Nat.zero_add])
    rw [hroom] at hsum
    cases hsum
  | some balance =>
    rw [hsum] at h
    obtain ⟨v₁, hawarded, hrest⟩ := Option.bind_eq_some_iff.mp h
    obtain ⟨⟨_, _, hbalance⟩, he⟩ := Option.ite_none_right_eq_some.mp hawarded
    cases he
    have hmore : v.points ≤ balance := UInt32.le_iff_toNat_le.mpr (hbalance ▸ Nat.le_add_right ..)
    have hsome : balance ≠ 0 := by
      rintro rfl
      rw [UInt32.toNat_zero] at hbalance
      exact hp (UInt32.toNat_inj.mp (Nat.eq_zero_of_add_eq_zero_left hbalance.symm))
    split at hrest
    · cases hrest
      exact ⟨rfl, hmore, hsome⟩
    · obtain ⟨v₂, htier, hlast⟩ := Option.bind_eq_some_iff.mp hrest
      obtain ⟨_, he⟩ := Option.ite_none_right_eq_some.mp htier
      cases he
      cases hlast
      exact ⟨rfl, hmore, hsome⟩

end CustomerView

/-! ### Tiers -/

/-- Who has fewer points is in no higher tier. -/
theorem Tier.rank_forPoints_le {points balance : Count} (h : points ≤ balance) :
    (Tier.forPoints points).rank ≤ (Tier.forPoints balance).rank := by
  rw [UInt32.le_iff_toNat_le] at h
  unfold Tier.forPoints
  simp only [UInt32.le_iff_toNat_le]
  split_ifs <;> first | decide | omega

theorem Tier.eq_of_rank_eq {a b : Tier} (h : a.rank = b.rank) : a = b := by
  cases a <;> cases b <;> first | rfl | cases h

/-- The tier that fewer points earn is a lower one, unless it is the same. -/
theorem Tier.le_forPoints_eq_false {points balance : Count} (h : points ≤ balance)
    (hne : Tier.forPoints points ≠ Tier.forPoints balance) :
    (Tier.forPoints balance).le (Tier.forPoints points) = false := by
  have hle := rank_forPoints_le h
  exact decide_eq_false fun hge => hne (eq_of_rank_eq (Nat.le_antisymm hle hge))

/-! ### Events that fit -/

namespace Customer

variable {c c' c'' : Customer} {events events' : List CustomerEvent} {points balance : Count}

/-- **The customer has come to be another one, and raised events that tell how.** -/
structure Grows (c c' : Customer) (events : List CustomerEvent) : Prop where
  id_eq : c'.id = c.id
  pending_eq : c'.pending = c.pending ++ events
  about : ∀ e ∈ events, e.customer = c.id
  /-- The events take every view of the customer to a view of what they have come to be. -/
  shown : ∀ v : CustomerView, v.Shows c →
    ∃ v', events.foldlM CustomerView.apply v = some v' ∧ v'.Shows c'

namespace Grows

theorem refl (c : Customer) : c.Grows c [] :=
  ⟨rfl, (List.append_nil _).symm, fun _ h => absurd h List.not_mem_nil, fun v hv => ⟨v, rfl, hv⟩⟩

theorem trans (h : c.Grows c' events) (h' : c'.Grows c'' events') :
    c.Grows c'' (events ++ events') := by
  refine ⟨h'.id_eq.trans h.id_eq, ?_, fun e he => ?_, fun v hv => ?_⟩
  · rw [h'.pending_eq, h.pending_eq, List.append_assoc]
  · rcases List.mem_append.mp he with he | he
    · exact h.about e he
    · exact (h'.about e he).trans h.id_eq
  · obtain ⟨v', hfold, hv'⟩ := h.shown v hv
    obtain ⟨v'', hfold', hv''⟩ := h'.shown v' hv'
    refine ⟨v'', ?_, hv''⟩
    rw [List.foldlM_append, hfold]
    exact hfold'

/-- A customer who changes raises one event. -/
theorem raise {e : CustomerEvent} (hid : c'.id = c.id) (hpending : c'.pending = c.pending)
    (habout : e.customer = c.id)
    (hshown : ∀ v : CustomerView, v.Shows c → ∃ v', v.apply e = some v' ∧ v'.Shows c') :
    c.Grows (c'.raise e) [e] := by
  refine ⟨hid, congrArg (· ++ [e]) hpending, fun e' he' => ?_, fun v hv => ?_⟩
  · rw [List.mem_singleton.mp he']
    exact habout
  · obtain ⟨v', happly, hv'⟩ := hshown v hv
    refine ⟨v', ?_, hv'.account, hv'.points, hv'.tier⟩
    show (v.apply e >>= fun v' => some v') = some v'
    rw [happly]
    rfl

end Grows

theorem ensureActive_eq_ok (h : c.ensureActive = .ok ()) : c.active = true := by
  unfold ensureActive at h
  split at h
  · assumption
  · cases h

/-- What is told of the tier once the balance has changed: nothing if it stays the same. -/
def tierNews (c : Customer) : List CustomerEvent :=
  if Tier.forPoints c.loyaltyPoints = c.tier then []
  else [.tierChanged c.id c.tier (Tier.forPoints c.loyaltyPoints) c.loyaltyPoints]

/-- A tier that changes is told of. -/
theorem grows_reviewTier (ha : c.active = true) : c.Grows c.reviewTier c.tierNews := by
  unfold reviewTier tierNews
  dsimp only
  split
  · exact .refl c
  · refine .raise rfl rfl rfl fun v hv =>
      ⟨{ v with tier := Tier.forPoints c.loyaltyPoints }, ?_, ?_⟩
    · exact if_pos ⟨hv.active.trans ha, hv.tier, hv.points, rfl⟩
    · exact ⟨hv.account, hv.points, rfl⟩

/-- The customer is in the tier that the balance earns. -/
def Rated (c : Customer) : Prop := c.tier = Tier.forPoints c.loyaltyPoints

theorem rated_reviewTier (c : Customer) : c.reviewTier.Rated := by
  unfold Rated
  rw [(reviewTier_account c).2.2]
  unfold reviewTier
  dsimp only
  split
  · rename_i htier
    exact htier.symm
  · rfl

/-- **A customer has done something that is told to others**: they stay in the tier that their
balance earns, and nothing of what is told rises. -/
structure Proceeds (c c' : Customer) (events : List CustomerEvent) : Prop
    extends c.Grows c' events where
  rated : c.Rated → c'.Rated
  falls : c.Rated → ∀ e ∈ events, e.rises = false

/-- A phone number and an address that are taken down are told of. -/
theorem proceeds_updateContact {phone : String} {address : Address}
    (h : c.updateContact phone address = .ok c') : ∃ events, c.Proceeds c' events := by
  obtain ⟨_, hactive, h⟩ := bind_eq_ok_iff.mp h
  obtain ⟨number, _, he⟩ := bind_eq_ok_iff.mp h
  cases he
  have ha := ensureActive_eq_ok hactive
  have htold : c.Grows (raise { c with phoneNumber := some number, address := some address }
      (.contactUpdated c.id number.text address)) [.contactUpdated c.id number.text address] :=
    .raise rfl rfl rfl fun v hv => ⟨{ v with phone := some number.text, address := some address },
      if_pos (hv.active.trans ha),
      congrArg (fun a : Account => { a with phone := some number.text, address := some address })
        hv.account, hv.points, hv.tier⟩
  refine ⟨_, htold, fun hrated => hrated, fun _ e he => ?_⟩
  rw [List.mem_singleton.mp he]
  rfl

/-- That an account is closed is told of. -/
theorem proceeds_deactivate (h : c.deactivate = .ok c') : ∃ events, c.Proceeds c' events := by
  obtain ⟨_, hactive, he⟩ := bind_eq_ok_iff.mp h
  cases he
  have ha := ensureActive_eq_ok hactive
  have htold : c.Grows (raise { c with active := false } (.deactivated c.id)) [.deactivated c.id] :=
    .raise rfl rfl rfl fun v hv => ⟨{ v with active := false }, if_pos (hv.active.trans ha),
      congrArg (fun a : Account => { a with active := false }) hv.account, hv.points, hv.tier⟩
  refine ⟨_, htold, fun hrated => hrated, fun _ e he => ?_⟩
  rw [List.mem_singleton.mp he]
  rfl

/-- A tier that changes because there are fewer points is a lower one. -/
theorem tierNews_falls (hc : c.Rated) (h : balance ≤ c.loyaltyPoints) :
    ∀ e ∈ tierNews { c with loyaltyPoints := balance }, e.rises = false := by
  intro e he
  unfold tierNews at he
  split at he
  · cases he
  · rename_i hne
    have htier : c.tier = Tier.forPoints c.loyaltyPoints := hc
    rw [List.mem_singleton.mp he]
    show Tier.le c.tier (Tier.forPoints balance) = false
    rw [htier]
    exact Tier.le_forPoints_eq_false h fun hsame => hne (hsame.trans htier.symm)

/-- **Points that are spent are told of**, and the tier if it is a lower one then. -/
theorem proceeds_redeemPoints (h : c.redeemPoints points = .ok c') :
    ∃ events, c.Proceeds c' events := by
  unfold redeemPoints at h
  by_cases hp : points = 0
  · rw [if_pos hp] at h
    cases h
  · rw [if_neg hp] at h
    obtain ⟨_, hactive, h⟩ := bind_eq_ok_iff.mp h
    by_cases hlt : c.loyaltyPoints < points
    · rw [if_pos hlt] at h
      cases h
    · rw [if_neg hlt] at h
      cases h
      have ha := ensureActive_eq_ok hactive
      have hle : points ≤ c.loyaltyPoints := UInt32.not_lt.mp hlt
      have hsum : (c.loyaltyPoints - points).toNat + points.toNat = c.loyaltyPoints.toNat := by
        rw [Count.toNat_sub_of_le hle]
        exact Nat.sub_add_cancel (UInt32.le_iff_toNat_le.mp hle)
      have hfewer : c.loyaltyPoints - points ≤ c.loyaltyPoints :=
        UInt32.le_iff_toNat_le.mpr (hsum ▸ Nat.le_add_right ..)
      have htold : c.Grows (raise { c with loyaltyPoints := c.loyaltyPoints - points }
          (.pointsRedeemed c.id points (c.loyaltyPoints - points)))
          [.pointsRedeemed c.id points (c.loyaltyPoints - points)] :=
        .raise rfl rfl rfl fun v hv => ⟨{ v with points := c.loyaltyPoints - points },
          if_pos ⟨hv.active.trans ha, hp, hv.points ▸ hsum⟩, hv.account, rfl, hv.tier⟩
      refine ⟨_, htold.trans (grows_reviewTier ha), fun _ => rated_reviewTier _,
        fun hrated e he => ?_⟩
      rcases List.mem_cons.mp he with rfl | he
      · rfl
      · exact tierNews_falls hrated hfewer e he

/-- **What crediting points raises can be worked out from any view.** -/
theorem grows_addPoints {v : CustomerView} (hv : v.Shows c) (h : c.addPoints points = .ok c') :
    c.Grows c' (v.raises c.id points) := by
  unfold addPoints at h
  by_cases hp : points = 0
  · rw [if_pos hp] at h
    cases h
  · rw [if_neg hp] at h
    obtain ⟨_, hactive, h⟩ := bind_eq_ok_iff.mp h
    have ha := ensureActive_eq_ok hactive
    cases hsum : c.loyaltyPoints.add? points with
    | none =>
      rw [hsum] at h
      cases h
    | some balance =>
      rw [hsum] at h
      cases h
      have hadded : c.Grows (raise { c with loyaltyPoints := balance }
          (.pointsAwarded c.id points balance)) [.pointsAwarded c.id points balance] :=
        .raise rfl rfl rfl fun v hv => ⟨{ v with points := balance },
          if_pos ⟨hv.active.trans ha, hp, hv.points ▸ Count.add?_eq_some_iff.mp hsum⟩, hv.account,
          rfl, hv.tier⟩
      have hraises : v.raises c.id points = [.pointsAwarded c.id points balance] ++
          tierNews (raise { c with loyaltyPoints := balance }
            (.pointsAwarded c.id points balance)) := by
        unfold CustomerView.raises
        rw [hv.points, hv.tier, hsum]
        rfl
      rw [hraises]
      exact hadded.trans (grows_reviewTier ha)

/-- Somebody who is registered is told of. -/
theorem replay_register {id : CustomerId} {email firstName lastName : String} {now : Timestamp}
    (h : register id email firstName lastName now = .ok c) :
    c.pending = [.registered id c.email.text c.firstName c.lastName] ∧
      (CustomerView.start c.email.text c.firstName c.lastName).Shows c ∧ c.Rated := by
  unfold register at h
  split at h
  · cases h
  · obtain ⟨e, _, he⟩ := bind_eq_ok_iff.mp h
    cases he
    exact ⟨rfl, ⟨rfl, rfl, rfl⟩, rfl⟩

end Customer

end Storefront
