import Storefront.Proofs.Announcement
import Storefront.Proofs.Discipline

/-! # Who can be a customer

Everybody is kept under their own identifier, and no two customers have one email address
(`Repositories.Clientele`).  Hence a customer whose email address stays as it is can be kept again
whatever else of them changes, and no command can disturb this (`Command.Effect.clientele`).
-/
namespace Storefront

/-- Customers are kept under their own identifiers, and no two have one email address. -/
structure Repositories.Clientele (r : Repositories) : Prop where
  keyed : r.KeyedCustomers
  emails : ∀ id id' c c', r.customers.get? id = some c → r.customers.get? id' = some c' →
    c.email = c'.email → id = id'

namespace Repositories.Clientele

variable {r r' : Repositories} {c : Customer}

theorem empty : Clientele Repositories.empty := by
  refine ⟨fun id c hc => ?_, fun id id' c c' hc => ?_⟩
  · cases hc
  · cases hc

/-- Nothing but customers matters to this. -/
theorem of_eq (h : r.Clientele) (hc : r'.customers = r.customers) : r'.Clientele := by
  refine ⟨fun id c hget => h.keyed id c (hc ▸ hget), fun id id' c c' hget hget' => ?_⟩
  exact h.emails id id' c c' (hc ▸ hget) (hc ▸ hget')

/-- Customers may be kept whose email address nobody else has. -/
theorem insert (h : r.Clientele)
    (hfree : ∀ key d, key ≠ c.id → r.customers.get? key = some d → d.email ≠ c.email) :
    Clientele { r with customers := r.customers.insert c.id c.settled } := by
  have hall : ∀ key e, (r.customers.insert c.id c.settled).get? key = some e →
      key = c.id ∧ e = c.settled ∨ key ≠ c.id ∧ r.customers.get? key = some e := by
    intro key e he
    rw [Table.get?_insert] at he
    by_cases hkey : key = c.id
    · rw [if_pos hkey] at he
      exact .inl ⟨hkey, (Option.some.inj he).symm⟩
    · rw [if_neg hkey] at he
      exact .inr ⟨hkey, he⟩
  refine ⟨h.keyed.insert c, fun key key' e e' he he' hsame => ?_⟩
  rcases hall key e he with ⟨rfl, rfl⟩ | ⟨hkey, he⟩ <;>
    rcases hall key' e' he' with ⟨rfl, rfl⟩ | ⟨hkey', he'⟩
  · rfl
  · exact absurd hsame.symm (hfree key' e' hkey' he')
  · exact absurd hsame (hfree key e hkey he)
  · exact h.emails key key' e e' he he' hsame

/-- Nobody else has the email address of a customer who is kept. -/
theorem free (h : r.Clientele) {id : CustomerId} {d : Customer}
    (hd : r.customers.get? id = some d) (hid : c.id = id) (hemail : c.email = d.email) :
    ∀ key e, key ≠ c.id → r.customers.get? key = some e → e.email ≠ c.email := by
  intro key e hkey he hsame
  exact hkey ((h.emails key id e d he hd (hsame.trans hemail)).trans hid.symm)

/-- Who is kept with an email address may be kept again with it. -/
theorem saveCustomer (h : r.Clientele) {id : CustomerId} {d : Customer}
    (hd : r.customers.get? id = some d) (hid : c.id = id) (hemail : c.email = d.email) :
    r.saveCustomer c = .ok { r with customers := r.customers.insert c.id c.settled } := by
  have hfree : (r.customers.values.any fun e => e.email == c.email && e.id != c.id) = false := by
    rw [List.any_eq_false]
    intro e he hboth
    rw [Bool.and_eq_true, beq_iff_eq, bne_iff_ne] at hboth
    obtain ⟨key, hkey⟩ := Table.mem_values_iff.mp he
    have hne : key ≠ c.id := fun hk => hboth.2 ((h.keyed key e hkey).trans hk)
    exact h.free hd hid hemail key e hne hkey hboth.1
  unfold Repositories.saveCustomer
  rw [hfree]
  rfl

/-- Changes of a customer that keep the email address keep the clientele as it should be. -/
theorem change (hr : r.Clientele) {id : CustomerId}
    {change : Customer → Except CustomerError Customer}
    (h : r.decideCustomer id change = .ok (c, r'))
    (hchange : ∀ d, change d = .ok c → c.id = d.id ∧ c.email = d.email) : r'.Clientele := by
  obtain ⟨before, hbefore, hc⟩ := decideCustomer_before h
  obtain ⟨hid, hemail⟩ := hchange before hc
  rw [decideCustomer_eq_ok h]
  exact hr.insert (hr.free hbefore (hid.trans (hr.keyed id before hbefore)) hemail)

/-- Nobody is registered with an email address that somebody has. -/
theorem register (hr : r.Clientele) {supply : Supply} {email firstName lastName : String}
    (h : r.decideRegister supply email firstName lastName = .ok (c, r')) : r'.Clientele := by
  rw [decideRegister_eq_ok h]
  refine hr.insert fun key d _ hd hsame => ?_
  unfold decideRegister at h
  obtain ⟨c', _, h⟩ := bind_eq_ok_iff.mp h
  split at h
  · cases h
  · rename_i hnone
    obtain ⟨_, _, h⟩ := bind_eq_ok_iff.mp h
    cases h
    unfold findCustomerByEmail at hnone
    split at hnone
    · cases hnone
    · rename_i hfind
      have hother := List.find?_eq_none.mp hfind d (Table.mem_values_iff.mpr ⟨key, hd⟩)
      exact hother (beq_iff_eq.mpr hsame)

end Repositories.Clientele

/-! ### Changes of an account -/

namespace Customer

variable {c c' : Customer}

theorem reviewTier_account (c : Customer) :
    c.reviewTier.id = c.id ∧ c.reviewTier.email = c.email ∧
      c.reviewTier.loyaltyPoints = c.loyaltyPoints := by
  unfold reviewTier
  dsimp only
  split <;> exact ⟨rfl, rfl, rfl⟩

theorem updateContact_account {phone : String} {address : Address}
    (h : c.updateContact phone address = .ok c') :
    c'.id = c.id ∧ c'.email = c.email ∧ c'.loyaltyPoints = c.loyaltyPoints := by
  obtain ⟨_, _, h⟩ := bind_eq_ok_iff.mp h
  obtain ⟨number, _, he⟩ := bind_eq_ok_iff.mp h
  cases he
  exact ⟨rfl, rfl, rfl⟩

theorem deactivate_account (h : c.deactivate = .ok c') :
    c'.id = c.id ∧ c'.email = c.email ∧ c'.loyaltyPoints = c.loyaltyPoints := by
  obtain ⟨_, _, he⟩ := bind_eq_ok_iff.mp h
  cases he
  exact ⟨rfl, rfl, rfl⟩

/-- Who spends points has them, and has as many less then. -/
theorem redeemPoints_account {points : Count} (h : c.redeemPoints points = .ok c') :
    c'.id = c.id ∧ c'.email = c.email ∧
      c'.loyaltyPoints.toNat + points.toNat = c.loyaltyPoints.toNat := by
  unfold redeemPoints at h
  by_cases hp : points = 0
  · rw [if_pos hp] at h
    cases h
  · rw [if_neg hp] at h
    obtain ⟨_, _, h⟩ := bind_eq_ok_iff.mp h
    by_cases hlt : c.loyaltyPoints < points
    · rw [if_pos hlt] at h
      cases h
    · rw [if_neg hlt] at h
      cases h
      have hle : points ≤ c.loyaltyPoints := UInt32.not_lt.mp hlt
      refine ⟨(reviewTier_account _).1, (reviewTier_account _).2.1, ?_⟩
      rw [(reviewTier_account _).2.2]
      show (c.loyaltyPoints - points).toNat + points.toNat = _
      rw [UInt32.toNat_sub_of_le _ _ hle]
      exact Nat.sub_add_cancel (UInt32.le_iff_toNat_le.mp hle)

theorem register_account {id : CustomerId} {email firstName lastName : String} {now : Timestamp}
    (h : register id email firstName lastName now = .ok c) :
    c.id = id ∧ c.loyaltyPoints = 0 := by
  unfold register at h
  split at h
  · cases h
  · obtain ⟨e, _, he⟩ := bind_eq_ok_iff.mp h
    cases he
    exact ⟨rfl, rfl⟩

end Customer

/-! ### Commands -/

section Effect
variable {supply : Supply} {command : Command} {outcome : Outcome} {r r' : Repositories}

/-- Commands for stores and orders leave customers as they are. -/
theorem Command.Effect.customers_eq (h : command.Effect supply r outcome r')
    (hc : command.ofCustomers = false) : r'.customers = r.customers := by
  cases h with
  | register | updateContact | redeemPoints | deactivateCustomer => cases hc
  | @cancelReserved id reason before order released failed news r' h hn hb =>
    have hput : ((r.saveOrder order).putBack order).2.customers = r.customers := by
      unfold Repositories.putBack
      split <;> rfl
    rw [hb] at hput
    exact hput
  | _ => rfl

/-- **No command disturbs who can be a customer.** -/
theorem Command.Effect.clientele (h : command.Effect supply r outcome r') (hr : r.Clientele) :
    r'.Clientele := by
  cases hc : command.ofCustomers with
  | false => exact hr.of_eq (h.customers_eq hc)
  | true =>
    cases h with
    | register h => exact hr.register h
    | updateContact h =>
      exact hr.change h fun d hd =>
        ⟨(Customer.updateContact_account hd).1, (Customer.updateContact_account hd).2.1⟩
    | redeemPoints h =>
      exact hr.change h fun d hd =>
        ⟨(Customer.redeemPoints_account hd).1, (Customer.redeemPoints_account hd).2.1⟩
    | deactivateCustomer h =>
      exact hr.change h fun d hd =>
        ⟨(Customer.deactivate_account hd).1, (Customer.deactivate_account hd).2.1⟩
    | _ => cases hc

end Effect

end Storefront
