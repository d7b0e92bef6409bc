import Storefront.Proofs.Soundness

/-! # Deliveries stand aside

The listener who credits loyalty points works on customers alone, and changes nothing about
them but what they have earned.  Stores and orders, units of work, and who is a customer and
still active are the same before and after (`Backend.Aside`); nothing else of a customer
matters to an order.  `Script.Bystander` is the discipline behind this, observed question by
question, so that it can be used for scripts that are interrupted by others as well.
-/
namespace Storefront

/-- Who is a customer, and whether they are active. -/
def Repositories.activity (r : Repositories) (id : CustomerId) : Option Bool :=
  (r.customers.get? id).map (·.active)

/-- Every customer is kept under their own identifier. -/
def Repositories.KeyedCustomers (r : Repositories) : Prop :=
  ∀ id c, r.customers.get? id = some c → c.id = id

/-- A customer is kept under their own identifier, too. -/
theorem Repositories.KeyedCustomers.insert {r : Repositories} (h : r.KeyedCustomers)
    (c : Customer) :
    KeyedCustomers { r with customers := r.customers.insert c.id c.settled } := by
  intro id d hd
  have hd : (r.customers.insert c.id c.settled).get? id = some d := hd
  rw [Table.get?_insert] at hd
  by_cases hid : id = c.id
  · rw [if_pos hid] at hd
    cases hd
    exact hid.symm
  · rw [if_neg hid] at hd
    exact h id d hd

/-- Whoever is found is kept. -/
theorem Backend.answer_findCustomer {b : Backend} {id : CustomerId} {c : Customer}
    (h : (b.answer (.findCustomer id)).1 = .ok c) :
    b.repositories.customers.get? id = some c := by
  have h : b.find b.faults.findCustomers (·.findCustomer id) = .ok c := h
  unfold find at h
  split at h
  · cases h
  · exact Repositories.findCustomer_eq_ok_iff.mp h

/-- Between the backends, customers may have changed, but not who is one or is active. -/
structure Backend.Aside (b b' : Backend) : Prop where
  stores : b'.repositories.stores = b.repositories.stores
  orders : b'.repositories.orders = b.repositories.orders
  activity : b'.repositories.activity = b.repositories.activity
  keyed : b.repositories.KeyedCustomers → b'.repositories.KeyedCustomers
  units : b'.units = b.units
  faults : b'.faults = b.faults

namespace Backend

theorem Aside.refl (b : Backend) : Aside b b := ⟨rfl, rfl, rfl, fun h => h, rfl, rfl⟩

theorem Aside.trans {b b' b'' : Backend} (h : Aside b b') (h' : Aside b' b'') : Aside b b'' :=
  ⟨h'.stores.trans h.stores, h'.orders.trans h.orders, h'.activity.trans h.activity,
    fun hk => h'.keyed (h.keyed hk), h'.units.trans h.units, h'.faults.trans h.faults⟩

/-- Keeping a customer who stays as active as they are stands aside. -/
theorem aside_saveCustomer {b : Backend} {c : Customer}
    (hc : b.repositories.activity c.id = some c.active) :
    Aside b (b.answer (.saveCustomer c)).2 := by
  simp only [answer, save]
  cases b.faults.saveCustomers with
  | true => exact Aside.refl b
  | false =>
    cases hs : b.repositories.saveCustomer c with
    | error e => exact Aside.refl b
    | ok r =>
      obtain rfl := Repositories.saveCustomer_eq_ok hs
      refine ⟨rfl, rfl, ?_, fun hk => hk.insert c, rfl, rfl⟩
      funext id
      show ((b.repositories.customers.insert c.id c.settled).get? id).map (·.active) = _
      rw [Table.get?_insert]
      by_cases he : id = c.id
      · rw [if_pos he, he, hc]
        rfl
      · rw [if_neg he]
        rfl

end Backend

namespace Script

variable {α β : Type} {A : CustomerId → Option Bool}

/-- The script takes locks, counts, and keeps customers only as active as they are, if `A`
says who is. -/
def Bystander (A : CustomerId → Option Bool) : Script α → Prop
  | .done _ => True
  | .ask (.lock _) next => ∀ a, (next a).Bystander A
  | .ask (.unlock _) next => ∀ a, (next a).Bystander A
  | .ask (.count _ _) next => ∀ a, (next a).Bystander A
  | .ask (.findCustomer id) next =>
    (∀ e, (next (.error e)).Bystander A) ∧
      ∀ c : Customer, c.id = id → A id = some c.active → (next (.ok c)).Bystander A
  | .ask (.saveCustomer c) next => A c.id = some c.active ∧ ∀ a, (next a).Bystander A
  | .ask _ _ => False

/-- A bystander who goes on as one is one. -/
theorem Bystander.bind {s : Script α} {f : α → Script β} (h : s.Bystander A)
    (hf : ∀ a, (f a).Bystander A) : (s.bind f).Bystander A := by
  induction s with
  | done a => exact hf a
  | ask q next ih =>
    cases q with
    | lock key | unlock key | count counter n => exact fun a => ih a (h a)
    | findCustomer id => exact ⟨fun e => ih _ (h.1 e), fun c hid hc => ih _ (h.2 c hid hc)⟩
    | saveCustomer c => exact ⟨h.1, fun a => ih a (h.2 a)⟩
    | _ => exact h.elim

/-- **One question of a bystander** stands aside and leaves a bystander. -/
theorem Bystander.step {q : Ask} {next : q.Answer → Script α} (h : (ask q next).Bystander A)
    {b : Backend} (hA : b.repositories.activity = A) (hk : b.repositories.KeyedCustomers) :
    (next (b.answer q).1).Bystander A ∧ b.Aside (b.answer q).2 := by
  cases q with
  | lock key => exact ⟨h (), Backend.Aside.refl b⟩
  | unlock key => exact ⟨h (), Backend.Aside.refl b⟩
  | count counter n => exact ⟨h (), ⟨rfl, rfl, rfl, fun hk => hk, rfl, rfl⟩⟩
  | findCustomer id =>
    refine ⟨?_, Backend.Aside.refl b⟩
    cases hc : (b.answer (.findCustomer id)).1 with
    | error e => exact h.1 e
    | ok c =>
      have hget := Backend.answer_findCustomer hc
      refine h.2 c (hk id c hget) ?_
      rw [← hA, Repositories.activity, hget]
      rfl
  | saveCustomer c => exact ⟨h.2 _, Backend.aside_saveCustomer (hA ▸ h.1)⟩
  | _ => exact h.elim

/-- **A bystander stands aside.** -/
theorem Bystander.run {s : Script α} (h : s.Bystander A) {b : Backend}
    (hA : b.repositories.activity = A) (hk : b.repositories.KeyedCustomers) :
    b.Aside (s.run b).2 := by
  induction s generalizing b with
  | done a => exact Backend.Aside.refl b
  | ask q next ih =>
    obtain ⟨hnext, haside⟩ := h.step hA hk
    exact haside.trans (ih _ hnext (haside.activity.trans hA) (haside.keyed hk))

end Script

/-! ### The listener -/

theorem Customer.reviewTier_fields (c : Customer) :
    c.reviewTier.id = c.id ∧ c.reviewTier.active = c.active := by
  unfold reviewTier
  dsimp only
  split <;> exact ⟨rfl, rfl⟩

/-- Points make no difference to whose account it is and whether it is active. -/
theorem Customer.addPoints_eq_ok {c c' : Customer} {points : Count}
    (h : c.addPoints points = .ok c') : c'.id = c.id ∧ c'.active = c.active := by
  unfold addPoints at h
  by_cases hp : points = 0
  · rw [if_pos hp] at h
    cases h
  · rw [if_neg hp] at h
    obtain ⟨_, _, h⟩ := bind_eq_ok_iff.mp h
    cases hb : c.loyaltyPoints.add? points with
    | none =>
      rw [hb] at h
      cases h
    | some balance =>
      rw [hb] at h
      cases h
      exact Customer.reviewTier_fields _

namespace Loyalty

open Job

variable {A : CustomerId → Option Bool} {α : Type}

/-- Crediting points stands aside, whatever it goes on with. -/
theorem bystander_credit (p : Payload) (k : Except Error Unit → Script α)
    (hk : ∀ x, (k x).Bystander A) : ((credit p).andThen k).Bystander A := by
  unfold credit
  split
  · rename_i customerId _ total _
    dsimp only
    split
    · exact hk _
    · rw [andThen_withLock]
      intro _
      refine ⟨fun e _ => hk _, fun c hid hA => ?_⟩
      show Script.Bystander A ((do
        let customer ← c.addPoints (pointsFor total)
        saveCustomer customer
        perform (.count .pointsAwarded (pointsFor total).toNat) : Job Unit).andThen fun x =>
          .ask (.unlock (.customer customerId)) fun _ => k x)
      -- who has been found is as active as `A` says, and points do not change that
      cases hc : c.addPoints (pointsFor total) with
      | error e => exact fun _ => hk _
      | ok c' =>
        obtain ⟨hid', hactive⟩ := Customer.addPoints_eq_ok hc
        refine ⟨?_, fun x => ?_⟩
        · rw [hid', hactive, hid]
          exact hA
        · cases x with
          | error e => exact fun _ => hk _
          | ok => exact fun _ _ => hk _
  · exact hk _

/-- **A delivery stands aside.** -/
theorem bystander_deliver (d : Delivery) : Script.Bystander A (deliver d).run := by
  rw [← andThen_done]
  unfold deliver
  rw [andThen_bind, andThen_attempt]
  obtain ⟨⟨⟩, p⟩ := d
  refine bystander_credit p _ fun x => ?_
  cases x with
  | error e => exact fun _ => trivial
  | ok => trivial

end Loyalty

namespace Backend

/-- What is on its way is no part of what commands see. -/
theorem aside_deliverAll (deliveries : List Delivery) {b : Backend}
    (hk : b.repositories.KeyedCustomers) : b.Aside (b.deliverAll deliveries) := by
  induction deliveries generalizing b with
  | nil => exact Aside.refl b
  | cons d rest ih =>
    have hd := (Loyalty.bystander_deliver d).run rfl hk
    exact hd.trans (ih (hd.keyed hk))

/-- **Delivering what is on its way stands aside.** -/
theorem aside_settle {b : Backend} (hk : b.repositories.KeyedCustomers) : b.Aside b.settle :=
  have h := aside_deliverAll (b := { b with deliveries := [] }) b.deliveries hk
  ⟨h.stores, h.orders, h.activity, h.keyed, h.units, h.faults⟩

end Backend

end Storefront
