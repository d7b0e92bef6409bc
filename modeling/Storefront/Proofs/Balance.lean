import Mathlib.Data.List.Induction
import Storefront.Proofs.Backlog
import Storefront.Proofs.Flow

/-! # Balances and the worth of orders

A command takes from a balance what it spends, and adds nothing to it
(`Command.Effect.points`); what it adds is points for the order that it places, which are on their
way (`Command.Effect.ordersWorth`).  All orders that were ever placed are still kept, with the totals
that they had, so that what they are worth together only grows.
-/
namespace Storefront

/-- The points that a customer has spent with a command, given what came of it. -/
def Command.spends (id : CustomerId) : Command × Except Error Outcome → Nat
  | (.redeemPoints customer points, .ok _) => if customer = id then points.toNat else 0
  | _ => 0

theorem Command.spends_eq_zero {command : Command} (h : command.ofCustomers = false)
    (id : CustomerId) (x : Except Error Outcome) : spends id (command, x) = 0 := by
  cases command with
  | register | updateContact | redeemPoints | deactivateCustomer => cases h
  | _ => rfl

namespace Repositories

variable {r r' : Repositories}

/-- What all orders of a customer are worth, those included that have been cancelled. -/
def ordersWorth (r : Repositories) (id : CustomerId) : Nat := r.orders.sum (Order.award id)

/-- Customers have identifiers that have been given away. -/
def CustomersFrom (used : List Uuid) (r : Repositories) : Prop :=
  ∀ id, r.activity id ≠ none → id.uuid ∈ used

/-! ### Customers who are kept -/

theorem balance_insert (r : Repositories) (c : Customer) (id : CustomerId) :
    balance { r with customers := r.customers.insert c.id c.settled } id =
      if id = c.id then c.loyaltyPoints.toNat else r.balance id := by
  show (((r.customers.insert c.id c.settled).get? id).map (·.loyaltyPoints.toNat)).getD 0 = _
  rw [Table.get?_insert]
  split <;> rfl

theorem CustomersFrom.insert {used : List Uuid} (h : r.CustomersFrom used) {c : Customer}
    (hid : c.id.uuid ∈ used) :
    CustomersFrom used { r with customers := r.customers.insert c.id c.settled } := by
  intro id hactive
  have hactive : ((r.customers.insert c.id c.settled).get? id).map (·.active) ≠ none := hactive
  rw [Table.get?_insert] at hactive
  by_cases hc : id = c.id
  · rw [hc]
    exact hid
  · rw [if_neg hc] at hactive
    exact h id hactive

section Change
variable {known : CustomerId} {c : Customer} {change : Customer → Except CustomerError Customer}

/-- A change of a customer that takes so many points from the balance. -/
theorem balance_of_decideCustomer (hr : r.Clientele) {n : Nat}
    (h : r.decideCustomer known change = .ok (c, r'))
    (hchange : ∀ d, change d = .ok c →
      c.id = d.id ∧ c.loyaltyPoints.toNat + n = d.loyaltyPoints.toNat) (id : CustomerId) :
    r'.balance id + (if known = id then n else 0) = r.balance id := by
  obtain ⟨before, hbefore, hc⟩ := decideCustomer_before h
  obtain ⟨hcid, hpoints⟩ := hchange before hc
  rw [decideCustomer_eq_ok h, balance_insert, hcid, hr.keyed known before hbefore]
  by_cases hid : known = id
  · subst hid
    rw [if_pos rfl, if_pos rfl, balance_eq hbefore, hpoints]
  · rw [if_neg (Ne.symm hid), if_neg hid, Nat.add_zero]

/-- A change of a customer that leaves the points as they are. -/
theorem balance_same_of_decideCustomer (hr : r.Clientele)
    (h : r.decideCustomer known change = .ok (c, r'))
    (hchange : ∀ d, change d = .ok c → c.id = d.id ∧ c.loyaltyPoints = d.loyaltyPoints)
    (id : CustomerId) : r'.balance id = r.balance id := by
  have hbalance := balance_of_decideCustomer hr (n := 0) h (fun d hd =>
    ⟨(hchange d hd).1, congrArg UInt32.toNat (hchange d hd).2⟩) id
  rwa [ite_self] at hbalance

theorem customersFrom_of_decideCustomer {used : List Uuid} (hr : r.CustomersFrom used)
    (hc : r.Clientele) (h : r.decideCustomer known change = .ok (c, r'))
    (hchange : ∀ d, change d = .ok c → c.id = d.id) : r'.CustomersFrom used := by
  obtain ⟨before, hbefore, hchanged⟩ := decideCustomer_before h
  rw [decideCustomer_eq_ok h]
  refine hr.insert (hr _ ?_)
  rw [hchange before hchanged, hc.keyed known before hbefore, activity_eq hbefore]
  exact Option.some_ne_none _

end Change

/-! ### Orders that are kept -/

theorem ordersWorth_saveOrder (r : Repositories) (o : Order) (id : CustomerId) :
    (r.saveOrder o).ordersWorth id + ((r.orders.get? o.id).map (Order.award id)).getD 0 =
      r.ordersWorth id + o.award id :=
  Table.sum_insert (Order.award id) r.orders o.id o.settled

/-- An order that is kept again, of the same customer and with the same total, is worth the
same. -/
theorem ordersWorth_overwrite (hr : r.Sound) {known : OrderId} {before o : Order}
    (hbefore : r.orders.get? known = some before) (hid : o.id = before.id)
    (hcustomer : o.customerId = before.customerId) (htotal : o.total = before.total)
    (id : CustomerId) : (r.saveOrder o).ordersWorth id = r.ordersWorth id := by
  have hworth := ordersWorth_saveOrder r o id
  have hsame : o.award id = before.award id := by
    rw [Order.award, Order.award, hcustomer, htotal]
  rw [hid, (hr.order _ _ hbefore).1, hbefore, hsame] at hworth
  exact Nat.add_right_cancel hworth

end Repositories

/-! ### One command -/

section Effect
variable {used : List Uuid} {supply : Supply} {r r' : Repositories} {command : Command}
  {outcome : Outcome}

/-- **A command takes from a balance what it spends**, and adds nothing. -/
theorem Command.Effect.points (h : command.Effect supply r outcome r') (hr : r.Clientele)
    (hnew : r.activity (supply.id .customer) = none) (id : CustomerId) :
    r'.balance id + spends id (command, .ok outcome) = r.balance id := by
  cases hc : command.ofCustomers with
  | false =>
    rw [spends_eq_zero hc, Repositories.balance_congr (h.customers_eq hc)]
    rfl
  | true =>
    cases h with
    | @register email firstName lastName c r' h =>
      obtain ⟨hid, hpoints⟩ :=
        Customer.register_account (Repositories.register_of_decideRegister h)
      rw [Repositories.decideRegister_eq_ok h, Repositories.balance_insert, hid, hpoints]
      by_cases he : id = supply.id .customer
      · rw [if_pos he, he, Repositories.balance, Option.map_eq_none_iff.mp hnew]
        rfl
      · rw [if_neg he]
        rfl
    | updateContact h =>
      refine Repositories.balance_same_of_decideCustomer hr h (fun d hd => ?_) id
      obtain ⟨hid, _, hpoints⟩ := Customer.updateContact_account hd
      exact ⟨hid, hpoints⟩
    | redeemPoints h =>
      refine Repositories.balance_of_decideCustomer hr h (fun d hd => ?_) id
      obtain ⟨hid, _, hpoints⟩ := Customer.redeemPoints_account hd
      exact ⟨hid, hpoints⟩
    | deactivateCustomer h =>
      refine Repositories.balance_same_of_decideCustomer hr h (fun d hd => ?_) id
      obtain ⟨hid, _, hpoints⟩ := Customer.deactivate_account hd
      exact ⟨hid, hpoints⟩
    | _ => cases hc

/-- Who is a customer has an identifier that has been given away, also after a command. -/
theorem Command.Effect.customersFrom (h : command.Effect supply r outcome r')
    (hr : r.CustomersFrom used) (hc : r.Clientele) : r'.CustomersFrom (supply.uuid 0 :: used) := by
  have hmono : ∀ {s : Repositories}, s.CustomersFrom used →
      s.CustomersFrom (supply.uuid 0 :: used) := fun hs id hid =>
    List.mem_cons_of_mem _ (hs id hid)
  cases hkind : command.ofCustomers with
  | false =>
    intro id hid
    rw [Repositories.activity_congr (h.customers_eq hkind)] at hid
    exact hmono hr id hid
  | true =>
    cases h with
    | @register email firstName lastName c r' h =>
      rw [Repositories.decideRegister_eq_ok h]
      refine (hmono hr).insert ?_
      rw [(Customer.register_account (Repositories.register_of_decideRegister h)).1]
      exact List.mem_cons_self ..
    | updateContact h =>
      exact hmono (Repositories.customersFrom_of_decideCustomer hr hc h fun d hd =>
        (Customer.updateContact_account hd).1)
    | redeemPoints h =>
      exact hmono (Repositories.customersFrom_of_decideCustomer hr hc h fun d hd =>
        (Customer.redeemPoints_account hd).1)
    | deactivateCustomer h =>
      exact hmono (Repositories.customersFrom_of_decideCustomer hr hc h fun d hd =>
        (Customer.deactivate_account hd).1)
    | _ => cases hkind

/-- **All orders together are worth more by what is due for the order that a command has placed**,
and are not worth less whatever happens to them. -/
theorem Command.Effect.ordersWorth (h : command.Effect supply r outcome r') (hr : r.WellKept used)
    (hfresh : supply.uuid 0 ∉ used) (id : CustomerId) :
    r'.ordersWorth id = r.ordersWorth id + earns id (command, .ok outcome) := by
  cases h with
  | register h =>
    rw [Repositories.decideRegister_eq_ok h]
    rfl
  | updateContact h | redeemPoints h | deactivateCustomer h =>
    rw [Repositories.decideCustomer_eq_ok h]
    rfl
  | @createOrder customerId storeId lines o s' h =>
    obtain ⟨_, s, _, hplaced, _, _⟩ :=
      Repositories.decideOrder_eq_ok (fun s hs => (hr.sound.store _ s hs).2) h
    have hnone : (r.saveStore s').orders.get? o.id = none := by
      rw [hplaced.id_eq]
      exact hr.issued.order_eq_none hfresh
    have hworth := Repositories.ordersWorth_saveOrder (r.saveStore s') o id
    rw [hnone] at hworth
    exact hworth
  | @cancelOrder known reason before order h hn =>
    obtain ⟨hbefore, hcancel⟩ := Repositories.decideCancel_eq_ok_iff.mp h
    obtain ⟨_, he⟩ := Order.cancel_eq_ok_iff.mp hcancel
    exact Repositories.ordersWorth_overwrite hr.sound hbefore (by rw [he]) (by rw [he])
      (by rw [he]) id
  | @cancelReserved known reason before order released failed news r' h hn hb =>
    obtain ⟨hbefore, hcancel⟩ := Repositories.decideCancel_eq_ok_iff.mp h
    obtain ⟨_, he⟩ := Order.cancel_eq_ok_iff.mp hcancel
    have horders := (Repositories.putBack_flow (hr.sound.cancel hbefore hcancel) order order.storeId
      default).1
    rw [hb] at horders
    rw [Repositories.ordersWorth, show r'.orders = (r.saveOrder order).orders from horders]
    exact Repositories.ordersWorth_overwrite hr.sound hbefore (by rw [he]) (by rw [he])
      (by rw [he]) id
  | @advanceOrder known transition o h =>
    obtain ⟨before, hbefore, hadvance⟩ := Repositories.decideAdvance_eq_ok_iff.mp h
    obtain ⟨_, _, he⟩ := Order.advance_eq_ok hadvance
    exact Repositories.ordersWorth_overwrite hr.sound hbefore (by rw [he]) (by rw [he])
      (by rw [he]) id
  | _ => rfl

/-- **Whoever something is due to has an open account.** -/
theorem Command.Effect.earner (h : command.Effect supply r outcome r') (hr : r.WellKept used)
    {id : CustomerId} (hearns : earns id (command, .ok outcome) ≠ 0) :
    r.activity id = some true := by
  cases h with
  | @createOrder customerId storeId lines o s' h =>
    obtain ⟨_, s, _, hplaced, _, _⟩ :=
      Repositories.decideOrder_eq_ok (fun s hs => (hr.sound.store _ s hs).2) h
    have hid : customerId = id := by
      by_contra hne
      refine hearns (if_neg fun hc => hne ?_)
      exact hplaced.customerId_eq.symm.trans hc
    unfold Repositories.decideOrder at h
    obtain ⟨_, _, h⟩ := bind_eq_ok_iff.mp h
    obtain ⟨c, hc, h⟩ := bind_eq_ok_iff.mp h
    rw [← hid, Repositories.activity_eq (Repositories.findCustomer_eq_ok_iff.mp hc)]
    cases ha : c.active with
    | true => rfl
    | false =>
      rw [ha] at h
      cases h
  | _ => exact absurd rfl hearns

end Effect

namespace Backend

/-- Whoever is a customer after a run has an identifier that a command has been given. -/
theorem customersFrom_of_run (commands : List (Supply × Command)) (hfresh : Fresh commands) :
    (empty.executeAll commands).2.repositories.CustomersFrom
      (commands.map fun c => c.1.uuid 0) := by
  induction commands using List.reverseRecOn with
  | nil => exact fun id h => absurd rfl h
  | append_singleton commands c ih =>
    obtain ⟨hcommands, hnew⟩ := fresh_snoc hfresh
    obtain ⟨hkept, hf⟩ := wellKept_of_run hcommands
    obtain ⟨hclientele, -⟩ := executeAll_clientele (b := empty) commands rfl .empty
    obtain ⟨-, haside, -⟩ := execute_spec hf hkept hnew c.2
    have hone : (((empty.executeAll commands).2.execute c.1 c.2).2).repositories.CustomersFrom
        (c.1.uuid 0 :: commands.map fun c => c.1.uuid 0) := by
      intro id hid
      rw [haside.activity] at hid
      rcases c.2.eval_cases c.1 (empty.executeAll commands).2.repositories with
        ⟨e, he⟩ | ⟨outcome, r', he, heffect⟩
      · rw [he] at hid
        exact List.mem_cons_of_mem _ (ih hcommands id hid)
      · rw [he] at hid
        exact heffect.customersFrom (ih hcommands) hclientele id hid
    rw [executeAll_append, List.map_append]
    intro id hid
    rcases List.mem_cons.mp (hone id hid) with h | h
    · exact List.mem_append_right _ (List.mem_singleton.mpr h)
    · exact List.mem_append_left _ h

/-- Nobody is kept yet under an identifier that is new to a run. -/
theorem nobody_of_run {commands : List (Supply × Command)} (hfresh : Fresh commands)
    {supply : Supply} (hnew : supply.uuid 0 ∉ commands.map fun c => c.1.uuid 0) :
    (empty.executeAll commands).2.repositories.customers.get? (supply.id .customer) = none := by
  by_contra hne
  refine hnew (customersFrom_of_run commands hfresh _ fun hactive => hne ?_)
  exact Option.map_eq_none_iff.mp hactive

end Backend

end Storefront
