import Storefront.Order.Call
import Storefront.Proofs.InPlace

/-! # Calls in place

An edit *realises* an operation if it gives the same and leaves the order that the operation
gives, or the order as it was if the operation is refused.  Every edit of an order realises an
operation, since it makes all of its checks before it writes anything.  So a call in place comes
to the same as the operations of `Order`, and one that is refused has written nothing
(`Order.perform_eq`).
-/
namespace Storefront

namespace Order

variable {α β : Type}

namespace Edit

open InPlace (on on_get_bind on_bind on_check_bind)

variable {o : Order}

/-- The checks of money go on as others do, and tell that it is money that they refuse. -/
theorem on_money_bind (x : Except MoneyError α) (f : α → Edit β) :
    on o (liftM x >>= f) =
      match x with
      | .ok a => on o (f a)
      | .error e => (.error (.money e), o) := by
  cases x <;> rfl

theorem on_setLines (lines : List OrderLine) :
    on o (setLines lines) = InPlace.kept o ((o.withLines lines).map ((), ·)) := by
  unfold setLines withLines
  rw [on_get_bind, on_money_bind]
  cases sumLines o.total.currency lines <;> rfl

/-- **An addition in place.**  The total is written after the last check. -/
theorem on_add (a : Addition) : on o (add a) = InPlace.kept o (o.add a) := by
  unfold add Order.add addLine
  rw [on_get_bind, on_check_bind]
  cases o.ensureOpen with
  | error e => rfl
  | ok =>
    by_cases hq : a.quantity = 0
    · rw [if_pos hq, if_pos hq]
      rfl
    · rw [if_neg hq, if_neg hq]
      show on o (get >>= _) = _
      rw [on_get_bind, on_check_bind]
      cases placeLine a.fresh a.product a.name a.quantity a.price o.lines with
      | error e => rfl
      | ok placed =>
        obtain ⟨id, lines⟩ := placed
        show on o (setLines lines >>= _) = _
        simp only [ok_bind, on_bind, on_setLines]
        cases o.withLines lines <;> rfl

theorem on_remove (id : LineId) :
    on o (remove id) = InPlace.kept o ((o.removeLine id).map ((), ·)) := by
  unfold remove removeLine
  rw [on_get_bind, on_check_bind]
  cases o.ensureOpen with
  | error e => rfl
  | ok =>
    show on o (get >>= _) = _
    rw [on_get_bind]
    by_cases hany : (o.lines.any fun line => line.id == id) = true
    · rw [if_pos hany, if_pos hany, on_get_bind, on_setLines]
      rfl
    · rw [if_neg hany, if_neg hany]
      rfl

theorem on_confirm : on o confirm = InPlace.kept o (o.confirm.map ((), ·)) := by
  unfold confirm Order.confirm
  rw [on_get_bind, on_check_bind]
  cases o.ensureMove .confirmed with
  | error e => rfl
  | ok =>
    show on o (get >>= _) = _
    rw [on_get_bind]
    by_cases hempty : o.lines.isEmpty = true
    · rw [if_pos hempty, if_pos hempty]
      rfl
    · rw [if_neg hempty, if_neg hempty]
      show on o (get >>= _) = _
      rw [on_get_bind, on_money_bind]
      cases o.snapshots <;> rfl

theorem on_cancel (reason : String) :
    on o (cancel reason) = InPlace.kept o ((o.cancel reason).map ((), ·)) := by
  unfold cancel Order.cancel
  rw [on_get_bind, on_check_bind]
  cases o.ensureMove .cancelled <;> rfl

theorem on_moveOn (next : OrderStatus) (event : Order → OrderEvent) :
    on o (moveOn next event) = InPlace.kept o (do
      o.ensureMove next
      return ((), { o with status := next }.raise (event { o with status := next }))) := by
  unfold moveOn
  rw [on_get_bind, on_check_bind]
  cases o.ensureMove next <;> rfl

theorem on_advance (now : Timestamp) (transition : OrderTransition) :
    on o (advance now transition) = InPlace.kept o ((o.advance now transition).map ((), ·)) := by
  cases transition with
  | startPreparing =>
    rw [advance, on_moveOn, Order.advance, startPreparing]
    cases o.ensureMove .preparing <;> rfl
  | markReady =>
    rw [advance, on_moveOn, Order.advance, markReady]
    cases o.ensureMove .ready <;> rfl
  | complete =>
    rw [advance, on_moveOn, Order.advance, complete]
    cases o.ensureMove .completed <;> rfl

end Edit

/-- **A call in place comes to the same as the operations**, and a refused one leaves the order as
it was. -/
theorem perform_eq (o : Order) (call : OrderCall) :
    o.perform call = InPlace.kept o (o.answer call) := by
  cases call with
  | add a =>
    show InPlace.on o (Edit.add a >>= fun id => pure (some id)) = _
    rw [InPlace.on_bind, Edit.on_add, answer]
    cases o.add a <;> rfl
  | remove line =>
    show InPlace.on o (Edit.remove line >>= fun _ => pure none) = _
    rw [InPlace.on_bind, Edit.on_remove, answer]
    cases o.removeLine line <;> rfl
  | confirm =>
    show InPlace.on o (Edit.confirm >>= fun _ => pure none) = _
    rw [InPlace.on_bind, Edit.on_confirm, answer]
    cases o.confirm <;> rfl
  | cancel reason =>
    show InPlace.on o (Edit.cancel reason >>= fun _ => pure none) = _
    rw [InPlace.on_bind, Edit.on_cancel, answer]
    cases o.cancel reason <;> rfl
  | advance transition now =>
    show InPlace.on o (Edit.advance now transition >>= fun _ => pure none) = _
    rw [InPlace.on_bind, Edit.on_advance, answer]
    cases o.advance now transition <;> rfl
  | settle => rfl

section Call
variable {o o' : Order} {call : OrderCall} {id : Option LineId}

theorem perform_eq_ok_iff : o.perform call = (.ok id, o') ↔ o.answer call = .ok (id, o') := by
  rw [perform_eq, InPlace.kept_eq_ok_iff]

theorem perform_eq_error_iff {e : OrderError} :
    o.perform call = (.error e, o') ↔ o.answer call = .error e ∧ o' = o := by
  rw [perform_eq, InPlace.kept_eq_error_iff]

/-- What every call keeps that is carried out is kept by every call. -/
theorem after_keeps {p : Order → Prop} (ho : p o)
    (h : ∀ id o', o.answer call = .ok (id, o') → p o') : p (o.after call) := by
  rw [after, perform_eq]
  exact InPlace.kept_keeps ho h

end Call

end Order

end Storefront
