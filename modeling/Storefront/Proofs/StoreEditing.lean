import Storefront.Proofs.Catalogue
import Storefront.Proofs.InPlace
import Storefront.Store.Call

/-! # Calls on a store in place

A call on a store in its place comes to the same as the operations of `Store`, and one that is
refused has written nothing (`Store.perform_eq`).  That is not seen from the end of the call alone:
a product is changed in its place in the catalogue and is in it again even if the change is
refused, which makes no difference only because it is the same then (`Store.Edit.on_onProduct`).
-/
namespace Storefront

namespace Store

variable {s : Store} {id : ProductId} {α β : Type}

namespace Edit

open InPlace

theorem on_addProduct (name description : String) (price : Money) :
    on s (addProduct id name description price) =
      kept s (s.addProduct id name description price) := by
  unfold addProduct Store.addProduct
  rw [on_check_bind]
  cases ProductName.make name with
  | error e => rfl
  | ok n =>
    dsimp only [ok_bind]
    rw [on_get_bind]
    by_cases hcurrency : price.currency.code ≠ s.currency
    · rw [if_pos hcurrency, if_pos hcurrency]
      rfl
    · rw [if_neg hcurrency, if_neg hcurrency]
      show on s (get >>= _) = _
      rw [on_get_bind]
      cases hsells : s.sells n with
      | true => rfl
      | false =>
        show on s (liftM (Product.make id n description price) >>= _) = kept s (do
          let p ← Product.make id n description price
          _)
        rw [on_check_bind]
        cases hmake : Product.make id n description price with
        | error e => rfl
        | ok p =>
          obtain rfl := make_eq_ok hmake
          rfl

/-- **A product is changed in its place if it is on sale**, and nothing of it is changed if that
is refused. -/
theorem on_onProduct (e : InPlace StoreError Product α)
    (f : Product → Except StoreError (α × Product)) (he : ∀ p, on p e = kept p (f p)) :
    on s (onProduct id e) = kept s (do
      let p ← s.activeProduct id
      let (a, p') ← f p
      return (a, { s with products := s.products.insert id p' })) := by
  unfold onProduct
  rw [on_get_bind, on_check_bind]
  cases hp : s.activeProduct id with
  | error err => rfl
  | ok p =>
    dsimp only [ok_bind]
    rw [he]
    cases hf : f p with
    | error err =>
      -- the product is written back as it was
      have hsame : { s with products := s.products.insert id p } = s := by
        rw [Table.insert_eq_self (activeProduct_eq_ok_iff.mp hp).1]
      show (Except.error err, { s with products := s.products.insert id p }) = (.error err, s)
      rw [hsame]
    | ok x => rfl

theorem on_setPrice (p : Product) (price : Money) :
    on p (setPrice price) = kept p ((p.withPrice price).map ((), ·)) := by
  unfold setPrice Product.withPrice
  rw [on_check_bind]
  cases Product.checkPrice price with
  | error e => rfl
  | ok =>
    dsimp only [ok_bind]
    rw [on_get_bind]
    by_cases hcurrency : price.currency = p.price.currency
    · rw [if_pos hcurrency, if_neg (not_not.mpr hcurrency)]
      rfl
    · rw [if_neg hcurrency, if_pos hcurrency]
      rfl

theorem on_updatePrice (price : Money) :
    on s (updatePrice id price) = kept s ((s.updatePrice id price).map ((), ·)) := by
  unfold updatePrice Store.updatePrice
  rw [on_bind, on_onProduct _ fun p => do
    let p' ← p.withPrice price
    return ((p.price, p'.price), p')]
  · cases s.activeProduct id with
    | error e => rfl
    | ok p =>
      dsimp only [ok_bind]
      cases p.withPrice price <;> rfl
  · intro p
    rw [on_get_bind, on_bind, on_setPrice]
    cases p.withPrice price <;> rfl

theorem on_deactivateProduct :
    on s (deactivateProduct id) = kept s ((s.deactivateProduct id).map ((), ·)) := by
  unfold deactivateProduct Store.deactivateProduct
  rw [on_bind, on_onProduct _ fun p => .ok ((), { p with active := false })]
  · cases s.activeProduct id <;> rfl
  · exact fun p => rfl

theorem on_addInventory (quantity : Count) :
    on s (addInventory id quantity) = kept s ((s.addInventory id quantity).map ((), ·)) := by
  unfold addInventory Store.addInventory
  rw [on_get_bind, on_check_bind]
  cases s.levelFor id quantity with
  | error e => rfl
  | ok level =>
    dsimp only [ok_bind]
    cases level.add? quantity <;> rfl

theorem on_reserve (quantity : Count) :
    on s (reserve id quantity) = kept s ((s.reserve id quantity).map ((), ·)) := by
  unfold reserve Store.reserve
  rw [on_get_bind, on_check_bind]
  cases s.levelFor id quantity with
  | error e => rfl
  | ok level =>
    dsimp only [ok_bind]
    by_cases hlt : level < quantity
    · rw [if_pos hlt, if_pos hlt]
      rfl
    · rw [if_neg hlt, if_neg hlt]
      rfl

end Edit

/-- **A call in place comes to the same as the operations**, and a refused one leaves the store as
it was. -/
theorem perform_eq (s : Store) (call : StoreCall) :
    s.perform call = InPlace.kept s (s.answer call) := by
  cases call with
  | addProduct fresh name description price =>
    show InPlace.on s (Edit.addProduct fresh name description price >>= fun p => pure (some p)) = _
    rw [InPlace.on_bind, Edit.on_addProduct, answer]
    cases s.addProduct fresh name description price <;> rfl
  | updatePrice id price =>
    show InPlace.on s (Edit.updatePrice id price >>= fun _ => pure none) = _
    rw [InPlace.on_bind, Edit.on_updatePrice, answer]
    cases s.updatePrice id price <;> rfl
  | deactivateProduct id =>
    show InPlace.on s (Edit.deactivateProduct id >>= fun _ => pure none) = _
    rw [InPlace.on_bind, Edit.on_deactivateProduct, answer]
    cases s.deactivateProduct id <;> rfl
  | addInventory id quantity =>
    show InPlace.on s (Edit.addInventory id quantity >>= fun _ => pure none) = _
    rw [InPlace.on_bind, Edit.on_addInventory, answer]
    cases s.addInventory id quantity <;> rfl
  | reserve id quantity =>
    show InPlace.on s (Edit.reserve id quantity >>= fun _ => pure none) = _
    rw [InPlace.on_bind, Edit.on_reserve, answer]
    cases s.reserve id quantity <;> rfl

end Store

end Storefront
