import Storefront.Proofs.Flow

/-! # Stock is conserved

All the stock that is ever added is somewhere: it is still on sale, it has left with an
order, or a cancellation has said that it could not be put back.  One command keeps this
balance (`Command.Effect.balance`), so that every run does (`Backend.run_balance`), whatever
the commands are and whether or not they are refused.  All sums are sums of natural numbers;
nothing is subtracted, so that nothing can be hidden by a difference that stops at zero.
-/
namespace Storefront

/-- **One command keeps the balance**: what it adds is in stock then, or has left with an
order, or is reported as not put back. -/
theorem Command.Effect.balance {used : List Uuid} {supply : Supply} {r r' : Repositories}
    {command : Command} {outcome : Outcome} (h : command.Effect supply r outcome r')
    (hr : r.WellKept used) (hfresh : supply.uuid 0 ∉ used) (store : StoreId)
    (product : ProductId) :
    r'.stockOf store product + r'.taken store product +
        unreturned store product (command, .ok outcome) =
      r.stockOf store product + r.taken store product +
        restocked store product (command, .ok outcome) := by
  have hstock := h.stock_flow hr hfresh store product
  have horders := h.order_flow hr hfresh store product
  omega

/-! ### A run -/

namespace Backend

variable {b : Backend} {used : List Uuid}

/-- **Every run keeps the balance**, from wherever it begins. -/
theorem run_balance (commands : List (Supply × Command)) (hf : b.faults = .none)
    (hb : b.repositories.WellKept used) (hfresh : Fresh commands)
    (hnew : ∀ c ∈ commands, c.1.uuid 0 ∉ used) (store : StoreId) (product : ProductId) :
    (b.executeAll commands).2.repositories.stockOf store product +
        (b.executeAll commands).2.repositories.taken store product +
          total (unreturned store product) commands (b.executeAll commands).1 =
      b.repositories.stockOf store product + b.repositories.taken store product +
        total (restocked store product) commands (b.executeAll commands).1 := by
  refine run_flow (f := fun r => r.stockOf store product + r.taken store product) ?_ ?_ ?_
    commands hf hb hfresh hnew
  · intro used supply r r' command outcome hr hone heffect
    exact heffect.balance hr hone store product
  · intro command e
    cases command <;> exact ⟨rfl, rfl⟩
  · intro r r' haside
    show r'.stockOf store product + r'.taken store product = _
    rw [Repositories.stockOf, Repositories.taken, haside.stores, haside.orders]
    rfl

/-- **Stock is conserved.**  After any run from the beginning, every product of every store
has a level, and all the stock of it that was ever added is the level, what has left with
orders that are confirmed, in preparation, ready or completed, and what cancellations have
said they could not put back. -/
theorem stock_conserved (commands : List (Supply × Command)) (hfresh : Fresh commands)
    {store : StoreId} {s : Store} {product : ProductId} {p : Product}
    (hs : (empty.executeAll commands).2.repositories.stores.get? store = some s)
    (hp : s.product product = .ok p) :
    ∃ level, s.available product = .ok level ∧
      total (restocked store product) commands (empty.executeAll commands).1 =
        level.toNat + (empty.executeAll commands).2.repositories.taken store product +
          total (unreturned store product) commands (empty.executeAll commands).1 := by
  obtain ⟨hkept, _⟩ := wellKept_of_run hfresh
  have hbalance := run_balance commands rfl wellKept_empty hfresh (fun _ _ => List.not_mem_nil)
    store product
  -- a product that is in the catalogue is in stock
  have hget : s.products.get? product = some p := by
    unfold Store.product at hp
    split at hp
    · cases hp
      assumption
    · cases hp
  obtain ⟨level, hlevel⟩ := (hkept.sound.store _ _ hs).2.level hget
  refine ⟨level, Store.available_eq_ok_iff.mpr hlevel, ?_⟩
  rw [Repositories.stockOf_eq hs, Store.stock_of_level hlevel] at hbalance
  have hnone : empty.repositories.stockOf store product = 0 := rfl
  have hempty : empty.repositories.taken store product = 0 := rfl
  omega

/-- Eight apples are sold in two lines that become one, and cannot be put back, since apples
are no longer sold when the order is cancelled; another order is refused in between. -/
def sale : List (Supply × Command) := Sample.numbered (Sample.opening ++ [
  .createOrder Sample.ann Sample.shop [⟨Sample.apple, 2⟩, ⟨Sample.pear, 1⟩, ⟨Sample.apple, 6⟩],
  .createOrder Sample.ann Sample.shop [⟨Sample.pear, 1⟩, ⟨Sample.apple, 3⟩],
  .deactivateProduct Sample.shop Sample.apple,
  .cancelOrder (Sample.order 6) "too many"])

theorem stock_conserved_sale : ∃ s p level,
    (empty.executeAll sale).2.repositories.stores.get? Sample.shop = some s ∧
      s.product Sample.apple = .ok p ∧ s.available Sample.apple = .ok level ∧
        total (restocked Sample.shop Sample.apple) sale (empty.executeAll sale).1 = 10 ∧
          10 = level.toNat +
            (empty.executeAll sale).2.repositories.taken Sample.shop Sample.apple +
              total (unreturned Sample.shop Sample.apple) sale (empty.executeAll sale).1 := by
  have hsome : (((empty.executeAll sale).2.repositories.stores.get? Sample.shop).bind fun s =>
      (s.product Sample.apple).toOption).isSome = true := by decide +kernel
  have hten : total (restocked Sample.shop Sample.apple) sale (empty.executeAll sale).1 = 10 := by
    decide +kernel
  cases hs : (empty.executeAll sale).2.repositories.stores.get? Sample.shop with
  | none =>
    rw [hs] at hsome
    cases hsome
  | some s =>
    cases hp : s.product Sample.apple with
    | error e =>
      rw [hs, Option.bind_some, hp] at hsome
      cases hsome
    | ok p =>
      obtain ⟨level, hlevel, hbalance⟩ := stock_conserved sale (by decide +kernel) hs hp
      rw [hten] at hbalance
      exact ⟨s, p, level, rfl, hp, hlevel, hten, hbalance⟩

end Backend

end Storefront
