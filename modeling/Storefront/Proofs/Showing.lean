import Storefront.Http.View
import Storefront.Proofs.Crediting

/-! # What can be shown

An order is shown with the totals of its lines, which are worked out again each time.
They were worked out once when the order was confirmed, to be told of; the lines have
not changed since, so it can be shown for good.  A store whose product was changed is
still kept under its own identifier, with that product.  Commands keep both true
(`Command.Effect.showable`), whatever identifiers they are given.
-/
namespace Storefront

/-! ### What can be shown -/

/-- An order whose lines can be told of, each with its total. -/
def Order.Showable (o : Order) : Prop := ∃ items, o.snapshots = .ok items

/-- Everything that commands give back can be shown. -/
def Outcome.Showable : Outcome → Prop
  | order o => o.Showable
  | cancellation c => c.order.Showable
  | _ => True

/-- Every store is kept under its own identifier, and every order can be shown. -/
structure Repositories.Showable (r : Repositories) : Prop where
  stores : ∀ id s, r.stores.get? id = some s → s.id = id
  orders : ∀ id o, r.orders.get? id = some o → o.Showable

/-- Only its lines matter for whether an order can be shown. -/
theorem Order.Showable.of_lines {o o' : Order} (h : o.Showable) (hl : o'.lines = o.lines) :
    o'.Showable := by
  obtain ⟨items, hitems⟩ := h
  exact ⟨items, by rw [snapshots, hl]; exact hitems⟩

namespace Repositories.Showable

variable {r : Repositories}

theorem empty : Repositories.empty.Showable where
  stores id s hs := by cases hs
  orders id o ho := by cases ho

theorem saveStore (h : r.Showable) (s : Store) : (r.saveStore s).Showable where
  stores id t ht := by
    simp only [Repositories.saveStore, Table.get?_insert] at ht
    split at ht
    · next hid =>
      cases ht
      exact hid.symm
    · exact h.stores id t ht
  orders := h.orders

theorem saveOrder (h : r.Showable) {o : Order} (ho : o.Showable) : (r.saveOrder o).Showable where
  stores := h.stores
  orders id p hp := by
    simp only [Repositories.saveOrder, Table.get?_insert] at hp
    split at hp
    · cases hp
      exact ho.of_lines rfl
    · exact h.orders id p hp

theorem putBack (h : r.Showable) (o : Order) : (r.putBack o).2.Showable := by
  unfold Repositories.putBack
  split
  · exact h
  · exact h.saveStore _

/-- Customers make no difference. -/
theorem of_eq (h : r.Showable) {r' : Repositories} (hs : r'.stores = r.stores)
    (ho : r'.orders = r.orders) : r'.Showable :=
  ⟨fun id s hget => h.stores id s (hs ▸ hget), fun id o hget => h.orders id o (ho ▸ hget)⟩

end Repositories.Showable

section Commands

variable {supply : Supply} {r r' : Repositories} {command : Command} {outcome : Outcome}

/-- **What comes of a command can be shown**, and so can everything that is kept then. -/
theorem Command.Effect.showable (h : command.Effect supply r outcome r') (hr : r.Showable) :
    outcome.Showable ∧ r'.Showable := by
  cases h with
  | createStore h => exact ⟨trivial, hr.saveStore _⟩
  | addProduct hs h => exact ⟨trivial, hr.saveStore _⟩
  | addInventory hs h hl => exact ⟨trivial, hr.saveStore _⟩
  | updatePrice hs h hp => exact ⟨trivial, hr.saveStore _⟩
  | deactivateProduct hs h => exact ⟨trivial, hr.saveStore _⟩
  | register h =>
    rw [Repositories.decideRegister_eq_ok h]
    exact ⟨trivial, hr.of_eq rfl rfl⟩
  | updateContact h | redeemPoints h | deactivateCustomer h =>
    rw [Repositories.decideCustomer_eq_ok h]
    exact ⟨trivial, hr.of_eq rfl rfl⟩
  | createOrder h =>
    obtain ⟨s, _, hplace⟩ := Repositories.place_of_decideOrder h
    obtain ⟨_, ⟨items, hitems, _⟩, _⟩ := Order.place_tells hplace
    have hshow : Order.Showable _ := ⟨items, hitems⟩
    exact ⟨hshow.of_lines rfl, (hr.saveStore _).saveOrder hshow⟩
  | cancelOrder h hn =>
    obtain ⟨hbefore, h⟩ := Repositories.decideCancel_eq_ok_iff.mp h
    obtain ⟨_, rfl⟩ := Order.cancel_eq_ok_iff.mp h
    have hshow := (hr.orders _ _ hbefore).of_lines rfl
    exact ⟨hshow, hr.saveOrder hshow⟩
  | @cancelReserved id reason before order released failed news r' h hn hb =>
    obtain ⟨hbefore, h⟩ := Repositories.decideCancel_eq_ok_iff.mp h
    have hlines : order.lines = before.lines := by rw [(Order.cancel_eq_ok_iff.mp h).2]
    have hshow := (hr.orders _ _ hbefore).of_lines hlines
    have hput := (hr.saveOrder hshow).putBack order
    rw [hb] at hput
    exact ⟨hshow.of_lines rfl, hput⟩
  | advanceOrder h =>
    obtain ⟨before, hbefore, h⟩ := Repositories.decideAdvance_eq_ok_iff.mp h
    obtain ⟨_, _, heq⟩ := Order.advance_eq_ok h
    have hlines := congrArg Order.lines heq
    have hshow := (hr.orders _ _ hbefore).of_lines hlines
    exact ⟨hshow.of_lines rfl, hr.saveOrder hshow⟩

theorem Repositories.findStore_saveStore (r : Repositories) (s : Store) :
    (r.saveStore s).findStore s.id = .ok s.settled :=
  findStore_eq_ok_iff.mpr (Table.get?_insert_self ..)

/-- **A product whose price was changed is found again** in the store that was named. -/
theorem Command.Effect.repriced {id : StoreId} {product : ProductId} {price : Money}
    (h : (Command.updatePrice id product price).Effect supply r outcome r') (hr : r.Showable) :
    ∃ s p, r'.findStore id = .ok s ∧ s.product product = .ok p := by
  cases h with
  | @updatePrice _ _ _ s s' p hs h hp =>
    obtain ⟨_, _, _, _, hs'⟩ := Store.updatePrice_eq_ok_iff.mp h
    have hid : s'.id = id := by rw [hs']; exact hr.stores id s hs
    exact ⟨s'.settled, p, hid ▸ r.findStore_saveStore s', hp⟩

/-- **A product that was taken off sale is found again** in the store that was named. -/
theorem Command.Effect.withdrawn {id : StoreId} {product : ProductId}
    (h : (Command.deactivateProduct id product).Effect supply r outcome r') (hr : r.Showable) :
    ∃ s p, r'.findStore id = .ok s ∧ s.product product = .ok p := by
  cases h with
  | @deactivateProduct _ _ s s' hs h =>
    obtain ⟨p, _, hs'⟩ := Store.deactivateProduct_eq_ok_iff.mp h
    have hid : s'.id = id := by rw [hs']; exact hr.stores id s hs
    refine ⟨s'.settled, { p with active := false }, hid ▸ r.findStore_saveStore s', ?_⟩
    rw [hs']
    simp [Store.product, Store.raise, Store.settled]

end Commands

/-! ### Backends -/

namespace Backend

/-- Between the backends, nothing was kept, told or sent. -/
structure Untouched (b b' : Backend) : Prop where
  repositories : b'.repositories = b.repositories
  published : b'.published = b.published
  deliveries : b'.deliveries = b.deliveries
  faults : b'.faults = b.faults

/-- No switch is on, and everything that is kept can be shown and is found where it belongs. -/
structure Serviceable (b : Backend) : Prop where
  faults : b.faults = .none
  clientele : b.repositories.Clientele
  showable : b.repositories.Showable

theorem Untouched.refl (b : Backend) : b.Untouched b := ⟨rfl, rfl, rfl, rfl⟩

theorem Serviceable.of_untouched {b b' : Backend} (h : b.Serviceable) (hu : b.Untouched b') :
    b'.Serviceable :=
  ⟨hu.faults.trans h.faults, hu.repositories ▸ h.clientele, hu.repositories ▸ h.showable⟩

theorem perform_map {α β : Type} (b : Backend) (g : α → β) (job : Job α) :
    b.perform (g <$> job) = ((b.perform job).1.map g, (b.perform job).2) := by
  rw [map_eq_pure_bind, perform_bind]
  rcases b.perform job with ⟨_ | _, _⟩ <;> rfl

/-- **A command is refused and leaves everything untouched, or has its effect.** -/
theorem perform_cases {b : Backend} (hf : b.faults = .none) (supply : Supply)
    (command : Command) :
    match b.perform (command.job supply) with
    | (.error _, b') => b.Untouched b'
    | (.ok outcome, b') => command.Effect supply b.repositories outcome b'.repositories ∧
        b'.faults = .none := by
  obtain ⟨_, _, hfaults⟩ := perform_eq_eval hf supply command
  obtain ⟨hcourse, _⟩ := perform_course hf supply command
  have hlog := (command.job supply).run.run_log (b := b) (by rw [hf]; rfl)
  change (b.perform _).2.published = _ ∧ (b.perform _).2.deliveries = _ at hlog
  rcases hperform : b.perform (command.job supply) with ⟨e | outcome, b'⟩
  · rw [hperform] at hcourse hfaults hlog
    obtain ⟨hr, hrebuffed⟩ := hcourse.of_error
    rw [hrebuffed.told] at hlog
    exact ⟨hr, hlog.1.trans (List.append_nil _), hlog.2.trans (List.append_nil _),
      hfaults.trans hf.symm⟩
  · rw [hperform] at hcourse hfaults
    exact ⟨hcourse.of_ok.1, hfaults⟩

/-- **The script of a command leaves everything untouched, or has the effect of the command**,
and then what comes of it can be shown. -/
theorem perform_of_command {α : Type} {b : Backend} (hb : b.Serviceable) {supply : Supply}
    {command : Command} {job : Job α} {wrap : α → Outcome}
    (hjob : command.job supply = wrap <$> job) :
    match b.perform job with
    | (.error _, b') => b.Untouched b'
    | (.ok a, b') => command.Effect supply b.repositories (wrap a) b'.repositories ∧
        (wrap a).Showable ∧ b'.Serviceable := by
  have hcases := perform_cases hb.faults supply command
  rw [hjob, perform_map] at hcases
  rcases hperform : b.perform job with ⟨e | a, b'⟩
  · rw [hperform] at hcases
    exact hcases
  · rw [hperform] at hcases
    obtain ⟨heffect, hfaults⟩ := hcases
    obtain ⟨houtcome, hshowable⟩ := heffect.showable hb.showable
    exact ⟨heffect, houtcome, hfaults, heffect.clientele hb.clientele, hshowable⟩

/-- Once everything has settled, everything can still be shown. -/
theorem Serviceable.settle {b : Backend} (h : b.Serviceable) :
    b.settle.Serviceable ∧ b.settle.deliveries = [] := by
  obtain ⟨hclientele, hdeliveries, _⟩ := settle_credits h.faults h.clientele
  have haside := aside_settle h.clientele.keyed
  exact ⟨⟨haside.faults.trans h.faults, hclientele, h.showable.of_eq haside.stores haside.orders⟩,
    hdeliveries⟩

end Backend

namespace Http

/-! ### Views of orders -/

theorem lineView_eq_ok {l : OrderLine} {m : LineSnapshot} (h : l.snapshot = .ok m) :
    ∃ j, lineView l = .ok j := by
  obtain ⟨total, htotal, _⟩ := bind_eq_ok_iff.mp h
  unfold lineView
  rw [htotal]
  exact ⟨_, rfl⟩

/-- **An order whose lines can be told of can be shown.** -/
theorem orderView_eq_ok {o : Order} (h : o.Showable) : ∃ j, orderView o = .ok j := by
  obtain ⟨items, hitems⟩ := h
  have hlines : ∃ js, o.lines.mapM lineView = .ok js := by
    unfold Order.snapshots at hitems
    generalize o.lines = lines at hitems
    induction lines generalizing items with
    | nil => exact ⟨[], rfl⟩
    | cons l lines ih =>
      rw [List.mapM_cons] at hitems
      obtain ⟨m, hm, hitems⟩ := bind_eq_ok_iff.mp hitems
      obtain ⟨rest, hrest, _⟩ := bind_eq_ok_iff.mp hitems
      obtain ⟨j, hj⟩ := lineView_eq_ok hm
      obtain ⟨js, hjs⟩ := ih rest hrest
      exact ⟨j :: js, by rw [List.mapM_cons, hj, ok_bind, hjs]; rfl⟩
  obtain ⟨js, hjs⟩ := hlines
  unfold orderView
  rw [hjs]
  exact ⟨_, rfl⟩

theorem cancellationView_eq_ok {c : Cancellation} (h : c.order.Showable) :
    ∃ j, cancellationView c = .ok j := by
  obtain ⟨j, hj⟩ := orderView_eq_ok h
  unfold cancellationView
  rw [hj]
  exact ⟨_, rfl⟩

end Http

end Storefront
