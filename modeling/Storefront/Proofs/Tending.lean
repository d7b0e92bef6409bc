import Storefront.Proofs.Custody
import Storefront.Proofs.Outage

/-! # Tending orders

When a script that tends orders asks a question, each order stays as it is, comes in as confirmed,
or moves along one edge on the terms that it has (`Order.Becomes`), and every order is still told
of as confirmed at most once.  This is so as long as what the script has in hand of orders is so
(`Custody.Knows`), and it leaves in order what other scripts have in hand (`Script.Tends.answer`).

A script changes every order at most once.  So from one command to the next, too, an order moves
along one edge or none (`Backend.execute_orders`).
-/
namespace Storefront

/-- The order that is kept under an identifier. -/
def Backend.order? (b : Backend) (id : OrderId) : Option Order := b.repositories.orders.get? id

/-- **What can become of an order at once**: it stays as it is, comes in as confirmed, or moves
along one edge on the terms that it has. -/
inductive Order.Becomes : Option Order → Option Order → Prop where
  | same {o : Option Order} : Becomes o o
  | placed {o} (h : o.status = .confirmed) : Becomes none (some o)
  | moved {o o'} (hterms : o.SameTerms o') (hedge : o.status.Edge o'.status) :
      Becomes (some o) (some o')

/-- There is no way on for an order that has come to its end. -/
theorem OrderStatus.Edge.not_ended {s next : OrderStatus} (h : s.Edge next) :
    ¬ (s = .completed ∨ s = .cancelled) := by
  rintro (rfl | rfl) <;> cases h

/-- Every order is kept in order, and has been told of as confirmed once or not at all. -/
structure Backend.OrdersKept (b : Backend) : Prop where
  kept : ∀ id o, b.order? id = some o → o.id = id ∧ o.Kept
  told : ∀ id, confirmations id b.published = [] ∨ ∃ (o : Order) (e : OrderEvent),
    b.order? id = some o ∧ e.Confirms o ∧ confirmations id b.published = [e]

/-- As far as orders are concerned, the backends are the same. -/
structure Backend.SameOrders (b b' : Backend) : Prop where
  order : ∀ id, b'.order? id = b.order? id
  told : ∀ id, confirmations id b'.published = confirmations id b.published

/-- What becomes of orders at once, and of what has been told of them as confirmed. -/
structure Backend.Onward (b b' : Backend) : Prop where
  becomes : ∀ id, Order.Becomes (b.order? id) (b'.order? id)
  log : ∀ id, confirmations id b.published <+: confirmations id b'.published

/-- What a script has in hand is so, if it may make an order under an identifier. -/
def Custody.Knows (new : Option OrderId) (b : Backend) : Custody → Prop
  | none => ∀ id, new = some id → b.order? id = .none
  | read o => b.order? o.id = some o
  | made o => new = some o.id ∧ confirmations o.id b.published = [] ∧
      ∃ o', b.order? o.id = some o' ∧ o.SameTerms o'
  | locked _ | ended => True

/-- The script will write no order any more. -/
def Custody.Spent : Custody → Prop
  | made _ | ended => True
  | none | locked _ | read _ => False

/-- Two scripts have no order in hand together: they do not make one under the same identifier,
and do not hold the same lock. -/
structure Custody.Apart (new new' : Option OrderId) (c d : Custody) : Prop where
  new : ∀ id, new = some id → new' ≠ some id
  key : ∀ key, c.key? = some key → d.key? ≠ some key

namespace Backend.SameOrders

variable {b b' : Backend} {new : Option OrderId} {c : Custody}

theorem ordersKept (h : b.SameOrders b') (hb : b.OrdersKept) : b'.OrdersKept := by
  refine ⟨fun id o ho => hb.kept id o (by rw [← h.order]; exact ho), fun id => ?_⟩
  rw [h.told, h.order]
  exact hb.told id

theorem knows (h : b.SameOrders b') (hc : c.Knows new b) : c.Knows new b' := by
  cases c with
  | none => exact fun id hid => (h.order id).trans (hc id hid)
  | locked id | ended => trivial
  | read o => exact (h.order o.id).trans hc
  | made o =>
    obtain ⟨hnew, htold, o', ho', hterms⟩ := hc
    exact ⟨hnew, (h.told o.id).trans htold, o', (h.order o.id).trans ho', hterms⟩

theorem onward (h : b.SameOrders b') : b.Onward b' := by
  refine ⟨fun id => ?_, fun id => ?_⟩
  · rw [h.order]
    exact .same
  · exact ⟨[], (List.append_nil _).trans (h.told id).symm⟩

end Backend.SameOrders

namespace Backend.Onward

variable {b b' b'' : Backend}

theorem refl (b : Backend) : b.Onward b := ⟨fun _ => .same, fun _ => List.prefix_rfl⟩

/-- What becomes of orders becomes of them no matter what does not change them afterwards. -/
theorem before (h : b.Onward b') (h' : b'.Onward b'') (hsame : ∀ id, b''.order? id = b'.order? id) :
    b.Onward b'' := by
  refine ⟨fun id => ?_, fun id => (h.log id).trans (h'.log id)⟩
  rw [hsame]
  exact h.becomes id

/-- What becomes of orders becomes of them no matter what did not change them before. -/
theorem after (h : b.Onward b') (h' : b'.Onward b'') (hsame : ∀ id, b'.order? id = b.order? id) :
    b.Onward b'' := by
  refine ⟨fun id => ?_, fun id => (h.log id).trans (h'.log id)⟩
  rw [← hsame]
  exact h'.becomes id

end Backend.Onward

namespace Backend

variable {b : Backend} {new : Option OrderId}

/-! ### One question -/

/-- A question that leaves orders alone leaves them as they are. -/
theorem sameOrders_answer {q : Ask} (hq : q.LeavesOrders) : b.SameOrders (b.answer q).2 := by
  have hsave : ∀ fault (f : Repositories → Except Error Repositories),
      (∀ r, f b.repositories = .ok r → r.orders = b.repositories.orders) →
        b.SameOrders (b.save fault f).2 := by
    intro fault f hf
    rcases b.save_frame fault f with h | ⟨r, hr, h⟩
    · rw [h]
      exact ⟨fun _ => rfl, fun _ => rfl⟩
    · rw [h]
      exact ⟨fun id => congrArg (·.get? id) (hf r hr), fun _ => rfl⟩
  have hchange : ∀ unit f, b.SameOrders (b.changeUnit unit f).2 := by
    intro unit f
    rcases b.changeUnit_frame unit f with h | ⟨u, h⟩
    · rw [h]
      exact ⟨fun _ => rfl, fun _ => rfl⟩
    · rw [h]
      exact ⟨fun _ => rfl, fun _ => rfl⟩
  cases q with
  | saveOrder o => exact hq.elim
  | saveStore s => exact hsave _ _ (by rintro _ ⟨⟩; rfl)
  | saveCustomer c =>
    exact hsave _ _ fun r hr => by rw [Repositories.saveCustomer_eq_ok hr]
  | begin unit | commit unit => exact hchange unit _
  | publish events =>
    have hrepos := (publish_fields b events).1
    refine ⟨fun id => congrArg (·.orders.get? id) hrepos, fun id => ?_⟩
    show confirmations id (b.publish events).published = _
    by_cases hf : b.faults.publish = true
    · rw [publish, if_pos hf]
    · rw [(publish_log (by simpa using hf) events).1, confirmations_append, hq id,
        List.append_nil]
  | _ => exact ⟨fun _ => rfl, fun _ => rfl⟩

/-- An order is written, or nothing happens. -/
theorem answer_saveOrder (b : Backend) (o : Order) :
    (∃ e, b.answer (.saveOrder o) = (.error e, b)) ∨
      b.answer (.saveOrder o) = (.ok (), { b with repositories := b.repositories.saveOrder o }) := by
  unfold answer save
  cases b.faults.saveOrders with
  | true => exact .inl ⟨_, rfl⟩
  | false => exact .inr rfl

theorem order?_saveOrder (b : Backend) (o : Order) (id : OrderId) :
    order? { b with repositories := b.repositories.saveOrder o } id =
      if id = o.id then some o.settled else b.order? id := Table.get?_insert ..

/-- **An order may be written** if it is new, or on the terms of the one that it replaces. -/
theorem OrdersKept.saveOrder (hb : b.OrdersKept) {o : Order} (hkept : o.settled.Kept)
    (hold : ∀ before, b.order? o.id = some before → before.SameTerms o) :
    OrdersKept { b with repositories := b.repositories.saveOrder o } := by
  constructor
  · intro id o' ho'
    rw [order?_saveOrder] at ho'
    by_cases hid : id = o.id
    · rw [if_pos hid] at ho'
      cases ho'
      exact ⟨hid.symm, hkept⟩
    · rw [if_neg hid] at ho'
      exact hb.kept id o' ho'
  · intro id
    rw [order?_saveOrder]
    rcases hb.told id with hnone | ⟨before, e, hbefore, he, hone⟩
    · exact .inl hnone
    · by_cases hid : id = o.id
      · subst hid
        rw [if_pos rfl]
        have hterms : before.SameTerms o.settled :=
          (hold before hbefore).trans ⟨rfl, rfl, rfl, rfl, rfl, rfl⟩
        exact .inr ⟨_, e, rfl, he.of_sameTerms hterms, hone⟩
      · rw [if_neg hid]
        exact .inr ⟨before, e, hbefore, he, hone⟩

/-- What a script has in hand is not touched by an order that another one makes, or moves. -/
theorem knows_saveOrder {d : Custody} (hd : d.Knows new b) {o : Order}
    (hother : (b.order? o.id = none ∧ new ≠ some o.id) ∨
      ∃ before, b.order? o.id = some before ∧ before.SameTerms o ∧
        d.key? ≠ some (.order o.id)) :
    d.Knows new { b with repositories := b.repositories.saveOrder o } := by
  cases d with
  | none =>
    intro id hid
    have hne : id ≠ o.id := by
      rintro rfl
      rcases hother with ⟨_, hnew⟩ | ⟨before, hbefore, _, _⟩
      · exact hnew hid
      · rw [hd _ hid] at hbefore
        cases hbefore
    rw [order?_saveOrder, if_neg hne]
    exact hd id hid
  | locked id | ended => trivial
  | read kept =>
    have hd : b.order? kept.id = some kept := hd
    have hne : kept.id ≠ o.id := by
      intro he
      rcases hother with ⟨hnone, _⟩ | ⟨_, _, _, hkey⟩
      · rw [← he, hd] at hnone
        cases hnone
      · exact hkey (congrArg (fun id => some (LockKey.order id)) he)
    show order? _ _ = _
    rw [order?_saveOrder, if_neg hne]
    exact hd
  | made mine =>
    obtain ⟨hnew, htold, now, hnow, hterms⟩ := hd
    refine ⟨hnew, htold, ?_⟩
    rw [order?_saveOrder]
    by_cases he : mine.id = o.id
    · -- it is the order that has been made, one edge further on
      rw [if_pos he]
      rcases hother with ⟨hnone, _⟩ | ⟨before, hbefore, hsame, _⟩
      · rw [← he, hnow] at hnone
        cases hnone
      · rw [← he, hnow] at hbefore
        cases hbefore
        exact ⟨_, rfl, (hterms.trans hsame).trans ⟨rfl, rfl, rfl, rfl, rfl, rfl⟩⟩
    · rw [if_neg he]
      exact ⟨now, hnow, hterms⟩

/-- **What becomes of orders when a script asks a question**: the orders that are kept, the
script's own custody `c'`, and what others have in hand. -/
structure Tended (new : Option OrderId) (c : Custody) (q : Ask) (b b' : Backend)
    (c' : Custody) : Prop where
  ordersKept : b'.OrdersKept
  knows : c'.Knows new b'
  onward : b.Onward b'
  /-- Orders change only once. -/
  spent : c'.Spent ∧ ¬ c.Spent ∨ (c.Spent → c'.Spent) ∧ ∀ id, b'.order? id = b.order? id
  /-- A lock for what is in hand has been held before, or has just been taken. -/
  key : ∀ key, c'.key? = some key → q = .lock key ∨ c.key? = some key ∧ q ≠ .unlock key
  others : ∀ new' d, Custody.Apart new new' c d → d.Knows new' b → d.Knows new' b'

/-- A question that leaves orders alone. -/
theorem tended_of_sameOrders {b' : Backend} {q : Ask} {c c' : Custody} (hb : b.OrdersKept)
    (hsame : b.SameOrders b') (hknows : c'.Knows new b') (hspent : c.Spent → c'.Spent)
    (hkey : ∀ key, c'.key? = some key → q = .lock key ∨ c.key? = some key ∧ q ≠ .unlock key) :
    Tended new c q b b' c' :=
  ⟨hsame.ordersKept hb, hknows, hsame.onward, .inr ⟨hspent, hsame.order⟩, hkey,
    fun _ _ _ hd => hsame.knows hd⟩

/-- The order that a script has read under its lock is moved on. -/
theorem tended_move (hb : b.OrdersKept) {o o' : Order} (hread : b.order? o.id = some o)
    (hm : o.Moves o') :
    Tended new (.read o) (.saveOrder o') b
      { b with repositories := b.repositories.saveOrder o' } .ended := by
  have hbefore : b.order? o'.id = some o := by
    rw [hm.terms.id]
    exact hread
  refine ⟨hb.saveOrder hm.kept fun before hb' => ?_, trivial, ⟨fun id => ?_, fun _ =>
    List.prefix_rfl⟩, .inl ⟨trivial, id⟩, nofun, fun new' d ha hd => ?_⟩
  · rw [hbefore] at hb'
    cases hb'
    exact hm.terms
  · rw [order?_saveOrder]
    by_cases hid : id = o'.id
    · rw [if_pos hid, hid, hbefore]
      exact .moved (hm.terms.trans ⟨rfl, rfl, rfl, rfl, rfl, rfl⟩) hm.edge
    · rw [if_neg hid]
      exact .same
  · refine knows_saveOrder hd (.inr ⟨o, hbefore, hm.terms, ha.key _ ?_⟩)
    rw [hm.terms.id]
    rfl

/-- An order is made under an identifier under which there is none. -/
theorem tended_make (hb : b.OrdersKept) {o : Order} (hnew : new = some o.id)
    (hnone : b.order? o.id = none) (hstatus : o.status = .confirmed) (hkept : o.settled.Kept) :
    Tended new .none (.saveOrder o) b { b with repositories := b.repositories.saveOrder o }
      (.made o) := by
  refine ⟨hb.saveOrder hkept fun before hbefore => ?_, ?_, ⟨fun id => ?_, fun _ =>
    List.prefix_rfl⟩, .inl ⟨trivial, id⟩, nofun, fun new' d ha hd =>
      knows_saveOrder hd (.inl ⟨hnone, ha.new _ hnew⟩)⟩
  · rw [hnone] at hbefore
    cases hbefore
  · refine ⟨hnew, ?_, o.settled, ?_, ⟨rfl, rfl, rfl, rfl, rfl, rfl⟩⟩
    · rcases hb.told o.id with hsilent | ⟨before, _, hbefore, _⟩
      · exact hsilent
      · rw [hnone] at hbefore
        cases hbefore
    · rw [order?_saveOrder, if_pos rfl]
  · rw [order?_saveOrder]
    by_cases hid : id = o.id
    · rw [if_pos hid, hid, hnone]
      exact .placed hstatus
    · rw [if_neg hid]
      exact .same

/-- The order that a script has made is told of, unless nothing is published. -/
theorem tended_tell (hb : b.OrdersKept) {o : Order} {events : List Payload}
    (hmade : (Custody.made o).Knows new b) (ht : ConfirmOnce o events) :
    Tended new (.made o) (.publish events) b (b.publish events) .ended := by
  obtain ⟨hnew, hsilent, now, hnow, hterms⟩ := hmade
  obtain ⟨e, he, honce⟩ := ht
  have horder : ∀ id, (b.publish events).order? id = b.order? id := fun id =>
    congrArg (·.orders.get? id) (publish_fields b events).1
  by_cases hf : b.faults.publish = true
  · have hsame : b.SameOrders (b.publish events) := by
      rw [publish, if_pos hf]
      exact ⟨fun _ => rfl, fun _ => rfl⟩
    exact tended_of_sameOrders hb hsame trivial (fun _ => trivial) nofun
  · have hlog : ∀ id, confirmations id (b.publish events).published =
        confirmations id b.published ++ if id = o.id then [e] else [] := by
      intro id
      rw [(publish_log (by simpa using hf) events).1, confirmations_append, honce]
    refine ⟨⟨fun id o' ho' => hb.kept id o' ((horder id).symm.trans ho'), fun id => ?_⟩, trivial,
      ⟨fun id => ?_, fun id => ?_⟩, .inr ⟨fun _ => trivial, horder⟩, nofun, fun new' d ha hd => ?_⟩
    · rw [hlog, horder]
      by_cases hid : id = o.id
      · rw [if_pos hid, hid, hsilent]
        exact .inr ⟨now, e, hnow, he.of_sameTerms hterms, rfl⟩
      · rw [if_neg hid, List.append_nil]
        exact hb.told id
    · rw [horder]
      exact .same
    · rw [hlog]
      exact List.prefix_append ..
    · cases d with
      | none => exact fun id hid => (horder id).trans (hd id hid)
      | locked id | ended => trivial
      | read kept => exact (horder kept.id).trans hd
      | made mine =>
        -- somebody else has made another order
        obtain ⟨hmine, hquiet, other, hother, hsame⟩ := hd
        have hne : mine.id ≠ o.id := fun h => ha.new _ hnew (h ▸ hmine)
        refine ⟨hmine, ?_, other, (horder _).trans hother, hsame⟩
        rw [hlog, if_neg hne, List.append_nil]
        exact hquiet

end Backend

open Backend

variable {α : Type} {b : Backend} {new : Option OrderId} {c : Custody} {q : Ask}
  {next : q.Answer → Script α}

/-- **A script that tends orders goes on to do so** after each question, and has done with the
question what it may. -/
theorem Script.Tends.answer (h : (Script.ask q next).Tends new c) (hb : b.OrdersKept)
    (hc : c.Knows new b) :
    ∃ c', (next (b.answer q).1).Tends new c' ∧ Tended new c q b (b.answer q).2 c' := by
  have hnothing : ∀ {c : Custody} {q : Ask}, ¬ c.Spent → Tended new c q b b .ended := fun hspent =>
    tended_of_sameOrders hb ⟨fun _ => rfl, fun _ => rfl⟩ trivial (fun h => absurd h hspent) nofun
  cases h with
  | @other _ c' _ _ hq hkept hnext =>
    have hsame := sameOrders_answer (b := b) hq
    refine ⟨c', hnext _, ?_⟩
    rcases hkept with rfl | ⟨rfl, hheld⟩
    · exact tended_of_sameOrders hb hsame trivial (fun _ => trivial) nofun
    · exact tended_of_sameOrders hb hsame (hsame.knows hc) id fun key hkey =>
        .inr ⟨hkey, hheld key hkey⟩
  | @lock id next hnext =>
    refine ⟨.locked id, hnext _, tended_of_sameOrders hb ⟨fun _ => rfl, fun _ => rfl⟩ trivial
      nofun ?_⟩
    rintro key ⟨⟩
    exact .inl rfl
  | @find id next he hnext =>
    show ∃ c', (next (b.repositories.findOrder id)).Tends new c' ∧ Tended new _ _ b b c'
    cases ho : b.repositories.findOrder id with
    | error e => exact ⟨.ended, he e, hnothing nofun⟩
    | ok o =>
      have hget : b.order? id = some o := Repositories.findOrder_eq_ok_iff.mp ho
      obtain ⟨hid, hkept⟩ := hb.kept id o hget
      obtain rfl := hid
      refine ⟨.read o, hnext o hkept, tended_of_sameOrders hb ⟨fun _ => rfl, fun _ => rfl⟩ hget
        nofun ?_⟩
      rintro key ⟨⟩
      exact .inr ⟨rfl, nofun⟩
  | @move o o' next hm hnext =>
    refine ⟨.ended, hnext _, ?_⟩
    rcases b.answer_saveOrder o' with ⟨e, hanswer⟩ | hanswer
    · rw [hanswer]
      exact hnothing nofun
    · rw [hanswer]
      exact tended_move hb hc hm
  | @make o next hnew hstatus hkept he hnext =>
    rcases b.answer_saveOrder o with ⟨e, hanswer⟩ | hanswer
    · rw [hanswer]
      exact ⟨.ended, he e, hnothing nofun⟩
    · rw [hanswer]
      exact ⟨.made o, hnext, tended_make hb hnew (hc o.id hnew) hstatus hkept⟩
  | @tell o events next ht hnext => exact ⟨.ended, hnext _, tended_tell hb hc ht⟩

/-! ### Commands one after the other -/

/-- **A script that nobody interrupts** changes every order at most once, and none if it is past
changing any. -/
theorem Script.Tends.run {s : Script α} (h : s.Tends new c) (hb : b.OrdersKept)
    (hc : c.Knows new b) :
    (s.run b).2.OrdersKept ∧ b.Onward (s.run b).2 ∧
      (c.Spent → ∀ id, (s.run b).2.order? id = b.order? id) := by
  induction s generalizing b c with
  | done a => exact ⟨hb, .refl b, fun _ _ => rfl⟩
  | ask q next ih =>
    obtain ⟨c', hnext, ht⟩ := h.answer hb hc
    obtain ⟨hlast, honward, hsame⟩ := ih _ hnext ht.ordersKept ht.knows
    refine ⟨hlast, ?_, fun hspent id => ?_⟩
    · rcases ht.spent with ⟨hspent, _⟩ | ⟨_, horder⟩
      · -- the change has been made, and there is no other
        exact ht.onward.before honward (hsame hspent)
      · exact ht.onward.after honward horder
    · rcases ht.spent with ⟨_, hfresh⟩ | ⟨hstill, horder⟩
      · exact absurd hspent hfresh
      · exact (hsame (hstill hspent) id).trans (horder id)

namespace Backend

/-- Deliveries leave orders as they are. -/
theorem deliverAll_orders (deliveries : List Delivery) {b : Backend} (hb : b.OrdersKept) :
    (b.deliverAll deliveries).OrdersKept ∧ b.Onward (b.deliverAll deliveries) ∧
      ∀ id, (b.deliverAll deliveries).order? id = b.order? id := by
  induction deliveries generalizing b with
  | nil => exact ⟨hb, .refl b, fun _ => rfl⟩
  | cons d rest ih =>
    have htends : Script.Tends .none .ended (Loyalty.deliver d).run :=
      Script.Asks.tends (Loyalty.leaves_deliver d)
    obtain ⟨hone, honward, hsame⟩ := htends.run hb trivial
    obtain ⟨hlast, hrest, hsame'⟩ := ih hone
    exact ⟨hlast, honward.before hrest hsame', fun id => (hsame' id).trans (hsame trivial id)⟩

/-- A command that is carried out with a new identifier changes every order at most once. -/
theorem execute_orders {b : Backend} (hb : b.OrdersKept) {supply : Supply}
    (hnew : b.order? (supply.id .order) = none) (command : Command) :
    (b.execute supply command).2.OrdersKept ∧ b.Onward (b.execute supply command).2 := by
  have htends : Script.Tends (some (supply.id .order)) .none (command.job supply).run :=
    Command.tends command
  obtain ⟨hperform, honward, _⟩ := htends.run (b := b) hb (by rintro id ⟨⟩; exact hnew)
  have hrest : OrdersKept { (b.perform (command.job supply)).2 with deliveries := [] } :=
    ⟨hperform.kept, hperform.told⟩
  obtain ⟨hlast, hsettle, hsame⟩ :=
    deliverAll_orders (b.perform (command.job supply)).2.deliveries hrest
  exact ⟨hlast, honward.before ⟨hsettle.becomes, hsettle.log⟩ hsame⟩

end Backend

end Storefront
