import Storefront.Proofs.Overlay

/-! # Two phases

A script that works on stores and orders does so in two phases.  First it takes locks, reads
what they stand for, and writes over what it has found; it is *quiet* then, and ends its unit
of work, gives its locks back, publishes and counts.  It makes something new only as the last
thing before it is quiet, and is quiet at once if it does not find what it looks for
(`Script.TwoPhase`).

Such a script makes up its mind from what it holds the locks of.  So whatever others do, it
gets on as it would have done on the past, had nobody else been there (`Follows`), and once it
is quiet it can be added to the past (`Script.TwoPhase.step`).
-/
namespace Storefront

open Repositories

/-- Questions that take no lock, read nothing and keep nothing, and begin no unit of work. -/
def Ask.closing : Ask → Bool
  | .commit _ | .rollback _ | .unlock _ | .publish _ | .count .. => true
  | _ => false

namespace Script

variable {α : Type} {new : Uuid} {held seen : List LockKey}

/-- The script has nothing more to do with what is kept. -/
def Quiet (s : Script α) : Prop := s.Asks (·.closing = true)

/-- What comes of a quiet script is certain, and it leaves everything as it is. -/
theorem Quiet.eval_eq {s : Script α} (hs : s.Quiet) : ∃ a, ∀ r, s.eval r = (a, r) := by
  induction s with
  | done a => exact ⟨a, fun _ => rfl⟩
  | ask q next ih =>
    obtain ⟨hq, hnext⟩ := hs
    cases q with
    | commit unit => exact ih (.ok ()) (hnext _)
    | rollback unit | unlock key | publish events | count counter n => exact ih () (hnext _)
    | _ => cases hq

/-- The script takes locks, reads under them and writes over what it has found, and makes at
most one thing anew, under an identifier of its own, before it is quiet. -/
def TwoPhase (new : Uuid) : List LockKey → List LockKey → Script α → Prop
  | _, _, .done _ => True
  | held, seen, .ask .openUnit next => ∀ u : Nat, (next u).TwoPhase new held seen
  | held, seen, .ask (.begin _) next => (next (.ok ())).TwoPhase new held seen
  | held, seen, .ask (.lock key) next => (next ()).TwoPhase new (key :: held) seen
  | held, seen, .ask (.findStore id) next =>
    .store id ∈ held ∧ (∀ e, (next (.error e)).Quiet) ∧
      ∀ s : Store, s.id = id → (next (.ok s)).TwoPhase new held (.store id :: seen)
  | held, seen, .ask (.findOrder id) next =>
    .order id ∈ held ∧ (∀ e, (next (.error e)).Quiet) ∧
      ∀ o : Order, o.id = id → (next (.ok o)).TwoPhase new held (.order id :: seen)
  | held, seen, .ask (.saveStore s) next =>
    (.store s.id ∈ seen ∧ (next (.ok ())).TwoPhase new held seen) ∨
      (s.id.uuid = new ∧ (next (.ok ())).Quiet)
  | held, seen, .ask (.saveOrder o) next =>
    (.order o.id ∈ seen ∧ (next (.ok ())).TwoPhase new held seen) ∨
      (o.id.uuid = new ∧ (next (.ok ())).Quiet)
  | held, seen, .ask (.findCustomer _) next =>
    (∀ x : Except Error Customer, (next x).TwoPhase new held seen) ∧
      ∀ c d : Customer, c.active = d.active → next (.ok c) = next (.ok d)
  | _, _, .ask (.findCustomerByEmail _) _ => False
  | _, _, .ask (.saveCustomer _) _ => False
  | _, _, .ask (.commit _) next => ∀ a, (next a).Quiet
  | _, _, .ask (.rollback _) next => ∀ a, (next a).Quiet
  | _, _, .ask (.unlock _) next => ∀ a, (next a).Quiet
  | _, _, .ask (.publish _) next => ∀ a, (next a).Quiet
  | _, _, .ask (.count _ _) next => ∀ a, (next a).Quiet

/-- Who is quiet is past both phases. -/
theorem Quiet.twoPhase {s : Script α} (hs : s.Quiet) : s.TwoPhase new held seen := by
  cases s with
  | done a => trivial
  | ask q next =>
    obtain ⟨hq, hnext⟩ := hs
    cases q with
    | commit | rollback | unlock | publish | count => exact hnext
    | _ => cases hq

/-- A script in two phases that begins to close is quiet. -/
theorem TwoPhase.quiet {q : Ask} {next : q.Answer → Script α}
    (h : (ask q next).TwoPhase new held seen) (hq : q.closing = true) : (ask q next).Quiet := by
  cases q with
  | commit | rollback | unlock | publish | count => exact ⟨rfl, h⟩
  | _ => cases hq

end Script

/-- With its hand, what is left of a script gives and leaves what the whole script does,
wherever there is what it has found in the past and the same customers are active. -/
def Follows {α : Type} (A : CustomerId → Option Bool) (past : Repositories)
    (whole rest : Script α) (h : Hand) : Prop :=
  ∀ r : Repositories, (∀ key ∈ h.seen, r.record? key = past.record? key) → r.activity = A →
    whole.eval r = rest.eval (r.keepAll h.kept)

namespace Repositories

variable {r r' : Repositories}

/-- Everything is kept under its own key. -/
def KeyedRecords (r : Repositories) : Prop := ∀ key w, r.record? key = some w → w.key = key

theorem KeyedRecords.keep (h : r.KeyedRecords) (w : Record) : (r.keep w).KeyedRecords := by
  intro key v hv
  rw [record?_keep] at hv
  by_cases he : key = w.key
  · rw [if_pos he] at hv
    cases hv
    cases w <;> exact he.symm
  · rw [if_neg he] at hv
    exact h key v hv

theorem findStore_congr {id : StoreId} (h : r'.record? (.store id) = r.record? (.store id)) :
    r'.findStore id = r.findStore id := by
  have hget : r'.stores.get? id = r.stores.get? id :=
    (Option.map_inj_right fun _ _ => Record.store.inj).mp h
  rw [findStore, findStore, hget]

theorem findOrder_congr {id : OrderId} (h : r'.record? (.order id) = r.record? (.order id)) :
    r'.findOrder id = r.findOrder id := by
  have hget : r'.orders.get? id = r.orders.get? id :=
    (Option.map_inj_right fun _ _ => Record.order.inj).mp h
  rw [findOrder, findOrder, hget]

/-- Whether there is a customer and whether they are active is all that `activity` tells. -/
theorem findCustomer_congr (h : r'.activity = r.activity) (id : CustomerId) :
    (∃ e, r'.findCustomer id = .error e ∧ r.findCustomer id = .error e) ∨
      ∃ c d, r'.findCustomer id = .ok c ∧ r.findCustomer id = .ok d ∧ c.active = d.active := by
  have hid := congrFun h id
  unfold activity at hid
  unfold findCustomer
  cases hc : r'.customers.get? id with
  | none =>
    cases hd : r.customers.get? id with
    | none => exact .inl ⟨_, rfl, rfl⟩
    | some d =>
      rw [hc, hd] at hid
      cases hid
  | some c =>
    cases hd : r.customers.get? id with
    | none =>
      rw [hc, hd] at hid
      cases hid
    | some d =>
      rw [hc, hd] at hid
      exact .inr ⟨c, d, rfl, rfl, Option.some.inj hid⟩

end Repositories

/-! ### One question -/

section Step
variable {α : Type} {A : CustomerId → Option Bool} {new : Uuid} {now past : Repositories}
  {hand : Nat → Hand} {i : Nat} {whole : Script α} {q : Ask} {next : q.Answer → Script α}

/-- **How a task gets on with a question**: it is still under way, with more in hand; or it is
quiet, and what it comes to is what it would have come to in the past. -/
inductive Progress (A : CustomerId → Option Bool) (new : Uuid) (now past : Repositories)
    (hand : Nat → Hand) (i : Nat) (whole : Script α) (q : Ask) (next : q.Answer → Script α) : Prop
  | onward (h : Hand)
    (overlay : Overlay (q.reply now).2 past (Function.update hand i h))
    (discipline : (next (q.reply now).1).TwoPhase new h.held h.seen)
    (follows : Follows A past whole (next (q.reply now).1) h)
    (held : ∀ key ∈ h.held, key ∈ (hand i).held ∨ q = .lock key)
  | ending (made : List Record)
    (quiet : (next (q.reply now).1).Quiet)
    (unmade : ∀ w ∈ made, now.record? w.key = none)
    (now_eq : (q.reply now).2 = now.keepAll made)
    (eval_eq : whole.eval past =
      (next (q.reply now).1).eval ((past.keepAll (hand i).kept).keepAll made))

namespace Progress

variable {key : LockKey} {w : Record}

/-- A lock is taken. -/
theorem of_lock (hov : Overlay now past hand)
    (hfollows : Follows A past whole (.ask q next) (hand i)) (hq : q = .lock key)
    (hfree : ∀ j ≠ i, key ∉ (hand j).held)
    (hreply : ∀ r, (q.reply r).1 = (q.reply now).1 ∧ (q.reply r).2 = r)
    (hnext : (next (q.reply now).1).TwoPhase new (key :: (hand i).held) (hand i).seen) :
    Progress A new now past hand i whole q next := by
  refine .onward ((hand i).hold key) ?_ hnext (fun r hr hA => ?_) fun k hk => ?_
  · rw [(hreply now).2]
    exact hov.lock hfree
  · rw [hfollows r hr hA, Script.eval_ask, (hreply _).1, (hreply _).2]
    rfl
  · rcases List.mem_cons.mp hk with rfl | hk
    · exact .inr hq
    · exact .inl hk

/-- Nothing is found under a key whose lock the task holds. -/
theorem of_missing (hov : Overlay now past hand)
    (hfollows : Follows A past whole (.ask q next) (hand i)) (hpast : past.activity = A)
    (hheld : key ∈ (hand i).held) (hreply : ∀ r, (q.reply r).2 = r)
    (hcongr : ∀ r r', r'.record? key = r.record? key → (q.reply r').1 = (q.reply r).1)
    (hnext : (next (q.reply now).1).Quiet) : Progress A new now past hand i whole q next := by
  -- the lock tells that nothing was found in the past, either
  refine .ending [] hnext (fun w hw => absurd hw List.not_mem_nil) (hreply now) ?_
  have hsame := hcongr _ _ ((hov.fits i).held_eq key hheld)
  rw [hfollows past (fun _ _ => rfl) hpast, Script.eval_ask, hreply, hsame]
  rfl

/-- Something is found under a key whose lock the task holds. -/
theorem of_found (hov : Overlay now past hand)
    (hfollows : Follows A past whole (.ask q next) (hand i)) (hheld : key ∈ (hand i).held)
    (hsome : now.record? key ≠ none) (hreply : ∀ r, (q.reply r).2 = r)
    (hcongr : ∀ r r', r'.record? key = r.record? key → (q.reply r').1 = (q.reply r).1)
    (hnext : (next (q.reply now).1).TwoPhase new (hand i).held (key :: (hand i).seen)) :
    Progress A new now past hand i whole q next := by
  refine .onward ((hand i).see key) ?_ hnext (fun r hr hA => ?_) fun k hk => .inl hk
  · rw [hreply]
    exact hov.see hheld hsome
  · -- there is the same under the key as in the past, and in the past as there is now
    have hkey : (r.keepAll (hand i).kept).record? key = now.record? key := by
      rw [(hov.fits i).held_eq key hheld]
      exact record?_keepAll_congr (hr key (List.mem_cons_self ..)) _
    rw [hfollows r (fun k hk => hr k (List.mem_cons_of_mem _ hk)) hA, Script.eval_ask, hreply,
      hcongr _ _ hkey]
    rfl

/-- A record is written over. -/
theorem of_overwrite (hov : Overlay now past hand)
    (hfollows : Follows A past whole (.ask q next) (hand i)) (hseen : w.key ∈ (hand i).seen)
    (hreply : ∀ r, (q.reply r).1 = (q.reply now).1 ∧ (q.reply r).2 = r.keep w)
    (hnext : (next (q.reply now).1).TwoPhase new (hand i).held (hand i).seen) :
    Progress A new now past hand i whole q next := by
  refine .onward ((hand i).keep w) ?_ hnext (fun r hr hA => ?_) fun k hk => .inl hk
  · rw [(hreply now).2]
    exact hov.write hseen
  · show _ = (next (q.reply now).1).eval (r.keepAll ((hand i).kept ++ [w]))
    rw [hfollows r hr hA, Script.eval_ask, (hreply _).1, (hreply _).2, keepAll_snoc]

/-- A record is made under a key that there was nothing under. -/
theorem of_make (hfollows : Follows A past whole (.ask q next) (hand i))
    (hpast : past.activity = A) (hnone : now.record? w.key = none)
    (hreply : ∀ r, (q.reply r).1 = (q.reply now).1 ∧ (q.reply r).2 = r.keep w)
    (hnext : (next (q.reply now).1).Quiet) : Progress A new now past hand i whole q next := by
  refine .ending [w] hnext (fun v hv => ?_) (hreply now).2 ?_
  · rw [List.mem_singleton.mp hv]
    exact hnone
  · rw [hfollows past (fun _ _ => rfl) hpast, Script.eval_ask, (hreply _).1, (hreply _).2]
    rfl

/-- A question that changes nothing, and is answered in the same way in every place like the
past. -/
theorem of_same (hov : Overlay now past hand)
    (hfollows : Follows A past whole (.ask q next) (hand i)) (hnow : (q.reply now).2 = now)
    (hsame : ∀ r : Repositories, r.activity = A →
      (Script.ask q next).eval r = (next (q.reply now).1).eval r)
    (hnext : (next (q.reply now).1).TwoPhase new (hand i).held (hand i).seen) :
    Progress A new now past hand i whole q next := by
  refine .onward (hand i) ?_ hnext (fun r hr hA => ?_) fun k hk => .inl hk
  · rw [hnow, Function.update_eq_self]
    exact hov
  · rw [hfollows r hr hA, hsame _ ((activity_keepAll ..).trans hA)]

end Progress

/-- **A script in two phases makes progress with every question** but those that close it, as
long as locks are granted to one task at a time. -/
theorem Script.TwoPhase.step (h : (Script.ask q next).TwoPhase new (hand i).held (hand i).seen)
    (hov : Overlay now past hand) (hfollows : Follows A past whole (.ask q next) (hand i))
    (hkeyed : now.KeyedRecords) (hnow : now.activity = A) (hpast : past.activity = A)
    (hnew : now.record? (.store ⟨new⟩) = none ∧ now.record? (.order ⟨new⟩) = none)
    (hlock : ∀ key, q = .lock key → ∀ j ≠ i, key ∉ (hand j).held)
    (hunits : q.ofUnits = false) (hclosing : q.closing = false) :
    Progress A new now past hand i whole q next := by
  cases q with
  | lock key => exact .of_lock hov hfollows rfl (hlock key rfl) (fun _ => ⟨rfl, rfl⟩) h
  | findStore id =>
    obtain ⟨hheld, hmissing, hfound⟩ := h
    cases hs : now.findStore id with
    | error e =>
      refine .of_missing hov hfollows hpast hheld (fun _ => rfl) (fun _ _ => findStore_congr) ?_
      show (next (now.findStore id)).Quiet
      rw [hs]
      exact hmissing e
    | ok s =>
      have hrecord : now.record? (.store id) = some (.store s) := by
        rw [record?, findStore_eq_ok_iff.mp hs]
        rfl
      refine .of_found hov hfollows hheld (by rw [hrecord]; exact Option.some_ne_none _)
        (fun _ => rfl) (fun _ _ => findStore_congr) ?_
      show (next (now.findStore id)).TwoPhase new _ _
      rw [hs]
      exact hfound s (LockKey.store.inj (hkeyed _ _ hrecord))
  | findOrder id =>
    obtain ⟨hheld, hmissing, hfound⟩ := h
    cases ho : now.findOrder id with
    | error e =>
      refine .of_missing hov hfollows hpast hheld (fun _ => rfl) (fun _ _ => findOrder_congr) ?_
      show (next (now.findOrder id)).Quiet
      rw [ho]
      exact hmissing e
    | ok o =>
      have hrecord : now.record? (.order id) = some (.order o) := by
        rw [record?, findOrder_eq_ok_iff.mp ho]
        rfl
      refine .of_found hov hfollows hheld (by rw [hrecord]; exact Option.some_ne_none _)
        (fun _ => rfl) (fun _ _ => findOrder_congr) ?_
      show (next (now.findOrder id)).TwoPhase new _ _
      rw [ho]
      exact hfound o (LockKey.order.inj (hkeyed _ _ hrecord))
  | saveStore s =>
    rcases h with ⟨hseen, hnext⟩ | ⟨hid, hnext⟩
    · exact .of_overwrite (w := .store s) hov hfollows hseen (fun _ => ⟨rfl, rfl⟩) hnext
    · -- what is made anew is the last that is kept
      have hnone : now.record? (Record.key (.store s)) = none := by
        rw [← hid] at hnew
        exact hnew.1
      exact .of_make hfollows hpast hnone (fun _ => ⟨rfl, rfl⟩) hnext
  | saveOrder o =>
    rcases h with ⟨hseen, hnext⟩ | ⟨hid, hnext⟩
    · exact .of_overwrite (w := .order o) hov hfollows hseen (fun _ => ⟨rfl, rfl⟩) hnext
    · have hnone : now.record? (Record.key (.order o)) = none := by
        rw [← hid] at hnew
        exact hnew.2
      exact .of_make hfollows hpast hnone (fun _ => ⟨rfl, rfl⟩) hnext
  | findCustomer id =>
    refine .of_same hov hfollows rfl (fun r hr => ?_) (h.1 _)
    show (next (r.findCustomer id)).eval r = (next (now.findCustomer id)).eval r
    -- all that is asked of a customer is whether they are active
    rcases findCustomer_congr (hr.trans hnow.symm) id with ⟨e, hr, hn⟩ | ⟨c, d, hr, hn, ha⟩
    · rw [hr, hn]
    · rw [hr, hn, h.2 c d ha]
  | findCustomerByEmail | saveCustomer => exact h.elim
  | openUnit | begin => cases hunits
  | commit | rollback | unlock | publish | count => cases hclosing

end Step

end Storefront
