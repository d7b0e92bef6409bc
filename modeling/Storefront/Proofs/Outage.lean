import Storefront.Proofs.Outcomes
import Storefront.Proofs.Soundness

/-! # Writing that fails

A plan says of every question of a script whether stores and orders can be written just then,
in terms of the switches that make writing fail.  `Script.runUnder` runs a script under a plan;
if the plan is the same for every question, this is running it with the switches on
(`Script.runUnder_const`).  Whatever the plan is, an orderly script comes to an end that
`Script.Ensures` knows of, and leaves behind no unit of work that is under way
(`Script.Ensures.runUnder`).
-/
namespace Storefront

/-- Which writes fail. -/
structure Outage where
  stores : Bool := false
  orders : Bool := false

namespace Outage

/-- No write fails. -/
def none : Outage := {}

/-- Whether some writes fail. -/
def isAny (o : Outage) : Bool := o.stores || o.orders

/-- The switches that make these writes fail. -/
def faults (o : Outage) : Faults := { saveStores := o.stores, saveOrders := o.orders }

end Outage

namespace Backend

/-- The answer to a question that is asked during an outage, which is over then. -/
def answerUnder (b : Backend) (o : Outage) (q : Ask) : q.Answer × Backend :=
  let (a, b) := { b with faults := o.faults }.answer q
  (a, { b with faults := .none })

end Backend

namespace Script

variable {α : Type}

/-- Runs a script under a plan, which has an outage for every question. -/
def runUnder : Script α → (Nat → Outage) → Backend → α × Backend
  | done a, _, b => (a, b)
  | ask q next, plan, b =>
    (next (b.answerUnder (plan 0) q).1).runUnder (fun n => plan (n + 1))
      (b.answerUnder (plan 0) q).2

/-- The questions that a script asks under a plan. -/
def askedUnder : Script α → (Nat → Outage) → Backend → List Ask
  | done _, _, _ => []
  | ask q next, plan, b =>
    q :: (next (b.answerUnder (plan 0) q).1).askedUnder (fun n => plan (n + 1))
      (b.answerUnder (plan 0) q).2

/-- The questions that a script asks. -/
def asked : Script α → Backend → List Ask
  | done _, _ => []
  | ask q next, b => q :: (next (b.answer q).1).asked (b.answer q).2

end Script

/-! ### What questions write -/

/-- What a question can do to what is kept: nothing, or it keeps the one thing that it is about. -/
inductive Ask.Writes (r : Repositories) : Ask → Repositories → Prop where
  | nothing {q} : Writes r q r
  | store {s} : Writes r (.saveStore s) (r.saveStore s)
  | order {o} : Writes r (.saveOrder o) (r.saveOrder o)
  | customer {c} :
      Writes r (.saveCustomer c) { r with customers := r.customers.insert c.id c.settled }

theorem Backend.answer_writes (b : Backend) (q : Ask) :
    q.Writes b.repositories (b.answer q).2.repositories := by
  have hsave : ∀ (q : Ask) (fault : Bool) (f : Repositories → Except Error Repositories),
      (∀ r, f b.repositories = .ok r → q.Writes b.repositories r) →
        q.Writes b.repositories (b.save fault f).2.repositories := by
    intro q fault f hf
    rcases b.save_frame fault f with h | ⟨r, hr, h⟩
    · rw [h]
      exact .nothing
    · rw [h]
      exact hf r hr
  have hchange : ∀ (q : Ask) (unit : Nat) (f : UnitOfWork → Except Error UnitOfWork),
      q.Writes b.repositories (b.changeUnit unit f).2.repositories := by
    intro q unit f
    rcases b.changeUnit_frame unit f with h | ⟨u, h⟩
    · rw [h]
      exact .nothing
    · rw [h]
      exact .nothing
  cases q with
  | saveStore s => exact hsave _ _ _ (by rintro _ ⟨⟩; exact .store)
  | saveOrder o => exact hsave _ _ _ (by rintro _ ⟨⟩; exact .order)
  | saveCustomer c =>
    refine hsave _ _ _ fun r hr => ?_
    rw [Repositories.saveCustomer_eq_ok hr]
    exact .customer
  | begin unit | commit unit => exact hchange _ unit _
  | publish events =>
    show Ask.Writes _ _ (b.publish events).repositories
    rw [(publish_fields b events).1]
    exact .nothing
  | _ => exact .nothing

namespace Script

variable {α : Type} {b : Backend}

/-- **A script under a plan that never changes** does what it does with the switches on. -/
theorem runUnder_const (s : Script α) (o : Outage) (hf : b.faults = .none) :
    s.runUnder (fun _ => o) b =
        ((s.run { b with faults := o.faults }).1,
          { (s.run { b with faults := o.faults }).2 with faults := .none }) ∧
      s.askedUnder (fun _ => o) b = s.asked { b with faults := o.faults } := by
  induction s generalizing b with
  | done a =>
    obtain ⟨r, units, published, deliveries, metrics, faults⟩ := b
    subst hf
    exact ⟨rfl, rfl⟩
  | ask q next ih =>
    have hswitched : { ({ b with faults := o.faults }.answer q).2 with faults := o.faults } =
        ({ b with faults := o.faults }.answer q).2 := by
      have hsame := Backend.faults_answer (b := { b with faults := o.faults }) q
      generalize ({ b with faults := o.faults }.answer q).2 = b' at hsame ⊢
      obtain ⟨r, units, published, deliveries, metrics, faults⟩ := b'
      rw [show faults = o.faults from hsame]
    obtain ⟨hrun, hasked⟩ := ih ({ b with faults := o.faults }.answer q).1
      (b := { ({ b with faults := o.faults }.answer q).2 with faults := .none }) rfl
    rw [hswitched] at hrun hasked
    exact ⟨hrun, congrArg (q :: ·) hasked⟩

/-- **Under a plan without outages, a script does what it does.** -/
theorem runUnder_none (s : Script α) (hf : b.faults = .none) :
    s.runUnder (fun _ => .none) b = ((s.run b).1, { (s.run b).2 with faults := .none }) ∧
      s.askedUnder (fun _ => .none) b = s.asked b := by
  have h := s.runUnder_const .none hf
  have hb : { b with faults := Outage.none.faults } = b := by
    obtain ⟨r, units, published, deliveries, metrics, faults⟩ := b
    rw [show faults = .none from hf]
    rfl
  rwa [hb] at h

end Script

/-! ### What units come to -/

namespace UnitStage

/-- What has become of some units at a stage: there is at most one more of them. -/
def Extends (before units : List UnitOfWork) : UnitStage → Prop
  | unopened => units = before
  | opened unit => unit = before.length ∧ units = before ++ [⟨false⟩]
  | begun unit => unit = before.length ∧ units = before ++ [⟨true⟩]
  | ended => units = before ++ [⟨false⟩]

/-- Some units are as before, or there is one more of them, which is not under way. -/
def Ended (before units : List UnitOfWork) : Prop :=
  units = before ∨ units = before ++ [⟨false⟩]

theorem Extends.ended {before units : List UnitOfWork} {stage : UnitStage}
    (h : stage.Extends before units) (hr : stage.AtRest) : Ended before units := by
  cases stage with
  | unopened => exact .inl h
  | ended => exact .inr h
  | opened unit | begun unit => exact hr.elim

end UnitStage

/-! ### One question -/

section Step
variable {α : Type} {frail : Bool} {b : Backend} {o : Outage} {q : Ask} {before : List UnitOfWork}

/-- What has nothing to do with units is answered as it can be, and leaves them alone. -/
theorem Backend.answered_of_not_ofUnits (hq : q.ofUnits = false)
    (ho : o.isAny = true → frail = true) (unit : Nat) :
    q.Answered frail unit b.repositories (b.answerUnder o q).1
        (b.answerUnder o q).2.repositories ∧
      (b.answerUnder o q).2.units = b.units := by
  obtain ⟨r, units, published, deliveries, metrics, faults⟩ := b
  obtain ⟨stores, orders⟩ := o
  cases q with
  | openUnit | begin | commit | rollback => cases hq
  | saveStore s =>
    cases stores with
    | true => exact ⟨.storeRefused (ho rfl), rfl⟩
    | false => exact ⟨.reply (q := .saveStore s) Ask.noConfusion, rfl⟩
  | saveOrder o =>
    cases orders with
    | true => exact ⟨.orderRefused (ho (Bool.or_true stores)), rfl⟩
    | false => exact ⟨.reply (q := .saveOrder o) Ask.noConfusion, rfl⟩
  | saveCustomer c =>
    have hreply : Ask.Answered frail unit r (.saveCustomer c) _ _ := .reply Ask.noConfusion
    simp only [Ask.reply] at hreply
    simp only [answerUnder, answer, save, Outage.faults]
    cases hc : r.saveCustomer c with
    | ok r' =>
      rw [hc] at hreply
      exact ⟨hreply, rfl⟩
    | error e =>
      rw [hc] at hreply
      exact ⟨hreply, rfl⟩
  | publish events =>
    obtain ⟨hr, hu, _⟩ := publish_fields
      ⟨r, units, published, deliveries, metrics, (⟨stores, orders⟩ : Outage).faults⟩ events
    refine ⟨?_, hu⟩
    show Ask.Answered frail unit r (.publish events) () (Backend.publish _ events).repositories
    rw [hr]
    exact .reply (q := .publish events) Ask.noConfusion
  | lock key => exact ⟨.reply (q := .lock key) Ask.noConfusion, rfl⟩
  | unlock key => exact ⟨.reply (q := .unlock key) Ask.noConfusion, rfl⟩
  | findStore id => exact ⟨.reply (q := .findStore id) Ask.noConfusion, rfl⟩
  | findOrder id => exact ⟨.reply (q := .findOrder id) Ask.noConfusion, rfl⟩
  | findCustomer id => exact ⟨.reply (q := .findCustomer id) Ask.noConfusion, rfl⟩
  | findCustomerByEmail email => exact ⟨.reply (q := .findCustomerByEmail email) Ask.noConfusion, rfl⟩
  | count counter n => exact ⟨.reply (q := .count counter n) Ask.noConfusion, rfl⟩

/-- **How an orderly script gets on with a question during an outage**: the answer is one that
it can get, and its unit goes one stage on if the question is about the unit. -/
theorem Script.Orderly.stepUnder {next : q.Answer → Script α} {stage : UnitStage}
    (hs : (ask q next).Orderly stage) (hu : stage.Extends before b.units)
    (ho : o.isAny = true → frail = true) :
    q.Answered frail before.length b.repositories (b.answerUnder o q).1
        (b.answerUnder o q).2.repositories ∧
      ∃ stage', (next (b.answerUnder o q).1).Orderly stage' ∧
        stage'.Extends before (b.answerUnder o q).2.units := by
  by_cases hq : q.ofUnits = false
  · obtain ⟨hanswer, hunits⟩ := Backend.answered_of_not_ofUnits (b := b) hq ho before.length
    refine ⟨hanswer, stage, (orderly_ask_iff hq).mp hs _, ?_⟩
    rw [hunits]
    exact hu
  · obtain ⟨r, units, published, deliveries, metrics, faults⟩ := b
    cases q with
    | openUnit =>
      obtain ⟨rfl, _, hnext⟩ := hs
      obtain rfl : units = before := hu
      exact ⟨.handed, .opened units.length, hnext _, rfl, rfl⟩
    | begin unit =>
      obtain ⟨rfl, hnext⟩ := hs
      obtain ⟨rfl, rfl⟩ := hu
      unfold Backend.answerUnder
      rw [Backend.answer_begin]
      · exact ⟨.reply (q := .begin before.length) Ask.noConfusion, .begun before.length, hnext, rfl,
          by simp⟩
      · simp
    | commit unit =>
      obtain ⟨rfl, hnext⟩ := hs
      obtain ⟨rfl, rfl⟩ := hu
      unfold Backend.answerUnder
      rw [Backend.answer_commit]
      · exact ⟨.reply (q := .commit before.length) Ask.noConfusion, .ended, hnext,
          by simp [UnitStage.Extends]⟩
      · simp
    | rollback unit =>
      obtain ⟨rfl, hnext⟩ := hs
      obtain ⟨rfl, rfl⟩ := hu
      refine ⟨.reply (q := .rollback before.length) Ask.noConfusion, .ended, hnext, ?_⟩
      show (before ++ [(⟨true⟩ : UnitOfWork)]).modify before.length UnitOfWork.rollback =
        before ++ [⟨false⟩]
      rw [List.modify_eq_take_cons_drop (by simp)]
      simp [UnitOfWork.rollback]
    | _ => exact absurd rfl hq

end Step

/-! ### The whole script -/

namespace Script

variable {α : Type} {frail : Bool} {b : Backend} {before : List UnitOfWork} {s : Script α}
  {P : List Ask → α → Repositories → Prop}

/-- **Whatever the plan is, an orderly script comes to an end that is as it should be**, and its
unit of work has been ended. -/
theorem Ensures.runUnder_stage {stage : UnitStage} {earlier : List Ask}
    (h : s.Ensures frail before.length P earlier b.repositories) (hs : s.Orderly stage)
    (hf : b.faults = .none) (hu : stage.Extends before b.units) (plan : Nat → Outage)
    (hplan : ∀ n, (plan n).isAny = true → frail = true) :
    P (earlier ++ s.askedUnder plan b) (s.runUnder plan b).1
        (s.runUnder plan b).2.repositories ∧
      UnitStage.Ended before (s.runUnder plan b).2.units ∧
        (s.runUnder plan b).2.faults = .none := by
  induction s generalizing stage earlier b plan with
  | done a =>
    refine ⟨?_, hu.ended hs, hf⟩
    rw [askedUnder, List.append_nil]
    exact h
  | ask q next ih =>
    obtain ⟨hanswer, stage', hnext, hu'⟩ := hs.stepUnder hu (hplan 0)
    have hrest := ih _ (h _ _ hanswer) hnext rfl hu' (fun n => plan (n + 1)) fun n =>
      hplan (n + 1)
    rw [List.append_assoc] at hrest
    exact hrest

/-- **Whatever the plan is, an orderly script that has not begun comes to an end that is as it
should be.** -/
theorem Ensures.runUnder (h : s.Ensures frail b.units.length P [] b.repositories)
    (hs : s.Orderly .unopened) (hf : b.faults = .none) (plan : Nat → Outage)
    (hplan : ∀ n, (plan n).isAny = true → frail = true) :
    P (s.askedUnder plan b) (s.runUnder plan b).1 (s.runUnder plan b).2.repositories ∧
      UnitStage.Ended b.units (s.runUnder plan b).2.units ∧
        (s.runUnder plan b).2.faults = .none :=
  Ensures.runUnder_stage h hs hf rfl plan hplan

/-- **With no switch on, an orderly script comes to an end that is as it should be.** -/
theorem Ensures.run (h : s.Ensures false b.units.length P [] b.repositories)
    (hs : s.Orderly .unopened) (hf : b.faults = .none) :
    P (s.asked b) (s.run b).1 (s.run b).2.repositories ∧
      UnitStage.Ended b.units (s.run b).2.units := by
  obtain ⟨hP, hunits, _⟩ := h.runUnder hs hf (fun _ => .none) nofun
  obtain ⟨hrun, hasked⟩ := s.runUnder_none hf
  rw [hrun, hasked] at hP
  rw [hrun] at hunits
  exact ⟨hP, hunits⟩

end Script

/-! ### What is published -/

/-- What a question tells to others. -/
def Ask.told : Ask → List Payload
  | .publish events => events
  | _ => []

/-- The deliveries that an event is sent out with. -/
def Payload.deliveries (p : Payload) : List Delivery :=
  (Listener.subscriptions.handlersOf p.name).map (⟨·, p⟩)

namespace Backend

variable {b : Backend}

theorem publish_log (hf : b.faults.publish = false) (events : List Payload) :
    (b.publish events).published = b.published ++ events ∧
      (b.publish events).deliveries = b.deliveries ++ events.flatMap Payload.deliveries := by
  unfold publish
  rw [if_neg (by rw [hf]; exact Bool.noConfusion)]
  induction events generalizing b with
  | nil => simp
  | cons p events ih =>
    obtain ⟨hp, hd⟩ := ih (b := b.publishOne p) hf
    rw [List.foldl_cons, hp, hd, List.flatMap_cons]
    exact ⟨List.append_assoc .., List.append_assoc ..⟩

/-- A question adds to the log what it tells, and sends it to those who asked for it. -/
theorem answer_log (hf : b.faults.publish = false) (q : Ask) :
    (b.answer q).2.published = b.published ++ q.told ∧
      (b.answer q).2.deliveries = b.deliveries ++ q.told.flatMap Payload.deliveries := by
  have hsave : ∀ fault f, (b.save fault f).2.published = b.published ∧
      (b.save fault f).2.deliveries = b.deliveries := by
    intro fault f
    rcases b.save_frame fault f with h | ⟨r, _, h⟩
    · rw [h]
      exact ⟨rfl, rfl⟩
    · rw [h]
      exact ⟨rfl, rfl⟩
  have hchange : ∀ unit f, (b.changeUnit unit f).2.published = b.published ∧
      (b.changeUnit unit f).2.deliveries = b.deliveries := by
    intro unit f
    rcases b.changeUnit_frame unit f with h | ⟨u, h⟩
    · rw [h]
      exact ⟨rfl, rfl⟩
    · rw [h]
      exact ⟨rfl, rfl⟩
  cases q with
  | publish events => exact publish_log hf events
  | begin unit | commit unit =>
    obtain ⟨hp, hd⟩ := hchange unit _
    exact ⟨hp.trans (List.append_nil _).symm, hd.trans (List.append_nil _).symm⟩
  | saveStore s | saveOrder s | saveCustomer s =>
    obtain ⟨hp, hd⟩ := hsave _ _
    exact ⟨hp.trans (List.append_nil _).symm, hd.trans (List.append_nil _).symm⟩
  | _ => exact ⟨(List.append_nil _).symm, (List.append_nil _).symm⟩

end Backend

/-- **A script adds to the log what its questions tell**, and nothing else, and sends it to
those who asked for it. -/
theorem Script.run_log {α : Type} (s : Script α) {b : Backend} (hf : b.faults.publish = false) :
    (s.run b).2.published = b.published ++ (s.asked b).flatMap Ask.told ∧
      (s.run b).2.deliveries =
        b.deliveries ++ ((s.asked b).flatMap Ask.told).flatMap Payload.deliveries := by
  induction s generalizing b with
  | done a => simp [run, asked]
  | ask q next ih =>
    have hf' : (b.answer q).2.faults.publish = false := by rw [Backend.faults_answer, hf]
    obtain ⟨hp, hd⟩ := Backend.answer_log hf q
    obtain ⟨hp', hd'⟩ := ih _ hf'
    rw [run, asked, List.flatMap_cons, hp', hd', hp, hd, List.flatMap_append]
    exact ⟨List.append_assoc .., List.append_assoc ..⟩

end Storefront
