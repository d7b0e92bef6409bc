import Storefront.Proofs.Effect

/-! # All that can come of a script

On the way, writing a store or an order may be refused, so that one script can come to many
ends.  `Script.Ensures` says that every end is as it should be: it follows the script from
question to question, through every answer that the question may get, and keeps the questions
that have been asked.  For a job it is computed from left to right by the rules below, one for
each way of putting jobs together; what is left then is a statement about each end.
-/
namespace Storefront

/-- What a question may be answered, and what is kept then: what the repositories alone would
give, but that the unit of work that is handed out is `unit`, and that writes of stores and
orders may be refused if the repositories are frail. -/
inductive Ask.Answered (frail : Bool) (unit : Nat) (r : Repositories) :
    (q : Ask) → q.Answer → Repositories → Prop where
  | handed : Answered frail unit r .openUnit unit r
  | reply {q : Ask} (hq : q ≠ .openUnit) : Answered frail unit r q (q.reply r).1 (q.reply r).2
  | storeRefused {s : Store} (hfrail : frail = true) :
      Answered frail unit r (.saveStore s) (.error Faults.error) r
  | orderRefused {o : Order} (hfrail : frail = true) :
      Answered frail unit r (.saveOrder o) (.error Faults.error) r

/-- The question has one answer: it hands out no unit, and writes no store or order. -/
def Ask.isCertain : Ask → Bool
  | .openUnit | .saveStore _ | .saveOrder _ => false
  | _ => true

namespace Script

variable {α β : Type} {frail : Bool} {unit : Nat} {asked : List Ask} {r : Repositories}

/-- Whatever the answers are, what the script has asked, gives and leaves meets a condition, if
some questions have been asked before. -/
def Ensures (frail : Bool) (unit : Nat) (P : List Ask → α → Repositories → Prop) :
    Script α → List Ask → Repositories → Prop
  | done a, asked, r => P asked a r
  | ask q next, asked, r => ∀ a r', q.Answered frail unit r a r' →
      (next a).Ensures frail unit P (asked ++ [q]) r'

theorem Ensures.mono {P Q : List Ask → α → Repositories → Prop} {s : Script α}
    (h : s.Ensures frail unit P asked r) (hPQ : ∀ asked a r', P asked a r' → Q asked a r') :
    s.Ensures frail unit Q asked r := by
  induction s generalizing asked r with
  | done a => exact hPQ _ _ _ h
  | ask q next ih => exact fun a r' ha => ih a (h a r' ha)

theorem ensures_bind (P : List Ask → β → Repositories → Prop) (s : Script α) (f : α → Script β) :
    (s.bind f).Ensures frail unit P asked r ↔
      s.Ensures frail unit (fun asked a r' => (f a).Ensures frail unit P asked r') asked r := by
  induction s generalizing asked r with
  | done a => exact Iff.rfl
  | ask q next ih => exact forall₃_congr fun a r' _ => ih a

section Questions
variable {P : List Ask → α → Repositories → Prop}

theorem ensures_openUnit {next : Nat → Script α} :
    (ask .openUnit next).Ensures frail unit P asked r ↔
      (next unit).Ensures frail unit P (asked ++ [.openUnit]) r := by
  constructor
  · exact fun h => h _ _ .handed
  · intro h a r' ha
    cases ha with
    | handed => exact h
    | reply hq => exact absurd rfl hq

theorem ensures_saveStore {s : Store} {next : Except Error Unit → Script α} :
    (ask (.saveStore s) next).Ensures frail unit P asked r ↔
      (next (.ok ())).Ensures frail unit P (asked ++ [.saveStore s]) (r.saveStore s) ∧
        (frail = true →
          (next (.error Faults.error)).Ensures frail unit P (asked ++ [.saveStore s]) r) := by
  constructor
  · exact fun h => ⟨h _ _ (.reply Ask.noConfusion), fun hf => h _ _ (.storeRefused hf)⟩
  · rintro ⟨hkept, hrefused⟩ a r' ha
    cases ha with
    | reply => exact hkept
    | storeRefused hf => exact hrefused hf

theorem ensures_saveOrder {o : Order} {next : Except Error Unit → Script α} :
    (ask (.saveOrder o) next).Ensures frail unit P asked r ↔
      (next (.ok ())).Ensures frail unit P (asked ++ [.saveOrder o]) (r.saveOrder o) ∧
        (frail = true →
          (next (.error Faults.error)).Ensures frail unit P (asked ++ [.saveOrder o]) r) := by
  constructor
  · exact fun h => ⟨h _ _ (.reply Ask.noConfusion), fun hf => h _ _ (.orderRefused hf)⟩
  · rintro ⟨hkept, hrefused⟩ a r' ha
    cases ha with
    | reply => exact hkept
    | orderRefused hf => exact hrefused hf

theorem ensures_ask {q : Ask} {next : q.Answer → Script α} (hq : q.isCertain = true) :
    (ask q next).Ensures frail unit P asked r ↔
      (next (q.reply r).1).Ensures frail unit P (asked ++ [q]) (q.reply r).2 := by
  constructor
  · refine fun h => h _ _ (.reply ?_)
    rintro rfl
    cases hq
  · intro h a r' ha
    cases ha with
    | reply => exact h
    | handed | storeRefused | orderRefused => cases hq

end Questions

end Script

/-- Whatever the answers are, what the job has asked, gives and leaves meets a condition, if
some questions have been asked before. -/
def Job.Ensures {α : Type} (frail : Bool) (unit : Nat)
    (P : List Ask → Except Error α → Repositories → Prop) (job : Job α) (asked : List Ask)
    (r : Repositories) : Prop := Script.Ensures frail unit P job.run asked r

/-- The question that publishing some events comes to, which is not asked if there are none. -/
def Ask.publishing (events : List Payload) : List Ask :=
  if events.isEmpty then [] else [.publish events]

namespace Job

variable {α β : Type} {frail : Bool} {unit : Nat} {asked : List Ask} {r : Repositories}
  {P : List Ask → Except Error α → Repositories → Prop}

theorem ensures_pure (a : α) : (pure a : Job α).Ensures frail unit P asked r ↔ P asked (.ok a) r :=
  Iff.rfl

theorem ensures_throw (e : Error) :
    (throw e : Job α).Ensures frail unit P asked r ↔ P asked (.error e) r := Iff.rfl

theorem ensures_liftM_error (x : Except Error α) :
    (liftM x : Job α).Ensures frail unit P asked r ↔ P asked x r := Iff.rfl

theorem ensures_liftM_store (x : Except StoreError α) :
    (liftM x : Job α).Ensures frail unit P asked r ↔ P asked (x.mapError .store) r := Iff.rfl

theorem ensures_liftM_order (x : Except OrderError α) :
    (liftM x : Job α).Ensures frail unit P asked r ↔ P asked (x.mapError .order) r := Iff.rfl

theorem ensures_liftM_customer (x : Except CustomerError α) :
    (liftM x : Job α).Ensures frail unit P asked r ↔ P asked (x.mapError .customer) r := Iff.rfl

/-- A job goes on only with a value. -/
theorem ensures_bind {P : List Ask → Except Error β → Repositories → Prop} (job : Job α)
    (f : α → Job β) :
    (job >>= f).Ensures frail unit P asked r ↔
      job.Ensures frail unit (fun asked x r' =>
        match x with
        | .ok a => (f a).Ensures frail unit P asked r'
        | .error e => P asked (.error e) r') asked r := by
  rw [Ensures, run_bind, Script.ensures_bind]
  constructor
  · refine fun h => h.mono fun asked x r' hx => ?_
    cases x <;> exact hx
  · refine fun h => Script.Ensures.mono h fun asked x r' hx => ?_
    cases x <;> exact hx

theorem ensures_map {P : List Ask → Except Error β → Repositories → Prop} (g : α → β)
    (job : Job α) :
    (g <$> job).Ensures frail unit P asked r ↔
      job.Ensures frail unit (fun asked x r' => P asked (x.map g) r') asked r := by
  rw [map_eq_pure_bind, ensures_bind]
  constructor
  · refine fun h => Script.Ensures.mono h fun asked x r' hx => ?_
    cases x <;> exact hx
  · refine fun h => Script.Ensures.mono h fun asked x r' hx => ?_
    cases x <;> exact hx

theorem ensures_findStore {P : List Ask → Except Error Store → Repositories → Prop}
    (id : StoreId) :
    (findStore id).Ensures frail unit P asked r ↔
      P (asked ++ [.findStore id]) (r.findStore id) r :=
  Script.ensures_ask rfl

theorem ensures_findOrder {P : List Ask → Except Error Order → Repositories → Prop}
    (id : OrderId) :
    (findOrder id).Ensures frail unit P asked r ↔
      P (asked ++ [.findOrder id]) (r.findOrder id) r :=
  Script.ensures_ask rfl

theorem ensures_findCustomer {P : List Ask → Except Error Customer → Repositories → Prop}
    (id : CustomerId) :
    (findCustomer id).Ensures frail unit P asked r ↔
      P (asked ++ [.findCustomer id]) (r.findCustomer id) r :=
  Script.ensures_ask rfl

theorem ensures_findCustomerByEmail
    {P : List Ask → Except Error Customer → Repositories → Prop} (email : Email) :
    (findCustomerByEmail email).Ensures frail unit P asked r ↔
      P (asked ++ [.findCustomerByEmail email]) (r.findCustomerByEmail email) r :=
  Script.ensures_ask rfl

section Writes
variable {P : List Ask → Except Error Unit → Repositories → Prop}

theorem ensures_saveStore (s : Store) :
    (saveStore s).Ensures frail unit P asked r ↔
      P (asked ++ [.saveStore s]) (.ok ()) (r.saveStore s) ∧
        (frail = true → P (asked ++ [.saveStore s]) (.error Faults.error) r) :=
  Script.ensures_saveStore

theorem ensures_saveOrder (o : Order) :
    (saveOrder o).Ensures frail unit P asked r ↔
      P (asked ++ [.saveOrder o]) (.ok ()) (r.saveOrder o) ∧
        (frail = true → P (asked ++ [.saveOrder o]) (.error Faults.error) r) :=
  Script.ensures_saveOrder

theorem ensures_saveCustomer (c : Customer) :
    (saveCustomer c).Ensures frail unit P asked r ↔
      match r.saveCustomer c with
      | .ok r' => P (asked ++ [.saveCustomer c]) (.ok ()) r'
      | .error e => P (asked ++ [.saveCustomer c]) (.error e) r := by
  refine (Script.ensures_ask rfl).trans ?_
  simp only [Ask.reply]
  cases r.saveCustomer c <;> exact Iff.rfl

theorem ensures_count (c : Counter) (n : Nat) :
    (perform (.count c n)).Ensures frail unit P asked r ↔ P (asked ++ [.count c n]) (.ok ()) r :=
  Script.ensures_ask rfl

theorem ensures_countOne (c : Counter) :
    (countOne c).Ensures frail unit P asked r ↔ P (asked ++ [.count c 1]) (.ok ()) r :=
  ensures_count c 1

theorem ensures_publish (events : List Payload) :
    (publish events).Ensures frail unit P asked r ↔
      P (asked ++ Ask.publishing events) (.ok ()) r := by
  unfold publish Ask.publishing
  split
  · rw [List.append_nil]
    exact Iff.rfl
  · exact Script.ensures_ask rfl

end Writes

theorem ensures_attempt {P : List Ask → Except Error (Except Error α) → Repositories → Prop}
    (job : Job α) :
    job.attempt.Ensures frail unit P asked r ↔
      job.Ensures frail unit (fun asked x r' => P asked (.ok x) r') asked r :=
  Script.ensures_bind P job.run fun x => .done (.ok x)

theorem ensures_andThen (job : Job β) (k : Except Error β → Script (Except Error α)) :
    (job.andThen k).Ensures frail unit P asked r ↔
      job.Ensures frail unit (fun asked x r' => (k x).Ensures frail unit P asked r') asked r :=
  Script.ensures_bind P job.run k

theorem ensures_withLock (key : LockKey) (job : Job α) :
    (withLock key job).Ensures frail unit P asked r ↔
      job.Ensures frail unit (fun asked x r' => P (asked ++ [.unlock key]) x r')
        (asked ++ [.lock key]) r := by
  rw [Ensures, ← andThen_done, andThen_withLock]
  refine (Script.ensures_ask rfl).trans ?_
  refine (ensures_andThen job _).trans ?_
  constructor
  · refine fun h => Script.Ensures.mono h fun asked x r' hx => ?_
    exact (Script.ensures_ask (q := .unlock key) rfl).mp hx
  · refine fun h => Script.Ensures.mono h fun asked x r' hx => ?_
    exact (Script.ensures_ask (q := .unlock key) rfl).mpr hx

/-- A job in a unit of its own is followed by a commit or by a rollback. -/
theorem ensures_inUnit {P : List Ask → Except Error (Except Error α) → Repositories → Prop}
    (job : Job α) :
    (inUnit job).Ensures frail unit P asked r ↔
      job.Ensures frail unit (fun asked x r' =>
        match x with
        | .ok a => P (asked ++ [.commit unit]) (.ok (.ok a)) r'
        | .error e => P (asked ++ [.rollback unit]) (.ok (.error e)) r')
        (asked ++ [.openUnit, .begin unit]) r := by
  rw [Ensures, ← andThen_done, andThen_inUnit]
  refine Script.ensures_openUnit.trans ?_
  refine (Script.ensures_ask rfl).trans ?_
  rw [List.append_assoc]
  refine (ensures_andThen job _).trans ?_
  constructor
  · refine fun h => Script.Ensures.mono h fun asked x r' hx => ?_
    cases x with
    | ok a => exact (Script.ensures_ask rfl).mp hx
    | error e => exact (Script.ensures_ask rfl).mp hx
  · refine fun h => Script.Ensures.mono h fun asked x r' hx => ?_
    cases x with
    | ok a => exact (Script.ensures_ask rfl).mpr hx
    | error e => exact (Script.ensures_ask rfl).mpr hx

theorem ensures_committed (job : Job α) :
    (committed job).Ensures frail unit P asked r ↔
      job.Ensures frail unit (fun asked x r' =>
        match x with
        | .ok a => P (asked ++ [.commit unit]) (.ok a) r'
        | .error e => P (asked ++ [.rollback unit]) (.error e) r')
        (asked ++ [.openUnit, .begin unit]) r := by
  rw [committed, ensures_bind, ensures_inUnit]
  constructor
  · refine fun h => Script.Ensures.mono h fun asked x r' hx => ?_
    cases x <;> exact hx
  · refine fun h => Script.Ensures.mono h fun asked x r' hx => ?_
    cases x <;> exact hx

end Job

end Storefront
