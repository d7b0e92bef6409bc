import Storefront.Service.Command

/-! # What scripts come to

In a backend none of whose switches is on, all that decides what a script gives is what
is kept: units of work can be begun and ended, locks are free, and publishing and
counting are answered with nothing.  `Script.eval` runs a script on the repositories
alone, with exactly these answers.  It is a second reading of scripts, and the one in
which their effects are stated; `Orderly` is what a script has to observe for the two
readings to agree (`Script.run_eq_eval`): it begins and ends one unit of work, its own.
-/
namespace Storefront

/-- The answer to a question as the repositories alone would give it. -/
def Ask.reply (r : Repositories) : (q : Ask) → q.Answer × Repositories
  | .openUnit => (0, r)
  | .begin _ => (.ok (), r)
  | .commit _ => (.ok (), r)
  | .rollback _ => ((), r)
  | .lock _ => ((), r)
  | .unlock _ => ((), r)
  | .findStore id => (r.findStore id, r)
  | .saveStore s => (.ok (), r.saveStore s)
  | .findOrder id => (r.findOrder id, r)
  | .saveOrder o => (.ok (), r.saveOrder o)
  | .findCustomer id => (r.findCustomer id, r)
  | .findCustomerByEmail email => (r.findCustomerByEmail email, r)
  | .saveCustomer c =>
    match r.saveCustomer c with
    | .ok r' => (.ok (), r')
    | .error e => (.error e, r)
  | .publish _ => ((), r)
  | .count .. => ((), r)

namespace Script

variable {α β : Type}

/-- What a script gives on some repositories, and what it leaves in them. -/
def eval : Script α → Repositories → α × Repositories
  | done a, r => (a, r)
  | ask q next, r => (next (q.reply r).1).eval (q.reply r).2

theorem eval_ask (q : Ask) (next : q.Answer → Script α) (r : Repositories) :
    (ask q next).eval r = (next (q.reply r).1).eval (q.reply r).2 := rfl

theorem eval_bind (s : Script α) (f : α → Script β) (r : Repositories) :
    (s.bind f).eval r = (f (s.eval r).1).eval (s.eval r).2 := by
  induction s generalizing r with
  | done a => rfl
  | ask q next ih => exact ih _ _

end Script

namespace Job

variable {α β : Type}

/-- What a job gives on some repositories, and what it leaves in them. -/
def eval (job : Job α) (r : Repositories) : Except Error α × Repositories := Script.eval job.run r

@[simp] theorem eval_pure (a : α) (r : Repositories) : eval (pure a : Job α) r = (.ok a, r) := rfl

@[simp] theorem eval_throw (e : Error) (r : Repositories) :
    eval (throw e : Job α) r = (.error e, r) := rfl

theorem run_bind (job : Job α) (f : α → Job β) :
    (job >>= f).run = Script.bind job.run fun
      | .ok a => (f a).run
      | .error e => .done (.error e) := by
  show Script.bind job.run _ = _
  refine congrArg (Script.bind job.run) (funext fun x => ?_)
  cases x <;> rfl

/-- A job goes on only with a value. -/
theorem eval_bind (job : Job α) (f : α → Job β) (r : Repositories) :
    eval (job >>= f) r =
      match job.eval r with
      | (.ok a, r') => (f a).eval r'
      | (.error e, r') => (.error e, r') := by
  rw [eval, run_bind, Script.eval_bind]
  show _ = match Script.eval job.run r with
    | (.ok a, r') => (f a).eval r'
    | (.error e, r') => (.error e, r')
  rcases Script.eval job.run r with ⟨x, r'⟩
  cases x <;> rfl

theorem eval_map (g : α → β) (job : Job α) (r : Repositories) :
    eval (g <$> job) r = ((job.eval r).1.map g, (job.eval r).2) := by
  rw [map_eq_pure_bind, eval_bind]
  rcases job.eval r with ⟨x, r'⟩
  cases x <;> rfl

@[simp] theorem eval_findStore (id : StoreId) (r : Repositories) :
    (findStore id).eval r = (r.findStore id, r) := rfl

@[simp] theorem eval_saveStore (s : Store) (r : Repositories) :
    (saveStore s).eval r = (.ok (), r.saveStore s) := rfl

@[simp] theorem eval_findOrder (id : OrderId) (r : Repositories) :
    (findOrder id).eval r = (r.findOrder id, r) := rfl

@[simp] theorem eval_saveOrder (o : Order) (r : Repositories) :
    (saveOrder o).eval r = (.ok (), r.saveOrder o) := rfl

@[simp] theorem eval_findCustomer (id : CustomerId) (r : Repositories) :
    (findCustomer id).eval r = (r.findCustomer id, r) := rfl

@[simp] theorem eval_findCustomerByEmail (email : Email) (r : Repositories) :
    (findCustomerByEmail email).eval r = (r.findCustomerByEmail email, r) := rfl

theorem eval_saveCustomer (c : Customer) (r : Repositories) :
    (saveCustomer c).eval r =
      match r.saveCustomer c with
      | .ok r' => (.ok (), r')
      | .error e => (.error e, r) := rfl

@[simp] theorem eval_attempt (job : Job α) (r : Repositories) :
    job.attempt.eval r = (.ok (job.eval r).1, (job.eval r).2) := by
  have h : job.attempt.eval r =
      (Script.bind job.run fun x => .done (Except.ok x : Except Error (Except Error α))).eval r :=
    rfl
  rw [h, Script.eval_bind]
  rfl

/-- Nobody else being there, a lock changes nothing. -/
@[simp] theorem eval_withLock (key : LockKey) (job : Job α) (r : Repositories) :
    (withLock key job).eval r = job.eval r := by
  have h : (withLock key job).eval r =
      (job.attempt >>= fun result => perform (.unlock key) >>= fun _ => ofResult result).eval r :=
    rfl
  rw [h, eval_bind, eval_attempt]
  rfl

@[simp] theorem eval_inUnit (job : Job α) (r : Repositories) :
    (inUnit job).eval r = (.ok (job.eval r).1, (job.eval r).2) := by
  have h : (inUnit job).eval r =
      (job.attempt >>= fun
        | .ok a => (do commit 0; return a : Job α).attempt
        | .error e => do
          let () ← perform (.rollback 0)
          return .error e).eval r := rfl
  rw [h, eval_bind, eval_attempt]
  rcases job.eval r with ⟨x, r'⟩
  cases x <;> rfl

/-- A unit of work changes nothing about what a job comes to. -/
@[simp] theorem eval_committed (job : Job α) (r : Repositories) :
    (committed job).eval r = job.eval r := by
  rw [committed, eval_bind, eval_inUnit]
  rfl

@[simp] theorem eval_publish (events : List Payload) (r : Repositories) :
    (publish events).eval r = (.ok (), r) := by
  unfold publish
  split <;> rfl

@[simp] theorem eval_countOne (c : Counter) (r : Repositories) :
    (countOne c).eval r = (.ok (), r) := rfl

/-! ### One question after the other

`job.andThen k` is the script that does a job and goes on with what comes of it.  Read
from left to right, the equations below turn a job into the tree of its questions.
-/

/-- Does a job and goes on with what comes of it. -/
def andThen (job : Job α) (k : Except Error α → Script β) : Script β := Script.bind job.run k

theorem andThen_done (job : Job α) : job.andThen .done = job.run := Script.bind_done _

theorem andThen_ofResult (x : Except Error α) (k : Except Error α → Script β) :
    (ofResult x).andThen k = k x := rfl

theorem andThen_bind {γ : Type} (job : Job α) (f : α → Job β) (k : Except Error β → Script γ) :
    (job >>= f).andThen k = job.andThen fun
      | .ok a => (f a).andThen k
      | .error e => k (.error e) := by
  rw [andThen, run_bind, Script.bind_assoc]
  refine congrArg (Script.bind job.run) (funext fun x => ?_)
  cases x <;> rfl

theorem andThen_attempt (job : Job α) (k : Except Error (Except Error α) → Script β) :
    job.attempt.andThen k = job.andThen fun x => k (.ok x) := by
  have h : job.attempt.run = Script.bind job.run fun x => .done (.ok x) := rfl
  rw [andThen, h, Script.bind_assoc]
  rfl

theorem andThen_withLock (key : LockKey) (job : Job α) (k : Except Error α → Script β) :
    (withLock key job).andThen k =
      .ask (.lock key) fun _ => job.andThen fun x => .ask (.unlock key) fun _ => k x := by
  have h : (withLock key job).andThen k = .ask (.lock key) fun _ =>
      (job.attempt >>= fun x => perform (.unlock key) >>= fun _ => ofResult x).andThen k := rfl
  rw [h, andThen_bind, andThen_attempt]
  rfl

theorem andThen_inUnit (job : Job α) (k : Except Error (Except Error α) → Script β) :
    (inUnit job).andThen k =
      .ask .openUnit fun u => .ask (.begin u) fun
        | .error e => k (.error e)
        | .ok () => job.andThen fun
          | .error e => .ask (.rollback u) fun _ => k (.ok (.error e))
          | .ok a => .ask (.commit u) fun
            | .error e => k (.ok (.error e))
            | .ok () => k (.ok (.ok a)) := by
  refine congrArg (Script.ask .openUnit) (funext fun u =>
    congrArg (Script.ask (.begin u)) (funext fun x => ?_))
  cases x with
  | error e => rfl
  | ok =>
    refine (andThen_bind job.attempt _ k).trans ?_
    rw [andThen_attempt]
    refine congrArg job.andThen (funext fun x => ?_)
    cases x with
    | error e => rfl
    | ok a =>
      refine congrArg (Script.ask (.commit u)) (funext fun y => ?_)
      cases y <;> rfl

end Job

/-! ### What a script asks for -/

/-- Whether a question has to do with units of work. -/
def Ask.ofUnits : Ask → Bool
  | .openUnit | .begin _ | .commit _ | .rollback _ => true
  | _ => false

/-- Every question that the script can come to ask meets a condition. -/
def Script.Asks {α : Type} (p : Ask → Prop) : Script α → Prop
  | .done _ => True
  | .ask q next => p q ∧ ∀ a, (next a).Asks p

namespace Script

variable {α β : Type} {p q : Ask → Prop}

theorem Asks.bind {s : Script α} {f : α → Script β} (hs : s.Asks p) (hf : ∀ a, (f a).Asks p) :
    (s.bind f).Asks p := by
  induction s with
  | done a => exact hf a
  | ask q next ih => exact ⟨hs.1, fun a => ih a (hs.2 a)⟩

theorem Asks.mono {s : Script α} (hs : s.Asks p) (h : ∀ ask, p ask → q ask) : s.Asks q := by
  induction s with
  | done a => trivial
  | ask ask next ih => exact ⟨h ask hs.1, fun a => ih a (hs.2 a)⟩

end Script

/-- Every question that the job can come to ask meets a condition. -/
def Job.Asks {α : Type} (p : Ask → Prop) (job : Job α) : Prop := Script.Asks p job.run

namespace Job

variable {α β : Type} {p : Ask → Prop}

theorem asks_pure (a : α) : Asks p (pure a : Job α) := trivial

theorem asks_throw (e : Error) : Asks p (throw e : Job α) := trivial

theorem asks_ofResult (x : Except Error α) : Asks p (ofResult x) := trivial

theorem Asks.bind {job : Job α} {f : α → Job β} (hj : Asks p job) (hf : ∀ a, Asks p (f a)) :
    Asks p (job >>= f) :=
  Script.Asks.bind hj fun
    | .ok a => hf a
    | .error _ => trivial

theorem asks_perform {q : Ask} (h : p q) : Asks p (perform q) := ⟨h, fun _ => trivial⟩

theorem asks_findStore {id : StoreId} (h : p (.findStore id)) : Asks p (findStore id) :=
  ⟨h, fun _ => trivial⟩

theorem asks_saveStore {s : Store} (h : p (.saveStore s)) : Asks p (saveStore s) :=
  ⟨h, fun _ => trivial⟩

theorem asks_findOrder {id : OrderId} (h : p (.findOrder id)) : Asks p (findOrder id) :=
  ⟨h, fun _ => trivial⟩

theorem asks_saveOrder {o : Order} (h : p (.saveOrder o)) : Asks p (saveOrder o) :=
  ⟨h, fun _ => trivial⟩

theorem asks_findCustomer {id : CustomerId} (h : p (.findCustomer id)) :
    Asks p (findCustomer id) := ⟨h, fun _ => trivial⟩

theorem asks_findCustomerByEmail {email : Email} (h : p (.findCustomerByEmail email)) :
    Asks p (findCustomerByEmail email) := ⟨h, fun _ => trivial⟩

theorem asks_saveCustomer {c : Customer} (h : p (.saveCustomer c)) : Asks p (saveCustomer c) :=
  ⟨h, fun _ => trivial⟩

theorem asks_countOne {c : Counter} (h : p (.count c 1)) : Asks p (countOne c) :=
  ⟨h, fun _ => trivial⟩

theorem Asks.attempt {job : Job α} (hj : Asks p job) : Asks p job.attempt :=
  Script.Asks.bind hj fun _ => trivial

theorem Asks.withLock {job : Job α} {key : LockKey} (hl : p (.lock key)) (hu : p (.unlock key))
    (hj : Asks p job) : Asks p (job.withLock key) :=
  (asks_perform hl).bind fun _ => hj.attempt.bind fun _ =>
    (asks_perform hu).bind fun _ => asks_ofResult _

theorem asks_publish {events : List Payload} (h : p (.publish events)) :
    Asks p (publish events) := by
  unfold publish
  split
  · exact asks_pure _
  · exact asks_perform h

end Job

/-! ### One unit of work -/

/-- How far a script has come with its unit of work. -/
inductive UnitStage where
  | unopened
  | opened (unit : Nat)
  | begun (unit : Nat)
  | ended

namespace UnitStage

/-- The unit is not under way: it has not been handed out, or it has been ended. -/
def AtRest : UnitStage → Prop
  | unopened | ended => True
  | opened _ | begun _ => False

/-- The unit that is under way. -/
def unit? : UnitStage → Option Nat
  | opened unit | begun unit => some unit
  | unopened | ended => none

/-- At two stages, different units are under way, if any. -/
def Apart (s t : UnitStage) : Prop := ∀ unit, s.unit? = some unit → t.unit? ≠ some unit

theorem Apart.symm {s t : UnitStage} (h : s.Apart t) : t.Apart s := fun unit ht hs => h unit hs ht

/-- The units of a backend are as they should be at a stage. -/
def Holds (units : List UnitOfWork) : UnitStage → Prop
  | unopened | ended => True
  | opened unit => units[unit]? = some ⟨false⟩
  | begun unit => units[unit]? = some ⟨true⟩

end UnitStage

namespace Script

variable {α β : Type}

/-- The script opens one unit of work at most, begins it before anything else is asked of
it, and has ended it when it is done.  Which unit it is given makes no difference. -/
def Orderly : UnitStage → Script α → Prop
  | stage, .done _ => stage.AtRest
  | stage, .ask .openUnit next =>
    stage = .unopened ∧ (∀ u v : Nat, (next u).eval = (next v).eval) ∧
      ∀ u : Nat, (next u).Orderly (.opened u)
  | stage, .ask (.begin unit) next => stage = .opened unit ∧ (next (.ok ())).Orderly (.begun unit)
  | stage, .ask (.commit unit) next => stage = .begun unit ∧ (next (.ok ())).Orderly .ended
  | stage, .ask (.rollback unit) next => stage = .begun unit ∧ (next ()).Orderly .ended
  | stage, .ask (.lock _) next => ∀ a, (next a).Orderly stage
  | stage, .ask (.unlock _) next => ∀ a, (next a).Orderly stage
  | stage, .ask (.findStore _) next => ∀ a, (next a).Orderly stage
  | stage, .ask (.saveStore _) next => ∀ a, (next a).Orderly stage
  | stage, .ask (.findOrder _) next => ∀ a, (next a).Orderly stage
  | stage, .ask (.saveOrder _) next => ∀ a, (next a).Orderly stage
  | stage, .ask (.findCustomer _) next => ∀ a, (next a).Orderly stage
  | stage, .ask (.findCustomerByEmail _) next => ∀ a, (next a).Orderly stage
  | stage, .ask (.saveCustomer _) next => ∀ a, (next a).Orderly stage
  | stage, .ask (.publish _) next => ∀ a, (next a).Orderly stage
  | stage, .ask (.count _ _) next => ∀ a, (next a).Orderly stage

theorem orderly_ask_iff {stage : UnitStage} {q : Ask} {next : q.Answer → Script α}
    (hq : q.ofUnits = false) : (ask q next).Orderly stage ↔ ∀ a, (next a).Orderly stage := by
  cases q <;> first | exact Iff.rfl | cases hq

/-- Who asks nothing of units leaves the unit at rest. -/
theorem orderly_of_asks {stage : UnitStage} {s : Script α} (hr : stage.AtRest)
    (hs : s.Asks (·.ofUnits = false)) : s.Orderly stage := by
  induction s with
  | done a => exact hr
  | ask q next ih => exact (orderly_ask_iff hs.1).mpr fun a => ih a (hs.2 a)

/-- What comes behind an orderly script may ask nothing more of units. -/
theorem Orderly.bind {stage : UnitStage} {s : Script α} {f : α → Script β}
    (hs : s.Orderly stage) (hf : ∀ a, (f a).Asks (·.ofUnits = false)) :
    (s.bind f).Orderly stage := by
  induction s generalizing stage with
  | done a => exact orderly_of_asks hs (hf a)
  | ask q next ih =>
    cases q with
    | openUnit =>
      obtain ⟨hstage, heval, hnext⟩ := hs
      refine ⟨hstage, fun u v => ?_, fun u => ih u (hnext u)⟩
      -- what follows sees the result of the first script, which is the same for every unit
      funext r
      show ((next u).bind f).eval r = ((next v).bind f).eval r
      rw [eval_bind, eval_bind, heval u v]
    | begin unit => exact ⟨hs.1, ih _ hs.2⟩
    | commit unit => exact ⟨hs.1, ih _ hs.2⟩
    | rollback unit => exact ⟨hs.1, ih _ hs.2⟩
    | _ => exact fun a => ih a (hs a)

/-- What comes before an orderly script may ask nothing of units. -/
theorem Asks.bind_orderly {stage : UnitStage} {s : Script α} {f : α → Script β}
    (hs : s.Asks (·.ofUnits = false)) (hf : ∀ a, (f a).Orderly stage) :
    (s.bind f).Orderly stage := by
  induction s with
  | done a => exact hf a
  | ask q next ih => exact (orderly_ask_iff hs.1).mpr fun a => ih a (hs.2 a)

end Script

namespace Job

variable {α β : Type}

/-- The job has opened no unit yet, and will open one at most. -/
def Orderly (job : Job α) : Prop := Script.Orderly .unopened job.run

theorem orderly_of_asks {job : Job α} (hj : job.Asks (·.ofUnits = false)) : job.Orderly :=
  Script.orderly_of_asks trivial hj

/-- **A job in a unit of its own is orderly**, if it asks nothing of units itself. -/
theorem orderly_inUnit {job : Job α} (hj : job.Asks (·.ofUnits = false)) :
    (inUnit job).Orderly := by
  rw [Orderly, ← andThen_done, andThen_inUnit]
  refine ⟨rfl, fun u v => ?_, fun u => ⟨rfl, ?_⟩⟩
  · funext r
    -- a unit is named only when it is ended, and that is answered alike for all
    simp only [Script.eval_ask, Ask.reply, andThen, Script.eval_bind]
    cases (Script.eval job.run r).1 <;> rfl
  · refine Script.Asks.bind_orderly hj fun x => ?_
    cases x with
    | error e => exact ⟨rfl, trivial⟩
    | ok a => exact ⟨rfl, trivial⟩

theorem Orderly.bind {job : Job α} {f : α → Job β} (hj : job.Orderly)
    (hf : ∀ a, (f a).Asks (·.ofUnits = false)) : (job >>= f).Orderly := by
  rw [Orderly, run_bind]
  refine Script.Orderly.bind hj fun x => ?_
  cases x with
  | ok a => exact hf a
  | error e => trivial

theorem Asks.bind_orderly {job : Job α} {f : α → Job β} (hj : job.Asks (·.ofUnits = false))
    (hf : ∀ a, (f a).Orderly) : (job >>= f).Orderly := by
  rw [Orderly, run_bind]
  refine Script.Asks.bind_orderly hj fun x => ?_
  cases x with
  | ok a => exact hf a
  | error e => trivial

theorem Orderly.map {job : Job α} (hj : job.Orderly) (g : α → β) : (g <$> job).Orderly := by
  rw [map_eq_pure_bind]
  exact hj.bind fun a => asks_pure (g a)

theorem orderly_committed {job : Job α} (hj : job.Asks (·.ofUnits = false)) :
    (committed job).Orderly := (orderly_inUnit hj).bind fun x => asks_ofResult x

end Job

/-! ### The two readings agree -/

namespace Backend

variable {b : Backend}

theorem publish_fields (b : Backend) (events : List Payload) :
    (b.publish events).repositories = b.repositories ∧ (b.publish events).units = b.units ∧
      (b.publish events).faults = b.faults := by
  unfold publish
  split
  · exact ⟨rfl, rfl, rfl⟩
  · rename_i h
    induction events generalizing b with
    | nil => exact ⟨rfl, rfl, rfl⟩
    | cons p events ih => exact ih (b.publishOne p) h

/-- An attempt to keep something changes nothing but the repositories, if anything. -/
theorem save_frame (b : Backend) (fault : Bool) (f : Repositories → Except Error Repositories) :
    (b.save fault f).2 = b ∨
      ∃ r, f b.repositories = .ok r ∧ (b.save fault f).2 = { b with repositories := r } := by
  unfold save
  cases fault with
  | true => exact .inl rfl
  | false =>
    rw [if_neg Bool.noConfusion]
    cases hr : f b.repositories with
    | error e => exact .inl rfl
    | ok r => exact .inr ⟨r, rfl, rfl⟩

/-- An attempt to begin or to commit a unit changes nothing but the unit, if anything. -/
theorem changeUnit_frame (b : Backend) (unit : Nat) (f : UnitOfWork → Except Error UnitOfWork) :
    (b.changeUnit unit f).2 = b ∨
      ∃ u, (b.changeUnit unit f).2 = { b with units := b.units.set unit u } := by
  unfold changeUnit
  cases f (b.units[unit]?.getD .idle) with
  | error e => exact .inl rfl
  | ok u => exact .inr ⟨u, rfl⟩

theorem faults_save (fault : Bool) (f : Repositories → Except Error Repositories) :
    (b.save fault f).2.faults = b.faults := by
  rcases b.save_frame fault f with h | ⟨r, _, h⟩
  · rw [h]
  · rw [h]

theorem faults_changeUnit (unit : Nat) (f : UnitOfWork → Except Error UnitOfWork) :
    (b.changeUnit unit f).2.faults = b.faults := by
  rcases b.changeUnit_frame unit f with h | ⟨u, h⟩
  · rw [h]
  · rw [h]

/-- **No question turns a switch.** -/
theorem faults_answer (q : Ask) : (b.answer q).2.faults = b.faults := by
  cases q with
  | begin unit => exact faults_changeUnit unit _
  | commit unit => exact faults_changeUnit unit _
  | saveStore s => exact faults_save _ _
  | saveOrder o => exact faults_save _ _
  | saveCustomer c => exact faults_save _ _
  | publish events => exact (publish_fields b events).2.2
  | _ => rfl

/-- What has nothing to do with units leaves them alone. -/
theorem units_answer {q : Ask} (hq : q.ofUnits = false) : (b.answer q).2.units = b.units := by
  have hsave : ∀ fault (f : Repositories → Except Error Repositories),
      (b.save fault f).2.units = b.units := by
    intro fault f
    rcases b.save_frame fault f with h | ⟨r, _, h⟩
    · rw [h]
    · rw [h]
  cases q with
  | openUnit | begin | commit | rollback => cases hq
  | saveStore | saveOrder | saveCustomer => exact hsave _ _
  | publish events => exact (publish_fields b events).2.1
  | _ => rfl

/-- With no switch on, questions that have nothing to do with units are answered by the
repositories, and leave the units alone. -/
theorem answer_eq_reply (hf : b.faults = .none) {q : Ask} (hq : q.ofUnits = false) :
    (b.answer q).1 = (q.reply b.repositories).1 ∧
      (b.answer q).2.repositories = (q.reply b.repositories).2 ∧
      (b.answer q).2.units = b.units ∧ (b.answer q).2.faults = .none := by
  obtain ⟨r, units, published, deliveries, metrics, faults⟩ := b
  subst hf
  cases q with
  | openUnit | begin | commit | rollback => cases hq
  | publish events =>
    obtain ⟨hr, hu, hf⟩ :=
      publish_fields ⟨r, units, published, deliveries, metrics, .none⟩ events
    exact ⟨rfl, hr, hu, hf⟩
  | saveCustomer c =>
    simp only [answer, save, Faults.none, Ask.reply]
    cases r.saveCustomer c <;> exact ⟨rfl, rfl, rfl, rfl⟩
  | _ => exact ⟨rfl, rfl, rfl, rfl⟩

theorem answer_begin {unit : Nat} (hu : b.units[unit]? = some ⟨false⟩) :
    b.answer (.begin unit) = (.ok (), { b with units := b.units.set unit ⟨true⟩ }) := by
  simp [answer, changeUnit, hu, UnitOfWork.begin]

theorem answer_commit {unit : Nat} (hu : b.units[unit]? = some ⟨true⟩) :
    b.answer (.commit unit) = (.ok (), { b with units := b.units.set unit ⟨false⟩ }) := by
  simp [answer, changeUnit, hu, UnitOfWork.commit]

end Backend

namespace UnitStage

variable {units : List UnitOfWork} {s : UnitStage} {unit : Nat}

theorem holds_begun (hu : (opened unit).Holds units) :
    (begun unit).Holds (units.set unit ⟨true⟩) := by
  obtain ⟨hlt, _⟩ := List.getElem?_eq_some_iff.mp hu
  exact List.getElem?_set_self hlt

/-- What a stage says of its own unit does not depend on others. -/
theorem Holds.congr {units' : List UnitOfWork} (h : s.Holds units)
    (hsame : ∀ v, s.unit? = some v → units'[v]? = units[v]?) : s.Holds units' := by
  cases s with
  | unopened | ended => trivial
  | opened v | begun v => exact (hsame v rfl).trans h

theorem Holds.lt_length (h : s.Holds units) (hu : s.unit? = some unit) : unit < units.length := by
  cases s with
  | unopened | ended => cases hu
  | opened v | begun v =>
    cases hu
    exact (List.getElem?_eq_some_iff.mp h).1

end UnitStage

/-- **How an orderly script gets on with a question.**  It stays orderly, at a stage that keeps
apart from whoever it was apart from before. -/
theorem Script.Orderly.proceed {α : Type} {q : Ask} {next : q.Answer → Script α}
    {stage : UnitStage} {b : Backend} (hs : (ask q next).Orderly stage)
    (hf : b.faults.begun = false) (hu : stage.Holds b.units) :
    ∃ stage', (next (b.answer q).1).Orderly stage' ∧ stage'.Holds (b.answer q).2.units ∧
      ∀ other : UnitStage, other.Holds b.units → stage.Apart other →
        other.Holds (b.answer q).2.units ∧ stage'.Apart other := by
  by_cases hq : q.ofUnits = false
  · rw [Backend.units_answer hq]
    exact ⟨stage, (orderly_ask_iff hq).mp hs _, hu, fun other ho ha => ⟨ho, ha⟩⟩
  · cases q with
    | openUnit =>
      obtain ⟨rfl, _, hnext⟩ := hs
      refine ⟨.opened b.units.length, hnext _, ?_, fun other ho _ => ⟨?_, ?_⟩⟩
      · simp [UnitStage.Holds, Backend.answer, Backend.openUnit, hf]
      · exact ho.congr fun v hv => List.getElem?_append_left (ho.lt_length hv)
      · -- the new unit comes behind all that there are
        intro unit hunit ho'
        cases hunit
        exact Nat.lt_irrefl _ (ho.lt_length ho')
    | begin unit =>
      obtain ⟨rfl, hnext⟩ := hs
      rw [Backend.answer_begin hu]
      refine ⟨.begun unit, hnext, UnitStage.holds_begun hu, fun other ho ha => ⟨?_, ha⟩⟩
      refine ho.congr fun v hv => List.getElem?_set_ne ?_
      rintro rfl
      exact ha unit rfl hv
    | commit unit =>
      obtain ⟨rfl, hnext⟩ := hs
      rw [Backend.answer_commit hu]
      refine ⟨.ended, hnext, trivial, fun other ho ha => ⟨?_, nofun⟩⟩
      refine ho.congr fun v hv => List.getElem?_set_ne ?_
      rintro rfl
      exact ha unit rfl hv
    | rollback unit =>
      obtain ⟨rfl, hnext⟩ := hs
      refine ⟨.ended, hnext, trivial, fun other ho ha => ⟨?_, nofun⟩⟩
      refine ho.congr fun v hv => List.getElem?_modify_ne _ _ ?_
      rintro rfl
      exact ha unit rfl hv
    | _ => exact absurd rfl hq

/-- With no switch on, there is none on afterwards. -/
theorem Script.Orderly.step {α : Type} {q : Ask} {next : q.Answer → Script α} {stage : UnitStage}
    {b : Backend} (hs : (ask q next).Orderly stage) (hf : b.faults = .none)
    (hu : stage.Holds b.units) :
    ∃ stage', (next (b.answer q).1).Orderly stage' ∧ stage'.Holds (b.answer q).2.units ∧
      (b.answer q).2.faults = .none ∧ ∀ other : UnitStage, other.Holds b.units →
        stage.Apart other → other.Holds (b.answer q).2.units ∧ stage'.Apart other := by
  have hbegun : b.faults.begun = false := by rw [hf]; rfl
  obtain ⟨stage', hnext, hu', hothers⟩ := hs.proceed hbegun hu
  exact ⟨stage', hnext, hu', (Backend.faults_answer q).trans hf, hothers⟩

/-- Questions about its own unit tell an orderly script nothing about what is kept. -/
theorem Script.Orderly.transparent {α : Type} {q : Ask} {next : q.Answer → Script α}
    {stage : UnitStage} {b : Backend} (hs : (ask q next).Orderly stage)
    (hu : stage.Holds b.units) (hq : q.ofUnits = true) :
    (b.answer q).2.repositories = b.repositories ∧
      ∀ r, (ask q next).eval r = (next (b.answer q).1).eval r := by
  cases q with
  | openUnit =>
    obtain ⟨rfl, heval, _⟩ := hs
    exact ⟨rfl, fun r => congrFun (heval 0 b.units.length) r⟩
  | begin unit =>
    obtain ⟨rfl, _⟩ := hs
    rw [Backend.answer_begin hu]
    exact ⟨rfl, fun _ => rfl⟩
  | commit unit =>
    obtain ⟨rfl, _⟩ := hs
    rw [Backend.answer_commit hu]
    exact ⟨rfl, fun _ => rfl⟩
  | rollback unit => exact ⟨rfl, fun _ => rfl⟩
  | _ => cases hq

/-- **An orderly script gives what the repositories say it gives**, and leaves in them
what they say it leaves, if no switch is on. -/
theorem Script.run_eq_eval {α : Type} {s : Script α} {stage : UnitStage} {b : Backend}
    (hs : s.Orderly stage) (hf : b.faults = .none) (hu : stage.Holds b.units) :
    (s.run b).1 = (s.eval b.repositories).1 ∧
      (s.run b).2.repositories = (s.eval b.repositories).2 ∧ (s.run b).2.faults = .none := by
  induction s generalizing stage b with
  | done a => exact ⟨rfl, rfl, hf⟩
  | ask q next ih =>
    -- the invariant is that the unit is at its stage, and that no switch is on
    obtain ⟨stage', hnext, hu', hf', _⟩ := hs.step hf hu
    have hrest := ih _ hnext hf' hu'
    have heval : (next (b.answer q).1).eval (b.answer q).2.repositories =
        (ask q next).eval b.repositories := by
      by_cases hq : q.ofUnits = false
      · obtain ⟨ha, hr, _⟩ := Backend.answer_eq_reply hf hq
        rw [ha, hr, eval_ask]
      · obtain ⟨hr, hsame⟩ := hs.transparent hu (by simpa using hq)
        rw [hr, hsame]
    rw [heval] at hrest
    exact hrest

end Storefront
