import Storefront.Proofs.Roster
import Storefront.Proofs.Serializability

/-! # Rivals for an email address

Whoever registers a customer looks first whether the email address is free, and then tries to keep
the customer; in between, somebody else may have taken it.  Either way the registration is
refused because of somebody who has the address (`Enrolment.Becomes`).

Along a schedule it stays known where everybody comes from who is registered
(`Pool.Enrolling.step`): they have been so from the beginning, or one of the tasks has registered
them.  All the other tasks keep whom they have found as they were.
-/
namespace Storefront

/-! ### The course of a registration -/

/-- How far the registration of a customer has come. -/
inductive Enrolment where
  /-- The customer may yet be kept. -/
  | undecided
  /-- The customer has been kept. -/
  | enrolled
  /-- Somebody else has been seen to have the email address. -/
  | refused
  deriving DecidableEq

/-- What has been said of a customer's registration by the time it ends. -/
def Enrolment.answer? (c : Customer) : Enrolment → Option (Except Error Outcome)
  | .undecided => none
  | .enrolled => some (.ok (.customer c.settled))
  | .refused => some (.error (.customer (.emailTaken c.email.text)))

/-- The script goes through the registration of a customer, in a unit of work of its own: it looks
for the email address, keeps the customer if nobody has it, and then says what has come of it. -/
def Script.Registers (c : Customer) : Enrolment → TaskScript → Prop
  | stage, .done r => stage.answer? c = some r
  | stage, .ask .openUnit next => ∀ u : Nat, (next u).Registers c stage
  | stage, .ask (.begin _) next => (next (.ok ())).Registers c stage
  | stage, .ask (.commit _) next => (next (.ok ())).Registers c stage
  | stage, .ask (.rollback _) next => (next ()).Registers c stage
  | stage, .ask (.publish _) next => (next ()).Registers c stage
  | stage, .ask (.findCustomerByEmail email) next =>
    stage = .undecided ∧ email = c.email ∧ (∀ d, (next (.ok d)).Registers c .refused) ∧
      ∀ e, e.kind = .notFound → (next (.error e)).Registers c .undecided
  | stage, .ask (.saveCustomer d) next =>
    stage = .undecided ∧ d = c ∧ (next (.ok ())).Registers c .enrolled ∧
      (next (.error (.customer (.emailTaken c.email.text)))).Registers c .refused
  | _, .ask _ _ => False

open Job in
/-- What a command does that registers somebody. -/
theorem Command.job_of_newcomer? {command : Command} {supply : Supply} {c : Customer}
    (h : command.newcomer? supply = some c) :
    (command.job supply).run =
      (committed (do Accounts.ensureEmailFree c.email; saveCustomer c)).andThen fun
        | .error e => .done (.error e)
        | .ok () => (publish c.news).andThen fun
          | .error e => .done (.error e)
          | .ok () => .done (.ok (.customer c.settled)) := by
  obtain ⟨email, firstName, lastName, rfl, hregister⟩ := Command.register_of_newcomer? h
  have hjob : Accounts.register supply email firstName lastName =
      (do
        committed (do Accounts.ensureEmailFree c.email; saveCustomer c)
        publish c.news
        return c.settled) := by
    unfold Accounts.register
    rw [hregister]
    rfl
  show (Outcome.customer <$> Accounts.register supply email firstName lastName).run = _
  rw [← andThen_done, map_eq_pure_bind, andThen_bind, hjob, andThen_bind]
  refine congrArg _ (funext fun x => ?_)
  cases x with
  | error e => rfl
  | ok =>
    dsimp only
    rw [andThen_bind]
    refine congrArg _ (funext fun y => ?_)
    cases y <;> rfl

open Job in
/-- **The script of a command that may register a customer goes through the registration.** -/
theorem Command.registers {command : Command} {supply : Supply} {c : Customer}
    (h : command.newcomer? supply = some c) :
    Script.Registers c .undecided (command.job supply).run := by
  have hpublish (k : Except Error Unit → TaskScript) (hk : (k (.ok ())).Registers c .enrolled) :
      ((publish c.news).andThen k).Registers c .enrolled := by
    unfold publish
    split
    · exact hk
    · exact hk
  rw [Command.job_of_newcomer? h, committed, andThen_bind, andThen_inUnit]
  simp only [andThen_bind, Accounts.ensureEmailFree, andThen_attempt]
  refine fun u => ⟨rfl, rfl, fun d => rfl, fun e he => ?_⟩
  -- nobody has the email address, so that an attempt is made to keep the customer
  dsimp only [Script.bind]
  rw [if_pos he]
  exact ⟨rfl, rfl, hpublish _ rfl, rfl⟩

/-- The ways in which one question can take a registration further, and what it does to who is
enrolled. -/
inductive Enrolment.Becomes (c : Customer) (r r' : Repositories) : Enrolment → Enrolment → Prop
  | same {stage : Enrolment} (customers : r'.customers = r.customers) : Becomes c r r' stage stage
  | refused (customers : r'.customers = r.customers) (taken : ∃ id, r.Enrolled id c.email) :
    Becomes c r r' .undecided .refused
  | enrolled (saved : r.saveCustomer c = .ok r') : Becomes c r r' .undecided .enrolled

namespace Enrolment.Becomes

variable {c : Customer} {r r' : Repositories} {stage stage' : Enrolment}

/-- Nobody comes to be enrolled but the customer, once they are kept. -/
theorem enrolled_iff (h : stage.Becomes c r r' stage')
    (hnew : stage ≠ .enrolled → ∀ email, ¬ r.Enrolled c.id email)
    (hold : stage = .enrolled → r.Enrolled c.id c.email) (id : CustomerId) (email : Email) :
    r'.Enrolled id email ↔
      r.Enrolled id email ∨ stage' = .enrolled ∧ c.id = id ∧ c.email = email := by
  cases h with
  | same customers =>
    rw [Repositories.enrolled_congr customers]
    refine ⟨.inl, ?_⟩
    rintro (he | ⟨hstage, rfl, rfl⟩)
    · exact he
    · exact hold hstage
  | refused customers taken =>
    rw [Repositories.enrolled_congr customers]
    exact ⟨.inl, fun he => he.resolve_right nofun⟩
  | enrolled saved =>
    rw [Repositories.enrolled_saveCustomer saved]
    constructor
    · intro he
      split at he
      · exact .inr ⟨rfl, Eq.symm ‹id = c.id›, he.symm⟩
      · exact .inl he
    · rintro (he | ⟨-, rfl, rfl⟩)
      · have hid : id ≠ c.id := by
          rintro rfl
          exact hnew nofun email he
        rwa [if_neg hid]
      · rw [if_pos rfl]

/-- Who has been kept stays so. -/
theorem of_enrolled (h : stage.Becomes c r r' stage') (hs : stage = .enrolled) :
    stage' = .enrolled := by
  subst hs
  cases h
  rfl

/-- Who comes to be refused is so because of somebody. -/
theorem of_refused (h : stage.Becomes c r r' stage') (hs : stage' = .refused) :
    stage = .refused ∨ ∃ id, r.Enrolled id c.email := by
  cases h with
  | same => exact .inl hs
  | refused _ taken => exact .inr taken
  | enrolled => cases hs

end Enrolment.Becomes

/-- Who is found by an email address has it. -/
theorem Repositories.enrolled_of_findByEmail {r : Repositories} {email : Email} {d : Customer}
    (h : r.findCustomerByEmail email = .ok d) : ∃ id, r.Enrolled id email := by
  unfold findCustomerByEmail at h
  split at h
  · rename_i c hfind
    obtain ⟨key, hkey⟩ := Table.mem_values_iff.mp (List.mem_of_find?_eq_some hfind)
    have hemail := List.find?_some (p := fun c : Customer => c.email == email) hfind
    exact ⟨key, c, hkey, beq_iff_eq.mp hemail⟩
  · cases h

/-- **One question of a registration**, while no switch is on and its unit of work is at its
stage. -/
theorem Script.Registers.step {b : Backend} {c : Customer} {stage : Enrolment} {unit : UnitStage}
    {q : Ask} {next : q.Answer → TaskScript} (h : (Script.ask q next).Registers c stage)
    (ho : (Script.ask q next).Orderly unit) (hu : unit.Holds b.units) (hf : b.faults = .none) :
    ∃ stage', (next (b.answer q).1).Registers c stage' ∧
      stage.Becomes c b.repositories (b.answer q).2.repositories stage' := by
  cases q with
  | openUnit => exact ⟨stage, h _, .same rfl⟩
  | rollback unit => exact ⟨stage, h, .same rfl⟩
  | publish events =>
    exact ⟨stage, h, .same (congrArg Repositories.customers (b.publish_fields events).1)⟩
  | begin unit =>
    obtain ⟨rfl, -⟩ := ho
    rw [Backend.answer_begin hu]
    exact ⟨stage, h, .same rfl⟩
  | commit unit =>
    obtain ⟨rfl, -⟩ := ho
    rw [Backend.answer_commit hu]
    exact ⟨stage, h, .same rfl⟩
  | findCustomerByEmail email =>
    obtain ⟨rfl, rfl, htaken, hfree⟩ := h
    have hanswer : (b.answer (.findCustomerByEmail c.email)).1 =
        b.repositories.findCustomerByEmail c.email :=
      (Backend.answer_eq_reply hf rfl).1
    rw [hanswer]
    cases hfind : b.repositories.findCustomerByEmail c.email with
    | ok d => exact ⟨.refused, htaken d, .refused rfl (Repositories.enrolled_of_findByEmail hfind)⟩
    | error e =>
      refine ⟨.undecided, hfree e ?_, .same rfl⟩
      unfold Repositories.findCustomerByEmail at hfind
      split at hfind
      · cases hfind
      · cases hfind
        rfl
  | saveCustomer d =>
    obtain ⟨rfl, rfl, hkept, htaken⟩ := h
    have hanswer : b.answer (.saveCustomer d) = b.save false (·.saveCustomer d) := by
      simp [Backend.answer, hf, Faults.none]
    rw [hanswer, Backend.save, if_neg Bool.false_ne_true]
    cases hsave : b.repositories.saveCustomer d with
    | ok r => exact ⟨.enrolled, hkept, .enrolled hsave⟩
    | error e =>
      -- since the address was looked for, somebody else has come to have it
      obtain ⟨rfl, other, hother, hemail, -⟩ := Repositories.saveCustomer_taken hsave
      obtain ⟨key, hkey⟩ := Table.mem_values_iff.mp hother
      exact ⟨.refused, htaken, .refused rfl ⟨key, other, hkey, hemail⟩⟩
  | _ => exact h.elim

/-! ### The roster of a pool -/

namespace Pool

variable {p : Pool} {b : Backend} {commands : List (Supply × Command)} {i : Nat} {q : Ask}
  {next : q.Answer → TaskScript} {queue : List (Nat × LockKey)}

/-- Whom a task of a pool registers, if names and email address are in form. -/
def newcomer? (commands : List (Supply × Command)) (i : Nat) : Option Customer :=
  commands[i]?.bind fun c => c.2.newcomer? c.1

/-- **Everybody who is enrolled** was so in the beginning, or has been registered by a task that has
come so far.  Tasks that register nobody mind whom they have found; who has been refused has
been so because of somebody. -/
structure Enrolling (b : Backend) (commands : List (Supply × Command)) (p : Pool)
    (known : Nat → List (CustomerId × Email)) (stage : Nat → Enrolment) : Prop where
  length : commands.length ≤ p.tasks.length
  clientele : p.backend.repositories.Clientele
  registers : ∀ (i : Nat) (c : Customer) (t : TaskScript), newcomer? commands i = some c →
    p.tasks[i]? = some t → t.Registers c (stage i)
  minds : ∀ (i : Nat) (t : TaskScript), newcomer? commands i = none →
    p.tasks[i]? = some t → t.Minds (known i)
  known : ∀ i, ∀ x ∈ known i, p.backend.repositories.Enrolled x.1 x.2
  refused : ∀ i c, newcomer? commands i = some c → stage i = .refused →
    ∃ id, p.backend.repositories.Enrolled id c.email
  origin : ∀ id email, p.backend.repositories.Enrolled id email ↔
    b.repositories.Enrolled id email ∨
      ∃ i c, newcomer? commands i = some c ∧ stage i = .enrolled ∧ c.id = id ∧ c.email = email

/-- Everybody who is registered gets an identifier of their own, which nobody has yet. -/
structure NewIds (b : Backend) (commands : List (Supply × Command)) : Prop where
  distinct : ∀ i j c d, newcomer? commands i = some c → newcomer? commands j = some d →
    c.id = d.id → i = j
  new : ∀ i c, newcomer? commands i = some c → ∀ email, ¬ b.repositories.Enrolled c.id email

namespace Enrolling

variable {known : Nat → List (CustomerId × Email)} {stage : Nat → Enrolment}

/-- Who has not been registered is not enrolled. -/
theorem not_enrolled (h : p.Enrolling b commands known stage) (hids : NewIds b commands)
    {c : Customer} (hc : newcomer? commands i = some c) (hstage : stage i ≠ .enrolled)
    (email : Email) : ¬ p.backend.repositories.Enrolled c.id email := by
  intro henrolled
  rcases (h.origin _ _).mp henrolled with hold | ⟨j, d, hd, hj, hid, -⟩
  · exact hids.new i c hc email hold
  · obtain rfl := hids.distinct j i d c hd hc hid
    exact hstage hj

/-- If one registration comes further, those who have been registered stay so, and the one whose it
is may be one more. -/
theorem exists_enrolled_update {s : Enrolment} (hkeep : stage i = .enrolled → s = .enrolled)
    (P : Customer → Prop) :
    (∃ j c, newcomer? commands j = some c ∧ Function.update stage i s j = .enrolled ∧ P c) ↔
      (∃ j c, newcomer? commands j = some c ∧ stage j = .enrolled ∧ P c) ∨
        ∃ c, newcomer? commands i = some c ∧ s = .enrolled ∧ P c := by
  constructor
  · rintro ⟨j, c, hc, hj, hP⟩
    by_cases hji : j = i
    · subst hji
      rw [Function.update_self] at hj
      exact .inr ⟨c, hc, hj, hP⟩
    · rw [Function.update_of_ne hji] at hj
      exact .inl ⟨j, c, hc, hj, hP⟩
  · rintro (⟨j, c, hc, hj, hP⟩ | ⟨c, hc, hs, hP⟩)
    · refine ⟨j, c, hc, ?_, hP⟩
      by_cases hji : j = i
      · subst hji
        rw [Function.update_self]
        exact hkeep hj
      · rw [Function.update_of_ne hji]
        exact hj
    · exact ⟨i, c, hc, by rw [Function.update_self]; exact hs, hP⟩

/-- **One task has been answered**: it is enough to look at this task, and at who has come to be
enrolled. -/
theorem move (h : p.Enrolling b commands known stage) {k : List (CustomerId × Email)} {s : Enrolment}
    (horigin : ∀ id email, (p.backend.answer q).2.repositories.Enrolled id email ↔
      p.backend.repositories.Enrolled id email ∨
        ∃ c, newcomer? commands i = some c ∧ s = .enrolled ∧ c.id = id ∧ c.email = email)
    (hkeep : stage i = .enrolled → s = .enrolled)
    (hregisters : ∀ c, newcomer? commands i = some c →
      (next (p.backend.answer q).1).Registers c s)
    (hminds : newcomer? commands i = none → (next (p.backend.answer q).1).Minds k)
    (hknown : ∀ x ∈ k, (p.backend.answer q).2.repositories.Enrolled x.1 x.2)
    (hrefused : ∀ c, newcomer? commands i = some c → s = .refused →
      ∃ id, (p.backend.answer q).2.repositories.Enrolled id c.email) :
    (p.answered i q next queue).Enrolling b commands (Function.update known i k)
      (Function.update stage i s) := by
  have hgrow {id email} (he : p.backend.repositories.Enrolled id email) :
      (p.backend.answer q).2.repositories.Enrolled id email := (horigin id email).mpr (.inl he)
  refine ⟨h.length.trans_eq (List.length_set ..).symm, h.clientele.answer q,
    fun j c t hc hj => ?_, fun j t hc hj => ?_, ?_, fun j c hc hj => ?_, fun id email => ?_⟩
  · rcases of_answered hj with ⟨rfl, rfl⟩ | ⟨hji, hj⟩
    · rw [Function.update_self]
      exact hregisters c hc
    · rw [Function.update_of_ne hji]
      exact h.registers j c t hc hj
  · rcases of_answered hj with ⟨rfl, rfl⟩ | ⟨hji, hj⟩
    · rw [Function.update_self]
      exact hminds hc
    · rw [Function.update_of_ne hji]
      exact h.minds j t hc hj
  · exact (Function.forall_update_iff known (p := fun _ k => ∀ x ∈ k,
      (p.backend.answer q).2.repositories.Enrolled x.1 x.2)).mpr
        ⟨hknown, fun j _ x hx => hgrow (h.known j x hx)⟩
  · by_cases hji : j = i
    · subst hji
      rw [Function.update_self] at hj
      exact hrefused c hc hj
    · rw [Function.update_of_ne hji] at hj
      obtain ⟨id, hid⟩ := h.refused j c hc hj
      exact ⟨id, hgrow hid⟩
  · show (p.backend.answer q).2.repositories.Enrolled id email ↔ _
    rw [horigin, h.origin, or_assoc, exists_enrolled_update hkeep]

/-- **A task has been answered**, be it one that registers somebody or not. -/
theorem answered (h : p.Enrolling b commands known stage) {unit : Nat → UnitStage}
    (hf : p.backend.faults = .none) (hu : p.UnitsApart unit) (hids : NewIds b commands)
    (ht : p.tasks[i]? = some (.ask q next)) :
    ∃ known' stage', (p.answered i q next queue).Enrolling b commands known' stage' := by
  cases hc : newcomer? commands i with
  | none =>
    obtain ⟨hsame, hminds, hknown⟩ := (h.minds i _ hc ht).step h.clientele.keyed (h.known i)
    have hnobody (c : Customer) : newcomer? commands i ≠ some c := by
      rw [hc]
      exact nofun
    refine ⟨_, _, h.move (s := stage i) (fun id email => ?_) (fun hs => hs)
      (fun c hc' => absurd hc' (hnobody c)) (fun _ => hminds) hknown
      fun c hc' => absurd hc' (hnobody c)⟩
    rw [hsame]
    exact ⟨.inl, fun he => he.resolve_right fun ⟨c, hc', _⟩ => hnobody c hc'⟩
  | some c =>
    obtain ⟨s, hnext, hbecomes⟩ :=
      (h.registers i c _ hc ht).step (hu.orderly i _ ht) (hu.holds i) hf
    have honly (d : Customer) (hd : newcomer? commands i = some d) : d = c :=
      Option.some.inj (hd.symm.trans hc)
    have hiff := hbecomes.enrolled_iff (fun hs => h.not_enrolled hids hc hs)
      fun hs => (h.origin _ _).mpr (.inr ⟨i, c, hc, hs, rfl, rfl⟩)
    have hgrow (id : CustomerId) (email : Email) (he : p.backend.repositories.Enrolled id email) :
        (p.backend.answer q).2.repositories.Enrolled id email := (hiff id email).mpr (.inl he)
    refine ⟨_, _, h.move (k := known i) (fun id email => ?_) hbecomes.of_enrolled
      (fun d hd => honly d hd ▸ hnext) (fun hnone => absurd (hnone.symm.trans hc) nofun)
      (fun x hx => hgrow _ _ (h.known i x hx)) fun d hd hs => ?_⟩
    · rw [hiff]
      refine or_congr_right ⟨fun he => ⟨c, hc, he⟩, ?_⟩
      rintro ⟨d, hd, he⟩
      exact honly d hd ▸ he
    · obtain rfl := honly d hd
      rcases hbecomes.of_refused hs with hbefore | ⟨id, hid⟩
      · obtain ⟨id, hid⟩ := h.refused i d hd hbefore
        exact ⟨id, hgrow _ _ hid⟩
      · exact ⟨id, hgrow _ _ hid⟩

/-- A listener that is told of an event registers nobody, and has found nobody yet. -/
theorem deliverNext (h : p.Enrolling b commands known stage) :
    ∃ known', p.deliverNext.Enrolling b commands known' stage := by
  obtain ⟨hrepos, -, -, -⟩ := p.deliverNext_frame
  have hbeyond {i : Nat} (hi : p.tasks[i]? = none) : newcomer? commands i = none := by
    rw [List.getElem?_eq_none_iff] at hi
    rw [newcomer?, List.getElem?_eq_none_iff.mpr (h.length.trans hi)]
    rfl
  refine ⟨fun i => if p.tasks[i]? = none then [] else known i, ?_, hrepos ▸ h.clientele,
    fun i c t hc ht => ?_, fun i t hc ht => ?_, fun i x hx => ?_, hrepos ▸ h.refused,
    hrepos ▸ h.origin⟩
  · refine h.length.trans ?_
    unfold Pool.deliverNext
    split
    · exact Nat.le_refl _
    · show p.tasks.length ≤ (p.tasks ++ [_]).length
      rw [List.length_append]
      exact Nat.le_add_right ..
  · -- the listener comes behind all commands, and so is none that registers anybody
    rcases of_deliverNext ht with ht | ⟨hnone, -⟩
    · exact h.registers i c t hc ht
    · rw [hbeyond hnone] at hc
      cases hc
  · rcases of_deliverNext ht with ht | ⟨hnone, d, rfl⟩
    · rw [if_neg (by rw [ht]; exact nofun)]
      exact h.minds i t hc ht
    · rw [if_pos hnone]
      exact ((Loyalty.minds_deliver d).map _).run
  · split at hx
    · cases hx
    · rw [hrepos]
      exact h.known i x hx

theorem start (hb : b.repositories.Clientele) :
    (Pool.start b commands).Enrolling b commands (fun _ => []) fun _ => .undecided where
  length := by simp [Pool.start]
  clientele := hb
  registers i c t hc ht := by
    obtain ⟨supply, command, hi, rfl⟩ := of_start ht
    rw [newcomer?, hi] at hc
    exact Command.registers hc
  minds i t hc ht := by
    obtain ⟨supply, command, hi, rfl⟩ := of_start ht
    rw [newcomer?, hi] at hc
    exact (Command.minds hc).run
  known _ _ hx := absurd hx List.not_mem_nil
  refused _ _ _ := nofun
  origin id email := by
    refine ⟨.inl, fun he => he.resolve_right ?_⟩
    rintro ⟨i, c, -, hopen, -⟩
    cases hopen

/-- **Every turn leaves it known** where everybody comes from who is enrolled. -/
theorem step (h : p.Enrolling b commands known stage) {unit : Nat → UnitStage}
    (hf : p.backend.faults = .none) (hu : p.UnitsApart unit) (hids : NewIds b commands) {turn : Turn}
    (hturn : turn.ofTasks = true) :
    ∃ known' stage', (p.step turn).Enrolling b commands known' stage' := by
  cases turn with
  | task i =>
    show ∃ known' stage', (p.stepTask i).Enrolling b commands known' stage'
    rcases p.stepTask_cases i with hstep | ⟨key, hstep⟩ | ⟨q, next, queue, ht, hstep, -, -⟩
    · rw [hstep]
      exact ⟨known, stage, h⟩
    · rw [hstep]
      exact ⟨known, stage, h.length, h.clientele, h.registers, h.minds, h.known, h.refused,
        h.origin⟩
    · rw [hstep]
      exact h.answered hf hu hids ht
  | deliver =>
    obtain ⟨known', h'⟩ := h.deliverNext
    exact ⟨known', stage, h'⟩
  | faults faults => cases hturn

/-- **So does every schedule**. -/
theorem run (h : p.Enrolling b commands known stage) {unit : Nat → UnitStage}
    (hf : p.backend.faults = .none) (hu : p.UnitsApart unit) (hids : NewIds b commands)
    {schedule : List Turn}
    (hs : ∀ turn ∈ schedule, turn.ofTasks = true) :
    ∃ known' stage', (p.run schedule).Enrolling b commands known' stage' := by
  induction schedule generalizing p known stage unit with
  | nil => exact ⟨known, stage, h⟩
  | cons turn rest ih =>
    have hturn := hs turn (List.mem_cons_self ..)
    obtain ⟨unit', hu'⟩ := hu.step (Turn.opensUnits_of_ofTasks hturn)
    obtain ⟨known', stage', h'⟩ := h.step hf hu hids hturn
    exact ih h' ((faults_step hturn).trans hf) hu' fun t ht => hs t (List.mem_cons_of_mem _ ht)

end Enrolling

end Pool

end Storefront
