import Mathlib.Data.List.Nodup
import Storefront.Proofs.Atomicity
import Storefront.Proofs.Crediting
import Storefront.Proofs.Progress
import Storefront.Proofs.Rivalry

/-! # No two customers have one email address

That is so whatever commands and deliveries run together, however their questions are interleaved,
and whatever switches are set meanwhile (`Pool.clientele_run`): an address that is taken is seen to
be so when a customer is kept, if not before.  Whoever is registered alone is kept if nobody has
the address yet (`Backend.registersAlone`).  A registration asks few questions and waits for nobody
(`Pool.registration_ends`); of those that run at the same time with an address that is free, one
is kept (`Pool.Enrolling.one_wins`).  All this together is `Pool.addresses_apart`.
-/
namespace Storefront

open Repositories

/-! ### Who has an address -/

namespace Repositories.Clientele

variable {r : Repositories}

/-- No email address stands twice. -/
theorem nodup_emails (h : r.Clientele) : (r.customers.values.map (·.email)).Nodup := by
  have hkeys := List.pairwise_map.mp r.customers.nodup
  have hemails : r.customers.entries.Pairwise fun x y => x.2.email ≠ y.2.email := by
    refine hkeys.imp_of_mem fun {x y} hx hy hne hsame => hne ?_
    exact h.emails x.1 y.1 x.2 y.2 ((Table.mem_iff_lookup_eq r.customers.nodup).mp hx)
      ((Table.mem_iff_lookup_eq r.customers.nodup).mp hy) hsame
  rw [Table.values, List.map_map]
  exact List.pairwise_map.mpr hemails

/-- Whoever looks for an email address has one customer to find at most. -/
theorem candidates_le_one (h : r.Clientele) (email : Email) :
    (r.customers.values.filter fun c => c.email == email).length ≤ 1 := by
  have hcount := List.nodup_iff_count_le_one.mp h.nodup_emails email
  rwa [List.count_eq_countP, List.countP_map, List.countP_eq_length_filter] at hcount

/-- Everybody is found by their email address. -/
theorem found (h : r.Clientele) {c : Customer} (hc : c ∈ r.customers.values) :
    r.findCustomerByEmail c.email = .ok c := by
  unfold findCustomerByEmail
  split
  · rename_i d hfind
    have hsame : d.email = c.email :=
      beq_iff_eq.mp (List.find?_some (p := fun d : Customer => d.email == c.email) hfind)
    rw [List.inj_on_of_nodup_map h.nodup_emails (List.mem_of_find?_eq_some hfind) hc hsame]
  · rename_i hnone
    exact absurd (beq_self_eq_true c.email) (List.find?_eq_none.mp hnone c hc)

end Repositories.Clientele

/-- Somebody is enrolled with an email address if some customer has it. -/
theorem Repositories.exists_enrolled {r : Repositories} {email : Email} :
    (∃ id, r.Enrolled id email) ↔ ∃ c ∈ r.customers.values, c.email = email := by
  simp only [Enrolled, Table.mem_values_iff]
  constructor
  · rintro ⟨id, c, hc, he⟩
    exact ⟨c, ⟨id, hc⟩, he⟩
  · rintro ⟨c, ⟨id, hc⟩, he⟩
    exact ⟨id, c, hc, he⟩

namespace Pool

variable {p : Pool}

/-- Whatever the turn, no two customers come to have one email address. -/
theorem clientele_step (h : p.backend.repositories.Clientele) (turn : Turn) :
    (p.step turn).backend.repositories.Clientele := by
  cases turn with
  | task i =>
    show (p.stepTask i).backend.repositories.Clientele
    rcases p.stepTask_cases i with hstep | ⟨key, hstep⟩ | ⟨q, next, queue, -, hstep, -, -⟩
    · rw [hstep]
      exact h
    · rw [hstep]
      exact h
    · rw [hstep]
      exact h.answer q
  | deliver =>
    obtain ⟨hrepos, -, -, -⟩ := p.deliverNext_frame
    exact hrepos ▸ h
  | faults faults => exact h

/-- **Whatever the schedule, no two customers come to have one email address.** -/
theorem clientele_run (h : p.backend.repositories.Clientele) (schedule : List Turn) :
    (p.run schedule).backend.repositories.Clientele := by
  induction schedule generalizing p with
  | nil => exact h
  | cons turn rest ih => exact ih (clientele_step h turn)

end Pool

/-! ### Registrations -/

/-- Whether the command registers a customer with the email address, in whatever form that is
entered, and with names that are not blank. -/
def Command.registersAs (email : Email) : Command → Bool
  | .register entered firstName lastName =>
    !Text.isBlank firstName && !Text.isBlank lastName && Email.parse? entered == some email
  | _ => false

/-- Names that are not blank and an email address in form make a customer. -/
theorem Customer.register_eq_ok_iff (id : CustomerId) (now : Timestamp)
    {entered firstName lastName : String} {email : Email} :
    (∃ c, register id entered firstName lastName now = .ok c ∧ c.email = email) ↔
      Text.isBlank firstName = false ∧ Text.isBlank lastName = false ∧
        Email.parse? entered = some email := by
  unfold register Email.make
  generalize Email.parse? entered = parsed, Text.isBlank firstName = blank,
    Text.isBlank lastName = blank'
  cases blank
  · cases blank'
    · cases parsed <;> simp
    · simp
  · simp

/-- Who registers somebody with an email address has somebody to register with it. -/
theorem Command.registersAs_iff (supply : Supply) {command : Command} {email : Email} :
    command.registersAs email = true ↔
      ∃ c, command.newcomer? supply = some c ∧ c.email = email := by
  cases command with
  | register entered firstName lastName =>
    simp only [registersAs, newcomer?, Bool.and_eq_true, Bool.not_eq_true', beq_iff_eq, and_assoc]
    rw [← Customer.register_eq_ok_iff (supply.id .customer) supply.now]
    cases Customer.register (supply.id .customer) entered firstName lastName supply.now with
    | ok c => simp
    | error e => simp
  | _ => simp [registersAs, newcomer?]

/-- What comes of a registration that is carried out while nobody else does anything. -/
structure Backend.RegistersAlone (b : Backend) (supply : Supply) (command : Command)
    (email : Email) : Prop where
  /-- If nobody has the email address, somebody is registered with it and kept. -/
  succeeds : (∀ c ∈ b.repositories.customers.values, c.email ≠ email) →
    ∃ c, (b.perform (command.job supply)).1 = .ok (.customer c) ∧ c.email = email ∧
      (b.perform (command.job supply)).2.repositories.customers.get? (supply.id .customer) = some c
  /-- If somebody has, active or not, this is a conflict, and everything stays as it is. -/
  conflicts : (∃ c ∈ b.repositories.customers.values, c.email = email) →
    ∃ e, (b.perform (command.job supply)).1 = .error e ∧ e.kind = .conflict ∧
      (b.perform (command.job supply)).2.repositories = b.repositories

section Decide
variable {r : Repositories} {supply : Supply} {entered firstName lastName : String} {c : Customer}

/-- Whoever has an email address that nobody has can be registered. -/
theorem Repositories.decideRegister_of_free
    (hc : Customer.register (supply.id .customer) entered firstName lastName supply.now = .ok c)
    (hfree : ∀ d ∈ r.customers.values, d.email ≠ c.email) :
    r.decideRegister supply entered firstName lastName =
      .ok (c, { r with customers := r.customers.insert c.id c.settled }) := by
  have hfind : r.findCustomerByEmail c.email = .error (.notFound "Customer" c.email.text) := by
    unfold findCustomerByEmail
    rw [List.find?_eq_none.mpr fun d hd => by simpa using hfree d hd]
  have hsave : r.saveCustomer c =
      .ok { r with customers := r.customers.insert c.id c.settled } := by
    unfold saveCustomer
    rw [if_neg fun hany => ?_]
    obtain ⟨d, hd, hboth⟩ := List.any_eq_true.mp hany
    rw [Bool.and_eq_true, beq_iff_eq] at hboth
    exact hfree d hd hboth.1
  simp [decideRegister, hc, hfind, hsave]

/-- Whoever has an email address that somebody has cannot. -/
theorem Repositories.decideRegister_of_taken
    (hc : Customer.register (supply.id .customer) entered firstName lastName supply.now = .ok c)
    (htaken : ∃ d ∈ r.customers.values, d.email = c.email) :
    r.decideRegister supply entered firstName lastName =
      .error (.customer (.emailTaken c.email.text)) := by
  obtain ⟨d, hd, hemail⟩ := htaken
  obtain ⟨d', hfind⟩ : ∃ d', r.findCustomerByEmail c.email = .ok d' := by
    unfold findCustomerByEmail
    split
    · exact ⟨_, rfl⟩
    · rename_i hnone
      exact absurd (beq_iff_eq.mpr hemail) (List.find?_eq_none.mp hnone d hd)
  simp [decideRegister, hc, hfind]

end Decide

/-- **Who is registered alone is kept if, and only if, nobody has the email address yet.** -/
theorem Backend.registersAlone {b : Backend} (hf : b.faults = .none) {supply : Supply}
    {command : Command} {email : Email} (h : command.registersAs email = true) :
    b.RegistersAlone supply command email := by
  obtain ⟨c, hc, rfl⟩ := (Command.registersAs_iff supply).mp h
  obtain ⟨entered, firstName, lastName, rfl, hregister⟩ := Command.register_of_newcomer? hc
  obtain ⟨hresult, hrepos, -⟩ :=
    Backend.perform_eq_eval hf supply (.register entered firstName lastName)
  constructor
  · intro hfree
    simp only [Command.job, Job.eval_map, Accounts.eval_register,
      decideRegister_of_free hregister hfree] at hresult
    refine ⟨c.settled, hresult, rfl, ?_⟩
    rw [hrepos]
    simp only [Command.job, Job.eval_map, Accounts.eval_register,
      decideRegister_of_free hregister hfree]
    rw [← (Customer.register_account hregister).1, Table.get?_insert_self]
  · intro htaken
    simp only [Command.job, Job.eval_map, Accounts.eval_register,
      decideRegister_of_taken hregister htaken] at hresult
    refine ⟨_, hresult, rfl, ?_⟩
    rw [hrepos]
    simp only [Command.job, Job.eval_map, Accounts.eval_register,
      decideRegister_of_taken hregister htaken]

/-! ### Registrations come to their ends -/

/-- Whatever it is answered, the script comes to its end after so many questions at most, none of
which has to do with locks. -/
def Script.EndsWithin {α : Type} : Nat → Script α → Prop
  | _, .done _ => True
  | 0, .ask _ _ => False
  | n + 1, .ask q next => q.ofLocks = false ∧ ∀ a, (next a).EndsWithin n

theorem Script.EndsWithin.mono {α : Type} {s : Script α} {n m : Nat} (h : s.EndsWithin n)
    (hle : n ≤ m) : s.EndsWithin m := by
  induction s generalizing n m with
  | done a => cases m <;> trivial
  | ask q next ih =>
    cases n with
    | zero => exact h.elim
    | succ n =>
      cases m with
      | zero => cases hle
      | succ m => exact ⟨h.1, fun a => ih a (h.2 a) (Nat.le_of_succ_le_succ hle)⟩

open Job in
/-- Whoever registers somebody asks six questions at most: to open and begin a unit of work, who
has the email address, to keep the customer, to commit, and to publish the news. -/
theorem Command.endsWithin {command : Command} {supply : Supply} {c : Customer}
    (h : command.newcomer? supply = some c) : (command.job supply).run.EndsWithin 6 := by
  have hpublish (k : Except Error Unit → TaskScript) (hk : ∀ x, (k x).EndsWithin 0) :
      ((publish c.news).andThen k).EndsWithin 1 := by
    unfold publish
    split
    · exact (hk _).mono (Nat.zero_le 1)
    · exact ⟨rfl, fun _ => hk _⟩
  rw [Command.job_of_newcomer? h, committed, andThen_bind, andThen_inUnit]
  simp only [andThen_bind, Accounts.ensureEmailFree, andThen_attempt]
  refine ⟨rfl, fun u => ⟨rfl, fun begun => ?_⟩⟩
  cases begun with
  | error e => trivial
  | ok =>
    refine ⟨rfl, fun found => ?_⟩
    cases found with
    | ok d => exact ⟨rfl, fun _ => trivial⟩
    | error e =>
      dsimp only [Script.bind]
      split
      · refine ⟨rfl, fun saved => ?_⟩
        cases saved with
        | error e => exact ⟨rfl, fun _ => trivial⟩
        | ok =>
          refine ⟨rfl, fun closed => ?_⟩
          cases closed with
          | error e => trivial
          | ok => exact hpublish _ fun x => by cases x <;> trivial
      · exact ⟨rfl, fun _ => trivial⟩

namespace Pool

variable {p : Pool} {b : Backend} {commands : List (Supply × Command)} {i : Nat}
  {known : Nat → List (CustomerId × Email)} {stage : Nat → Enrolment}

/-- The task comes to its end on so many turns of its own at most. -/
def EndsWithin (p : Pool) (i n : Nat) : Prop :=
  ∃ t : TaskScript, p.tasks[i]? = some t ∧ t.EndsWithin n

/-- On its turn the task comes nearer to its end, since it never has to wait. -/
theorem EndsWithin.stepTask {n : Nat} (h : p.EndsWithin i n) :
    (p.stepTask i).EndsWithin i (n - 1) := by
  obtain ⟨t, ht, hn⟩ := h
  cases t with
  | done x =>
    refine ⟨.done x, ?_, ?_⟩
    · unfold Pool.stepTask
      rw [ht]
      exact ht
    · cases n - 1 <;> trivial
  | ask q next =>
    cases n with
    | zero => exact hn.elim
    | succ n =>
      obtain ⟨hlock, hnext⟩ := hn
      have hgranted (key : LockKey) (hq : q = .lock key) : p.holder? key = some i := by
        subst hq
        cases hlock
      rw [stepTask_of_granted ht hgranted]
      exact ⟨_, List.getElem?_set_self (List.getElem?_eq_some_iff.mp ht).1, hnext _⟩

/-- No other turn makes a difference to it. -/
theorem EndsWithin.step {n : Nat} (h : p.EndsWithin i n) (turn : Turn) :
    (p.step turn).EndsWithin i (n - [turn].count (.task i)) := by
  by_cases hturn : turn = .task i
  · subst hturn
    rw [List.count_singleton_self]
    exact h.stepTask
  · rw [List.count_singleton, if_neg (by simpa using hturn), Nat.sub_zero]
    obtain ⟨t, ht, hn⟩ := h
    refine ⟨t, ?_, hn⟩
    cases turn with
    | task j =>
      have hij : i ≠ j := fun heq => hturn (by rw [heq])
      show (p.stepTask j).tasks[i]? = some t
      rcases p.stepTask_cases j with hstep | ⟨key, hstep⟩ | ⟨q, next, queue, -, hstep, -, -⟩
      · rw [hstep]
        exact ht
      · rw [hstep]
        exact ht
      · rw [hstep, answered_tasks_of_ne hij]
        exact ht
    | deliver => exact deliverNext_tasks ht
    | faults faults => exact ht

theorem EndsWithin.run {n : Nat} (h : p.EndsWithin i n) (schedule : List Turn) :
    (p.run schedule).EndsWithin i (n - schedule.count (.task i)) := by
  induction schedule generalizing p n with
  | nil => exact h
  | cons turn rest ih =>
    have hrest := ih (h.step turn)
    rwa [Nat.sub_sub, ← List.count_append, List.singleton_append] at hrest

/-- **Whoever registers somebody has done so, or has been refused, after six turns of their own**,
whatever the others do and whatever switches are set. -/
theorem registration_ends {c : Customer} (hc : newcomer? commands i = some c)
    (schedule : List Turn) (hturns : 6 ≤ schedule.count (.task i)) :
    (((start b commands).run schedule).result? i).isSome = true := by
  obtain ⟨⟨supply, command⟩, hi, hc⟩ := Option.bind_eq_some_iff.mp hc
  have hstart : (start b commands).EndsWithin i 6 := by
    refine ⟨_, ?_, Command.endsWithin hc⟩
    show (commands.map fun c => (c.2.job c.1).run)[i]? = _
    rw [List.getElem?_map, hi, Option.map_some]
  obtain ⟨t, ht, hend⟩ := hstart.run schedule
  rw [Nat.sub_eq_zero_of_le hturns] at hend
  rw [result?, ht]
  cases t with
  | done x => rfl
  | ask q next => exact hend.elim

/-! ### Rivals -/

/-- What has come of a registration that has come to its end. -/
theorem Enrolling.outcome (h : p.Enrolling b commands known stage) {c : Customer}
    (hc : newcomer? commands i = some c) {x : Except Error Outcome} (hx : p.result? i = some x) :
    stage i = .enrolled ∧ x = .ok (.customer c.settled) ∨
      stage i = .refused ∧ x = .error (.customer (.emailTaken c.email.text)) := by
  have hdone : (stage i).answer? c = some x :=
    h.registers i c _ hc (outlook?_of_result hx).1
  cases hstage : stage i with
  | undecided =>
    rw [hstage] at hdone
    cases hdone
  | enrolled =>
    rw [hstage] at hdone
    exact .inl ⟨rfl, (Option.some.inj hdone).symm⟩
  | refused =>
    rw [hstage] at hdone
    exact .inr ⟨rfl, (Option.some.inj hdone).symm⟩

/-- Whether the command at a place registers somebody with the email address. -/
def isRival (commands : List (Supply × Command)) (email : Email) (i : Nat) : Bool :=
  commands[i]?.any fun c => c.2.registersAs email

theorem lt_of_isRival {email : Email} (h : isRival commands email i = true) :
    i < commands.length := by
  by_contra hge
  rw [isRival, List.getElem?_eq_none_iff.mpr (Nat.not_lt.mp hge)] at h
  cases h

theorem isRival_iff {email : Email} :
    isRival commands email i = true ↔ ∃ c, newcomer? commands i = some c ∧ c.email = email := by
  unfold isRival newcomer?
  cases commands[i]? with
  | none => simp
  | some c => simpa using Command.registersAs_iff c.1

/-- What comes of those who are registered with one email address at the same time: one of them is
kept, all others conflict with that one and are not kept. -/
structure OneWins (p : Pool) (commands : List (Supply × Command)) (email : Email)
    (winner : Nat) : Prop where
  rival : isRival commands email winner = true
  kept : ∃ c, p.result? winner = some (.ok (.customer c)) ∧ c.email = email ∧
    p.backend.repositories.Enrolled c.id email
  others : ∀ i, i ≠ winner → isRival commands email i = true →
    (∃ e, p.result? i = some (.error e) ∧ e.kind = .conflict) ∧
      ∀ c, commands[i]? = some c → p.backend.repositories.customers.get? (c.1.id .customer) = none

theorem newcomer?_id {c : Customer} (hc : newcomer? commands i = some c) :
    ∃ entry, commands[i]? = some entry ∧ c.id = entry.1.id .customer := by
  obtain ⟨⟨supply, command⟩, hi, hc⟩ := Option.bind_eq_some_iff.mp hc
  obtain ⟨entered, firstName, lastName, rfl, hregister⟩ := Command.register_of_newcomer? hc
  exact ⟨_, hi, (Customer.register_account hregister).1⟩

/-- New identifiers that differ from each other are those of new customers. -/
theorem newIds (hfresh : Backend.Fresh commands)
    (hnew : ∀ c ∈ commands, b.repositories.customers.get? (c.1.id .customer) = none) :
    NewIds b commands where
  distinct i j c d hc hd hid := by
    obtain ⟨x, hx, hcx⟩ := newcomer?_id hc
    obtain ⟨y, hy, hdy⟩ := newcomer?_id hd
    exact Backend.place_of_fresh hfresh hx hy
      (congrArg Id.uuid (hcx.symm.trans (hid.trans hdy)))
  new i c hc email := by
    obtain ⟨x, hx, hcx⟩ := newcomer?_id hc
    rintro ⟨d, hd, -⟩
    rw [hcx, hnew x (List.mem_of_getElem? hx)] at hd
    cases hd

/-- Of those who are registered with a free email address, somebody is kept: whoever is refused is so
because of somebody who has the address, and who can only be another of them. -/
theorem Enrolling.exists_kept (h : p.Enrolling b commands known stage) {email : Email}
    (hfree : ∀ c ∈ b.repositories.customers.values, c.email ≠ email)
    (hdone : ∀ i, isRival commands email i = true → (p.result? i).isSome = true)
    (hi : isRival commands email i = true) :
    ∃ j c, newcomer? commands j = some c ∧ c.email = email ∧ stage j = .enrolled := by
  obtain ⟨c, hc, rfl⟩ := isRival_iff.mp hi
  obtain ⟨x, hx⟩ := Option.isSome_iff_exists.mp (hdone i hi)
  rcases h.outcome hc hx with ⟨hstage, -⟩ | ⟨hstage, -⟩
  · exact ⟨i, c, hc, rfl, hstage⟩
  · obtain ⟨id, he⟩ := h.refused i c hc hstage
    rcases (h.origin id c.email).mp he with hold | ⟨j, d, hd, hj, -, hemail⟩
    · obtain ⟨d, hd, hemail⟩ := exists_enrolled.mp ⟨id, hold⟩
      exact absurd hemail (hfree d hd)
    · exact ⟨j, d, hd, hemail, hj⟩

/-- Nobody else is kept with the same email address. -/
theorem Enrolling.kept_unique (h : p.Enrolling b commands known stage) (hids : NewIds b commands)
    {j : Nat} {c d : Customer} (hc : newcomer? commands i = some c) (hi : stage i = .enrolled)
    (hd : newcomer? commands j = some d) (hj : stage j = .enrolled) (hsame : c.email = d.email) :
    i = j := by
  obtain ⟨x, hx, hcx⟩ := (h.origin _ _).mpr (.inr ⟨i, c, hc, hi, rfl, rfl⟩)
  obtain ⟨y, hy, hdy⟩ := (h.origin _ _).mpr (.inr ⟨j, d, hd, hj, rfl, rfl⟩)
  have hid := h.clientele.emails _ _ x y hx hy (hcx.trans (hsame.trans hdy.symm))
  exact hids.distinct i j c d hc hd hid

/-- Whoever has not been kept has no customer of theirs. -/
theorem Enrolling.not_kept (h : p.Enrolling b commands known stage) (hids : NewIds b commands)
    {c : Customer} (hc : newcomer? commands i = some c) (hi : stage i ≠ .enrolled) :
    ∀ entry, commands[i]? = some entry →
      p.backend.repositories.customers.get? (entry.1.id .customer) = none := by
  intro entry hentry
  obtain ⟨x, hx, hid⟩ := newcomer?_id hc
  cases hentry.symm.trans hx
  rw [← hid]
  by_contra hget
  obtain ⟨e, he⟩ := Option.ne_none_iff_exists'.mp hget
  exact h.not_enrolled hids hc hi e.email ⟨e, he, rfl⟩

/-- **Of those who are registered with a free email address, one is kept**, and all others conflict
with that one. -/
theorem Enrolling.one_wins (h : p.Enrolling b commands known stage) (hids : NewIds b commands)
    {email : Email} (hfree : ∀ c ∈ b.repositories.customers.values, c.email ≠ email)
    (hsome : ∃ i, isRival commands email i = true)
    (hdone : ∀ i, isRival commands email i = true → (p.result? i).isSome = true) :
    ∃ winner, p.OneWins commands email winner := by
  obtain ⟨i, hi⟩ := hsome
  obtain ⟨winner, c, hc, hemail, hwin⟩ := h.exists_kept hfree hdone hi
  have hrival := isRival_iff.mpr ⟨c, hc, hemail⟩
  obtain ⟨x, hx⟩ := Option.isSome_iff_exists.mp (hdone winner hrival)
  refine ⟨winner, hrival, ⟨c.settled, ?_, hemail, ?_⟩, fun j hj hrival => ?_⟩
  · rcases h.outcome hc hx with ⟨-, rfl⟩ | ⟨hstage, -⟩
    · exact hx
    · rw [hwin] at hstage
      cases hstage
  · exact (h.origin _ _).mpr (.inr ⟨winner, c, hc, hwin, rfl, hemail⟩)
  · obtain ⟨d, hd, hsame⟩ := isRival_iff.mp hrival
    obtain ⟨y, hy⟩ := Option.isSome_iff_exists.mp (hdone j hrival)
    rcases h.outcome hd hy with ⟨hstage, -⟩ | ⟨hstage, rfl⟩
    · exact absurd (h.kept_unique hids hd hstage hc hwin (hsame.trans hemail.symm)) hj
    · refine ⟨⟨_, hy, rfl⟩, h.not_kept hids hd ?_⟩
      rw [hstage]
      exact nofun

/-! ### All together -/

/-- What is to be said of email addresses when some commands run together. -/
structure AddressesApart (b : Backend) (commands : List (Supply × Command))
    (schedule : List Turn) : Prop where
  /-- No email address stands twice. -/
  nodup : (((start b commands).run schedule).backend.repositories.customers.values.map
    (·.email)).Nodup
  /-- Whoever looks for an email address has one customer to find at most. -/
  candidates : ∀ email, (((start b commands).run schedule).backend.repositories.customers.values.filter
    fun c => c.email == email).length ≤ 1
  /-- Everybody is found by their email address. -/
  found : ∀ c ∈ ((start b commands).run schedule).backend.repositories.customers.values,
    ((start b commands).run schedule).backend.repositories.findCustomerByEmail c.email = .ok c
  /-- Whoever is registered then while nobody else does anything is kept if nobody has the
  address. -/
  alone : ((start b commands).run schedule).backend.faults = .none →
    ∀ supply command email, Command.registersAs email command = true →
      ((start b commands).run schedule).backend.RegistersAlone supply command email
  /-- Whoever registers somebody has come to an end after six turns, whatever the others do. -/
  ends : ∀ email i, isRival commands email i = true → 6 ≤ schedule.count (.task i) →
    (((start b commands).run schedule).result? i).isSome = true
  /-- Of those who have been registered together with an address that was free, one is kept. -/
  together : b.faults = .none → (∀ turn ∈ schedule, turn.ofTasks = true) →
    Backend.Fresh commands →
    (∀ c ∈ commands, b.repositories.customers.get? (c.1.id .customer) = none) →
    ∀ email, (∀ c ∈ b.repositories.customers.values, c.email ≠ email) →
      (∃ i, isRival commands email i = true) →
      (∀ i, isRival commands email i = true →
        (((start b commands).run schedule).result? i).isSome = true) →
      ∃ winner, ((start b commands).run schedule).OneWins commands email winner

/-- **No two customers have one email address**, whatever commands and deliveries run together. -/
theorem addresses_apart (b : Backend) (hb : b.repositories.Clientele)
    (commands : List (Supply × Command)) (schedule : List Turn) :
    AddressesApart b commands schedule := by
  have hclientele := clientele_run (p := start b commands) hb schedule
  refine ⟨hclientele.nodup_emails, hclientele.candidates_le_one, fun c hc => hclientele.found hc,
    fun hf supply command email h => Backend.registersAlone hf h, fun email i hi hturns => ?_,
    fun hf hs hfresh hnew email hfree hsome hdone => ?_⟩
  · obtain ⟨c, hc, -⟩ := isRival_iff.mp hi
    exact registration_ends hc schedule hturns
  · have hids := newIds hfresh hnew
    obtain ⟨known, stage, h⟩ := (Enrolling.start hb).run hf (UnitsApart.start (by rw [hf]; rfl) _) hids hs
    exact h.one_wins hids hfree hsome hdone

/-- Ann changes her phone number while three people register as Bob. -/
def namesakes : List (Supply × Command) := [
  (Supply.nth 6, .register " Bob@Example.com" "Bob" "Lee"),
  (Supply.nth 7, .updateContact Sample.ann "555-000-1234" default),
  (Supply.nth 8, .register "bob@example.COM " "Robert" "Ray"),
  (Supply.nth 9, .register "bob@example.com" "Bobby" "Orr")]

/-- All four take turns, so that all three have looked for the address before one is kept. -/
theorem addresses_apart_namesakes :
    let p := (start Sample.opened namesakes).run (rounds 4 20)
    (∃ winner, p.OneWins namesakes ⟨"bob@example.com"⟩ winner) ∧
      (p.backend.repositories.customers.values.map (·.email)).Nodup ∧
      p.backend.RegistersAlone (Supply.nth 10) (.register "ANN@example.com" "Ann" "Lee")
        ⟨"ann@example.com"⟩ := by
  have hclientele := (Backend.executeAll_clientele (b := Backend.empty)
    (Sample.numbered Sample.opening) rfl Repositories.Clientele.empty).1
  have h := addresses_apart Sample.opened hclientele namesakes (rounds 4 20)
  have hturns : ∀ i < 4, 6 ≤ (rounds 4 20).count (.task i) := by decide +kernel
  exact ⟨h.together (by decide +kernel) (by decide +kernel) (by decide +kernel)
    (by decide +kernel) _ (by decide +kernel) ⟨0, by decide +kernel⟩
    fun i hi => h.ends _ i hi (hturns i (lt_of_isRival hi)), h.nodup,
    h.alone (by decide +kernel) _ _ _ (by decide +kernel)⟩

end Pool

end Storefront
