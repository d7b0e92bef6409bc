import Storefront.Proofs.Backlog
import Storefront.Proofs.Clientele

/-! # Who is registered with which address

A customer is kept only if nobody else has the same email address, and that is looked up and done
as one.  So no two customers have one address, whatever scripts ask in whatever order
(`Repositories.Clientele.answer`).

Whoever is registered with an address stays so.  A script writes a customer back only with the
identifier and the address that it has found them with (`Script.Minds`), unless it registers a
new one.  So do all commands (`Command.minds`) and all deliveries (`Loyalty.minds_deliver`).
-/
namespace Storefront

/-- Somebody is kept under an identifier with an email address. -/
def Repositories.Enrolled (r : Repositories) (id : CustomerId) (email : Email) : Prop :=
  ∃ c, r.customers.get? id = some c ∧ c.email = email

namespace Repositories

variable {r r' : Repositories} {c : Customer} {id : CustomerId} {email : Email}

theorem enrolled_congr (h : r'.customers = r.customers) : r'.Enrolled id email ↔ r.Enrolled id email := by
  rw [Enrolled, Enrolled, h]

/-- Who is kept is enrolled with the email address that they are kept with, and everybody else
stays as they are. -/
theorem enrolled_saveCustomer (h : r.saveCustomer c = .ok r') :
    r'.Enrolled id email ↔ if id = c.id then email = c.email else r.Enrolled id email := by
  rw [saveCustomer_eq_ok h, Enrolled, Enrolled]
  simp only [Table.get?_insert]
  split
  · simp only [Option.some.injEq, exists_eq_left']
    exact eq_comm
  · exact Iff.rfl

/-- Nobody has two email addresses. -/
theorem Enrolled.email_eq {email' : Email} (h : r.Enrolled id email) (h' : r.Enrolled id email') :
    email = email' := by
  obtain ⟨c, hc, rfl⟩ := h
  obtain ⟨d, hd, rfl⟩ := h'
  cases hc.symm.trans hd
  rfl

/-- Keeping somebody with the email address that they are enrolled with changes nothing. -/
theorem Enrolled.saveCustomer (hc : r.Enrolled c.id c.email) (h : r.saveCustomer c = .ok r') :
    r'.Enrolled id email ↔ r.Enrolled id email := by
  rw [enrolled_saveCustomer h]
  split
  · rename_i heq
    subst heq
    exact ⟨fun he => he ▸ hc, fun he => he.email_eq hc⟩
  · exact Iff.rfl

end Repositories

/-! ### What a question does to customers -/

/-- Whoever has the email address of a customer who may be kept is that customer. -/
theorem Repositories.saveCustomer_free {r r' : Repositories} {c : Customer}
    (h : r.saveCustomer c = .ok r') :
    ∀ d ∈ r.customers.values, d.email = c.email → d.id = c.id := by
  unfold saveCustomer at h
  split at h
  · cases h
  · rename_i hnobody
    intro d hd hemail
    by_contra hid
    exact hnobody (List.any_eq_true.mpr ⟨d, hd, by simp [hemail, hid]⟩)

/-- A customer who may not be kept has the email address of somebody else. -/
theorem Repositories.saveCustomer_taken {r : Repositories} {c : Customer} {e : Error}
    (h : r.saveCustomer c = .error e) :
    e = .customer (.emailTaken c.email.text) ∧
      ∃ d ∈ r.customers.values, d.email = c.email ∧ d.id ≠ c.id := by
  unfold saveCustomer at h
  split at h
  · rename_i hsome
    cases h
    obtain ⟨d, hd, hboth⟩ := List.any_eq_true.mp hsome
    exact ⟨rfl, d, hd, by simpa using hboth⟩
  · cases h

/-- The question keeps no customer. -/
def Ask.SavesNobody : Ask → Prop
  | .saveCustomer _ => False
  | _ => True

theorem Ask.LeavesAccounts.savesNobody {q : Ask} (h : q.LeavesAccounts) : q.SavesNobody := by
  cases q <;> trivial

theorem Ask.Writes.customers_eq {q : Ask} {r r' : Repositories} (h : q.Writes r r')
    (hq : q.SavesNobody) : r'.customers = r.customers := by
  cases h with
  | nothing | store | order => rfl
  | customer => exact hq.elim

/-- A question leaves all customers as they are, unless a customer is kept who may be. -/
theorem Backend.answer_customers (b : Backend) (q : Ask) :
    (b.answer q).2.repositories.customers = b.repositories.customers ∨
      ∃ c, q = .saveCustomer c ∧
        b.repositories.saveCustomer c = .ok (b.answer q).2.repositories := by
  cases q with
  | saveCustomer c =>
    rcases b.save_frame b.faults.saveCustomers (·.saveCustomer c) with heq | ⟨r, hr, heq⟩
    · exact .inl (congrArg (fun b => b.repositories.customers) heq)
    · refine .inr ⟨c, rfl, ?_⟩
      show _ = Except.ok (b.save _ _).2.repositories
      rw [heq]
      exact hr
  | _ => exact .inl ((b.answer_writes _).customers_eq trivial)

/-- **Whatever is asked, no two customers come to have one email address.** -/
theorem Repositories.Clientele.answer {b : Backend} (h : b.repositories.Clientele) (q : Ask) :
    (b.answer q).2.repositories.Clientele := by
  rcases b.answer_customers q with heq | ⟨c, rfl, hsave⟩
  · exact h.of_eq heq
  · rw [saveCustomer_eq_ok hsave]
    refine h.insert fun key d hkey hd hemail => hkey ?_
    rw [← h.keyed key d hd]
    exact saveCustomer_free hsave d (Table.mem_values_iff.mpr ⟨key, hd⟩) hemail

/-! ### Scripts that mind whom they have found -/

/-- Whom a script has found, once a question has been answered. -/
def Ask.found (known : List (CustomerId × Email)) : (q : Ask) → q.Answer → List (CustomerId × Email)
  | .findCustomer _, .ok c => (c.id, c.email) :: known
  | _, _ => known

/-- The question keeps nobody but those found. -/
def Ask.Minds (known : List (CustomerId × Email)) : Ask → Prop
  | .saveCustomer c => (c.id, c.email) ∈ known
  | _ => True

namespace Script

variable {α β : Type} {known : List (CustomerId × Email)}

/-- Having found some customers already, the script keeps nobody with another identifier or another
email address than it has found them with. -/
def Minds : List (CustomerId × Email) → Script α → Prop
  | _, .done _ => True
  | known, .ask q next => q.Minds known ∧ ∀ a, (next a).Minds (q.found known a)

theorem minds_of_asks {s : Script α} (hs : s.Asks Ask.SavesNobody) : s.Minds known := by
  induction s generalizing known with
  | done a => trivial
  | ask q next ih =>
    refine ⟨?_, fun a => ih a (hs.2 a)⟩
    cases q with
    | saveCustomer c => exact hs.1.elim
    | _ => trivial

/-- Whom a script has found when a question has been answered is enrolled, as long as those are
whom it had found before. -/
theorem found_enrolled {b : Backend} (hb : b.repositories.KeyedCustomers) {q : Ask}
    (hknown : ∀ x ∈ known, (b.answer q).2.repositories.Enrolled x.1 x.2) :
    ∀ x ∈ q.found known (b.answer q).1, (b.answer q).2.repositories.Enrolled x.1 x.2 := by
  cases q with
  | findCustomer id =>
    cases hfind : (b.answer (.findCustomer id)).1 with
    | error e => exact hknown
    | ok c =>
      intro x hx
      rcases List.mem_cons.mp hx with rfl | hx
      · have hget := Backend.answer_findCustomer hfind
        refine ⟨c, ?_, rfl⟩
        rw [hb id c hget]
        exact hget
      · exact hknown x hx
  | _ => exact hknown

/-- **One question**: everybody stays enrolled as they are, and the script goes on minding whom it
has found, all of whom are enrolled. -/
theorem Minds.step {b : Backend} (hb : b.repositories.KeyedCustomers) {q : Ask}
    {next : q.Answer → Script α} (h : (ask q next).Minds known)
    (hknown : ∀ x ∈ known, b.repositories.Enrolled x.1 x.2) :
    (∀ id email, (b.answer q).2.repositories.Enrolled id email ↔ b.repositories.Enrolled id email) ∧
      (next (b.answer q).1).Minds (q.found known (b.answer q).1) ∧
      ∀ x ∈ q.found known (b.answer q).1, (b.answer q).2.repositories.Enrolled x.1 x.2 := by
  have hsame : ∀ id email,
      (b.answer q).2.repositories.Enrolled id email ↔ b.repositories.Enrolled id email := by
    rcases b.answer_customers q with heq | ⟨c, rfl, hsave⟩
    · exact fun _ _ => Repositories.enrolled_congr heq
    · exact fun _ _ => (hknown _ h.1).saveCustomer hsave
  exact ⟨hsame, h.2 _, found_enrolled hb fun x hx => (hsame _ _).mpr (hknown x hx)⟩

end Script

namespace Job

variable {α β : Type} {known : List (CustomerId × Email)}

/-- Whatever comes behind it, as long as that keeps no customer, the job minds whom it has
found. -/
structure Minds (known : List (CustomerId × Email)) (job : Job α) : Prop where
  andThen : ∀ {β : Type} (k : Except Error α → Script β), (∀ x, (k x).Asks Ask.SavesNobody) →
    (job.andThen k).Minds known

theorem Minds.run {job : Job α} (h : job.Minds known) : Script.Minds known job.run := by
  rw [← andThen_done]
  exact h.andThen .done fun x => trivial

theorem minds_of_asks {job : Job α} (h : job.Asks Ask.SavesNobody) : job.Minds known :=
  ⟨fun _ hk => Script.minds_of_asks (Script.Asks.bind h hk)⟩

theorem Minds.bind {job : Job α} {f : α → Job β} (hj : job.Minds known)
    (hf : ∀ a, (f a).Asks Ask.SavesNobody) : (job >>= f).Minds known := by
  refine ⟨fun k hk => ?_⟩
  rw [andThen_bind]
  refine hj.andThen _ fun x => ?_
  cases x with
  | ok a => exact Script.Asks.bind (hf a) hk
  | error e => exact hk _

theorem Minds.map {job : Job α} (hj : job.Minds known) (g : α → β) :
    (g <$> job).Minds known := by
  rw [map_eq_pure_bind]
  exact hj.bind fun a => asks_pure (g a)

theorem Minds.attempt {job : Job α} (hj : job.Minds known) : job.attempt.Minds known := by
  refine ⟨fun k hk => ?_⟩
  rw [andThen_attempt]
  exact hj.andThen _ fun x => hk _

theorem Minds.withLock {job : Job α} {key : LockKey} (hj : job.Minds known) :
    (job.withLock key).Minds known := by
  refine ⟨fun k hk => ?_⟩
  rw [andThen_withLock]
  exact ⟨trivial, fun _ => hj.andThen _ fun x => ⟨trivial, fun _ => hk x⟩⟩

theorem Minds.committed {job : Job α} (hj : job.Minds known) :
    (Job.committed job).Minds known := by
  refine ⟨fun k hk => ?_⟩
  rw [Job.committed, andThen_bind, andThen_inUnit]
  refine ⟨trivial, fun u => ⟨trivial, fun x => ?_⟩⟩
  cases x with
  | error e => exact Script.minds_of_asks (hk _)
  | ok =>
    refine hj.andThen _ fun x => ?_
    cases x with
    | error e => exact ⟨trivial, fun _ => hk _⟩
    | ok a =>
      refine ⟨trivial, fun y => ?_⟩
      cases y with
      | error e => exact hk _
      | ok => exact hk _

/-- What is decided without a question may be refused, or gone on with. -/
theorem minds_ofResult_bind {x : Except Error α} {f : α → Job β}
    (hf : ∀ a, x = .ok a → (f a).Minds known) : (ofResult x >>= f).Minds known := by
  refine ⟨fun k hk => ?_⟩
  rw [andThen_bind, andThen_ofResult]
  cases x with
  | error e => exact Script.minds_of_asks (hk _)
  | ok a => exact (hf a rfl).andThen k hk

theorem minds_findCustomer_bind {id : CustomerId} {f : Customer → Job β}
    (hf : ∀ c, (f c).Minds ((c.id, c.email) :: known)) :
    (findCustomer id >>= f).Minds known := by
  refine ⟨fun k hk => ?_⟩
  rw [andThen_bind]
  refine ⟨trivial, fun x => ?_⟩
  cases x with
  | error e => exact Script.minds_of_asks (hk _)
  | ok c => exact (hf c).andThen k hk

theorem minds_saveCustomer {c : Customer} (h : (c.id, c.email) ∈ known) :
    (saveCustomer c).Minds known :=
  ⟨fun _ hk => ⟨h, fun x => Script.minds_of_asks (hk x)⟩⟩

end Job

/-! ### The commands -/

open Job

variable {supply : Supply}

theorem Accounts.minds_withCustomer {id : CustomerId}
    {change : Customer → Except CustomerError Customer}
    (hchange : ∀ c c', change c = .ok c' → c'.id = c.id ∧ c'.email = c.email) :
    (withCustomer id change).Minds [] := by
  unfold withCustomer
  refine Minds.bind (Minds.committed (Minds.withLock ?_)) fun c =>
    Asks.bind (asks_publish trivial) fun _ => asks_pure _
  refine minds_findCustomer_bind fun c => minds_ofResult_bind fun c' hc => ?_
  obtain ⟨hid, hemail⟩ := hchange c c' (mapError_eq_ok_iff.mp hc)
  refine Minds.bind (minds_saveCustomer ?_) fun _ => asks_pure _
  rw [hid, hemail]
  exact List.mem_cons_self ..

/-- Whom a command registers, if names and email address are in form. -/
def Command.newcomer? (supply : Supply) : Command → Option Customer
  | register email firstName lastName =>
    match Customer.register (supply.id .customer) email firstName lastName supply.now with
    | .ok c => some c
    | .error _ => none
  | _ => none

theorem Command.register_of_newcomer? {command : Command} {c : Customer}
    (h : command.newcomer? supply = some c) : ∃ email firstName lastName,
      command = .register email firstName lastName ∧
        Customer.register (supply.id .customer) email firstName lastName supply.now = .ok c := by
  cases command with
  | register email firstName lastName =>
    refine ⟨email, firstName, lastName, rfl, ?_⟩
    simp only [newcomer?] at h
    split at h
    · rename_i d hd
      rw [hd, Option.some.inj h]
    · cases h
  | _ => cases h

/-- **Every command minds whom it finds**, unless it registers somebody. -/
theorem Command.minds {command : Command} (h : command.newcomer? supply = none) :
    (command.job supply).Minds [] := by
  cases hkind : command.ofCustomers with
  | false => exact minds_of_asks (Script.Asks.mono (leavesAccounts hkind) fun _ h => h.savesNobody)
  | true =>
    cases command with
    | register email firstName lastName =>
      refine Minds.map (minds_ofResult_bind fun c hc => ?_) _
      have hregister : Customer.register (supply.id .customer) email firstName lastName
          supply.now = .ok c := mapError_eq_ok_iff.mp hc
      simp [newcomer?, hregister] at h
    | updateContact id phone address =>
      refine Minds.map (Accounts.minds_withCustomer fun c c' h => ?_) _
      exact ⟨(Customer.updateContact_account h).1, (Customer.updateContact_account h).2.1⟩
    | redeemPoints id points =>
      refine Minds.map (Accounts.minds_withCustomer fun c c' h => ?_) _
      exact ⟨(Customer.redeemPoints_account h).1, (Customer.redeemPoints_account h).2.1⟩
    | deactivateCustomer id =>
      refine Minds.map (Accounts.minds_withCustomer fun c c' h => ?_) _
      exact ⟨(Customer.deactivate_account h).1, (Customer.deactivate_account h).2.1⟩
    | _ => cases hkind

/-- Points make no difference to who has them. -/
theorem Customer.addPoints_account {c c' : Customer} {points : Count}
    (h : c.addPoints points = .ok c') : c'.id = c.id ∧ c'.email = c.email := by
  unfold addPoints at h
  by_cases hp : points = 0
  · rw [if_pos hp] at h
    cases h
  · rw [if_neg hp] at h
    obtain ⟨_, _, h⟩ := bind_eq_ok_iff.mp h
    cases hb : c.loyaltyPoints.add? points with
    | none =>
      rw [hb] at h
      cases h
    | some balance =>
      rw [hb] at h
      cases h
      exact ⟨(reviewTier_account _).1, (reviewTier_account _).2.1⟩

/-- **Every delivery minds whom it finds.** -/
theorem Loyalty.minds_deliver (d : Delivery) : (deliver d).Minds [] := by
  have hcredit (e : Payload) : (credit e).Minds [] := by
    unfold credit
    split
    · dsimp only
      split
      · exact minds_of_asks (asks_pure _)
      · refine Minds.withLock (minds_findCustomer_bind fun c => minds_ofResult_bind fun c' hc => ?_)
        obtain ⟨hid, hemail⟩ := Customer.addPoints_account (mapError_eq_ok_iff.mp hc)
        refine Minds.bind (minds_saveCustomer ?_) fun _ => asks_perform trivial
        rw [hid, hemail]
        exact List.mem_cons_self ..
    · exact minds_of_asks (asks_pure _)
  unfold deliver
  refine (hcredit d.payload).attempt.bind fun x => ?_
  cases x with
  | ok => exact asks_pure _
  | error e => exact asks_countOne trivial

end Storefront
