import Storefront.Proofs.Addresses
import Storefront.Proofs.LowerCase

/-! # However an email address is entered

An email address is kept in one spelling: entered once more in the one in which it is kept, it stays
the same (`Email.canonical_of_parse?`), and letters of ASCII in another case or white space around
it make no difference (`Email.parse?_respells`).

Whoever is registered is registered in this spelling, and nobody is ever written back in another
one.  So everybody who is kept has their address in it, whatever commands and deliveries run
together (`Pool.Spelled.run`), is found by each of its spellings, and nobody else can be registered
in any (`Pool.spellings_collide`).
-/
namespace Storefront

open Repositories

/-! ### Spellings -/

/-- The same text as it may be entered otherwise: with letters of ASCII in another case, and with
white space in front of it and behind it. -/
inductive Text.Respells (s : String) : String → Prop where
  | mk {front t back : String} (hletters : Text.eqIgnoringCase s t = true)
      (hfront : Text.isBlank front = true) (hback : Text.isBlank back = true) :
      Respells s (front ++ t ++ back)

namespace Email

variable {s t : String} {e : Email}

/-- Whatever the spelling, it is normalized to one. -/
theorem normalize_respells (h : Text.Respells s t) : normalize t = normalize s := by
  obtain ⟨hletters, hfront, hback⟩ := h
  rename_i front t back
  have hlower : Text.asciiLower t = Text.asciiLower s := (beq_iff_eq.mp hletters).symm
  calc normalize (front ++ t ++ back)
    _ = Text.lowercase (Text.asciiLower (Text.trim t)) := by
      rw [normalize, Text.trim_append hfront hback, Text.lowercase_asciiLower]
    _ = Text.lowercase (Text.asciiLower (Text.trim s)) := by
      rw [← Text.trim_asciiLower, hlower, Text.trim_asciiLower]
    _ = normalize s := Text.lowercase_asciiLower _

/-- What is normalized stays so. -/
theorem normalize_normalize (s : String) : normalize (normalize s) = normalize s := by
  rw [normalize, normalize, Text.trim_lowercase_trim, Text.lowercase_lowercase]

/-- **All spellings of an address are read as the same.** -/
theorem parse?_respells (h : Text.Respells s t) : parse? t = parse? s := by
  rw [parse?, parse?, normalize_respells h]

/-- The address is read as itself in the spelling in which it is kept. -/
def Canonical (e : Email) : Prop := parse? e.text = some e

/-- **What is read as an address is canonical.** -/
theorem canonical_of_parse? (h : parse? s = some e) : e.Canonical := by
  unfold parse? at h
  obtain ⟨hvalid, he⟩ := Option.ite_none_right_eq_some.mp h
  rw [Canonical, ← Option.some.inj he, parse?, normalize_normalize, if_pos hvalid]

theorem make_eq_ok_iff : make s = .ok e ↔ parse? s = some e := by
  unfold make
  cases parse? s <;> simp

theorem make_eq_error_iff {x : CustomerError} :
    make s = .error x ↔ parse? s = none ∧ x = .invalidEmail s := by
  unfold make
  cases parse? s <;> simp [eq_comm]

end Email

/-! ### Who is kept in which spelling -/

/-- Nobody shares an email address, and everybody has it in the spelling in which it is read. -/
structure Repositories.Spelled (r : Repositories) : Prop extends r.Clientele where
  canonical : ∀ id c, r.customers.get? id = some c → c.email.Canonical

theorem Repositories.Spelled.empty : Repositories.empty.Spelled where
  toClientele := .empty
  canonical _ _ h := nomatch h

open Job in
/-- Whoever registers somebody keeps nobody else. -/
theorem Command.minds_newcomer {command : Command} {supply : Supply} {c : Customer}
    (h : command.newcomer? supply = some c) :
    (command.job supply).run.Minds [(c.id, c.email)] := by
  have hpublish (k : Except Error Unit → TaskScript) (hk : ∀ x, (k x).Asks Ask.SavesNobody) :
      ((publish c.news).andThen k).Minds [(c.id, c.email)] :=
    Script.minds_of_asks (Script.Asks.bind (asks_publish trivial) hk)
  rw [Command.job_of_newcomer? h, committed, andThen_bind, andThen_inUnit]
  simp only [andThen_bind, Accounts.ensureEmailFree, andThen_attempt]
  refine ⟨trivial, fun u => ⟨trivial, fun begun => ?_⟩⟩
  cases begun with
  | error e => trivial
  | ok =>
    refine ⟨trivial, fun found => ?_⟩
    cases found with
    | ok d => exact ⟨trivial, fun _ => trivial⟩
    | error e =>
      dsimp only [Script.bind]
      split
      · refine ⟨List.mem_singleton.mpr rfl, fun saved => ?_⟩
        cases saved with
        | error e => exact ⟨trivial, fun _ => trivial⟩
        | ok =>
          refine ⟨trivial, fun closed => ?_⟩
          cases closed with
          | error e => trivial
          | ok => exact hpublish _ fun x => by cases x <;> trivial
      · exact ⟨trivial, fun _ => trivial⟩

/-- **One question**: addresses are kept as they are read, if those of whom the script has found
are, and of whom it finds then they are as well. -/
theorem Script.Minds.spelled {α : Type} {known : List (CustomerId × Email)} {b : Backend} {q : Ask}
    {next : q.Answer → Script α} (h : (ask q next).Minds known) (hb : b.repositories.Spelled)
    (hknown : ∀ x ∈ known, x.2.Canonical) :
    (b.answer q).2.repositories.Spelled ∧
      ∀ x ∈ q.found known (b.answer q).1, x.2.Canonical := by
  constructor
  · refine { toClientele := hb.toClientele.answer q, canonical := fun id c hc => ?_ }
    rcases b.answer_customers q with heq | ⟨d, rfl, hsave⟩
    · rw [heq] at hc
      exact hb.canonical id c hc
    · rw [saveCustomer_eq_ok hsave] at hc
      have hc : (b.repositories.customers.insert d.id d.settled).get? id = some c := hc
      rw [Table.get?_insert] at hc
      split at hc
      · have hemail : d.settled.email = c.email := congrArg Customer.email (Option.some.inj hc)
        rw [← hemail]
        exact hknown (d.id, d.email) h.1
      · exact hb.canonical id c hc
  · cases q with
    | findCustomer id =>
      cases hfind : (b.answer (.findCustomer id)).1 with
      | error e => exact hknown
      | ok c =>
        intro x hx
        rcases List.mem_cons.mp hx with rfl | hx
        · exact hb.canonical id c (Backend.answer_findCustomer hfind)
        · exact hknown x hx
    | _ => exact hknown

namespace Pool

variable {p : Pool} {b : Backend} {commands : List (Supply × Command)}
  {known : Nat → List (CustomerId × Email)}

/-- **Everybody who is kept has their address as it is read**, and so has whoever a task has found
or registers. -/
structure Spelled (p : Pool) (known : Nat → List (CustomerId × Email)) : Prop where
  stored : p.backend.repositories.Spelled
  minds : ∀ (i : Nat) (t : TaskScript), p.tasks[i]? = some t → t.Minds (known i)
  known : ∀ i, ∀ x ∈ known i, x.2.Canonical

namespace Spelled

/-- Whom a task registers, with the address. -/
def newcomers (commands : List (Supply × Command)) (i : Nat) : List (CustomerId × Email) :=
  ((newcomer? commands i).map fun c => (c.id, c.email)).toList

theorem start (hb : b.repositories.Spelled) :
    (Pool.start b commands).Spelled (newcomers commands) where
  stored := hb
  minds i t ht := by
    obtain ⟨supply, command, hi, rfl⟩ := of_start ht
    have hnewcomer : newcomer? commands i = command.newcomer? supply := by
      rw [newcomer?, hi]
      rfl
    rw [newcomers, hnewcomer]
    cases hc : command.newcomer? supply with
    | none => exact (Command.minds hc).run
    | some c => exact Command.minds_newcomer hc
  known i x hx := by
    unfold newcomers at hx
    cases hc : newcomer? commands i with
    | none =>
      rw [hc] at hx
      cases hx
    | some c =>
      rw [hc] at hx
      obtain rfl := List.mem_singleton.mp hx
      obtain ⟨⟨supply, command⟩, _, hc⟩ := Option.bind_eq_some_iff.mp hc
      obtain ⟨entered, firstName, lastName, _, hregister⟩ := Command.register_of_newcomer? hc
      have hparse := (Customer.register_eq_ok_iff _ _).mp ⟨c, hregister, rfl⟩
      exact Email.canonical_of_parse? hparse.2.2

/-- **Every turn leaves it so**, whichever switches are set. -/
theorem step (h : p.Spelled known) (turn : Turn) : ∃ known', (p.step turn).Spelled known' := by
  cases turn with
  | task i =>
    show ∃ known', (p.stepTask i).Spelled known'
    rcases p.stepTask_cases i with hstep | ⟨key, hstep⟩ | ⟨q, next, queue, ht, hstep, -, -⟩
    · rw [hstep]
      exact ⟨known, h⟩
    · rw [hstep]
      exact ⟨known, h.stored, h.minds, h.known⟩
    · rw [hstep]
      have hminds := h.minds i _ ht
      obtain ⟨hstored, hfound⟩ := hminds.spelled h.stored (h.known i)
      refine ⟨Function.update known i (q.found (known i) (p.backend.answer q).1), hstored,
        fun j t hj => ?_, ?_⟩
      · rcases of_answered hj with ⟨rfl, rfl⟩ | ⟨hji, hj⟩
        · rw [Function.update_self]
          exact hminds.2 _
        · rw [Function.update_of_ne hji]
          exact h.minds j t hj
      · exact (Function.forall_update_iff known
          (p := fun _ k => ∀ x ∈ k, x.2.Canonical)).mpr ⟨hfound, fun j _ => h.known j⟩
  | deliver =>
    obtain ⟨hrepos, -, -, -⟩ := p.deliverNext_frame
    -- the listener has found nobody yet
    refine ⟨fun i => if p.tasks[i]? = none then [] else known i, hrepos ▸ h.stored,
      fun i t ht => ?_, fun i x hx => ?_⟩
    · rcases of_deliverNext ht with ht | ⟨hnone, d, rfl⟩
      · rw [if_neg (by rw [ht]; exact nofun)]
        exact h.minds i t ht
      · rw [if_pos hnone]
        exact ((Loyalty.minds_deliver d).map _).run
    · split at hx
      · cases hx
      · exact h.known i x hx
  | faults faults => exact ⟨known, h.stored, h.minds, h.known⟩

/-- **So does every schedule.** -/
theorem run (h : p.Spelled known) (schedule : List Turn) :
    ∃ known', (p.run schedule).Spelled known' := by
  induction schedule generalizing p known with
  | nil => exact ⟨known, h⟩
  | cons turn rest ih =>
    obtain ⟨known', h'⟩ := h.step turn
    exact ih h'

end Spelled

end Pool

/-! ### All together -/

/-- What comes of an email address that is entered in some spelling while a customer has it. -/
structure Backend.Meets (b : Backend) (c : Customer) (entered : String) : Prop where
  /-- It is read as the customer's, -/
  reads : Email.parse? entered = some c.email
  /-- by which they are found. -/
  found : b.repositories.findCustomerByEmail c.email = .ok c
  /-- Nobody else can be kept with it, -/
  taken : ∀ d : Customer, d.id ≠ c.id → Email.parse? entered = some d.email →
    b.repositories.saveCustomer d = .error (.customer (.emailTaken c.email.text))
  /-- and whoever is registered with it, while nobody else does anything, conflicts with the
  customer, active or not; everything stays as it is. -/
  refused : b.faults = .none → ∀ (supply : Supply) (firstName lastName : String),
    Text.isBlank firstName = false → Text.isBlank lastName = false →
      ∃ e, (b.perform ((Command.register entered firstName lastName).job supply)).1 = .error e ∧
        e.kind = .conflict ∧
        (b.perform ((Command.register entered firstName lastName).job supply)).2.repositories =
          b.repositories

/-- Whatever is read as the address of somebody who is kept meets them. -/
theorem Backend.meets {b : Backend} (hb : b.repositories.Clientele) {c : Customer}
    (hc : c ∈ b.repositories.customers.values) {entered : String}
    (h : Email.parse? entered = some c.email) : b.Meets c entered where
  reads := h
  found := hb.found hc
  taken d hid hd := by
    have hemail : d.email = c.email := Option.some.inj (hd.symm.trans h)
    unfold saveCustomer
    rw [if_pos, hemail]
    refine List.any_eq_true.mpr ⟨c, hc, ?_⟩
    rw [hemail, beq_self_eq_true, Bool.true_and, bne_iff_ne]
    exact hid.symm
  refused hf supply firstName lastName hfirst hlast := by
    refine (Backend.registersAlone hf ?_).conflicts ⟨c, hc, rfl⟩
    rw [Command.registersAs, hfirst, hlast, h]
    exact beq_self_eq_true _

/-- **An email address is the same in all of its spellings**, and so is the customer who has it,
whatever commands and deliveries have run together and whatever switches have been set. -/
theorem Pool.spellings_collide (b : Backend) (hb : b.repositories.Spelled)
    (commands : List (Supply × Command)) (schedule : List Turn) :
    (∀ s e, Email.make s = .ok e → Email.make e.text = .ok e) ∧
      (∀ s t, Text.Respells s t → (∀ e, Email.make s = .ok e → Email.make t = .ok e) ∧
        ∀ x, Email.make s = .error x → Email.make t = .error (.invalidEmail t)) ∧
      ((start b commands).run schedule).backend.repositories.Spelled ∧
      ∀ c ∈ ((start b commands).run schedule).backend.repositories.customers.values,
        ((start b commands).run schedule).backend.Meets c c.email.text ∧
          ∀ s t, Email.parse? s = some c.email → Text.Respells s t →
            ((start b commands).run schedule).backend.Meets c t := by
  have hstart : (start b commands).Spelled (Spelled.newcomers commands) := .start hb
  obtain ⟨known, hrun⟩ := hstart.run schedule
  have hstored := hrun.stored
  refine ⟨fun s e h => ?_, fun s t h => ⟨fun e he => ?_, fun x hx => ?_⟩, hstored,
    fun c hc => ⟨?_, fun s t hs ht => ?_⟩⟩
  · exact Email.make_eq_ok_iff.mpr (Email.canonical_of_parse? (Email.make_eq_ok_iff.mp h))
  · rw [Email.make_eq_ok_iff] at he ⊢
    rwa [Email.parse?_respells h]
  · rw [Email.make_eq_error_iff] at hx ⊢
    rw [Email.parse?_respells h]
    exact ⟨hx.1, rfl⟩
  · obtain ⟨id, hid⟩ := Table.mem_values_iff.mp hc
    exact Backend.meets hstored.toClientele hc (hstored.canonical id c hid)
  · exact Backend.meets hstored.toClientele hc ((Email.parse?_respells ht).trans hs)

/-- Two people register with one address, one of them with the sign for kelvins in it. -/
def Pool.homographs : List (Supply × Command) := [
  (Supply.nth 0, .register " \u212Aim@Example.com" "Kim" "Lee"),
  (Supply.nth 1, .register "kIM@EXAMPLE.com\u3000" "Kay" "Orr")]

theorem Pool.spellings_collide_homographs :
    let p := (start Backend.empty homographs).run (rounds 2 8)
    Backend.empty.repositories.Spelled ∧
      p.backend.repositories.customers.values.map (fun c => (c.firstName, c.email.text)) =
        [("Kim", "kim@example.com")] ∧
      ∃ c ∈ p.backend.repositories.customers.values,
        p.backend.Meets c ("\u2003" ++ "KIM@example.COM" ++ "\n") := by
  have hempty : Backend.empty.repositories.Spelled := .empty
  have hkept :
      ((start Backend.empty homographs).run
        (rounds 2 8)).backend.repositories.customers.values.map
          (fun c => (c.firstName, c.email.text)) = [("Kim", "kim@example.com")] := by
    decide +kernel
  refine ⟨hempty, hkept, ?_⟩
  have hkim : ("Kim", "kim@example.com") ∈ [("Kim", "kim@example.com")] :=
    List.mem_singleton.mpr rfl
  rw [← hkept] at hkim
  obtain ⟨c, hc, hkim⟩ := List.mem_map.mp hkim
  obtain ⟨hself, hmeets⟩ :=
    (spellings_collide Backend.empty hempty homographs (rounds 2 8)).2.2.2 c hc
  refine ⟨c, hc, hmeets c.email.text _ hself.reads ?_⟩
  have htext : c.email.text = "kim@example.com" := congrArg Prod.snd hkim
  rw [htext]
  exact .mk (by decide) (by decide) (by decide)

end Storefront
