import Storefront.Proofs.Balance
import Storefront.Proofs.Listening

/-! # Points over a session

A session is a sequence of steps.  In each of them a command is carried out, or several commands for
stores and orders are carried out together, or the listener is told of an event directly; and at
the end of each, whatever is still on its way is delivered.

As long as the balances can hold all points, a step changes the balance of a customer by what is due
for the orders that it places, and by what the listener is told directly while the account is
open, less what is spent; and no delivery fails (`Moment.Adds`).  Hence after a session a balance is
what all the orders of the customer have been worth, and what the listener has been told directly,
less what has been spent (`Backend.points_accrued`).
-/
namespace Storefront

/-! ### Sessions -/

/-- A step of a session.  The commands of one step that are carried out together have their turns,
and so have the listeners that are told of what they publish. -/
inductive Step where
  | command (supply : Supply) (command : Command)
  | together (commands : List (Supply × Command)) (turns : List Pool.Turn)
  | tell (event : Payload)

/-- The commands of a step. -/
def Step.commands : Step → List (Supply × Command)
  | .command supply c => [(supply, c)]
  | .together commands _ => commands
  | .tell _ => []

/-- A step is done where others have gone before. -/
structure Moment where
  before : Backend
  step : Step

namespace Moment

/-- What comes of the commands of the step, and what the step leaves when all that is on its way has
been delivered. -/
def take (m : Moment) : List (Except Error Outcome) × Backend :=
  match m.step with
  | .command supply command =>
    let (result, b) := m.before.execute supply command
    ([result], b)
  | .together commands turns =>
    let p := (Pool.start m.before commands).run turns
    (p.firstResults commands.length, p.backend.settle)
  | .tell event => ([], (m.before.perform (Loyalty.credit event)).2.settle)

/-- What the step leaves. -/
def after (m : Moment) : Backend := m.take.2

/-- Commands that are carried out together are not for customers, and they and their listeners all
come to their ends. -/
def Proper (m : Moment) : Prop :=
  match m.step with
  | .together commands turns =>
    (∀ c ∈ commands, c.2.ofCustomers = false) ∧ (∀ turn ∈ turns, turn.ofTasks = true) ∧
      let p := (Pool.start m.before commands).run turns
      ∀ i < p.tasks.length, (p.result? i).isSome = true
  | .command .. | .tell _ => True

instance : (m : Moment) → Decidable m.Proper
  | ⟨_, .together ..⟩ => inferInstanceAs (Decidable (_ ∧ _ ∧ _))
  | ⟨_, .command ..⟩ | ⟨_, .tell _⟩ => inferInstanceAs (Decidable True)

/-- What is due to a customer for the orders that are placed in the step. -/
def placed (m : Moment) (id : CustomerId) : Nat :=
  Backend.total (Command.earns id) m.step.commands m.take.1

/-- What a customer spends in the step. -/
def spent (m : Moment) (id : CustomerId) : Nat :=
  Backend.total (Command.spends id) m.step.commands m.take.1

/-- What the event that the listener is told directly is worth to a customer, if their account is
open. -/
def told (m : Moment) (id : CustomerId) : Nat :=
  match m.step with
  | .tell event => if m.before.repositories.activity id = some true then event.award id else 0
  | .command .. | .together .. => 0

/-- The balances can hold the points that the step adds. -/
def Fits (m : Moment) : Prop :=
  ∀ id ∈ m.before.repositories.customers.keys,
    m.before.repositories.balance id + m.placed id + m.told id ≤ Count.max.toNat

instance (m : Moment) : Decidable m.Fits := inferInstanceAs (Decidable (∀ id ∈ _, _))

/-- **What a step adds**: to a balance what is due for the orders that it places and what the
listener is told directly, less what is spent, and to the worth of all orders what is due for those
that it places.  No delivery fails. -/
structure Adds (m : Moment) : Prop where
  balance : ∀ id, m.after.repositories.balance id + m.spent id =
    m.before.repositories.balance id + m.placed id + m.told id
  worth : ∀ id, m.after.repositories.ordersWorth id =
    m.before.repositories.ordersWorth id + m.placed id
  failures : m.after.failures = m.before.failures

end Moment

namespace Backend

/-- The moments of a session. -/
def history (b : Backend) : List Step → List Moment
  | [] => []
  | step :: rest => ⟨b, step⟩ :: (Moment.mk b step).after.history rest

/-- What a session leaves. -/
def afterAll (b : Backend) (steps : List Step) : Backend :=
  steps.foldl (fun b step => (Moment.mk b step).after) b

/-- Between the steps of a session, everything is as it should be kept, and nothing is on its
way. -/
structure AtRest (used : List Uuid) (b : Backend) : Prop where
  faults : b.faults = .none
  kept : b.repositories.WellKept used
  clientele : b.repositories.Clientele
  customers : b.repositories.CustomersFrom used
  settled : b.deliveries = []

theorem atRest_empty : empty.AtRest [] where
  faults := rfl
  kept := wellKept_empty
  clientele := .empty
  customers := fun _ h => absurd rfl h
  settled := rfl

variable {b b' : Backend} {used : List Uuid}

theorem AtRest.backlog (h : b.AtRest used) (id : CustomerId) : b.backlog id = 0 := by
  rw [Backend.backlog, h.settled]
  rfl

/-- Nobody can be registered yet under an identifier that is new. -/
theorem AtRest.activity_eq_none (h : b.AtRest used) {supply : Supply}
    (hnew : supply.uuid 0 ∉ used) : b.repositories.activity (supply.id .customer) = none := by
  by_contra hactive
  exact hnew (h.customers _ hactive)

/-- There is room for what fits into the balances, if it is due to customers with open accounts. -/
theorem roomFor_of_fits {due : CustomerId → Nat}
    (hfits : ∀ id ∈ b.repositories.customers.keys,
      b.repositories.balance id + due id ≤ Count.max.toNat)
    (hactive : ∀ id, due id ≠ 0 → b.repositories.activity id = some true) :
    b.repositories.RoomFor due := by
  intro id hid
  have hopen := hactive id hid
  obtain ⟨c, hget, _⟩ := Option.map_eq_some_iff.mp hopen
  exact ⟨hopen, hfits id (Table.mem_keys_of_get? hget)⟩

/-! ### Before what is on its way is delivered -/

/-- **What a step has done before what is on its way at its end is delivered.**  What it adds is on
the balances or still on its way, and there is room for that. -/
structure Leads (m : Moment) (used : List Uuid) (b : Backend) : Prop where
  faults : b.faults = .none
  kept : b.repositories.WellKept used
  clientele : b.repositories.Clientele
  customers : b.repositories.CustomersFrom used
  failures : b.failures = m.before.failures
  room : b.repositories.RoomFor b.backlog
  books : ∀ id, b.repositories.balance id + b.backlog id + m.spent id =
    m.before.repositories.balance id + m.placed id + m.told id
  worth : ∀ id, b.repositories.ordersWorth id = m.before.repositories.ordersWorth id + m.placed id

/-- When it is delivered, everything is at rest again. -/
theorem Leads.settle {m : Moment} (h : Leads m used b) (hafter : m.after = b.settle) :
    m.Adds ∧ m.after.AtRest used := by
  have hkeyed := h.clientele.keyed
  have haside := aside_settle hkeyed
  obtain ⟨hclientele, hdeliveries, _⟩ := settle_credits h.faults h.clientele
  obtain ⟨hactivity, hfailures, hbalance⟩ := settle_backlog h.faults h.clientele h.room
  rw [← hafter] at haside hclientele hdeliveries hactivity hfailures hbalance
  refine ⟨⟨fun id => ?_, fun id => ?_, hfailures.trans h.failures⟩,
    haside.faults.trans h.faults, ?_, hclientele, fun id hid => ?_, hdeliveries⟩
  · rw [hbalance]
    exact h.books id
  · rw [Repositories.ordersWorth, haside.orders]
    exact h.worth id
  · exact h.kept.of_aside ⟨haside.stores, haside.orders, hactivity⟩ hclientele.keyed
  · rw [hactivity] at hid
    exact h.customers id hid

/-- A command that is carried out alone is refused and nothing is due, or it has its effect. -/
theorem AtRest.perform_points (h : b.AtRest used) {supply : Supply} (hnew : supply.uuid 0 ∉ used)
    (command : Command) :
    let x := (b.perform (command.job supply)).1
    let r := (b.perform (command.job supply)).2.repositories
    (∀ id, r.balance id + Command.spends id (command, x) = b.repositories.balance id) ∧
      (∀ id, r.ordersWorth id = b.repositories.ordersWorth id + Command.earns id (command, x)) ∧
      r.CustomersFrom (supply.uuid 0 :: used) ∧
      ∀ id, Command.earns id (command, x) ≠ 0 →
        r.activity id = some true ∧ b.repositories.activity id = some true := by
  intro x r
  obtain ⟨hresult, hrepos, _⟩ := perform_eq_eval h.faults supply command
  have hx : x = ((command.job supply).eval b.repositories).1 := hresult
  have hr : r = ((command.job supply).eval b.repositories).2 := hrepos
  rcases command.eval_cases supply b.repositories with ⟨e, he⟩ | ⟨outcome, r', he, heffect⟩
  · rw [he] at hx hr
    rw [hx, hr]
    refine ⟨fun id => ?_, fun id => ?_, fun id hid => List.mem_cons_of_mem _ (h.customers id hid),
      fun id hid => ?_⟩
    · cases command <;> rfl
    · cases command <;> rfl
    · cases command <;> exact absurd rfl hid
  · rw [he] at hx hr
    rw [hx, hr]
    refine ⟨heffect.points h.clientele (h.activity_eq_none hnew),
      heffect.ordersWorth h.kept hnew, heffect.customersFrom h.customers h.clientele,
      fun id hid => ?_⟩
    have hkind : command.ofCustomers = false := by
      cases command <;> first | rfl | exact absurd rfl hid
    have hearner := heffect.earner h.kept hid
    rw [Repositories.activity_congr (heffect.customers_eq hkind)]
    exact ⟨hearner, hearner⟩

/-- A command that is carried out alone. -/
theorem AtRest.leads_command (h : b.AtRest used) {supply : Supply} {command : Command}
    (hnew : supply.uuid 0 ∉ used) (hfits : Moment.Fits ⟨b, .command supply command⟩) :
    Leads ⟨b, .command supply command⟩ (supply.uuid 0 :: used)
      (b.perform (command.job supply)).2 := by
  obtain ⟨_, hrepos, hfaults⟩ := perform_eq_eval h.faults supply command
  obtain ⟨hbalance, hworth, hcustomers, hearner⟩ := h.perform_points hnew command
  have hpublish : b.faults.publish = false := by rw [h.faults]; rfl
  have hbacklog : ∀ id, (b.perform (command.job supply)).2.backlog id =
      Command.earns id (command, (b.perform (command.job supply)).1) := by
    intro id
    rw [perform_backlog hpublish h.kept.sound.orderNews, h.backlog, Nat.zero_add]
  have hplaced : ∀ id, Moment.placed ⟨b, .command supply command⟩ id =
      Command.earns id (command, (b.perform (command.job supply)).1) := fun id =>
    (total_cons ..).trans (Nat.add_zero _)
  have hspent : ∀ id, Moment.spent ⟨b, .command supply command⟩ id =
      Command.spends id (command, (b.perform (command.job supply)).1) := fun id =>
    (total_cons ..).trans (Nat.add_zero _)
  have hkept : (b.perform (command.job supply)).2.repositories.WellKept (supply.uuid 0 :: used) := by
    rw [hrepos]
    exact command.eval_wellKept h.kept hnew
  refine ⟨hfaults, hkept, perform_clientele h.faults h.clientele supply command, hcustomers,
    run_failures (Command.asks_noFailure command), fun id hid => ?_, fun id => ?_, fun id => ?_⟩
  · rw [hbacklog] at hid ⊢
    obtain ⟨hactive, hbefore⟩ := hearner id hid
    obtain ⟨c, hget, _⟩ := Option.map_eq_some_iff.mp hbefore
    have hle := hfits id (Table.mem_keys_of_get? hget)
    rw [hplaced] at hle
    exact ⟨hactive, Nat.le_trans (Nat.add_le_add_right (Nat.le.intro (hbalance id)) _) hle⟩
  · rw [hplaced, hspent, hbacklog, Nat.add_right_comm, hbalance]
    rfl
  · rw [hplaced]
    exact hworth id

/-- The listener is told of an event directly. -/
theorem AtRest.leads_tell (h : b.AtRest used) {event : Payload}
    (hfits : Moment.Fits ⟨b, .tell event⟩) :
    Leads ⟨b, .tell event⟩ used (b.perform (Loyalty.credit event)).2 := by
  have hcredits := perform_credit h.faults h.clientele event
  obtain ⟨hstores, horders, _, hdeliveries, hfaults⟩ := hcredits.frame
  have hclientele := hcredits.clientele h.clientele
  have hnothing : ∀ id, (b.perform (Loyalty.credit event)).2.backlog id = 0 := by
    intro id
    rw [Backend.backlog, hdeliveries]
    exact h.backlog id
  refine ⟨hfaults.trans h.faults, ?_, hclientele, fun id hid => ?_, hcredits.failures,
    fun id hid => absurd (hnothing id) hid, fun id => ?_, fun id => ?_⟩
  · exact h.kept.of_aside ⟨hstores, horders, hcredits.activity⟩ hclientele.keyed
  · rw [hcredits.activity] at hid
    exact h.customers id hid
  · show _ + 0 = b.repositories.balance id + 0 +
      if b.repositories.activity id = some true then event.award id else 0
    rw [hnothing, hcredits.balance]
    by_cases hactive : b.repositories.activity id = some true
    · obtain ⟨c, hget, _⟩ := Option.map_eq_some_iff.mp hactive
      have hle : b.repositories.balance id + 0 +
          (if b.repositories.activity id = some true then event.award id else 0) ≤ _ :=
        hfits id (Table.mem_keys_of_get? hget)
      rw [if_pos hactive] at hle ⊢
      rw [if_pos ⟨hactive, hle⟩]
      rfl
    · rw [if_neg hactive, if_neg fun hboth => hactive hboth.1]
  · rw [Repositories.ordersWorth, horders]
    rfl

/-- Commands for stores and orders leave all accounts as open as they were, and whoever something is
due to has an open one. -/
theorem executeAll_activity (commands : List (Supply × Command))
    (hkind : ∀ c ∈ commands, c.2.ofCustomers = false) (hf : b.faults = .none)
    (hb : b.repositories.WellKept used) (hfresh : Fresh commands)
    (hnew : ∀ c ∈ commands, c.1.uuid 0 ∉ used) :
    (b.executeAll commands).2.repositories.activity = b.repositories.activity ∧
      ∀ id, total (Command.earns id) commands (b.executeAll commands).1 ≠ 0 →
        b.repositories.activity id = some true := by
  induction commands generalizing b used with
  | nil => exact ⟨rfl, fun id hid => absurd rfl hid⟩
  | cons c rest ih =>
    obtain ⟨supply, command⟩ := c
    have hone := hnew _ (List.mem_cons_self ..)
    obtain ⟨hresult, haside, hkept, hfaults⟩ := execute_spec hf hb hone command
    obtain ⟨hactivity, hearners⟩ := ih (fun c hc => hkind c (List.mem_cons_of_mem _ hc)) hfaults hkept
      (List.nodup_cons.mp hfresh).2 (new_of_cons hfresh hnew)
    have hfirst : (b.execute supply command).2.repositories.activity = b.repositories.activity ∧
        ∀ id, Command.earns id (command, (b.execute supply command).1) ≠ 0 →
          b.repositories.activity id = some true := by
      rw [haside.activity, hresult]
      rcases command.eval_cases supply b.repositories with ⟨e, he⟩ | ⟨outcome, r', he, heffect⟩
      · rw [he]
        refine ⟨rfl, fun id hid => ?_⟩
        cases command <;> exact absurd rfl hid
      · rw [he]
        have hcustomers := heffect.customers_eq (hkind _ (List.mem_cons_self ..))
        exact ⟨Repositories.activity_congr hcustomers, fun id hid => heffect.earner hb hid⟩
    rw [executeAll_cons]
    refine ⟨hactivity.trans hfirst.1, fun id hid => ?_⟩
    rw [total_cons] at hid
    by_cases hzero : Command.earns id (command, (b.execute supply command).1) = 0
    · rw [hzero, Nat.zero_add] at hid
      rw [← hfirst.1]
      exact hearners id hid
    · exact hfirst.2 id hzero

/-- What a run makes all orders worth more is what is due for those that it places. -/
theorem run_ordersWorth (commands : List (Supply × Command)) (hf : b.faults = .none)
    (hb : b.repositories.WellKept used) (hfresh : Fresh commands)
    (hnew : ∀ c ∈ commands, c.1.uuid 0 ∉ used) (id : CustomerId) :
    (b.executeAll commands).2.repositories.ordersWorth id =
      b.repositories.ordersWorth id +
        total (Command.earns id) commands (b.executeAll commands).1 := by
  have hnothing : total (fun _ => 0) commands (b.executeAll commands).1 = 0 := by
    simp [total]
  have hflow : (b.executeAll commands).2.repositories.ordersWorth id +
      total (fun _ => 0) commands (b.executeAll commands).1 =
        b.repositories.ordersWorth id +
          total (Command.earns id) commands (b.executeAll commands).1 := by
    refine run_flow (f := fun r => r.ordersWorth id) ?_ ?_ ?_ commands hf hb hfresh hnew
    · intro used supply r r' command outcome hr hone heffect
      exact heffect.ordersWorth hr hone id
    · intro command e
      cases command <;> exact ⟨rfl, rfl⟩
    · intro r r' haside
      rw [Repositories.ordersWorth, Repositories.ordersWorth, haside.orders]
  rwa [hnothing] at hflow

theorem total_spends (id : CustomerId) {commands : List (Supply × Command)}
    (hkind : ∀ c ∈ commands, c.2.ofCustomers = false) (results : List (Except Error Outcome)) :
    total (Command.spends id) commands results = 0 := by
  rw [total, List.sum_eq_zero_iff_forall_eq_nat]
  intro n hn
  obtain ⟨⟨command, x⟩, hmem, rfl⟩ := List.mem_map.mp hn
  obtain ⟨c, hc, rfl⟩ := List.mem_map.mp (List.of_mem_zip hmem).1
  exact Command.spends_eq_zero (hkind c hc) id x

/-- Commands that are carried out together leave stores and orders as they do one after the other, in
some order of them; and what is due for the orders that they place is the same. -/
theorem AtRest.serial_together (h : b.AtRest used) {commands : List (Supply × Command)}
    {turns : List Pool.Turn} (hfresh : Fresh commands) (hnew : ∀ c ∈ commands, c.1.uuid 0 ∉ used)
    (hproper : Moment.Proper ⟨b, .together commands turns⟩) :
    let p := (Pool.start b commands).run turns
    ∃ order : List Nat, order.Nodup ∧ (∀ c ∈ pick commands order, c ∈ commands) ∧
      p.backend.repositories.stores = (b.executeAll (pick commands order)).2.repositories.stores ∧
      p.backend.repositories.orders = (b.executeAll (pick commands order)).2.repositories.orders ∧
      ∀ id, Moment.placed ⟨b, .together commands turns⟩ id =
        total (Command.earns id) (pick commands order) (b.executeAll (pick commands order)).1 := by
  obtain ⟨hkind, hturns, hdone⟩ := hproper
  have hr : b.Ready used commands := ⟨h.faults, h.kept, hfresh, hnew, hkind⟩
  obtain ⟨_, haccrues⟩ := (Pool.Accrues.start h.faults h.kept.sound.orderNews h.clientele h.settled
    hkind).run hturns
  have hfirst : ∀ i < commands.length,
      (((Pool.start b commands).run turns).result? i).isSome = true := fun i hi =>
    hdone i (Nat.lt_of_lt_of_le hi haccrues.length)
  obtain ⟨order, hperm, hresults, hstores, horders⟩ := Pool.serial_of_ready hr turns hturns hfirst
  refine ⟨order, hperm.nodup_iff.mpr List.nodup_range, fun c hc => ?_, hstores, horders,
    fun id => ?_⟩
  · obtain ⟨i, _, hi⟩ := mem_pick.mp hc
    exact List.mem_of_getElem? hi
  · exact (Pool.total_eq (Command.earns id) hperm hfirst).trans (by rw [← hresults]; rfl)

/-- Commands that are carried out together, with the listeners that are told of what they
publish. -/
theorem AtRest.leads_together (h : b.AtRest used) {commands : List (Supply × Command)}
    {turns : List Pool.Turn} (hfresh : Fresh commands) (hnew : ∀ c ∈ commands, c.1.uuid 0 ∉ used)
    (hproper : Moment.Proper ⟨b, .together commands turns⟩)
    (hfits : Moment.Fits ⟨b, .together commands turns⟩) :
    Leads ⟨b, .together commands turns⟩ ((commands.map fun c => c.1.uuid 0) ++ used)
      ((Pool.start b commands).run turns).backend := by
  obtain ⟨order, hnodup, hpick, hstores, horders, htotal⟩ := h.serial_together hfresh hnew hproper
  obtain ⟨hkind, hturns, hdone⟩ := hproper
  have hr : b.Ready used commands := ⟨h.faults, h.kept, hfresh, hnew, hkind⟩
  have hfreshPick := fresh_pick hfresh hnodup
  obtain ⟨hactivity, hearners⟩ := executeAll_activity (pick commands order)
    (fun c hc => hkind c (hpick c hc)) h.faults h.kept hfreshPick fun c hc => hnew c (hpick c hc)
  have hroom : b.repositories.RoomFor (Moment.placed ⟨b, .together commands turns⟩) :=
    roomFor_of_fits hfits fun id hid => hearners id (by rw [← htotal]; exact hid)
  obtain ⟨hfaults, _, hclientele, hactive, hfailures, hbalance⟩ :=
    Pool.run_accrues h.faults h.kept.sound.orderNews h.clientele h.settled hkind turns hturns hdone
      hroom
  obtain ⟨hserial, _⟩ := hr.wellKept hnodup
  have haside : (b.executeAll (pick commands order)).2.repositories.Aside
      ((Pool.start b commands).run turns).backend.repositories :=
    ⟨hstores, horders, hactive.trans hactivity.symm⟩
  have hkept := hserial.of_aside haside hclientele.keyed
  refine ⟨hfaults, ⟨hkept.sound, hkept.issued.mono fun u hu => ?_⟩, hclientele, fun id hid => ?_,
    hfailures, ?_, fun id => ?_, fun id => ?_⟩
  · rcases List.mem_append.mp hu with hu | hu
    · obtain ⟨c, hc, rfl⟩ := List.mem_map.mp hu
      exact List.mem_append_left _ (List.mem_map.mpr ⟨c, hpick c hc, rfl⟩)
    · exact List.mem_append_right _ hu
  · rw [hactive] at hid
    exact List.mem_append_right _ (h.customers id hid)
  · exact hroom.rest hactive (fun id => (hbalance id).1) fun id => Nat.le_of_eq (hbalance id).2
  · have hnothing : Moment.spent ⟨b, .together commands turns⟩ id = 0 := total_spends id hkind _
    rw [hnothing]
    exact (hbalance id).2
  · rw [htotal, Repositories.ordersWorth, horders]
    exact run_ordersWorth (pick commands order) h.faults h.kept hfreshPick
      (fun c hc => hnew c (hpick c hc)) id

/-! ### Steps and sessions -/

/-- **Every step** adds to the balances what it should, and leaves everything at rest. -/
theorem AtRest.step {step : Step} (h : b.AtRest used) (hfresh : Fresh step.commands)
    (hnew : ∀ c ∈ step.commands, c.1.uuid 0 ∉ used) (hproper : Moment.Proper ⟨b, step⟩)
    (hfits : Moment.Fits ⟨b, step⟩) :
    Moment.Adds ⟨b, step⟩ ∧
      (Moment.mk b step).after.AtRest ((step.commands.map fun c => c.1.uuid 0) ++ used) := by
  cases step with
  | command supply command =>
    exact (h.leads_command (hnew _ (List.mem_singleton.mpr rfl)) hfits).settle rfl
  | together commands turns => exact (h.leads_together hfresh hnew hproper hfits).settle rfl
  | tell event => exact (h.leads_tell hfits).settle rfl

/-- **So does every session.** -/
theorem AtRest.session (h : b.AtRest used) {steps : List Step}
    (hfresh : Fresh (steps.flatMap Step.commands))
    (hnew : ∀ c ∈ steps.flatMap Step.commands, c.1.uuid 0 ∉ used)
    (hmoments : ∀ m ∈ b.history steps, m.Proper ∧ m.Fits) : ∀ m ∈ b.history steps, m.Adds := by
  induction steps generalizing b used with
  | nil => exact fun m hm => absurd hm List.not_mem_nil
  | cons step rest ih =>
    rw [List.flatMap_cons] at hfresh hnew
    rw [Fresh, List.map_append, List.nodup_append] at hfresh
    obtain ⟨hthis, hrest, hdisjoint⟩ := hfresh
    obtain ⟨hproper, hfits⟩ := hmoments _ (List.mem_cons_self ..)
    obtain ⟨hadds, hafter⟩ := h.step hthis (fun c hc => hnew c (List.mem_append_left _ hc)) hproper
      hfits
    intro m hm
    rcases List.mem_cons.mp hm with rfl | hm
    · exact hadds
    · refine ih hafter hrest (fun c hc hused => ?_)
        (fun m hm => hmoments m (List.mem_cons_of_mem _ hm)) m hm
      rcases List.mem_append.mp hused with hused | hused
      · exact hdisjoint _ hused _ (List.mem_map.mpr ⟨c, hc, rfl⟩) rfl
      · exact hnew c (List.mem_append_right _ hc) hused

/-- What the steps add up to. -/
theorem history_sum {steps : List Step} (hadds : ∀ m ∈ b.history steps, m.Adds)
    (id : CustomerId) :
    (b.afterAll steps).repositories.balance id + ((b.history steps).map (·.spent id)).sum =
        b.repositories.balance id + ((b.history steps).map (·.placed id)).sum +
          ((b.history steps).map (·.told id)).sum ∧
      (b.afterAll steps).repositories.ordersWorth id =
        b.repositories.ordersWorth id + ((b.history steps).map (·.placed id)).sum ∧
      ∀ m ∈ b.history steps, m.after.failures = b.failures := by
  induction steps generalizing b with
  | nil => exact ⟨rfl, rfl, fun m hm => absurd hm List.not_mem_nil⟩
  | cons step rest ih =>
    have hthis := hadds _ (List.mem_cons_self ..)
    obtain ⟨hbalance, hworth, hfailures⟩ := ih fun m hm => hadds m (List.mem_cons_of_mem _ hm)
    have hone : (Moment.mk b step).after.repositories.balance id + (Moment.mk b step).spent id =
        b.repositories.balance id + (Moment.mk b step).placed id + (Moment.mk b step).told id :=
      hthis.balance id
    have hvalue : (Moment.mk b step).after.repositories.ordersWorth id =
        b.repositories.ordersWorth id + (Moment.mk b step).placed id := hthis.worth id
    refine ⟨?_, ?_, fun m hm => ?_⟩
    · show ((Moment.mk b step).after.afterAll rest).repositories.balance id + _ = _
      simp only [history, List.map_cons, List.sum_cons]
      omega
    · show ((Moment.mk b step).after.afterAll rest).repositories.ordersWorth id = _
      simp only [history, List.map_cons, List.sum_cons]
      omega
    · rcases List.mem_cons.mp hm with rfl | hm
      · exact hthis.failures
      · exact (hfailures m hm).trans hthis.failures

/-- **The points of a session.**  Everybody's balance is what all their orders have been worth, those
included that have been cancelled since, and what the listener has been told directly while
their account was open, less what they have spent.  What orders are worth is what has been due
for them when they were placed; each step adds its own share, and none that is neither; and no
delivery has failed. -/
structure Accrued (steps : List Step) : Prop where
  balance : ∀ id c, (empty.afterAll steps).repositories.customers.get? id = some c →
    c.loyaltyPoints.toNat + ((empty.history steps).map (·.spent id)).sum =
      (empty.afterAll steps).repositories.orders.sum (Order.award id) +
        ((empty.history steps).map (·.told id)).sum
  placed : ∀ id, (empty.afterAll steps).repositories.orders.sum (Order.award id) =
    ((empty.history steps).map (·.placed id)).sum
  step : ∀ m ∈ empty.history steps, ∀ id, m.after.repositories.balance id + m.spent id =
    m.before.repositories.balance id + m.placed id + m.told id
  failures : ∀ m ∈ empty.history steps, m.after.failures = 0

/-- **Points are credited exactly once for each order that is placed**, whatever the session, if the
balances can hold them. -/
theorem points_accrued (steps : List Step) (hfresh : Fresh (steps.flatMap Step.commands))
    (hproper : ∀ m ∈ empty.history steps, m.Proper)
    (hfits : ∀ m ∈ empty.history steps, m.Fits) : Accrued steps := by
  have hadds := atRest_empty.session hfresh (fun _ _ => List.not_mem_nil) fun m hm =>
    ⟨hproper m hm, hfits m hm⟩
  have hplaced : ∀ id, (empty.afterAll steps).repositories.orders.sum (Order.award id) =
      ((empty.history steps).map (·.placed id)).sum := fun id =>
    (history_sum hadds id).2.1.trans (Nat.zero_add _)
  refine ⟨fun id c hget => ?_, hplaced, fun m hm => (hadds m hm).balance, fun m hm => ?_⟩
  · have hbalance := (history_sum hadds id).1
    rw [Repositories.balance_eq hget] at hbalance
    rw [hplaced, hbalance]
    exact congrArg (· + _) (Nat.zero_add _)
  · exact (history_sum hadds ⟨default⟩).2.2 m hm

/-- Ann orders fruit, then twice more at the same time, while the listener is told of what is
confirmed first.  It is told of another order of hers directly.  She spends three points, the first
order is cancelled and her account is closed; what the listener is told then is of no use to her. -/
def Sample.day : List Step :=
  (Sample.numbered (Sample.opening ++ [Sample.fruit 2 1])).map (fun c => .command c.1 c.2) ++ [
    .together [
      (Supply.nth 7, .createOrder Sample.ann Sample.shop [⟨Sample.apple, 1⟩]),
      (Supply.nth 8, .createOrder Sample.ann Sample.shop [⟨Sample.apple, 4⟩])]
      ((List.replicate 11 [.task 1, .task 0, .deliver, .task 2]).flatten ++ Pool.rounds 3 30),
    .tell (Sample.confirmed 20 ⟨250, default, by decide⟩),
    .command (Supply.nth 9) (.redeemPoints Sample.ann 3),
    .command (Supply.nth 10) (.cancelOrder (Sample.order 6) "late"),
    .command (Supply.nth 11) (.deactivateCustomer Sample.ann),
    .tell (Sample.confirmed 21 ⟨250, default, by decide⟩)]

/-- Her orders have been worth five points, one and six, and she was told of two more. -/
theorem points_accrued_day :
    Accrued Sample.day ∧
      (empty.afterAll Sample.day).repositories.balance Sample.ann + 3 = (5 + 1 + 6) + 2 :=
  ⟨points_accrued Sample.day (by decide +kernel) (by decide +kernel) (by decide +kernel),
    by decide +kernel⟩

end Backend

end Storefront
