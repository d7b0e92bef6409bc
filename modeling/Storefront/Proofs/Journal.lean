import Storefront.Proofs.Announcement

/-! # The log of a run

What is published in a run of commands is what the commands that are done have to tell, one
after the other, and nothing else: a command that is refused tells nothing, and a delivery
neither.  The log is therefore a chronicle of what is kept at each moment, and determines it
(`Backend.log_determines`).
-/
namespace Storefront

/-! ### What is kept has been told -/

section Settled
variable {α : Type} {b : Backend} {r r' : Repositories}

theorem Repositories.CustomersSettled.saveCustomer (h : r.CustomersSettled) {c : Customer}
    (hr' : r' = { r with customers := r.customers.insert c.id c.settled }) :
    r'.CustomersSettled := by
  intro id d hd
  rw [hr'] at hd
  have hd : (r.customers.insert c.id c.settled).get? id = some d := hd
  rw [Table.get?_insert] at hd
  by_cases hid : id = c.id
  · rw [if_pos hid] at hd
    cases hd
    rfl
  · rw [if_neg hid] at hd
    exact h id d hd

/-- No question leaves a customer with something to tell. -/
theorem Backend.answer_customersSettled (h : b.repositories.CustomersSettled) (q : Ask) :
    (b.answer q).2.repositories.CustomersSettled := by
  have hwrites := b.answer_writes q
  generalize (b.answer q).2.repositories = r' at hwrites
  cases hwrites with
  | nothing | store | order => exact h
  | customer => exact h.saveCustomer rfl

/-- No script leaves a customer with something to tell. -/
theorem Script.run_customersSettled (s : Script α) (h : b.repositories.CustomersSettled) :
    (s.run b).2.repositories.CustomersSettled := by
  induction s generalizing b with
  | done a => exact h
  | ask q next ih => exact ih _ (Backend.answer_customersSettled h q)

theorem Backend.deliverAll_customersSettled (deliveries : List Delivery)
    (h : b.repositories.CustomersSettled) :
    (b.deliverAll deliveries).repositories.CustomersSettled := by
  induction deliveries generalizing b with
  | nil => exact h
  | cons d rest ih => exact ih (Script.run_customersSettled _ h)

end Settled

/-! ### Deliveries tell nothing -/

section Deliveries
variable {α : Type} {b : Backend} {A : CustomerId → Option Bool}

/-- A bystander tells nothing. -/
theorem Script.Bystander.told {s : Script α} (h : s.Bystander A)
    (hA : b.repositories.activity = A) (hk : b.repositories.KeyedCustomers) :
    (s.asked b).flatMap Ask.told = [] := by
  induction s generalizing b with
  | done a => rfl
  | ask q next ih =>
    obtain ⟨hnext, haside⟩ := h.step hA hk
    rw [asked, List.flatMap_cons, ih _ hnext (haside.activity.trans hA) (haside.keyed hk),
      List.append_nil]
    cases q with
    | publish events => exact h.elim
    | _ => rfl

/-- A delivery publishes nothing. -/
theorem Backend.published_deliverAll (deliveries : List Delivery) (hf : b.faults = .none)
    (hk : b.repositories.KeyedCustomers) : (b.deliverAll deliveries).published = b.published := by
  induction deliveries generalizing b with
  | nil => rfl
  | cons d rest ih =>
    have hbystander := Loyalty.bystander_deliver (A := b.repositories.activity) d
    have haside := hbystander.run rfl hk
    have hlog := (Loyalty.deliver d).run.run_log (b := b) (by rw [hf]; rfl)
    rw [hbystander.told rfl hk, List.append_nil] at hlog
    exact (ih (haside.faults.trans hf) (haside.keyed hk)).trans hlog.1

end Deliveries

/-! ### A command -/

/-- What is told when a command has come to its end. -/
def Command.Tells (supply : Supply) (command : Command) :
    Except Error Outcome → List Payload → Prop
  | .ok outcome, story => command.Announces supply outcome story
  | .error _, story => story = []

namespace Backend

variable {b : Backend} {used : List Uuid}

/-- Everything that is kept has been told, and the log says how it has come about. -/
structure Recorded (b : Backend) : Prop where
  customers : b.repositories.CustomersSettled
  chronicle : Chronicle b.published b.repositories

/-- **A command that is carried out adds to the log what it tells**, which goes on with the
chronicle. -/
theorem execute_recorded (hf : b.faults = .none) (hb : b.repositories.WellKept used)
    (hr : b.Recorded) {supply : Supply} (hfresh : supply.uuid 0 ∉ used) (command : Command) :
    (b.execute supply command).2.Recorded ∧
      ∃ story, (b.execute supply command).2.published = b.published ++ story ∧
        command.Tells supply (b.execute supply command).1 story := by
  obtain ⟨_, hrepos, hfaults⟩ := perform_eq_eval hf supply command
  obtain ⟨hcourse, _⟩ := perform_course hf supply command
  have hlog := ((command.job supply).run.run_log (b := b) (by rw [hf]; rfl)).1
  -- what the command itself leaves
  have hperform : ∃ story, (b.perform (command.job supply)).2.published = b.published ++ story ∧
      command.Tells supply (b.perform (command.job supply)).1 story ∧
        Chronicle (b.published ++ story) (b.perform (command.job supply)).2.repositories := by
    refine ⟨_, hlog, ?_⟩
    generalize (b.perform (command.job supply)).1 = x at hcourse
    cases x with
    | error e =>
      obtain ⟨hr', hrebuffed⟩ := hcourse.of_error
      rw [hrebuffed.told, List.append_nil, hr']
      exact ⟨rfl, hr.chronicle⟩
    | ok outcome =>
      obtain ⟨heffect, haccomplished⟩ := hcourse.of_ok
      rw [haccomplished.told]
      exact heffect.told hb hfresh hr.customers hr.chronicle
  obtain ⟨story, hpublished, htells, hchronicle⟩ := hperform
  have hkeyed : (b.perform (command.job supply)).2.repositories.KeyedCustomers := by
    rw [hrepos]
    exact (command.eval_wellKept hb hfresh).sound.customer
  -- what is delivered then
  generalize hp : b.perform (command.job supply) = performed at *
  obtain ⟨x, b'⟩ := performed
  have hexecute : b.execute supply command = (x, b'.settle) := by
    unfold execute
    rw [hp]
  have haside := aside_settle hkeyed
  have hsettle : b'.settle.published = b'.published :=
    published_deliverAll (b := { b' with deliveries := [] }) _ hfaults hkeyed
  rw [hexecute]
  refine ⟨⟨?_, ?_⟩, story, hsettle.trans hpublished, htells⟩
  · refine deliverAll_customersSettled (b := { b' with deliveries := [] }) _ ?_
    have hsettled := Script.run_customersSettled (command.job supply).run hr.customers
    rw [show (command.job supply).run.run b = (x, b') from hp] at hsettled
    exact hsettled
  · have hlast : Chronicle (b.published ++ story ++ []) b'.settle.repositories :=
      hchronicle.of_eq haside.stores haside.orders (fun _ => rfl) fun _ => rfl
    rw [List.append_nil, ← hpublished, ← hsettle] at hlast
    exact hlast

/-! ### A run -/

/-- **A run adds to the log what its commands tell**, one after the other. -/
theorem executeAll_recorded (commands : List (Supply × Command)) (hf : b.faults = .none)
    (hb : b.repositories.WellKept used) (hr : b.Recorded) (hfresh : Fresh commands)
    (hnew : ∀ c ∈ commands, c.1.uuid 0 ∉ used) :
    (b.executeAll commands).2.Recorded ∧
      ∃ stories : List (List Payload), stories.length = commands.length ∧
        (b.executeAll commands).2.published = b.published ++ stories.flatten ∧
          List.Forall₂ (fun c story => c.1.2.Tells c.1.1 c.2 story)
            (commands.zip (b.executeAll commands).1) stories := by
  induction commands generalizing b used with
  | nil => exact ⟨hr, [], rfl, (List.append_nil _).symm, .nil⟩
  | cons c rest ih =>
    obtain ⟨supply, command⟩ := c
    have hone : supply.uuid 0 ∉ used := hnew _ (List.mem_cons_self ..)
    obtain ⟨_, _, hkept, hfaults⟩ := execute_spec hf hb hone command
    obtain ⟨hr', story, hpublished, htells⟩ := execute_recorded hf hb hr hone command
    obtain ⟨hlast, stories, hlength, hall, htold⟩ :=
      ih hfaults hkept hr' (List.nodup_cons.mp hfresh).2 (new_of_cons hfresh hnew)
    rw [executeAll_cons]
    refine ⟨hlast, story :: stories, ?_, ?_, .cons htells htold⟩
    · rw [List.length_cons, List.length_cons, hlength]
    · rw [hall, hpublished, List.append_assoc, List.flatten_cons]

theorem recorded_empty : empty.Recorded := by
  refine ⟨fun id c hc => ?_, Chronicle.empty⟩
  cases hc

/-- What is published in a run from the beginning accounts for what is kept in the end. -/
structure Accounted (commands : List (Supply × Command)) : Prop where
  /-- What has been told of a store leads, event by event, to the store that is kept. -/
  stores : ∀ id s, (empty.executeAll commands).2.repositories.stores.get? id = some s →
    ∃ v, StoreView.replay (storeEvents id (empty.executeAll commands).2.published) = some v ∧
      v.Shows s
  /-- What has been told of an order leads, event by event, to the order that is kept. -/
  orders : ∀ id o, (empty.executeAll commands).2.repositories.orders.get? id = some o →
    ∃ v, OrderView.replay (orderEvents id (empty.executeAll commands).2.published) = some v ∧
      v.Shows o
  /-- The log is what the commands have told, one after the other: of a command that is done
  each event once, and of a command that is refused nothing. -/
  stories : ∃ stories : List (List Payload), stories.length = commands.length ∧
    (empty.executeAll commands).2.published = stories.flatten ∧
      List.Forall₂ (fun c story => c.1.2.Tells c.1.1 c.2 story)
        (commands.zip (empty.executeAll commands).1) stories

/-- **The log of a run determines every store and every order that is kept**, whatever the
commands are, as long as their supplies begin with different identifiers. -/
theorem log_determines {commands : List (Supply × Command)} (hfresh : Fresh commands) :
    Accounted commands := by
  obtain ⟨hrecorded, hstories⟩ := executeAll_recorded commands rfl wellKept_empty recorded_empty
    hfresh fun _ _ => List.not_mem_nil
  exact ⟨hrecorded.chronicle.stores.kept, hrecorded.chronicle.orders.kept, hstories⟩

/-- A price changes between two orders, one order is too large, and of the order that is
cancelled one line can no longer be put back: nothing is told of either. -/
theorem log_determines_autumn :
    let commands := Sample.numbered (Sample.opening ++ [
      Sample.fruit 2 1, .updatePrice Sample.shop Sample.apple ⟨180, default, by decide⟩,
      Sample.fruit 20 1, .deactivateProduct Sample.shop Sample.pear,
      .cancelOrder (Sample.order 6) "storm",
      .createOrder Sample.ann Sample.shop [⟨Sample.apple, 1⟩, ⟨Sample.apple, 2⟩],
      .advanceOrder (Sample.order 11) .startPreparing])
    Fresh commands ∧
      ((empty.executeAll commands).2.published.drop 6).map Payload.name = [
        "order.created", "order.confirmed", "inventory.reserved", "inventory.reserved",
        "product.price_updated", "product.deactivated", "order.cancelled", "inventory.added",
        "order.created", "order.confirmed", "inventory.reserved", "inventory.reserved",
        "order.preparation_started"] ∧
      Accounted commands :=
  ⟨by decide +kernel, by decide +kernel, log_determines (by decide +kernel)⟩

end Backend

end Storefront
