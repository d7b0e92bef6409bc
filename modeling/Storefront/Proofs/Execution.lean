import Storefront.Proofs.Deliveries

/-! # Commands one after the other

A command does its work in one unit of work, so that in a backend without a switch on it
does what the repositories alone say it does (`Backend.perform_eq_eval`).  What it publishes
is delivered then, which is no concern of stores and orders (`Backend.execute_spec`).

A run carries commands out one after the other, each with a supply of its own.  Whatever
the commands are, and whether or not they are refused, a run from the beginning leaves
everything well kept if no two supplies begin with the same identifier
(`Backend.executeAll_wellKept`).
-/
namespace Storefront

open Job

variable {α : Type} {supply : Supply}

/-! ### Every command keeps to one unit of work -/

theorem Job.asks_liftM {p : Ask → Prop} (x : Except Error α) : Asks p (liftM x : Job α) :=
  asks_ofResult x

theorem Catalogue.orderly_withStore (id : StoreId)
    (change : Store → Except StoreError (α × Store)) : (withStore id change).Orderly := by
  unfold withStore
  refine Orderly.bind (orderly_committed ?_) fun x =>
    Asks.bind (asks_publish rfl) fun _ => asks_pure _
  refine Asks.withLock rfl rfl (Asks.bind (asks_findStore rfl) fun s => ?_)
  refine Asks.bind (asks_ofResult _) fun x => ?_
  exact Asks.bind (asks_saveStore rfl) fun _ => asks_pure _

theorem Catalogue.orderly_createStore (name : String) (location : Address) (currency : String) :
    (createStore supply name location currency).Orderly := by
  unfold createStore
  refine Asks.bind_orderly (asks_ofResult _) fun s => ?_
  refine Orderly.bind (orderly_committed (asks_saveStore rfl)) fun _ => ?_
  exact Asks.bind (asks_publish rfl) fun _ => asks_pure _

theorem Accounts.orderly_register (email firstName lastName : String) :
    (register supply email firstName lastName).Orderly := by
  have hfree : ∀ e, (ensureEmailFree e).Asks (·.ofUnits = false) := fun e => by
    unfold ensureEmailFree
    refine Asks.bind (Asks.attempt (asks_findCustomerByEmail rfl)) fun x => ?_
    cases x with
    | ok c => exact asks_throw _
    | error e' =>
      dsimp only
      split
      · exact asks_pure _
      · exact asks_throw _
  unfold register
  refine Asks.bind_orderly (asks_ofResult _) fun c => ?_
  refine Orderly.bind (orderly_committed ?_) fun _ => ?_
  · exact Asks.bind (hfree _) fun _ => asks_saveCustomer rfl
  · exact Asks.bind (asks_publish rfl) fun _ => asks_pure _

theorem Accounts.orderly_withCustomer (id : CustomerId)
    (change : Customer → Except CustomerError Customer) : (withCustomer id change).Orderly := by
  unfold withCustomer
  refine Orderly.bind (orderly_committed ?_) fun x =>
    Asks.bind (asks_publish rfl) fun _ => asks_pure _
  refine Asks.withLock rfl rfl (Asks.bind (asks_findCustomer rfl) fun c => ?_)
  refine Asks.bind (asks_ofResult _) fun c => ?_
  exact Asks.bind (asks_saveCustomer rfl) fun _ => asks_pure _

/-- Whether a question can be asked in the unit of work of a command for orders. -/
def Ask.ofOrdering : Ask → Bool
  | .lock _ | .unlock _ | .findStore _ | .saveStore _ | .findOrder _ | .saveOrder _
  | .findCustomer _ | .count .releaseFailures _ => true
  | _ => false

theorem Ask.ofUnits_of_ofOrdering {q : Ask} (h : q.ofOrdering = true) : q.ofUnits = false := by
  cases q <;> first | rfl | cases h

theorem Ordering.asks_place (customerId : CustomerId) (storeId : StoreId)
    (lines : List RequestedLine) :
    (place supply customerId storeId lines).Asks (·.ofOrdering = true) := by
  unfold place
  -- What is decided about a store makes no difference to what is asked for.
  generalize Order.place (supply.id .order) supply.line supply.now customerId = decision
  refine Asks.bind (asks_findCustomer rfl) fun customer => ?_
  dsimp only
  split
  · exact asks_throw _
  · refine Asks.withLock rfl rfl (Asks.bind (asks_findStore rfl) fun store => ?_)
    refine Asks.bind (asks_liftM _) fun placed => ?_
    refine Asks.bind (asks_saveStore rfl) fun _ => ?_
    exact Asks.bind (asks_saveOrder rfl) fun _ => asks_pure _

theorem Ordering.orderly_createOrder (customerId : CustomerId) (storeId : StoreId)
    (lines : List RequestedLine) : (createOrder supply customerId storeId lines).Orderly := by
  have hreject : ∀ e, (reject e : Job Order).Asks (·.ofUnits = false) := fun e =>
    Asks.bind (asks_countOne rfl) fun _ => asks_throw e
  unfold createOrder
  split
  · exact orderly_of_asks (hreject _)
  · refine (orderly_inUnit (Script.Asks.mono (asks_place ..) fun _ =>
      Ask.ofUnits_of_ofOrdering)).bind fun x => ?_
    cases x with
    | error e => exact hreject e
    | ok placed =>
      refine Asks.bind (asks_publish rfl) fun _ => ?_
      exact Asks.bind (asks_countOne rfl) fun _ => asks_pure _

theorem Ordering.asks_releaseStock (order : Order) :
    (releaseStock order).Asks (·.ofOrdering = true) := by
  unfold releaseStock
  refine Asks.withLock rfl rfl (Asks.bind (Asks.attempt (asks_findStore rfl)) fun x => ?_)
  cases x with
  | error e => exact asks_pure _
  | ok store =>
    refine Asks.bind (Asks.attempt (asks_saveStore rfl)) fun y => ?_
    cases y with
    | error e => exact asks_pure _
    | ok => exact asks_pure _

theorem Ordering.asks_cancel (id : OrderId) (reason : String) :
    (cancel id reason).Asks (·.ofOrdering = true) := by
  unfold cancel
  refine Asks.withLock rfl rfl (Asks.bind (asks_findOrder rfl) fun before => ?_)
  refine Asks.bind (asks_ofResult _) fun order => Asks.bind (asks_saveOrder rfl) fun _ => ?_
  dsimp only
  split
  · refine Asks.bind (asks_releaseStock order) fun back => ?_
    obtain ⟨released, failed, news⟩ := back
    dsimp only
    split
    · exact Asks.bind (asks_perform rfl) fun _ => asks_pure _
    · exact asks_pure _
  · exact asks_pure _

theorem Ordering.orderly_cancelOrder (id : OrderId) (reason : String) :
    (cancelOrder id reason).Orderly := by
  unfold cancelOrder
  refine Orderly.bind (orderly_committed (Script.Asks.mono (asks_cancel id reason) fun _ =>
    Ask.ofUnits_of_ofOrdering)) fun x => ?_
  refine Asks.bind (asks_publish rfl) fun _ => ?_
  exact Asks.bind (asks_countOne rfl) fun _ => asks_pure _

theorem Ordering.orderly_advanceOrder (id : OrderId) (transition : OrderTransition) :
    (advanceOrder supply id transition).Orderly := by
  unfold advanceOrder
  refine Orderly.bind (orderly_committed ?_) fun order => ?_
  · refine Asks.withLock rfl rfl (Asks.bind (asks_findOrder rfl) fun order => ?_)
    refine Asks.bind (asks_ofResult _) fun order' => ?_
    exact Asks.bind (asks_saveOrder rfl) fun _ => asks_pure _
  · refine Asks.bind (asks_publish rfl) fun _ => ?_
    exact Asks.bind (asks_countOne rfl) fun _ => asks_pure _

/-- **Every command is orderly.** -/
theorem Command.orderly (command : Command) : (command.job supply).Orderly := by
  cases command with
  | createStore name location currency => exact (Catalogue.orderly_createStore ..).map _
  | addProduct id name description price =>
    exact ((Catalogue.orderly_withStore ..).bind fun x => asks_pure _).map _
  | addInventory id product quantity =>
    exact ((Catalogue.orderly_withStore ..).bind fun x => asks_ofResult _).map _
  | updatePrice id product price =>
    exact ((Catalogue.orderly_withStore ..).bind fun x => asks_ofResult _).map _
  | deactivateProduct id product =>
    exact ((Catalogue.orderly_withStore ..).bind fun x => asks_pure _).map _
  | register email firstName lastName => exact (Accounts.orderly_register ..).map _
  | updateContact id phone address => exact (Accounts.orderly_withCustomer ..).map _
  | redeemPoints id points => exact (Accounts.orderly_withCustomer ..).map _
  | deactivateCustomer id => exact (Accounts.orderly_withCustomer ..).map _
  | createOrder customerId storeId lines => exact (Ordering.orderly_createOrder ..).map _
  | cancelOrder id reason => exact (Ordering.orderly_cancelOrder ..).map _
  | advanceOrder id transition => exact (Ordering.orderly_advanceOrder ..).map _

/-- A delivery has nothing to do with units of work. -/
theorem Loyalty.orderly_deliver (d : Delivery) : (deliver d).Orderly := by
  refine orderly_of_asks ?_
  have hcredit (e : Payload) : (credit e).Asks (·.ofUnits = false) := by
    unfold credit
    split
    · dsimp only
      split
      · exact asks_pure _
      · refine Asks.withLock rfl rfl (Asks.bind (asks_findCustomer rfl) fun c => ?_)
        refine Asks.bind (asks_ofResult _) fun c' => Asks.bind (asks_saveCustomer rfl) fun _ => ?_
        exact asks_perform rfl
    · exact asks_pure _
  unfold deliver
  refine (hcredit d.payload).attempt.bind fun x => ?_
  cases x with
  | ok => exact asks_pure _
  | error e => exact asks_countOne rfl

/-- **With no switch on, a command does what the repositories say it does.** -/
theorem Backend.perform_eq_eval {b : Backend} (hf : b.faults = .none) (supply : Supply)
    (command : Command) :
    (b.perform (command.job supply)).1 = ((command.job supply).eval b.repositories).1 ∧
      (b.perform (command.job supply)).2.repositories =
        ((command.job supply).eval b.repositories).2 ∧
      (b.perform (command.job supply)).2.faults = .none :=
  Script.run_eq_eval (Command.orderly command) hf trivial

/-! ### Runs -/

/-- Between the repositories, customers may have changed, but not who is one or is active. -/
structure Repositories.Aside (r r' : Repositories) : Prop where
  stores : r'.stores = r.stores
  orders : r'.orders = r.orders
  activity : r'.activity = r.activity

theorem Repositories.WellKept.of_aside {used : List Uuid} {r r' : Repositories}
    (h : r.WellKept used) (ha : r.Aside r') (hk : r'.KeyedCustomers) : r'.WellKept used := by
  refine ⟨⟨?_, fun id o ho => ?_, hk, ?_, ?_⟩, ⟨?_, ?_, ?_⟩⟩
  · rw [ha.stores]
    exact h.sound.store
  · rw [ha.orders] at ho
    obtain ⟨hid, hb⟩ := h.sound.order id o ho
    exact ⟨hid, hb.of_eq ha.stores hb.placed rfl rfl⟩
  · rw [ha.stores]
    exact h.sound.storeNews
  · rw [ha.orders]
    exact h.sound.orderNews
  · rw [ha.stores]
    exact h.issued.store
  · rw [ha.orders]
    exact h.issued.order
  · rw [ha.stores]
    exact h.issued.product

/-- A command that is given a new identifier leaves everything well kept, refused or not. -/
theorem Command.eval_wellKept {used : List Uuid} {r : Repositories} (hr : r.WellKept used)
    (hfresh : supply.uuid 0 ∉ used) (command : Command) :
    ((command.job supply).eval r).2.WellKept (supply.uuid 0 :: used) := by
  rcases command.eval_cases supply r with ⟨e, he⟩ | ⟨outcome, r', he, heffect⟩
  · rw [he]
    exact ⟨hr.sound, hr.issued.mono fun u hu => List.mem_cons_of_mem _ hu⟩
  · rw [he]
    exact heffect.wellKept hr hfresh

namespace Backend

variable {b : Backend} {used : List Uuid}

/-- Carries commands out one after the other, each with its supply, and gives what came of
each of them. -/
def executeAll (b : Backend) : List (Supply × Command) → List (Except Error Outcome) × Backend
  | [] => ([], b)
  | (supply, command) :: rest =>
    let (result, b) := b.execute supply command
    let (results, b) := b.executeAll rest
    (result :: results, b)

theorem executeAll_cons (b : Backend) (supply : Supply) (command : Command)
    (rest : List (Supply × Command)) :
    b.executeAll ((supply, command) :: rest) =
      ((b.execute supply command).1 :: ((b.execute supply command).2.executeAll rest).1,
        ((b.execute supply command).2.executeAll rest).2) := rfl

theorem executeAll_append (b : Backend) (commands rest : List (Supply × Command)) :
    b.executeAll (commands ++ rest) =
      ((b.executeAll commands).1 ++ ((b.executeAll commands).2.executeAll rest).1,
        ((b.executeAll commands).2.executeAll rest).2) := by
  induction commands generalizing b with
  | nil => rfl
  | cons c commands ih =>
    obtain ⟨supply, command⟩ := c
    rw [List.cons_append, executeAll_cons, executeAll_cons, ih]
    rfl

/-- Something comes of every command. -/
theorem length_executeAll (b : Backend) (commands : List (Supply × Command)) :
    (b.executeAll commands).1.length = commands.length := by
  induction commands generalizing b with
  | nil => rfl
  | cons c rest ih =>
    obtain ⟨supply, command⟩ := c
    exact congrArg (· + 1) (ih (b.execute supply command).2)

/-- The supplies of some commands begin with different identifiers. -/
def Fresh (commands : List (Supply × Command)) : Prop := (commands.map fun c => c.1.uuid 0).Nodup

instance (commands : List (Supply × Command)) : Decidable (Fresh commands) :=
  inferInstanceAs (Decidable (List.Nodup _))

/-- No two commands of some are given the same identifier to begin with. -/
theorem place_of_fresh {commands : List (Supply × Command)} (hfresh : Fresh commands) {i j : Nat}
    {c d : Supply × Command} (hi : commands[i]? = some c) (hj : commands[j]? = some d)
    (h : c.1.uuid 0 = d.1.uuid 0) : i = j := by
  obtain ⟨hlt, -⟩ := List.getElem?_eq_some_iff.mp hi
  refine (List.getElem?_inj (by rw [List.length_map]; exact hlt) hfresh).mp ?_
  rw [List.getElem?_map, List.getElem?_map, hi, hj, Option.map_some, Option.map_some, h]

/-- **What a command does where everything is well kept**: it gives what the repositories
say it gives, and leaves what they say it leaves, but for what is delivered then. -/
theorem execute_spec (hf : b.faults = .none) (hb : b.repositories.WellKept used) {supply : Supply}
    (hfresh : supply.uuid 0 ∉ used) (command : Command) :
    (b.execute supply command).1 = ((command.job supply).eval b.repositories).1 ∧
      ((command.job supply).eval b.repositories).2.Aside
        (b.execute supply command).2.repositories ∧
      (b.execute supply command).2.repositories.WellKept (supply.uuid 0 :: used) ∧
      (b.execute supply command).2.faults = .none := by
  obtain ⟨hresult, hrepos, hfaults⟩ := perform_eq_eval hf supply command
  have hkept := command.eval_wellKept hb hfresh
  have hkeyed : (b.perform (command.job supply)).2.repositories.KeyedCustomers := by
    rw [hrepos]
    exact hkept.sound.customer
  -- deliveries come after the command, and concern customers alone
  have hsettle := aside_settle hkeyed
  have haside : ((command.job supply).eval b.repositories).2.Aside
      (b.execute supply command).2.repositories := by
    rw [← hrepos]
    exact ⟨hsettle.stores, hsettle.orders, hsettle.activity⟩
  exact ⟨hresult, haside, hkept.of_aside haside (hsettle.keyed hkeyed),
    hsettle.faults.trans hfaults⟩

/-- What is new and different from each other stays new for the rest of a run. -/
theorem new_of_cons {supply : Supply} {command : Command} {rest : List (Supply × Command)}
    (hfresh : Fresh ((supply, command) :: rest))
    (hnew : ∀ c ∈ (supply, command) :: rest, c.1.uuid 0 ∉ used) :
    ∀ c ∈ rest, c.1.uuid 0 ∉ supply.uuid 0 :: used := by
  intro c hc hm
  rcases List.mem_cons.mp hm with he | hm
  · exact (List.nodup_cons.mp hfresh).1 (List.mem_map.mpr ⟨c, hc, he⟩)
  · exact hnew c (List.mem_cons_of_mem _ hc) hm

/-- **A run of commands with new identifiers leaves everything well kept.** -/
theorem executeAll_wellKept (commands : List (Supply × Command)) (hf : b.faults = .none)
    (hb : b.repositories.WellKept used) (hfresh : Fresh commands)
    (hnew : ∀ c ∈ commands, c.1.uuid 0 ∉ used) :
    (b.executeAll commands).2.repositories.WellKept
        ((commands.map fun c => c.1.uuid 0) ++ used) ∧
      (b.executeAll commands).2.faults = .none := by
  induction commands generalizing b used with
  | nil => exact ⟨hb, hf⟩
  | cons c rest ih =>
    obtain ⟨supply, command⟩ := c
    obtain ⟨hn, hrest⟩ := List.nodup_cons.mp hfresh
    obtain ⟨_, _, hkept, hfaults⟩ := execute_spec hf hb (hnew _ (List.mem_cons_self ..)) command
    obtain ⟨hall, hnone⟩ := ih hfaults hkept hrest (new_of_cons hfresh hnew)
    refine ⟨⟨hall.sound, hall.issued.mono fun u hu => ?_⟩, hnone⟩
    simp only [List.mem_append, List.mem_cons, List.map_cons, List.cons_append] at hu ⊢
    rcases hu with hu | hu | hu
    · exact .inr (.inl hu)
    · exact .inl hu
    · exact .inr (.inr hu)

/-- **What every command keeps, every run keeps.**  What is kept may depend on what came of
the commands, and must not depend on customers. -/
theorem run_keeps {P : Repositories → Prop} {Q : Command × Except Error Outcome → Prop}
    (hstep : ∀ (used : List Uuid) (supply : Supply) (r r' : Repositories) (command : Command)
      (outcome : Outcome), r.WellKept used → supply.uuid 0 ∉ used →
        command.Effect supply r outcome r' → Q (command, .ok outcome) → P r → P r')
    (haside : ∀ r r' : Repositories, r.Aside r' → P r → P r')
    (commands : List (Supply × Command)) (hf : b.faults = .none)
    (hb : b.repositories.WellKept used) (hfresh : Fresh commands)
    (hnew : ∀ c ∈ commands, c.1.uuid 0 ∉ used)
    (hq : ∀ c ∈ (commands.map Prod.snd).zip (b.executeAll commands).1, Q c)
    (hP : P b.repositories) : P (b.executeAll commands).2.repositories := by
  induction commands generalizing b used with
  | nil => exact hP
  | cons c rest ih =>
    obtain ⟨supply, command⟩ := c
    have hone : supply.uuid 0 ∉ used := hnew _ (List.mem_cons_self ..)
    obtain ⟨hresult, ha, hkept, hfaults⟩ := execute_spec hf hb hone command
    rw [executeAll_cons, List.map_cons, List.zip_cons_cons] at hq
    refine ih hfaults hkept (List.nodup_cons.mp hfresh).2 (new_of_cons hfresh hnew)
      (fun c hc => hq c (List.mem_cons_of_mem _ hc)) (haside _ _ ha ?_)
    rcases command.eval_cases supply b.repositories with ⟨e, he⟩ | ⟨outcome, r', he, heffect⟩
    · -- a command that is refused leaves what there was
      rw [he]
      exact hP
    · have hthis : Q (command, (b.execute supply command).1) := hq _ (List.mem_cons_self ..)
      rw [hresult, he] at hthis
      rw [he]
      exact hstep used supply _ r' command outcome hb hone heffect hthis hP

theorem wellKept_empty : empty.repositories.WellKept [] :=
  ⟨Repositories.sound_empty, Repositories.issuedFrom_empty⟩

/-- A run from the beginning leaves everything well kept. -/
theorem wellKept_of_run {commands : List (Supply × Command)} (hfresh : Fresh commands) :
    (empty.executeAll commands).2.repositories.WellKept (commands.map fun c => c.1.uuid 0) ∧
      (empty.executeAll commands).2.faults = .none := by
  have h := executeAll_wellKept commands rfl wellKept_empty hfresh fun _ _ => List.not_mem_nil
  rwa [List.append_nil] at h

/-- A command at the end of a run with new identifiers has a new one itself. -/
theorem fresh_snoc {commands : List (Supply × Command)} {c : Supply × Command}
    (h : Fresh (commands ++ [c])) :
    Fresh commands ∧ c.1.uuid 0 ∉ commands.map fun c => c.1.uuid 0 := by
  rw [Fresh, List.map_append, List.nodup_append] at h
  obtain ⟨hcommands, _, hdisjoint⟩ := h
  exact ⟨hcommands, fun hm => hdisjoint _ hm _ (List.mem_singleton.mpr rfl) rfl⟩

end Backend

/-! ### A small shop

The shop that examples below are about: two products, one customer. -/

namespace Sample

def shop : StoreId := (Supply.nth 0).id .store

def apple : ProductId := (Supply.nth 1).id .product

def pear : ProductId := (Supply.nth 2).id .product

def ann : CustomerId := (Supply.nth 5).id .customer

/-- The order that a command with a number places. -/
def order (n : Nat) : OrderId := (Supply.nth n).id .order

/-- Commands with supplies that are given out one after the other. -/
def numbered (commands : List Command) : List (Supply × Command) :=
  commands.zipIdx.map fun (c, i) => (Supply.nth i, c)

/-- Opens the shop with ten apples and three pears, and registers a customer. -/
def opening : List Command := [
  .createStore "Corner" ⟨"1 Main St", "Springfield", "IL", "62701", "US"⟩ "usd",
  .addProduct shop "Apple" "" ⟨150, default, by decide⟩,
  .addProduct shop "Pear" "" ⟨200, default, by decide⟩,
  .addInventory shop apple 10,
  .addInventory shop pear 3,
  .register "ann@example.com" "Ann" "Lee"]

/-- An order for apples and then for pears. -/
def fruit (apples pears : Count) : Command :=
  .createOrder ann shop [⟨apple, apples⟩, ⟨pear, pears⟩]

end Sample

end Storefront
