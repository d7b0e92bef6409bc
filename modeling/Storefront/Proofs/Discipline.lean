import Storefront.Proofs.TwoPhase

/-! # Commands in two phases

Every command for stores and orders is a script in two phases: its job is (`Job.TwoPhase`),
whatever quiet script it goes on with.  The lemmas follow the ways in which jobs are put
together; the commands then are one walk through their definitions each.
-/
namespace Storefront

/-- Whether a command is for customers, and not for stores and orders. -/
def Command.ofCustomers : Command → Bool
  | register .. | updateContact .. | redeemPoints .. | deactivateCustomer .. => true
  | _ => false

/-- The job is in two phases, whatever quiet script it goes on with. -/
structure Job.TwoPhase {α : Type} (new : Uuid) (held seen : List LockKey) (job : Job α) : Prop where
  andThen {β : Type} (k : Except Error α → Script β) (hk : ∀ x, (k x).Quiet) :
    (job.andThen k).TwoPhase new held seen

/-- The job has nothing more to do with what is kept. -/
def Job.Quiet {α : Type} (job : Job α) : Prop := job.Asks (·.closing = true)

namespace Job

variable {α β : Type} {new : Uuid} {held seen : List LockKey}

theorem Quiet.andThen {job : Job α} (hj : job.Quiet) {k : Except Error α → Script β}
    (hk : ∀ x, (k x).Quiet) : (job.andThen k).Quiet := Script.Asks.bind hj hk

theorem Quiet.twoPhase {job : Job α} (hj : job.Quiet) : job.TwoPhase new held seen :=
  ⟨fun _ hk => (hj.andThen hk).twoPhase⟩

/-- What comes behind a job in two phases may be quiet. -/
theorem TwoPhase.bind {job : Job α} {f : α → Job β} (hj : job.TwoPhase new held seen)
    (hf : ∀ a, (f a).Quiet) : (job >>= f).TwoPhase new held seen := by
  refine ⟨fun k hk => ?_⟩
  rw [andThen_bind]
  refine hj.andThen _ fun x => ?_
  cases x with
  | ok a => exact (hf a).andThen hk
  | error e => exact hk _

theorem TwoPhase.map {job : Job α} (hj : job.TwoPhase new held seen) (g : α → β) :
    (g <$> job).TwoPhase new held seen := by
  rw [map_eq_pure_bind]
  exact hj.bind fun a => asks_pure (g a)

theorem TwoPhase.withLock {job : Job α} {key : LockKey}
    (hj : job.TwoPhase new (key :: held) seen) : (job.withLock key).TwoPhase new held seen := by
  refine ⟨fun k hk => ?_⟩
  rw [andThen_withLock]
  exact hj.andThen _ fun x => ⟨rfl, fun _ => hk x⟩

theorem TwoPhase.inUnit {job : Job α} (hj : job.TwoPhase new held seen) :
    (Job.inUnit job).TwoPhase new held seen := by
  refine ⟨fun k hk => ?_⟩
  rw [andThen_inUnit]
  refine fun u => hj.andThen _ fun x => ?_
  cases x with
  | error e => exact ⟨rfl, fun _ => hk _⟩
  | ok a =>
    refine ⟨rfl, fun y => ?_⟩
    cases y with
    | error e => exact hk _
    | ok => exact hk _

theorem TwoPhase.committed {job : Job α} (hj : job.TwoPhase new held seen) :
    (Job.committed job).TwoPhase new held seen :=
  TwoPhase.bind hj.inUnit fun x => asks_ofResult x

/-- What is decided without a question may be refused, or gone on with. -/
theorem twoPhase_ofResult_bind {x : Except Error α} {f : α → Job β}
    (hf : ∀ a, x = .ok a → (f a).TwoPhase new held seen) :
    (ofResult x >>= f).TwoPhase new held seen := by
  refine ⟨fun k hk => ?_⟩
  rw [andThen_bind, andThen_ofResult]
  cases x with
  | error e => exact (hk _).twoPhase
  | ok a => exact (hf a rfl).andThen k hk

theorem twoPhase_findStore_bind {id : StoreId} {f : Store → Job β} (hheld : .store id ∈ held)
    (hf : ∀ s, s.id = id → (f s).TwoPhase new held (.store id :: seen)) :
    (findStore id >>= f).TwoPhase new held seen := by
  refine ⟨fun k hk => ?_⟩
  rw [andThen_bind]
  exact ⟨hheld, fun e => hk _, fun s hs => (hf s hs).andThen k hk⟩

theorem twoPhase_findOrder_bind {id : OrderId} {f : Order → Job β} (hheld : .order id ∈ held)
    (hf : ∀ o, o.id = id → (f o).TwoPhase new held (.order id :: seen)) :
    (findOrder id >>= f).TwoPhase new held seen := by
  refine ⟨fun k hk => ?_⟩
  rw [andThen_bind]
  exact ⟨hheld, fun e => hk _, fun o ho => (hf o ho).andThen k hk⟩

/-- Whatever comes of an attempt to find a store, there is something to go on with. -/
theorem twoPhase_attempt_findStore_bind {id : StoreId} {f : Except Error Store → Job β}
    (hheld : .store id ∈ held) (he : ∀ e, (f (.error e)).Quiet)
    (hf : ∀ s, s.id = id → (f (.ok s)).TwoPhase new held (.store id :: seen)) :
    ((findStore id).attempt >>= f).TwoPhase new held seen := by
  refine ⟨fun k hk => ?_⟩
  rw [andThen_bind, andThen_attempt]
  exact ⟨hheld, fun e => (he e).andThen hk, fun s hs => (hf s hs).andThen k hk⟩

theorem twoPhase_findCustomer_bind {id : CustomerId} {f : Customer → Job β}
    (hf : ∀ c, (f c).TwoPhase new held seen) (hsame : ∀ c d, c.active = d.active → f c = f d) :
    (findCustomer id >>= f).TwoPhase new held seen := by
  refine ⟨fun k hk => ?_⟩
  rw [andThen_bind]
  refine ⟨fun x => ?_, fun c d h => ?_⟩
  · cases x with
    | error e => exact (hk _).twoPhase
    | ok c => exact (hf c).andThen k hk
  · show (f c).andThen k = (f d).andThen k
    rw [hsame c d h]

theorem twoPhase_saveStore_bind {s : Store} {f : Unit → Job β} (hseen : .store s.id ∈ seen)
    (hf : (f ()).TwoPhase new held seen) : (saveStore s >>= f).TwoPhase new held seen := by
  refine ⟨fun k hk => ?_⟩
  rw [andThen_bind]
  exact .inl ⟨hseen, hf.andThen k hk⟩

theorem twoPhase_saveOrder_bind {o : Order} {f : Unit → Job β} (hseen : .order o.id ∈ seen)
    (hf : (f ()).TwoPhase new held seen) : (saveOrder o >>= f).TwoPhase new held seen := by
  refine ⟨fun k hk => ?_⟩
  rw [andThen_bind]
  exact .inl ⟨hseen, hf.andThen k hk⟩

theorem twoPhase_attempt_saveStore_bind {s : Store} {f : Except Error Unit → Job β}
    (hseen : .store s.id ∈ seen) (hf : (f (.ok ())).TwoPhase new held seen) :
    ((saveStore s).attempt >>= f).TwoPhase new held seen := by
  refine ⟨fun k hk => ?_⟩
  rw [andThen_bind, andThen_attempt]
  exact .inl ⟨hseen, hf.andThen k hk⟩

/-- A new store is made as the last thing. -/
theorem twoPhase_saveStore {s : Store} (hid : s.id.uuid = new) :
    (saveStore s).TwoPhase new held seen := ⟨fun _ hk => .inr ⟨hid, hk _⟩⟩

/-- A new order is made as the last thing. -/
theorem twoPhase_saveOrder {o : Order} (hid : o.id.uuid = new) :
    (saveOrder o).TwoPhase new held seen := ⟨fun _ hk => .inr ⟨hid, hk _⟩⟩

end Job

/-! ### What keeps its identifier -/

namespace Order

variable {o o' : Order} {s s' : Store}

theorem id_of_addLine {fresh line : LineId} {product : ProductId} {name : String}
    {quantity : Count} {price : Money}
    (h : o.addLine fresh product name quantity price = .ok (line, o')) : o'.id = o.id := by
  unfold addLine at h
  obtain ⟨_, _, h⟩ := bind_eq_ok_iff.mp h
  split at h
  · cases h
  · obtain ⟨⟨_, lines⟩, _, h⟩ := bind_eq_ok_iff.mp h
    obtain ⟨o'', hw, h⟩ := bind_eq_ok_iff.mp h
    cases h
    obtain ⟨_, _, h⟩ := bind_eq_ok_iff.mp hw
    cases h
    rfl

theorem ids_of_fillLines {lines : List (LineId × RequestedLine)}
    (h : o.fillLines s lines = .ok (o', s')) : o'.id = o.id ∧ s'.id = s.id := by
  induction lines generalizing o s with
  | nil =>
    cases h
    exact ⟨rfl, rfl⟩
  | cons l rest ih =>
    obtain ⟨fresh, l⟩ := l
    obtain ⟨⟨o₁, s₁⟩, hline, hrest⟩ := bind_eq_ok_iff.mp h
    obtain ⟨ho, hs⟩ := ih hrest
    obtain ⟨p, _, hline⟩ := bind_eq_ok_iff.mp hline
    obtain ⟨s₂, hreserve, hline⟩ := bind_eq_ok_iff.mp hline
    obtain ⟨⟨_, o₂⟩, hadd, hline⟩ := bind_eq_ok_iff.mp hline
    cases hline
    have hid := id_of_addLine (mapError_eq_ok_iff.mp hadd)
    have hstore := (Store.reserve_sameCatalogue (mapError_eq_ok_iff.mp hreserve)).id_eq
    exact ⟨ho.trans hid, hs.trans hstore⟩

/-- An order is placed under the identifier that it is given, at the store that it is given. -/
theorem place_ids {id : OrderId} {fresh : Nat → LineId} {now : Timestamp} {customer : CustomerId}
    {lines : List RequestedLine} (h : place id fresh now customer s lines = .ok (o, s')) :
    o.id = id ∧ s'.id = s.id := by
  unfold place at h
  obtain ⟨o₀, hcreate, h⟩ := bind_eq_ok_iff.mp h
  obtain ⟨⟨o₁, s₁⟩, hfill, h⟩ := bind_eq_ok_iff.mp h
  obtain ⟨o₂, hconfirm, h⟩ := bind_eq_ok_iff.mp h
  cases h
  obtain ⟨ho, hs⟩ := ids_of_fillLines hfill
  have hnew : o₀.id = id := by
    have hcreate : create id customer s.id s.currency now = .ok o₀ := mapError_eq_ok_iff.mp hcreate
    unfold create at hcreate
    obtain ⟨_, _, he⟩ := bind_eq_ok_iff.mp hcreate
    cases he
    rfl
  have hsame : o.id = o₁.id := by
    have hconfirm : o₁.confirm = .ok o := mapError_eq_ok_iff.mp hconfirm
    unfold confirm at hconfirm
    obtain ⟨_, _, hconfirm⟩ := bind_eq_ok_iff.mp hconfirm
    split at hconfirm
    · cases hconfirm
    · obtain ⟨_, _, he⟩ := bind_eq_ok_iff.mp hconfirm
      cases he
      rfl
  exact ⟨hsame.trans (ho.trans hnew), hs⟩

end Order

theorem Order.id_of_cancel {o o' : Order} {reason : String} (h : o.cancel reason = .ok o') :
    o'.id = o.id := by
  rw [(Order.cancel_eq_ok_iff.mp h).2]

theorem Order.id_of_advance {o o' : Order} {now : Timestamp} {transition : OrderTransition}
    (h : o.advance now transition = .ok o') : o'.id = o.id := by
  rw [(Order.advance_eq_ok h).2.2]

/-! ### The commands -/

open Job

variable {α : Type} {supply : Supply}

theorem Catalogue.twoPhase_createStore (name : String) (location : Address) (currency : String) :
    (createStore supply name location currency).TwoPhase (supply.uuid 0) [] [] := by
  unfold createStore
  refine twoPhase_ofResult_bind fun s hs => ?_
  have hid : s.id = supply.id .store := (Store.create_eq_ok (mapError_eq_ok_iff.mp hs)).1
  have hsave : (saveStore s).TwoPhase (supply.uuid 0) [] [] :=
    twoPhase_saveStore (by rw [hid]; rfl)
  exact TwoPhase.bind hsave.committed fun _ => Asks.bind (asks_publish rfl) fun _ => asks_pure _

theorem Catalogue.twoPhase_withStore (new : Uuid) (id : StoreId)
    {change : Store → Except StoreError (α × Store)}
    (hchange : ∀ s x, change s = .ok x → x.2.id = s.id) :
    (withStore id change).TwoPhase new [] [] := by
  unfold withStore
  refine TwoPhase.bind (TwoPhase.committed (TwoPhase.withLock ?_)) fun x =>
    Asks.bind (asks_publish rfl) fun _ => asks_pure _
  refine twoPhase_findStore_bind (List.mem_singleton.mpr rfl) fun s hs => ?_
  refine twoPhase_ofResult_bind fun x hx => ?_
  obtain ⟨a, s'⟩ := x
  have hid : s'.id = id := (hchange s _ (mapError_eq_ok_iff.mp hx)).trans hs
  refine twoPhase_saveStore_bind (by rw [hid]; exact List.mem_singleton.mpr rfl) ?_
  exact Quiet.twoPhase (asks_pure _)

theorem Ordering.twoPhase_place (customerId : CustomerId) (storeId : StoreId)
    (lines : List RequestedLine) :
    (place supply customerId storeId lines).TwoPhase (supply.uuid 0) [] [] := by
  unfold place
  -- of what is decided, only the identifiers matter here
  generalize hplace : Order.place (supply.id .order) supply.line supply.now customerId = decision
  refine twoPhase_findCustomer_bind (fun c => ?_) fun c d h => by rw [h]
  dsimp only
  split
  · exact Quiet.twoPhase (asks_throw _)
  · refine TwoPhase.withLock (twoPhase_findStore_bind (List.mem_singleton.mpr rfl) fun s hs => ?_)
    refine twoPhase_ofResult_bind fun placed hp => ?_
    obtain ⟨o, s'⟩ := placed
    rw [← hplace] at hp
    obtain ⟨hid, hstore⟩ := Order.place_ids hp
    refine twoPhase_saveStore_bind (by rw [hstore, hs]; exact List.mem_singleton.mpr rfl) ?_
    exact TwoPhase.bind (twoPhase_saveOrder (by rw [hid]; rfl)) fun _ => asks_pure _

theorem Ordering.quiet_reject (e : Error) : (reject e : Job α).Quiet :=
  Asks.bind (asks_countOne rfl) fun _ => asks_throw e

theorem Ordering.twoPhase_createOrder (customerId : CustomerId) (storeId : StoreId)
    (lines : List RequestedLine) :
    (createOrder supply customerId storeId lines).TwoPhase (supply.uuid 0) [] [] := by
  unfold createOrder
  split
  · exact Quiet.twoPhase (quiet_reject _)
  · refine TwoPhase.bind (TwoPhase.inUnit (twoPhase_place ..)) fun x => ?_
    cases x with
    | error e => exact quiet_reject e
    | ok placed =>
      refine Asks.bind (asks_publish rfl) fun _ => ?_
      exact Asks.bind (asks_countOne rfl) fun _ => asks_pure _

theorem Ordering.twoPhase_releaseStock (new : Uuid) (held seen : List LockKey) (order : Order) :
    (releaseStock order).TwoPhase new held seen := by
  unfold releaseStock
  refine TwoPhase.withLock (twoPhase_attempt_findStore_bind (List.mem_cons_self ..)
    (fun e => asks_pure _) fun s hs => ?_)
  have hid : (s.release order.lines).1.id = order.storeId :=
    (s.release_spec order.lines).1.id_eq.trans hs
  refine twoPhase_attempt_saveStore_bind (by rw [hid]; exact List.mem_cons_self ..) ?_
  exact Quiet.twoPhase (asks_pure _)

theorem Ordering.twoPhase_cancel (new : Uuid) (id : OrderId) (reason : String) :
    (cancel id reason).TwoPhase new [] [] := by
  unfold cancel
  refine TwoPhase.withLock ?_
  refine twoPhase_findOrder_bind (List.mem_singleton.mpr rfl) fun before hb => ?_
  refine twoPhase_ofResult_bind fun order ho => ?_
  -- the order is written over before the lock of its store is taken, and not given back yet
  have hid : order.id = id := (Order.id_of_cancel (mapError_eq_ok_iff.mp ho)).trans hb
  refine twoPhase_saveOrder_bind (by rw [hid]; exact List.mem_singleton.mpr rfl) ?_
  dsimp only
  split
  · refine TwoPhase.bind (twoPhase_releaseStock ..) fun back => ?_
    obtain ⟨released, failed, news⟩ := back
    dsimp only
    split
    · exact Asks.bind (asks_perform rfl) fun _ => asks_pure _
    · exact asks_pure _
  · exact Quiet.twoPhase (asks_pure _)

theorem Ordering.twoPhase_cancelOrder (new : Uuid) (id : OrderId) (reason : String) :
    (cancelOrder id reason).TwoPhase new [] [] := by
  unfold cancelOrder
  refine TwoPhase.bind (TwoPhase.committed (twoPhase_cancel new id reason)) fun x => ?_
  refine Asks.bind (asks_publish rfl) fun _ => ?_
  exact Asks.bind (asks_countOne rfl) fun _ => asks_pure _

theorem Ordering.twoPhase_advanceOrder (new : Uuid) (id : OrderId)
    (transition : OrderTransition) :
    (advanceOrder supply id transition).TwoPhase new [] [] := by
  unfold advanceOrder
  refine TwoPhase.bind (TwoPhase.committed (TwoPhase.withLock ?_)) fun order => ?_
  · refine twoPhase_findOrder_bind (List.mem_singleton.mpr rfl) fun order ho => ?_
    refine twoPhase_ofResult_bind fun order' ho' => ?_
    have hid : order'.id = id := (Order.id_of_advance (mapError_eq_ok_iff.mp ho')).trans ho
    refine twoPhase_saveOrder_bind (by rw [hid]; exact List.mem_singleton.mpr rfl) ?_
    exact Quiet.twoPhase (asks_pure _)
  · refine Asks.bind (asks_publish rfl) fun _ => ?_
    exact Asks.bind (asks_countOne rfl) fun _ => asks_pure _

/-- **Every command for stores and orders is in two phases.** -/
theorem Command.twoPhase {command : Command} (h : command.ofCustomers = false) :
    Script.TwoPhase (supply.uuid 0) [] [] (command.job supply).run := by
  have hjob : (command.job supply).TwoPhase (supply.uuid 0) [] [] := by
    cases command with
    | createStore name location currency => exact (Catalogue.twoPhase_createStore ..).map _
    | addProduct id name description price =>
      refine TwoPhase.map ?_ _
      refine TwoPhase.bind (Catalogue.twoPhase_withStore _ _ ?_) fun x => asks_pure _
      rintro s ⟨p, s'⟩ hs
      obtain ⟨_, _, _, _, _, rfl⟩ := Store.addProduct_eq_ok_iff.mp hs
      rfl
    | addInventory id product quantity =>
      refine TwoPhase.map (TwoPhase.bind (Catalogue.twoPhase_withStore _ _ ?_) fun x =>
        asks_ofResult _) _
      rintro s x hx
      obtain ⟨s', hs, he⟩ := bind_eq_ok_iff.mp hx
      cases he
      exact (Store.addInventory_sameCatalogue hs).id_eq
    | updatePrice id product price =>
      refine TwoPhase.map (TwoPhase.bind (Catalogue.twoPhase_withStore _ _ ?_) fun x =>
        asks_ofResult _) _
      rintro s x hx
      obtain ⟨s', hs, he⟩ := bind_eq_ok_iff.mp hx
      cases he
      obtain ⟨_, _, _, _, rfl⟩ := Store.updatePrice_eq_ok_iff.mp hs
      rfl
    | deactivateProduct id product =>
      refine TwoPhase.map ?_ _
      refine TwoPhase.bind (Catalogue.twoPhase_withStore _ _ ?_) fun x => asks_pure _
      rintro s x hx
      obtain ⟨s', hs, he⟩ := bind_eq_ok_iff.mp hx
      cases he
      obtain ⟨_, _, rfl⟩ := Store.deactivateProduct_eq_ok_iff.mp hs
      rfl
    | createOrder customerId storeId lines => exact (Ordering.twoPhase_createOrder ..).map _
    | cancelOrder id reason => exact (Ordering.twoPhase_cancelOrder ..).map _
    | advanceOrder id transition => exact (Ordering.twoPhase_advanceOrder ..).map _
    | register | updateContact | redeemPoints | deactivateCustomer => cases h
  rw [← andThen_done]
  exact hjob.andThen .done fun x => trivial

end Storefront
