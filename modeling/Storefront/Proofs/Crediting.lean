import Storefront.Proofs.Clientele
import Storefront.Proofs.Execution

/-! # What crediting points does

A confirmed order earns its customer a point for each whole unit of money, as far as a count
can say (`Payload.award`).  Crediting adds the points to the balance if the account is open and
the sum is a count, and sets the tier; otherwise nothing changes (`Customer.earn`).
`Backend.Credits` lists the ways in which crediting can go, and `Backend.perform_credit` says that
there are no others.  Where customers are kept as they should be, commands and what they have
delivered leave them so (`Backend.executeAll_clientele`).
-/
namespace Storefront

/-! ### Balances -/

namespace Repositories

variable {r : Repositories} {c : Customer}

/-- The balance of a customer, nothing if there is no such customer. -/
def balance (r : Repositories) (id : CustomerId) : Nat :=
  ((r.customers.get? id).map (·.loyaltyPoints.toNat)).getD 0

theorem balance_eq {id : CustomerId} (h : r.customers.get? id = some c) :
    r.balance id = c.loyaltyPoints.toNat := by
  rw [balance, h]
  rfl

theorem activity_eq {id : CustomerId} (h : r.customers.get? id = some c) :
    r.activity id = some c.active := by
  rw [activity, h]
  rfl

theorem balance_congr {r' : Repositories} (h : r'.customers = r.customers) :
    r'.balance = r.balance := by
  funext id
  rw [balance, balance, h]

theorem activity_congr {r' : Repositories} (h : r'.customers = r.customers) :
    r'.activity = r.activity := by
  funext id
  rw [activity, activity, h]

end Repositories

/-! ### Points -/

theorem Count.toNat_le_max (a : Count) : a.toNat ≤ Count.max.toNat := Nat.le_of_lt_succ a.toNat_lt

theorem Count.toNat_ofNat_of_le {n : Nat} (h : n ≤ Count.max.toNat) :
    (UInt32.ofNat n).toNat = n := by
  rw [UInt32.toNat_ofNat']
  exact Nat.mod_eq_of_lt (Nat.lt_of_le_of_lt h Count.max.toNat_lt)

/-- A point for each whole unit of money, as many as a count can say. -/
theorem Loyalty.toNat_pointsFor (total : Money) :
    (pointsFor total).toNat = min (total.amount / 100) Count.max.toNat :=
  Count.toNat_ofNat_of_le (Nat.min_le_right ..)

/-- The points that an event is worth to a customer: those for an order of theirs, if the event
says that one has been confirmed. -/
def Payload.award (id : CustomerId) : Payload → Nat
  | .order (.confirmed _ customerId _ total _) =>
    if customerId = id then min (total.amount / 100) Count.max.toNat else 0
  | _ => 0

namespace Customer

variable {c : Customer} {n : Nat}

/-- The customer with another balance, in the tier that it earns. -/
def withBalance (c : Customer) (balance : Count) : Customer :=
  { c with loyaltyPoints := balance, tier := Tier.forPoints balance, pending := [] }

/-- Whether the account is open and so many points still fit into the balance. -/
def CanEarn (c : Customer) (n : Nat) : Prop :=
  c.active = true ∧ c.loyaltyPoints.toNat + n ≤ Count.max.toNat

instance (c : Customer) (n : Nat) : Decidable (c.CanEarn n) := inferInstanceAs (Decidable (_ ∧ _))

/-- **The customer once so many points have been credited**, if they can be. -/
def earn (c : Customer) (n : Nat) : Customer :=
  if n ≠ 0 ∧ c.CanEarn n then c.withBalance (UInt32.ofNat (c.loyaltyPoints.toNat + n)) else c

@[simp] theorem earn_zero (c : Customer) : c.earn 0 = c := if_neg fun h => h.1 rfl

theorem earn_of_not (h : ¬ c.CanEarn n) : c.earn n = c := if_neg fun hn => h hn.2

theorem earn_fields (c : Customer) (n : Nat) :
    (c.earn n).id = c.id ∧ (c.earn n).email = c.email ∧ (c.earn n).active = c.active := by
  unfold earn
  split <;> exact ⟨rfl, rfl, rfl⟩

theorem points_earn (c : Customer) (n : Nat) :
    (c.earn n).loyaltyPoints.toNat =
      if c.CanEarn n then c.loyaltyPoints.toNat + n else c.loyaltyPoints.toNat := by
  by_cases hn : n = 0
  · rw [hn, earn_zero, Nat.add_zero, ite_self]
  · by_cases hc : c.CanEarn n
    · rw [earn, if_pos ⟨hn, hc⟩, if_pos hc]
      exact Count.toNat_ofNat_of_le hc.2
    · rw [earn_of_not hc, if_neg hc]

theorem settled_reviewTier (c : Customer) :
    c.reviewTier.settled = c.withBalance c.loyaltyPoints := by
  unfold reviewTier
  dsimp only
  split
  · rename_i htier
    rw [withBalance, htier]
    rfl
  · rfl

variable {points : Count}

/-- Points that fit into the balance of an open account are credited. -/
theorem addPoints_of_canEarn (hp : points ≠ 0) (h : c.CanEarn points.toNat) :
    ∃ c', c.addPoints points = .ok c' ∧ c'.settled = c.earn points.toNat := by
  have hsum : c.loyaltyPoints.add? points =
      some (UInt32.ofNat (c.loyaltyPoints.toNat + points.toNat)) :=
    Count.add?_eq_some_iff.mpr (Count.toNat_ofNat_of_le h.2)
  have hzero : points.toNat ≠ 0 := fun hz => hp (UInt32.toNat_inj.mp hz)
  unfold addPoints ensureActive
  rw [if_neg hp, hsum, if_pos h.1, earn, if_pos ⟨hzero, h⟩]
  exact ⟨_, rfl, settled_reviewTier _⟩

/-- Points that do not fit into the balance are refused. -/
theorem addPoints_of_lt (hp : points ≠ 0) (ha : c.active = true)
    (hlt : Count.max.toNat < c.loyaltyPoints.toNat + points.toNat) :
    c.addPoints points = .error .pointsOverflow := by
  have hsum : c.loyaltyPoints.add? points = none := if_neg (Nat.not_lt.mpr hlt)
  unfold addPoints ensureActive
  rw [if_neg hp, hsum, if_pos ha]
  rfl

theorem addPoints_of_inactive (hp : points ≠ 0) (ha : c.active = false) :
    c.addPoints points = .error (.inactive c.id) := by
  unfold addPoints ensureActive
  rw [if_neg hp, if_neg (by simp [ha])]
  rfl

end Customer

/-- What some events are worth to a customer. -/
def awards (id : CustomerId) (events : List Payload) : Nat := (events.map (Payload.award id)).sum

@[simp] theorem awards_nil (id : CustomerId) : awards id [] = 0 := rfl

@[simp] theorem awards_cons (id : CustomerId) (p : Payload) (events : List Payload) :
    awards id (p :: events) = p.award id + awards id events := rfl

/-- The customer after some events, one after the other. -/
def Customer.earnAll (c : Customer) (id : CustomerId) (events : List Payload) : Customer :=
  events.foldl (fun c p => c.earn (p.award id)) c

/-! ### Crediting -/

/-- Crediting does nothing, or tries to add points to the balance of one customer under their
lock. -/
theorem Loyalty.credit_cases (p : Payload) :
    (∀ id, p.award id = 0) ∧ credit p = pure () ∨
      ∃ (id : CustomerId) (points : Count), points ≠ 0 ∧ p.award id = points.toNat ∧
        credit p = Job.withLock (.customer id) (do
          let customer ← Job.findCustomer id
          let customer ← customer.addPoints points
          Job.saveCustomer customer
          Job.perform (.count .pointsAwarded points.toNat)) := by
  unfold credit
  split
  · rename_i order customerId store total items
    have haward : ∀ id, Payload.award id
        (.order (.confirmed order customerId store total items)) =
          if customerId = id then (pointsFor total).toNat else 0 := by
      intro id
      rw [toNat_pointsFor]
      rfl
    generalize pointsFor total = points at haward ⊢
    by_cases hp : points = 0
    · refine .inl ⟨fun id => ?_, if_pos hp⟩
      rw [haward, hp, UInt32.toNat_zero, ite_self]
    · exact .inr ⟨customerId, points, hp, by rw [haward, if_pos rfl], if_neg hp⟩
  · rename_i hother
    refine .inl ⟨fun id => ?_, rfl⟩
    unfold Payload.award
    split
    · exact absurd rfl (hother _ _ _ _ _)
    · rfl

/-- **How crediting the points for an event can go.**  The event is worth nothing; or it is worth
something to one customer, who is not kept, or is inactive, or whose balance is too large for it;
or it is credited. -/
inductive Backend.Credits (b : Backend) (p : Payload) : Except Error Unit → Backend → Prop where
  | nothing (h : ∀ id, p.award id = 0) : Credits b p (.ok ()) b
  | unknown {id} (hp : p.award id ≠ 0) (hget : b.repositories.customers.get? id = none) :
      Credits b p (.error (.notFound "Customer" id.text)) b
  | inactive {id c} (hp : p.award id ≠ 0) (hget : b.repositories.customers.get? id = some c)
      (ha : c.active = false) : Credits b p (.error (.customer (.inactive id))) b
  | full {id c} (hp : p.award id ≠ 0) (hget : b.repositories.customers.get? id = some c)
      (ha : c.active = true) (hlt : Count.max.toNat < c.loyaltyPoints.toNat + p.award id) :
      Credits b p (.error (.customer .pointsOverflow)) b
  | credited {id c} (hp : p.award id ≠ 0)
      (hget : b.repositories.customers.get? id = some c) (hc : c.CanEarn (p.award id)) :
      Credits b p (.ok ()) { b with
        repositories := { b.repositories with
          customers := b.repositories.customers.insert id (c.earn (p.award id)) }
        metrics := b.metrics.add .pointsAwarded (p.award id) }

namespace Backend

variable {b : Backend}

/-- A job goes on only with a value. -/
theorem perform_bind {α β : Type} (b : Backend) (job : Job α) (f : α → Job β) :
    b.perform (job >>= f) =
      match b.perform job with
      | (.ok a, b') => b'.perform (f a)
      | (.error e, b') => (.error e, b') := by
  unfold perform
  rw [Job.run_bind, Script.run_bind]
  rcases Script.run job.run b with ⟨x, b'⟩
  cases x <;> rfl

/-- Nobody else being there, a lock changes nothing. -/
theorem perform_withLock {α : Type} (b : Backend) (key : LockKey) (job : Job α) :
    b.perform (job.withLock key) = b.perform job := by
  unfold perform
  rw [← Job.andThen_done, Job.andThen_withLock]
  exact Script.run_bind job.run (fun x => .ask (.unlock key) fun _ => .done x) b

/-- An attempt always gives something. -/
theorem perform_attempt {α : Type} (b : Backend) (job : Job α) :
    b.perform job.attempt = (.ok (b.perform job).1, (b.perform job).2) :=
  Script.run_bind job.run (fun x => .done (.ok x : Except Error _)) b

theorem perform_findCustomer (hf : b.faults = .none) (id : CustomerId) :
    b.perform (Job.findCustomer id) = (b.repositories.findCustomer id, b) := by
  show (b.find b.faults.findCustomers (·.findCustomer id), b) = _
  rw [hf]
  rfl

/-- A customer who can be kept is kept. -/
theorem perform_saveCustomer (hf : b.faults = .none) {c : Customer} {r : Repositories}
    (h : b.repositories.saveCustomer c = .ok r) :
    b.perform (Job.saveCustomer c) = (.ok (), { b with repositories := r }) := by
  have hon : b.faults.saveCustomers = false := by rw [hf]; rfl
  show b.save b.faults.saveCustomers (·.saveCustomer c) = _
  simp [save, hon, h]

/-- Crediting points that can be credited to a customer who is kept. -/
theorem perform_credit_of_canEarn (hf : b.faults = .none) (hc : b.repositories.Clientele)
    {id : CustomerId} {c : Customer} (hget : b.repositories.customers.get? id = some c)
    {points : Count} (hp : points ≠ 0) (h : c.CanEarn points.toNat) (rest : Job Unit) :
    b.perform (do
        let c ← c.addPoints points
        Job.saveCustomer c
        rest) =
      perform { b with repositories := { b.repositories with
        customers := b.repositories.customers.insert id (c.earn points.toNat) } } rest := by
  obtain ⟨c', hadd, hsettled⟩ := Customer.addPoints_of_canEarn hp h
  obtain ⟨hid, hemail, _⟩ := c.earn_fields points.toNat
  have hcid : c'.id = id := by
    rw [← hc.keyed id c hget, ← hid, ← hsettled]
    rfl
  have hcemail : c'.email = c.email := by
    rw [← hemail, ← hsettled]
    rfl
  have hkept := hc.saveCustomer hget hcid hcemail
  rw [hcid, hsettled] at hkept
  rw [hadd]
  show b.perform (Job.saveCustomer c' >>= fun _ => rest) = _
  rw [perform_bind, perform_saveCustomer hf hkept]

/-- **Crediting goes in one of these ways.** -/
theorem perform_credit (hf : b.faults = .none) (hc : b.repositories.Clientele) (p : Payload) :
    b.Credits p (b.perform (Loyalty.credit p)).1 (b.perform (Loyalty.credit p)).2 := by
  rcases Loyalty.credit_cases p with ⟨hnothing, heq⟩ | ⟨id, points, hp, haward, heq⟩
  · rw [heq]
    exact .nothing hnothing
  · have hp' : p.award id ≠ 0 := by
      rw [haward]
      exact fun h => hp (UInt32.toNat_inj.mp h)
    rw [heq, perform_withLock, perform_bind, perform_findCustomer hf, Repositories.findCustomer]
    cases hget : b.repositories.customers.get? id with
    | none => exact .unknown hp' hget
    | some c =>
      dsimp only
      by_cases hearn : c.CanEarn points.toNat
      · rw [perform_credit_of_canEarn hf hc hget hp hearn, ← haward]
        exact .credited hp' hget (haward ▸ hearn)
      · cases ha : c.active with
        | false =>
          have hadd := Customer.addPoints_of_inactive hp ha
          rw [hc.keyed _ _ hget] at hadd
          rw [hadd]
          exact .inactive hp' hget ha
        | true =>
          have hlt := Nat.lt_of_not_le fun hle => hearn ⟨ha, hle⟩
          rw [Customer.addPoints_of_lt hp ha hlt]
          exact .full hp' hget ha (haward ▸ hlt)

end Backend

/-- An event is worth something to one customer at most. -/
theorem Payload.award_eq_zero {p : Payload} {id other : CustomerId} (hp : p.award id ≠ 0)
    (hne : other ≠ id) : p.award other = 0 := by
  unfold award at hp ⊢
  split
  · rename_i customerId _ _ _
    dsimp only at hp
    by_cases hother : customerId = other
    · rw [if_neg (hother ▸ hne)] at hp
      exact absurd rfl hp
    · exact if_neg hother
  · rfl

namespace Backend.Credits

variable {b b' : Backend} {p : Payload} {x : Except Error Unit}

/-- Crediting concerns customers alone, and publishes nothing. -/
theorem frame (h : b.Credits p x b') :
    b'.repositories.stores = b.repositories.stores ∧
      b'.repositories.orders = b.repositories.orders ∧ b'.published = b.published ∧
        b'.deliveries = b.deliveries ∧ b'.faults = b.faults := by
  cases h <;> exact ⟨rfl, rfl, rfl, rfl, rfl⟩

theorem clientele (h : b.Credits p x b') (hc : b.repositories.Clientele) :
    b'.repositories.Clientele := by
  cases h with
  | nothing | unknown | inactive | full => exact hc
  | @credited id c hp hget hearn =>
    have hid := hc.keyed id c hget
    subst hid
    have hkept : c.earn (p.award c.id) = (c.earn (p.award c.id)).settled := by
      rw [Customer.earn, if_pos ⟨hp, hearn⟩]
      rfl
    obtain ⟨hid, hemail, _⟩ := c.earn_fields (p.award c.id)
    have hover := hc.insert (hc.free hget hid hemail)
    rw [hid, ← hkept] at hover
    exact hover

/-- **Everybody has earned what the event is worth to them**, and nothing else has changed about
customers. -/
theorem customers (h : b.Credits p x b') (id : CustomerId) :
    b'.repositories.customers.get? id =
      (b.repositories.customers.get? id).map (·.earn (p.award id)) := by
  have hsame : (∀ c, b.repositories.customers.get? id = some c → c.earn (p.award id) = c) →
      b.repositories.customers.get? id =
        (b.repositories.customers.get? id).map (·.earn (p.award id)) := by
    intro hc
    cases hget : b.repositories.customers.get? id with
    | none => rfl
    | some c => rw [Option.map_some, hc c hget]
  have hother : ∀ {known : CustomerId}, p.award known ≠ 0 → id ≠ known → p.award id = 0 :=
    fun hp hne => Payload.award_eq_zero hp hne
  cases h with
  | nothing h => exact hsame fun c _ => by rw [h, Customer.earn_zero]
  | @unknown known hp hnone =>
    refine hsame fun c hc => ?_
    by_cases hid : id = known
    · rw [hid, hnone] at hc
      cases hc
    · rw [hother hp hid, Customer.earn_zero]
  | @inactive known d hp hget ha =>
    refine hsame fun c hc => ?_
    by_cases hid : id = known
    · rw [hid, hget] at hc
      cases hc
      exact Customer.earn_of_not fun h => by rw [h.1] at ha; cases ha
    · rw [hother hp hid, Customer.earn_zero]
  | @full known d hp hget ha hlt =>
    refine hsame fun c hc => ?_
    by_cases hid : id = known
    · rw [hid, hget] at hc
      cases hc
      rw [hid]
      exact Customer.earn_of_not fun h => absurd h.2 (Nat.not_le.mpr hlt)
    · rw [hother hp hid, Customer.earn_zero]
  | @credited known d hp hget _ =>
    show (b.repositories.customers.insert known _).get? id = _
    rw [Table.get?_insert]
    by_cases hid : id = known
    · rw [if_pos hid, hid, hget]
      rfl
    · rw [if_neg hid]
      exact hsame fun c _ => by rw [hother hp hid, Customer.earn_zero]

/-- **The balance grows by what the event is worth**, or not at all. -/
theorem balance (h : b.Credits p x b') (id : CustomerId) :
    b'.repositories.balance id = b.repositories.balance id +
      if b.repositories.activity id = some true ∧
        b.repositories.balance id + p.award id ≤ Count.max.toNat then p.award id else 0 := by
  have hafter := h.customers id
  cases hget : b.repositories.customers.get? id with
  | none =>
    rw [hget] at hafter
    have hnone : b.repositories.activity id ≠ some true := by
      rw [Repositories.activity, hget]
      exact (Option.some_ne_none true).symm
    rw [if_neg fun hc => hnone hc.1, Repositories.balance, Repositories.balance, hafter, hget]
    rfl
  | some c =>
    rw [hget] at hafter
    rw [Repositories.balance_eq hafter, Repositories.balance_eq hget,
      Repositories.activity_eq hget, Customer.points_earn]
    by_cases hc : c.CanEarn (p.award id)
    · rw [if_pos hc, if_pos ⟨congrArg some hc.1, hc.2⟩]
    · rw [if_neg hc, if_neg fun hboth => hc ⟨Option.some.inj hboth.1, hboth.2⟩, Nat.add_zero]

/-- Crediting leaves everybody as active as they are. -/
theorem activity (h : b.Credits p x b') : b'.repositories.activity = b.repositories.activity := by
  funext id
  rw [Repositories.activity, Repositories.activity, h.customers, Option.map_map]
  congr 1
  funext c
  exact (c.earn_fields (p.award id)).2.2

end Backend.Credits

/-! ### Deliveries and runs -/

namespace Backend

variable {b : Backend} {used : List Uuid}

/-- Delivering is crediting, but that a failure is counted. -/
theorem perform_deliver (b : Backend) (d : Delivery) :
    (b.perform (Loyalty.deliver d)).2 =
      match b.perform (Loyalty.credit d.payload) with
      | (.ok (), b') => b'
      | (.error _, b') => b'.count (.handlerFailures d.listener.name) 1 := by
  obtain ⟨⟨⟩, p⟩ := d
  unfold Loyalty.deliver
  dsimp only
  rw [perform_bind, perform_attempt]
  rcases b.perform (Loyalty.credit p) with ⟨⟨⟩, b'⟩ <;> rfl

theorem perform_deliver_metrics (b : Backend) (d : Delivery) :
    ∃ metrics, (b.perform (Loyalty.deliver d)).2 =
      { (b.perform (Loyalty.credit d.payload)).2 with metrics := metrics } := by
  rw [perform_deliver]
  rcases b.perform (Loyalty.credit d.payload) with ⟨⟨⟩, b'⟩
  · exact ⟨_, rfl⟩
  · exact ⟨_, rfl⟩

/-- **What is delivered is credited**, one after the other, and nothing more is on its way
then. -/
theorem deliverAll_credits (deliveries : List Delivery) (hf : b.faults = .none)
    (hc : b.repositories.Clientele) :
    (b.deliverAll deliveries).repositories.Clientele ∧
      (b.deliverAll deliveries).deliveries = b.deliveries ∧
        ∀ id, (b.deliverAll deliveries).repositories.customers.get? id =
          (b.repositories.customers.get? id).map
            (·.earnAll id (deliveries.map Delivery.payload)) := by
  induction deliveries generalizing b with
  | nil => exact ⟨hc, rfl, fun id => Option.map_id'.symm⟩
  | cons d rest ih =>
    have hone := perform_credit hf hc d.payload
    obtain ⟨metrics, hb'⟩ := b.perform_deliver_metrics d
    have hstep : b.deliverAll (d :: rest) =
        deliverAll { (b.perform (Loyalty.credit d.payload)).2 with metrics := metrics } rest := by
      rw [← hb']
      rfl
    obtain ⟨hclientele, hdeliveries, hcustomers⟩ := ih
      (b := { (b.perform (Loyalty.credit d.payload)).2 with metrics := metrics })
      (hone.frame.2.2.2.2.trans hf) (hone.clientele hc)
    rw [hstep]
    refine ⟨hclientele, hdeliveries.trans hone.frame.2.2.2.1, fun id => ?_⟩
    rw [hcustomers, hone.customers, Option.map_map]
    rfl

/-- What is on its way is credited when everything has settled. -/
theorem settle_credits (hf : b.faults = .none) (hc : b.repositories.Clientele) :
    b.settle.repositories.Clientele ∧ b.settle.deliveries = [] ∧
      ∀ id, b.settle.repositories.customers.get? id =
        (b.repositories.customers.get? id).map
          (·.earnAll id (b.deliveries.map Delivery.payload)) :=
  deliverAll_credits (b := { b with deliveries := [] }) b.deliveries hf hc

/-- A command leaves customers as they should be kept. -/
theorem perform_clientele (hf : b.faults = .none) (hc : b.repositories.Clientele)
    (supply : Supply) (command : Command) :
    (b.perform (command.job supply)).2.repositories.Clientele := by
  rw [(perform_eq_eval hf supply command).2.1]
  rcases command.eval_cases supply b.repositories with ⟨e, he⟩ | ⟨outcome, r', he, heffect⟩
  · rw [he]
    exact hc
  · rw [he]
    exact heffect.clientele hc

/-- **Every run leaves customers as they should be kept.** -/
theorem executeAll_clientele (commands : List (Supply × Command)) (hf : b.faults = .none)
    (hc : b.repositories.Clientele) :
    (b.executeAll commands).2.repositories.Clientele ∧
      (b.executeAll commands).2.faults = .none := by
  induction commands generalizing b with
  | nil => exact ⟨hc, hf⟩
  | cons c rest ih =>
    obtain ⟨supply, command⟩ := c
    have hfaults := (perform_eq_eval hf supply command).2.2
    have hperformed := perform_clientele hf hc supply command
    exact ih ((aside_settle hperformed.keyed).faults.trans hfaults)
      (settle_credits hfaults hperformed).1

end Backend

/-- The event that an order of ann's has been confirmed, over some amount of money. -/
def Sample.confirmed (n : Nat) (total : Money) : Payload :=
  .order (.confirmed (order n) ann shop total [])

end Storefront
