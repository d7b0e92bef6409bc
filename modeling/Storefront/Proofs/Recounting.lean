import Storefront.Proofs.CustomerLog

/-! # What a run tells of customers

A log is a chronicle of customers if what concerns each of them, with what is missing put in, leads
to a view of them as they are kept (`CustomerChronicle`).  What a command for customers tells goes on
with the chronicle by itself.  What other commands tell goes on with it once everything that is on
its way has been credited (`Backend.execute_chronicle`).

So the log of a run, together with what crediting points raises, determines every customer who is
kept, but what has been told of a customer does not determine their points and their tier any more
as soon as an order of theirs is worth a point (`Backend.customers_recounted`).
-/
namespace Storefront

/-! ### Logs that tell how customers have come about -/

/-- **The log tells how every customer has come about**, if what is missing is put in, and of
nobody else; everybody is in the tier that their balance earns; and nobody is told of what rises. -/
structure CustomerChronicle (log : List Payload) (r : Repositories) : Prop where
  traced : Traced CustomerView.retell CustomerView.Shows
    (fun id => log.filter (Payload.concerns id)) r.customers
  rated : ∀ id c, r.customers.get? id = some c → c.Rated
  falls : ∀ e, .customer e ∈ log → e.rises = false

namespace CustomerChronicle

variable {log story : List Payload} {r r' : Repositories} {c : Customer}

theorem empty : CustomerChronicle [] Repositories.empty := by
  refine ⟨⟨fun id c hc => ?_, fun _ _ => rfl⟩, fun id c hc => ?_, fun e he => ?_⟩
  · cases hc
  · cases hc
  · cases he

/-- **A customer may be kept when what is told of them leads to them.** -/
theorem saveCustomer (h : CustomerChronicle log r) {events : List CustomerEvent}
    (habout : ∀ e ∈ events, e.customer = c.id) (hrated : c.Rated)
    (hfalls : ∀ e ∈ events, e.rises = false)
    (hview : ∃ v, CustomerView.retell
      (log.filter (Payload.concerns c.id) ++ events.map .customer) = some v ∧ v.Shows c) :
    CustomerChronicle (log ++ events.map .customer)
      { r with customers := r.customers.insert c.id c.settled } := by
  obtain ⟨v, hretell, hv⟩ := hview
  refine ⟨h.traced.insert (fun id => ?_) ⟨v, hretell, hv.settled⟩, fun id d hd => ?_,
    fun e he => ?_⟩
  · rw [List.filter_append, filter_concerns_customer habout]
  · have hd : (r.customers.insert c.id c.settled).get? id = some d := hd
    rw [Table.get?_insert] at hd
    split at hd
    · cases hd
      exact hrated
    · exact h.rated id d hd
  · rcases List.mem_append.mp he with he | he
    · exact h.falls e he
    · obtain ⟨e', he', heq⟩ := List.mem_map.mp he
      cases heq
      exact hfalls e he'

/-- A customer who is kept is kept as what they have come to be. -/
theorem change (h : CustomerChronicle log r) (hk : r.KeyedCustomers) (hq : r.CustomersSettled)
    {id : CustomerId} {change : Customer → Except CustomerError Customer}
    (hd : r.decideCustomer id change = .ok (c, r'))
    (hproceeds : ∀ before, change before = .ok c → ∃ events, before.Proceeds c events) :
    CustomerChronicle (log ++ toldOf (r.decideCustomer id change) (fun x => x.1.news)) r' := by
  obtain ⟨before, hbefore, hc⟩ := Repositories.decideCustomer_before hd
  obtain ⟨events, hgrows⟩ := hproceeds before hc
  have hid : c.id = id := hgrows.id_eq.trans (hk id before hbefore)
  have hnews : toldOf (r.decideCustomer id change) (fun x => x.1.news) = events.map .customer := by
    rw [toldOf_eq hd, Customer.news, hgrows.pending_eq, hq id before hbefore]
    rfl
  have hrated := h.rated id before hbefore
  obtain ⟨v, hretell, hv⟩ := h.traced.kept id before hbefore
  rw [hnews, Repositories.decideCustomer_eq_ok hd]
  refine h.saveCustomer (fun e he => ?_) (hgrows.rated hrated) (hgrows.falls hrated) ?_
  · rw [hgrows.about e he, hgrows.id_eq]
  · rw [hid, CustomerView.retell_append hretell, CustomerView.foldlM_take_customer]
    exact hgrows.shown v hv

/-- Somebody new is kept. -/
theorem register (h : CustomerChronicle log r) {supply : Supply}
    {email firstName lastName : String} (hnew : r.customers.get? (supply.id .customer) = none)
    (hd : r.decideRegister supply email firstName lastName = .ok (c, r')) :
    CustomerChronicle (log ++
      toldOf (r.decideRegister supply email firstName lastName) (fun x => x.1.news)) r' := by
  have hc := Repositories.register_of_decideRegister hd
  have hid := (Customer.register_account hc).1
  obtain ⟨hpending, hv, hrated⟩ := Customer.replay_register hc
  rw [toldOf_eq hd, Customer.news, Repositories.decideRegister_eq_ok hd]
  refine h.saveCustomer (fun e he => ?_) hrated (fun e he => ?_) ?_
  · rw [hpending] at he
    rw [List.mem_singleton.mp he, hid]
    rfl
  · rw [hpending] at he
    rw [List.mem_singleton.mp he]
    rfl
  · have hsilent : log.filter (Payload.concerns (supply.id .customer)) = [] :=
      h.traced.silent _ hnew
    rw [hid, hsilent, List.nil_append, CustomerView.retell_customer, hpending]
    exact ⟨_, rfl, hv⟩

/-- **A story in which nothing is said of customers** goes on with the chronicle once its points
have been credited. -/
theorem credit (h : CustomerChronicle log r) (hk : r.KeyedCustomers)
    (hnone : ∀ e, .customer e ∉ story)
    (hearner : ∀ id, awards id story ≠ 0 → r.activity id = some true)
    (hcustomers : ∀ id, r'.customers.get? id =
      (r.customers.get? id).map (·.earnAll id story)) : CustomerChronicle (log ++ story) r' := by
  refine ⟨h.traced.follow (fun id => story.filter (Payload.concerns id))
    (fun id => List.filter_append ..) (fun id hget => ?_) (fun id c v hget hretell hv => ?_),
    fun id c hc => ?_, fun e he => ?_⟩
  · rw [hcustomers, hget]
    refine ⟨rfl, ?_⟩
    have hzero : awards id story = 0 := by
      by_contra hne
      have hactive := hearner id hne
      rw [Repositories.activity, hget] at hactive
      cases hactive
    rw [filter_concerns_of_awards hzero, List.map_eq_nil_iff, List.eq_nil_iff_forall_not_mem]
    exact fun e he => hnone e (mem_customerEvents he)
  · rw [hcustomers, hget]
    refine ⟨_, rfl, ?_⟩
    rw [CustomerView.retell_append hretell]
    refine hv.story (hk id c hget) hnone fun hne => ?_
    have hactive := hearner id hne
    rw [Repositories.activity_eq hget] at hactive
    exact Option.some.inj hactive
  · rw [hcustomers] at hc
    obtain ⟨d, hd, rfl⟩ := Option.map_eq_some_iff.mp hc
    exact Customer.rated_earnAll (h.rated id d hd) id story
  · rcases List.mem_append.mp he with he | he
    · exact h.falls e he
    · exact absurd he (hnone e)

/-- Only what is kept of customers matters, and nothing else. -/
theorem congr (h : CustomerChronicle log r)
    (hcustomers : ∀ id, r'.customers.get? id = r.customers.get? id) : CustomerChronicle log r' := by
  refine ⟨⟨fun id c hc => ?_, fun id hn => ?_⟩, fun id c hc => ?_, h.falls⟩
  · rw [hcustomers] at hc
    exact h.traced.kept id c hc
  · rw [hcustomers] at hn
    exact h.traced.silent id hn
  · rw [hcustomers] at hc
    exact h.rated id c hc

end CustomerChronicle

/-! ### A command -/

section Effect
variable {log : List Payload} {supply : Supply} {r r' : Repositories} {command : Command}
  {outcome : Outcome}

/-- Nothing is said of customers when a command for stores or orders is done. -/
theorem Command.Announces.not_mem_customer {story : List Payload}
    (h : command.Announces supply outcome story) (hc : command.ofCustomers = false)
    (e : CustomerEvent) : .customer e ∉ story := by
  cases h with
  | register | updateContact | redeemPoints | redeemPointsTier | deactivateCustomer => cases hc
  | _ => simp

/-- Nothing that is told of a customer is worth points. -/
theorem Command.Announces.award_eq_zero {story : List Payload}
    (h : command.Announces supply outcome story) (hc : command.ofCustomers = true)
    (id : CustomerId) : ∀ p ∈ story, p.award id = 0 := by
  cases h with
  | register | updateContact | redeemPoints | redeemPointsTier | deactivateCustomer =>
    simp [Payload.award]
  | _ => cases hc

/-- **What a command for customers tells goes on with the chronicle.** -/
theorem Command.Effect.customers_told (h : command.Effect supply r outcome r')
    (hc : command.ofCustomers = true) (hk : r.KeyedCustomers) (hq : r.CustomersSettled)
    (hnew : r.customers.get? (supply.id .customer) = none) (hlog : CustomerChronicle log r) :
    CustomerChronicle (log ++ command.news supply r) r' := by
  cases h with
  | register h => exact hlog.register hnew h
  | updateContact h =>
    exact hlog.change hk hq h fun _ hd => Customer.proceeds_updateContact hd
  | redeemPoints h =>
    exact hlog.change hk hq h fun _ hd => Customer.proceeds_redeemPoints hd
  | deactivateCustomer h =>
    exact hlog.change hk hq h fun _ hd => Customer.proceeds_deactivate hd
  | _ => cases hc

end Effect

namespace Backend

variable {b : Backend} {used : List Uuid} {supply : Supply}

/-- When what has been told is delivered, everybody earns what it is worth to them, and nothing
more is told. -/
theorem settle_story (hf : b.faults = .none) (hc : b.repositories.Clientele)
    {story : List Payload} (hd : b.deliveries = story.flatMap Payload.deliveries) :
    b.settle.published = b.published ∧ ∀ id, b.settle.repositories.customers.get? id =
      (b.repositories.customers.get? id).map (·.earnAll id story) := by
  obtain ⟨_, _, hcustomers⟩ := settle_credits hf hc
  refine ⟨published_deliverAll (b := { b with deliveries := [] }) _ hf hc.keyed, fun id => ?_⟩
  rw [hcustomers, hd]
  simp only [Customer.earnAll_deliveries]

/-- **What a command tells goes on with the chronicle once everything has settled.** -/
theorem execute_chronicle (hf : b.faults = .none) (hb : b.repositories.WellKept used)
    (hc : b.repositories.Clientele) (hr : b.Recorded) (hd : b.deliveries = [])
    (hlog : CustomerChronicle b.published b.repositories) (hfresh : supply.uuid 0 ∉ used)
    (hnew : b.repositories.customers.get? (supply.id .customer) = none) (command : Command) :
    CustomerChronicle (b.execute supply command).2.published
      (b.execute supply command).2.repositories := by
  obtain ⟨hcourse, _⟩ := perform_course hf supply command
  obtain ⟨hpublished, hsent⟩ := (command.job supply).run.run_log (b := b) (by rw [hf]; rfl)
  have hworth := fun id => perform_backlog (b := b) (by rw [hf]; rfl) hb.sound.orderNews supply
    command id
  have hfaults := (perform_eq_eval hf supply command).2.2
  have hclientele := perform_clientele hf hc supply command
  change (b.perform (command.job supply)).2.published = _ at hpublished
  change (b.perform (command.job supply)).2.deliveries = _ at hsent
  rw [hd, List.nil_append] at hsent
  obtain ⟨hsettled, hcustomers⟩ := settle_story hfaults hclientele hsent
  show CustomerChronicle (b.perform (command.job supply)).2.settle.published
    (b.perform (command.job supply)).2.settle.repositories
  rw [hsettled, hpublished]
  generalize b.perform (command.job supply) = performed at *
  obtain ⟨x, b'⟩ := performed
  cases x with
  | error e =>
    obtain ⟨hsame, hrebuffed⟩ := hcourse.of_error
    rw [hrebuffed.told] at hcustomers ⊢
    rw [List.append_nil]
    refine hlog.congr fun id => (hcustomers id).trans ?_
    rw [hsame]
    exact Option.map_id' ..
  | ok outcome =>
    obtain ⟨heffect, haccomplished⟩ := hcourse.of_ok
    obtain ⟨hannounces, _⟩ := heffect.told hb hfresh hr.customers hr.chronicle
    rw [haccomplished.told] at hcustomers hsent ⊢
    cases hkind : command.ofCustomers with
    | true =>
      -- what is told of customers is worth nothing, and has been kept with them
      have htold := heffect.customers_told hkind hc.keyed hr.customers hnew hlog
      refine htold.congr fun id => ?_
      have hnothing : ∀ c : Customer, c.earnAll id (command.news supply b.repositories) = c :=
        fun c => Customer.earnAll_of_awards (hannounces.award_eq_zero hkind id)
      rw [hcustomers]
      simp only [hnothing]
      exact Option.map_id' ..
    | false =>
      refine hlog.credit hc.keyed (hannounces.not_mem_customer hkind)
        (fun id hne => ?_) fun id => ?_
      · -- what is told is worth what is due for the order, and nothing had been on its way
        have hdue := hworth id
        rw [backlog, backlog, hsent, hd, awards_deliveries] at hdue
        refine heffect.earner hb fun hzero => hne ?_
        rw [hdue, hzero]
        rfl
      · rw [hcustomers, heffect.customers_eq hkind]

/-! ### A run -/

/-- Nothing is on its way between the commands of a run. -/
theorem deliveries_of_run (commands : List (Supply × Command)) :
    (empty.executeAll commands).2.deliveries = [] := by
  induction commands using List.reverseRecOn with
  | nil => rfl
  | append_singleton commands c ih =>
    obtain ⟨hclientele, hf⟩ := executeAll_clientele (b := empty) commands rfl .empty
    have hfaults := (perform_eq_eval hf c.1 c.2).2.2
    rw [executeAll_append]
    exact (settle_credits hfaults (perform_clientele hf hclientele c.1 c.2)).2.1

/-- **The log of a run is a chronicle of customers**, once what is missing is put in. -/
theorem chronicle_of_run (commands : List (Supply × Command)) (hfresh : Fresh commands) :
    CustomerChronicle (empty.executeAll commands).2.published
      (empty.executeAll commands).2.repositories := by
  induction commands using List.reverseRecOn with
  | nil => exact .empty
  | append_singleton commands c ih =>
    obtain ⟨hcommands, hnew⟩ := fresh_snoc hfresh
    obtain ⟨hkept, hf⟩ := wellKept_of_run hcommands
    obtain ⟨hclientele, _⟩ := executeAll_clientele (b := empty) commands rfl .empty
    obtain ⟨hrecorded, _⟩ := executeAll_recorded commands rfl wellKept_empty recorded_empty
      hcommands fun _ _ => List.not_mem_nil
    rw [executeAll_append]
    exact execute_chronicle hf hkept hclientele hrecorded (deliveries_of_run commands)
      (ih hcommands) hnew (nobody_of_run hcommands hnew) c.2

/-- What the log of a run from the beginning tells of the customers who are kept in the end. -/
structure Recounted (commands : List (Supply × Command)) : Prop where
  /-- What has been told of an account leads to the account: the name, the email address, the phone
  number, the address, and whether it is open. -/
  account : ∀ id c, (empty.executeAll commands).2.repositories.customers.get? id = some c →
    ∃ v, CustomerView.replay ((customerEvents id (empty.executeAll commands).2.published).filter
      CustomerEvent.ofAccount) = some v ∧ v.account = c.account
  /-- All that has been told of a customer leads to them as they are if and only if no order of
  theirs has been worth a point. -/
  alone : ∀ id c, (empty.executeAll commands).2.repositories.customers.get? id = some c →
    ((∃ v, CustomerView.replay (customerEvents id (empty.executeAll commands).2.published) =
      some v ∧ v.Shows c) ↔ awards id (empty.executeAll commands).2.published = 0)
  /-- With what crediting points raises put in wherever an order is confirmed, it always does. -/
  restored : ∀ id c, (empty.executeAll commands).2.repositories.customers.get? id = some c →
    ∃ v, CustomerView.retell ((empty.executeAll commands).2.published.filter
      (Payload.concerns id)) = some v ∧ v.Shows c
  /-- Nobody has been told of points that are gained, or of a tier that is not a lower one. -/
  untold : ∀ e, .customer e ∈ (empty.executeAll commands).2.published → e.rises = false

/-- **What the log of a run tells of customers**, whatever the commands are, as long as their
supplies begin with different identifiers. -/
theorem customers_recounted {commands : List (Supply × Command)} (hfresh : Fresh commands) :
    Recounted commands := by
  have hlog := chronicle_of_run commands hfresh
  refine ⟨fun id c hget => ?_, fun id c hget => ?_, hlog.traced.kept, hlog.falls⟩
  · obtain ⟨v, hretell, hv⟩ := hlog.traced.kept id c hget
    obtain ⟨w, hreplay, hw⟩ := CustomerView.account_of_retell hretell
    exact ⟨w, hreplay, hw.trans hv.account⟩
  · obtain ⟨v, hretell, hv⟩ := hlog.traced.kept id c hget
    refine ⟨fun ⟨w, hreplay, hw⟩ => ?_, fun hzero => ?_⟩
    · by_contra hworth
      refine CustomerView.points_ne_of_retell hretell hworth (fun e he => ?_) hreplay ?_
      · exact hlog.falls e (mem_customerEvents he)
      · exact hw.points.trans hv.points.symm
    · exact ⟨v, CustomerView.replay_of_retell hretell hzero, hv⟩

/-- Ann orders a cake for six hundred, and spends two hundred of the points that she gets for it. -/
def gala : List (Supply × Command) := Sample.numbered (Sample.opening ++ [
  .addProduct Sample.shop "Cake" "" ⟨60000, default, by decide⟩,
  .addInventory Sample.shop ((Supply.nth 6).id .product) 1,
  .createOrder Sample.ann Sample.shop [⟨(Supply.nth 6).id .product, 1⟩],
  .redeemPoints Sample.ann 200])

/-- The log tells that she has been registered, has spent points and has fallen back to the lowest
tier, but neither that she has got points nor that she has risen before. -/
theorem customers_recounted_gala :
    Recounted gala ∧
      (customerEvents Sample.ann (empty.executeAll gala).2.published).map CustomerEvent.name =
        ["customer.registered", "customer.points_redeemed", "customer.tier_changed"] ∧
      CustomerView.replay (customerEvents Sample.ann (empty.executeAll gala).2.published) = none ∧
      (CustomerView.retell ((empty.executeAll gala).2.published.filter
        (Payload.concerns Sample.ann))).map (fun v => (v.points, v.tier)) = some (400, .regular) :=
  ⟨customers_recounted (by decide +kernel), by decide +kernel, by decide +kernel,
    by decide +kernel⟩

/-- As soon as she has ordered the cake, she is kept with six hundred points in the second tier,
while all that has been told of her is that she has been registered. -/
theorem upgrade_untold :
    let b := (empty.executeAll (gala.take 9)).2
    Fresh (gala.take 9) ∧
      (b.repositories.customers.get? Sample.ann).map (fun c => (c.loyaltyPoints, c.tier)) =
        some (600, .premium) ∧
      customerEvents Sample.ann b.published =
        [.registered Sample.ann "ann@example.com" "Ann" "Lee"] ∧
      (CustomerView.replay (customerEvents Sample.ann b.published)).map
        (fun v => (v.points, v.tier)) = some (0, .regular) := by
  decide +kernel

end Backend

end Storefront
