import Storefront.Http.App
import Storefront.Proofs.Showing

/-! # Responses

A response that is no success means that nothing has happened: whatever was wrong with
the request was found before anything was kept or told.  Handlers look at their request
first, then run one command, and at last show what came of it, which cannot be refused
any more (`Action.careful_perform`).  A command that is refused itself leaves everything
as it was, so that there is nothing in between.
-/
namespace Storefront

/-! ### What is done about a request -/

namespace Http

open Storefront.Http.Action

variable {α β : Type} {b : Backend} {P : α → Backend → Prop}

/-- What is done about a request leaves everything untouched if it ends in a refusal, and
meets a condition otherwise. -/
def Action.Careful (act : Action α) (b : Backend) (P : α → Backend → Prop) : Prop :=
  match act.run b with
  | (.error _, b') => b.Untouched b'
  | (.ok a, b') => P a b'

theorem Action.careful_pure {a : α} (h : P a b) : Careful (pure a) b P := h

theorem Action.careful_throw (e : Refusal) : Careful (throw e : Action α) b P := .refl b

/-- What is done goes on only with a value. -/
theorem Action.run_bind (act : Action β) (f : β → Action α) (b : Backend) :
    (act >>= f).run b =
      match act.run b with
      | (.ok a, b') => (f a).run b'
      | (.error e, b') => (.error e, b') := by
  have hcont : (act >>= f).run b = ExceptT.bindCont f (act.run b).1 (act.run b).2 := rfl
  rw [hcont]
  rcases act.run b with ⟨_ | _, _⟩ <;> rfl

theorem Action.run_bind_of_ok {act : Action β} {f : β → Action α} {a : β} {b b' : Backend}
    (h : act.run b = (.ok a, b')) : (act >>= f).run b = (f a).run b' := by
  rw [run_bind, h]

/-- What only looks at the backend is followed by something careful. -/
theorem Action.careful_bind {act : Action β} {f : β → Action α} (hquiet : (act.run b).2 = b)
    (h : ∀ a, Careful (f a) b P) : Careful (act >>= f) b P := by
  unfold Careful
  rw [run_bind]
  rcases hact : act.run b with ⟨x, b'⟩
  rw [hact] at hquiet
  cases hquiet
  cases x with
  | error e => exact .refl _
  | ok a => exact h a

/-- The script of a command is followed by something that cannot be refused any more. -/
theorem Action.careful_perform (supply : Supply) (command : Command) {job : Job β}
    {wrap : β → Outcome} {f : β → Action α} (hb : b.Serviceable)
    (hjob : command.job supply = wrap <$> job)
    (h : ∀ a b', command.Effect supply b.repositories (wrap a) b'.repositories →
      (wrap a).Showable → b'.Serviceable → ∃ c, (f a).run b' = (.ok c, b') ∧ P c b') :
    Careful (Action.perform job >>= f) b P := by
  have hperform := b.perform_of_command hb hjob
  have hrun : (Action.perform job).run b =
      ((b.perform job).1.mapError .domain, (b.perform job).2) := rfl
  unfold Careful
  rw [run_bind, hrun]
  rcases hjob : b.perform job with ⟨_ | a, b'⟩
  · rw [hjob] at hperform
    exact hperform
  · rw [hjob] at hperform
    obtain ⟨c, hc, hP⟩ := h a b' hperform.1 hperform.2.1 hperform.2.2
    simp only [mapError_ok, hc]
    exact hP

/-! ### Every request -/

/-- A response that is a success, after which everything can be shown. -/
def Served (r : Response) (b : Backend) : Prop :=
  (r.status = 200 ∨ r.status = 201) ∧ b.Serviceable

theorem served_ok (hb : b.Serviceable) (j : Json) : Served (ok j) b := ⟨.inl rfl, hb⟩

theorem served_created (hb : b.Serviceable) (j : Json) : Served (created j) b := ⟨.inr rfl, hb⟩

theorem Action.run_repositories (b : Backend) :
    Action.repositories.run b = (.ok b.repositories, b) := rfl

/-- A product that is found again is shown. -/
theorem run_showProduct {store : StoreId} {product : ProductId} {s : Store} {p : Product}
    (hs : b.repositories.findStore store = .ok s) (hp : s.product product = .ok p) :
    (showProduct store product).run b = (.ok (ok (stockedView s p)), b) := by
  have hfound : (liftM (Except.ok s : Except Error Store) : Action Store).run b = (.ok s, b) := rfl
  rw [showProduct, run_bind_of_ok (run_repositories b), hs, run_bind_of_ok hfound, hp]
  rfl

section Handlers

variable (hb : b.Serviceable) (supply : Supply) (q : Request)
include hb

theorem careful_createStore (currency : String) :
    Careful (createStore supply currency q) b Served := by
  refine careful_bind rfl fun new => careful_bind rfl fun location => ?_
  exact careful_perform supply (.createStore new.name location (new.currency.getD currency)) hb rfl
    fun _ _ _ _ hb' => ⟨_, rfl, served_created hb' _⟩

theorem careful_addProduct (id : String) : Careful (addProduct supply id q) b Served := by
  refine careful_bind rfl fun _ => careful_bind rfl fun new => careful_bind rfl fun id =>
    careful_bind rfl fun price => ?_
  exact careful_perform supply (.addProduct id new.name new.description price) hb rfl
    fun _ _ _ _ hb' => ⟨_, rfl, served_created hb' _⟩

theorem careful_updatePrice (store product : String) :
    Careful (updatePrice store product q) b Served := by
  refine careful_bind rfl fun _ => careful_bind rfl fun _ => careful_bind rfl fun _ =>
    careful_bind rfl fun store => careful_bind rfl fun product => careful_bind rfl fun price => ?_
  refine careful_perform (.nth 0) (.updatePrice store product price) hb rfl
    fun _ b' heffect _ hb' => ?_
  obtain ⟨s, p, hs, hp⟩ := heffect.repriced hb.showable
  exact ⟨_, run_showProduct hs hp, served_ok hb' _⟩

theorem careful_deactivateProduct (store product : String) :
    Careful (deactivateProduct store product) b Served := by
  refine careful_bind rfl fun _ => careful_bind rfl fun _ =>
    careful_bind rfl fun store => careful_bind rfl fun product => ?_
  refine careful_perform (.nth 0) (.deactivateProduct store product) hb rfl
    fun _ b' heffect _ hb' => ?_
  obtain ⟨s, p, hs, hp⟩ := heffect.withdrawn hb.showable
  exact ⟨_, run_showProduct hs hp, served_ok hb' _⟩

theorem careful_addInventory (store product : String) :
    Careful (addInventory store product q) b Served := by
  refine careful_bind rfl fun _ => careful_bind rfl fun _ => careful_bind rfl fun quantity =>
    careful_bind rfl fun store => careful_bind rfl fun product => ?_
  exact careful_perform (.nth 0) (.addInventory store product quantity) hb rfl
    fun _ _ _ _ hb' => ⟨_, rfl, served_ok hb' _⟩

theorem careful_register : Careful (register supply q) b Served := by
  refine careful_bind rfl fun new => ?_
  exact careful_perform supply (.register new.email new.firstName new.lastName) hb rfl
    fun _ _ _ _ hb' => ⟨_, rfl, served_created hb' _⟩

theorem careful_updateContact (id : String) : Careful (updateContact id q) b Served := by
  refine careful_bind rfl fun _ => careful_bind rfl fun contact => careful_bind rfl fun id =>
    careful_bind rfl fun address => ?_
  exact careful_perform (.nth 0) (.updateContact id contact.phoneNumber address) hb rfl
    fun _ _ _ _ hb' => ⟨_, rfl, served_ok hb' _⟩

theorem careful_redeem (id : String) : Careful (redeem id q) b Served := by
  refine careful_bind rfl fun _ => careful_bind rfl fun points => careful_bind rfl fun id => ?_
  exact careful_perform (.nth 0) (.redeemPoints id points) hb rfl
    fun _ _ _ _ hb' => ⟨_, rfl, served_ok hb' _⟩

theorem careful_deactivateCustomer (id : String) :
    Careful (deactivateCustomer id) b Served := by
  refine careful_bind rfl fun _ => careful_bind rfl fun id => ?_
  exact careful_perform (.nth 0) (.deactivateCustomer id) hb rfl
    fun _ _ _ _ hb' => ⟨_, rfl, served_ok hb' _⟩

theorem careful_createOrder : Careful (createOrder supply q) b Served := by
  refine careful_bind rfl fun _ => careful_bind rfl fun customer => careful_bind rfl fun store =>
    careful_bind rfl fun lines => ?_
  refine careful_perform supply (.createOrder customer store lines) hb rfl fun o b' _ ho hb' => ?_
  obtain ⟨j, hj⟩ := orderView_eq_ok ho
  refine ⟨created j, ?_, served_created hb' j⟩
  rw [hj]
  rfl

theorem careful_cancelOrder (id : String) : Careful (cancelOrder id q) b Served := by
  refine careful_bind rfl fun _ => careful_bind rfl fun given => careful_bind rfl fun id => ?_
  refine careful_perform (.nth 0) (.cancelOrder id _) hb rfl fun c b' _ hc hb' => ?_
  obtain ⟨j, hj⟩ := cancellationView_eq_ok hc
  refine ⟨ok j, ?_, served_ok hb' j⟩
  rw [hj]
  rfl

theorem careful_advanceOrder (id : String) (transition : OrderTransition) :
    Careful (advanceOrder supply id transition) b Served := by
  refine careful_bind rfl fun _ => careful_bind rfl fun id => ?_
  refine careful_perform supply (.advanceOrder id transition) hb rfl fun o b' _ ho hb' => ?_
  obtain ⟨j, hj⟩ := orderView_eq_ok ho
  refine ⟨ok j, ?_, served_ok hb' j⟩
  rw [hj]
  rfl

theorem careful_show (id : String) :
    Careful (showStore id) b Served ∧ Careful (showCustomer id) b Served ∧
      Careful (showOrder id) b Served := by
  refine ⟨?_, ?_, ?_⟩
  · exact careful_bind rfl fun _ => careful_bind rfl fun _ => careful_bind rfl fun _ =>
      careful_bind rfl fun _ => careful_pure (served_ok hb _)
  · exact careful_bind rfl fun _ => careful_bind rfl fun _ => careful_bind rfl fun _ =>
      careful_bind rfl fun _ => careful_pure (served_ok hb _)
  · exact careful_bind rfl fun _ => careful_bind rfl fun _ => careful_bind rfl fun _ =>
      careful_bind rfl fun _ => careful_bind rfl fun _ => careful_pure (served_ok hb _)

theorem careful_list :
    Careful listStores b Served ∧ Careful (listOrders q) b Served := by
  refine ⟨?_, ?_⟩
  · exact careful_bind rfl fun _ => careful_pure (served_ok hb _)
  · exact careful_bind rfl fun _ => careful_bind rfl fun _ => careful_bind rfl fun _ =>
      careful_bind rfl fun _ => careful_bind rfl fun _ => careful_bind rfl fun _ =>
        careful_pure (served_ok hb _)

/-- **Whatever a method does about a resource is careful.** -/
theorem careful_of_action? (currency : String) (method : Method) (resource : Resource)
    {act : Action Response} (h : action? supply currency q method resource = some act) :
    Careful act b Served := by
  -- most resources answer to one method only
  have hone : ∀ {m : Method} {a : Action Response}, Careful a b Served →
      (if method = m then some a else none) = some act → Careful act b Served := by
    intro m a ha h
    split at h
    · cases h
      exact ha
    · cases h
  have htwo : ∀ {m m' : Method} {a a' : Action Response}, Careful a b Served →
      Careful a' b Served →
        (if method = m then some a else if method = m' then some a' else none) = some act →
          Careful act b Served := by
    intro m m' a a' ha ha' h
    split at h
    · cases h
      exact ha
    · exact hone ha' h
  cases resource with
  | health => exact hone (careful_pure (served_ok hb _)) h
  | metrics => exact hone (careful_bind rfl fun _ => careful_pure ⟨.inl rfl, hb⟩) h
  | stores => exact htwo (careful_list hb q).1 (careful_createStore hb supply q currency) h
  | store id => exact hone (careful_show hb id).1 h
  | products id => exact hone (careful_addProduct hb supply q id) h
  | price id p => exact hone (careful_updatePrice hb q id p) h
  | productDeactivation id p => exact hone (careful_deactivateProduct hb id p) h
  | inventory id p => exact hone (careful_addInventory hb q id p) h
  | customers => exact hone (careful_register hb supply q) h
  | customer id => exact hone (careful_show hb id).2.1 h
  | contact id => exact hone (careful_updateContact hb q id) h
  | redemption id => exact hone (careful_redeem hb q id) h
  | customerDeactivation id => exact hone (careful_deactivateCustomer hb id) h
  | orders => exact htwo (careful_list hb q).2 (careful_createOrder hb supply q) h
  | order id => exact hone (careful_show hb id).2.2 h
  | cancellation id => exact hone (careful_cancelOrder hb q id) h
  | preparation id | readiness id | completion id =>
    exact hone (careful_advanceOrder hb supply id _) h

/-- **Whatever is done about a request is careful.** -/
theorem careful_action (currency : String) : Careful (action supply currency q) b Served := by
  unfold action
  split
  · exact careful_throw _
  · dsimp only
    split
    · next h => exact careful_of_action? hb supply q currency _ _ h
    · exact careful_throw _

end Handlers

/-! ### The service -/

/-- Whether the status is one of those that mean success. -/
def Response.isSuccess (r : Response) : Bool := 200 ≤ r.status && r.status < 300

theorem Response.isSuccess_eq_false {r : Response} {status : Nat} (h : r.status = status)
    (hfailure : ¬ (200 ≤ status ∧ status < 300)) : r.isSuccess = false := by
  simp only [isSuccess, h, Bool.and_eq_false_iff, decide_eq_false_iff_not]
  omega

/-- No refusal of a command is a success. -/
theorem statusFor_not_success (kind : ErrorKind) : 300 ≤ statusFor kind := by
  cases kind <;> decide

namespace App

/-- The service after some requests, each answered with a supply. -/
def after (app : App) (requests : List (Supply × Request)) : App :=
  requests.foldl (fun app r => (app.answer r.1 r.2).2) app

/-- Between two requests: nothing is on its way, and everything can be shown. -/
structure AtRest (app : App) : Prop where
  serviceable : app.backend.Serviceable
  settled : app.backend.deliveries = []

theorem atRest_start (currency : String) : (start currency).AtRest :=
  ⟨⟨rfl, .empty, .empty⟩, rfl⟩

section Answers

variable {app : App} {supply : Supply} {q : Request}

theorem status_sent (q : Request) (r : Response) : (sent q r).status = r.status := by
  unfold sent
  split <;> rfl

theorem answer_eq (hq : q.method ≠ .options) :
    app.answer supply q =
      (sent q (match (app.outcome supply q).1 with
        | .ok r => r
        | .error e => e.response),
        { app with backend := (app.outcome supply q).2.settle, next := app.next + 1 }) :=
  if_neg hq

/-- **Requests leave the service at rest.** -/
theorem AtRest.answer (h : app.AtRest) : (app.answer supply q).2.AtRest := by
  by_cases hq : q.method = .options
  · unfold App.answer
    rw [if_pos hq]
    exact h
  · rw [answer_eq hq]
    have hcareful := careful_action h.serviceable supply q app.defaultCurrency
    unfold Careful at hcareful
    unfold outcome
    rcases hrun : (action supply app.defaultCurrency q).run app.backend with ⟨e | r, b'⟩
    · rw [hrun] at hcareful
      have hsettle := (h.serviceable.of_untouched hcareful).settle
      exact ⟨hsettle.1, hsettle.2⟩
    · rw [hrun] at hcareful
      exact ⟨hcareful.2.settle.1, hcareful.2.settle.2⟩

theorem AtRest.after (h : app.AtRest) (requests : List (Supply × Request)) :
    (app.after requests).AtRest := by
  induction requests generalizing app with
  | nil => exact h
  | cons r rest ih => exact ih h.answer

/-- **What an answer says is what has happened.** -/
structure Truthful (app : App) (supply : Supply) (q : Request) : Prop where
  /-- If the answer is no success, everything is kept as it was, and nothing was told. -/
  harmless : (app.answer supply q).1.isSuccess = false →
    (app.answer supply q).2.backend.repositories = app.backend.repositories ∧
      (app.answer supply q).2.backend.published = app.backend.published
  /-- Then the request came to a refusal, which the answer tells. -/
  refused : (app.answer supply q).1.isSuccess = false → ∃ refusal,
    (app.outcome supply q).1 = .error refusal ∧ (app.answer supply q).1 = sent q refusal.response
  /-- A command that is refused is never answered with a success, but with the status that
  goes with the kind of its error. -/
  domain : q.method ≠ .options → ∀ e, (app.outcome supply q).1 = .error (.domain e) →
    (app.answer supply q).1.isSuccess = false ∧
      (app.answer supply q).1.status = statusFor e.kind

/-- A request that came to a refusal is answered with it, and has left everything as it was. -/
theorem AtRest.answer_of_error (h : app.AtRest) (hq : q.method ≠ .options) {refusal : Refusal}
    (hrun : (app.outcome supply q).1 = .error refusal) :
    (app.answer supply q).1 = sent q refusal.response ∧
      (app.answer supply q).2.backend.repositories = app.backend.repositories ∧
        (app.answer supply q).2.backend.published = app.backend.published := by
  have hcareful := careful_action h.serviceable supply q app.defaultCurrency
  unfold Careful at hcareful
  rw [answer_eq hq]
  unfold outcome at hrun ⊢
  rcases hact : (action supply app.defaultCurrency q).run app.backend with ⟨e | r, b'⟩
  · rw [hact] at hcareful hrun
    cases hrun
    have hnone : b'.deliveries = [] := hcareful.deliveries.trans h.settled
    have hsettle : b'.settle = { b' with deliveries := [] } := by
      unfold Backend.settle
      rw [hnone]
      rfl
    refine ⟨rfl, ?_, ?_⟩
    · rw [hsettle]
      exact hcareful.repositories
    · rw [hsettle]
      exact hcareful.published
  · rw [hact] at hrun
    cases hrun

/-- A request that did not come to a refusal is answered with a success. -/
theorem AtRest.answer_of_ok (h : app.AtRest) (hq : q.method ≠ .options) {r : Response}
    (hrun : (app.outcome supply q).1 = .ok r) : (app.answer supply q).1.isSuccess = true := by
  have hcareful := careful_action h.serviceable supply q app.defaultCurrency
  unfold Careful at hcareful
  rw [answer_eq hq]
  unfold outcome at hrun ⊢
  rcases hact : (action supply app.defaultCurrency q).run app.backend with ⟨e | r', b'⟩
  · rw [hact] at hrun
    cases hrun
  · rw [hact] at hcareful
    unfold Response.isSuccess
    rw [status_sent]
    rcases hcareful.1 with hstatus | hstatus
    · rw [hstatus]
      rfl
    · rw [hstatus]
      rfl

theorem AtRest.truthful (h : app.AtRest) : app.Truthful supply q := by
  have hfailure : (app.answer supply q).1.isSuccess = false → q.method ≠ .options ∧
      ∃ refusal, (app.outcome supply q).1 = .error refusal := by
    intro hstatus
    have hq : q.method ≠ .options := by
      intro hq
      unfold App.answer at hstatus
      rw [if_pos hq] at hstatus
      cases hstatus
    cases hrun : (app.outcome supply q).1 with
    | error refusal => exact ⟨hq, refusal, rfl⟩
    | ok r =>
      rw [h.answer_of_ok hq hrun] at hstatus
      cases hstatus
  refine ⟨fun hstatus => ?_, fun hstatus => ?_, fun hq e hrun => ?_⟩
  · obtain ⟨hq, refusal, hrun⟩ := hfailure hstatus
    exact (h.answer_of_error hq hrun).2
  · obtain ⟨hq, refusal, hrun⟩ := hfailure hstatus
    exact ⟨refusal, hrun, (h.answer_of_error hq hrun).1⟩
  · have hstatus : (app.answer supply q).1.status = statusFor e.kind := by
      rw [(h.answer_of_error hq hrun).1, status_sent]
      rfl
    have hkind := statusFor_not_success e.kind
    exact ⟨Response.isSuccess_eq_false hstatus (by omega), hstatus⟩

end Answers

/-- **An answer that is no success means that nothing has happened**, in every state that
requests can lead to, and the answer to a command that is refused tells the kind of its
error. -/
theorem answer_truthful (currency : String) (requests : List (Supply × Request))
    (supply : Supply) (q : Request) : ((start currency).after requests).Truthful supply q :=
  ((atRest_start currency).after requests).truthful

end App

/-- A request to open a shop. -/
def Sample.openShop : Request :=
  ⟨.post, ⟨["stores"], []⟩, some "application/json",
    (Json.obj [("name", .str "Corner"),
      ("location", (Address.mk "1 Main St" "Springfield" "IL" "62701" "US").toJson)]).text⟩

/-- The service once a shop has been opened. -/
def Sample.opened : App := (App.start "USD").after [(.nth 0, Sample.openShop)]

/-- A request to take apples off sale, which the shop does not have. -/
def Sample.withdrawApples : Request :=
  ⟨.post, ⟨["stores", Sample.shop.text, "products", Sample.apple.text, "deactivate"], []⟩, none,
    ""⟩

/-- A product that the shop does not have cannot be taken off sale, and everything stays as it
is. -/
theorem App.answer_truthful_missing :
    (Sample.opened.answer (.nth 1) Sample.withdrawApples).1.status = 404 ∧
      (Sample.opened.answer (.nth 1) Sample.withdrawApples).2.backend.repositories =
        Sample.opened.backend.repositories := by
  have hstatus : (Sample.opened.answer (.nth 1) Sample.withdrawApples).1.status = 404 := by
    decide +kernel
  have htruthful : Sample.opened.Truthful (.nth 1) Sample.withdrawApples :=
    App.answer_truthful "USD" [(.nth 0, Sample.openShop)] (.nth 1) Sample.withdrawApples
  exact ⟨hstatus, (htruthful.harmless (Response.isSuccess_eq_false hstatus (by decide))).1⟩

end Http

end Storefront
