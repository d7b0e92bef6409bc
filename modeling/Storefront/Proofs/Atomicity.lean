import Storefront.Proofs.Course

/-! # All or nothing

A command that is refused has changed nothing, whatever it had already worked out when it was
refused: an order whose last line cannot be filled has set no stock aside, and a customer whose
email address is found to be taken only when they are saved is not kept.  A command that is not
refused has committed its unit of work once, and what it has written has nothing left to tell
(`Backend.perform_atomic`).  This holds in every backend without switches on, and so in every
state that a run can reach.
-/
namespace Storefront

/-- The questions that a command asks. -/
def Backend.askedBy (b : Backend) (supply : Supply) (command : Command) : List Ask :=
  Script.asked (command.job supply).run b

/-- Everything is as before a command: what is kept, what has been published and what is on its
way.  If the command has begun a unit of work, it has been rolled back. -/
structure Backend.Unaltered (b b' : Backend) (asked : List Ask) : Prop where
  repositories : b'.repositories = b.repositories
  published : b'.published = b.published
  deliveries : b'.deliveries = b.deliveries
  silent : ∀ events, Ask.publish events ∉ asked
  units : (asked.filter Ask.ofUnits = [] ∧ b'.units = b.units) ∨
    (asked.filter Ask.ofUnits =
        [.openUnit, .begin b.units.length, .rollback b.units.length] ∧
      b'.units = b.units ++ [⟨false⟩])

/-- A command has committed its unit of work, once, and what it has written is kept with
nothing left to tell. -/
structure Backend.Committed (b b' : Backend) (asked : List Ask) : Prop where
  once : asked.filter Ask.ofUnits = [.openUnit, .begin b.units.length, .commit b.units.length]
  units : b'.units = b.units ++ [⟨false⟩]
  stores : ∀ s, Ask.saveStore s ∈ asked →
    ∃ t, b'.repositories.stores.get? s.id = some t ∧ t.pending = []
  orders : ∀ o, Ask.saveOrder o ∈ asked →
    ∃ t, b'.repositories.orders.get? o.id = some t ∧ t.pending = []
  customers : ∀ c, Ask.saveCustomer c ∈ asked →
    ∃ t, b'.repositories.customers.get? c.id = some t ∧ t.pending = []

/-! ### How many units are handed out -/

/-- Whether a question asks for a unit of work. -/
def Ask.opensUnit : Ask → Bool
  | openUnit => true
  | _ => false

theorem Backend.length_units_answer (b : Backend) (q : Ask) :
    (b.answer q).2.units.length = b.units.length + if q.opensUnit then 1 else 0 := by
  have hsave : ∀ fault f, (b.save fault f).2.units = b.units := by
    intro fault f
    rcases b.save_frame fault f with h | ⟨r, _, h⟩
    · rw [h]
    · rw [h]
  have hchange : ∀ unit f, (b.changeUnit unit f).2.units.length = b.units.length := by
    intro unit f
    rcases b.changeUnit_frame unit f with h | ⟨u, h⟩
    · rw [h]
    · rw [h]
      exact List.length_set
  cases q with
  | openUnit => exact List.length_append
  | begin unit => exact hchange unit _
  | commit unit => exact hchange unit _
  | rollback unit => exact List.length_modify ..
  | saveStore s => exact congrArg List.length (hsave _ _)
  | saveOrder o => exact congrArg List.length (hsave _ _)
  | saveCustomer c => exact congrArg List.length (hsave _ _)
  | publish events => exact congrArg List.length (publish_fields b events).2.1
  | _ => rfl

/-- **A script is handed out as many units as it asks for.** -/
theorem Script.length_units_run {α : Type} (s : Script α) (b : Backend) :
    (s.run b).2.units.length =
      b.units.length + ((s.asked b).filter Ask.ofUnits).countP Ask.opensUnit := by
  induction s generalizing b with
  | done a => rfl
  | ask q next ih =>
    rw [run, asked, ih, Backend.length_units_answer, List.countP_filter, List.countP_filter,
      List.countP_cons]
    have hone : (if q.opensUnit = true then 1 else 0) =
        if (q.opensUnit && q.ofUnits) = true then 1 else 0 := by
      cases q <;> rfl
    omega

/-- The shop once it is open. -/
def Sample.opened : Backend := (Backend.empty.executeAll (Sample.numbered Sample.opening)).2

/-! ### All or nothing -/

namespace Backend

variable {b : Backend}

/-- **A command is refused and has changed nothing, or it has committed its work.** -/
theorem perform_atomic (hf : b.faults = .none) (supply : Supply) (command : Command) :
    match (b.perform (command.job supply)).1 with
    | .error _ =>
      b.Unaltered (b.perform (command.job supply)).2 (b.askedBy supply command)
    | .ok _ => b.Committed (b.perform (command.job supply)).2 (b.askedBy supply command) := by
  obtain ⟨hcourse, hunits⟩ := perform_course hf supply command
  have hlength := Script.length_units_run (command.job supply).run b
  obtain ⟨hpublished, hdeliveries⟩ :=
    Script.run_log (command.job supply).run (b := b) (by rw [hf]; rfl)
  have hnone : b.units ≠ b.units ++ [⟨false⟩] := fun h => by
    simpa using congrArg List.length h
  unfold askedBy
  unfold perform at hcourse hunits ⊢
  cases hresult : (Script.run (command.job supply).run b).1 with
  | error e =>
    rw [hresult] at hcourse
    obtain ⟨hrepositories, hrebuffed⟩ := hcourse.of_error
    rw [hrebuffed.told] at hpublished hdeliveries
    refine ⟨hrepositories, hpublished.trans (List.append_nil _),
      hdeliveries.trans (List.append_nil _), hrebuffed.silent, ?_⟩
    rcases hrebuffed.units with hnothing | hrolled
    · rw [hnothing] at hlength
      rcases hunits with hsame | hmore
      · exact .inl ⟨hnothing, hsame⟩
      · rw [hmore] at hlength
        simp at hlength
    · rw [hrolled] at hlength
      rcases hunits with hsame | hmore
      · rw [hsame] at hlength
        simp [Ask.opensUnit] at hlength
      · exact .inr ⟨hrolled, hmore⟩
  | ok outcome =>
    rw [hresult] at hcourse
    obtain ⟨_, haccomplished⟩ := hcourse.of_ok
    refine ⟨haccomplished.units, ?_, fun s hs => ?_, fun o ho => ?_, fun c hc => ?_⟩
    · rw [haccomplished.units] at hlength
      rcases hunits with hsame | hmore
      · rw [hsame] at hlength
        simp [Ask.opensUnit] at hlength
      · exact hmore
    · exact ⟨_, haccomplished.kept _ hs, rfl⟩
    · exact ⟨_, haccomplished.kept _ ho, rfl⟩
    · exact ⟨_, haccomplished.kept _ hc, rfl⟩

/-- Two apples and three pears can be had; with a fourth pear, the apples that were set aside
first are not set aside either. -/
theorem perform_atomic_fruit :
    (∃ e, (Sample.opened.perform ((Sample.fruit 2 4).job (.nth 6))).1 = .error e ∧
      Sample.opened.Unaltered (Sample.opened.perform ((Sample.fruit 2 4).job (.nth 6))).2
        (Sample.opened.askedBy (.nth 6) (Sample.fruit 2 4))) ∧
    ∃ outcome, (Sample.opened.perform ((Sample.fruit 2 3).job (.nth 6))).1 = .ok outcome ∧
      Sample.opened.Committed (Sample.opened.perform ((Sample.fruit 2 3).job (.nth 6))).2
        (Sample.opened.askedBy (.nth 6) (Sample.fruit 2 3)) := by
  have hf : Sample.opened.faults = .none := by decide +kernel
  constructor
  · have hrefused : (Sample.opened.perform
        ((Sample.fruit 2 4).job (.nth 6))).1.toOption.isSome = false := by decide +kernel
    have h := perform_atomic hf (.nth 6) (Sample.fruit 2 4)
    split at h
    · rename_i e he
      exact ⟨e, he, h⟩
    · rename_i outcome he
      rw [he] at hrefused
      cases hrefused
  · have hdone : (Sample.opened.perform
        ((Sample.fruit 2 3).job (.nth 6))).1.toOption.isSome = true := by decide +kernel
    have h := perform_atomic hf (.nth 6) (Sample.fruit 2 3)
    split at h
    · rename_i e he
      rw [he] at hdone
      cases hdone
    · rename_i outcome he
      exact ⟨outcome, he, h⟩

end Backend

end Storefront
