import Storefront.InPlace
import Storefront.Proofs.Refusal

/-! # What is left in place

How changes in place evaluate, step by step: a check writes nothing, and whatever follows it is
done only if it gives a value.  Where every call leaves what an operation gives, or what there was
if the operation is refused, a number of calls comes to the same as those of them that are carried
out (`InPlace.carries_carriedOut`), so that only these have to be looked at.
-/
namespace Storefront

namespace InPlace

variable {ε ε' σ κ α β : Type} {s s' s'' : σ}

/-! ### One change -/

theorem on_get_bind (f : σ → InPlace ε σ β) : on s (get >>= f) = on s (f s) := rfl

/-- A change goes on only with a value. -/
theorem on_bind (x : InPlace ε σ α) (f : α → InPlace ε σ β) :
    on s (x >>= f) =
      match on s x with
      | (.ok a, s') => on s' (f a)
      | (.error e, s') => (.error e, s') := by
  simp only [on, ExceptT.run_bind, StateT.run_bind, Id.run_bind]
  rcases (x.run.run s).run with ⟨a | e, s'⟩ <;> rfl

/-- A check goes on only with a value, and writes nothing. -/
theorem on_check_bind (x : Except ε α) (f : α → InPlace ε σ β) :
    on s (liftM x >>= f) =
      match x with
      | .ok a => on s (f a)
      | .error e => (.error e, s) := by
  cases x <;> rfl

@[simp] theorem kept_ok (s : σ) (x : α × σ) : kept s (.ok x : Except ε (α × σ)) = (.ok x.1, x.2) :=
  rfl

@[simp] theorem kept_error (s : σ) (e : ε) :
    kept s (.error e : Except ε (α × σ)) = (.error e, s) := rfl

theorem kept_eq_ok_iff {x : Except ε (α × σ)} {a : α} :
    kept s x = (.ok a, s') ↔ x = .ok (a, s') := by
  cases x with
  | error e => simp
  | ok x =>
    obtain ⟨b, s''⟩ := x
    simp

theorem kept_eq_error_iff {x : Except ε (α × σ)} {e : ε} :
    kept s x = (.error e, s') ↔ x = .error e ∧ s' = s := by
  cases x with
  | error e' => simp [eq_comm]
  | ok x => simp

/-- What holds before and of whatever the operation gives, holds of what is left. -/
theorem kept_keeps {x : Except ε (α × σ)} {p : σ → Prop} (hs : p s)
    (h : ∀ a s', x = .ok (a, s') → p s') : p (kept s x).2 := by
  cases x with
  | error e => exact hs
  | ok x => exact h x.1 x.2 rfl

/-! ### Calls -/

/-- Calls are carried out, one after the other, and lead from one value to another. -/
inductive Carries (answer : σ → κ → Except ε (α × σ)) : σ → List κ → σ → Prop where
  | refl (s : σ) : Carries answer s [] s
  | step {s s' s'' : σ} {call : κ} {rest : List κ} {a : α} (h : answer s call = .ok (a, s'))
      (hrest : Carries answer s' rest s'') : Carries answer s (call :: rest) s''

section Calls
variable {perform : σ → κ → Except ε α × σ} {answer : σ → κ → Except ε (α × σ)}

theorem afterAll_append (s : σ) (calls more : List κ) :
    afterAll perform s (calls ++ more) = afterAll perform (afterAll perform s calls) more :=
  List.foldl_append

/-- What every call keeps is kept by any number of calls. -/
theorem afterAll_keeps {p : σ → Prop} (hs : p s) (h : ∀ s call, p s → p (perform s call).2)
    (calls : List κ) : p (afterAll perform s calls) :=
  List.foldlRecOn calls _ hs fun s hs call _ => h s call hs

theorem carriedOut_sublist (s : σ) (calls : List κ) :
    (carriedOut perform s calls).Sublist calls := by
  induction calls generalizing s with
  | nil => exact .slnil
  | cons call rest ih =>
    unfold carriedOut
    split
    · exact (ih _).cons_cons _
    · exact (ih _).cons _

/-- **Only the calls that are carried out make a difference.** -/
theorem carries_carriedOut (hkept : ∀ s call, perform s call = kept s (answer s call)) (s : σ)
    (calls : List κ) :
    Carries answer s (carriedOut perform s calls) (afterAll perform s calls) := by
  induction calls generalizing s with
  | nil => exact .refl s
  | cons call rest ih =>
    show Carries answer s _ (afterAll perform (perform s call).2 rest)
    rw [carriedOut, hkept]
    cases h : answer s call with
    | error e => exact ih s
    | ok x => exact .step (a := x.1) h (ih x.2)

end Calls

end InPlace

end Storefront
