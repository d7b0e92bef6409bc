/-! # Changes in place

Whoever holds something can change it in its place: they read and write one field after the
other, and what they have written before they are refused stays written.  That a refused call
leaves everything as it was is therefore not a matter of course, as it is for an operation that
gives a new value or none; it is so if nothing is written before the last check.

Calls are made one after the other, each on what the one before has left.
-/
namespace Storefront

/-- A change of something in its place, which may be refused on the way. -/
abbrev InPlace (ε σ α : Type) := ExceptT ε (StateM σ) α

namespace InPlace

variable {ε σ κ α : Type}

/-- Has something changed in its place: what this gives, and what is there then. -/
def on (s : σ) (e : InPlace ε σ α) : Except ε α × σ := (e.run.run s).run

/-- What an operation leaves in the place of what it is done to: what it gives, or the same as
before if it is refused. -/
def kept (s : σ) : Except ε (α × σ) → Except ε α × σ
  | .ok (a, s') => (.ok a, s')
  | .error e => (.error e, s)

/-- What some calls leave, one after the other. -/
def afterAll (perform : σ → κ → Except ε α × σ) (s : σ) (calls : List κ) : σ :=
  calls.foldl (fun s call => (perform s call).2) s

/-- Those of some calls that are carried out, when they are made one after the other. -/
def carriedOut (perform : σ → κ → Except ε α × σ) (s : σ) : List κ → List κ
  | [] => []
  | call :: rest =>
    match perform s call with
    | (.ok _, s') => call :: carriedOut perform s' rest
    | (.error _, s') => carriedOut perform s' rest

end InPlace

end Storefront
