import Storefront.Error

/-! # Units of work

A unit of work is either under way or not.  It is begun once, and then committed or
rolled back, after which it can be begun again.
-/
namespace Storefront

/-- A unit of work. -/
structure UnitOfWork where
  /-- Whether the unit has been begun and not yet ended. -/
  active : Bool
  deriving DecidableEq, Inhabited

namespace UnitOfWork

/-- A unit that has not been begun. -/
def idle : UnitOfWork := ⟨false⟩

/-- Begins the unit. -/
def begin (u : UnitOfWork) : Except Error UnitOfWork :=
  if u.active then .error (.unitOfWork "transaction already in progress") else .ok ⟨true⟩

/-- Ends the unit and keeps what was done. -/
def commit (u : UnitOfWork) : Except Error UnitOfWork :=
  if u.active then .ok ⟨false⟩ else .error (.unitOfWork "no transaction in progress")

/-- Ends the unit, if it is under way, and gives up what was done. -/
def rollback (_ : UnitOfWork) : UnitOfWork := ⟨false⟩

end UnitOfWork

end Storefront
