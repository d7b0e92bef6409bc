/-! # Subscriptions

Handlers ask to be told of events by name.  Several handlers may ask for one name, and
each is told of every event of that name.
-/
namespace Storefront

/-- Handlers with the names of the events they ask for, oldest first. -/
structure Subscriptions (η : Type) where
  entries : List (String × η)

namespace Subscriptions

variable {η : Type}

/-- No handler asks for anything. -/
def empty : Subscriptions η := ⟨[]⟩

instance : Inhabited (Subscriptions η) := ⟨empty⟩

/-- One more handler asks for events of a name. -/
def add (s : Subscriptions η) (name : String) (handler : η) : Subscriptions η :=
  ⟨s.entries ++ [(name, handler)]⟩

/-- The handlers that are told of events of a name. -/
def handlersOf (s : Subscriptions η) (name : String) : List η :=
  (s.entries.filter fun e => e.1 == name).map Prod.snd

end Subscriptions

end Storefront
