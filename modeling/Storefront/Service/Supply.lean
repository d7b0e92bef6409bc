import Storefront.Id
import Storefront.Timestamp

/-! # Identifiers and time

Each command comes with a supply of identifiers of its own and with the time at which
it is carried out.  The supplies that are given out one after the other share no
identifier, and time goes on from each to the next.
-/
namespace Storefront

/-- Identifiers that a command may give to what it makes, and the time. -/
structure Supply where
  uuid : Nat → Uuid
  now : Timestamp

namespace Supply

/-- The identifier that a supply gives to the main thing that a command makes. -/
def id (noun : Noun) (s : Supply) : Id noun := ⟨s.uuid 0⟩

/-- The identifiers that a supply gives to the lines of an order. -/
def line (s : Supply) (i : Nat) : LineId := ⟨s.uuid (i + 1)⟩

/-- The time of a supply: as many nanoseconds after the first of January 2026. -/
def instant (n : Nat) : Timestamp :=
  let seconds := n / 1000000000
  (Timestamp.make? ⟨2026, 1, 1⟩ (seconds / 3600) (seconds / 60 % 60) (seconds % 60)
    (n % 1000000000)).getD .epoch

/-- The supply with a number.  Its identifiers begin with the digits `5700`, and have the
number in their middle and their own place at their end. -/
def nth (n : Nat) : Supply where
  uuid i := Uuid.ofNat (0x5700 * Nat.pow 16 28 + n * Nat.pow 16 12 + i)
  now := instant n

end Supply

end Storefront
