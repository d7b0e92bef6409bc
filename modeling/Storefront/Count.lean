/-! # Counts

Stock levels, quantities of an order line and loyalty points are counts of thirty-two
bits.  A sum that does not fit is no count.
-/
namespace Storefront

/-- A number of things in stock or on order, or of points. -/
abbrev Count := UInt32

namespace Count

/-- The largest count. -/
def max : Count := 4294967295

/-- The sum of two counts, if it is a count. -/
def add? (a b : Count) : Option Count :=
  if a.toNat + b.toNat < UInt32.size then some (a + b) else none

theorem add?_eq_some_iff {a b c : Count} : add? a b = some c ↔ c.toNat = a.toNat + b.toNat := by
  have hsum : a.toNat + b.toNat < UInt32.size → (a + b).toNat = a.toNat + b.toNat := fun h => by
    rw [UInt32.toNat_add]
    exact Nat.mod_eq_of_lt h
  unfold add?
  split
  · rename_i h
    constructor
    · rintro ⟨⟩
      exact hsum h
    · intro hc
      exact congrArg some (UInt32.toNat_inj.mp (by rw [hsum h, hc]))
  · rename_i h
    constructor
    · rintro ⟨⟩
    · intro hc
      exact absurd (hc ▸ c.toNat_lt) h

theorem toNat_sub_of_le {a b : Count} (h : b ≤ a) : (a - b).toNat = a.toNat - b.toNat :=
  UInt32.toNat_sub_of_le a b h

end Count

end Storefront
