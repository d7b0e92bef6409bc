import Mathlib.Algebra.Group.Int.Defs
import Mathlib.Algebra.Group.Nat.Defs
import Mathlib.Tactic.Common
import Storefront.Json.Draft
import Storefront.Timestamp

/-! # Numerals

The decimal digits of a number, and what is made of them when they are read again: a
run of digits ends where no digit follows, and what it writes is the number, with or
without zeros in front of it.
-/
namespace Storefront

/-- The decimal digits of a number. -/
def digitsOf (n : Nat) : List Char := Nat.toDigits 10 n

/-- Whether a text begins with anything but a digit. -/
def NoDigit (cs : List Char) : Prop := ∀ c ∈ cs.head?, c.isDigit = false

theorem noDigit_cons {c : Char} {cs : List Char} : NoDigit (c :: cs) ↔ c.isDigit = false := by
  simp [NoDigit]

theorem toList_toString (n : Nat) : (toString n).toList = digitsOf n := by
  simp [digitsOf]

theorem isDigit_of_mem {n : Nat} {c : Char} (h : c ∈ digitsOf n) : c.isDigit = true :=
  Nat.isDigit_of_mem_toDigits (by decide) (by decide) h

theorem digitsOf_ne_nil (n : Nat) : digitsOf n ≠ [] := Nat.toDigits_ne_nil

/-- The first digit of a number above zero is not zero. -/
theorem head?_digitsOf {n : Nat} (h : 0 < n) : (digitsOf n).head? ≠ some '0' := by
  induction n using Nat.strongRecOn with
  | ind n ih =>
    unfold digitsOf at ih ⊢
    rcases Nat.lt_or_ge n 10 with hn | hn
    · simp [Nat.toDigits_of_lt_base hn, Nat.digitChar_eq_zero]
      omega
    · have hfront := ih (n / 10) (by omega) (by omega)
      rw [Nat.toDigits_of_base_le (by decide) hn, List.head?_append]
      cases hd : (Nat.toDigits 10 (n / 10)).head? with
      | none => simp [Nat.toDigits_ne_nil] at hd
      | some c => simpa [hd] using hfront

/-- A numeral of several digits does not begin with zero. -/
theorem no_leading_zero (n : Nat) :
    ¬ (1 < (digitsOf n).length ∧ (digitsOf n).head? = some '0') := by
  rintro ⟨hlong, hzero⟩
  rcases Nat.eq_zero_or_pos n with rfl | hn
  · simp [digitsOf] at hlong
  · exact head?_digitsOf hn hzero

/-! ### Runs of digits -/

section

variable {ds rest : List Char} (hds : ∀ c ∈ ds, c.isDigit = true) (hrest : NoDigit rest)
include hds hrest

theorem takeWhile_digits : (ds ++ rest).takeWhile Char.isDigit = ds := by
  rw [List.takeWhile_append_of_pos hds]
  cases rest with
  | nil => simp
  | cons c rest => simp [noDigit_cons.mp hrest]

theorem dropWhile_digits : (ds ++ rest).dropWhile Char.isDigit = rest := by
  rw [List.dropWhile_append_of_pos hds]
  cases rest with
  | nil => simp
  | cons c rest => simp [noDigit_cons.mp hrest]

end

/-! ### What digits write -/

/-- Reading digits from the left, as the readers of numbers and of instants do. -/
theorem foldl_digits (ds : List Char) :
    ds.foldl (fun n c => n * 10 + (c.toNat - 0x30)) 0 = Nat.ofDigitChars 10 ds 0 := by
  rw [Nat.ofDigitChars_eq_foldl]
  congr 1
  funext n c
  rw [Nat.mul_comm]
  rfl

theorem Json.Draft.digitsValue_digitsOf (n : Nat) : Json.Draft.digitsValue (digitsOf n) = n := by
  rw [Json.Draft.digitsValue, foldl_digits]
  exact Nat.ofDigitChars_ten_toDigits

/-- Zeros in front of a number do not change it. -/
theorem Timestamp.digitsValue_padded (k n : Nat) :
    Timestamp.digitsValue (List.replicate k '0' ++ digitsOf n) = n := by
  rw [Timestamp.digitsValue, foldl_digits, Nat.ofDigitChars_append, Nat.ofDigitChars_replicate_zero]
  exact Nat.ofDigitChars_ten_toDigits

end Storefront
