import Storefront.Proofs.Exactness
import Storefront.Proofs.Instants

/-! # The text of money tells its amount

The text of an amount of money has as many digits before the point as the major units need and two
behind it, whatever the minor units are.  So it can be read back (`Money.ofText?_text`), and amounts
with the same text are the same amount of the same currency.

A machine takes the quotient and the remainder of a signed word, and fills the remainder up to a
width that a sign would share with the digits.  No money that comes about has a word below zero
(`MoneyWord.arises_iff`), and then the text is that of the number (`MoneyWord.text_word`).
-/
namespace Storefront

namespace Money

/-! ### Reading -/

/-- What a text tells of money: digits, a point, two digits, a space and a code.  What the digits
before the point write counts a hundred times. -/
def ofText? (text : String) : Option (Int × String) :=
  let major := text.toList.takeWhile Char.isDigit
  match text.toList.dropWhile Char.isDigit with
  | '.' :: tens :: ones :: ' ' :: code =>
    if major ≠ [] ∧ tens.isDigit ∧ ones.isDigit then
      let amount := Nat.ofDigitChars 10 major 0 * 100 + Nat.ofDigitChars 10 [tens, ones] 0
      some (amount, String.ofList code)
    else none
  | _ => none

/-- A text of this form can be read in one way only, since the point is not a digit. -/
theorem ofText?_of_toList {text : String} {major minor code : List Char}
    (htext : text.toList = major ++ '.' :: (minor ++ ' ' :: code)) (hne : major ≠ [])
    (hmajor : ∀ c ∈ major, c.isDigit = true) (hminor : ∀ c ∈ minor, c.isDigit = true)
    (htwo : minor.length = 2) :
    ofText? text =
      some (((Nat.ofDigitChars 10 major 0 * 100 + Nat.ofDigitChars 10 minor 0 : Nat) : Int),
        String.ofList code) := by
  obtain ⟨tens, ones, rfl⟩ := List.length_eq_two.mp htwo
  have htens : tens.isDigit = true := hminor _ (by simp)
  have hones : ones.isDigit = true := hminor _ (by simp)
  have hpoint : NoDigit ('.' :: ([tens, ones] ++ ' ' :: code)) := noDigit_cons.mpr rfl
  unfold ofText?
  rw [htext, takeWhile_digits hmajor hpoint, dropWhile_digits hmajor hpoint]
  exact if_pos ⟨hne, htens, hones⟩

/-! ### Writing -/

/-- The minor units fill up a width of two. -/
theorem twoDigits_eq_padded {n : Nat} (h : n < 100) : twoDigits n = Timestamp.padded 2 n := by
  rw [← String.toList_inj, Timestamp.toList_padded]
  unfold twoDigits
  split
  · next hone =>
    have hdigits : digitsOf n = [n.digitChar] := Nat.toDigits_of_lt_base hone
    rw [String.toList_append, toList_toString, hdigits]
    rfl
  · next hone =>
    have htens : n / 10 < 10 := by omega
    have hlength : (digitsOf n).length = 2 := by
      unfold digitsOf
      rw [Nat.toDigits_of_base_le (by decide) (Nat.not_lt.mp hone), Nat.toDigits_of_lt_base htens]
      rfl
    rw [hlength]
    exact toList_toString n

theorem toList_text (m : Money) :
    m.text.toList = digitsOf m.majorUnits ++
      '.' :: ((Timestamp.padded 2 (m.amount % 100)).toList ++ ' ' :: m.currency.code.toList) := by
  have htext : m.text =
      toString m.majorUnits ++ "." ++ twoDigits (m.amount % 100) ++ " " ++ m.currency.code := rfl
  have hpoint : ".".toList = ['.'] := rfl
  have hspace : " ".toList = [' '] := rfl
  rw [htext, twoDigits_eq_padded (Nat.mod_lt _ (by decide))]
  simp only [String.toList_append, toList_toString, hpoint, hspace, List.append_assoc,
    List.cons_append, List.nil_append]

/-- **Money is read back from its text.** -/
theorem ofText?_text (m : Money) : ofText? m.text = some ((m.amount : Int), m.currency.code) := by
  have hminor : m.amount % 100 < 10 ^ 2 := by omega
  have hread := ofText?_of_toList m.toList_text (digitsOf_ne_nil _) (fun _ => isDigit_of_mem)
    (fun _ => Timestamp.isDigit_of_mem_padded) (Timestamp.length_padded (by decide) hminor)
  have hmajorValue : Nat.ofDigitChars 10 (digitsOf m.majorUnits) 0 = m.amount / 100 :=
    Nat.ofDigitChars_ten_toDigits
  have hminorValue :
      Nat.ofDigitChars 10 (Timestamp.padded 2 (m.amount % 100)).toList 0 = m.amount % 100 := by
    rw [← foldl_digits, ← Timestamp.digitsValue, Timestamp.digitsValue_toList_padded]
  rw [hread, hmajorValue, hminorValue, Nat.div_add_mod', String.ofList_toList]

end Money

namespace MoneyWord

/-! ### The text a machine makes -/

section Division
variable (m : Money)

/-- The word of an amount is divided as the amount is, -/
theorem toInt_div_word : (m.word.amount / 100).toInt = (m.amount / 100 : Nat) := by
  have hnonneg := toInt_word_nonneg m
  have hmin : m.word.amount ≠ Int64.minValue := by
    intro h
    rw [h] at hnonneg
    exact absurd hnonneg (by decide)
  rw [Int64.toInt_div_of_ne_left _ _ hmin, Int.tdiv_eq_ediv_of_nonneg hnonneg, toInt_word]
  rfl

/-- and leaves the same remainder. -/
theorem toInt_mod_word : (m.word.amount % 100).toInt = (m.amount % 100 : Nat) := by
  rw [Int64.toInt_mod, Int.tmod_eq_emod_of_nonneg (toInt_word_nonneg m), toInt_word]
  rfl

theorem filled_mod_word :
    filled 2 (m.word.amount % 100) = Timestamp.padded 2 (m.amount % 100) := by
  have hsign : ¬ m.word.amount % 100 < 0 := by
    rw [Int64.lt_iff_toInt_lt, toInt_mod_word, Int64.toInt_zero]
    exact Int.not_lt.mpr (Int.natCast_nonneg _)
  rw [filled, if_neg hsign, toInt_mod_word, Int.natAbs_natCast]

/-- **The text of a word is that of the amount.** -/
theorem text_word : m.word.text = m.text := by
  have hmajor : toString (m.word.amount / 100) = toString m.majorUnits :=
    congrArg toString (toInt_div_word m)
  unfold text Money.text
  rw [hmajor, filled_mod_word, Money.twoDigits_eq_padded (Nat.mod_lt _ (by decide))]
  rfl

end Division

/-! ### Money that comes about -/

/-- Money as it comes about: it is accepted, or it is what an operation gives. -/
inductive Arises : MoneyWord → Prop where
  | accepted {m : MoneyWord} (h : m.Accepted) : Arises m
  | sum {a b m : MoneyWord} (ha : Arises a) (hb : Arises b) (h : a.add b = .ok m) : Arises m
  | difference {a b m : MoneyWord} (ha : Arises a) (hb : Arises b) (h : a.sub b = .ok m) : Arises m
  | product {a m : MoneyWord} {quantity : Count} (ha : Arises a) (h : a.mul quantity = .ok m) :
      Arises m

/-- **Money that comes about is the word of an amount**, and every such word comes about. -/
theorem arises_iff {m : MoneyWord} : m.Arises ↔ ∃ a : Money, m = a.word := by
  constructor
  · intro h
    induction h with
    | accepted h => exact accepted_iff.mp h
    | sum _ _ h iha ihb =>
      obtain ⟨a, rfl⟩ := iha
      obtain ⟨b, rfl⟩ := ihb
      exact exists_eq_word (add_word a b ▸ h)
    | difference _ _ h iha ihb =>
      obtain ⟨a, rfl⟩ := iha
      obtain ⟨b, rfl⟩ := ihb
      exact exists_eq_word (sub_word a b ▸ h)
    | product _ h iha =>
      obtain ⟨a, rfl⟩ := iha
      exact exists_eq_word (mul_word a _ ▸ h)
  · exact fun h => .accepted (accepted_iff.mpr h)

theorem ofText?_text {m : MoneyWord} (h : m.Arises) :
    Money.ofText? m.text = some (m.amount.toInt, m.currency) := by
  obtain ⟨a, rfl⟩ := arises_iff.mp h
  rw [text_word, Money.ofText?_text, toInt_word]
  rfl

/-- **The text of money tells it.**  It is read back as the amount and the currency, no other money
has the same text, and it is the text of the number that the word stands for. -/
theorem text_unambiguous {m : MoneyWord} (h : m.Arises) :
    Money.ofText? m.text = some (m.amount.toInt, m.currency) ∧
      (∀ other : MoneyWord, other.Arises → m.text = other.text →
        m.amount = other.amount ∧ m.currency = other.currency) ∧
      ∃ a : Money, m = a.word ∧ m.text = a.text := by
  have hread := ofText?_text h
  refine ⟨hread, fun other hother htext => ?_, ?_⟩
  · rw [htext, ofText?_text hother, Option.some.injEq, Prod.mk.injEq, Int64.toInt_inj] at hread
    exact ⟨hread.1.symm, hread.2.symm⟩
  · obtain ⟨a, rfl⟩ := arises_iff.mp h
    exact ⟨a, rfl, text_word a⟩

def Sample.dollarFifty : MoneyWord := ⟨150, "USD"⟩

/-- What is left of it when forty-five cents are spent. -/
def Sample.dollarFive : MoneyWord := ⟨105, "USD"⟩

/-- The zero before the five cents keeps the two apart. -/
theorem text_unambiguous_cents :
    Sample.dollarFive.Arises ∧ Sample.dollarFifty.Arises ∧
      Sample.dollarFive.text = "1.05 USD" ∧
      Money.ofText? Sample.dollarFive.text = some (105, "USD") ∧
      Sample.dollarFive.text ≠ Sample.dollarFifty.text := by
  have hmake : make 150 "usd" = .ok Sample.dollarFifty := by decide +kernel
  have hmake' : make 45 " USD" = .ok ⟨45, "USD"⟩ := by decide +kernel
  have hfifty : Sample.dollarFifty.Arises := .accepted (.made hmake)
  have hspent : Sample.dollarFifty.sub ⟨45, "USD"⟩ = .ok Sample.dollarFive := by decide +kernel
  have hfive : Sample.dollarFive.Arises :=
    .difference hfifty (.accepted (.made hmake')) hspent
  obtain ⟨hread, hother, _⟩ := text_unambiguous hfive
  have hamount : Sample.dollarFive.amount ≠ Sample.dollarFifty.amount := by decide
  exact ⟨hfive, hfifty, by decide +kernel, hread, fun h => hamount (hother _ hfifty h).1⟩

end MoneyWord

end Storefront
