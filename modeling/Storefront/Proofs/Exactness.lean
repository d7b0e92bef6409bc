import Mathlib
import Storefront.Money.Word
import Storefront.Proofs.Documents
import Storefront.Proofs.Refusal

/-! # Money in a machine word is exact

A machine's words come to the same as the numbers of `Money`: what is accepted is the word of an
amount of money (`MoneyWord.accepted_iff`), and each operation gives the word of what the operation
of `Money` gives, or is refused as that is (`MoneyWord.step_word`).

The difference of two words is taken without a look at overflow.  It cannot overflow as long as
neither of them is negative, and none is: amounts are checked where they are made and read, and each
operation gives an amount again.
-/
namespace Storefront

namespace MoneyWord

/-! ### Words -/

section Words
variable {a b c : Int64}

/-- A number that is looked at for overflow is given exactly, or no word is that number. -/
theorem unless_overflow_eq_some_iff {overflow : Bool} {n : Int}
    (ho : overflow = (decide (2 ^ 63 ≤ n) || decide (n < -2 ^ 63)))
    (ha : a.toInt = n.bmod (2 ^ 64)) :
    (if overflow then none else some a) = some c ↔ c.toInt = n := by
  have hlow := c.le_toInt
  have hhigh := c.toInt_lt
  rw [ho]
  split
  · rename_i h
    rw [Bool.or_eq_true, decide_eq_true_eq, decide_eq_true_eq] at h
    exact iff_of_false nofun (by omega)
  · rename_i h
    rw [Bool.or_eq_true, decide_eq_true_eq, decide_eq_true_eq] at h
    rw [Int.bmod_eq_of_le (by omega) (by omega)] at ha
    rw [Option.some.injEq, ← Int64.toInt_inj, ha, eq_comm]

theorem plus?_eq_some_iff : plus? a b = some c ↔ c.toInt = a.toInt + b.toInt :=
  unless_overflow_eq_some_iff rfl (Int64.toInt_add a b)

theorem times?_eq_some_iff : times? a b = some c ↔ c.toInt = a.toInt * b.toInt :=
  unless_overflow_eq_some_iff rfl (Int64.toInt_mul a b)

/-- **The difference of two words does not overflow unless one of them is negative**, -/
theorem ssubOverflow_of_nonneg (ha : 0 ≤ a.toInt) (hb : 0 ≤ b.toInt) :
    a.toBitVec.ssubOverflow b.toBitVec = false := by
  have ha' := a.toInt_lt
  have hb' := b.toInt_lt
  unfold BitVec.ssubOverflow
  simp only [Int64.toInt_toBitVec]
  simp
  omega

/-- and is exact then. -/
theorem toInt_sub_of_nonneg (ha : 0 ≤ a.toInt) (hb : 0 ≤ b.toInt) :
    (a - b).toInt = a.toInt - b.toInt := by
  have ha' := a.toInt_lt
  have hb' := b.toInt_lt
  rw [Int64.toInt_sub]
  exact Int.bmod_eq_of_le (by omega) (by omega)

end Words

/-! ### Currency codes -/

theorem utf8Size_of_isAlpha {c : Char} (h : c.isAlpha = true) : c.utf8Size = 1 := by
  rw [Char.utf8Size_eq_one_iff, UInt32.le_iff_toNat_le]
  simp only [Char.isAlpha, Char.isUpper, Char.isLower, Bool.or_eq_true, Bool.and_eq_true,
    decide_eq_true_eq, ge_iff_le, UInt32.le_iff_toNat_le] at h
  simp at h ⊢
  omega

/-- Letters are of one byte each. -/
theorem utf8ByteSize_of_all_isAlpha {s : String} (h : s.toList.all Char.isAlpha = true) :
    s.utf8ByteSize = s.toList.length := by
  rw [← s.ofList_toList, String.utf8ByteSize_ofList, String.toList_ofList]
  generalize s.toList = cs at h ⊢
  induction cs with
  | nil => rfl
  | cons c rest ih =>
    rw [List.all_cons, Bool.and_eq_true] at h
    rw [String.utf8Len_cons, utf8Size_of_isAlpha h.1, ih h.2, List.length_cons]

theorem isCode_asciiUpper {code : String} :
    Currency.isCode (Text.asciiUpper code) = true ↔
      code.utf8ByteSize = 3 ∧ code.toList.all Char.isAlpha = true := by
  rw [Currency.isCode, Text.asciiUpper, String.toList_ofList, List.length_map, List.all_map]
  have hupper : (Char.isUpper ∘ Char.toUpper) = Char.isAlpha :=
    funext Char.isUpper_toUpper_eq_isAlpha
  rw [hupper, Bool.and_eq_true, beq_iff_eq]
  refine and_congr_left fun h => ?_
  rw [utf8ByteSize_of_all_isAlpha h]

/-- **A code is read as it is by `Currency.parse`.** -/
theorem parseCode_eq (text : String) :
    parseCode text = (Currency.parse text).map Currency.code := by
  unfold parseCode Currency.parse
  dsimp only
  by_cases h : Currency.isCode (Text.asciiUpper (Text.trim text)) = true
  · rw [dif_pos h]
    obtain ⟨hsize, hall⟩ := isCode_asciiUpper.mp h
    rw [if_neg (by simp only [hsize, hall]; decide)]
    rfl
  · rw [dif_neg h, if_pos]
    · rfl
    · rw [isCode_asciiUpper, not_and] at h
      simpa [Decidable.or_iff_not_imp_left] using h

/-! ### The same as money -/

/-- The word of an amount is the amount. -/
@[simp] theorem toInt_word (m : Money) : m.word.amount.toInt = m.amount :=
  Int64.toInt_ofInt_of_le (by have := m.amount_le; omega)
    (by have := m.amount_lt; omega)

theorem toInt_ofNat_count (n : Count) : (Int64.ofNat n.toNat).toInt = n.toNat :=
  Int64.toInt_ofNat_of_lt (n.toNat_lt.trans (by decide))

/-- Words of one amount in one currency are the same. -/
theorem eq_word {w : MoneyWord} {m : Money} (ha : w.amount.toInt = m.amount)
    (hc : w.currency = m.currency.code) : w = m.word := by
  obtain ⟨amount, currency⟩ := w
  obtain rfl : currency = m.currency.code := hc
  rw [Money.word, ← ha, Int64.ofInt_toInt]

/-- A word is an amount if there is one that is the number, and there is none beyond the largest
amount. -/
theorem map_ofNat {n : Nat} (x : Option Int64) (c : Currency) :
    (∀ amount : Int64, x = some amount ↔ amount.toInt = n) →
    (Money.ofNat n c).map Money.word =
      match x with
      | none => .error .overflow
      | some amount => .ok ⟨amount, c.code⟩ := by
  intro hx
  cases x with
  | none =>
    have hlarge : ¬ n ≤ Money.maxAmount := fun hle =>
      nomatch (hx _).mpr (toInt_word ⟨n, c, hle⟩)
    rw [Money.ofNat_of_not_le hlarge]
    rfl
  | some amount =>
    have hn := (hx amount).mp rfl
    have hle : n ≤ Money.maxAmount := by
      have := amount.toInt_lt
      unfold Money.maxAmount
      omega
    rw [Money.ofNat_of_le hle]
    exact congrArg Except.ok (eq_word (m := ⟨n, c, hle⟩) hn rfl).symm

theorem make_eq (amount : Int64) (currency : String) :
    make amount currency = (Money.make amount.toInt currency).map Money.word := by
  unfold make Money.make
  rw [parseCode_eq]
  by_cases hneg : amount.toInt < 0
  · rw [if_pos hneg, if_pos (Int64.lt_iff_toInt_lt.mpr (by rwa [Int64.toInt_zero]))]
    rfl
  · rw [if_neg hneg, if_neg (by rwa [Int64.lt_iff_toInt_lt, Int64.toInt_zero])]
    cases Currency.parse currency with
    | error e => rfl
    | ok c =>
      refine (map_ofNat (some amount) c fun other => ?_).symm
      rw [Int.toNat_of_nonneg (Int.not_lt.mp hneg), Int64.toInt_inj, Option.some.injEq, eq_comm]

theorem signed_bounds {d : Json.Draft} {n : Int} (h : Json.Reader.signed d = .ok n) :
    -2 ^ 63 ≤ n ∧ n < 2 ^ 63 := by
  unfold Json.Reader.signed Json.Reader.between at h
  split at h
  · split at h
    · rename_i hbounds
      cases h
      exact ⟨hbounds.1, Int.lt_of_le_sub_one hbounds.2⟩
    · cases h
  · cases h

/-- What is read as money that is not checked yet fits into a word. -/
theorem toInt_ofInt_of_reader {d : Json.Draft} {m : UncheckedMoney}
    (h : UncheckedMoney.reader d = .ok m) : (Int64.ofInt m.amount).toInt = m.amount := by
  have hmakes : UncheckedMoney.fields.Makes fun m => -2 ^ 63 ≤ m.amount ∧ m.amount < 2 ^ 63 := by
    intro get m hm
    obtain ⟨f, hf, hm⟩ := bind_eq_ok_iff.mp hm
    obtain ⟨currency, _, hm⟩ := bind_eq_ok_iff.mp hm
    cases hm
    change ((Json.Record.required "amount" Json.Reader.signed).build get).map UncheckedMoney.mk =
      .ok f at hf
    obtain ⟨amount, hamount, rfl⟩ := map_eq_ok_iff.mp hf
    unfold Json.Record.required at hamount
    dsimp only at hamount
    split at hamount
    · exact signed_bounds hamount
    · cases hamount
  obtain ⟨hlow, hhigh⟩ := hmakes.read h
  exact Int64.toInt_ofInt_of_le hlow hhigh

/-- **Money is read as it is by `Money.reader`.** -/
theorem reader_eq (d : Json.Draft) : reader d = (Money.reader d).map Money.word := by
  unfold reader Money.reader Json.Reader.checked
  cases h : UncheckedMoney.reader d with
  | error e => rfl
  | ok m =>
    dsimp only [ok_bind]
    rw [make_eq, toInt_ofInt_of_reader h]
    unfold UncheckedMoney.check
    cases Money.make m.amount m.currency <;> rfl

section Steps
variable (a b : Money)

theorem toInt_word_nonneg : 0 ≤ a.word.amount.toInt := by
  rw [toInt_word]
  exact Int.natCast_nonneg _

theorem ensureSameCurrency_word :
    a.word.ensureSameCurrency b.word =
      if a.currency = b.currency then .ok ()
      else .error (.currencyMismatch a.currency.code b.currency.code) := by
  have hcode : a.word.currency = b.word.currency ↔ a.currency = b.currency :=
    ⟨Currency.eq_of_code_eq, congrArg Currency.code⟩
  unfold ensureSameCurrency
  simp only [hcode]
  rfl

theorem add_word : a.word.add b.word = (a.add b).map Money.word := by
  unfold add Money.add
  rw [ensureSameCurrency_word]
  by_cases h : a.currency = b.currency
  · rw [if_pos h, if_pos h]
    refine (map_ofNat (plus? a.word.amount b.word.amount) a.currency fun amount => ?_).symm
    rw [plus?_eq_some_iff, toInt_word, toInt_word, Int.natCast_add]
  · rw [if_neg h, if_neg h]
    rfl

theorem mul_word (quantity : Count) : a.word.mul quantity = (a.mul quantity).map Money.word := by
  unfold mul Money.mul
  refine (map_ofNat (times? a.word.amount (Int64.ofNat quantity.toNat)) a.currency
    fun amount => ?_).symm
  rw [times?_eq_some_iff, toInt_word, toInt_ofNat_count, Int.natCast_mul]

/-- **The difference is exact**, although it is not looked at for overflow. -/
theorem sub_word : a.word.sub b.word = (a.sub b).map Money.word := by
  have hexact : (a.word.amount - b.word.amount).toInt = a.amount - b.amount := by
    rw [toInt_sub_of_nonneg (toInt_word_nonneg a) (toInt_word_nonneg b), toInt_word, toInt_word]
  unfold sub Money.sub
  rw [ensureSameCurrency_word]
  by_cases h : a.currency = b.currency
  · rw [if_pos h, if_pos h]
    dsimp only [ok_bind]
    by_cases hle : b.amount ≤ a.amount
    · rw [if_pos hle, if_neg]
      · refine congrArg Except.ok (eq_word ?_ rfl)
        rw [hexact]
        exact (Int.natCast_sub hle).symm
      · rw [Int64.lt_iff_toInt_lt, hexact, Int64.toInt_zero]
        omega
    · rw [if_neg hle, if_pos, hexact]
      · rfl
      · rw [Int64.lt_iff_toInt_lt, hexact, Int64.toInt_zero]
        omega
  · rw [if_neg h, if_neg h]
    rfl

/-- **One operation comes to the same.** -/
theorem step_word (s : MoneyStep Money) :
    a.word.step (s.map Money.word) = (a.step s).map Money.word := by
  cases s with
  | add other => exact add_word a other
  | sub other => exact sub_word a other
  | mul quantity => exact mul_word a quantity

/-- **Any number of operations comes to the same.** -/
theorem after_word (steps : List (MoneyStep Money)) :
    a.word.after (steps.map (MoneyStep.map Money.word)) = (a.after steps).word := by
  induction steps generalizing a with
  | nil => rfl
  | cons s rest ih =>
    have hone : (a.word.step (s.map Money.word)).toOption.getD a.word =
        ((a.step s).toOption.getD a).word := by
      rw [step_word]
      cases a.step s <;> rfl
    show MoneyStep.after step ((a.word.step (s.map Money.word)).toOption.getD a.word) _ = _
    rw [hone]
    exact ih _

end Steps

/-! ### What is accepted -/

/-- Money that is accepted: it is made of an amount and a code, or read from a document. -/
inductive Accepted : MoneyWord → Prop where
  | made {amount : Int64} {currency : String} {m : MoneyWord} (h : make amount currency = .ok m) :
      Accepted m
  | read {d : Json.Draft} {m : MoneyWord} (h : reader d = .ok m) : Accepted m

/-- What comes to the same as money is the word of an amount. -/
theorem exists_eq_word {ε : Type} {x : Except ε Money} {m : MoneyWord}
    (h : x.map Money.word = .ok m) : ∃ a : Money, m = a.word := by
  obtain ⟨a, _, rfl⟩ := map_eq_ok_iff.mp h
  exact ⟨a, rfl⟩

/-- **What is accepted is the word of an amount of money**, and every such word can be accepted. -/
theorem accepted_iff {m : MoneyWord} : m.Accepted ↔ ∃ a : Money, m = a.word := by
  constructor
  · rintro (h | h)
    · exact exists_eq_word (make_eq _ _ ▸ h)
    · exact exists_eq_word (reader_eq _ ▸ h)
  · rintro ⟨a, rfl⟩
    have hmake : make a.word.amount a.currency.code = .ok a.word := by
      rw [make_eq, toInt_word, a.make_self]
      rfl
    exact .made hmake

end MoneyWord

/-- The money that an operation takes has a property, if it takes any. -/
def MoneyStep.Takes {μ : Type} (P : μ → Prop) : MoneyStep μ → Prop
  | .add other => P other
  | .sub other => P other
  | .mul _ => True

/-- Operations with money that is accepted are operations with amounts of money. -/
theorem MoneyStep.eq_map_word {steps : List (MoneyStep MoneyWord)}
    (h : ∀ s ∈ steps, s.Takes MoneyWord.Accepted) :
    ∃ taken : List (MoneyStep Money), steps = taken.map (MoneyStep.map Money.word) := by
  have hone : ∀ s : MoneyStep MoneyWord, s.Takes MoneyWord.Accepted →
      ∃ t : MoneyStep Money, s = t.map Money.word := by
    intro s hs
    cases s with
    | add other =>
      obtain ⟨b, rfl⟩ := MoneyWord.accepted_iff.mp hs
      exact ⟨.add b, rfl⟩
    | sub other =>
      obtain ⟨b, rfl⟩ := MoneyWord.accepted_iff.mp hs
      exact ⟨.sub b, rfl⟩
    | mul quantity => exact ⟨.mul quantity, rfl⟩
  induction steps with
  | nil => exact ⟨[], rfl⟩
  | cons s rest ih =>
    obtain ⟨t, rfl⟩ := hone s (h s (List.mem_cons_self ..))
    obtain ⟨taken, rfl⟩ := ih fun s hs => h s (List.mem_cons_of_mem _ hs)
    exact ⟨t :: taken, rfl⟩

namespace Money

variable {a b : Money}

/-- An operation stays with the currency. -/
theorem currency_of_step {s : MoneyStep Money} (h : a.step s = .ok b) :
    b.currency = a.currency := by
  cases s with
  | add other =>
    change a.add other = .ok b at h
    unfold add at h
    split at h
    · exact (ofNat_eq_ok_iff.mp h).2
    · cases h
  | sub other =>
    change a.sub other = .ok b at h
    unfold sub at h
    split at h
    · split at h
      · cases h
        rfl
      · cases h
    · cases h
  | mul quantity => exact (ofNat_eq_ok_iff.mp h).2

/-- So does any number of them. -/
theorem currency_after (a : Money) (steps : List (MoneyStep Money)) :
    (a.after steps).currency = a.currency := by
  induction steps generalizing a with
  | nil => rfl
  | cons s rest ih =>
    show (MoneyStep.after step ((a.step s).toOption.getD a) rest).currency = a.currency
    refine (ih _).trans ?_
    cases h : a.step s with
    | error e => rfl
    | ok b => exact currency_of_step h

end Money

namespace MoneyWord

/-! ### Exact results -/

/-- What an operation gives whose exact result is a number: that number of a currency if it is from
zero up to the largest amount, and a refusal if it is not. -/
structure Gives (x : Except MoneyError MoneyWord) (currency : String) (n : Int) (e : MoneyError) :
    Prop where
  inside : 0 ≤ n ∧ n ≤ Money.maxAmount → ∃ m, x = .ok m ∧ m.amount.toInt = n ∧ m.currency = currency
  outside : ¬ (0 ≤ n ∧ n ≤ Money.maxAmount) → x = .error e

/-- **Money that can be relied on.** -/
structure Exact (m : MoneyWord) : Prop where
  /-- It could have been accepted as it is, so that it can be taken by operations in turn. -/
  accepted : m.Accepted
  range : 0 ≤ m.amount.toInt ∧ m.amount.toInt ≤ Money.maxAmount
  code : Currency.isCode m.currency = true
  /-- Money of another currency is neither added nor subtracted. -/
  apart : ∀ b : MoneyWord, b.Accepted → m.currency ≠ b.currency →
    m.add b = .error (.currencyMismatch m.currency b.currency) ∧
      m.sub b = .error (.currencyMismatch m.currency b.currency)
  sum : ∀ b : MoneyWord, b.Accepted → m.currency = b.currency →
    Gives (m.add b) m.currency (m.amount.toInt + b.amount.toInt) .overflow
  difference : ∀ b : MoneyWord, b.Accepted → m.currency = b.currency →
    Gives (m.sub b) m.currency (m.amount.toInt - b.amount.toInt)
      (.negativeAmount (m.amount.toInt - b.amount.toInt))
  product : ∀ quantity : Count,
    Gives (m.mul quantity) m.currency (m.amount.toInt * quantity.toNat) .overflow
  /-- The machine's subtraction, which nobody looks at, does not overflow. -/
  unwrapped : ∀ b : MoneyWord, b.Accepted →
    m.amount.toBitVec.ssubOverflow b.amount.toBitVec = false

theorem gives_ofNat (n : Nat) (c : Currency) :
    Gives ((Money.ofNat n c).map Money.word) c.code n .overflow := by
  constructor
  · rintro ⟨_, h⟩
    rw [Money.ofNat_of_le (Int.ofNat_le.mp h)]
    exact ⟨_, rfl, toInt_word _, rfl⟩
  · intro h
    rw [Money.ofNat_of_not_le fun hle => h ⟨Int.natCast_nonneg _, Int.ofNat_le.mpr hle⟩]
    rfl

theorem exact_word (a : Money) : a.word.Exact where
  accepted := accepted_iff.mpr ⟨a, rfl⟩
  range := ⟨toInt_word_nonneg a, by rw [toInt_word]; exact Int.ofNat_le.mpr a.amount_le⟩
  code := a.currency.code_isCode
  apart b hb hne := by
    obtain ⟨b, rfl⟩ := accepted_iff.mp hb
    have hcurrency : a.currency ≠ b.currency := fun h => hne (congrArg Currency.code h)
    rw [add_word, sub_word, Money.add, Money.sub, if_neg hcurrency, if_neg hcurrency]
    exact ⟨rfl, rfl⟩
  sum b hb hsame := by
    obtain ⟨b, rfl⟩ := accepted_iff.mp hb
    rw [add_word, Money.add, if_pos (Currency.eq_of_code_eq hsame), toInt_word, toInt_word,
      ← Int.natCast_add]
    exact gives_ofNat _ _
  difference b hb hsame := by
    obtain ⟨b, rfl⟩ := accepted_iff.mp hb
    rw [sub_word, Money.sub, if_pos (Currency.eq_of_code_eq hsame), toInt_word, toInt_word]
    have ha := a.amount_le
    constructor
    · rintro ⟨hle, _⟩
      have hle : b.amount ≤ a.amount := by omega
      rw [if_pos hle]
      refine ⟨_, rfl, ?_, rfl⟩
      rw [toInt_word]
      exact Int.natCast_sub hle
    · intro h
      rw [if_neg (by omega)]
      rfl
  product quantity := by
    rw [mul_word, Money.mul, toInt_word, ← Int.natCast_mul]
    exact gives_ofNat _ _
  unwrapped b hb := by
    obtain ⟨b, rfl⟩ := accepted_iff.mp hb
    exact ssubOverflow_of_nonneg (toInt_word_nonneg a) (toInt_word_nonneg b)

/-- **Money stays exact**, whatever is added to it or subtracted from it and however often it is
multiplied, and comes to the same in machine words as in numbers. -/
theorem exact_after {m : MoneyWord} (h : m.Accepted) {steps : List (MoneyStep MoneyWord)}
    (hsteps : ∀ s ∈ steps, s.Takes Accepted) :
    (m.after steps).Exact ∧ (m.after steps).currency = m.currency ∧
      ∃ (a : Money) (taken : List (MoneyStep Money)), m = a.word ∧
        steps = taken.map (MoneyStep.map Money.word) ∧ m.after steps = (a.after taken).word := by
  obtain ⟨a, rfl⟩ := accepted_iff.mp h
  obtain ⟨taken, rfl⟩ := MoneyStep.eq_map_word hsteps
  have hafter := after_word a taken
  refine ⟨hafter ▸ exact_word _, ?_, a, taken, rfl, rfl, hafter⟩
  rw [hafter]
  exact congrArg Currency.code (Money.currency_after a taken)

/-- As many cents as there can be. -/
def Sample.most : MoneyWord := ⟨Int64.maxValue, "USD"⟩

def Sample.cent : MoneyWord := ⟨1, "USD"⟩

def Sample.euro : MoneyWord := ⟨100, "EUR"⟩

/-- All of it is spent and one cent more, and then there is all of it again. -/
def Sample.spree : List (MoneyStep MoneyWord) := [
  .add cent,
  .mul 2,
  .sub most,
  .sub cent,
  .mul 4294967295,
  .add euro,
  .add most]

theorem exact_after_spree :
    Sample.most.Accepted ∧ (∀ s ∈ Sample.spree, s.Takes Accepted) ∧
      (Sample.most.after Sample.spree).Exact ∧ Sample.most.after Sample.spree = Sample.most ∧
      (Sample.most.after (Sample.spree.take 3)).sub Sample.cent =
        .error (.negativeAmount (-1)) := by
  have hmake : make Int64.maxValue " usd" = .ok Sample.most := by decide +kernel
  have hread : reader (.obj [(some "amount", .int 1), (some "currency", .str (some "Usd"))]) =
      .ok Sample.cent := by decide +kernel
  have hmake' : make 100 "EUR" = .ok Sample.euro := by decide +kernel
  have hmost : Sample.most.Accepted := .made hmake
  have hcent : Sample.cent.Accepted := .read hread
  have heuro : Sample.euro.Accepted := .made hmake'
  have hspree : ∀ s ∈ Sample.spree, s.Takes Accepted := by
    simp only [Sample.spree, List.forall_mem_cons, MoneyStep.Takes]
    exact ⟨hcent, trivial, hmost, hcent, trivial, heuro, hmost, nofun⟩
  exact ⟨hmost, hspree, (exact_after hmost hspree).1, by decide +kernel, by decide +kernel⟩

end MoneyWord

end Storefront
