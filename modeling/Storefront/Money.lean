import Storefront.Text.Ascii
import Storefront.Text.Blank

/-! # Money

An amount of money is a natural number of minor units (cents), at most
`Money.maxAmount`, in a currency named by three capital letters.  Both bounds are
part of the type.  Addition, subtraction and multiplication never wrap around: they
give the exact result or say why there is none.
-/
namespace Storefront

/-- Why there is no such amount of money. -/
inductive MoneyError where
  | negativeAmount (amount : Int)
  | invalidCurrency (code : String)
  | currencyMismatch (left right : String)
  | overflow
  deriving DecidableEq

/-- The name of the cause, for those who look for one cause among others. -/
def MoneyError.code : MoneyError → String
  | .negativeAmount _ => "NegativeAmount"
  | .invalidCurrency _ => "InvalidCurrency"
  | .currencyMismatch .. => "CurrencyMismatch"
  | .overflow => "Overflow"

/-- The wording of the error. -/
def MoneyError.message : MoneyError → String
  | .negativeAmount amount => s!"Money amount cannot be negative: {amount}"
  | .invalidCurrency code => s!"Invalid currency code: '{code}'"
  | .currencyMismatch left right => s!"Currency mismatch: {left} and {right}"
  | .overflow => "Money amount overflow"

/-- Whether a text is three capital letters. -/
def Currency.isCode (code : String) : Bool :=
  code.toList.length == 3 && code.toList.all Char.isUpper

/-- A currency, named by three capital letters. -/
structure Currency where
  code : String
  code_isCode : Currency.isCode code = true
  deriving DecidableEq

namespace Currency

instance : Inhabited Currency := ⟨⟨"USD", by decide⟩⟩

/-- Reads a currency code of three letters, in any case and with space around it. -/
def parse (text : String) : Except MoneyError Currency :=
  let code := Text.asciiUpper (Text.trim text)
  if h : isCode code = true then .ok ⟨code, h⟩
  else .error (.invalidCurrency (Text.trim text))

end Currency

/-- The largest amount, the bound of a signed sixty-four-bit word. -/
def Money.maxAmount : Nat := 9223372036854775807

/-- An amount of money in minor units of a currency. -/
structure Money where
  amount : Nat
  currency : Currency
  amount_le : amount ≤ Money.maxAmount
  deriving DecidableEq

namespace Money

instance : Inhabited Money := ⟨⟨0, default, Nat.zero_le _⟩⟩

/-- The amount, if it is not too large. -/
def ofNat (amount : Nat) (currency : Currency) : Except MoneyError Money :=
  if h : amount ≤ maxAmount then .ok ⟨amount, currency, h⟩ else .error .overflow

/-- An amount of a currency given by its code.  A negative amount is refused before
the code is looked at. -/
def make (amount : Int) (currency : String) : Except MoneyError Money :=
  if amount < 0 then .error (.negativeAmount amount)
  else do ofNat amount.toNat (← Currency.parse currency)

/-- Nothing, of a currency given by its code. -/
def zero (currency : String) : Except MoneyError Money := make 0 currency

/-- Nothing, of a currency. -/
def zeroOf (currency : Currency) : Money := ⟨0, currency, Nat.zero_le _⟩

/-- The amount in whole major units, rounded down. -/
def majorUnits (m : Money) : Nat := m.amount / 100

/-- The sum of two amounts of one currency. -/
def add (a b : Money) : Except MoneyError Money :=
  if a.currency = b.currency then ofNat (a.amount + b.amount) a.currency
  else .error (.currencyMismatch a.currency.code b.currency.code)

/-- The difference of two amounts of one currency; it must not fall below zero. -/
def sub (a b : Money) : Except MoneyError Money :=
  if a.currency = b.currency then
    if b.amount ≤ a.amount then
      .ok ⟨a.amount - b.amount, a.currency, Nat.le_trans (Nat.sub_le ..) a.amount_le⟩
    else .error (.negativeAmount ((a.amount : Int) - b.amount))
  else .error (.currencyMismatch a.currency.code b.currency.code)

/-- The amount taken a number of times. -/
def mul (a : Money) (quantity : UInt32) : Except MoneyError Money :=
  ofNat (a.amount * quantity.toNat) a.currency

/-- A number below one hundred, written with two digits. -/
def twoDigits (n : Nat) : String := if n < 10 then s!"0{n}" else s!"{n}"

/-- Major units, a point, two digits of minor units, and the currency code. -/
def text (m : Money) : String :=
  s!"{m.majorUnits}.{twoDigits (m.amount % 100)} {m.currency.code}"

instance : ToString Money := ⟨text⟩

theorem ofNat_eq_ok_iff {n : Nat} {c : Currency} {m : Money} :
    ofNat n c = .ok m ↔ m.amount = n ∧ m.currency = c := by
  unfold ofNat
  split
  · constructor
    · rintro ⟨⟩
      exact ⟨rfl, rfl⟩
    · rintro ⟨rfl, rfl⟩
      rfl
  · rename_i h
    constructor
    · rintro ⟨⟩
    · rintro ⟨rfl, rfl⟩
      exact absurd m.amount_le h

end Money

end Storefront
