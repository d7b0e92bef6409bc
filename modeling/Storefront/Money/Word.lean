import Storefront.Document.Value

/-! # Money in a machine word

A machine holds an amount of money in a signed word of sixty-four bits, and the code of the currency
as a text.  Nothing in this says that the amount is not negative or that the code is one; it is so
because of how money comes about.  Sums and products are looked at for overflow.  A difference is
not: it is taken as the machine takes it, and only then refused if it is negative.

An operation gives new money or none, and goes on with what there was if it gives none.

The text of an amount is made by the machine's division, too.
-/
namespace Storefront

/-- An operation on money, with the money or the number that it takes. -/
inductive MoneyStep (μ : Type) where
  | add (other : μ)
  | sub (other : μ)
  | mul (quantity : Count)
  deriving DecidableEq

namespace MoneyStep

variable {μ ν : Type}

/-- The same operation with another form of money. -/
def map (f : μ → ν) : MoneyStep μ → MoneyStep ν
  | add other => add (f other)
  | sub other => sub (f other)
  | mul quantity => mul quantity

/-- What becomes of money by some operations, one after the other. -/
def after (step : μ → MoneyStep μ → Except MoneyError μ) (m : μ) (steps : List (MoneyStep μ)) : μ :=
  steps.foldl (fun m s => (step m s).toOption.getD m) m

end MoneyStep

namespace Money

/-- One operation. -/
def step (m : Money) : MoneyStep Money → Except MoneyError Money
  | .add other => m.add other
  | .sub other => m.sub other
  | .mul quantity => m.mul quantity

/-- The money as some operations leave it. -/
def after (m : Money) (steps : List (MoneyStep Money)) : Money := MoneyStep.after step m steps

end Money

/-- An amount of money as a machine holds it. -/
structure MoneyWord where
  amount : Int64
  currency : String
  deriving DecidableEq

namespace MoneyWord

/-- The sum, if it does not overflow. -/
def plus? (a b : Int64) : Option Int64 :=
  if a.toBitVec.saddOverflow b.toBitVec then none else some (a + b)

/-- The product, if it does not overflow. -/
def times? (a b : Int64) : Option Int64 :=
  if a.toBitVec.smulOverflow b.toBitVec then none else some (a * b)

/-- A currency code of three bytes, which are letters, in capitals. -/
def parseCode (text : String) : Except MoneyError String :=
  let code := Text.trim text
  if code.utf8ByteSize ≠ 3 || !code.toList.all Char.isAlpha then .error (.invalidCurrency code)
  else .ok (Text.asciiUpper code)

/-- An amount of a currency given by its code. -/
def make (amount : Int64) (currency : String) : Except MoneyError MoneyWord := do
  if amount < 0 then throw (.negativeAmount amount.toInt)
  let currency ← parseCode currency
  return { amount, currency }

/-- Reads money. -/
def reader : Json.Reader MoneyWord :=
  Json.Reader.checked UncheckedMoney.reader fun m =>
    (make (Int64.ofInt m.amount) m.currency).toOption

/-- Refuses to go on with money of another currency. -/
def ensureSameCurrency (a b : MoneyWord) : Except MoneyError Unit :=
  if a.currency = b.currency then .ok () else .error (.currencyMismatch a.currency b.currency)

/-- The sum of two amounts of one currency. -/
def add (a b : MoneyWord) : Except MoneyError MoneyWord := do
  a.ensureSameCurrency b
  match plus? a.amount b.amount with
  | none => throw .overflow
  | some amount => return { amount, currency := a.currency }

/-- The difference of two amounts of one currency. -/
def sub (a b : MoneyWord) : Except MoneyError MoneyWord := do
  a.ensureSameCurrency b
  let amount := a.amount - b.amount
  if amount < 0 then throw (.negativeAmount amount.toInt)
  return { amount, currency := a.currency }

/-- The amount taken a number of times. -/
def mul (a : MoneyWord) (quantity : Count) : Except MoneyError MoneyWord :=
  match times? a.amount (Int64.ofNat quantity.toNat) with
  | none => throw .overflow
  | some amount => return { amount, currency := a.currency }

/-- A word filled up with zeros to a width; a sign stands before the zeros and takes part of the
width. -/
def filled (width : Nat) (n : Int64) : String :=
  if n < 0 then "-" ++ Timestamp.padded (width - 1) n.toInt.natAbs
  else Timestamp.padded width n.toInt.natAbs

/-- Major units, a point, minor units filled up to a width of two, and the currency code.  The
machine divides towards zero. -/
def text (m : MoneyWord) : String :=
  s!"{m.amount / 100}.{filled 2 (m.amount % 100)} {m.currency}"

/-- One operation. -/
def step (m : MoneyWord) : MoneyStep MoneyWord → Except MoneyError MoneyWord
  | .add other => m.add other
  | .sub other => m.sub other
  | .mul quantity => m.mul quantity

/-- The money as some operations leave it. -/
def after (m : MoneyWord) (steps : List (MoneyStep MoneyWord)) : MoneyWord :=
  MoneyStep.after step m steps

end MoneyWord

/-- Money as a machine holds it. -/
def Money.word (m : Money) : MoneyWord := ⟨Int64.ofInt m.amount, m.currency.code⟩

end Storefront
