/-! # Punycode

A label with characters beyond ASCII is written in ASCII as the characters that are
ASCII, a hyphen, and a sequence of numbers that say where the others go in.  Each
number is written with digits of a varying weight, which adapts to the numbers seen
before (RFC 3492).
-/
namespace Storefront.DomainName.Punycode

/-- The number of digits. -/
def base : Nat := 36

/-- The bias from which the weights start. -/
def initialBias : Nat := 72

/-- The first code point beyond ASCII. -/
def firstCode : Nat := 128

/-- The largest number that may occur. -/
def largest : Nat := Nat.pow 2 32 - 1

/-- The threshold below which a digit is the last of its number. -/
def threshold (k bias : Nat) : Nat := if k ≤ bias then 1 else if bias + 26 ≤ k then 26 else k - bias

/-- Divides until at most 455 is left, counting up in steps of the base. -/
def scale (fuel : Nat) (delta k : Nat) : Nat :=
  match fuel with
  | 0 => k + 36 * delta / (delta + 38)
  | fuel + 1 => if 455 < delta then scale fuel (delta / 35) (k + base)
    else k + 36 * delta / (delta + 38)

/-- The bias after a number, given how many characters there are then. -/
def adapt (delta count : Nat) (first : Bool) : Nat :=
  let delta := if first then delta / 700 else delta / 2
  scale 8 (delta + delta / count) 0

/-! ### Writing -/

/-- The character of a digit. -/
def digitChar (n : Nat) : Char := Char.ofNat (if n < 26 then 0x61 + n else 0x30 + (n - 26))

/-- The digits of a number. -/
def writeNumber (fuel : Nat) (q k bias : Nat) : List Char :=
  match fuel with
  | 0 => [digitChar q]
  | fuel + 1 =>
    let t := threshold k bias
    if q < t then [digitChar q]
    else digitChar (t + (q - t) % (base - t)) :: writeNumber fuel ((q - t) / (base - t)) (k + base) bias

/-- What is known between two numbers that are written. -/
structure Writing where
  delta : Nat
  bias : Nat
  done : Nat
  out : List Char

/-- Writes the places of one code point, going through all of the label. -/
def writeCode (basics code : Nat) (label : List Nat) (w : Writing) : Writing :=
  label.foldl (fun w n =>
    if n < code then { w with delta := w.delta + 1 }
    else if n = code then
      { delta := 0
        bias := adapt w.delta (w.done + 1) (w.done == basics)
        done := w.done + 1
        out := w.out ++ writeNumber 8 w.delta base w.bias }
    else w) w

/-- Writes the places of code points that ascend, `reached` being the next to write. -/
def writeCodes (basics : Nat) (label : List Nat) : List Nat → Nat → Writing → Writing
  | [], _, w => w
  | code :: codes, reached, w =>
    let w := { w with delta := w.delta + (code - reached) * (w.done + 1) }
    let w := writeCode basics code label w
    writeCodes basics label codes (code + 1) { w with delta := w.delta + 1 }

/-- Puts a number where it belongs among others that ascend, unless it is there. -/
def insertCode (n : Nat) : List Nat → List Nat
  | [] => [n]
  | m :: rest => if n < m then n :: m :: rest else if n = m then m :: rest else m :: insertCode n rest

/-- The label in ASCII, without the mark in front of it. -/
def encode (cs : List Char) : List Char :=
  let label := cs.map Char.toNat
  let basic := cs.filter fun c => c.toNat < firstCode
  let codes := (label.filter (firstCode ≤ ·)).foldr insertCode []
  let start := if basic.isEmpty then [] else basic ++ ['-']
  (writeCodes basic.length label codes firstCode ⟨0, initialBias, basic.length, start⟩).out

/-! ### Reading -/

/-- The value of a digit. -/
def digit? (c : Char) : Option Nat :=
  if '0' ≤ c ∧ c ≤ '9' then some (c.toNat - 0x30 + 26)
  else if 'A' ≤ c ∧ c ≤ 'Z' then some (c.toNat - 0x41)
  else if 'a' ≤ c ∧ c ≤ 'z' then some (c.toNat - 0x61)
  else none

/-- What is known while numbers are read: the characters so far, the code point and the
place reached, the place at which the present number began, and its next weight. -/
structure Reading where
  out : List Char
  code : Nat
  place : Nat
  start : Nat
  weight : Nat
  k : Nat
  bias : Nat

/-- Whether no number is half read. -/
def Reading.atRest (r : Reading) : Bool := r.k == base

/-- The character of a code point that is no surrogate. -/
def scalar? (n : Nat) : Option Char :=
  if n < 0xD800 ∨ (0xDFFF < n ∧ n < 0x110000) then some (Char.ofNat n) else none

/-- One more digit. -/
def readDigit (r : Reading) (c : Char) : Option Reading := do
  let d ← digit? c
  if d > (largest - r.place) / r.weight then none
  let place := r.place + d * r.weight
  let t := threshold r.k r.bias
  if d < t then
    let count := r.out.length + 1
    if place / count > largest - r.code then none
    let code := r.code + place / count
    let ch ← scalar? code
    let spot := place % count
    some { out := r.out.take spot ++ ch :: r.out.drop spot
           code := code
           place := spot + 1
           start := spot + 1
           weight := 1
           k := base
           bias := adapt (place - r.start) count (r.start == 0) }
  else
    if r.weight > largest / (base - t) then none
    some { r with place := place, weight := r.weight * (base - t), k := r.k + base }

/-- The label that stands behind the mark of an ASCII form. -/
def decode? (cs : List Char) : Option (List Char) := do
  let tail := (cs.reverse.takeWhile (· != '-')).reverse
  let head := cs.take (cs.length - tail.length)
  let basic := head.dropLast
  let rest := if basic.isEmpty then cs else tail
  if basic.any fun c => firstCode ≤ c.toNat then none
  let r ← rest.foldlM readDigit ⟨basic, firstCode, 0, 0, 1, base, initialBias⟩
  if r.atRest then some r.out else none

end Storefront.DomainName.Punycode
