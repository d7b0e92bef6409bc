/-! # Bytes and characters

Text in the UTF-8 form is read character by character.  Where bytes are no character,
the longest run that could still have begun one counts as one fault, and reading goes on
behind it.
-/
namespace Storefront.Text.Utf8

/-- The shape of a character that begins with a given byte: its length in bytes, the
bits that the first byte holds, and the bounds of the second byte. -/
structure Lead where
  length : Nat
  bits : Nat
  low : Nat
  high : Nat

/-- The shape of a character of several bytes by the first of them. -/
def lead? (b : Nat) : Option Lead :=
  if 0xC2 ≤ b ∧ b ≤ 0xDF then some ⟨2, b - 0xC0, 0x80, 0xBF⟩
  else if b = 0xE0 then some ⟨3, 0, 0xA0, 0xBF⟩
  else if b = 0xED then some ⟨3, 0xD, 0x80, 0x9F⟩
  else if 0xE1 ≤ b ∧ b ≤ 0xEF then some ⟨3, b - 0xE0, 0x80, 0xBF⟩
  else if b = 0xF0 then some ⟨4, 0, 0x90, 0xBF⟩
  else if 0xF1 ≤ b ∧ b ≤ 0xF3 then some ⟨4, b - 0xF0, 0x80, 0xBF⟩
  else if b = 0xF4 then some ⟨4, 4, 0x80, 0x8F⟩
  else none

/-- The later bytes of a character, of which `count` are missing.  The first of them has
to lie within bounds.  Gives the code point, unless a byte does not fit, and how many
bytes belong together. -/
def tail (count bits low high taken : Nat) : List UInt8 → Option Nat × Nat
  | [] => (if count = 0 then some bits else none, taken)
  | b :: rest =>
    if count = 0 then (some bits, taken)
    else if low ≤ b.toNat ∧ b.toNat ≤ high then
      tail (count - 1) (bits * 0x40 + (b.toNat - 0x80)) 0x80 0xBF (taken + 1) rest
    else (none, taken)

/-- The first character, unless the bytes begin with a fault, and how many bytes belong
to it or to the fault. -/
def first (b : UInt8) (rest : List UInt8) : Option Char × Nat :=
  if b.toNat < 0x80 then (some (Char.ofNat b.toNat), 1)
  else
    match lead? b.toNat with
    | none => (none, 1)
    | some l =>
      let (code, taken) := tail (l.length - 1) l.bits l.low l.high 1 rest
      (code.map Char.ofNat, taken)

/-- The characters of some bytes, a fault being no character. -/
def decode (bytes : List UInt8) : List (Option Char) :=
  match bytes with
  | [] => []
  | b :: rest => (first b rest).1 :: decode (rest.drop ((first b rest).2 - 1))
termination_by bytes.length
decreasing_by simp only [List.length_cons, List.length_drop]; omega

/-- The text of some bytes, if they are one. -/
def ofBytes? (bytes : List UInt8) : Option String := ((decode bytes).mapM id).map String.ofList

/-- The text of some bytes, with a replacement character for each fault. -/
def ofBytesLossy (bytes : List UInt8) : String :=
  String.ofList ((decode bytes).map fun c => c.getD '\uFFFD')

/-- The bytes of a text. -/
def toBytes (s : String) : List UInt8 := s.toUTF8.toList

end Storefront.Text.Utf8
