/-! # Universally unique identifiers

A UUID is kept as its thirty-two hexadecimal digits.  It is written in lower case
in groups of eight, four, four, four and twelve; it is read in that form, as bare
digits, in braces, or after `urn:uuid:`, with digits and marker in either case.
The digits themselves are the value, so writing and reading are the same walk over
the groups, once in each direction.
-/
namespace Storefront

/-- A universally unique identifier: thirty-two hexadecimal digits. -/
structure Uuid where
  digits : List (Fin 16)
  length_eq : digits.length = 32
  deriving DecidableEq

namespace Uuid

/-- The identifier all of whose digits are zero. -/
def nil : Uuid := ⟨List.replicate 32 0, rfl⟩

instance : Inhabited Uuid := ⟨nil⟩

/-- The identifier whose last digits write a number. -/
def ofNat (n : Nat) : Uuid :=
  ⟨(List.range 32).reverse.map fun i => Fin.ofNat 16 (n / Nat.pow 16 i), by simp⟩

/-- The lower-case character of a digit. -/
def digitChar (d : Fin 16) : Char :=
  Char.ofNat (if d.val < 10 then 0x30 + d.val else 0x57 + d.val)

/-- The digit that a character of either case stands for. -/
def digit? (c : Char) : Option (Fin 16) :=
  if '0' ≤ c ∧ c ≤ '9' then some (Fin.ofNat 16 (c.toNat - 0x30))
  else if 'a' ≤ c ∧ c ≤ 'f' then some (Fin.ofNat 16 (c.toNat - 0x57))
  else if 'A' ≤ c ∧ c ≤ 'F' then some (Fin.ofNat 16 (c.toNat - 0x37))
  else none

/-- The sizes of the groups that a hyphen follows; the rest is the last group. -/
def groupSizes : List Nat := [8, 4, 4, 4]

/-- The characters with a hyphen after each group. -/
def joinGroups : List Nat → List Char → List Char
  | [], cs => cs
  | n :: sizes, cs => cs.take n ++ '-' :: joinGroups sizes (cs.drop n)

/-- The characters without the hyphens, each of which has to stand after its group. -/
def splitGroups : List Nat → List Char → Option (List Char)
  | [], cs => some cs
  | n :: sizes, cs =>
    match cs.drop n with
    | '-' :: rest => (splitGroups sizes rest).map (cs.take n ++ ·)
    | _ => none

/-- The identifier with the given digits, if they are thirty-two. -/
def ofDigits? (cs : List Char) : Option Uuid := do
  let ds ← cs.mapM digit?
  if h : ds.length = 32 then some ⟨ds, h⟩ else none

/-- Drops a leading text given in lower case, in whatever case it stands. -/
def dropMarker? : List Char → List Char → Option (List Char)
  | [], cs => some cs
  | m :: marker, c :: cs => if c.toLower = m then dropMarker? marker cs else none
  | _ :: _, [] => none

/-- The inside of a pair of braces. -/
def unbrace? (cs : List Char) : Option (List Char) :=
  match cs with
  | '\x7b' :: rest =>
    match rest.reverse with
    | '\x7d' :: inner => some inner.reverse
    | _ => none
  | _ => none

/-- The groups of an identifier without what may stand around them. -/
def core? (cs : List Char) : Option (List Char) :=
  match unbrace? cs with
  | some inner => some inner
  | none =>
    match dropMarker? "urn:uuid:".toList cs with
    | some rest => some rest
    | none => some cs

/-- Reads an identifier: bare digits, or the hyphenated groups by themselves, in
braces or after `urn:uuid:`.  Nothing is trimmed. -/
def parse? (s : String) : Option Uuid :=
  let cs := s.toList
  match ofDigits? cs with
  | some u => some u
  | none => ((core? cs).bind (splitGroups groupSizes)).bind ofDigits?

/-- The lower-case hyphenated form. -/
def text (u : Uuid) : String :=
  String.ofList (joinGroups groupSizes (u.digits.map digitChar))

instance : ToString Uuid := ⟨text⟩

/-- Identifiers are ordered by their digits. -/
def le (u v : Uuid) : Bool :=
  !List.lex (v.digits.map Fin.val) (u.digits.map Fin.val) fun a b => decide (a < b)

theorem digit?_digitChar : ∀ d : Fin 16, digit? (digitChar d) = some d := by decide

theorem mapM_digit?_map (ds : List (Fin 16)) : (ds.map digitChar).mapM digit? = some ds := by
  induction ds with
  | nil => rfl
  | cons d ds ih => simp [digit?_digitChar, ih]

theorem ofDigits?_digits (u : Uuid) : ofDigits? (u.digits.map digitChar) = some u := by
  unfold ofDigits?
  rw [mapM_digit?_map]
  exact dif_pos u.length_eq

/-- Taking the hyphens out again leaves the characters that were grouped. -/
theorem splitGroups_joinGroups (sizes : List Nat) (cs : List Char)
    (h : sizes.foldr (· + ·) 0 ≤ cs.length) :
    splitGroups sizes (joinGroups sizes cs) = some cs := by
  induction sizes generalizing cs with
  | nil => rfl
  | cons n sizes ih =>
    simp only [List.foldr_cons] at h
    have hn : (cs.take n).length = n := by simp; omega
    have hdrop : (cs.take n ++ '-' :: joinGroups sizes (cs.drop n)).drop n =
        '-' :: joinGroups sizes (cs.drop n) := List.drop_left' hn
    have htake : (cs.take n ++ '-' :: joinGroups sizes (cs.drop n)).take n = cs.take n :=
      List.take_left' hn
    have := ih (cs.drop n) (by simp; omega)
    simp [splitGroups, joinGroups, hdrop, htake, this]

end Uuid

end Storefront
