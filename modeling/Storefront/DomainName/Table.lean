/-! # Tables of code points

The tables of character properties are texts of words between blanks and line ends,
each word naming code points in hexadecimal.  This module takes such texts apart.
-/
namespace Storefront.DomainName.Table

/-- The words between blanks and line ends; the last of them is still being read. -/
def wordsFrom (word : List Char) : List Char → List (List Char)
  | [] => [word.reverse]
  | c :: rest =>
    if c == ' ' || c == '\n' then word.reverse :: wordsFrom [] rest
    else wordsFrom (c :: word) rest

/-- The words of a text. -/
def words (text : String) : List (List Char) :=
  (wordsFrom [] text.toList).filter fun w => !w.isEmpty

/-- The number that hexadecimal capitals write. -/
def hex (cs : List Char) : Nat :=
  cs.foldl (fun n c => n * 16 + (if c.isDigit then c.toNat - 0x30 else c.toNat - 0x37)) 0

/-- What stands before the first of a character, and what behind it. -/
def cut (c : Char) (cs : List Char) : List Char × List Char :=
  (cs.takeWhile (· != c), (cs.dropWhile (· != c)).drop 1)

/-- The parts between the points of a word. -/
def parts (cs : List Char) : List (List Char) :=
  words (String.ofList (cs.map fun c => if c == '.' then ' ' else c))

/-- A range of code points, or a single one. -/
def range (cs : List Char) : Nat × Nat :=
  let (a, b) := cut '-' cs
  (hex a, if b.isEmpty then hex a else hex b)

/-- The ranges that a text names. -/
def ranges (text : String) : List (Nat × Nat) := (words text).map range

/-- Whether one of the ranges holds the code point. -/
def holds (rs : List (Nat × Nat)) (n : Nat) : Bool := rs.any fun r => r.1 ≤ n && n ≤ r.2

/-- Code points with what belongs to each of them. -/
def assignments (text : String) : List (Nat × List Nat) :=
  (words text).map fun w =>
    let (key, target) := cut ':' w
    (hex key, (parts target).map hex)

/-- Ranges with a number that belongs to each of them. -/
def classes (text : String) : List ((Nat × Nat) × Nat) :=
  (words text).map fun w =>
    let (key, target) := cut ':' w
    (range key, hex target)

end Storefront.DomainName.Table
