import Storefront.DomainName.CanonicalTable
import Storefront.DomainName.Table

/-! # Composed canonical form

Equivalent spellings of one text have the same composed canonical form (NFC): every
character is taken apart, marks are put in the order of their combining classes, and
what composes is composed again.
-/
namespace Storefront.DomainName

/-- The pairs of characters that compose another. -/
def compositePairs : List (Nat × List Nat) := Table.assignments CanonicalTable.composites

/-- What the characters that can be taken apart consist of. -/
def decompositions : List (Nat × List Nat) :=
  compositePairs ++ Table.assignments CanonicalTable.decomposed

/-- The ranges of characters with combining classes other than zero. -/
def classRanges : List ((Nat × Nat) × Nat) := Table.classes CanonicalTable.combiningClasses

/-- The ranges of combining marks. -/
def markRanges : List (Nat × Nat) := Table.ranges CanonicalTable.marks

/-- Whether a character is a combining mark. -/
def isMark (c : Char) : Bool := Table.holds markRanges c.toNat

/-- The combining class of a code point. -/
def combiningClass (n : Nat) : Nat :=
  ((classRanges.find? fun r => r.1.1 ≤ n && n ≤ r.1.2).map Prod.snd).getD 0

/-! ### Syllables of Hangul -/

/-- The number of syllables. -/
def syllableCount : Nat := 11172

/-- Takes a syllable of Hangul apart. -/
def decomposeSyllable? (n : Nat) : Option (List Nat) :=
  if 0xAC00 ≤ n ∧ n < 0xAC00 + syllableCount then
    let s := n - 0xAC00
    let lead := 0x1100 + s / 588
    let vowel := 0x1161 + s % 588 / 28
    if s % 28 = 0 then some [lead, vowel] else some [lead, vowel, 0x11A7 + s % 28]
  else none

/-- Composes a leading consonant with a vowel, or such a syllable with a final one. -/
def composeSyllable? (a b : Nat) : Option Nat :=
  if 0x1100 ≤ a ∧ a < 0x1113 ∧ 0x1161 ≤ b ∧ b < 0x1176 then
    some (0xAC00 + ((a - 0x1100) * 21 + (b - 0x1161)) * 28)
  else if 0xAC00 ≤ a ∧ a < 0xAC00 + syllableCount ∧ (a - 0xAC00) % 28 = 0 ∧ 0x11A7 < b ∧
      b < 0x11C3 then
    some (a + (b - 0x11A7))
  else none

/-! ### The form -/

/-- What a code point consists of once nothing can be taken apart any more.  No
character is taken apart more often than `depth` times. -/
def decompose (depth : Nat) (n : Nat) : List Nat :=
  match depth with
  | 0 => [n]
  | depth + 1 =>
    match decomposeSyllable? n with
    | some parts => parts
    | none =>
      match decompositions.find? fun d => d.1 == n with
      | some d => d.2.flatMap (decompose depth)
      | none => [n]

/-- Puts a mark before others that follow it, behind those of lower class. -/
def insertMark (n : Nat) : List Nat → List Nat
  | [] => [n]
  | m :: rest =>
    if combiningClass m ≠ 0 ∧ combiningClass m < combiningClass n then m :: insertMark n rest
    else n :: m :: rest

/-- Puts the marks behind each letter in the order of their classes. -/
def orderMarks (ns : List Nat) : List Nat :=
  ns.foldr (fun n rest => if combiningClass n = 0 then n :: rest else insertMark n rest) []

/-- What two code points compose. -/
def compose? (a b : Nat) : Option Nat :=
  (composeSyllable? a b).or ((compositePairs.find? fun d => d.2 == [a, b]).map Prod.fst)

/-- Composes marks with the letter before them.  `marks` are those since the letter that
did not compose, latest first; one that follows a mark of its own class or a higher one
does not reach the letter. -/
def composeFrom (letter : Nat) (marks : List Nat) : List Nat → List Nat
  | [] => letter :: marks.reverse
  | n :: rest =>
    let reaches := match marks with
      | [] => true
      | m :: _ => combiningClass m < combiningClass n
    match if reaches then compose? letter n else none with
    | some whole => composeFrom whole marks rest
    | none =>
      if combiningClass n = 0 then letter :: marks.reverse ++ composeFrom n [] rest
      else composeFrom letter (n :: marks) rest

/-- The composed canonical form. -/
def canonical (cs : List Char) : List Char :=
  let parts := orderMarks (cs.flatMap fun c => decompose 8 c.toNat)
  let leading := parts.takeWhile fun n => combiningClass n != 0
  let composed := match parts.drop leading.length with
    | [] => []
    | n :: rest => composeFrom n [] rest
  (leading ++ composed).map Char.ofNat

end Storefront.DomainName
