import Storefront.Text.CaseTable

/-! # Lower case

Lower-casing works letter by letter but for two letters: a capital `I` with a dot
becomes an `i` and a combining dot, and a capital sigma becomes the final form where
it ends a word, that is, where a letter with case stands before it and none after it,
marks and modifiers not counting.
-/
namespace Storefront.Text

/-- Whether a code point lies in one of the ranges. -/
def inRanges (ranges : List (Nat × Nat)) (n : Nat) : Bool :=
  ranges.any fun r => r.1 ≤ n && n ≤ r.2

/-- Whether the character is a letter with case. -/
def isCased (c : Char) : Bool := inRanges CaseTable.cased c.toNat

/-- Whether the character does not count when the ends of a word are looked for. -/
def isCaseIgnorable (c : Char) : Bool := inRanges CaseTable.caseIgnorable c.toNat

/-- The code point that a run gives to one of its own, if it is one. -/
def CaseTable.Run.lower? (r : Run) (n : Nat) : Option Nat :=
  if r.first ≤ n ∧ n ≤ r.last ∧ (n - r.first) % r.step = 0 then some (r.target + (n - r.first))
  else none

/-- The lower-case counterpart of a code point, or itself. -/
def lowerCode (n : Nat) : Nat := (CaseTable.lowerRuns.findSome? (·.lower? n)).getD n

/-- What a character other than a capital sigma becomes. -/
def lowerChar (c : Char) : List Char :=
  if c = '\u0130' then ['i', '\u0307'] else [Char.ofNat (lowerCode c.toNat)]

/-- Whether the first character that counts is a letter with case. -/
def startsCased (cs : List Char) : Bool :=
  match cs.dropWhile isCaseIgnorable with
  | c :: _ => isCased c
  | [] => false

/-- The lower case of the characters that follow others, which are given backwards. -/
def lowerAfter (before : List Char) : List Char → List Char
  | [] => []
  | c :: rest =>
    (if c = '\u03A3' then [if startsCased before && !startsCased rest then '\u03C2' else '\u03C3']
      else lowerChar c) ++ lowerAfter (c :: before) rest

/-- The text in lower case. -/
def lowercase (s : String) : String := String.ofList (lowerAfter [] s.toList)

end Storefront.Text
