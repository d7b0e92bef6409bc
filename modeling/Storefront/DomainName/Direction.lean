import Storefront.DomainName.DirectionTable
import Storefront.DomainName.Table

/-! # Labels that run from right to left

As soon as one label of a name runs from right to left, every label of the name has to
be readable beside it: it begins with a letter, holds only characters that go with its
direction, ends in a letter or a digit but for marks, and does not mix the two sorts of
digits (RFC 5893).
-/
namespace Storefront.DomainName

/-- The bidirectional class of a character; `other` stands for those that no label may
hold. -/
inductive Direction where
  | left
  | right
  | arabicLetter
  | europeanNumber
  | europeanSeparator
  | europeanTerminator
  | arabicNumber
  | commonSeparator
  | nonspacingMark
  | boundaryNeutral
  | otherNeutral
  | other
  deriving DecidableEq

namespace Direction

/-- The ranges of each class. -/
def table : List (Direction × List (Nat × Nat)) :=
  [(left, DirectionTable.left), (right, DirectionTable.right),
    (arabicLetter, DirectionTable.arabicLetter),
    (europeanNumber, DirectionTable.europeanNumber),
    (europeanSeparator, DirectionTable.europeanSeparator),
    (europeanTerminator, DirectionTable.europeanTerminator),
    (arabicNumber, DirectionTable.arabicNumber),
    (commonSeparator, DirectionTable.commonSeparator),
    (nonspacingMark, DirectionTable.nonspacingMark),
    (boundaryNeutral, DirectionTable.boundaryNeutral),
    (otherNeutral, DirectionTable.otherNeutral)].map fun (d, text) => (d, Table.ranges text)

/-- The class of a character. -/
def of (c : Char) : Direction :=
  ((table.find? fun row => Table.holds row.2 c.toNat).map Prod.fst).getD other

/-- Whether the class makes a label run from right to left. -/
def isRightward : Direction → Bool
  | right | arabicLetter | arabicNumber => true
  | _ => false

/-- Whether the class goes with either direction. -/
def isShared : Direction → Bool
  | europeanNumber | europeanSeparator | commonSeparator | europeanTerminator | otherNeutral
  | boundaryNeutral | nonspacingMark => true
  | _ => false

/-- The classes of a label without the marks at its end, last first. -/
def ending (ds : List Direction) : List Direction := ds.reverse.dropWhile (· == nonspacingMark)

/-- Whether a label of the given classes is readable in a name that runs from right to
left. -/
def readable (ds : List Direction) : Bool :=
  match ds with
  | [] => true
  | left :: rest =>
    rest.all (fun d => d == left || d.isShared) &&
      match ending ds with
      | [] => true
      | d :: _ => d == left || d == europeanNumber
  | right :: rest | arabicLetter :: rest =>
    rest.all (fun d => d.isRightward || d.isShared) &&
      (match ending ds with
        | [] => false
        | d :: _ => d.isRightward || d == europeanNumber) &&
      !(rest.contains europeanNumber && rest.contains arabicNumber)
  | _ => false

end Direction

/-- Whether a label runs from right to left. -/
def runsRightward (cs : List Char) : Bool := cs.any fun c => (Direction.of c).isRightward

/-- Whether a label is readable in a name that runs from right to left. -/
def readableRightward (cs : List Char) : Bool := Direction.readable (cs.map Direction.of)

end Storefront.DomainName
