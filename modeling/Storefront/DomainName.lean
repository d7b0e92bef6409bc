import Storefront.DomainName.Canonical
import Storefront.DomainName.Direction
import Storefront.DomainName.Mapping
import Storefront.DomainName.Punycode

/-! # Domain names in ASCII

A domain name may be written in any script; on the wire each label that is not ASCII
is replaced by `xn--` and its Punycode.  Before that the characters are mapped and put
into composed canonical form, labels that are already encoded are decoded, and every
label is checked (UTS #46, without the rules for host names and lengths).
-/
namespace Storefront.DomainName

/-- What an encoded label begins with. -/
def marker : List Char := "xn--".toList

/-- The parts between the points. -/
def labels (cs : List Char) : List (List Char) :=
  match cs with
  | [] => [[]]
  | c :: rest =>
    if c = '.' then [] :: labels rest
    else
      match labels rest with
      | [] => [[c]]
      | l :: ls => (c :: l) :: ls

/-- The name of the given labels. -/
def ofLabels (ls : List (List Char)) : List Char := List.intercalate ['.'] ls

/-- Whether a label begins with no combining mark and holds only characters that stay
as they are. -/
def isValidLabel (cs : List Char) : Bool :=
  match cs with
  | [] => true
  | c :: _ => !isMark c && cs.all isKept

/-- A label after the mapping: one that is encoded is decoded, and has to be in
canonical form.  The second part says whether it may be part of a name. -/
def decodeLabel? (cs : List Char) : Option (List Char) :=
  if marker.isPrefixOf cs then
    match Punycode.decode? (cs.drop marker.length) with
    | some decoded => if canonical decoded = decoded ∧ isValidLabel decoded then some decoded else none
    | none => none
  else if isValidLabel cs then some cs
  else none

/-- A label in ASCII. -/
def encodeLabel (cs : List Char) : List Char :=
  if cs.all fun c => c.toNat < 0x80 then cs else marker ++ Punycode.encode cs

/-- The name in ASCII, if it is one. -/
def toAscii? (cs : List Char) : Option (List Char) := do
  let mapped ← mapChars? cs
  let decoded ← (labels (canonical mapped)).mapM decodeLabel?
  if decoded.any runsRightward && !decoded.all readableRightward then none
  some (ofLabels (decoded.map encodeLabel))

end Storefront.DomainName
