import Storefront.DomainName
import Storefront.IpAddress
import Storefront.Text.Blank
import Storefront.Text.Lowercase

/-! # Email addresses

An address that is entered is trimmed and lower-cased and then has to be a local part,
an at sign and a domain.  The domain is a list of labels, or an internet address in
square brackets, or a name in other scripts whose ASCII form is one of these; the
address keeps the form in which it was entered.

Letters are compared without regard to case, by which the long s and the Kelvin sign
are letters of ASCII too.
-/
namespace Storefront

/-- A customer's email address. -/
structure Email where
  text : String
  deriving DecidableEq, Inhabited

namespace Email

/-- Whether the character is a letter of ASCII, but for its case. -/
def isLetter (c : Char) : Bool := c.isAlpha || c == '\u017F' || c == '\u212A'

/-- Whether the character may stand in a label beside hyphens. -/
def isAlphanumeric (c : Char) : Bool := isLetter c || c.isDigit

/-- Whether the character may stand before the at sign. -/
def isLocal (c : Char) : Bool :=
  isAlphanumeric c || c == '\x60' || ".!#$%&'*+/=?^_\x7b|\x7d~-".toList.contains c

/-- Whether the characters are a label of a domain: at most sixty-three letters, digits
and hyphens, with no hyphen at either end. -/
def isLabel (cs : List Char) : Bool :=
  1 ≤ cs.length && cs.length ≤ 63 && cs.all (fun c => isAlphanumeric c || c == '-') &&
    cs.head? != some '-' && cs.getLast? != some '-'

/-- Whether the character may stand inside the brackets of a literal. -/
def isLiteral (c : Char) : Bool :=
  isLetter c || c.isDigit || c == '\x60' || ":.[\\]^_".toList.contains c

/-- What stands between the brackets at the end, the opening one being the first from
which they can be closed. -/
def literal? (cs : List Char) : Option (List Char) :=
  match cs with
  | [] => none
  | c :: rest =>
    if c = '[' ∧ rest.getLast? = some ']' ∧ rest.dropLast ≠ [] ∧ rest.dropLast.all isLiteral = true
    then some rest.dropLast
    else literal? rest

/-- Whether the characters are labels with points between them, or end in an internet
address in brackets. -/
def isPlainDomain (cs : List Char) : Bool :=
  (DomainName.labels cs).all isLabel ||
    match literal? cs with
    | some inner => IpAddress.isAddress inner
    | none => false

/-- Whether the characters are a domain in any script. -/
def isDomain (cs : List Char) : Bool :=
  isPlainDomain cs ||
    match DomainName.toAscii? cs with
    | some ascii => isPlainDomain ascii
    | none => false

/-- Whether the text is a local part of up to sixty-four characters, an at sign, and a
domain of up to two hundred and fifty-five.  The last at sign is the one that counts. -/
def isValid (s : String) : Bool :=
  let cs := s.toList
  let domain := (cs.reverse.takeWhile (· != '@')).reverse
  let before := cs.take (cs.length - domain.length)
  let localPart := before.dropLast
  !before.isEmpty && localPart.length ≤ 64 && domain.length ≤ 255 && !localPart.isEmpty &&
    localPart.all isLocal && isDomain domain

/-- The address in the form in which it is kept. -/
def normalize (s : String) : String := Text.lowercase (Text.trim s)

/-- Reads an address as it is entered. -/
def parse? (s : String) : Option Email :=
  if isValid (normalize s) then some ⟨normalize s⟩ else none

instance : ToString Email := ⟨text⟩

end Email

end Storefront
