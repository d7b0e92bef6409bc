import Storefront.Text.Utf8

/-! # Request targets

The target of a request is a path and perhaps a query.  The path is cut into segments
before any of them is decoded, so that an encoded slash does not cut.  A query is a
form: fields with `&` between them, names and values with `=` between them, `+` for a
blank, and percent signs before encoded bytes.
-/
namespace Storefront.Http

open Text

/-- The value of a hexadecimal digit. -/
def hexValue? (b : UInt8) : Option UInt8 :=
  if 0x30 ≤ b ∧ b ≤ 0x39 then some (b - 0x30)
  else if 0x41 ≤ b ∧ b ≤ 0x46 then some (b - 0x37)
  else if 0x61 ≤ b ∧ b ≤ 0x66 then some (b - 0x57)
  else none

/-- The bytes with percent-encoded ones decoded; a percent sign that stands before
anything else stands for itself. -/
def percentDecode : List UInt8 → List UInt8
  | 0x25 :: a :: b :: rest =>
    match hexValue? a, hexValue? b with
    | some x, some y => (x * 16 + y) :: percentDecode rest
    | _, _ => 0x25 :: percentDecode (a :: b :: rest)
  | b :: rest => b :: percentDecode rest
  | [] => []
termination_by bytes => bytes.length

/-- A segment of a path, decoded; it has to be text. -/
def decodeSegment? (segment : String) : Option String :=
  Utf8.ofBytes? (percentDecode (Utf8.toBytes segment))

/-- A name or a value of a form, decoded; what is no text is replaced. -/
def decodeField (field : List Char) : String :=
  let plain := field.map fun c => if c = '+' then ' ' else c
  Utf8.ofBytesLossy (percentDecode (Utf8.toBytes (String.ofList plain)))

/-- The parts between the places where a character stands. -/
def splitAt (c : Char) (cs : List Char) : List (List Char) :=
  match cs with
  | [] => [[]]
  | d :: rest =>
    if d = c then [] :: splitAt c rest
    else
      match splitAt c rest with
      | part :: parts => (d :: part) :: parts
      | [] => [[d]]

/-- The part before the first place where a character stands, and the part behind it. -/
def cutAt (c : Char) (cs : List Char) : List Char × List Char :=
  (cs.takeWhile (· != c), (cs.dropWhile (· != c)).drop 1)

/-- The target of a request. -/
structure Target where
  /-- The segments of the path, not decoded. -/
  segments : List String
  /-- The fields of the query, decoded. -/
  query : List (String × String)
  deriving DecidableEq

namespace Target

/-- The fields of a form. -/
def parseForm (cs : List Char) : List (String × String) :=
  ((splitAt '&' cs).filter fun part => !part.isEmpty).map fun part =>
    let (name, value) := cutAt '=' part
    (decodeField name, decodeField value)

/-- The path and what follows it: a target that names its host is cut behind the host. -/
def originForm (cs : List Char) : List Char :=
  let behindScheme := cs.dropWhile (· != ':')
  match cs, behindScheme with
  | '/' :: _, _ => cs
  | _, ':' :: '/' :: '/' :: rest => rest.dropWhile fun c => c != '/' && c != '?'
  | _, _ => []

/-- The target that a text stands for.  What stands behind a number sign does not count. -/
def parse (text : String) : Target :=
  let (visible, _) := cutAt '#' text.toList
  let (path, query) := cutAt '?' (originForm visible)
  ⟨((splitAt '/' path).drop 1).map String.ofList, parseForm query⟩

end Target

end Storefront.Http
