/-! # Internet addresses

Which texts are addresses of version 4 or version 6.  The value of an address is never
needed, only whether the text is one, so each reader gives back the text behind what
it read.

A version 4 address is four numbers up to 255 without leading zeros.  A version 6
address is eight groups of up to four hexadecimal digits, the last two of which may be
written as a version 4 address, and one run of zero groups may be left out.
-/
namespace Storefront.IpAddress

/-- Whether the character is a hexadecimal digit. -/
def isHexDigit (c : Char) : Bool :=
  c.isDigit || ('a' ≤ c && c ≤ 'f') || ('A' ≤ c && c ≤ 'F')

/-- A number up to 255 without leading zeros. -/
def octet? (cs : List Char) : Option (List Char) :=
  let ds := cs.takeWhile Char.isDigit
  let value := ds.foldl (fun n c => n * 10 + (c.toNat - 0x30)) 0
  if ds.isEmpty || 3 < ds.length || (1 < ds.length && ds.head? == some '0') || 255 < value then none
  else some (cs.drop ds.length)

/-- A given character. -/
def sign? (c : Char) (cs : List Char) : Option (List Char) :=
  match cs with
  | d :: rest => if c = d then some rest else none
  | [] => none

/-- Four octets with points between them. -/
def dotted? (cs : List Char) : Option (List Char) := do
  let cs ← octet? cs
  let cs ← octet? (← sign? '.' cs)
  let cs ← octet? (← sign? '.' cs)
  octet? (← sign? '.' cs)

/-- One to four hexadecimal digits. -/
def group? (cs : List Char) : Option (List Char) :=
  let ds := cs.takeWhile isHexDigit
  if ds.isEmpty || 4 < ds.length then none else some (cs.drop ds.length)

/-- The colon before every group but the first. -/
def separated? (first : Bool) (cs : List Char) : Option (List Char) :=
  if first then some cs else sign? ':' cs

/-- As many groups as there are, at most `limit`: how many were read, whether the last
two were written as a version 4 address, and the text behind them. -/
def groups (limit : Nat) (first : Bool) (cs : List Char) : Nat × Bool × List Char :=
  match limit with
  | 0 => (0, false, cs)
  | limit + 1 =>
    match if limit = 0 then none else (separated? first cs).bind dotted? with
    | some rest => (2, true, rest)
    | none =>
      match (separated? first cs).bind group? with
      | some rest =>
        let (n, dotted, behind) := groups limit false rest
        (n + 1, dotted, behind)
      | none => (0, false, cs)

/-- A version 6 address. -/
def six? (cs : List Char) : Option (List Char) := do
  let (n, dotted, cs) := groups 8 true cs
  if n = 8 then some cs
  else if dotted then none
  else
    let cs ← sign? ':' (← sign? ':' cs)
    let (_, _, cs) := groups (8 - (n + 1)) true cs
    some cs

/-- Whether the text is an address. -/
def isAddress (cs : List Char) : Bool :=
  match dotted? cs with
  | some rest => rest.isEmpty
  | none =>
    match six? cs with
    | some rest => rest.isEmpty
    | none => false

end Storefront.IpAddress
