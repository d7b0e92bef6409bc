import Storefront.DomainName.MappingTable
import Storefront.DomainName.Table

/-! # Mapping the characters of a domain name

Each character of a domain name stays, is left out, becomes one or more others, or is
not allowed.
-/
namespace Storefront.DomainName

/-- How the code points of a run are mapped. -/
inductive RunKind where
  | consecutive
  | alternate
  | constant

/-- A run of code points that are mapped alike. -/
structure MappedRun where
  first : Nat
  last : Nat
  kind : RunKind
  target : List Nat

namespace MappedRun

/-- Reads one word of the table. -/
def ofWord (w : List Char) : MappedRun :=
  let (key, target) := Table.cut ':' w
  let target := (Table.parts target).map Table.hex
  let make (mark : Char) (kind : RunKind) : Option MappedRun :=
    if key.contains mark then
      let (a, b) := Table.cut mark key
      some ⟨Table.hex a, Table.hex b, kind, target⟩
    else none
  ((make '+' .consecutive).or ((make '*' .alternate).or (make '=' .constant))).getD
    ⟨Table.hex key, Table.hex key, .constant, target⟩

/-- What the run makes of a code point, if it is one of its own. -/
def map? (r : MappedRun) (n : Nat) : Option (List Nat) :=
  if n < r.first ∨ r.last < n then none
  else
    match r.kind with
    | .consecutive => some (r.target.map (· + (n - r.first)))
    | .alternate =>
      if (n - r.first) % 2 = 0 then some (r.target.map (· + (n - r.first))) else none
    | .constant => some r.target

end MappedRun

/-- The ranges of characters that stay. -/
def keptRanges : List (Nat × Nat) := Table.ranges MappingTable.kept

/-- The ranges of characters that are left out. -/
def ignoredRanges : List (Nat × Nat) := Table.ranges MappingTable.ignored

/-- The runs of characters that become others. -/
def mappedRuns : List MappedRun :=
  (Table.words MappingTable.mappedBasic ++ Table.words MappingTable.mappedSymbols ++
    Table.words MappingTable.mappedIdeographs ++ Table.words MappingTable.mappedPlanes).map
    MappedRun.ofWord

/-- Whether a character stays as it is. -/
def isKept (c : Char) : Bool := Table.holds keptRanges c.toNat

/-- What becomes of a character, unless it is not allowed. -/
def mapChar? (c : Char) : Option (List Char) :=
  if isKept c then some [c]
  else if Table.holds ignoredRanges c.toNat then some []
  else (mappedRuns.findSome? (·.map? c.toNat)).map fun ns => ns.map Char.ofNat

/-- What becomes of the characters of a name, if all of them are allowed. -/
def mapChars? (cs : List Char) : Option (List Char) := (cs.mapM mapChar?).map List.flatten

end Storefront.DomainName
