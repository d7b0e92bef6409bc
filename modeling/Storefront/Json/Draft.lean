import Storefront.Json

/-! # JSON text, read as far as it goes

Text that arrives from outside may stop being JSON half way, and whoever reads it
for a purpose may find a wrong value before that place or after it.  To report
whichever comes first, text is read into a *draft*: a value tree in which `cut`
stands where the text stops being JSON.  Nothing follows a `cut`.

Two faults do not end the text, and a reader that only passes over a value never
notices them: a string with half a surrogate pair (`str none`), and a number too
large for a floating-point word (`real` with `overflows`).
-/
namespace Storefront.Json

/-- JSON text as far as it could be read. -/
inductive Draft where
  | cut
  | null
  | bool (b : Bool)
  | int (n : Int)
  | real (literal : String)
  | str (s : Option String)
  | arr (items : List Draft)
  | obj (fields : List (Option String × Draft))

namespace Draft

instance : Inhabited Draft := ⟨cut⟩

/-! ### Characters and numbers -/

/-- The text after blanks, tabs and line ends. -/
def skipBlank (cs : List Char) : List Char :=
  cs.dropWhile fun c => c == ' ' || c == '\n' || c == '\t' || c == '\r'

/-- The value of a hexadecimal digit in either case. -/
def hexValue? (c : Char) : Option Nat :=
  if '0' ≤ c ∧ c ≤ '9' then some (c.toNat - 0x30)
  else if 'a' ≤ c ∧ c ≤ 'f' then some (c.toNat - 0x57)
  else if 'A' ≤ c ∧ c ≤ 'F' then some (c.toNat - 0x37)
  else none

/-- The number that four hexadecimal digits stand for. -/
def hexQuad? (a b c d : Char) : Option Nat := do
  let a ← hexValue? a
  let b ← hexValue? b
  let c ← hexValue? c
  let d ← hexValue? d
  some (((a * 16 + b) * 16 + c) * 16 + d)

/-- The character that a one-letter escape stands for. -/
def shortEscape? : Char → Option Char
  | '"' => some '"'
  | '\\' => some '\\'
  | '/' => some '/'
  | 'b' => some (Char.ofNat 8)
  | 'f' => some (Char.ofNat 12)
  | 'n' => some '\n'
  | 'r' => some '\r'
  | 't' => some '\t'
  | _ => none

/-- The character of a surrogate pair. -/
def pairChar (high low : Nat) : Char :=
  Char.ofNat (0x10000 + (high - 0xD800) * 0x400 + (low - 0xDC00))

/-- The low half of a surrogate pair, if the text begins with its escape. -/
def lowHalf? (cs : List Char) : Option Nat :=
  match cs with
  | '\\' :: 'u' :: a :: b :: c :: d :: _ =>
    (hexQuad? a b c d).filter fun n => 0xDC00 ≤ n && n ≤ 0xDFFF
  | _ => none

/-- The rest of a string after its opening quote: what it says, or `none` if it has
half a surrogate pair, and the text behind it.  No answer means that the text stops
being JSON inside the string. -/
def stringBody (cs : List Char) (seen : List Char) (sound : Bool) :
    Option (Option String × List Char) :=
  match cs with
  | [] => none
  | '"' :: rest => some (if sound then some (String.ofList seen.reverse) else none, rest)
  | '\\' :: 'u' :: a :: b :: c :: d :: rest =>
    match hexQuad? a b c d with
    | none => none
    | some n =>
      if n < 0xD800 ∨ 0xDFFF < n then stringBody rest (Char.ofNat n :: seen) sound
      else if 0xDBFF < n then stringBody rest seen false
      else
        match lowHalf? rest with
        | some m => stringBody (rest.drop 6) (pairChar n m :: seen) sound
        | none => stringBody rest seen false
  | '\\' :: c :: rest =>
    match shortEscape? c with
    | some e => stringBody rest (e :: seen) sound
    | none => none
  | c :: rest => if c.toNat < 0x20 then none else stringBody rest (c :: seen) sound
termination_by cs.length
decreasing_by all_goals simp only [List.length_cons, List.length_drop]; omega

/-- The number written by a list of decimal digits. -/
def digitsValue (ds : List Char) : Nat := ds.foldl (fun n c => n * 10 + (c.toNat - 0x30)) 0

/-- A run of at least one decimal digit, and the text behind it. -/
def digits? (cs : List Char) : Option (List Char × List Char) :=
  let ds := cs.takeWhile Char.isDigit
  if ds.isEmpty then none else some (ds, cs.dropWhile Char.isDigit)

/-- A fraction, if one begins here. -/
def fraction? (cs : List Char) : Option (List Char × List Char) :=
  match cs with
  | '.' :: rest => digits? rest
  | _ => some ([], cs)

/-- An exponent with its sign, if one begins here. -/
def exponent? (cs : List Char) : Option (Int × List Char) :=
  let scaled (neg : Bool) (rest : List Char) : Option (Int × List Char) :=
    (digits? rest).map fun (ds, rest) =>
      (if neg then -(digitsValue ds : Int) else digitsValue ds, rest)
  match cs with
  | 'e' :: '+' :: rest | 'E' :: '+' :: rest => scaled false rest
  | 'e' :: '-' :: rest | 'E' :: '-' :: rest => scaled true rest
  | 'e' :: rest | 'E' :: rest => scaled false rest
  | _ => some (0, cs)

/-- A number and the text behind it.  An integer that fits a word is an integer;
minus zero is not. -/
def number? (cs : List Char) : Option (Draft × List Char) := do
  let (neg, unsigned) := match cs with
    | '-' :: rest => (true, rest)
    | _ => (false, cs)
  let (whole, rest) ← digits? unsigned
  if whole.length > 1 ∧ whole.head? = some '0' then none
  let (_, behind) ← fraction? rest
  let (_, behind) ← exponent? behind
  let literal := String.ofList (cs.take (cs.length - behind.length))
  if rest.length = behind.length then
    let n := digitsValue whole
    if neg ∧ 0 < n ∧ n ≤ Nat.pow 2 63 then some (int (-(n : Int)), behind)
    else if ¬ neg ∧ n < Nat.pow 2 64 then some (int n, behind)
    else some (real literal, behind)
  else some (real literal, behind)

/-- Whether a numeral is too large for a floating-point word of sixty-four bits: its
size is at least the midpoint above the largest finite one. -/
def overflows (literal : String) : Bool :=
  let cs := literal.toList.filter (· != '-')
  let whole := cs.takeWhile Char.isDigit
  let afterWhole := cs.dropWhile Char.isDigit
  let frac := ((fraction? afterWhole).map Prod.fst).getD []
  let afterFrac := ((fraction? afterWhole).map Prod.snd).getD []
  let negative := literal.toList.dropWhile fun c => c != 'e' && c != 'E'
  let size := ((exponent? (afterFrac.filter (· != '-'))).map Prod.fst).getD 0
  let exponent : Int := (if negative.contains '-' then -size else size) - frac.length
  let mantissa := digitsValue (whole ++ frac)
  let limit := Nat.pow 2 1024 - Nat.pow 2 970
  if mantissa = 0 then false
  else if exponent ≥ 400 then true
  else if exponent ≥ 0 then decide (mantissa * Nat.pow 10 exponent.toNat ≥ limit)
  else if -exponent > whole.length + frac.length then false
  else decide (mantissa ≥ limit * Nat.pow 10 (-exponent).toNat)

/-! ### Values -/

mutual

/-- One value, and the text behind it unless it was cut. -/
def value (fuel : Nat) (cs : List Char) : Draft × Option (List Char) :=
  match fuel with
  | 0 => (cut, none)
  | fuel + 1 =>
    match skipBlank cs with
    | '\x7b' :: rest =>
      match skipBlank rest with
      | '\x7d' :: rest => (obj [], some rest)
      | rest =>
        let (fields, behind) := fields fuel rest
        (obj fields, behind)
    | '[' :: rest =>
      match skipBlank rest with
      | ']' :: rest => (arr [], some rest)
      | rest =>
        let (items, behind) := items fuel rest
        (arr items, behind)
    | '"' :: rest =>
      match stringBody rest [] true with
      | some (s, rest) => (str s, some rest)
      | none => (cut, none)
    | 'n' :: 'u' :: 'l' :: 'l' :: rest => (null, some rest)
    | 't' :: 'r' :: 'u' :: 'e' :: rest => (bool true, some rest)
    | 'f' :: 'a' :: 'l' :: 's' :: 'e' :: rest => (bool false, some rest)
    | cs =>
      match number? cs with
      | some (n, rest) => (n, some rest)
      | none => (cut, none)

/-- The items of an array that has one, up to its bracket. -/
def items (fuel : Nat) (cs : List Char) : List Draft × Option (List Char) :=
  match fuel with
  | 0 => ([cut], none)
  | fuel + 1 =>
    match value fuel cs with
    | (v, none) => ([v], none)
    | (v, some rest) =>
      match skipBlank rest with
      | ']' :: rest => ([v], some rest)
      | ',' :: rest =>
        let (vs, behind) := items fuel rest
        (v :: vs, behind)
      | _ => ([v, cut], none)

/-- The fields of an object that has one, up to its brace. -/
def fields (fuel : Nat) (cs : List Char) :
    List (Option String × Draft) × Option (List Char) :=
  match fuel with
  | 0 => ([(none, cut)], none)
  | fuel + 1 =>
    match skipBlank cs with
    | '"' :: rest =>
      match stringBody rest [] true with
      | none => ([(none, cut)], none)
      | some (key, rest) =>
        match skipBlank rest with
        | ':' :: rest =>
          match value fuel rest with
          | (v, none) => ([(key, v)], none)
          | (v, some rest) =>
            match skipBlank rest with
            | '\x7d' :: rest => ([(key, v)], some rest)
            | ',' :: rest =>
              let (more, behind) := fields fuel rest
              ((key, v) :: more, behind)
            | _ => ([(key, v), (none, cut)], none)
        | _ => ([(key, cut)], none)
    | _ => ([(none, cut)], none)

end

/-- A text as a draft, and whether nothing but white space stands behind the value. -/
def ofText (s : String) : Draft × Bool :=
  let cs := s.toList
  match value (2 * cs.length + 2) cs with
  | (d, some rest) => (d, (skipBlank rest).isEmpty)
  | (d, none) => (d, false)

/-! ### Drafts and values -/

mutual

/-- Whether the text of the value goes on to its end. -/
def intact : Draft → Bool
  | cut => false
  | arr items => intactItems items
  | obj fields => intactFields fields
  | _ => true

/-- Whether the text of every item goes on to its end. -/
def intactItems : List Draft → Bool
  | [] => true
  | d :: rest => intact d && intactItems rest

/-- Whether the text of every field goes on to its end. -/
def intactFields : List (Option String × Draft) → Bool
  | [] => true
  | (_, d) :: rest => intact d && intactFields rest

end

mutual

/-- The value of a draft without any fault that nests at most `depth` deep.  Fields
are put in order of their names, and of two with one name the later stays. -/
def toJson? (depth : Nat) : Draft → Option Json
  | cut => none
  | null => some .null
  | bool b => some (.bool b)
  | int n => some (.int n)
  | real literal => if overflows literal then none else some (.real literal)
  | str s => s.map .str
  | arr items => if depth = 0 then none else (itemsToJson? (depth - 1) items).map .arr
  | obj fields => if depth = 0 then none else (fieldsToJson? (depth - 1) fields []).map .obj

/-- The values of the items of an array. -/
def itemsToJson? (depth : Nat) : List Draft → Option (List Json)
  | [] => some []
  | d :: rest => do
    let j ← toJson? depth d
    let js ← itemsToJson? depth rest
    some (j :: js)

/-- The values of the fields of an object, added to those already there. -/
def fieldsToJson? (depth : Nat) :
    List (Option String × Draft) → List (String × Json) → Option (List (String × Json))
  | [], found => some found
  | (key, d) :: rest, found => do
    let k ← key
    let j ← toJson? depth d
    fieldsToJson? depth rest (insertField k j found)

end

mutual

/-- The draft that is read from the text of a value. -/
def ofJson : Json → Draft
  | .null => null
  | .bool b => bool b
  | .int n => int n
  | .real literal => real literal
  | .str s => str (some s)
  | .arr items => arr (ofItems items)
  | .obj fields => obj (ofFields fields)

/-- The drafts of the items of an array. -/
def ofItems : List Json → List Draft
  | [] => []
  | j :: rest => ofJson j :: ofItems rest

/-- The drafts of the fields of an object. -/
def ofFields : List (String × Json) → List (Option String × Draft)
  | [] => []
  | (k, j) :: rest => (some k, ofJson j) :: ofFields rest

end

theorem ofItems_eq_map (items : List Json) : ofItems items = items.map ofJson := by
  induction items with
  | nil => rfl
  | cons j rest ih => simp [ofItems, ih]

end Draft

/-- How deep a document may nest. -/
def maxDepth : Nat := 127

/-- Reads a text that is JSON from its first character to its last. -/
def parse? (s : String) : Option Json :=
  let (d, whole) := Draft.ofText s
  if whole then d.toJson? maxDepth else none

end Storefront.Json
