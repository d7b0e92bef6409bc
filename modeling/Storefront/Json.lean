/-! # JSON values

A JSON value as it is written.  Integers that fit a signed or an unsigned
sixty-four-bit word are kept as integers; every other number is kept as its literal,
because nothing in a store ever counts with one.  The fields of an object keep the
order in which they were given.
-/
namespace Storefront

/-- A JSON value. -/
inductive Json where
  | null
  | bool (b : Bool)
  | int (n : Int)
  | real (literal : String)
  | str (s : String)
  | arr (items : List Json)
  | obj (fields : List (String × Json))

namespace Json

instance : Inhabited Json := ⟨null⟩

/-- A natural number as a value. -/
def nat (n : Nat) : Json := int n

/-- A word of thirty-two bits as a value. -/
def word (n : UInt32) : Json := nat n.toNat

/-- A value that may be absent, absence being `null`. -/
def option {α : Type} (write : α → Json) : Option α → Json
  | none => null
  | some a => write a

/-- A list of values. -/
def list {α : Type} (write : α → Json) (xs : List α) : Json := arr (xs.map write)

/-- The last field of the given name, if the value is an object that has one. -/
def get? (j : Json) (name : String) : Option Json :=
  match j with
  | obj fields => (fields.reverse.find? fun f => f.1 == name).map Prod.snd
  | _ => none

/-- The characters of one hexadecimal digit, in lower case. -/
def hexChar (n : Nat) : Char := Char.ofNat (if n < 10 then 0x30 + n else 0x57 + n)

/-- A character as it stands between the quotes of a string. -/
def escapeChar (c : Char) : List Char :=
  if c = '"' then ['\\', '"']
  else if c = '\\' then ['\\', '\\']
  else if c = '\n' then ['\\', 'n']
  else if c = '\r' then ['\\', 'r']
  else if c = '\t' then ['\\', 't']
  else if c.toNat = 8 then ['\\', 'b']
  else if c.toNat = 12 then ['\\', 'f']
  else if c.toNat < 0x20 then
    ['\\', 'u', '0', '0', hexChar (c.toNat / 16), hexChar (c.toNat % 16)]
  else [c]

/-- A string in its quotes. -/
def quote (s : String) : String := String.ofList ('"' :: s.toList.flatMap escapeChar ++ ['"'])

mutual

/-- The value as text, without any white space. -/
def text : Json → String
  | null => "null"
  | bool true => "true"
  | bool false => "false"
  | int n => toString n
  | real literal => literal
  | str s => quote s
  | arr items => "[" ++ textItems items ++ "]"
  | obj fields => "\x7b" ++ textFields fields ++ "\x7d"

/-- The items of an array, separated by commas. -/
def textItems : List Json → String
  | [] => ""
  | [j] => text j
  | j :: rest => text j ++ "," ++ textItems rest

/-- The fields of an object, separated by commas. -/
def textFields : List (String × Json) → String
  | [] => ""
  | [(k, j)] => quote k ++ ":" ++ text j
  | (k, j) :: rest => quote k ++ ":" ++ text j ++ "," ++ textFields rest

end

/-- The fields with one more, which replaces a field of its name; names ascend. -/
def insertField (name : String) (j : Json) : List (String × Json) → List (String × Json)
  | [] => [(name, j)]
  | (k, v) :: rest =>
    if name = k then (name, j) :: rest
    else if name < k then (name, j) :: (k, v) :: rest
    else (k, v) :: insertField name j rest

end Json

end Storefront
