import Storefront.Json.Draft

/-! # Reading values out of drafts

A `Reader` turns a draft into a value of a domain type.  Fields are looked at in the
order in which they stand in the text, so that of two faults the one that comes first
is reported: `malformed` where the text is no JSON, `mismatch` where it is JSON of
another shape.

A record is read from an object, in which unknown fields are passed over and no known
field may stand twice, or from an array of all its fields in their order.  A
`Record α` describes the fields together with what is made of them; records are put
together with `<$>` and `<*>`.
-/
namespace Storefront.Json

/-- Why nothing could be read. -/
inductive Fault where
  | malformed
  | mismatch
  deriving DecidableEq

/-- A way to read values of a type. -/
abbrev Reader (α : Type) := Draft → Except Fault α

/-- What is wrong with a draft of another sort than the one asked for. -/
def Draft.unexpected : Draft → Fault
  | .cut => .malformed
  | .str none => .malformed
  | .real literal => if overflows literal then .malformed else .mismatch
  | _ => .mismatch

namespace Reader

variable {α β : Type}

/-- A string. -/
def string : Reader String
  | .str (some s) => .ok s
  | d => .error d.unexpected

/-- A truth value. -/
def bool : Reader Bool
  | .bool b => .ok b
  | d => .error d.unexpected

/-- An integer between two bounds. -/
def between (low high : Int) : Reader Int
  | .int n => if low ≤ n ∧ n ≤ high then .ok n else .error .mismatch
  | d => .error d.unexpected

/-- An integer of sixty-four bits with sign. -/
def signed : Reader Int := between (-Nat.pow 2 63) (Nat.pow 2 63 - 1)

/-- A count of thirty-two bits. -/
def word : Reader UInt32 := fun d => do
  let n ← between 0 (Nat.pow 2 32 - 1) d
  .ok (UInt32.ofNat n.toNat)

/-- A value or `null`. -/
def nullable (r : Reader α) : Reader (Option α)
  | .null => .ok none
  | d => (r d).map some

/-- An array of values. -/
def list (r : Reader α) : Reader (List α)
  | .arr items => items.mapM r
  | d => .error d.unexpected

/-- A string that stands for a value. -/
def parsed (parse : String → Option α) : Reader α := fun d => do
  match parse (← string d) with
  | some a => .ok a
  | none => .error .mismatch

/-- A value that has to pass a check. -/
def checked (r : Reader β) (check : β → Option α) : Reader α := fun d => do
  match check (← r d) with
  | some a => .ok a
  | none => .error .mismatch

/-- Passes over a value of any shape. -/
def skip : Reader Unit := fun d => if d.intact then .ok () else .error .malformed

/-- The entries of an object whose names stand for keys. -/
def entries (key : String → Option α) (r : Reader β) : Reader (List (α × β))
  | .obj fields => fields.mapM fun (name, d) => do
      match name with
      | none => .error .malformed
      | some name =>
        match key name with
        | none => .error .mismatch
        | some k => .ok (k, ← r d)
  | d => .error d.unexpected

/-- The value that goes with a name. -/
def named (variants : List (String × α)) (name : String) : Except Fault α :=
  match variants.find? fun v => v.1 == name with
  | some v => .ok v.2
  | none => .error .mismatch

/-- `null`; in a part of a document that was put aside, an empty object also counts. -/
def unit (aside : Bool) : Reader Unit
  | .null => .ok ()
  | .obj [] => if aside then .ok () else .error .mismatch
  | d => .error d.unexpected

/-- One of several names, standing alone or as an object that gives it `null`. -/
def choice (variants : List (String × α)) (aside : Bool) : Reader α
  | .str (some name) => named variants name
  | .obj [] => .error .malformed
  | .obj ((none, _) :: _) => .error .malformed
  | .obj ((some name, d) :: rest) => do
    let a ← named variants name
    unit aside d
    if rest.isEmpty then .ok a else .error .malformed
  | d => .error d.unexpected

/-- One of several names, standing as an object that gives it a value. -/
def oneField (variants : List (String × Reader α)) : Reader α
  | .obj [] => .error .malformed
  | .obj ((none, _) :: _) => .error .malformed
  | .obj ((some name, d) :: rest) => do
    let r ← named variants name
    let a ← r d
    if rest.isEmpty then .ok a else .error .malformed
  | d => .error d.unexpected

end Reader

/-! ### Records -/

/-- A field that a record may have: how its value is checked as it is passed, and
whether a record written as an array may stop before it. -/
structure Slot where
  name : String
  check : Reader Unit
  mayLack : Bool

/-- The fields of a record, and what is made of their values. -/
structure Record (α : Type) where
  slots : List Slot
  build : (String → Option Draft) → Except Fault α

namespace Record

variable {α β : Type}

/-- A field that has to be there. -/
def required (name : String) (r : Reader α) : Record α where
  slots := [⟨name, fun d => (r d).map fun _ => (), false⟩]
  build get :=
    match get name with
    | some d => r d
    | none => .error .mismatch

/-- A field that is `none` if it is `null` or not there. -/
def optional (name : String) (r : Reader α) : Record (Option α) where
  slots := [⟨name, fun d => (Reader.nullable r d).map fun _ => (), false⟩]
  build get :=
    match get name with
    | some d => Reader.nullable r d
    | none => .ok none

/-- A field that has a value of its own if it is not there. -/
def defaulting (name : String) (r : Reader α) (absent : α) : Record α where
  slots := [⟨name, fun d => (r d).map fun _ => (), true⟩]
  build get :=
    match get name with
    | some d => r d
    | none => .ok absent

/-- A function applied to what is made of the fields. -/
def map (f : α → β) (r : Record α) : Record β where
  slots := r.slots
  build get := (r.build get).map f

/-- Two groups of fields, the first of which makes a function. -/
def seq (f : Record (α → β)) (r : Record α) : Record β where
  slots := f.slots ++ r.slots
  build get := do
    let g ← f.build get
    let a ← r.build get
    .ok (g a)

instance : Functor Record where
  map := map

instance : Seq Record where
  seq f r := seq f (r ())

/-- The known fields of an object, looked at in the order of the text. -/
def ofFields (slots : List Slot) :
    List (Option String × Draft) → List (String × Draft) → Except Fault (List (String × Draft))
  | [], found => .ok found
  | (none, _) :: _, _ => .error .malformed
  | (some name, d) :: rest, found =>
    match slots.find? fun s => s.name == name with
    | none => do
      Reader.skip d
      ofFields slots rest found
    | some slot =>
      if found.any fun f => f.1 == name then .error .mismatch
      else do
        slot.check d
        ofFields slots rest (found ++ [(name, d)])

/-- The fields of a record that is written as an array. -/
def ofItems : List Slot → List Draft → Except Fault (List (String × Draft))
  | [], [] => .ok []
  | [], _ :: _ => .error .malformed
  | slot :: slots, [] => if slot.mayLack then ofItems slots [] else .error .mismatch
  | slot :: slots, d :: rest => do
    slot.check d
    let found ← ofItems slots rest
    .ok ((slot.name, d) :: found)

/-- Looks a field up among those that were found. -/
def look (found : List (String × Draft)) (name : String) : Option Draft :=
  (found.find? fun f => f.1 == name).map Prod.snd

/-- Reads the record from an object or from an array. -/
def read (r : Record α) : Reader α
  | .obj fields => do
    let found ← ofFields r.slots fields []
    r.build (look found)
  | .arr items => do
    let found ← ofItems r.slots items
    r.build (look found)
  | d => .error d.unexpected

end Record

/-! ### Tagged values

A value of one of several shapes is an object with the name of its shape under `type`
and its content under `data`, or an array of the two.  If the content stands before
the name it is put aside until the name is known. -/

/-- How the content of a shape is read, given whether it was put aside. -/
abbrev Shapes (α : Type) := List (String × (Bool → Reader α))

namespace Shapes

variable {α : Type}

/-- What was found of a tagged value so far. -/
inductive Found (α : Type) where
  | nothing
  | shape (read : Bool → Reader α)
  | content (d : Draft)
  | whole (a : α)

/-- How deep the content of a tagged value may nest if it is put aside: the value itself
stands three levels deep in a document. -/
def asideDepth : Nat := maxDepth - 3

/-- One more field of a tagged value. -/
def step (shapes : Shapes α) (found : Found α) (name : String) (d : Draft) :
    Except Fault (Found α) :=
  if name = "type" then
    match found with
    | .nothing => (Reader.choice shapes false d).map Found.shape
    | .content c => do
      let read ← Reader.choice shapes false d
      (read true c).map Found.whole
    | _ => .error .mismatch
  else if name = "data" then
    match found with
    | .nothing =>
      match d.toJson? asideDepth with
      | some _ => .ok (.content d)
      | none => .error .malformed
    | .shape read => (read false d).map Found.whole
    | _ => .error .mismatch
  else do
    Reader.skip d
    .ok found

/-- The fields of a tagged value, looked at in the order of the text. -/
def ofFields (shapes : Shapes α) :
    List (Option String × Draft) → Found α → Except Fault (Found α)
  | [], found => .ok found
  | (none, _) :: _, _ => .error .malformed
  | (some name, d) :: rest, found => do ofFields shapes rest (← step shapes found name d)

/-- Reads a tagged value. -/
def read (shapes : Shapes α) : Reader α
  | .obj fields => do
    match ← ofFields shapes fields .nothing with
    | .whole a => .ok a
    | _ => .error .mismatch
  | .arr [] => .error .mismatch
  | .arr (name :: items) => do
    let read ← Reader.named shapes (← Reader.string name)
    match items with
    | [] => .error .mismatch
    | d :: rest =>
      let a ← read false d
      if rest.isEmpty then .ok a else .error .malformed
  | d => .error d.unexpected

end Shapes

end Storefront.Json
