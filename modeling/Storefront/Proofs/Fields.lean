import Mathlib.Algebra.Group.Nat.Defs
import Mathlib.Tactic.Common
import Storefront.Json.Reader

/-! # Fields

A record looks its fields up by their names, so all that matters about a document is
what stands under each name.  `Record.Reads` says what a record makes of a document seen
that way; it is put together as records are, field by field, and whoever wrote all the
fields of a record, each of them once, has written something that is read.
-/
namespace Storefront.Json

variable {α β : Type}

/-- What stands under a name among the fields of a document. -/
def fieldOf (fs : List (String × Json)) (name : String) : Option Json :=
  (fs.find? fun f => f.1 == name).map Prod.snd

theorem fieldOf_of_mem {fs : List (String × Json)} (hnodup : (fs.map Prod.fst).Nodup)
    {name : String} {j : Json} (h : (name, j) ∈ fs) : fieldOf fs name = some j := by
  induction fs with
  | nil => cases h
  | cons f fs ih =>
    rw [List.map_cons, List.nodup_cons] at hnodup
    rcases List.mem_cons.mp h with rfl | h
    · simp [fieldOf]
    · have hne : f.1 ≠ name := by
        rintro rfl
        exact hnodup.1 (List.mem_map.mpr ⟨_, h, rfl⟩)
      simpa [fieldOf, hne] using ih hnodup.2 h

namespace Draft

theorem ofFields_eq_map (fs : List (String × Json)) :
    ofFields fs = fs.map fun f => (some f.1, ofJson f.2) := by
  induction fs with
  | nil => rfl
  | cons f fs ih =>
    obtain ⟨k, j⟩ := f
    simp [ofFields, ih]

end Draft

open Draft (ofJson)

/-! ### Single values -/

namespace Reader

/-- That a reader makes a value of what was written. -/
def Reads (r : Reader α) (j : Json) (a : α) : Prop := r (ofJson j) = .ok a

theorem reads_string (s : String) : string.Reads (.str s) s := rfl

theorem reads_bool (b : Bool) : bool.Reads (.bool b) b := rfl

theorem reads_word (n : UInt32) : word.Reads (.word n) n := by
  have hlow : (0 : Int) ≤ n.toNat := Int.natCast_nonneg _
  have hhigh : (n.toNat : Int) ≤ Nat.pow 2 32 - 1 := by
    have := n.toNat_lt
    change (n.toNat : Int) ≤ ((2 ^ 32 : Nat) : Int) - 1
    omega
  simp only [Reads, word, Json.word, nat, ofJson, between]
  rw [if_pos ⟨hlow, hhigh⟩]
  simp [Bind.bind, Except.bind]

theorem reads_signed {n : Nat} (h : n < 2 ^ 63) : signed.Reads (.nat n) n := by
  have hlow : -(Nat.pow 2 63 : Int) ≤ n := by
    change -((2 ^ 63 : Nat) : Int) ≤ n
    omega
  have hhigh : (n : Int) ≤ Nat.pow 2 63 - 1 := by
    change (n : Int) ≤ ((2 ^ 63 : Nat) : Int) - 1
    omega
  simp only [Reads, signed, nat, ofJson, between]
  exact if_pos ⟨hlow, hhigh⟩

theorem reads_parsed {parse : String → Option α} {s : String} {a : α} (h : parse s = some a) :
    (parsed parse).Reads (.str s) a := by
  simp [Reads, parsed, ofJson, string, Bind.bind, Except.bind, h]

theorem Reads.checked {r : Reader β} {check : β → Option α} {j : Json} {b : β} {a : α}
    (h : r.Reads j b) (hcheck : check b = some a) : (checked r check).Reads j a := by
  unfold Reads at h
  simp [Reads, Reader.checked, h, Bind.bind, Except.bind, hcheck]

/-- A value that may be absent is read back if no value of its sort is written as
absence is. -/
theorem reads_nullable {r : Reader α} {write : α → Json} (hnull : ∀ a, write a ≠ .null)
    (h : ∀ a, r.Reads (write a) a) (o : Option α) : (nullable r).Reads (.option write o) o := by
  cases o with
  | none => rfl
  | some a =>
    have hread : r (ofJson (write a)) = .ok a := h a
    have hsome : ofJson (write a) ≠ .null := by
      intro heq
      refine hnull a ?_
      cases hw : write a <;> simp [hw, ofJson] at heq
      rfl
    simp only [Reads, option]
    unfold nullable
    split
    · next heq => exact absurd heq hsome
    · rw [hread]
      rfl

theorem reads_list {r : Reader α} {write : α → Json} (h : ∀ a, r.Reads (write a) a)
    (xs : List α) : (list r).Reads (.list write xs) xs := by
  have hitems : ((xs.map write).map ofJson).mapM r = .ok xs := by
    induction xs with
    | nil => rfl
    | cons x xs ih =>
      have hx : r (ofJson (write x)) = .ok x := h x
      simp only [List.map_cons, List.mapM_cons, hx, ih]
      rfl
  simpa [Reads, Json.list, list, ofJson, Draft.ofItems_eq_map] using hitems

theorem reads_choice {variants : List (String × α)} {name : String} {a : α}
    (h : named variants name = .ok a) (aside : Bool) :
    (choice variants aside).Reads (.str name) a := h

theorem reads_oneField {variants : List (String × Reader α)} {name : String} {r : Reader α}
    (hname : named variants name = .ok r) {j : Json} {a : α} (h : r.Reads j a) :
    (oneField variants).Reads (.obj [(name, j)]) a := by
  have hread : r (ofJson j) = .ok a := h
  simp [Reads, ofJson, Draft.ofFields, oneField, hname, hread, Bind.bind, Except.bind]

end Reader

/-! ### Records -/

namespace Record

/-- That a record makes a value of a document: each of its fields passes, and what is
made of what stands under their names is that value. -/
structure Reads (r : Record α) (doc : String → Option Json) (a : α) : Prop where
  checks : ∀ slot ∈ r.slots, ∀ j, doc slot.name = some j → slot.check (ofJson j) = .ok ()
  builds : ∀ get : String → Option Draft,
    (∀ slot ∈ r.slots, get slot.name = (doc slot.name).map ofJson) → r.build get = .ok a

variable {doc : String → Option Json}

theorem reads_required {name : String} {r : Reader α} {j : Json} {a : α}
    (hdoc : doc name = some j) (h : r.Reads j a) : (required name r).Reads doc a where
  checks slot hslot k hk := by
    have hread : r (ofJson j) = .ok a := h
    obtain rfl := List.mem_singleton.mp hslot
    obtain rfl := Option.some.inj (hdoc.symm.trans hk)
    simp [hread, Except.map]
  builds get hget := by
    have hfield := hget _ List.mem_cons_self
    rw [hdoc] at hfield
    simp only [required, hfield, Option.map_some]
    exact h

theorem reads_optional {name : String} {r : Reader α} {j : Json} {o : Option α}
    (hdoc : doc name = some j) (h : (Reader.nullable r).Reads j o) :
    (optional name r).Reads doc o where
  checks slot hslot k hk := by
    have hread : Reader.nullable r (ofJson j) = .ok o := h
    obtain rfl := List.mem_singleton.mp hslot
    obtain rfl := Option.some.inj (hdoc.symm.trans hk)
    simp [hread, Except.map]
  builds get hget := by
    have hfield := hget _ List.mem_cons_self
    rw [hdoc] at hfield
    simp only [optional, hfield, Option.map_some]
    exact h

theorem Reads.map {r : Record α} {a : α} (h : r.Reads doc a) (f : α → β) :
    (f <$> r).Reads doc (f a) where
  checks := h.checks
  builds get hget := by
    change (r.build get).map f = _
    rw [h.builds get hget]
    rfl

theorem Reads.seq {f : Record (α → β)} {r : Record α} {g : α → β} {a : α}
    (hf : f.Reads doc g) (hr : r.Reads doc a) : (f <*> r).Reads doc (g a) where
  checks slot hslot := by
    rcases List.mem_append.mp hslot with h | h
    · exact hf.checks slot h
    · exact hr.checks slot h
  builds get hget := by
    change (do let g ← f.build get; let a ← r.build get; Except.ok (g a)) = _
    rw [hf.builds get fun slot h => hget slot (List.mem_append_left _ h),
      hr.builds get fun slot h => hget slot (List.mem_append_right _ h)]
    rfl

/-- A record that begins with a field. -/
theorem reads_field (f : α → β) {name : String} {r : Reader α} {j : Json} {a : α}
    (hdoc : doc name = some j) (h : r.Reads j a) : (f <$> required name r).Reads doc (f a) :=
  (reads_required hdoc h).map f

/-- One more field that has to be there. -/
theorem Reads.field {f : Record (α → β)} {g : α → β} (hf : f.Reads doc g) {name : String}
    {r : Reader α} {j : Json} {a : α} (hdoc : doc name = some j) (h : r.Reads j a) :
    (f <*> required name r).Reads doc (g a) :=
  hf.seq (reads_required hdoc h)

/-- One more field that may be missing. -/
theorem Reads.optional {f : Record (Option α → β)} {g : Option α → β} (hf : f.Reads doc g)
    {name : String} {r : Reader α} {j : Json} {o : Option α} (hdoc : doc name = some j)
    (h : (Reader.nullable r).Reads j o) : (f <*> Record.optional name r).Reads doc (g o) :=
  hf.seq (reads_optional hdoc h)

/-- Known fields that pass are all found, in the order in which they stand. -/
theorem ofFields_eq_ok {slots : List Slot} {fs : List (String × Json)}
    (hpass : ∀ f ∈ fs, ∃ slot, slots.find? (fun s => s.name == f.1) = some slot ∧
      slot.check (ofJson f.2) = .ok ())
    (found : List (String × Draft)) (hnew : ∀ f ∈ fs, ∀ e ∈ found, e.1 ≠ f.1)
    (hnodup : (fs.map Prod.fst).Nodup) :
    ofFields slots (Draft.ofFields fs) found =
      .ok (found ++ fs.map fun f => (f.1, ofJson f.2)) := by
  induction fs generalizing found with
  | nil => simp [Draft.ofFields, ofFields]
  | cons f fs ih =>
    obtain ⟨name, j⟩ := f
    obtain ⟨slot, hslot, hcheck⟩ := hpass (name, j) List.mem_cons_self
    rw [List.map_cons, List.nodup_cons] at hnodup
    have hfound : (found.any fun e => e.1 == name) = false := by
      rw [List.any_eq_false]
      intro e he
      simpa using hnew (name, j) List.mem_cons_self e he
    have hrest := ih (fun f hf => hpass f (List.mem_cons_of_mem _ hf))
      (found ++ [(name, ofJson j)]) (by
        intro f hf e he
        rcases List.mem_append.mp he with he | he
        · exact hnew f (List.mem_cons_of_mem _ hf) e he
        · obtain rfl := List.mem_singleton.mp he
          rintro heq
          exact hnodup.1 (heq ▸ List.mem_map_of_mem hf)) hnodup.2
    simp only [Draft.ofFields, ofFields, hslot, hfound, hcheck]
    simpa [Bind.bind, Except.bind] using hrest

theorem look_map (fs : List (String × Json)) (name : String) :
    look (fs.map fun f => (f.1, ofJson f.2)) name = (fieldOf fs name).map ofJson := by
  simp only [look, fieldOf, List.find?_map, Option.map_map]
  rfl

/-- **A document with exactly the fields of a record is read by it.** -/
theorem Reads.read {r : Record α} {fs : List (String × Json)} {a : α}
    (h : r.Reads (fieldOf fs) a) (hnames : fs.map Prod.fst = r.slots.map Slot.name)
    (hnodup : (r.slots.map Slot.name).Nodup) : Reader.Reads r.read (.obj fs) a := by
  have hpass : ∀ f ∈ fs, ∃ slot, r.slots.find? (fun s => s.name == f.1) = some slot ∧
      slot.check (ofJson f.2) = .ok () := by
    intro f hf
    have hknown : f.1 ∈ r.slots.map Slot.name := hnames ▸ List.mem_map_of_mem hf
    obtain ⟨s, hs, hname⟩ := List.mem_map.mp hknown
    cases hslot : r.slots.find? (fun s => s.name == f.1) with
    | none =>
      rw [List.find?_eq_none] at hslot
      simpa [hname] using hslot s hs
    | some slot =>
      have hslotname : slot.name = f.1 := by simpa using List.find?_some hslot
      refine ⟨slot, rfl, h.checks slot (List.mem_of_find?_eq_some hslot) f.2 ?_⟩
      rw [hslotname]
      exact fieldOf_of_mem (hnames ▸ hnodup) hf
  have hfields := ofFields_eq_ok hpass [] (by simp) (hnames ▸ hnodup)
  change (do let found ← ofFields r.slots (Draft.ofFields fs) []; r.build (look found)) = _
  rw [hfields]
  exact h.builds _ fun slot _ => look_map fs slot.name

/-! ### What a record can make -/

/-- That everything a record makes has a property. -/
def Makes (r : Record α) (P : α → Prop) : Prop := ∀ get a, r.build get = .ok a → P a

theorem makes_map {f : α → β} {r : Record α} {P : β → Prop} (h : ∀ a, P (f a)) :
    (f <$> r).Makes P := by
  intro get b hb
  change (r.build get).map f = .ok b at hb
  cases ha : r.build get with
  | error e => rw [ha] at hb; cases hb
  | ok a =>
    rw [ha] at hb
    cases hb
    exact h a

theorem Makes.seq {f : Record (α → β)} {r : Record α} {P : β → Prop}
    (h : f.Makes fun g => ∀ a, P (g a)) : (f <*> r).Makes P := by
  intro get b hb
  change (do let g ← f.build get; let a ← r.build get; Except.ok (g a)) = .ok b at hb
  cases hg : f.build get with
  | error e => rw [hg] at hb; cases hb
  | ok g =>
    cases ha : r.build get with
    | error e => rw [hg, ha] at hb; cases hb
    | ok a =>
      rw [hg, ha] at hb
      cases hb
      exact h get g hg a

theorem Makes.read {r : Record α} {P : α → Prop} (h : r.Makes P) {d : Draft} {a : α}
    (ha : r.read d = .ok a) : P a := by
  unfold Record.read at ha
  split at ha
  · cases hf : ofFields r.slots _ [] with
    | error e => rw [hf] at ha; cases ha
    | ok found =>
      rw [hf] at ha
      exact h _ a ha
  · cases hf : ofItems r.slots _ with
    | error e => rw [hf] at ha; cases ha
    | ok found =>
      rw [hf] at ha
      exact h _ a ha
  · cases ha

end Record

/-! ### Tagged values -/

/-- **The name of a shape and its content are read as that shape.** -/
theorem Shapes.reads {shapes : Shapes α} {name : String} {read : Bool → Reader α}
    (hname : Reader.named shapes name = .ok read) {content : Json} {a : α}
    (h : (read false).Reads content a) :
    Reader.Reads shapes.read (.obj [("type", .str name), ("data", content)]) a := by
  have hread : read false (ofJson content) = .ok a := h
  have htype : step shapes .nothing "type" (ofJson (.str name)) = .ok (.shape read) := by
    simp [step, ofJson, Reader.choice, hname, Except.map]
  have hdata : step shapes (.shape read) "data" (ofJson content) = .ok (.whole a) := by
    simp [step, hread, Except.map]
  simp only [Reader.Reads, Shapes.read, ofJson, Draft.ofFields, ofFields]
  simp only [ofJson] at htype
  simp [htype, hdata, Bind.bind, Except.bind]

end Storefront.Json
