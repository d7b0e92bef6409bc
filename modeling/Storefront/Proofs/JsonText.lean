import Storefront.Proofs.Digits

/-! # JSON text

What is written is read again.  A value whose numbers all are integers of a word is
written without blanks, and the text of it, whatever follows behind, is read as that
value and nothing more.

The proof is an induction on the value.  What a reader needs to know of the text behind
a value is only that no number goes on there, and what it needs to know of the text of a
value is only how it begins.
-/
namespace Storefront.Json

/-- A value without any number but integers that fit a word. -/
inductive Plain : Json → Prop
  | null : Plain .null
  | bool (b : Bool) : Plain (.bool b)
  | int {n : Int} (low : -(2 : Int) ^ 63 ≤ n) (high : n < 2 ^ 64) : Plain (.int n)
  | str (s : String) : Plain (.str s)
  | arr {items : List Json} (plain : ∀ j ∈ items, Plain j) : Plain (.arr items)
  | obj {fields : List (String × Json)} (plain : ∀ f ∈ fields, Plain f.2) : Plain (.obj fields)

section

@[simp] theorem plain_null : Plain .null := .null

@[simp] theorem plain_bool (b : Bool) : Plain (.bool b) := .bool b

@[simp] theorem plain_str (s : String) : Plain (.str s) := .str s

@[simp] theorem plain_arr {items : List Json} : Plain (.arr items) ↔ ∀ j ∈ items, Plain j :=
  ⟨fun h => by cases h; assumption, .arr⟩

@[simp] theorem plain_obj {fields : List (String × Json)} :
    Plain (.obj fields) ↔ ∀ f ∈ fields, Plain f.2 :=
  ⟨fun h => by cases h; assumption, .obj⟩

theorem plain_nat {n : Nat} (h : n < 2 ^ 64) : Plain (.nat n) :=
  .int (by omega) (by exact_mod_cast h)

@[simp] theorem plain_word (n : UInt32) : Plain (.word n) :=
  plain_nat (Nat.lt_trans n.toNat_lt (by decide))

variable {α : Type} {write : α → Json}

theorem plain_option (h : ∀ a, Plain (write a)) (o : Option α) : Plain (.option write o) := by
  cases o with
  | none => exact .null
  | some a => exact h a

theorem plain_list (h : ∀ a, Plain (write a)) (xs : List α) : Plain (.list write xs) := by
  simp [Json.list, h]

end

namespace Draft

/-- Whether the text ends here, or goes on with a comma or a closing bracket. -/
def Closes (cs : List Char) : Prop := ∀ c ∈ cs.head?, c = ',' ∨ c = ']' ∨ c = '\x7d'

theorem closes_nil : Closes [] := by simp [Closes]

theorem closes_cons {c : Char} (h : c = ',' ∨ c = ']' ∨ c = '\x7d') (cs : List Char) :
    Closes (c :: cs) := by
  simpa [Closes] using h

theorem Closes.noDigit {cs : List Char} (h : Closes cs) : NoDigit cs := by
  intro c hc
  obtain rfl | rfl | rfl := h c hc <;> rfl

/-- Whether a value may begin with the character. -/
def Opens (c : Char) : Prop := c.isDigit = true ∨ c ∈ ['-', '"', '[', '\x7b', 'n', 't', 'f']

theorem Opens.ne_bracket {c : Char} (h : Opens c) : c ≠ ']' := by
  rintro rfl
  revert h
  simp [Opens]

theorem skipBlank_of_opens {c : Char} (h : Opens c) (cs : List Char) :
    skipBlank (c :: cs) = c :: cs := by
  have hblank : (c == ' ' || c == '\n' || c == '\t' || c == '\r') = false := by
    simp only [Bool.or_eq_false_iff, beq_eq_false_iff_ne]
    refine ⟨⟨⟨?_, ?_⟩, ?_⟩, ?_⟩ <;>
    · rintro rfl
      revert h
      simp [Opens]
      try decide
  simp [skipBlank, hblank]

/-! ### Strings -/

theorem hexValue?_hexChar : ∀ n : Fin 16, hexValue? (hexChar n) = some n.val := by decide

/-- A character is read back from whatever stands for it between quotes. -/
theorem stringBody_escapeChar (c : Char) (rest seen : List Char) :
    stringBody (escapeChar c ++ rest) seen true = stringBody rest (c :: seen) true := by
  unfold escapeChar
  split
  · next h => subst h; simp [stringBody, shortEscape?]
  split
  · next h => subst h; simp [stringBody, shortEscape?]
  split
  · next h => subst h; simp [stringBody, shortEscape?]
  split
  · next h => subst h; simp [stringBody, shortEscape?]
  split
  · next h => subst h; simp [stringBody, shortEscape?]
  split
  · next h =>
    obtain rfl : Char.ofNat 8 = c := by rw [← h, Char.ofNat_toNat]
    simp [stringBody, shortEscape?]
  split
  · next h =>
    obtain rfl : Char.ofNat 12 = c := by rw [← h, Char.ofNat_toNat]
    simp [stringBody, shortEscape?]
  split
  · next h =>
    have hhigh := hexValue?_hexChar ⟨c.toNat / 16, by omega⟩
    have hlow := hexValue?_hexChar ⟨c.toNat % 16, by omega⟩
    have hquad : hexQuad? '0' '0' (hexChar (c.toNat / 16)) (hexChar (c.toNat % 16)) =
        some c.toNat := by
      have hzero : hexValue? '0' = some 0 := by decide
      simp only at hhigh hlow
      simp [hexQuad?, hzero, hhigh, hlow]
      omega
    have hbelow : c.toNat < 0xD800 := by omega
    simp [stringBody, hquad, hbelow]
  · next _ hslash _ _ _ _ _ hplain => simp [stringBody, hslash, hplain]

/-- What stands between the quotes of a string is read as the string. -/
theorem stringBody_flatMap (s rest seen : List Char) :
    stringBody (s.flatMap escapeChar ++ '"' :: rest) seen true =
      some (some (String.ofList (seen.reverse ++ s)), rest) := by
  induction s generalizing seen with
  | nil => simp [stringBody]
  | cons c s ih =>
    rw [List.flatMap_cons, List.append_assoc, stringBody_escapeChar, ih]
    simp

theorem toList_quote (s : String) :
    (quote s).toList = '"' :: (s.toList.flatMap escapeChar ++ ['"']) := by
  simp [quote]

theorem stringBody_quote (s : String) (rest : List Char) :
    stringBody (s.toList.flatMap escapeChar ++ '"' :: rest) [] true = some (some s, rest) := by
  simp [stringBody_flatMap]

/-! ### Numbers -/

theorem digits?_digitsOf {rest : List Char} (hrest : NoDigit rest) (n : Nat) :
    digits? (digitsOf n ++ rest) = some (digitsOf n, rest) := by
  have hds : ∀ c ∈ digitsOf n, c.isDigit = true := fun c hc => isDigit_of_mem hc
  simp [digits?, takeWhile_digits hds hrest, dropWhile_digits hds hrest, digitsOf_ne_nil]

theorem fraction?_of_closes {rest : List Char} (h : Closes rest) :
    fraction? rest = some ([], rest) := by
  unfold fraction?
  split
  · next cs => simp [Closes] at h
  · rfl

theorem exponent?_of_closes {rest : List Char} (h : Closes rest) :
    exponent? rest = some (0, rest) := by
  unfold exponent?
  split <;> first | rfl | simp [Closes] at h

theorem number?_nat {n : Nat} (hn : n < 2 ^ 64) {rest : List Char} (h : Closes rest) :
    number? (digitsOf n ++ rest) = some (.int n, rest) := by
  have hsign : ∀ cs, digitsOf n ++ rest ≠ '-' :: cs := by
    intro cs heq
    obtain ⟨c, ds, hds⟩ := List.exists_cons_of_ne_nil (digitsOf_ne_nil n)
    have hc : c.isDigit = true := isDigit_of_mem (hds ▸ List.mem_cons_self)
    rw [hds, List.cons_append, List.cons.injEq] at heq
    rw [heq.1] at hc
    exact absurd hc (by decide)
  unfold number?
  split
  next neg unsigned heq =>
  split at heq
  · next cs hcs => exact absurd hcs (hsign cs)
  cases heq
  have hn : n < Nat.pow 2 64 := hn
  simp [digits?_digitsOf h.noDigit, no_leading_zero n, fraction?_of_closes h,
    exponent?_of_closes h, digitsValue_digitsOf, hn]

theorem number?_neg {n : Nat} (hpos : 0 < n) (hn : n ≤ 2 ^ 63) {rest : List Char}
    (h : Closes rest) : number? ('-' :: (digitsOf n ++ rest)) = some (.int (-n), rest) := by
  have hn : n ≤ Nat.pow 2 63 := hn
  simp [number?, digits?_digitsOf h.noDigit, no_leading_zero n, fraction?_of_closes h,
    exponent?_of_closes h, digitsValue_digitsOf, hn, hpos]

/-! ### How the text of a value begins -/

theorem textItems_cons (j : Json) {rest : List Json} (h : rest ≠ []) :
    textItems (j :: rest) = text j ++ "," ++ textItems rest := by
  cases rest with
  | nil => exact absurd rfl h
  | cons k rest => rfl

theorem textFields_cons (k : String) (j : Json) {rest : List (String × Json)} (h : rest ≠ []) :
    textFields ((k, j) :: rest) = quote k ++ ":" ++ text j ++ "," ++ textFields rest := by
  cases rest with
  | nil => exact absurd rfl h
  | cons f rest => rfl

theorem opens_digitsOf (n : Nat) : ∃ c cs, digitsOf n = c :: cs ∧ c.isDigit = true := by
  obtain ⟨c, cs, h⟩ := List.exists_cons_of_ne_nil (digitsOf_ne_nil n)
  exact ⟨c, cs, h, isDigit_of_mem (h ▸ List.mem_cons_self)⟩

/-- The text of an integer is its digits, after a sign if it is below zero. -/
theorem toList_text_int (n : Int) :
    (text (.int n)).toList = if n < 0 then '-' :: digitsOf n.natAbs else digitsOf n.natAbs := by
  cases n with
  | ofNat n => exact toList_toString n
  | negSucc n =>
    change ("-" ++ toString (n + 1)).toList = _
    rw [String.toList_append, toList_toString, if_pos (Int.negSucc_lt_zero n)]
    rfl

theorem opens_text {j : Json} (h : Plain j) : ∃ c cs, (text j).toList = c :: cs ∧ Opens c := by
  cases h with
  | null => exact ⟨'n', _, rfl, by simp [Opens]⟩
  | bool b =>
    cases b
    · exact ⟨'f', _, rfl, by simp [Opens]⟩
    · exact ⟨'t', _, rfl, by simp [Opens]⟩
  | @int n low high =>
    obtain ⟨c, cs, hcs, hc⟩ := opens_digitsOf n.natAbs
    rw [toList_text_int]
    split
    · exact ⟨_, _, rfl, by simp [Opens]⟩
    · exact ⟨c, cs, hcs, .inl hc⟩
  | str s => exact ⟨'"', _, toList_quote s, by simp [Opens]⟩
  | arr plain => exact ⟨'[', _, by simp [text]; rfl, by simp [Opens]⟩
  | obj plain => exact ⟨'\x7b', _, by simp [text]; rfl, by simp [Opens]⟩

/-! ### Values -/

/-- That the text of a value, whatever closes behind it, is read as that value.  The
readers count down a supply of steps, of which they take two for each character. -/
def ReadsBack (j : Json) : Prop :=
  ∀ fuel rest, Closes rest → 2 * (text j).length < fuel →
    value fuel ((text j).toList ++ rest) = (ofJson j, some rest)

theorem value_number {c : Char} {cs rest : List Char} {d : Draft} (fuel : Nat)
    (hc : c.isDigit = true ∨ c = '-') (h : number? (c :: cs) = some (d, rest)) :
    value (fuel + 1) (c :: cs) = (d, some rest) := by
  have hopens : Opens c := by
    rcases hc with hc | rfl
    · exact .inl hc
    · simp [Opens]
  rw [value, skipBlank_of_opens hopens]
  split
  case h_7 => rw [h]
  -- Neither a digit nor a sign begins any other sort of value.
  all_goals
    rename_i heq
    rw [List.cons.injEq] at heq
    rw [heq.1] at hc
    exact absurd hc (by decide)

theorem readsBack_int {n : Int} (low : -(2 : Int) ^ 63 ≤ n) (high : n < 2 ^ 64) :
    ReadsBack (.int n) := by
  intro fuel rest hrest hfuel
  obtain ⟨fuel, rfl⟩ := Nat.exists_eq_add_one_of_ne_zero (Nat.ne_zero_of_lt hfuel)
  rw [toList_text_int]
  split
  · next hneg =>
    rw [List.cons_append]
    have habs : -(n.natAbs : Int) = n := by omega
    have hnumber := number?_neg (n := n.natAbs) (by omega) (by omega) hrest
    rw [habs] at hnumber
    exact value_number fuel (.inr rfl) hnumber
  · next hpos =>
    obtain ⟨c, cs, hcs, hc⟩ := opens_digitsOf n.natAbs
    have habs : (n.natAbs : Int) = n := by omega
    have hnumber := number?_nat (n := n.natAbs) (by omega) hrest
    rw [habs, hcs, List.cons_append] at hnumber
    rw [hcs, List.cons_append]
    exact value_number fuel (.inl hc) hnumber

theorem readsBack_null : ReadsBack .null := by
  intro fuel rest _ hfuel
  obtain ⟨fuel, rfl⟩ := Nat.exists_eq_add_one_of_ne_zero (Nat.ne_zero_of_lt hfuel)
  have htext : (text .null).toList ++ rest = 'n' :: 'u' :: 'l' :: 'l' :: rest := by simp [text]
  rw [htext, value, skipBlank_of_opens (by simp [Opens])]
  simp [ofJson]

theorem readsBack_bool (b : Bool) : ReadsBack (.bool b) := by
  intro fuel rest _ hfuel
  obtain ⟨fuel, rfl⟩ := Nat.exists_eq_add_one_of_ne_zero (Nat.ne_zero_of_lt hfuel)
  cases b
  · have htext : (text (.bool false)).toList ++ rest =
        'f' :: 'a' :: 'l' :: 's' :: 'e' :: rest := by simp [text]
    rw [htext, value, skipBlank_of_opens (by simp [Opens])]
    simp [ofJson]
  · have htext : (text (.bool true)).toList ++ rest = 't' :: 'r' :: 'u' :: 'e' :: rest := by
      simp [text]
    rw [htext, value, skipBlank_of_opens (by simp [Opens])]
    simp [ofJson]

theorem readsBack_str (s : String) : ReadsBack (.str s) := by
  intro fuel rest _ hfuel
  obtain ⟨fuel, rfl⟩ := Nat.exists_eq_add_one_of_ne_zero (Nat.ne_zero_of_lt hfuel)
  rw [text, toList_quote, List.cons_append, List.append_assoc, List.singleton_append, value,
    skipBlank_of_opens (by simp [Opens])]
  simp [stringBody_quote, ofJson]

/-- The items of an array are read up to its bracket. -/
theorem items_readBack {js : List Json} (hne : js ≠ []) (hjs : ∀ j ∈ js, ReadsBack j)
    (fuel : Nat) (rest : List Char) (hfuel : 2 * (textItems js).length + 1 < fuel) :
    items fuel ((textItems js).toList ++ ']' :: rest) = (ofItems js, some rest) := by
  induction js generalizing fuel with
  | nil => exact absurd rfl hne
  | cons j js ih =>
    obtain ⟨fuel, rfl⟩ := Nat.exists_eq_add_one_of_ne_zero (Nat.ne_zero_of_lt hfuel)
    have hj := hjs j List.mem_cons_self
    by_cases hlast : js = []
    · subst hlast
      have htext : textItems [j] = text j := rfl
      rw [htext] at hfuel ⊢
      rw [items, hj fuel _ (closes_cons (by simp) _) (by omega)]
      simp [skipBlank, ofItems]
    · have hcomma : ",".toList = [','] := rfl
      have hlength : ",".length = 1 := rfl
      rw [textItems_cons j hlast] at hfuel ⊢
      simp only [String.length_append, String.toList_append, List.append_assoc, hlength, hcomma,
        List.cons_append, List.nil_append] at hfuel ⊢
      have hmore := ih hlast (fun k hk => hjs k (List.mem_cons_of_mem _ hk)) fuel (by omega)
      rw [items, hj fuel _ (closes_cons (by simp) _) (by omega)]
      simp [skipBlank, ofItems, hmore]

/-- A field is read with the value behind its name. -/
theorem fields_name (fuel : Nat) (k : String) {j : Json} (hj : ReadsBack j) (rest : List Char)
    (hrest : Closes rest) (hfuel : 2 * (text j).length < fuel) :
    fields (fuel + 1) ((quote k ++ ":" ++ text j).toList ++ rest) =
      match skipBlank rest with
      | '\x7d' :: rest => ([(some k, ofJson j)], some rest)
      | ',' :: rest =>
        let (more, behind) := fields fuel rest
        ((some k, ofJson j) :: more, behind)
      | _ => ([(some k, ofJson j), (none, cut)], none) := by
  have hcolon : ":".toList = [':'] := rfl
  simp only [String.toList_append, toList_quote, hcolon, List.cons_append, List.append_assoc,
    List.nil_append]
  rw [fields, skipBlank_of_opens (by simp [Opens])]
  simp only [stringBody_quote]
  have hblank : ∀ cs, skipBlank (':' :: cs) = ':' :: cs := fun cs => by simp [skipBlank]
  rw [hblank]
  split
  · next heq =>
    obtain ⟨_, rfl⟩ := List.cons.inj heq
    rewrite [hj fuel rest hrest hfuel]
    rfl
  · next hne => exact absurd rfl (hne _)

/-- The fields of an object are read up to its brace. -/
theorem fields_readBack {fs : List (String × Json)} (hne : fs ≠ [])
    (hfs : ∀ f ∈ fs, ReadsBack f.2) (fuel : Nat) (rest : List Char)
    (hfuel : 2 * (textFields fs).length + 1 < fuel) :
    fields fuel ((textFields fs).toList ++ '\x7d' :: rest) = (ofFields fs, some rest) := by
  induction fs generalizing fuel with
  | nil => exact absurd rfl hne
  | cons f fs ih =>
    obtain ⟨k, j⟩ := f
    obtain ⟨fuel, rfl⟩ := Nat.exists_eq_add_one_of_ne_zero (Nat.ne_zero_of_lt hfuel)
    have hj : ReadsBack j := hfs (k, j) List.mem_cons_self
    by_cases hlast : fs = []
    · subst hlast
      have htext : textFields [(k, j)] = quote k ++ ":" ++ text j := rfl
      rw [htext] at hfuel ⊢
      simp only [String.length_append] at hfuel
      rw [fields_name fuel k hj _ (closes_cons (by simp) _) (by omega)]
      simp [skipBlank, ofFields]
    · have hcomma : ",".toList = [','] := rfl
      have hlength : ",".length = 1 := rfl
      rw [textFields_cons k j hlast] at hfuel ⊢
      rw [String.toList_append, String.toList_append, List.append_assoc, List.append_assoc, hcomma,
        List.singleton_append]
      simp only [String.length_append, hlength] at hfuel
      have hmore := ih hlast (fun f hf => hfs f (List.mem_cons_of_mem _ hf)) fuel (by omega)
      rw [fields_name fuel k hj _ (closes_cons (by simp) _) (by omega)]
      simp [skipBlank, ofFields, hmore]

theorem opens_textItems {js : List Json} (hne : js ≠ []) (hplain : ∀ j ∈ js, Plain j) :
    ∃ c cs, (textItems js).toList = c :: cs ∧ Opens c := by
  obtain ⟨j, js, rfl⟩ := List.exists_cons_of_ne_nil hne
  obtain ⟨c, cs, hcs, hc⟩ := opens_text (hplain j List.mem_cons_self)
  by_cases hlast : js = []
  · subst hlast
    exact ⟨c, cs, hcs, hc⟩
  · rw [textItems_cons j hlast]
    exact ⟨c, _, by simp [hcs]; rfl, hc⟩

theorem opens_textFields {fs : List (String × Json)} (hne : fs ≠ []) :
    ∃ cs, (textFields fs).toList = '"' :: cs := by
  obtain ⟨⟨k, j⟩, fs, rfl⟩ := List.exists_cons_of_ne_nil hne
  by_cases hlast : fs = []
  · subst hlast
    exact ⟨_, by simp [textFields, toList_quote]; rfl⟩
  · rw [textFields_cons k j hlast]
    exact ⟨_, by simp [toList_quote]; rfl⟩

theorem readsBack_arr {js : List Json} (hplain : ∀ j ∈ js, Plain j)
    (hjs : ∀ j ∈ js, ReadsBack j) : ReadsBack (.arr js) := by
  intro fuel rest _ hfuel
  obtain ⟨fuel, rfl⟩ := Nat.exists_eq_add_one_of_ne_zero (Nat.ne_zero_of_lt hfuel)
  have htext : (text (.arr js)).toList ++ rest =
      '[' :: ((textItems js).toList ++ ']' :: rest) := by simp [text]
  have hlength : (text (.arr js)).length = (textItems js).length + 2 := by
    rw [← String.length_toList, ← String.length_toList]
    simp [text]
  rw [htext, value, skipBlank_of_opens (by simp [Opens])]
  by_cases hne : js = []
  · subst hne
    simp [textItems, skipBlank, ofJson, ofItems]
  · have hitems := items_readBack hne hjs fuel rest (by omega)
    obtain ⟨c, cs, hcs, hc⟩ := opens_textItems hne hplain
    rw [hcs, List.cons_append] at hitems
    simp only [hcs, List.cons_append, skipBlank_of_opens hc]
    split
    · next heq => exact absurd (List.cons.inj heq).1 hc.ne_bracket
    · simp [hitems, ofJson]

theorem readsBack_obj {fs : List (String × Json)} (hfs : ∀ f ∈ fs, ReadsBack f.2) :
    ReadsBack (.obj fs) := by
  intro fuel rest _ hfuel
  obtain ⟨fuel, rfl⟩ := Nat.exists_eq_add_one_of_ne_zero (Nat.ne_zero_of_lt hfuel)
  have htext : (text (.obj fs)).toList ++ rest =
      '\x7b' :: ((textFields fs).toList ++ '\x7d' :: rest) := by simp [text]
  have hlength : (text (.obj fs)).length = (textFields fs).length + 2 := by
    rw [← String.length_toList, ← String.length_toList]
    simp [text]
  rw [htext, value, skipBlank_of_opens (by simp [Opens])]
  by_cases hne : fs = []
  · subst hne
    simp [textFields, skipBlank, ofJson, ofFields]
  · have hfields := fields_readBack hne hfs fuel rest (by omega)
    obtain ⟨cs, hcs⟩ := opens_textFields hne
    rw [hcs, List.cons_append] at hfields
    have hblank : ∀ cs, skipBlank ('"' :: cs) = '"' :: cs := fun cs => by simp [skipBlank]
    simp [hcs, hblank, hfields, ofJson]

/-- **The text of a plain value is read as that value**, and what stands behind it is
left for others. -/
theorem readsBack {j : Json} (h : Plain j) : ReadsBack j := by
  induction h with
  | null => exact readsBack_null
  | bool b => exact readsBack_bool b
  | int low high => exact readsBack_int low high
  | str s => exact readsBack_str s
  | arr plain ih => exact readsBack_arr plain ih
  | obj plain ih => exact readsBack_obj ih

/-- **A plain value that is written out by itself is read back whole.** -/
theorem ofText_text {j : Json} (h : Plain j) : ofText (text j) = (ofJson j, true) := by
  have hvalue := readsBack h (2 * (text j).length + 2) [] closes_nil (by omega)
  rw [List.append_nil, ← String.length_toList] at hvalue
  simp only [ofText, hvalue]
  rfl

end Draft

end Storefront.Json
