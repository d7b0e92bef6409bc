import Mathlib
import Storefront.Text.Ascii
import Storefront.Text.Blank
import Storefront.Text.Lowercase

/-! # What lower case leaves as it is

Lower case is no matter of single letters: what becomes of a capital sigma depends on what stands
around it, a capital `I` with a dot becomes two characters, and some letters that are not of ASCII
become letters that are.  What comes out is in lower case all the same, wherever it stands
(`Text.lowercase_lowercase`), and is trimmed if it was before (`Text.trim_lowercase_trim`).  It does
not depend on the case of letters of ASCII (`Text.lowercase_asciiLower`).

That is read off the table of runs by looking at where they begin and end, not at each of their code
points.
-/
namespace Storefront.Text

/-! ### The table -/

namespace CaseTable

/-- What is no letter in lower case: white space, the capital `I` with a dot, and what is no
character. -/
def gaps : List (Nat × Nat) := [
  (0x9, 0xD), (0x20, 0x20), (0x85, 0x85), (0xA0, 0xA0), (0x130, 0x130), (0x1680, 0x1680),
  (0x2000, 0x200A), (0x2028, 0x2029), (0x202F, 0x202F), (0x205F, 0x205F), (0x3000, 0x3000),
  (0xD800, 0xDFFF)]

namespace Run

/-- The last code point that the run gives. -/
def final (r : Run) : Nat := r.target + (r.last - r.first)

/-- Whether nothing that the run gives is from one code point to another. -/
def avoids (r : Run) (gap : Nat × Nat) : Bool :=
  decide (r.final < gap.1) || decide (gap.2 < r.target)

/-- Whether nothing that the run gives is in another run: it ends before that begins, or the other
way round, or the one has odd and the other even code points. -/
def misses (r s : Run) : Bool :=
  decide (r.final < s.first) || decide (s.last < r.target) ||
    (s.step == 2 && (r.step == 2 || r.first == r.last) && (r.target + s.first) % 2 == 1)

variable {r s : Run} {n m : Nat}

theorem lower?_eq_some (h : r.lower? n = some m) :
    r.first ≤ n ∧ n ≤ r.last ∧ (n - r.first) % r.step = 0 ∧ m = r.target + (n - r.first) := by
  unfold lower? at h
  split at h
  · rename_i hn
    cases h
    exact ⟨hn.1, hn.2.1, hn.2.2, rfl⟩
  · cases h

theorem bounds_of_lower? (h : r.lower? n = some m) : r.target ≤ m ∧ m ≤ r.final := by
  obtain ⟨_, hlast, _, rfl⟩ := lower?_eq_some h
  unfold final
  omega

theorem lower?_eq_none_of_misses (hmisses : r.misses s = true) (h : r.lower? n = some m) :
    s.lower? m = none := by
  obtain ⟨hlow, hhigh⟩ := bounds_of_lower? h
  obtain ⟨hfirst, hlast, hstep, hm⟩ := lower?_eq_some h
  refine if_neg ?_
  rintro ⟨hfirst', hlast', hstep'⟩
  simp only [misses, Bool.or_eq_true, Bool.and_eq_true, decide_eq_true_eq, beq_iff_eq] at hmisses
  rcases hmisses with (hbefore | hbehind) | ⟨⟨htwo, hevery⟩, hodd⟩
  · omega
  · omega
  · rw [htwo] at hstep'
    rcases hevery with htwo' | hone
    · rw [htwo'] at hstep
      omega
    · omega

end Run

theorem lowerRuns_misses : (lowerRuns.all fun r => lowerRuns.all r.misses) = true := by
  decide +kernel

theorem lowerRuns_avoids :
    (lowerRuns.all fun r => gaps.all r.avoids && decide (r.final < 0x110000)) = true := by
  decide +kernel

end CaseTable

open CaseTable

/-! ### Code points -/

section Code
variable {n : Nat}

/-- A code point stays as it is, or becomes one that a run gives. -/
theorem lowerCode_cases (n : Nat) :
    lowerCode n = n ∨ ∃ r ∈ lowerRuns, r.lower? n = some (lowerCode n) := by
  unfold lowerCode
  cases h : lowerRuns.findSome? (·.lower? n) with
  | none => exact .inl rfl
  | some m => exact .inr (List.exists_of_findSome?_eq_some h)

/-- **Lower case stays as it is.** -/
theorem lowerCode_lowerCode (n : Nat) : lowerCode (lowerCode n) = lowerCode n := by
  rcases lowerCode_cases n with h | ⟨r, hr, h⟩
  · rw [h, h]
  · have hnone : lowerRuns.findSome? (·.lower? (lowerCode n)) = none := by
      refine List.findSome?_eq_none_iff.mpr fun s hs => ?_
      have hmisses := List.all_eq_true.mp (List.all_eq_true.mp lowerRuns_misses r hr) s hs
      exact Run.lower?_eq_none_of_misses hmisses h
    rw [lowerCode.eq_def (lowerCode n), hnone]
    rfl

/-- What is no letter in lower case does not come about. -/
theorem lowerCode_avoids (h : lowerCode n ≠ n) :
    lowerCode n < 0x110000 ∧
      ∀ gap ∈ gaps, lowerCode n < gap.1 ∨ gap.2 < lowerCode n := by
  obtain ⟨r, hr, hlower⟩ := (lowerCode_cases n).resolve_left h
  obtain ⟨hlow, hhigh⟩ := Run.bounds_of_lower? hlower
  have hr := List.all_eq_true.mp lowerRuns_avoids r hr
  rw [Bool.and_eq_true, decide_eq_true_eq] at hr
  refine ⟨by omega, fun gap hgap => ?_⟩
  have havoids := List.all_eq_true.mp hr.1 gap hgap
  rw [Run.avoids, Bool.or_eq_true, decide_eq_true_eq, decide_eq_true_eq] at havoids
  omega

end Code

/-! ### Characters -/

section Chars
variable {c d : Char} {before cs rest : List Char}

/-- White space is in the gaps. -/
theorem exists_gap_of_isWhiteSpace (h : isWhiteSpace c = true) :
    ∃ gap ∈ gaps, gap.1 ≤ c.toNat ∧ c.toNat ≤ gap.2 := by
  simp only [isWhiteSpace, Bool.or_eq_true, Bool.and_eq_true, decide_eq_true_eq, beq_iff_eq] at h
  simp only [gaps, List.exists_mem_cons_iff]
  omega

/-- The character stays as it is, wherever it stands. -/
def Stays (c : Char) : Prop := c ≠ '\u03A3' ∧ lowerChar c = [c]

/-- What a character becomes that follows some others, which are given backwards, and is followed
by others. -/
def lowered (before : List Char) (c : Char) (rest : List Char) : List Char :=
  if c = '\u03A3' then [if startsCased before && !startsCased rest then '\u03C2' else '\u03C3']
  else lowerChar c

theorem lowerAfter_cons :
    lowerAfter before (c :: rest) = lowered before c rest ++ lowerAfter (c :: before) rest := rfl

/-- A code point in lower case is that of a character. -/
theorem toNat_ofNat_lowerCode (c : Char) :
    (Char.ofNat (lowerCode c.toNat)).toNat = lowerCode c.toNat := by
  by_cases h : lowerCode c.toNat = c.toNat
  · rw [h, Char.ofNat_toNat]
  · obtain ⟨hlt, hgaps⟩ := lowerCode_avoids h
    have hsurrogates := hgaps (0xD800, 0xDFFF) (by decide)
    rw [Char.toNat_ofNat, if_pos]
    simp only [Nat.isValidChar]
    omega

/-- What is left after a code point is lowered stays as it is. -/
theorem stays_ofNat_lowerCode (hdotted : c ≠ '\u0130') (hsigma : c ≠ '\u03A3') :
    Stays (Char.ofNat (lowerCode c.toNat)) := by
  by_cases h : lowerCode c.toNat = c.toNat
  · rw [h, Char.ofNat_toNat]
    refine ⟨hsigma, ?_⟩
    rw [lowerChar, if_neg hdotted, h, Char.ofNat_toNat]
  · have hcode := toNat_ofNat_lowerCode c
    refine ⟨fun hs => ?_, ?_⟩
    · -- a capital sigma would be lowered once more
      rw [hs] at hcode
      have hagain := lowerCode_lowerCode c.toNat
      rw [← hcode] at hagain
      exact absurd hagain (by decide +kernel)
    · have hgap := (lowerCode_avoids h).2 (0x130, 0x130) (by decide)
      rw [lowerChar, if_neg, hcode, lowerCode_lowerCode]
      intro hd
      rw [hd] at hcode
      have hcode : 0x130 = lowerCode c.toNat := hcode
      omega

/-- **Whatever a character becomes stays as it is**, and is white space only if the character is. -/
theorem lowered_spec (hd : d ∈ lowered before c rest) :
    Stays d ∧ (isWhiteSpace c = false → isWhiteSpace d = false) := by
  unfold lowered at hd
  by_cases hsigma : c = '\u03A3'
  · rw [if_pos hsigma, List.mem_singleton] at hd
    subst hd
    split
    · exact ⟨⟨by decide, by decide +kernel⟩, fun _ => by decide⟩
    · exact ⟨⟨by decide, by decide +kernel⟩, fun _ => by decide⟩
  · rw [if_neg hsigma, lowerChar] at hd
    by_cases hdotted : c = '\u0130'
    · rw [if_pos hdotted] at hd
      rcases List.mem_pair.mp hd with rfl | rfl
      · exact ⟨⟨by decide, by decide +kernel⟩, fun _ => by decide⟩
      · exact ⟨⟨by decide, by decide +kernel⟩, fun _ => by decide⟩
    · rw [if_neg hdotted, List.mem_singleton] at hd
      subst hd
      refine ⟨stays_ofNat_lowerCode hdotted hsigma, fun hc => ?_⟩
      by_cases h : lowerCode c.toNat = c.toNat
      · rwa [h, Char.ofNat_toNat]
      · by_contra hwhite
        obtain ⟨gap, hgap, hlow, hhigh⟩ :=
          exists_gap_of_isWhiteSpace (Bool.eq_true_of_not_eq_false hwhite)
        rw [toNat_ofNat_lowerCode] at hlow hhigh
        have := (lowerCode_avoids h).2 gap hgap
        omega

theorem lowered_ne_nil : lowered before c rest ≠ [] := by
  unfold lowered lowerChar
  split
  · exact List.cons_ne_nil _ _
  · split <;> exact List.cons_ne_nil _ _

/-! ### Lower case once more -/

/-- What is in lower case stays as it is. -/
theorem stays_of_mem_lowerAfter (hd : d ∈ lowerAfter before cs) : Stays d := by
  induction cs generalizing before with
  | nil => cases hd
  | cons c rest ih =>
    rw [lowerAfter_cons, List.mem_append] at hd
    rcases hd with hd | hd
    · exact (lowered_spec hd).1
    · exact ih hd

theorem lowerAfter_of_stays (h : ∀ c ∈ cs, Stays c) : lowerAfter before cs = cs := by
  induction cs generalizing before with
  | nil => rfl
  | cons c rest ih =>
    obtain ⟨hsigma, hlower⟩ := h c (List.mem_cons_self ..)
    rw [lowerAfter_cons, lowered, if_neg hsigma, hlower,
      ih fun d hd => h d (List.mem_cons_of_mem _ hd)]
    rfl

/-- **Lower case is in lower case.** -/
theorem lowercase_lowercase (s : String) : lowercase (lowercase s) = lowercase s := by
  unfold lowercase
  rw [String.toList_ofList, lowerAfter_of_stays fun _ hd => stays_of_mem_lowerAfter hd]

end Chars

/-! ### Trimmed texts -/

section Trim
variable {c d : Char} {before cs : List Char}

theorem trimStart_eq_self_iff :
    trimStart cs = cs ↔ ∀ c, cs.head? = some c → isWhiteSpace c = false := by
  cases cs with
  | nil => exact iff_of_true rfl nofun
  | cons c rest =>
    rw [trimStart, List.dropWhile_eq_self_iff]
    simp

theorem trimEnd_eq_self_iff :
    trimEnd cs = cs ↔ ∀ c, cs.getLast? = some c → isWhiteSpace c = false := by
  rw [← List.head?_reverse, ← trimStart_eq_self_iff, trimEnd, List.reverse_eq_iff]

/-- What is trimmed begins and ends with no white space. -/
theorem ends_trim (s : String) :
    (∀ c, (trim s).toList.head? = some c → isWhiteSpace c = false) ∧
      ∀ c, (trim s).toList.getLast? = some c → isWhiteSpace c = false := by
  rw [trim, String.toList_ofList]
  have hstart := trimStart_eq_self_iff.mp (List.dropWhile_idempotent isWhiteSpace s.toList)
  refine ⟨fun c hc => hstart c ?_, trimEnd_eq_self_iff.mp (List.rdropWhile_idempotent ..)⟩
  -- what is dropped from the back leaves the front as it is
  obtain ⟨back, hback⟩ := List.rdropWhile_prefix isWhiteSpace (trimStart s.toList)
  have hne : trimEnd (trimStart s.toList) ≠ [] := by
    intro hnil
    rw [hnil] at hc
    cases hc
  have hhead : (trimEnd (trimStart s.toList) ++ back).head? =
      (trimEnd (trimStart s.toList)).head? := List.head?_append_of_ne_nil _ hne
  exact (congrArg List.head? hback).symm.trans (hhead.trans hc)

theorem trim_eq_self {s : String}
    (hstart : ∀ c, s.toList.head? = some c → isWhiteSpace c = false)
    (hend : ∀ c, s.toList.getLast? = some c → isWhiteSpace c = false) : trim s = s := by
  rw [trim, trimStart_eq_self_iff.mpr hstart, trimEnd_eq_self_iff.mpr hend, String.ofList_toList]

/-- Lower case begins with white space only if the text does. -/
theorem head?_lowerAfter (hd : (lowerAfter before cs).head? = some d) :
    ∃ c, cs.head? = some c ∧ (isWhiteSpace c = false → isWhiteSpace d = false) := by
  cases cs with
  | nil => cases hd
  | cons c rest =>
    rw [lowerAfter_cons, List.head?_append_of_ne_nil _ lowered_ne_nil] at hd
    exact ⟨c, rfl, (lowered_spec (List.mem_of_head? hd)).2⟩

/-- Nor does it end with any. -/
theorem getLast?_lowerAfter (hd : (lowerAfter before cs).getLast? = some d) :
    ∃ c, cs.getLast? = some c ∧ (isWhiteSpace c = false → isWhiteSpace d = false) := by
  induction cs generalizing before with
  | nil => cases hd
  | cons c rest ih =>
    rw [lowerAfter_cons] at hd
    cases rest with
    | nil =>
      rw [lowerAfter, List.append_nil] at hd
      exact ⟨c, rfl, (lowered_spec (List.mem_of_getLast? hd)).2⟩
    | cons c' rest =>
      have hne : lowerAfter (c :: before) (c' :: rest) ≠ [] :=
        List.append_ne_nil_of_left_ne_nil lowered_ne_nil _
      rw [List.getLast?_append_of_ne_nil _ hne] at hd
      rw [List.getLast?_cons_cons]
      exact ih hd

/-- **What is trimmed stays so in lower case.** -/
theorem trim_lowercase_trim (s : String) : trim (lowercase (trim s)) = lowercase (trim s) := by
  obtain ⟨hstart, hend⟩ := ends_trim s
  refine trim_eq_self (fun d hd => ?_) fun d hd => ?_
  · rw [lowercase, String.toList_ofList] at hd
    obtain ⟨c, hc, hwhite⟩ := head?_lowerAfter hd
    exact hwhite (hstart c hc)
  · rw [lowercase, String.toList_ofList] at hd
    obtain ⟨c, hc, hwhite⟩ := getLast?_lowerAfter hd
    exact hwhite (hend c hc)

/-- White space around a text makes no difference to what is trimmed. -/
theorem trim_append {front back : String} (hfront : isBlank front = true)
    (hback : isBlank back = true) (s : String) : trim (front ++ s ++ back) = trim s := by
  have hfront : ∀ c ∈ front.toList, isWhiteSpace c = true := List.all_eq_true.mp hfront
  have hback : ∀ c ∈ back.toList, isWhiteSpace c = true := List.all_eq_true.mp hback
  have hend : ∀ xs, trimEnd (xs ++ back.toList) = trimEnd xs := fun xs => by
    rw [trimEnd, trimEnd, List.reverse_append, trimStart,
      List.dropWhile_append_of_pos fun c hc => hback c (List.mem_reverse.mp hc)]
    rfl
  rw [trim, trim, String.toList_append, String.toList_append, List.append_assoc, trimStart,
    List.dropWhile_append_of_pos hfront, List.dropWhile_append]
  split
  · rename_i hempty
    rw [List.dropWhile_eq_nil_iff.mpr hback, trimStart, List.isEmpty_iff.mp hempty]
  · rw [hend]
    rfl

end Trim

/-! ### Letters of ASCII -/

section Letters
variable {c : Char} {before cs : List Char}

/-- What is true of each of the capital letters is true of all that are lowered. -/
theorem of_toLower {P : Char → Char → Prop} (hsame : ∀ c, P c c)
    (hcapital : ∀ n ∈ List.range' 65 26, P (Char.ofNat n) (Char.ofNat n).toLower) (c : Char) :
    P c c.toLower := by
  by_cases h : c.isUpper = true
  · have hcode : c.val ≥ 'A'.val ∧ c.val ≤ 'Z'.val := of_decide_eq_true h
    have hlow : 65 ≤ c.toNat := UInt32.le_iff_toNat_le.mp hcode.1
    have hhigh : c.toNat ≤ 90 := UInt32.le_iff_toNat_le.mp hcode.2
    have hc := hcapital c.toNat (List.mem_range'_1.mpr ⟨hlow, by omega⟩)
    rwa [Char.ofNat_toNat] at hc
  · rw [Char.toLower_eq_of_not_isUpper h]
    exact hsame c

theorem isWhiteSpace_toLower (c : Char) : isWhiteSpace c.toLower = isWhiteSpace c :=
  of_toLower (P := fun c d => isWhiteSpace d = isWhiteSpace c) (fun _ => rfl) (by decide +kernel) c

theorem isCased_toLower (c : Char) : isCased c.toLower = isCased c :=
  of_toLower (P := fun c d => isCased d = isCased c) (fun _ => rfl) (by decide +kernel) c

theorem isCaseIgnorable_toLower (c : Char) : isCaseIgnorable c.toLower = isCaseIgnorable c :=
  of_toLower (P := fun c d => isCaseIgnorable d = isCaseIgnorable c) (fun _ => rfl)
    (by decide +kernel) c

theorem lowerChar_toLower (c : Char) : lowerChar c.toLower = lowerChar c :=
  of_toLower (P := fun c d => lowerChar d = lowerChar c) (fun _ => rfl) (by decide +kernel) c

theorem toLower_eq_sigma_iff (c : Char) : c.toLower = '\u03A3' ↔ c = '\u03A3' :=
  of_toLower (P := fun c d => d = '\u03A3' ↔ c = '\u03A3') (fun _ => Iff.rfl)
    (by decide +kernel) c

theorem startsCased_map_toLower (cs : List Char) :
    startsCased (cs.map Char.toLower) = startsCased cs := by
  have hignorable : isCaseIgnorable ∘ Char.toLower = isCaseIgnorable :=
    funext isCaseIgnorable_toLower
  unfold startsCased
  rw [List.dropWhile_map, hignorable]
  cases cs.dropWhile isCaseIgnorable with
  | nil => rfl
  | cons c rest => exact isCased_toLower c

theorem lowerAfter_map_toLower :
    lowerAfter (before.map Char.toLower) (cs.map Char.toLower) = lowerAfter before cs := by
  induction cs generalizing before with
  | nil => rfl
  | cons c rest ih =>
    have hone : lowered (before.map Char.toLower) c.toLower (rest.map Char.toLower) =
        lowered before c rest := by
      unfold lowered
      simp only [toLower_eq_sigma_iff, startsCased_map_toLower, lowerChar_toLower]
    rw [List.map_cons, lowerAfter_cons, hone, ← List.map_cons, ih, lowerAfter_cons]

/-- **Lower case does not depend on the case of letters of ASCII.** -/
theorem lowercase_asciiLower (s : String) : lowercase (asciiLower s) = lowercase s := by
  unfold lowercase asciiLower
  rw [String.toList_ofList]
  exact congrArg String.ofList (@lowerAfter_map_toLower [] s.toList)

/-- Nor does what is trimmed. -/
theorem trim_asciiLower (s : String) : trim (asciiLower s) = asciiLower (trim s) := by
  have hwhite : isWhiteSpace ∘ Char.toLower = isWhiteSpace := funext isWhiteSpace_toLower
  have hstart (cs : List Char) :
      trimStart (cs.map Char.toLower) = (trimStart cs).map Char.toLower := by
    rw [trimStart, List.dropWhile_map, hwhite]
    rfl
  unfold trim asciiLower
  rw [String.toList_ofList, String.toList_ofList, hstart, trimEnd, ← List.map_reverse, hstart,
    ← List.map_reverse]
  rfl

end Letters

end Storefront.Text
