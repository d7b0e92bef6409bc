import Storefront.Proofs.Digits

/-! # Instants as text

An instant is written part by part, each number filled up with zeros to its width, and
is read back from that text.  The zeros tell the reader where a part ends, so no part
depends on what stands behind it; only a year beyond four digits, which has a sign, goes
on as long as there are digits.
-/
namespace Storefront.Timestamp

/-! ### Numbers of a width -/

theorem toList_padded (width n : Nat) :
    (padded width n).toList =
      List.replicate (width - (digitsOf n).length) '0' ++ digitsOf n := by
  have hlength : (toString n).length = (digitsOf n).length := by
    rw [← String.length_toList, toList_toString]
  rw [padded, String.toList_append, String.toList_ofList, toList_toString, hlength]

theorem isDigit_of_mem_padded {width n : Nat} {c : Char} (h : c ∈ (padded width n).toList) :
    c.isDigit = true := by
  rw [toList_padded, List.mem_append] at h
  rcases h with h | h
  · rw [List.eq_of_mem_replicate h]
    rfl
  · exact isDigit_of_mem h

theorem isEmpty_padded (width n : Nat) : (padded width n).toList.isEmpty = false := by
  rw [List.isEmpty_eq_false_iff, toList_padded]
  exact List.append_ne_nil_of_right_ne_nil _ (digitsOf_ne_nil n)

theorem exists_padded (width n : Nat) :
    ∃ c cs, (padded width n).toList = c :: cs ∧ c.isDigit = true := by
  obtain ⟨c, cs, h⟩ := List.exists_cons_of_ne_nil
    (List.isEmpty_eq_false_iff.mp (isEmpty_padded width n))
  exact ⟨c, cs, h, isDigit_of_mem_padded (h ▸ List.mem_cons_self)⟩

theorem digitsValue_toList_padded (width n : Nat) : digitsValue (padded width n).toList = n := by
  rw [toList_padded, digitsValue_padded]

/-- A number that fits the width takes all of it. -/
theorem length_padded {width n : Nat} (hwidth : 0 < width) (hn : n < 10 ^ width) :
    (padded width n).toList.length = width := by
  have hdigits : (digitsOf n).length ≤ width :=
    (Nat.length_toDigits_le_iff (by decide) hwidth).mpr hn
  rw [toList_padded, List.length_append, List.length_replicate]
  omega

/-- A number of a width is read, whatever stands behind it. -/
theorem number?_padded {width n : Nat} (hwidth : 0 < width) (hn : n < 10 ^ width)
    (rest : List Char) :
    number? (some width) ((padded width n).toList ++ rest) = some (n, rest) := by
  have hdigits : ∀ c ∈ (padded width n).toList, c.isDigit = true :=
    fun c hc => isDigit_of_mem_padded hc
  have hlength := length_padded hwidth hn
  have hrun : (((padded width n).toList ++ rest).takeWhile Char.isDigit).take width =
      (padded width n).toList := by
    rw [List.takeWhile_append_of_pos hdigits]
    exact List.take_left' hlength
  simp only [number?, hrun]
  rw [if_neg (by rw [isEmpty_padded]; decide), digitsValue_toList_padded, List.drop_left]

/-- A number of any width ends where no digit follows. -/
theorem number?_none_padded (width n : Nat) {rest : List Char} (hrest : NoDigit rest) :
    number? none ((padded width n).toList ++ rest) = some (n, rest) := by
  have hdigits : ∀ c ∈ (padded width n).toList, c.isDigit = true :=
    fun c hc => isDigit_of_mem_padded hc
  simp only [number?, takeWhile_digits hdigits hrest]
  rw [if_neg (by rw [isEmpty_padded]; decide), digitsValue_toList_padded, List.drop_left]

/-! ### The parts of an instant -/

theorem isWhiteSpace_of_isDigit {c : Char} (h : c.isDigit = true) :
    Text.isWhiteSpace c = false := by
  have hrange : 48 ≤ c.toNat ∧ c.toNat ≤ 57 := Char.isDigit_iff_toNat.mp h
  simp only [Text.isWhiteSpace, Bool.or_eq_false_iff, Bool.and_eq_false_iff, beq_eq_false_iff_ne,
    decide_eq_false_iff_not]
  omega

theorem trimStart_cons {c : Char} (h : Text.isWhiteSpace c = false) (cs : List Char) :
    Text.trimStart (c :: cs) = c :: cs := by
  simp [Text.trimStart, h]

theorem trimStart_padded (width n : Nat) (rest : List Char) :
    Text.trimStart ((padded width n).toList ++ rest) = (padded width n).toList ++ rest := by
  obtain ⟨c, cs, hcs, hc⟩ := exists_padded width n
  rw [hcs]
  exact trimStart_cons (isWhiteSpace_of_isDigit hc) _

theorem twoDigits?_padded {n : Nat} (hn : n < 100) (rest : List Char) :
    twoDigits? ((padded 2 n).toList ++ rest) = some (n, rest) := by
  rw [twoDigits?, trimStart_padded, number?_padded (by decide) hn]

theorem separator?_cons {c : Char} (h : Text.isWhiteSpace c = false) (rest : List Char) :
    separator? c (c :: rest) = some rest := by
  simp [separator?, trimStart_cons h]

/-- A year is read back in each of its three forms. -/
theorem year?_yearText (year : Int) {rest : List Char} (hrest : NoDigit rest) :
    year? ((yearText year).toList ++ rest) = some (year, rest) := by
  unfold yearText
  split
  · next hneg =>
    rw [String.toList_append, List.append_assoc]
    have hsign : "-".toList = ['-'] := rfl
    rw [hsign, List.singleton_append, year?, trimStart_cons (by decide)]
    simp only [number?_none_padded 4 _ hrest, Option.map_some, Option.some.injEq, Prod.mk.injEq,
      and_true]
    omega
  · split
    · next hneg hfour =>
      obtain ⟨c, cs, hcs, hc⟩ := exists_padded 4 year.natAbs
      have hfits : year.natAbs < 10 ^ 4 := by omega
      have hread := number?_padded (by decide) hfits rest
      rw [year?, trimStart_padded]
      split
      · next heq =>
        rw [hcs, List.cons_append, List.cons.injEq] at heq
        rw [heq.1] at hc
        exact absurd hc (by decide)
      · next heq =>
        rw [hcs, List.cons_append, List.cons.injEq] at heq
        rw [heq.1] at hc
        exact absurd hc (by decide)
      · rw [hread]
        simp
        omega
    · next hneg hfour =>
      rw [String.toList_append, List.append_assoc]
      have hsign : "+".toList = ['+'] := rfl
      rw [hsign, List.singleton_append, year?, trimStart_cons (by decide)]
      simp only [number?_none_padded 4 _ hrest, Option.map_some, Option.some.injEq, Prod.mk.injEq,
        and_true]
      omega

/-- A fraction of a width is read as so many billionths. -/
theorem fraction?_padded {width n : Nat} (hpos : 0 < width) (hwidth : width ≤ 9)
    (hn : n < 10 ^ width) {rest : List Char} (hrest : NoDigit rest) :
    fraction? ('.' :: ((padded width n).toList ++ rest)) = some (n * 10 ^ (9 - width), rest) := by
  have hdigits : ∀ c ∈ (padded width n).toList, c.isDigit = true :=
    fun c hc => isDigit_of_mem_padded hc
  have hlength := length_padded hpos hn
  have htake : (padded width n).toList.take 9 = (padded width n).toList :=
    List.take_of_length_le (by omega)
  simp only [fraction?, takeWhile_digits hdigits hrest, dropWhile_digits hdigits hrest, htake,
    digitsValue_toList_padded, hlength]
  rw [if_neg (by rw [isEmpty_padded]; decide)]
  rfl

/-- The digits of a second tell its billionths. -/
theorem fraction?_fractionText {nanosecond : Nat} (h : nanosecond < 1000000000)
    {rest : List Char} (hrest : NoDigit rest) (hpoint : rest.head? ≠ some '.') :
    fraction? ((fractionText nanosecond).toList ++ rest) = some (nanosecond, rest) := by
  have hpointed : ∀ s : String, ("." ++ s).toList ++ rest = '.' :: (s.toList ++ rest) := by
    intro s
    simp
  unfold fractionText
  split
  · next hzero =>
    subst hzero
    cases rest with
    | nil => rfl
    | cons c rest =>
      have hc : c ≠ '.' := by simpa using hpoint
      simp [fraction?, hc]
  split
  · next hmilli =>
    rw [hpointed, fraction?_padded (by decide) (by decide) (by omega) hrest]
    simp
    omega
  split
  · next hmicro =>
    rw [hpointed, fraction?_padded (by decide) (by decide) (by omega) hrest]
    simp
    omega
  · rw [hpointed, fraction?_padded (by decide) (by decide) (by omega) hrest]
    simp

/-! ### The instant -/

/-- Clocks on the zero meridian show the instant itself. -/
theorem ofLocal?_zero (t : Timestamp) : ofLocal? t 0 = some t := by
  have hvalid := t.valid
  simp only [isValid, Bool.and_eq_true, decide_eq_true_eq] at hvalid
  obtain ⟨⟨⟨⟨-, hhour⟩, hminute⟩, -⟩, -⟩ := hvalid
  have hday : ((t.hour * 60 + t.minute : Nat) - (0 : Int)) / 1440 = 0 := by omega
  have hhours : (((t.hour * 60 + t.minute : Nat) - (0 : Int)) % 1440).toNat / 60 = t.hour := by
    omega
  have hminutes : (((t.hour * 60 + t.minute : Nat) - (0 : Int)) % 1440).toNat % 60 = t.minute := by
    omega
  simp only [ofLocal?, hday, hhours, hminutes]
  simp [Date.shift, make?, t.valid]

theorem daysIn_le (year : Int) (month : Nat) : Date.daysIn year month ≤ 31 := by
  unfold Date.daysIn
  split
  · split <;> decide
  all_goals decide

/-- **An instant is read back from its text.** -/
theorem parse?_text (t : Timestamp) : parse? t.text = some t := by
  have hvalid := t.valid
  simp only [isValid, Date.isValid, Bool.and_eq_true, decide_eq_true_eq] at hvalid
  obtain ⟨⟨⟨⟨⟨⟨⟨-, hmonth⟩, -⟩, hday⟩, hhour⟩, hminute⟩, hsecond⟩, hnano⟩ := hvalid
  have hdays := daysIn_le t.date.year t.date.month
  have htext : t.text.toList =
      (yearText t.date.year).toList ++ '-' :: ((padded 2 t.date.month).toList ++
        '-' :: ((padded 2 t.date.day).toList ++ 'T' :: ((padded 2 t.hour).toList ++
          ':' :: ((padded 2 t.minute).toList ++ ':' :: ((padded 2 t.second).toList ++
            ((fractionText t.nanosecond).toList ++ ['Z'])))))) := by
    simp [text]
  have hdash : Text.isWhiteSpace '-' = false := by decide
  have hcolon : Text.isWhiteSpace ':' = false := by decide
  have hfraction : fraction? ((fractionText t.nanosecond).toList ++ ['Z']) =
      some (t.nanosecond, ['Z']) :=
    fraction?_fractionText hnano (noDigit_cons.mpr (by decide)) (by decide)
  have hzone : offset? (Text.trimStart ['Z']) = some (0, []) := by
    rw [trimStart_cons (by decide)]
    rfl
  have hshown : make? ⟨t.date.year, t.date.month, t.date.day⟩ t.hour t.minute t.second
      t.nanosecond = some t := by simp [make?, t.valid]
  rw [parse?, htext]
  -- the parts are read from the left to the right
  refine Option.bind_eq_some_iff.mpr
    ⟨_, year?_yearText _ (noDigit_cons.mpr (by decide)), ?_⟩
  refine Option.bind_eq_some_iff.mpr ⟨_, separator?_cons hdash _, ?_⟩
  refine Option.bind_eq_some_iff.mpr ⟨_, twoDigits?_padded (by omega) _, ?_⟩
  refine Option.bind_eq_some_iff.mpr ⟨_, separator?_cons hdash _, ?_⟩
  refine Option.bind_eq_some_iff.mpr ⟨_, twoDigits?_padded (by omega) _, ?_⟩
  refine Option.bind_eq_some_iff.mpr ⟨_, rfl, ?_⟩
  refine Option.bind_eq_some_iff.mpr ⟨_, twoDigits?_padded (by omega) _, ?_⟩
  refine Option.bind_eq_some_iff.mpr ⟨_, separator?_cons hcolon _, ?_⟩
  refine Option.bind_eq_some_iff.mpr ⟨_, twoDigits?_padded (by omega) _, ?_⟩
  refine Option.bind_eq_some_iff.mpr ⟨_, separator?_cons hcolon _, ?_⟩
  refine Option.bind_eq_some_iff.mpr ⟨_, twoDigits?_padded (by omega) _, ?_⟩
  refine Option.bind_eq_some_iff.mpr ⟨_, hfraction, ?_⟩
  refine Option.bind_eq_some_iff.mpr ⟨_, hzone, ?_⟩
  refine Option.bind_eq_some_iff.mpr ⟨_, hshown, ?_⟩
  exact ofLocal?_zero t

end Storefront.Timestamp
