/-! # White space around and between words

A text is *blank* when every character of it has Unicode's White_Space property,
and `trim` takes such characters off both ends.  The property is a short fixed
list of code points, so it is written out here.
-/
namespace Storefront.Text

/-- The characters with Unicode's White_Space property. -/
def isWhiteSpace (c : Char) : Bool :=
  let n := c.toNat
  (9 ≤ n && n ≤ 13) || n == 0x20 || n == 0x85 || n == 0xA0 || n == 0x1680 ||
    (0x2000 ≤ n && n ≤ 0x200A) || n == 0x2028 || n == 0x2029 || n == 0x202F ||
    n == 0x205F || n == 0x3000

/-- The characters left after white space is dropped from the front. -/
def trimStart (cs : List Char) : List Char := cs.dropWhile isWhiteSpace

/-- The characters left after white space is dropped from the back. -/
def trimEnd (cs : List Char) : List Char := (trimStart cs.reverse).reverse

/-- The text without the white space at its two ends. -/
def trim (s : String) : String := String.ofList (trimEnd (trimStart s.toList))

/-- Whether nothing is left of a text once it is trimmed. -/
def isBlank (s : String) : Bool := s.toList.all isWhiteSpace

theorem trimStart_eq_nil {cs : List Char} : trimStart cs = [] ↔ cs.all isWhiteSpace = true := by
  induction cs with
  | nil => simp [trimStart]
  | cons c cs ih =>
    by_cases h : isWhiteSpace c <;> simp_all [trimStart]

/-- **Blank means that trimming leaves nothing.** -/
theorem trim_eq_empty {s : String} : trim s = "" ↔ isBlank s = true := by
  have hnil : ∀ cs : List Char, String.ofList cs = "" ↔ cs = [] := by
    intro cs
    constructor
    · intro h
      have := congrArg String.toList h
      simpa using this
    · rintro rfl
      rfl
  unfold trim isBlank
  rw [hnil, trimEnd, List.reverse_eq_nil_iff, trimStart_eq_nil, List.all_reverse]
  constructor
  · intro h
    by_cases hn : trimStart s.toList = []
    · exact trimStart_eq_nil.mp hn
    · exfalso
      have hd := List.head_dropWhile_not (p := isWhiteSpace) (l := s.toList) hn
      have hm : (trimStart s.toList).head hn ∈ trimStart s.toList := List.head_mem hn
      have := List.all_eq_true.mp h _ hm
      simp_all [trimStart]
  · intro h
    rw [trimStart_eq_nil.mpr h]
    rfl

end Storefront.Text
