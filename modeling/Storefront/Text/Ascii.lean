/-! # ASCII letters

Currency codes, status names and settings are compared without regard to the case
of ASCII letters; every other character stands for itself.
-/
namespace Storefront.Text

/-- The text with the letters `a` to `z` raised. -/
def asciiUpper (s : String) : String := String.ofList (s.toList.map Char.toUpper)

/-- The text with the letters `A` to `Z` lowered. -/
def asciiLower (s : String) : String := String.ofList (s.toList.map Char.toLower)

/-- Whether two texts agree once ASCII letters are lowered. -/
def eqIgnoringCase (s t : String) : Bool := asciiLower s == asciiLower t

end Storefront.Text
