/-!
# `TenantSearch.Text.Blank`: blank characters

A character is blank when Unicode gives it the property `White_Space`. The class has 25
members, and core's `Char.isWhitespace` names four of them.
-/

set_option autoImplicit false

namespace TenantSearch.Text

/-- The members of `White_Space`, as first and last code points. -/
def blankRanges : List (Nat × Nat) :=
  [(0x09, 0x0D), (0x20, 0x20), (0x85, 0x85), (0xA0, 0xA0), (0x1680, 0x1680),
   (0x2000, 0x200A), (0x2028, 0x2029), (0x202F, 0x202F), (0x205F, 0x205F),
   (0x3000, 0x3000)]

/-- Whether the character is blank. -/
def isBlank (c : Char) : Bool :=
  blankRanges.any fun (first, last) => first ≤ c.toNat && c.toNat ≤ last

/-- The text without the blank characters at its two ends. -/
def trim (s : String) : String :=
  String.ofList ((s.toList.dropWhile isBlank).reverse.dropWhile isBlank).reverse

end TenantSearch.Text
