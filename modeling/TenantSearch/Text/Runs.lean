/-!
# `TenantSearch.Text.Runs`: character classes as run lengths

A class of characters beyond ASCII is stored as the lengths of its runs, from U+0080 on. The
lengths alternate: first of a run outside the class, then of a run inside, and so on. What
comes after the last run is outside.
-/

set_option autoImplicit false

namespace TenantSearch.Text

/-- Whether position `n` lies in a run inside the class. -/
def inRuns : List Nat → Nat → Bool
  | outside :: inside :: rest, n =>
    if n < outside then false
    else if n < outside + inside then true
    else inRuns rest (n - (outside + inside))
  | _, _ => false

/-- Whether the character is beyond ASCII and in the class. -/
def inClass (runs : List Nat) (c : Char) : Bool :=
  0x80 ≤ c.toNat && inRuns runs (c.toNat - 0x80)

end TenantSearch.Text
