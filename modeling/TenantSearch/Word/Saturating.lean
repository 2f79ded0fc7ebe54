/-!
# `TenantSearch.Word.Saturating`: results clipped to a machine word

Page numbers, limits and durations live in 64-bit words. Arithmetic on them is done on the
exact integer, and the result is clipped to the range of the word. `toInt_saturate` says what
the word then holds, so later proofs stay in `Int`.
-/

set_option autoImplicit false

namespace TenantSearch.Word

/-- The smallest and the largest signed 64-bit value. -/
def minSigned : Int := -0x8000000000000000

@[inherit_doc minSigned]
def maxSigned : Int := 0x7fffffffffffffff

/-- The largest unsigned 64-bit value. -/
def maxUnsigned : Nat := 0xffffffffffffffff

/-- The largest unsigned 16-bit value and the largest one of 32 bits. -/
def maxUnsigned16 : Nat := 0xffff

@[inherit_doc maxUnsigned16]
def maxUnsigned32 : Nat := 0xffffffff

/-- The integer `n`, clipped to the signed 64-bit range. -/
def saturate (n : Int) : Int64 :=
  Int64.ofInt (max minSigned (min n maxSigned))

/-- The word that holds `n`, when one does. -/
def ofInt? (n : Int) : Option Int64 :=
  if minSigned ≤ n ∧ n ≤ maxSigned then some (Int64.ofInt n) else none

/-- The word nearest to an integer. -/
theorem toInt_saturate (n : Int) :
    (saturate n).toInt = max minSigned (min n maxSigned) := by
  unfold saturate
  apply Int64.toInt_ofInt_of_le <;> simp only [minSigned, maxSigned] <;> omega

/-- No word is below the least one. -/
theorem minSigned_le_toInt (w : Int64) : minSigned ≤ w.toInt :=
  Int64.le_toInt w

/-- No word is above the largest one. -/
theorem toInt_le_maxSigned (w : Int64) : w.toInt ≤ maxSigned := by
  have := Int64.toInt_lt w
  simp only [maxSigned]
  omega

/-- Every word is found again from its integer. -/
theorem ofInt?_toInt (w : Int64) : ofInt? w.toInt = some w := by
  simp [ofInt?, minSigned_le_toInt, toInt_le_maxSigned]

end TenantSearch.Word
