import TenantSearch.Time.Duration

/-!
# `TenantSearch.Retry.Delay`: how long to wait before the next attempt

A failed call is repeated after delays that double, and a state that is awaited is looked for
after delays that grow by the same span each time. Both are exact up to the longest value that
fits, and stay there.
-/

set_option autoImplicit false

namespace TenantSearch.Retry

open TenantSearch.Time (Duration)

/-- The milliseconds `base · 2 ^ doublings`, clipped to 64 bits. -/
def doubledMillis (doublings : Nat) (base : UInt64) : UInt64 :=
  if doublings < 64 then UInt64.ofNat (min (base.toNat * Nat.pow 2 doublings) Word.maxUnsigned)
  else if base = 0 then 0
  else UInt64.ofNat Word.maxUnsigned

/-- The delay after failed attempt number `attempt`, counted from one. -/
def exponentialDelay (attempt : UInt32) (base : UInt64) : Duration :=
  Duration.ofMillis (doubledMillis (attempt.toNat - 1) base)

/-- The delay after probe number `attempt`, counted from one. -/
def linearDelay (attempt : UInt32) (base : Duration) : Duration :=
  base.times (max attempt.toNat 1)

/-- The shortcut for many doublings gives the clipped product as well. With 64 doublings or more
every base but zero is clipped, so the power need not be computed. -/
theorem toNat_doubledMillis (doublings : Nat) (base : UInt64) :
    (doubledMillis doublings base).toNat =
      min (base.toNat * Nat.pow 2 doublings) Word.maxUnsigned := by
  have fits : ∀ n : Nat, n ≤ Word.maxUnsigned → (UInt64.ofNat n).toNat = n := by
    intro n hn
    apply UInt64.toNat_ofNat_of_lt'
    simp only [Word.maxUnsigned, UInt64.size] at *
    omega
  unfold doubledMillis
  split
  · exact fits _ (Nat.min_le_right _ _)
  · rename_i many
    split
    · rename_i zero
      simp [zero]
    · rename_i nonzero
      have one : 1 ≤ base.toNat := by
        rcases Nat.eq_zero_or_pos base.toNat with h | h
        · exact absurd (UInt64.toNat_inj.1 h) nonzero
        · exact h
      have large : Nat.pow 2 64 ≤ Nat.pow 2 doublings :=
        Nat.pow_le_pow_right (n := 2) (by decide) (Nat.le_of_not_lt many)
      have size : Nat.pow 2 64 = 0x10000000000000000 := rfl
      rw [size] at large
      have product : 0x10000000000000000 ≤ base.toNat * Nat.pow 2 doublings :=
        Nat.le_trans large (Nat.le_mul_of_pos_left _ one)
      rw [fits _ (Nat.le_refl _), Nat.min_eq_right]
      simp only [Word.maxUnsigned]
      omega

end TenantSearch.Retry
