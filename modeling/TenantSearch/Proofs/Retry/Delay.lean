import Mathlib.Algebra.Group.Nat.Defs
import Mathlib.Order.Lattice
import TenantSearch.Retry.Delay

/-!
# `TenantSearch.Proofs.Retry.Delay`: how delays grow

Both kinds of delay are a number that grows with the attempt, clipped to the longest value that
fits. So neither of them ever gets shorter, and a linear delay gets longer for as long as it is not
clipped. It is clipped at some attempt when the base is long enough, and then it stays the same
(`linearDelay_strictMono_false`).
-/

set_option autoImplicit false

namespace TenantSearch.Retry

open TenantSearch.Time (Duration)

/-- The delay in exact numbers, for every number of an attempt. -/
theorem nanos_exponentialDelay (attempt : UInt32) (base : UInt64) :
    (exponentialDelay attempt base).nanos =
      min (base.toNat * 2 ^ (attempt.toNat - 1)) (2 ^ 64 - 1) * Time.nanosPerMilli := by
  rw [exponentialDelay, Duration.nanos_ofMillis, toNat_doubledMillis]
  rfl

/-- Later delays are not shorter. -/
theorem exponentialDelay_mono {attempt later : UInt32} (base : UInt64)
    (h : attempt.toNat ≤ later.toNat) :
    exponentialDelay attempt base ≤ exponentialDelay later base := by
  rw [Duration.le_def, nanos_exponentialDelay, nanos_exponentialDelay]
  have hpow : 2 ^ (attempt.toNat - 1) ≤ 2 ^ (later.toNat - 1) :=
    Nat.pow_le_pow_right (by decide) (Nat.sub_le_sub_right h 1)
  have hproduct := Nat.mul_le_mul_left base.toNat hpow
  exact Nat.mul_le_mul_right _ (inf_le_inf_right _ hproduct)

/-- The number of the next attempt, as long as it is a word. -/
theorem toNat_succ_of_lt {attempt : UInt32} (h : attempt.toNat + 1 < UInt32.size) :
    (attempt + 1).toNat = attempt.toNat + 1 := by
  rw [UInt32.toNat_add]
  exact Nat.mod_eq_of_lt h

/-- The linear delay in exact numbers. The number of an attempt counts from one. -/
theorem nanos_linearDelay (attempt : UInt32) (base : Duration) :
    (linearDelay attempt base).nanos = min (base.nanos * max attempt.toNat 1) Time.maxNanos := rfl

/-- The next delay is longer exactly when there is a next attempt and this delay is neither zero nor
the longest span. -/
theorem linearDelay_lt_succ_iff (attempt : UInt32) (base : Duration) :
    linearDelay attempt base < linearDelay (attempt + 1) base ↔
      (1 ≤ attempt.toNat ∧ attempt.toNat + 1 < UInt32.size) ∧
        0 < base.nanos ∧ base.nanos * attempt.toNat < Time.maxNanos := by
  rw [Duration.lt_def, nanos_linearDelay, nanos_linearDelay]
  by_cases hnext : 1 ≤ attempt.toNat ∧ attempt.toNat + 1 < UInt32.size
  · rw [toNat_succ_of_lt hnext.2, Nat.max_eq_left hnext.1, Nat.max_eq_left (by omega),
      Nat.mul_succ]
    omega
  · -- The number wraps around, or zero counts as one.
    have hle : max (attempt + 1).toNat 1 ≤ max attempt.toNat 1 := by
      have hword := attempt.toNat_lt
      have hone : (1 : UInt32).toNat = 1 := rfl
      simp only [UInt32.size] at hnext
      rw [UInt32.toNat_add, hone]
      omega
    have hproduct := Nat.mul_le_mul_left base.nanos hle
    omega

/-- The delay is not longer with each attempt. From some attempt on, it is the longest span. -/
theorem linearDelay_strictMono_false :
    ¬ ∀ (base : Duration) (attempt : UInt32), 0 < base.nanos → 1 ≤ attempt.toNat →
      attempt.toNat + 1 < UInt32.size →
        linearDelay attempt base < linearDelay (attempt + 1) base := by
  intro hlonger
  have h := hlonger (Duration.ofMillis 0xffffffffffffffff) 1001 (by decide) (by decide) (by decide)
  exact absurd h (by decide)

end TenantSearch.Retry
