import TenantSearch.Word.Saturating

/-!
# `TenantSearch.Time.Duration`: spans of time

A span counts nanoseconds. The longest one has `2 ^ 64 - 1` whole seconds and 999 999 999
nanoseconds more, and longer results are clipped to it.
-/

set_option autoImplicit false

namespace TenantSearch.Time

/-- How many nanoseconds a second has. -/
def nanosPerSecond : Nat := 1000000000

/-- How many nanoseconds a millisecond has. -/
def nanosPerMilli : Nat := 1000000

/-- The nanoseconds of the longest span. -/
def maxNanos : Nat := Word.maxUnsigned * nanosPerSecond + (nanosPerSecond - 1)

/-- A span of time. -/
@[ext]
structure Duration where
  nanos : Nat
  nanos_le : nanos ≤ maxNanos
deriving DecidableEq

namespace Duration

/-- The span of `n` nanoseconds, clipped to the longest one. -/
def saturate (n : Nat) : Duration :=
  ⟨min n maxNanos, Nat.min_le_right _ _⟩

/-- Saturation stops at the longest duration. -/
@[simp]
theorem nanos_saturate (n : Nat) : (saturate n).nanos = min n maxNanos := rfl

instance : LE Duration := ⟨fun a b => a.nanos ≤ b.nanos⟩

instance : LT Duration := ⟨fun a b => a.nanos < b.nanos⟩

/-- Durations are compared by their nanoseconds. -/
theorem le_def {a b : Duration} : a ≤ b ↔ a.nanos ≤ b.nanos := Iff.rfl

/-- One duration is shorter than another if it has fewer nanoseconds. -/
theorem lt_def {a b : Duration} : a < b ↔ a.nanos < b.nanos := Iff.rfl

instance (a b : Duration) : Decidable (a ≤ b) := inferInstanceAs (Decidable (a.nanos ≤ b.nanos))

instance (a b : Duration) : Decidable (a < b) := inferInstanceAs (Decidable (a.nanos < b.nanos))

/-- The span of no time. -/
def zero : Duration := ⟨0, Nat.zero_le _⟩

/-- The span of `n` seconds. -/
def ofSeconds (n : UInt64) : Duration := saturate (n.toNat * nanosPerSecond)

/-- The span of `n` milliseconds. -/
def ofMillis (n : UInt64) : Duration := saturate (n.toNat * nanosPerMilli)

/-- The span of `n` microseconds. -/
def ofMicros (n : UInt64) : Duration := saturate (n.toNat * 1000)

/-- The span of `n` seconds and `k` nanoseconds. -/
def ofParts (n : UInt64) (k : Nat) : Duration := saturate (n.toNat * nanosPerSecond + k)

/-- The span `k` times over, clipped to the longest one. -/
def times (d : Duration) (k : Nat) : Duration := saturate (d.nanos * k)

/-- The longer of two spans. -/
def max (a b : Duration) : Duration := if a.nanos ≤ b.nanos then b else a

/-- The whole seconds of the span. -/
def seconds (d : Duration) : Nat := d.nanos / nanosPerSecond

/-- What the span has beyond its whole seconds, in nanoseconds. -/
def subsecond (d : Duration) : Nat := d.nanos % nanosPerSecond

/-- The whole milliseconds of the span. -/
def millis (d : Duration) : Nat := d.nanos / nanosPerMilli

/-- Milliseconds in 64 bits are never clipped. -/
theorem nanos_ofMillis (n : UInt64) : (ofMillis n).nanos = n.toNat * nanosPerMilli := by
  have := n.toNat_lt
  simp only [ofMillis, nanos_saturate, maxNanos, nanosPerMilli, nanosPerSecond,
    Word.maxUnsigned]
  omega

end Duration

end TenantSearch.Time
