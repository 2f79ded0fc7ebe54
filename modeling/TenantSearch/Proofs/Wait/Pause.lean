import TenantSearch.Proofs.Retry.Delay
import TenantSearch.Proofs.Wait.Course

/-!
# `TenantSearch.Proofs.Wait.Pause`: how long the pauses of a wait are

Between two probes of a wait there is one pause, and the pauses grow by the base delay each time.
They do so up to the longest span and then stay there. `run_spaced` says when the next pause is
longer than the one before it. With a base delay in whole milliseconds, this holds of the first
thousand pauses at least, as the longest span of milliseconds in a word is about a thousandth of the
longest span.
-/

set_option autoImplicit false

namespace TenantSearch.Wait

open TenantSearch.Time (Duration maxNanos nanosPerMilli)

/-- How the probes of a wait follow each other. -/
structure Spaced (config : Config) (spans : List Span) : Prop where
  /-- A probe begins when the pause behind the answer of the one before it ends. -/
  began : ∀ n s s', spans[n]? = some s → spans[n + 1]? = some s' →
    ∃ t, s.answered = some t ∧ s'.began = pauseEnd t (pauseBehind config n)
  /-- The next pause is longer exactly when this one is shorter than the longest span. -/
  longer : ∀ n, n + 1 < spans.length →
    (pauseBehind config n < pauseBehind config (n + 1) ↔
      config.baseDelay.nanos * (n + 1) < maxNanos)
  /-- In any case, each of the first thousand is followed by a longer one. -/
  early : ∀ millis, config.baseDelay = .ofMillis millis → ∀ n < 1000, n + 1 < spans.length →
    pauseBehind config n < pauseBehind config (n + 1)

/-- A wait that ends has made its pauses, and so has one that breaks off. -/
inductive Paced (config : Config) : Course → Prop where
  | ended (r : Report) (spaced : Spaced config r.spans) : Paced config (.ok r)
  | brokenOff (b : Break) (spaced : Spaced config b.spans) : Paced config (.error b)

section

variable {config : Config} {setting : Setting}

/-- No base delay is zero. -/
theorem Config.baseDelay_pos (config : Config) : 0 < config.baseDelay.nanos :=
  Nat.lt_of_lt_of_le (by decide) config.min_le_baseDelay

/-- The pause behind a probe in exact numbers. -/
theorem nanos_pauseBehind {n : Nat} (h : n < config.maxAttempts.toNat) :
    (pauseBehind config n).nanos = min (config.baseDelay.nanos * (n + 1)) maxNanos := by
  have hnumber : (UInt32.ofNat (n + 1)).toNat = n + 1 := toNat_ofNat_of_le h
  rw [pauseBehind, Retry.nanos_linearDelay, hnumber, Nat.max_eq_left (Nat.succ_pos n)]

/-- The next pause is longer unless this one is clipped. -/
theorem pauseBehind_lt_succ_iff {n : Nat} (h : n + 1 < config.maxAttempts.toNat) :
    pauseBehind config n < pauseBehind config (n + 1) ↔
      config.baseDelay.nanos * (n + 1) < maxNanos := by
  have hbase := config.baseDelay_pos
  rw [Duration.lt_def, nanos_pauseBehind h, nanos_pauseBehind (Nat.lt_of_succ_lt h),
    Nat.mul_succ _ (n + 1)]
  omega

/-- A pause is at most twice as long as the one before it. -/
theorem pauseBehind_succ_le {n : Nat} (h : n + 1 < config.maxAttempts.toNat) :
    (pauseBehind config (n + 1)).nanos ≤ 2 * (pauseBehind config n).nanos := by
  have hbase : config.baseDelay.nanos ≤ config.baseDelay.nanos * (n + 1) :=
    Nat.le_mul_of_pos_right _ (Nat.succ_pos n)
  rw [nanos_pauseBehind h, nanos_pauseBehind (Nat.lt_of_succ_lt h), Nat.mul_succ _ (n + 1)]
  omega

/-- A thousand times the longest span of milliseconds in a word is not the longest span yet. -/
theorem nanos_ofMillis_mul_lt (millis : UInt64) {n : Nat} (h : n < 1000) :
    (Duration.ofMillis millis).nanos * (n + 1) < maxNanos := by
  have hword := millis.toNat_lt
  have hproduct : millis.toNat * (n + 1) ≤ (2 ^ 64 - 1) * 1000 :=
    Nat.mul_le_mul (by omega) (by omega)
  have hscale := Nat.mul_le_mul_right nanosPerMilli hproduct
  rw [Duration.nanos_ofMillis, Nat.mul_right_comm]
  exact hscale.trans_lt (by decide)

/-- The probes of a wait are as far apart as the pauses between them are long. They get longer each
time, until the product of the base delay and the number is clipped. -/
theorem Probed.spaced {spans opened : List Span} {count : Nat}
    (h : Probed config setting count opened spans) : Spaced config spans := by
  have hlonger : ∀ n, n + 1 < spans.length →
      (pauseBehind config n < pauseBehind config (n + 1) ↔
        config.baseDelay.nanos * (n + 1) < maxNanos) :=
    fun n hn => pauseBehind_lt_succ_iff (Nat.le_trans hn h.length_le)
  refine { began := ?began, longer := hlonger, early := ?early }
  case began =>
    intro n s s' hs hs'
    obtain ⟨hn, rfl⟩ | ⟨rfl, -, -⟩ := h.getElem?_spans hs
    · obtain ⟨-, rfl⟩ | ⟨-, rfl, -⟩ := h.getElem?_spans hs'
      · exact ⟨_, rfl, rfl⟩
      · exact ⟨_, rfl, rfl⟩
    · -- Behind an open span there is none.
      rcases h.getElem?_spans hs' with ⟨hlt, -⟩ | ⟨heq, -⟩ <;> omega
  case early =>
    intro millis hbase n hn hlt
    rw [hlonger n hlt, hbase]
    exact nanos_ofMillis_mul_lt millis hn

/-- Without probes there are no pauses to tell of. -/
theorem spaced_nil (config : Config) : Spaced config [] where
  began := by simp
  longer := by simp
  early := by simp

end

/-- The pauses of a wait get longer each time for as long as they are not clipped to the longest
span. -/
theorem run_spaced (config : Config) (expectation : Expectation) (timeout : Option Duration)
    (setting : Setting) :
    (∀ (attempt : UInt32) (base : Duration),
      Retry.linearDelay attempt base < Retry.linearDelay (attempt + 1) base ↔
        (1 ≤ attempt.toNat ∧ attempt.toNat + 1 < UInt32.size) ∧
          0 < base.nanos ∧ base.nanos * attempt.toNat < maxNanos) ∧
      Paced config (run config expectation timeout setting) := by
  refine ⟨Retry.linearDelay_lt_succ_iff, ?_⟩
  obtain ⟨_, -, -, hrun⟩ | ⟨-, n, hunfolds⟩ := run_unfolds config expectation timeout setting
  · rw [hrun]
    exact .brokenOff _ (spaced_nil config)
  obtain ⟨_, _, hprobed, -⟩ := hunfolds.probed
  have hspaced := hprobed.spaced
  cases hrun : run config expectation timeout setting with
  | error b =>
    rw [hrun] at hspaced
    exact .brokenOff b hspaced
  | ok r =>
    rw [hrun] at hspaced
    exact .ended r hspaced

end TenantSearch.Wait
