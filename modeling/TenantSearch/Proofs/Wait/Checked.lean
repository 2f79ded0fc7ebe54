import TenantSearch.Proofs.Wait.Deadline
import TenantSearch.Proofs.Wait.Pause

/-!
# `TenantSearch.Proofs.Wait.Checked`: the arithmetic of a wait

A wait counts its probes in a word, and with a timeout it computes moments that a clock has to
read. Each step of this arithmetic may fail, and a failure breaks the wait off. `BreaksOff` says
when one does, and `run_eq_error_iff` that nothing else breaks a wait off.

So the count never leaves its word: there is no step back before the first probe, and none beyond
the largest number of probes. The moments are another matter. A wait without a timeout computes
none. With a timeout, the moments are bounded by three times the timeout, the base delay and the
latency of one probe, as the pause before ended in time and no pause is more than twice as long as
the one before it (`BreaksOff.far`). But a timeout in seconds is any word, and the largest one is
beyond the range of every clock (`run_isOk_false`).
-/

set_option autoImplicit false

namespace TenantSearch.Wait

open TenantSearch.Time (Duration nanosPerMilli)

section

variable (config : Config) (expectation : Expectation) (timeout : Duration) (setting : Setting)

/-- How a wait with a timeout breaks off. -/
inductive BreaksOff : Break → Prop where
  /-- The clock cannot read the deadline. No probe begins. -/
  | deadline (beyond : lastInstant < setting.start + timeout.nanos) : BreaksOff ⟨.beyondLast, []⟩
  /-- The clock can read the deadline. The wait goes on behind the probes before `n`, and the clock
  cannot read the end of the pause behind probe `n`. -/
  | pause (n : Nat) (readable : setting.start + timeout.nanos ≤ lastInstant)
      (lt_max : n < config.maxAttempts.toNat)
      (goesOn : ∀ k < n, GoesOn config expectation timeout setting k)
      (unobserved : ¬ ObservedThrough config setting n)
      (unseen : ¬ Sees expectation setting n)
      (beyond : lastInstant < setting.start + pauseOver config setting n) :
      BreaksOff ⟨.beyondLast, (List.range (n + 1)).map (spanOf config setting)⟩

/-- A bound for the moments that the clock has to read up to the pause behind probe `n`. -/
def farReading (n : Nat) : Nat :=
  setting.start + 3 * timeout.nanos + config.baseDelay.nanos +
    ((setting.probes n).latency + 1) * nanosPerMilli

end

section

variable {config : Config} {expectation : Expectation} {timeout : Duration} {setting : Setting}
  {deadline : Option Nat}

/-! ### When a wait breaks off -/

/-- A wait that pauses behind a probe does not end with it, if there is a next one. So the ending of
a wait tells which of its turns was the last one. -/
theorem Ends.not_pauses {n : Nat} {last : Course}
    (h : Ends config expectation setting deadline n last)
    (hmax : n + 1 < config.maxAttempts.toNat) :
    ¬ Pauses config expectation setting deadline n := by
  intro hpauses
  cases h with
  | withdrawn hobserved _ => exact hpauses.unobserved hobserved
  | unanswered hobserved _ _ => exact hpauses.unobserved hobserved
  | confirmed _ hsees => exact hpauses.unseen hsees
  | gaveUp _ hclock hlast =>
    cases hclock.symm.trans hpauses.clock
    rcases hlast with hlast | ⟨⟨⟩⟩
    omega
  | breaksOff _ hclock => cases hclock.symm.trans hpauses.clock

/-- A wait that gets behind an answer where the look at the clock fails breaks off there. All other
endings need an answer that settles something, or a look at the clock that works. -/
theorem Ends.eq_error {n : Nat} {last : Course} {e : Overflow}
    (h : Ends config expectation setting deadline n last)
    (hmisses : Misses config expectation setting n)
    (hclock : clockBehind config setting deadline n = .error e) :
    last = .error ⟨e, [spanOf config setting n]⟩ := by
  cases h with
  | withdrawn hobserved _ => exact absurd hobserved hmisses.unobserved
  | unanswered hobserved _ _ => exact absurd hobserved hmisses.unobserved
  | confirmed _ hsees => exact absurd hsees hmisses.unseen
  | gaveUp _ hok _ => cases hok.symm.trans hclock
  | breaksOff _ herror => cases herror.symm.trans hclock; rfl

/-- The look behind probe `n` fails, and the wait pauses behind all earlier ones. So it gets there
and breaks off, and no other probe decides it. -/
theorem Course.Unfolds.eq_error {c : Course} {m n : Nat} {e : Overflow}
    (h : c.Unfolds config expectation setting deadline 0 m)
    (hmax : n < config.maxAttempts.toNat)
    (hpauses : ∀ k < n, Pauses config expectation setting deadline k)
    (hmisses : Misses config expectation setting n)
    (hclock : clockBehind config setting deadline n = .error e) :
    c = .error ⟨e, (List.range (n + 1)).map (spanOf config setting)⟩ := by
  obtain ⟨hearlier, last, hends, rfl⟩ := h.whole
  obtain rfl : m = n := by
    rcases Nat.lt_trichotomy m n with hlt | heq | hgt
    · exact absurd (hpauses m hlt) (hends.not_pauses (by omega))
    · exact heq
    · cases hclock.symm.trans (hearlier n hgt).clock
  rw [hends.eq_error hmisses hclock, Course.behind_error, map_range_succ]

/-- A wait breaks off exactly when it has a timeout and needs a moment that the clock cannot read.
The break tells which moment it was, and which probes came before it. -/
theorem run_eq_error_iff (config : Config) (expectation : Expectation)
    (timeout : Option Duration) (setting : Setting) (b : Break) :
    run config expectation timeout setting = .error b ↔
      ∃ d, timeout = some d ∧ BreaksOff config expectation d setting b := by
  rcases run_unfolds config expectation timeout setting with
    ⟨d, rfl, hbeyond, hrun⟩ | ⟨hreadable, n, hunfolds⟩
  · rw [hrun]
    constructor
    · rintro ⟨⟩
      exact ⟨d, rfl, .deadline hbeyond⟩
    · rintro ⟨_, ⟨⟩, hbreak⟩
      cases hbreak with
      | deadline _ => rfl
      | pause _ hreadable _ _ _ _ _ => exact absurd hbeyond (Nat.not_lt.2 hreadable)
  constructor
  · intro herror
    obtain ⟨hpauses, last, hends, hrun⟩ := hunfolds.whole
    rw [hrun] at herror
    cases hends with
    | breaksOff hmisses hclock =>
      rw [Course.behind_error, ← map_range_succ] at herror
      cases herror
      cases timeout with
      | none => cases hclock
      | some d =>
        obtain ⟨rfl, hbeyond⟩ := (clockBehind_eq_error_iff n _).1 hclock
        exact ⟨d, rfl, .pause n (hreadable d rfl) hunfolds.lt_max
          (fun k hk => (hpauses k hk).goesOn (Nat.lt_of_le_of_lt hk hunfolds.lt_max))
          hmisses.unobserved hmisses.unseen hbeyond⟩
    | _ =>
      rw [Course.behind_ok] at herror
      cases herror
  · rintro ⟨d, rfl, hbreak⟩
    have hdeadline := hreadable d rfl
    cases hbreak with
    | deadline hbeyond => exact absurd hbeyond (Nat.not_lt.2 hdeadline)
    | pause m _ hmax hgoesOn hunobserved hunseen hbeyond =>
      refine hunfolds.eq_error hmax ?_ ⟨hunobserved, hunseen⟩
        ((clockBehind_eq_error_iff m _).2 ⟨rfl, hbeyond⟩)
      intro k hk
      have hinTime := (hgoesOn k hk).inTime
      refine ⟨⟨fun h => hunobserved (h.mono hk.le), (hgoesOn k hk).unseen⟩, ?_⟩
      exact (clockBehind_eq_ok_iff k false).2 ⟨by omega, by simpa using hinTime⟩

/-! ### How far the moments are -/

/-- The first pause is the base delay, and the pause before any other ended in time. A pause is at
most twice the one before it, so it is bounded by the timeout and the base delay. -/
theorem pauseBehind_le {n : Nat} (hmax : n < config.maxAttempts.toNat)
    (hgoesOn : ∀ k < n, GoesOn config expectation timeout setting k) :
    (pauseBehind config n).nanos ≤ 2 * timeout.nanos + config.baseDelay.nanos := by
  cases n with
  | zero =>
    rw [nanos_pauseBehind hmax]
    omega
  | succ n =>
    have hdouble := pauseBehind_succ_le hmax
    have hinTime := (hgoesOn n (Nat.lt_succ_self n)).inTime
    rw [pauseOver] at hinTime
    omega

/-- A wait that breaks off has a moment to compute that is far from its start. If no such moment is
computed, the wait ends with an outcome. -/
theorem BreaksOff.far {b : Break} (h : BreaksOff config expectation timeout setting b) :
    ∃ n < config.maxAttempts.toNat, lastInstant < farReading config timeout setting n := by
  cases h with
  | deadline hbeyond =>
    refine ⟨0, config.one_le_maxAttempts, ?_⟩
    rw [farReading]
    omega
  | pause n _ hmax hgoesOn _ _ hbeyond =>
    refine ⟨n, hmax, hbeyond.trans_le ?_⟩
    -- The probe begins within the timeout, and then come its latency and the pause.
    have hbegins := beginning_lt hgoesOn
    have hpause := pauseBehind_le hmax hgoesOn
    rw [farReading, pauseOver, ← beginning_add_latency, Nat.add_mul, Nat.add_mul, Nat.one_mul]
    omega

end

/-- The count of the probes never leaves its word. A wait breaks off exactly when it has a timeout
and needs a moment that the clock cannot read. For that, the timeout, the base delay or the latency
of a probe has to be of the order of the range of the clock. -/
theorem run_checked (config : Config) (expectation : Expectation) (timeout : Option Duration)
    (setting : Setting) :
    (∀ b, run config expectation timeout setting = .error b → b.cause = .beyondLast) ∧
      (∀ b, run config expectation timeout setting = .error b ↔
        ∃ d, timeout = some d ∧ BreaksOff config expectation d setting b) ∧
      ((∃ r, run config expectation timeout setting = .ok r) ∨
        ∃ d, timeout = some d ∧
          ∃ n < config.maxAttempts.toNat, lastInstant < farReading config d setting n) := by
  have hbreaks := run_eq_error_iff config expectation timeout setting
  refine ⟨?_, hbreaks, ?_⟩
  · intro b hb
    obtain ⟨_, -, hbreak⟩ := (hbreaks b).1 hb
    cases hbreak <;> rfl
  · cases hrun : run config expectation timeout setting with
    | ok r => exact .inl ⟨r, rfl⟩
    | error b =>
      obtain ⟨d, htimeout, hd⟩ := (hbreaks b).1 hrun
      exact .inr ⟨d, htimeout, hd.far⟩

/-- Not every wait ends. The clock cannot read the deadline of the longest timeout in seconds. Such
a timeout is accepted on the command line, and the wait fails before its first probe. -/
theorem run_isOk_false :
    ¬ ∀ (config : Config) (expectation : Expectation) (seconds : UInt64) (setting : Setting),
      ∃ r, run config expectation (some (Duration.ofSeconds seconds)) setting = .ok r := by
  intro hends
  obtain ⟨r, hr⟩ := hends (.clamped 5 (Duration.ofMillis 50)) .created 0xffffffffffffffff
    { probes := fun _ => { answer := .ok true } }
  have hrun : run (.clamped 5 (Duration.ofMillis 50)) .created
      (some (Duration.ofSeconds 0xffffffffffffffff))
      { probes := fun _ => { answer := .ok true } } = .error ⟨.beyondLast, []⟩ := by
    cbv
  cases hr.symm.trans hrun

end TenantSearch.Wait
