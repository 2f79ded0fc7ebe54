import TenantSearch.Proofs.Wait.Course

/-!
# `TenantSearch.Proofs.Wait.Deadline`: how far a timeout bounds a wait

A wait with a timeout looks at the clock behind each answer, and gives up when the pause that is
due would end too late. It never looks while it awaits a probe. So the timeout bounds when
probes begin, up to the millisecond in which a pause ends, and the last answer may come at any
time after that.

`Timed` says what an uncancelled wait comes to, and `run_timed` that it comes to nothing else.
`elapsed_le_timeout_false` shows a wait that lasts a hundred times as long as its timeout.
-/

set_option autoImplicit false

namespace TenantSearch.Wait

open TenantSearch.Time (Duration nanosPerMilli)

section

variable (config : Config) (expectation : Expectation) (timeout : Duration) (setting : Setting)

/-- When the pause behind probe `n` is over, in nanoseconds after the start. -/
def pauseOver (n : Nat) : Nat :=
  answered config setting n * nanosPerMilli + (pauseBehind config n).nanos

/-- The wait goes on behind probe `n`, as there is a next probe and its pause ends in time. -/
structure GoesOn (n : Nat) : Prop where
  unseen : ¬ Sees expectation setting n
  lt_max : n + 1 < config.maxAttempts.toNat
  inTime : pauseOver config setting n ≤ timeout.nanos

/-- How the answer of probe `n` can end the wait. -/
inductive EndsInTime (n : Nat) : Outcome → Prop where
  | confirmed (sees : Sees expectation setting n) :
      EndsInTime n (.confirmed (UInt32.ofNat (n + 1)))
  /-- It was the last probe, or the pause behind it would end too late. -/
  | gaveUp (unseen : ¬ Sees expectation setting n)
      (last : n + 1 = config.maxAttempts.toNat ∨ timeout.nanos < pauseOver config setting n) :
      EndsInTime n (.gaveUp (UInt32.ofNat (n + 1)))

/-- The part of a wait from probe `begun` on, when the answer of probe `n` ends it. -/
structure Report.EndsAt (begun n : Nat) (r : Report) : Prop where
  begun_le : begun ≤ n
  ends : EndsInTime config expectation timeout setting n r.outcome
  /-- All its probes are answered. -/
  spans : r.spans = (List.range' begun (n + 1 - begun)).map (spanOf config setting)
  elapsed : r.elapsed = answered config setting n

/-- What a wait with a timeout comes to when nothing cancels it. -/
inductive Timed : Course → Prop where
  /-- The answer of probe `n` ends the wait, and the wait goes on behind the earlier ones. -/
  | ended (n : Nat) (r : Report) (lt_max : n < config.maxAttempts.toNat)
      (goesOn : ∀ k < n, GoesOn config expectation timeout setting k)
      (endsAt : r.EndsAt config expectation timeout setting 0 n)
      -- Probes begin within the timeout, rounded up to a millisecond,
      (began_lt : ∀ s ∈ r.spans, s.began * nanosPerMilli < timeout.nanos + nanosPerMilli)
      -- and only the last one can make the wait longer than that.
      (elapsed_lt : r.elapsed * nanosPerMilli <
        timeout.nanos + nanosPerMilli + (setting.probes n).latency * nanosPerMilli) :
      Timed (.ok r)
  /-- The clock cannot read the deadline. No probe begins. -/
  | noDeadline (beyond : lastInstant < setting.start + timeout.nanos) :
      Timed (.error ⟨.beyondLast, []⟩)
  /-- The clock cannot read the end of the pause behind probe `n`. The probes up to this one are
  answered. -/
  | noPauseEnd (n : Nat) (lt_max : n < config.maxAttempts.toNat)
      (goesOn : ∀ k < n, GoesOn config expectation timeout setting k)
      (unseen : ¬ Sees expectation setting n)
      (beyond : lastInstant < setting.start + pauseOver config setting n) :
      Timed (.error ⟨.beyondLast, (List.range (n + 1)).map (spanOf config setting)⟩)

end

section

variable {config : Config} {expectation : Expectation} {timeout : Duration} {setting : Setting}

/-! ### When probes begin -/

/-- A pause ends less than a millisecond after it is over. -/
theorem beginning_succ_lt (n : Nat) :
    beginning config setting (n + 1) * nanosPerMilli <
      pauseOver config setting n + nanosPerMilli := by
  rw [← pauseEnd_answered]
  unfold pauseEnd pauseOver pauseBehind nanosPerMilli
  omega

/-- The wait reaches a probe only when the pause before it ends in time. -/
theorem beginning_lt {n : Nat} (h : ∀ k < n, GoesOn config expectation timeout setting k) :
    beginning config setting n * nanosPerMilli < timeout.nanos + nanosPerMilli := by
  cases n with
  | zero =>
    have hpos : 0 < nanosPerMilli := by decide
    simpa [beginning] using Nat.add_pos_right timeout.nanos hpos
  | succ n =>
    have hover := (h n (Nat.lt_succ_self n)).inTime
    exact (beginning_succ_lt n).trans_le (Nat.add_le_add_right hover _)

/-! ### The looks at the clock -/

/-- The look at the clock behind a probe reads the moment when the pause is over. -/
theorem reading_add_pauseBehind (n : Nat) :
    setting.reading (answered config setting n) + (pauseBehind config n).nanos =
      setting.start + pauseOver config setting n :=
  Nat.add_assoc _ _ _

/-- The look fails when the clock cannot read the end of the pause. -/
theorem clockBehind_of_beyond {n : Nat}
    (h : lastInstant < setting.start + pauseOver config setting n) (deadline : Nat) :
    clockBehind config setting (some deadline) n = .error .beyondLast := by
  rw [← reading_add_pauseBehind] at h
  rw [clockBehind, Setting.overruns, readingAfter_of_lt h]
  rfl

/-- Otherwise it finds the pause too late when the pause is over after the timeout. -/
theorem clockBehind_of_le {n : Nat} (h : setting.start + pauseOver config setting n ≤ lastInstant)
    (timeout : Duration) :
    clockBehind config setting (some (setting.start + timeout.nanos)) n =
      .ok (decide (timeout.nanos < pauseOver config setting n)) := by
  rw [← reading_add_pauseBehind] at h
  rw [clockBehind, Setting.overruns, readingAfter_of_le h, reading_add_pauseBehind]
  exact congrArg Except.ok (decide_eq_decide.2 Nat.add_lt_add_iff_left)

/-- A look with a deadline fails in one way only, and for one reason. The end of the pause is behind
the last moment that the clock can read. -/
theorem clockBehind_eq_error_iff (n : Nat) (e : Overflow) :
    clockBehind config setting (some (setting.start + timeout.nanos)) n = .error e ↔
      e = .beyondLast ∧ lastInstant < setting.start + pauseOver config setting n := by
  rcases Nat.lt_or_ge lastInstant (setting.start + pauseOver config setting n) with
    hbeyond | hreadable
  · rw [clockBehind_of_beyond hbeyond]
    exact ⟨fun h => ⟨(Except.error.inj h).symm, hbeyond⟩, fun h => h.1 ▸ rfl⟩
  · rw [clockBehind_of_le hreadable]
    refine ⟨?_, fun h => absurd h.2 (Nat.not_lt.2 hreadable)⟩
    intro herror
    cases herror

/-- A look with a deadline tells a pause that is in time from one that is too late. It is too late
if it would end behind the deadline. A pause that ends exactly then is in time. -/
theorem clockBehind_eq_ok_iff (n : Nat) (late : Bool) :
    clockBehind config setting (some (setting.start + timeout.nanos)) n = .ok late ↔
      setting.start + pauseOver config setting n ≤ lastInstant ∧
        (late = true ↔ timeout.nanos < pauseOver config setting n) := by
  rcases Nat.lt_or_ge lastInstant (setting.start + pauseOver config setting n) with
    hbeyond | hreadable
  · rw [clockBehind_of_beyond hbeyond]
    refine ⟨?_, fun h => absurd hbeyond (Nat.not_lt.2 h.1)⟩
    intro hok
    cases hok
  · rw [clockBehind_of_le hreadable, Except.ok.injEq]
    cases late <;> simp [hreadable]

/-- The probes behind which a wait with a timeout pauses are those behind which it goes on. -/
theorem Pauses.goesOn {n : Nat} (h : Pauses config expectation setting
      (some (setting.start + timeout.nanos)) n) (hmax : n + 1 < config.maxAttempts.toNat) :
    GoesOn config expectation timeout setting n where
  unseen := h.unseen
  lt_max := hmax
  inTime := by
    have hlook := ((clockBehind_eq_ok_iff n false).1 h.clock).2
    simpa using hlook

/-! ### The whole wait -/

/-- Without a cancellation there is none to observe. -/
theorem not_observedThrough (h : setting.cancellation = {}) (n : Nat) :
    ¬ ObservedThrough config setting n := by
  rw [observedThrough_iff]
  rintro (⟨m, hm, -⟩ | ⟨k, hk, -⟩)
  · rw [h] at hm
    cases hm
  · rw [h] at hk
    cases hk

/-- A wait that is ended by the answer of probe `n`. The deadline bounds when that probe begins. How
long it takes to answer is not bounded by it. -/
theorem Timed.ofAnswer {n : Nat} {outcome : Outcome} (hmax : n < config.maxAttempts.toNat)
    (hgoesOn : ∀ k < n, GoesOn config expectation timeout setting k)
    (hends : EndsInTime config expectation timeout setting n outcome) :
    Timed config expectation timeout setting
      (.ok ⟨outcome, answered config setting n,
        (List.range (n + 1)).map (spanOf config setting)⟩) := by
  have hspans : (List.range (n + 1)).map (spanOf config setting) =
      (List.range' 0 (n + 1 - 0)).map (spanOf config setting) := by
    rw [Nat.sub_zero, List.range_eq_range']
  refine .ended n _ hmax hgoesOn ⟨Nat.zero_le n, hends, hspans, rfl⟩ ?began_lt ?elapsed_lt
  case began_lt =>
    intro s hs
    obtain ⟨k, hk, rfl⟩ := List.mem_map.1 hs
    have hle : k ≤ n := Nat.le_of_lt_succ (List.mem_range.1 hk)
    exact beginning_lt fun j hj => hgoesOn j (hj.trans_le hle)
  case elapsed_lt =>
    have hbegan := beginning_lt hgoesOn
    show answered config setting n * nanosPerMilli < _
    rw [← beginning_add_latency, Nat.add_mul]
    exact Nat.add_lt_add_right hbegan _

/-- An uncancelled wait with a timeout begins no probe after the timeout, rounded up to a
millisecond, and it ends with the answer of the last probe that began. -/
theorem run_timed (config : Config) (expectation : Expectation) (timeout : Duration)
    (probes : Nat → Probe) (start : Nat) :
    Timed config expectation timeout { probes, start }
      (run config expectation (some timeout) { probes, start }) := by
  obtain ⟨_, ⟨⟩, hbeyond, hrun⟩ | ⟨hreadable, n, hunfolds⟩ :=
    run_unfolds config expectation (some timeout) { probes, start }
  · rw [hrun]
    exact .noDeadline hbeyond
  have hmax := hunfolds.lt_max
  obtain ⟨hpauses, last, hends, hrun⟩ := hunfolds.whole
  have hgoesOn : ∀ k < n, GoesOn config expectation timeout { probes, start } k :=
    fun k hk => (hpauses k hk).goesOn (by omega)
  rw [hrun]
  cases hends with
  | withdrawn hobserved _ => exact absurd hobserved (not_observedThrough rfl n)
  | unanswered hobserved _ _ => exact absurd hobserved (not_observedThrough rfl n)
  | confirmed _ hsees =>
    rw [Course.behind_ok, ← map_range_succ]
    exact .ofAnswer hmax hgoesOn (.confirmed hsees)
  | gaveUp hmisses hclock hlast =>
    rw [Course.behind_ok, ← map_range_succ]
    have hlook := ((clockBehind_eq_ok_iff n _).1 hclock).2
    exact .ofAnswer hmax hgoesOn (.gaveUp hmisses.unseen (hlast.imp_right hlook.1))
  | breaksOff hmisses hclock =>
    obtain ⟨rfl, hbeyond⟩ := (clockBehind_eq_error_iff n _).1 hclock
    rw [Course.behind_error, ← map_range_succ]
    exact .noPauseEnd n hmax hgoesOn hmisses.unseen hbeyond

/-- The timeout does not bound the wait. A probe that takes a second is awaited to its end, even
if the wait is to last no longer than ten milliseconds. -/
theorem elapsed_le_timeout_false :
    ¬ ∀ (config : Config) (expectation : Expectation) (timeout : Duration)
        (probes : Nat → Probe) (start : Nat) (r : Report),
      run config expectation (some timeout) { probes, start } = .ok r →
        r.elapsed * nanosPerMilli ≤ timeout.nanos := by
  intro hbound
  have hrun : run (.clamped 5 (Duration.ofMillis 10)) .created (some (Duration.ofMillis 10))
      { probes := fun _ => { latency := 1000, answer := .ok false } } =
      .ok ⟨.gaveUp 1, 1000, [⟨0, some 1000⟩]⟩ := by
    cbv
  exact absurd (hbound _ _ _ _ _ _ hrun) (by decide)

end

end TenantSearch.Wait
