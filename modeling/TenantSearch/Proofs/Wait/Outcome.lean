import TenantSearch.Proofs.Wait.Course

/-!
# `TenantSearch.Proofs.Wait.Outcome`: what a wait comes to

A wait without a deadline has three ends. `Settled` states them in terms of the probes and the
cancellation alone: the first probe that sees the expected state confirms it, a wait that has
made all its probes gives up, and a cancellation that is observed before that ends the wait at
once. `run_settled` says that every wait comes to exactly this, and that its probes run as they
should (`Report.Regular`): one after the other, not more than there may be, and none after the
cancellation.
-/

set_option autoImplicit false

namespace TenantSearch.Wait

section

variable (config : Config) (expectation : Expectation) (setting : Setting)

/-- What a wait without a deadline comes to. -/
inductive Settled : Outcome → Prop where
  /-- Probe `n` is the first one that sees the expected state, and no cancellation was observed
  before it was answered. -/
  | confirmed (n : Nat) (lt_max : n < config.maxAttempts.toNat)
      (sees : Sees expectation setting n) (first : ∀ k < n, ¬ Sees expectation setting k)
      (unobserved : ¬ ObservedThrough config setting n) :
      Settled (.confirmed (UInt32.ofNat (n + 1)))
  /-- All probes were answered, none of them saw the expected state, and no cancellation was
  observed before that. -/
  | gaveUp (unseen : ∀ k < config.maxAttempts.toNat, ¬ Sees expectation setting k)
      (unobserved : ¬ ObservedThrough config setting (config.maxAttempts.toNat - 1)) :
      Settled (.gaveUp config.maxAttempts)
  /-- The cancellation was observed behind the answers of `n` probes, none of which saw the
  expected state, and before the answer of the next. -/
  | cancelled (n : Nat) (lt_max : n < config.maxAttempts.toNat)
      (unseen : ∀ k < n, ¬ Sees expectation setting k)
      (unobserved : ∀ k < n, ¬ ObservedThrough config setting k)
      (observed : ObservedThrough config setting n) :
      Settled (.cancelled (UInt32.ofNat n))

/-- How the probes of a wait run. -/
structure Report.Regular (r : Report) : Prop where
  /-- At most so many probes begin as there may be. -/
  length_le : r.spans.length ≤ config.maxAttempts.toNat
  /-- A probe begins after all earlier ones are answered. -/
  disjoint : r.spans.Pairwise fun s s' => ∃ t, s.answered = some t ∧ t ≤ s'.began
  /-- The outcome counts the probes that were answered. -/
  attempts : r.outcome.attempts.toNat = r.spans.countP (·.answered.isSome)
  /-- All probes that begin are answered, unless the wait is cancelled while it awaits one. -/
  length : r.spans.length = r.outcome.attempts.toNat ∨
    (∃ n, r.outcome = .cancelled n) ∧ r.spans.length = r.outcome.attempts.toNat + 1
  /-- The probes begin and are answered at their times. -/
  times : ∀ n s, r.spans[n]? = some s →
    s.began = beginning config setting n ∧ ∀ t ∈ s.answered, t = answered config setting n
  /-- No probe begins once the wait is cancelled, -/
  uncancelled : ∀ s ∈ r.spans, ¬ CancelledBy config setting s.began
  /-- and none begins after the end, which is when the cancellation is observed. -/
  began_le : ∀ s ∈ r.spans, s.began ≤ r.elapsed
  /-- A wait that is cancelled before it begins makes no probe. -/
  before : setting.cancellation.before = true → r.outcome = .cancelled 0 ∧ r.spans = []

/-- How probe `n` decides a wait without a deadline. -/
inductive Decides (n : Nat) : Outcome → Prop where
  | cancelled (observed : ObservedThrough config setting n) :
      Decides n (.cancelled (UInt32.ofNat n))
  | confirmed (unobserved : ¬ ObservedThrough config setting n)
      (sees : Sees expectation setting n) : Decides n (.confirmed (UInt32.ofNat (n + 1)))
  | gaveUp (misses : Misses config expectation setting n)
      (last : n + 1 = config.maxAttempts.toNat) : Decides n (.gaveUp (UInt32.ofNat (n + 1)))

end

section

variable {config : Config} {expectation : Expectation} {setting : Setting}

/-! ### The outcome -/

/-- A probe decides a wait in one way only. Cancellation comes before the answer, and the answer
before the number of attempts. -/
theorem Decides.unique {n : Nat} {o o' : Outcome} (h : Decides config expectation setting n o)
    (h' : Decides config expectation setting n o') : o = o' := by
  cases h with
  | cancelled hobserved =>
    cases h' with
    | cancelled _ => rfl
    | confirmed hno _ => exact absurd hobserved hno
    | gaveUp hmisses _ => exact absurd hobserved hmisses.unobserved
  | confirmed hno hsees =>
    cases h' with
    | cancelled hobserved => exact absurd hobserved hno
    | confirmed _ _ => rfl
    | gaveUp hmisses _ => exact absurd hsees hmisses.unseen
  | gaveUp hmisses _ =>
    cases h' with
    | cancelled hobserved => exact absurd hobserved hmisses.unobserved
    | confirmed _ hsees => exact absurd hsees hmisses.unseen
    | gaveUp _ _ => rfl

/-- A wait does not go on behind the probe that decides it, so no later probe does. -/
theorem Decides.le_of_misses {n n' : Nat} {o : Outcome}
    (h : Decides config expectation setting n o)
    (hmisses : ∀ k < n', Misses config expectation setting k)
    (hmax : n' < config.maxAttempts.toNat) : n' ≤ n := by
  refine Nat.le_of_not_lt fun hlt => ?_
  cases h with
  | cancelled hobserved => exact (hmisses n hlt).unobserved hobserved
  | confirmed _ hsees => exact (hmisses n hlt).unseen hsees
  | gaveUp _ hlast => omega

/-- Some probe decides what a wait comes to, and it is the first that could. The rules of `Settled`
speak of all probes at once, and this finds the one that they are about. -/
theorem Settled.exists_decides {o : Outcome} (h : Settled config expectation setting o) :
    ∃ n < config.maxAttempts.toNat, (∀ k < n, Misses config expectation setting k) ∧
      Decides config expectation setting n o := by
  cases h with
  | confirmed n hmax hsees hfirst hunobserved =>
    exact ⟨n, hmax, fun k hk => ⟨fun h => hunobserved (h.mono hk.le), hfirst k hk⟩,
      .confirmed hunobserved hsees⟩
  | gaveUp hunseen hunobserved =>
    have hone := config.one_le_maxAttempts
    have hlast : config.maxAttempts.toNat - 1 + 1 = config.maxAttempts.toNat := by omega
    have hdecides : Decides config expectation setting (config.maxAttempts.toNat - 1)
        (.gaveUp (UInt32.ofNat (config.maxAttempts.toNat - 1 + 1))) :=
      .gaveUp ⟨hunobserved, hunseen _ (by omega)⟩ hlast
    rw [hlast, UInt32.ofNat_toNat] at hdecides
    exact ⟨_, by omega,
      fun k hk => ⟨fun h => hunobserved (h.mono hk.le), hunseen k (by omega)⟩, hdecides⟩
  | cancelled n hmax hunseen hunobserved hobserved =>
    exact ⟨n, hmax, fun k hk => ⟨hunobserved k hk, hunseen k hk⟩, .cancelled hobserved⟩

/-- A wait comes to one thing only. -/
theorem Settled.unique {o o' : Outcome} (h : Settled config expectation setting o)
    (h' : Settled config expectation setting o') : o = o' := by
  obtain ⟨n, hmax, hmisses, hdecides⟩ := h.exists_decides
  obtain ⟨n', hmax', hmisses', hdecides'⟩ := h'.exists_decides
  obtain rfl : n = n' := Nat.le_antisymm
    (hdecides'.le_of_misses hmisses hmax) (hdecides.le_of_misses hmisses' hmax')
  exact hdecides.unique hdecides'

/-- What the deciding probe of a wait comes to is settled. All probes before it have been answered,
and none of them had the expected answer. -/
theorem Decides.settled {n : Nat} {o : Outcome} (h : Decides config expectation setting n o)
    (hmax : n < config.maxAttempts.toNat)
    (hmisses : ∀ k < n, Misses config expectation setting k) :
    Settled config expectation setting o := by
  have hunseen : ∀ k < n, ¬ Sees expectation setting k := fun k hk => (hmisses k hk).unseen
  cases h with
  | cancelled hobserved =>
    exact .cancelled n hmax hunseen (fun k hk => (hmisses k hk).unobserved) hobserved
  | confirmed hno hsees => exact .confirmed n hmax hsees hunseen hno
  | gaveUp hlastMisses hlast =>
    rw [hlast, UInt32.ofNat_toNat]
    have hn : config.maxAttempts.toNat - 1 = n := by omega
    refine .gaveUp (fun k hk => ?_) (hn ▸ hlastMisses.unobserved)
    rcases Nat.lt_succ_iff_lt_or_eq.1 (hlast ▸ hk) with hlt | rfl
    · exact hunseen k hlt
    · exact hlastMisses.unseen

/-- Without a deadline no look at the clock fails, and no pause is too late. So a wait without a
deadline ends with a report, and what it comes to is decided by the last probe. -/
theorem Ends.exists_report {n : Nat} {last : Course}
    (h : Ends config expectation setting none n last) :
    ∃ r, last = .ok r ∧ Decides config expectation setting n r.outcome ∧
      (∀ s ∈ r.spans, s.began ≤ r.elapsed) ∧ ∀ k < n, answered config setting k ≤ r.elapsed := by
  have hspan : ∀ s ∈ [spanOf config setting n], s.began ≤ answered config setting n := by
    simp [spanOf, beginning_le_answered]
  cases h with
  | withdrawn hobserved hle => exact ⟨_, rfl, .cancelled hobserved, by simp, hle⟩
  | unanswered hobserved _ hle =>
    exact ⟨_, rfl, .cancelled hobserved, by simpa using hle,
      fun k hk => (answered_le_beginning hk).trans hle⟩
  | confirmed hno hsees =>
    exact ⟨_, rfl, .confirmed hno hsees, hspan, fun k hk => answered_mono hk.le⟩
  | gaveUp hmisses hclock hlast =>
    refine ⟨_, rfl, .gaveUp hmisses (hlast.resolve_right ?_), hspan,
      fun k hk => answered_mono hk.le⟩
    rintro rfl
    cases hclock
  | breaksOff _ hclock => cases hclock

/-! ### The probes -/

/-- A wait that is cancelled before it begins is decided by its first probe, which does not
begin. -/
theorem Course.Unfolds.of_before {c : Course} {n : Nat}
    (h : c.Unfolds config expectation setting none 0 n)
    (hbefore : setting.cancellation.before = true) :
    ∃ elapsed, c = .ok ⟨.cancelled 0, elapsed, []⟩ := by
  have hcancelled : CancelledBy config setting (beginning config setting 0) :=
    .inl ⟨⟨0, true⟩, by rw [Cancellation.initial, if_pos hbefore], rfl⟩
  have hobserved : ∀ k, ObservedThrough config setting k := fun k =>
    (observedThrough_iff k).2
      (hcancelled.mono ((beginning_mono (Nat.zero_le k)).trans (beginning_le_answered k)))
  obtain rfl : n = 0 := by
    rcases Nat.eq_zero_or_pos n with hzero | hpos
    · exact hzero
    · exact absurd (hobserved 0) (h.pauses 0 (Nat.le_refl 0) hpos).unobserved
  obtain ⟨-, last, hends, rfl⟩ := h.whole
  cases hends with
  | withdrawn _ _ => exact ⟨_, rfl⟩
  | unanswered _ huncancelled _ => exact absurd hcancelled huncancelled
  | confirmed hno _ => exact absurd (hobserved 0) hno
  | gaveUp hmisses _ _ => exact absurd (hobserved 0) hmisses.unobserved
  | breaksOff hmisses _ => exact absurd (hobserved 0) hmisses.unobserved

/-- The probes of a wait that came to its outcome run as they should. They run one after the other,
each at the time that the timeline gives it, and none begins behind a cancellation. -/
theorem Course.Unfolds.regular {r : Report} {n : Nat}
    (h : Course.Unfolds config expectation setting none 0 n (.ok r))
    (hbegan : ∀ s ∈ r.spans, s.began ≤ r.elapsed) : r.Regular config setting := by
  obtain ⟨count, opened, hprobed, hcount⟩ := h.probed
  obtain ⟨hattempts, hopened⟩ := hcount r rfl
  refine
    { length_le := hprobed.length_le
      disjoint := hprobed.pairwise_spans
      attempts := hattempts.trans hprobed.countP_spans.symm
      length := ?length
      times := ?times
      uncancelled := fun s hs => hprobed.uncancelled hs
      began_le := hbegan
      before := ?before }
  case length =>
    have hlength : r.spans.length = count + opened.length := hprobed.length_spans
    rw [hattempts, hlength]
    rcases hprobed.opened with rfl | ⟨-, -, rfl⟩
    · exact .inl rfl
    · exact .inr ⟨hopened.resolve_left (List.cons_ne_nil _ _), rfl⟩
  case times =>
    intro k s hs
    rcases hprobed.getElem?_spans hs with ⟨-, rfl⟩ | ⟨-, rfl, -⟩
    · exact ⟨rfl, fun t ht => (Option.some.inj ht).symm⟩
    · exact ⟨rfl, fun t ht => nomatch ht⟩
  case before =>
    intro hbefore
    obtain ⟨elapsed, hr⟩ := h.of_before hbefore
    cases hr
    exact ⟨rfl, rfl⟩

/-- A wait without a deadline always ends. It comes to what its probes and its cancellation
settle, and its probes run one after the other. -/
theorem run_settled (config : Config) (expectation : Expectation) (setting : Setting) :
    ∃ r, run config expectation none setting = .ok r ∧
      (∀ o, r.outcome = o ↔ Settled config expectation setting o) ∧ r.Regular config setting := by
  obtain ⟨_, ⟨⟩, -⟩ | ⟨-, n, hunfolds⟩ := run_unfolds config expectation none setting
  obtain ⟨hpauses, last, hends, hrun⟩ := hunfolds.whole
  obtain ⟨r, rfl, hdecides, hbegan, hanswered⟩ := hends.exists_report
  rw [Course.behind_ok] at hrun
  rw [hrun] at hunfolds ⊢
  have hsettled : Settled config expectation setting r.outcome :=
    hdecides.settled hunfolds.lt_max fun k hk => (hpauses k hk).toMisses
  refine ⟨_, rfl, ?_, hunfolds.regular ?_⟩
  · intro o
    constructor
    · rintro rfl
      exact hsettled
    · exact hsettled.unique
  · -- The earlier probes were answered before the end, and so they began before it.
    intro s hs
    rcases List.mem_append.1 hs with hs | hs
    · obtain ⟨k, hk, rfl⟩ := List.mem_map.1 hs
      exact (beginning_le_answered k).trans (hanswered k (List.mem_range.1 hk))
    · exact hbegan s hs

/-- In the millisecond of an answer, the cancellation is observed when it comes ahead of it. -/
example :
    let outcome (ahead : Bool) :=
      ((run (.clamped 1 Time.Duration.zero) .created none
        { probes := fun _ => { latency := 5, answer := .ok true }
          cancellation := { elapsed := some 5, ahead } }).toOption).map Report.outcome
    outcome true = some (.cancelled 0) ∧ outcome false = some (.confirmed 1) :=
  ⟨by cbv, by cbv⟩

end

end TenantSearch.Wait
