import TenantSearch.Proofs.Wait.Timeline

/-!
# `TenantSearch.Proofs.Wait.Turn`: one turn of a wait

A wait goes round a loop. It awaits a probe, looks at the clock and pauses. `Turn` lists what one
turn can come to, whatever the deadline and the cancellation are, and `restFrom_turn` says that it
comes to nothing else. All that is known of whole waits rests on this one step.

The turn is told in the terms of the timeline: the state that a probe sees (`Sees`), the
cancellation that is observed through an answer (`ObservedThrough`), and the look at the clock
behind it (`clockBehind`). In a turn the cancellation comes before the answer, the answer before the
clock, and the clock before the number of probes.

The numbers of the probes never leave their word, since there are no more probes than a word can
count (`nextNumber_ofNat`, `previousNumber_ofNat`).
-/

set_option autoImplicit false

namespace TenantSearch.Wait

section

variable (config : Config) (expectation : Expectation) (setting : Setting)
  (deadline : Option Nat)

/-- Whether probe `n` sees the expected state. -/
def Sees (n : Nat) : Prop :=
  ∃ found, (setting.probes n).answer = .ok found ∧ expectation.isMet found = true

/-- Probe `n` is answered, and the wait is neither cancelled nor confirmed by then. -/
structure Misses (n : Nat) : Prop where
  unobserved : ¬ ObservedThrough config setting n
  unseen : ¬ Sees expectation setting n

/-- The look at the clock behind probe `n`: whether the pause would end after the deadline. -/
def clockBehind (n : Nat) : Except Overflow Bool :=
  setting.overruns deadline (answered config setting n) (pauseBehind config n)

/-- The pause behind probe `n` is due, if there is a next probe. -/
structure Pauses (n : Nat) : Prop extends Misses config expectation setting n where
  clock : clockBehind config setting deadline n = .ok false

/-- What is left of a wait from probe `begun` on, with at most `left` probes behind it. -/
def restFrom (left begun : Nat) (cancelled : Option Moment) : Course :=
  probeFrom config expectation setting deadline left (UInt32.ofNat (begun + 1)) begun
    (beginning config setting begun) cancelled

/-- What a turn comes to, with probe `begun` and at most `left` probes behind it. -/
inductive Turn (begun : Nat) : (left : Nat) → Course → Prop where
  /-- The probe does not begin. -/
  | withdrawn {left elapsed : Nat} (observed : ObservedThrough config setting begun)
      (began_le : beginning config setting begun ≤ elapsed) :
      Turn begun left (.ok ⟨.cancelled (UInt32.ofNat begun), elapsed, []⟩)
  /-- The probe begins, and the cancellation is observed before its answer. -/
  | unanswered {left elapsed : Nat} (observed : ObservedThrough config setting begun)
      (uncancelled : ¬ CancelledBy config setting (beginning config setting begun))
      (began_le : beginning config setting begun ≤ elapsed) :
      Turn begun left (.ok ⟨.cancelled (UInt32.ofNat begun), elapsed,
        [⟨beginning config setting begun, none⟩]⟩)
  | confirmed {left : Nat} (unobserved : ¬ ObservedThrough config setting begun)
      (sees : Sees expectation setting begun) :
      Turn begun left (.ok ⟨.confirmed (UInt32.ofNat (begun + 1)), answered config setting begun,
        [spanOf config setting begun]⟩)
  /-- The look at the clock fails. -/
  | breaksOff {left : Nat} {e : Overflow} (misses : Misses config expectation setting begun)
      (clock : clockBehind config setting deadline begun = .error e) :
      Turn begun left (.error ⟨e, [spanOf config setting begun]⟩)
  /-- It was the last probe, or the pause would end too late. -/
  | gaveUp {left : Nat} {late : Bool} (misses : Misses config expectation setting begun)
      (clock : clockBehind config setting deadline begun = .ok late)
      (last : left = 0 ∨ late = true) :
      Turn begun left (.ok ⟨.gaveUp (UInt32.ofNat (begun + 1)), answered config setting begun,
        [spanOf config setting begun]⟩)
  /-- The cancellation is observed in the pause. -/
  | interrupted {left elapsed : Nat} (pauses : Pauses config expectation setting deadline begun)
      (observed : ObservedThrough config setting (begun + 1))
      (answered_le : answered config setting begun ≤ elapsed) :
      Turn begun (left + 1) (.ok ⟨.cancelled (UInt32.ofNat (begun + 1)), elapsed,
        [spanOf config setting begun]⟩)
  /-- The pause ends, and the next turn begins. -/
  | goesOn {left : Nat} {cancelled : Option Moment}
      (pauses : Pauses config expectation setting deadline begun)
      (knows : Knows config setting (begun + 1) cancelled) :
      Turn begun (left + 1)
        (.after (spanOf config setting begun)
          (restFrom config expectation setting deadline left (begun + 1) cancelled))

end

section

variable {config : Config} {expectation : Expectation} {setting : Setting}
  {deadline : Option Nat}

/-! ### The numbers of the probes -/

/-- A number up to the number of probes is a word, as that number is one. -/
theorem toNat_ofNat_of_le {n : Nat} (h : n ≤ config.maxAttempts.toNat) :
    (UInt32.ofNat n).toNat = n :=
  UInt32.toNat_ofNat_of_lt' (h.trans_lt config.maxAttempts.toNat_lt)

/-- There is a number behind that of each probe but the last, so the count of the loop succeeds
whenever the loop gets to it. -/
theorem nextNumber_ofNat {n : Nat} (h : n + 1 ≤ config.maxAttempts.toNat) :
    nextNumber (UInt32.ofNat n) = .ok (UInt32.ofNat (n + 1)) := by
  have hword : n + 1 < UInt32.size := h.trans_lt config.maxAttempts.toNat_lt
  rw [nextNumber, toNat_ofNat_of_le (Nat.le_of_succ_le h), if_pos hword]
  exact congrArg Except.ok (UInt32.ofNat_add n 1).symm

/-- There is a number before that of each probe, as they are counted from one. -/
theorem previousNumber_ofNat {n : Nat} (h : n + 1 ≤ config.maxAttempts.toNat) :
    previousNumber (UInt32.ofNat (n + 1)) = .ok (UInt32.ofNat n) := by
  rw [previousNumber, toNat_ofNat_of_le h, if_pos (Nat.le_add_left 1 n)]
  have hstep : UInt32.ofNat (n + 1) = UInt32.ofNat n + 1 := UInt32.ofNat_add n 1
  rw [hstep]
  exact congrArg Except.ok (UInt32.add_sub_cancel _ _)

/-- A wait that is cancelled before probe `n + 1` is answered has `n` answers. The loop steps back
in its count to say so, and there is always a step to take. -/
theorem cancelledBefore_ofNat {n : Nat} (h : n + 1 ≤ config.maxAttempts.toNat) (elapsed : Nat)
    (spans : List Span) :
    Course.cancelledBefore (UInt32.ofNat (n + 1)) elapsed spans =
      .ok ⟨.cancelled (UInt32.ofNat n), elapsed, spans⟩ := by
  rw [Course.cancelledBefore, previousNumber_ofNat h]

/-! ### The turn -/

/-- A probe shows the expected state exactly when it is answered and its answer meets the
expectation. -/
theorem shows_iff (n : Nat) :
    (setting.probes n).shows expectation = true ↔ Sees expectation setting n := by
  unfold Probe.shows Sees
  cases (setting.probes n).answer <;> simp

/-- Up to an answer before which the cancellation is not observed, no look finds it: neither the
one before the probe begins nor those while it is awaited. -/
theorem observed?_of_unobserved {begun : Nat} {cancelled : Option Moment}
    (hknows : Knows config setting begun cancelled)
    (hunobserved : ¬ ObservedThrough config setting begun) :
    observed? cancelled (beginning config setting begun) (beginning config setting begun) = none ∧
      observed? (setting.cancellation.known cancelled (begun + 1) (beginning config setting begun))
        (beginning config setting begun) (answered config setting begun) = none := by
  -- An earlier look that found the cancellation would be one that observes it.
  rw [observedThrough_iff] at hunobserved
  constructor
  · rcases hknows.observation (beginning config setting begun) (beginning config setting begun)
      (Nat.le_refl _) with ⟨c, -, -, hcancelled⟩ | ⟨hnone, -⟩
    · exact absurd (hcancelled.mono (beginning_le_answered begun)) hunobserved
    · exact hnone
  · rcases hknows.known.observation (beginning config setting begun)
      (answered config setting begun) (answered_le_beginning_succ begun) with
      ⟨c, -, -, hcancelled⟩ | ⟨hnone, -⟩
    · exact absurd hcancelled hunobserved
    · exact hnone

/-- A turn in which the cancellation is observed before the answer. The first look comes before
the probe begins, the next ones while it is awaited. -/
theorem restFrom_of_observed (left : Nat) {begun : Nat} {cancelled : Option Moment}
    (hmax : begun + 1 ≤ config.maxAttempts.toNat) (hknows : Knows config setting begun cancelled)
    (hobserved : ObservedThrough config setting begun) :
    Turn config expectation setting deadline begun left
      (restFrom config expectation setting deadline left begun cancelled) := by
  unfold restFrom
  rw [probeFrom]
  rcases hknows.observation (beginning config setting begun) (beginning config setting begun)
    (Nat.le_refl _) with ⟨c, hfirst, hc, -⟩ | ⟨hfirst, huncancelled⟩
  · simp only [hfirst, cancelledBefore_ofNat hmax]
    exact .withdrawn hobserved hc
  · rcases hknows.known.observation (beginning config setting begun)
      (answered config setting begun) (answered_le_beginning_succ begun) with
      ⟨c, hanswer, hc, -⟩ | ⟨-, hno⟩
    · simp only [beginning_add_latency, hfirst, hanswer, cancelledBefore_ofNat hmax]
      exact .unanswered hobserved huncancelled hc
    · exact absurd ((observedThrough_iff begun).1 hobserved) hno

/-- What is left of a wait begins with one of these turns. The loop is opened here and nowhere else,
and each of its branches is one constructor of `Turn`. -/
theorem restFrom_turn (left begun : Nat) {cancelled : Option Moment}
    (hleft : begun + left + 1 = config.maxAttempts.toNat)
    (hknows : Knows config setting begun cancelled) :
    Turn config expectation setting deadline begun left
      (restFrom config expectation setting deadline left begun cancelled) := by
  by_cases hobserved : ObservedThrough config setting begun
  · exact restFrom_of_observed left (by omega) hknows hobserved
  -- From here on both looks up to the answer find nothing, so the probe is answered.
  obtain ⟨hfirst, hanswer⟩ := observed?_of_unobserved hknows hobserved
  by_cases hsees : Sees expectation setting begun
  · unfold restFrom
    rw [probeFrom]
    simp only [beginning_add_latency, hfirst, hanswer, if_pos ((shows_iff begun).2 hsees)]
    exact .confirmed hobserved hsees
  have hmisses : Misses config expectation setting begun := ⟨hobserved, hsees⟩
  unfold restFrom
  rw [probeFrom]
  simp only [beginning_add_latency, pauseEnd_answered, hfirst, hanswer,
    if_neg ((shows_iff begun).not.2 hsees)]
  -- The clock comes first, then the number of probes, and only then the cancellation.
  cases hclock : clockBehind config setting deadline begun with
  | error e =>
    rw [clockBehind, pauseBehind] at hclock
    simp only [hclock]
    exact .breaksOff hmisses hclock
  | ok late =>
    have hlook := hclock
    rw [clockBehind, pauseBehind] at hlook
    simp only [hlook]
    cases left with
    | zero => exact .gaveUp hmisses hclock (.inl rfl)
    | succ left =>
      cases late with
      | true => exact .gaveUp hmisses hclock (.inr rfl)
      | false =>
        have hpauses : Pauses config expectation setting deadline begun := ⟨hmisses, hclock⟩
        -- The pause ends with the beginning of the next probe, and the last look of it decides.
        rcases hknows.known.observation (answered config setting begun)
          (beginning config setting (begun + 1)) (Nat.le_refl _) with
          ⟨c, hpause, hc, hcancelled⟩ | ⟨hpause, -⟩
        · simp only [hpause]
          exact .interrupted hpauses
            ((observedThrough_iff _).2 (hcancelled.mono (beginning_le_answered _))) hc
        · have hmax : begun + 1 + 1 ≤ config.maxAttempts.toNat := by omega
          simp only [hpause, nextNumber_ofNat hmax]
          exact .goesOn hpauses hknows.known

end

end TenantSearch.Wait
