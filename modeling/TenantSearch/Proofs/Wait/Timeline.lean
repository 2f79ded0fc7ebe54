import Mathlib.Order.Monotone.Basic
import TenantSearch.Wait.Run

/-!
# `TenantSearch.Proofs.Wait.Timeline`: when things happen in a wait

The settings of a wait and the latencies of its probes fix when each probe begins and when it is
answered, for as long as the wait goes on (`beginning`, `answered`). Probes are counted from zero
here. So the times of a wait can be told without a word on how it ends.

Between these times lie the stretches in which the wait listens: while it awaits a probe, and in
the pause behind it. `CancelledBy t` says that a look in millisecond `t` finds the wait
cancelled. A stretch observes the cancellation when some look in it finds one. As a wait is
never uncancelled, only the last look counts (`observedThrough_iff`).

The wait itself keeps track of the earliest cancellation that it knows of. `Knows` says what that
is when probe `n` begins, and `Knows.observation` what the wait observes of it.
-/

set_option autoImplicit false

namespace TenantSearch.Wait

open TenantSearch.Time (Duration)

/-! ### Moments -/

/-- A moment is past in every later millisecond. In its own millisecond it is past only if it comes
ahead of all that happens then. -/
theorem Moment.isPast_iff (m : Moment) (now : Nat) :
    m.isPast now = true ↔ m.millis < now ∨ m.ahead = true ∧ m.millis = now := by
  simp [Moment.isPast]

/-- What is past does not lie ahead. -/
theorem Moment.millis_le {m : Moment} {now : Nat} (h : m.isPast now = true) : m.millis ≤ now := by
  rw [Moment.isPast_iff] at h
  rcases h with hlt | ⟨-, heq⟩
  · exact hlt.le
  · exact heq.le

/-- What is past stays past. -/
theorem Moment.isPast_mono {m : Moment} {now later : Nat} (h : m.isPast now = true)
    (hle : now ≤ later) : m.isPast later = true := by
  rw [Moment.isPast_iff] at h ⊢
  rcases h with hlt | ⟨hahead, rfl⟩
  · exact .inl (hlt.trans_le hle)
  · rcases Nat.eq_or_lt_of_le hle with heq | hlt
    · exact .inr ⟨hahead, heq⟩
    · exact .inl hlt

/-- One of two moments is past when the earlier one is. In a common millisecond the one that comes
ahead of all else is the earlier. -/
theorem Moment.isPast_earlier (a b : Moment) (now : Nat) :
    (a.earlier b).isPast now = true ↔ a.isPast now = true ∨ b.isPast now = true := by
  unfold Moment.earlier
  split
  · rename_i hab
    refine ⟨.inl, ?_⟩
    -- The other moment does not come before the earlier one, so it adds nothing.
    rintro (ha | hb)
    · exact ha
    · exact Moment.isPast_mono hab (Moment.millis_le hb)
  · rename_i hab
    refine ⟨.inr, ?_⟩
    rintro (ha | hb)
    · -- In a common millisecond, the first moment lies behind all else.
      rw [Moment.isPast_iff] at hab ha ⊢
      rcases ha with hlt | ⟨hahead, rfl⟩
      · omega
      · have hne : b.millis ≠ a.millis := fun heq => hab (.inr ⟨hahead, heq.symm⟩)
        omega
    · exact hb

/-- Whether a cancellation, if there is one, has come before a look in the given millisecond. -/
def IsPast (cancelled : Option Moment) (now : Nat) : Prop :=
  ∃ m, cancelled = some m ∧ m.isPast now = true

/-- A probe that brings the cancellation brings it behind its beginning, so no look in that
millisecond finds it. -/
theorem isPast_known (c : Cancellation) (cancelled : Option Moment) (probe now t : Nat) :
    IsPast (c.known cancelled probe now) t ↔
      IsPast cancelled t ∨ c.probe = some probe ∧ now < t := by
  have hown : (Moment.mk now false).isPast t = true ↔ now < t := by simp [Moment.isPast_iff]
  unfold Cancellation.known
  -- Either this is the probe that brings the cancellation, or nothing changes.
  split
  · rename_i hprobe
    cases cancelled <;> simp [IsPast, Moment.isPast_earlier, hown, hprobe]
  · rename_i hprobe
    simp [hprobe]

/-! ### The times of a wait -/

section Times

variable (config : Config) (setting : Setting)

/-- The pause behind probe `n`. -/
def pauseBehind (n : Nat) : Duration :=
  Retry.linearDelay (UInt32.ofNat (n + 1)) config.baseDelay

/-- The millisecond in which probe `n` begins. -/
def beginning : Nat → Nat
  | 0 => 0
  | n + 1 => pauseEnd (beginning n + (setting.probes n).latency) (pauseBehind config n)

/-- The millisecond in which probe `n` is answered. -/
def answered (n : Nat) : Nat := beginning config setting n + (setting.probes n).latency

/-- Probe `n`, from its beginning to its answer. -/
def spanOf (n : Nat) : Span := ⟨beginning config setting n, some (answered config setting n)⟩

/-- Whether a look in millisecond `t` finds the wait cancelled. -/
def CancelledBy (t : Nat) : Prop :=
  IsPast setting.cancellation.initial t ∨
    ∃ n, setting.cancellation.probe = some (n + 1) ∧ beginning config setting n < t

/-- A stretch of time in which the wait listens for its cancellation. -/
inductive Stretch where
  /-- While probe `n` is awaited. -/
  | probe (n : Nat)
  /-- In the pause behind probe `n`. -/
  | pause (n : Nat)

namespace Stretch

/-- The millisecond of the first look. -/
def first : Stretch → Nat
  | probe n => beginning config setting n
  | pause n => answered config setting n

/-- The millisecond of the last look. -/
def last : Stretch → Nat
  | probe n => answered config setting n
  | pause n => beginning config setting (n + 1)

/-- Whether the stretch lies before the answer of probe `n`. -/
def LiesBefore (n : Nat) : Stretch → Prop
  | probe k => k ≤ n
  | pause k => k < n

/-- Whether the cancellation is observed in the stretch. -/
def Observes (s : Stretch) : Prop :=
  ∃ t, s.first config setting ≤ t ∧ t ≤ s.last config setting ∧ CancelledBy config setting t

end Stretch

/-- Whether the cancellation is observed before probe `n` is answered. -/
def ObservedThrough (n : Nat) : Prop :=
  ∃ s : Stretch, s.LiesBefore n ∧ s.Observes config setting

end Times

section

variable {config : Config} {setting : Setting}

/-- A pause does not end before it begins. -/
theorem le_pauseEnd (now : Nat) (d : Duration) : now ≤ pauseEnd now d := Nat.le_add_right _ _

/-- The loop adds the latency itself. This is the name of the sum. -/
theorem beginning_add_latency (n : Nat) :
    beginning config setting n + (setting.probes n).latency = answered config setting n := rfl

/-- The loop computes the end of the pause itself. This is where the next probe begins. -/
theorem pauseEnd_answered (n : Nat) :
    pauseEnd (answered config setting n) (Retry.linearDelay (UInt32.ofNat (n + 1)) config.baseDelay)
      = beginning config setting (n + 1) := rfl

/-- A probe is answered no earlier than it begins. -/
theorem beginning_le_answered (n : Nat) : beginning config setting n ≤ answered config setting n :=
  Nat.le_add_right _ _

/-- The next probe begins no earlier than that. -/
theorem answered_le_beginning_succ (n : Nat) :
    answered config setting n ≤ beginning config setting (n + 1) :=
  le_pauseEnd _ _

/-- Probes begin in the order of their numbers. -/
theorem beginning_mono : Monotone (beginning config setting) :=
  monotone_nat_of_le_succ fun n =>
    (beginning_le_answered n).trans (answered_le_beginning_succ n)

/-- A probe begins after all earlier ones are answered: no two probes are under way at once. -/
theorem answered_le_beginning {m n : Nat} (h : m < n) :
    answered config setting m ≤ beginning config setting n :=
  (answered_le_beginning_succ m).trans (beginning_mono h)

/-- Probes are answered in the order of their numbers. -/
theorem answered_mono {m n : Nat} (h : m ≤ n) :
    answered config setting m ≤ answered config setting n := by
  rcases Nat.eq_or_lt_of_le h with rfl | hlt
  · exact Nat.le_refl _
  · exact (answered_le_beginning hlt).trans (beginning_le_answered n)

/-- A wait is never uncancelled. -/
theorem CancelledBy.mono {t later : Nat} (h : CancelledBy config setting t) (hle : t ≤ later) :
    CancelledBy config setting later := by
  rcases h with ⟨m, hm, hpast⟩ | ⟨n, hn, hlt⟩
  · exact .inl ⟨m, hm, Moment.isPast_mono hpast hle⟩
  · exact .inr ⟨n, hn, hlt.trans_le hle⟩

/-- Every stretch before an answer is over by that answer. -/
theorem last_le_answered {s : Stretch} {n : Nat} (h : s.LiesBefore n) :
    s.last config setting ≤ answered config setting n := by
  cases s with
  | probe k => exact answered_mono h
  | pause k => exact (beginning_mono h).trans (beginning_le_answered n)

/-- All that counts is the last look before the answer. What an earlier look finds, this one finds
as well. -/
theorem observedThrough_iff (n : Nat) :
    ObservedThrough config setting n ↔ CancelledBy config setting (answered config setting n) := by
  constructor
  · rintro ⟨s, hs, t, -, hlast, h⟩
    exact h.mono (hlast.trans (last_le_answered hs))
  · intro h
    exact ⟨.probe n, Nat.le_refl n, _, beginning_le_answered n, Nat.le_refl _, h⟩

/-- What is observed before one answer is observed before all later ones. -/
theorem ObservedThrough.mono {m n : Nat} (h : ObservedThrough config setting m) (hle : m ≤ n) :
    ObservedThrough config setting n := by
  rw [observedThrough_iff] at h ⊢
  exact h.mono (answered_mono hle)

/-! ### What the wait knows -/

/-- The cancellation that the wait knows of when probe `n` begins: the one that is known from
the start, and the one that an earlier probe brought. -/
def Knows (config : Config) (setting : Setting) (n : Nat) (cancelled : Option Moment) : Prop :=
  ∀ t, IsPast cancelled t ↔
    IsPast setting.cancellation.initial t ∨
      ∃ k < n, setting.cancellation.probe = some (k + 1) ∧ beginning config setting k < t

/-- From the start the wait knows of the cancellation that was there before it. -/
theorem knows_initial : Knows config setting 0 setting.cancellation.initial := by
  intro t
  simp

/-- Probe `n` adds its own cancellation to what is known, if it brings one. -/
theorem Knows.known {n : Nat} {cancelled : Option Moment} (h : Knows config setting n cancelled) :
    Knows config setting (n + 1)
      (setting.cancellation.known cancelled (n + 1) (beginning config setting n)) := by
  intro t
  rw [isPast_known, h t, Nat.exists_lt_succ_right, or_assoc]

/-- Later probes do not matter yet, so what is known is all there is. A look before probe `n` begins
cannot find what that probe brings. -/
theorem Knows.isPast_iff {n t : Nat} {cancelled : Option Moment}
    (h : Knows config setting n cancelled) (ht : t ≤ beginning config setting n) :
    IsPast cancelled t ↔ CancelledBy config setting t := by
  rw [h t]
  refine or_congr Iff.rfl ⟨?_, ?_⟩
  · rintro ⟨k, -, hrest⟩
    exact ⟨k, hrest⟩
  · rintro ⟨k, hk, hlt⟩
    refine ⟨k, ?_, hk, hlt⟩
    -- A probe that begins at `n` or later does so at `t` or later.
    rcases Nat.lt_or_ge k n with hkn | hnk
    · exact hkn
    · exact absurd (hlt.trans_le (ht.trans (beginning_mono hnk))) (Nat.lt_irrefl _)

/-- While it passes time until `finish`, the wait observes the cancellation exactly when the last
look finds it, and not before it has begun to pass the time. -/
theorem Knows.observation {n : Nat} {cancelled : Option Moment}
    (h : Knows config setting n cancelled) (now finish : Nat)
    (hfinish : finish ≤ beginning config setting n) :
    (∃ c, observed? cancelled now finish = some c ∧ now ≤ c ∧
      CancelledBy config setting finish) ∨
    (observed? cancelled now finish = none ∧ ¬ CancelledBy config setting finish) := by
  rw [← h.isPast_iff hfinish]
  cases cancelled with
  | none => exact .inr ⟨rfl, by simp [IsPast]⟩
  | some m =>
    by_cases hpast : m.isPast finish = true
    · exact .inl ⟨max m.millis now, if_pos hpast, Nat.le_max_right _ _, m, rfl, hpast⟩
    · exact .inr ⟨if_neg hpast, by simp [IsPast, hpast]⟩

end

end TenantSearch.Wait
