import TenantSearch.Proofs.Wait.Turn

/-!
# `TenantSearch.Proofs.Wait.Course`: the course of a wait

One probe decides a wait. The wait pauses behind each probe before it (`Pauses`), and `Ends n` lists
how it can end with probe `n`. `Course.Unfolds begun n` puts the two together, for the part of a
wait that begins with probe `begun`: the spans of the earlier probes stand in front of the end.

`restFrom_unfolds` follows the turns of a wait by induction on the probes that are left. It is the
only induction over the loop. `run_unfolds` is the whole wait, from its first probe on, and
`Course.Unfolds.probed` says what its probes are, however it ends.
-/

set_option autoImplicit false

namespace TenantSearch.Wait

open TenantSearch.Time (Duration)

/-- The probes of a course that began, in order. -/
def Course.spans : Course → List Span
  | .ok r => r.spans
  | .error b => b.spans

/-- The course with several more probes in front. -/
def Course.behind (spans : List Span) (c : Course) : Course := spans.foldr Course.after c

section

variable (config : Config) (expectation : Expectation) (setting : Setting)
  (deadline : Option Nat)

/-- How a wait can end with probe `n`, with no earlier probes in front. -/
inductive Ends (n : Nat) : Course → Prop where
  /-- The cancellation is observed before the probe begins. -/
  | withdrawn {elapsed : Nat} (observed : ObservedThrough config setting n)
      (answered_le : ∀ k < n, answered config setting k ≤ elapsed) :
      Ends n (.ok ⟨.cancelled (UInt32.ofNat n), elapsed, []⟩)
  /-- The probe begins, and the cancellation is observed before its answer. -/
  | unanswered {elapsed : Nat} (observed : ObservedThrough config setting n)
      (uncancelled : ¬ CancelledBy config setting (beginning config setting n))
      (began_le : beginning config setting n ≤ elapsed) :
      Ends n (.ok ⟨.cancelled (UInt32.ofNat n), elapsed, [⟨beginning config setting n, none⟩]⟩)
  | confirmed (unobserved : ¬ ObservedThrough config setting n)
      (sees : Sees expectation setting n) :
      Ends n (.ok ⟨.confirmed (UInt32.ofNat (n + 1)), answered config setting n,
        [spanOf config setting n]⟩)
  /-- The pause behind the probe would end too late, or there is no probe behind it. -/
  | gaveUp {late : Bool} (misses : Misses config expectation setting n)
      (clock : clockBehind config setting deadline n = .ok late)
      (last : n + 1 = config.maxAttempts.toNat ∨ late = true) :
      Ends n (.ok ⟨.gaveUp (UInt32.ofNat (n + 1)), answered config setting n,
        [spanOf config setting n]⟩)
  /-- The look at the clock behind the probe fails. -/
  | breaksOff {e : Overflow} (misses : Misses config expectation setting n)
      (clock : clockBehind config setting deadline n = .error e) :
      Ends n (.error ⟨e, [spanOf config setting n]⟩)

/-- The part of a wait from probe `begun` on, when probe `n` decides it. -/
structure Course.Unfolds (begun n : Nat) (c : Course) : Prop where
  begun_le : begun ≤ n
  lt_max : n < config.maxAttempts.toNat
  /-- The wait pauses behind the earlier probes. -/
  pauses : ∀ k, begun ≤ k → k < n → Pauses config expectation setting deadline k
  ends : ∃ last, Ends config expectation setting deadline n last ∧
    c = last.behind ((List.range' begun (n - begun)).map (spanOf config setting))

/-- The probes of a wait: `count` of them are answered, and the one in `opened` is not. -/
structure Probed (count : Nat) (opened spans : List Span) : Prop where
  le_max : count ≤ config.maxAttempts.toNat
  unobserved : ∀ k < count, ¬ ObservedThrough config setting k
  spans : spans = (List.range count).map (spanOf config setting) ++ opened
  opened : opened = [] ∨ count < config.maxAttempts.toNat ∧
    ¬ CancelledBy config setting (beginning config setting count) ∧
    opened = [⟨beginning config setting count, none⟩]

end

section

variable {config : Config} {expectation : Expectation} {setting : Setting}
  {deadline : Option Nat}

/-! ### Probes in front -/

/-- Probes in front of a report come before its own. -/
theorem Course.behind_ok (spans : List Span) (r : Report) :
    Course.behind spans (.ok r) = .ok { r with spans := spans ++ r.spans } := by
  induction spans with
  | nil => rfl
  | cons s spans ih =>
    show Course.after s (Course.behind spans (.ok r)) = _
    rw [ih]
    rfl

/-- Probes in front of a break come before its own. -/
theorem Course.behind_error (spans : List Span) (b : Break) :
    Course.behind spans (.error b) = .error { b with spans := spans ++ b.spans } := by
  induction spans with
  | nil => rfl
  | cons s spans ih =>
    show Course.after s (Course.behind spans (.error b)) = _
    rw [ih]
    rfl

/-- However the course ends, probes in front come before those that are there. -/
theorem Course.spans_behind (spans : List Span) (c : Course) :
    (Course.behind spans c).spans = spans ++ c.spans := by
  cases c with
  | ok r =>
    rw [Course.behind_ok]
    rfl
  | error b =>
    rw [Course.behind_error]
    rfl

/-! ### The turns of a wait -/

/-- A wait that is decided by its next probe. -/
theorem Course.Unfolds.single {n : Nat} {c : Course}
    (hends : Ends config expectation setting deadline n c) (hmax : n < config.maxAttempts.toNat) :
    c.Unfolds config expectation setting deadline n n where
  begun_le := Nat.le_refl n
  lt_max := hmax
  pauses := fun _ hk hkn => absurd hkn (Nat.not_lt.2 hk)
  ends := ⟨c, hends, by rw [Nat.sub_self]; rfl⟩

/-- One more probe in front, behind which the wait pauses. The later probes keep their numbers,
because numbers count from the start of the wait. -/
theorem Course.Unfolds.after {begun n : Nat} {c : Course}
    (h : c.Unfolds config expectation setting deadline (begun + 1) n)
    (hpauses : Pauses config expectation setting deadline begun) :
    (Course.after (spanOf config setting begun) c).Unfolds config expectation setting deadline
      begun n where
  begun_le := (Nat.le_succ begun).trans h.begun_le
  lt_max := h.lt_max
  pauses := by
    intro k hk hkn
    rcases Nat.eq_or_lt_of_le hk with rfl | hk
    · exact hpauses
    · exact h.pauses k hk hkn
  ends := by
    obtain ⟨last, hends, rfl⟩ := h.ends
    -- The new probe comes first, and the range of the earlier ones begins with it.
    have hlt : begun < n := h.begun_le
    have hcount : n - begun = n - (begun + 1) + 1 := by omega
    refine ⟨last, hends, ?_⟩
    rw [hcount, List.range'_succ]
    rfl

/-- Some probe decides what is left of a wait. Each turn either ends the wait or leaves one probe
less, so the last turn is reached within the probes that are left. -/
theorem restFrom_unfolds (left begun : Nat) {cancelled : Option Moment}
    (hleft : begun + left + 1 = config.maxAttempts.toNat)
    (hknows : Knows config setting begun cancelled) :
    ∃ n, (restFrom config expectation setting deadline left begun cancelled).Unfolds config
      expectation setting deadline begun n := by
  -- The recursion is on the probes that are left. What the wait knows is carried along.
  have hturn : Turn config expectation setting deadline begun left
      (restFrom config expectation setting deadline left begun cancelled) :=
    restFrom_turn left begun hleft hknows
  generalize restFrom config expectation setting deadline left begun cancelled = c at hturn ⊢
  cases hturn with
  | withdrawn hobserved hle =>
    exact ⟨begun, .single
      (.withdrawn hobserved fun _ hk => (answered_le_beginning hk).trans hle) (by omega)⟩
  | unanswered hobserved huncancelled hle =>
    exact ⟨begun, .single (.unanswered hobserved huncancelled hle) (by omega)⟩
  | confirmed hunobserved hsees =>
    exact ⟨begun, .single (.confirmed hunobserved hsees) (by omega)⟩
  | breaksOff hmisses hclock => exact ⟨begun, .single (.breaksOff hmisses hclock) (by omega)⟩
  | gaveUp hmisses hclock hlast =>
    exact ⟨begun, .single
      (.gaveUp hmisses hclock (hlast.imp_left fun hzero => by omega)) (by omega)⟩
  | @interrupted left elapsed hpauses hobserved hle =>
    -- A wait that is cancelled in a pause is decided by the next probe, which does not begin.
    have hends : Ends config expectation setting deadline (begun + 1)
        (.ok ⟨.cancelled (UInt32.ofNat (begun + 1)), elapsed, []⟩) :=
      .withdrawn hobserved fun _ hk => (answered_mono (Nat.le_of_lt_succ hk)).trans hle
    exact ⟨begun + 1, (Course.Unfolds.single hends (by omega)).after hpauses⟩
  | @goesOn left cancelled' hpauses hknows' =>
    obtain ⟨n, hn⟩ := restFrom_unfolds left (begun + 1) (by omega) hknows'
    exact ⟨n, hn.after hpauses⟩
termination_by left

/-! ### Whole waits -/

/-- A reading beyond the last one fails. -/
theorem readingAfter_of_lt {reading : Nat} {d : Duration} (h : lastInstant < reading + d.nanos) :
    readingAfter reading d = .error .beyondLast :=
  if_neg (Nat.not_le.2 h)

/-- Any other reading is exact. -/
theorem readingAfter_of_le {reading : Nat} {d : Duration} (h : reading + d.nanos ≤ lastInstant) :
    readingAfter reading d = .ok (reading + d.nanos) :=
  if_pos h

/-- A wait is all of its turns, unless the clock cannot read the deadline. Then no probe begins.
What holds of every turn carries over to the wait by this, with no further induction. -/
theorem run_unfolds (config : Config) (expectation : Expectation) (timeout : Option Duration)
    (setting : Setting) :
    (∃ d, timeout = some d ∧ lastInstant < setting.start + d.nanos ∧
      run config expectation timeout setting = .error ⟨.beyondLast, []⟩) ∨
    (∀ d ∈ timeout, setting.start + d.nanos ≤ lastInstant) ∧
      ∃ n, (run config expectation timeout setting).Unfolds config expectation setting
        (timeout.map fun d => setting.start + d.nanos) 0 n := by
  -- The first probe and those that may follow it are all there may be.
  have hleft : 0 + (config.maxAttempts.toNat - 1) + 1 = config.maxAttempts.toNat := by
    have := config.one_le_maxAttempts
    omega
  cases timeout with
  | none =>
    refine .inr ⟨fun d hd => (nomatch hd), ?_⟩
    exact restFrom_unfolds _ 0 hleft knows_initial
  | some d =>
    rcases Nat.lt_or_ge lastInstant (setting.start + d.nanos) with hbeyond | hreadable
    · refine .inl ⟨d, rfl, hbeyond, ?_⟩
      simp only [run, readingAfter_of_lt hbeyond]
    · refine .inr ⟨by rintro _ ⟨⟩; exact hreadable, ?_⟩
      simp only [run, readingAfter_of_le hreadable]
      exact restFrom_unfolds _ 0 hleft knows_initial

/-- The earlier probes of a whole wait, and its end. The wait begins with probe zero, so the probes
in front are all those before the deciding one. -/
theorem Course.Unfolds.whole {c : Course} {n : Nat}
    (h : c.Unfolds config expectation setting deadline 0 n) :
    (∀ k < n, Pauses config expectation setting deadline k) ∧
      ∃ last, Ends config expectation setting deadline n last ∧
        c = last.behind ((List.range n).map (spanOf config setting)) := by
  obtain ⟨last, hends, hc⟩ := h.ends
  rw [Nat.sub_zero, ← List.range_eq_range'] at hc
  exact ⟨fun k hk => h.pauses k (Nat.zero_le k) hk, last, hends, hc⟩

/-! ### The probes of a wait -/

/-- The spans of the first `n + 1` probes, the last one set apart. -/
theorem map_range_succ (n : Nat) :
    (List.range (n + 1)).map (spanOf config setting) =
      (List.range n).map (spanOf config setting) ++ [spanOf config setting n] := by
  rw [List.range_succ, List.map_append]
  rfl

/-- However a wait ends, its answered probes come first and ran at their times, and at most one
more began. The deciding probe counts as answered unless the wait was cancelled before that. -/
theorem Course.Unfolds.probed {c : Course} {n : Nat}
    (h : c.Unfolds config expectation setting deadline 0 n) :
    ∃ count opened, Probed config setting count opened c.spans ∧
      ∀ r, c = .ok r → r.outcome.attempts.toNat = count ∧
        (opened = [] ∨ ∃ k, r.outcome = .cancelled k) := by
  have hmax := h.lt_max
  obtain ⟨hpauses, last, hends, rfl⟩ := h.whole
  -- A wait does not pause behind a probe before whose answer it was cancelled.
  have hearlier : ∀ k < n, ¬ ObservedThrough config setting k := fun k hk =>
    (hpauses k hk).unobserved
  have hthrough : ¬ ObservedThrough config setting n →
      ∀ k < n + 1, ¬ ObservedThrough config setting k := by
    intro hno k hk hobserved
    exact hno (hobserved.mono (Nat.le_of_lt_succ hk))
  -- Where the deciding probe is answered, it stands behind the others as one of them.
  have hanswered : ∀ c : Course, c.spans = [spanOf config setting n] →
      (Course.behind ((List.range n).map (spanOf config setting)) c).spans =
        (List.range (n + 1)).map (spanOf config setting) ++ [] := by
    intro c hc
    rw [Course.spans_behind, hc, map_range_succ, List.append_nil]
  cases hends with
  | withdrawn _ _ =>
    rw [Course.behind_ok]
    refine ⟨n, [], ⟨hmax.le, hearlier, rfl, .inl rfl⟩, ?_⟩
    rintro _ ⟨⟩
    exact ⟨toNat_ofNat_of_le hmax.le, .inl rfl⟩
  | unanswered _ huncancelled _ =>
    rw [Course.behind_ok]
    refine ⟨n, _, ⟨hmax.le, hearlier, rfl, .inr ⟨hmax, huncancelled, rfl⟩⟩, ?_⟩
    rintro _ ⟨⟩
    exact ⟨toNat_ofNat_of_le hmax.le, .inr ⟨_, rfl⟩⟩
  | confirmed hunobserved _ =>
    refine ⟨n + 1, [], ⟨hmax, hthrough hunobserved, hanswered _ rfl, .inl rfl⟩, ?_⟩
    rw [Course.behind_ok]
    rintro _ ⟨⟩
    exact ⟨toNat_ofNat_of_le hmax, .inl rfl⟩
  | gaveUp hmisses _ _ =>
    refine ⟨n + 1, [], ⟨hmax, hthrough hmisses.unobserved, hanswered _ rfl, .inl rfl⟩, ?_⟩
    rw [Course.behind_ok]
    rintro _ ⟨⟩
    exact ⟨toNat_ofNat_of_le hmax, .inl rfl⟩
  | breaksOff hmisses _ =>
    refine ⟨n + 1, [], ⟨hmax, hthrough hmisses.unobserved, hanswered _ rfl, .inl rfl⟩, ?_⟩
    rw [Course.behind_error]
    rintro _ ⟨⟩

namespace Probed

variable {spans : List Span} {count : Nat} {opened : List Span}

/-- As many probes began as were answered, and perhaps one more. -/
theorem length_spans (h : Probed config setting count opened spans) :
    spans.length = count + opened.length := by
  rw [h.spans, List.length_append, List.length_map, List.length_range]

/-- At most so many probes begin as there may be. -/
theorem length_le (h : Probed config setting count opened spans) :
    spans.length ≤ config.maxAttempts.toNat := by
  rw [h.length_spans]
  rcases h.opened with rfl | ⟨hlt, -, rfl⟩
  · exact h.le_max
  · exact hlt

/-- Each span is that of a probe that was answered, or it is the open one. So the number of a span
is that of its probe, and its times are those of the timeline. -/
theorem getElem?_spans (h : Probed config setting count opened spans) {n : Nat} {s : Span}
    (hs : spans[n]? = some s) :
    n < count ∧ s = spanOf config setting n ∨
      n = count ∧ s = ⟨beginning config setting n, none⟩ ∧
        ¬ CancelledBy config setting (beginning config setting n) := by
  rw [h.spans] at hs
  rcases Nat.lt_or_ge n count with hlt | hge
  · rw [List.getElem?_append_left (by simpa using hlt)] at hs
    simp only [List.getElem?_map, List.getElem?_range hlt, Option.map_some, Option.some.injEq] at hs
    exact .inl ⟨hlt, hs.symm⟩
  · rw [List.getElem?_append_right (by simpa using hge), List.length_map, List.length_range] at hs
    rcases h.opened with rfl | ⟨-, huncancelled, rfl⟩
    · simp at hs
    · obtain ⟨hn, hs⟩ := List.getElem?_eq_some_iff.1 hs
      obtain rfl : n = count := by simp at hn; omega
      exact .inr ⟨rfl, by simpa using hs.symm, huncancelled⟩

/-- The spans of a wait follow each other: a probe begins after all earlier ones are answered. This
holds of any two of them, so no two probes ever run at once. -/
theorem pairwise_spans (h : Probed config setting count opened spans) :
    spans.Pairwise fun s s' => ∃ t, s.answered = some t ∧ t ≤ s'.began := by
  rw [h.spans, List.pairwise_append]
  refine ⟨?_, ?_, ?_⟩
  · rw [List.pairwise_map]
    exact List.pairwise_lt_range.imp fun hlt => ⟨_, rfl, answered_le_beginning hlt⟩
  · rcases h.opened with rfl | ⟨-, -, rfl⟩
    · exact .nil
    · exact List.pairwise_singleton _ _
  · intro s hs s' hs'
    obtain ⟨k, hk, rfl⟩ := List.mem_map.1 hs
    rcases h.opened with rfl | ⟨-, -, rfl⟩
    · cases hs'
    · obtain rfl := List.mem_singleton.1 hs'
      exact ⟨_, rfl, answered_le_beginning (List.mem_range.1 hk)⟩

/-- As many spans end in an answer as probes are answered. -/
theorem countP_spans (h : Probed config setting count opened spans) :
    spans.countP (·.answered.isSome) = count := by
  have hanswered : ((List.range count).map (spanOf config setting)).countP (·.answered.isSome) =
      count := by
    rw [List.countP_map]
    exact (List.countP_eq_length.2 fun _ _ => rfl).trans List.length_range
  rw [h.spans, List.countP_append, hanswered]
  rcases h.opened with rfl | ⟨-, -, rfl⟩ <;> simp

/-- A probe that begins does so before the cancellation. -/
theorem uncancelled (h : Probed config setting count opened spans) {s : Span} (hs : s ∈ spans) :
    ¬ CancelledBy config setting s.began := by
  obtain ⟨n, hn⟩ := List.mem_iff_getElem?.1 hs
  rcases h.getElem?_spans hn with ⟨hlt, rfl⟩ | ⟨-, rfl, huncancelled⟩
  · intro hcancelled
    exact h.unobserved n hlt
      ((observedThrough_iff n).2 (hcancelled.mono (beginning_le_answered n)))
  · exact huncancelled

end Probed

end

end TenantSearch.Wait
