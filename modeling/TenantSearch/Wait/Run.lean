import TenantSearch.Wait.Basic

/-!
# `TenantSearch.Wait.Run`: the course of a wait

A wait is a function of what it meets: the answer and the latency of each probe, the moment of a
cancellation, and the reading of the clock at the start. Time passes in whole milliseconds, and
a pause ends with the first millisecond that is not before its end.

Whenever the wait has to pass time, for an answer or in a pause, it listens for the
cancellation, from the first moment of that time to the last. A cancellation that is there when
the time ends is observed, and one that was there before it is observed at once, so that no
probe begins. In the millisecond in which the time ends, a cancellation may come ahead of the
end or behind it. `Moment.ahead` tells the two apart.

A pause is taken to be exact, whatever its length is. That goes for a pause whose end no clock can
read as well: it ends `pauseEnd` milliseconds after the start all the same.

A clock cannot read more than `lastInstant`, and a moment beyond it has no reading. A wait with a
deadline computes such moments, and every wait counts its probes in a word. A step of this
arithmetic that has no result breaks the wait off (`Overflow`, `Break`).
-/

set_option autoImplicit false

namespace TenantSearch.Wait

open TenantSearch.Time (Duration)

/-- The last reading of a clock, in nanoseconds. Its seconds fit a signed 64-bit word. -/
def lastInstant : Nat := 0x8000000000000000 * Time.nanosPerSecond - 1

/-- A step of the arithmetic that has no result. -/
inductive Overflow where
  /-- The number of a probe behind the largest word. -/
  | aboveCount
  /-- The number of a probe before the first word. -/
  | belowCount
  /-- A moment that the clock cannot read. -/
  | beyondLast
deriving DecidableEq, Repr

/-- What is said when the step fails. -/
def Overflow.message : Overflow → String
  | aboveCount => "attempt to add with overflow"
  | belowCount => "attempt to subtract with overflow"
  | beyondLast => "overflow when adding duration to instant"

/-- The number of the next probe. -/
def nextNumber (attempt : UInt32) : Except Overflow UInt32 :=
  if attempt.toNat + 1 < UInt32.size then .ok (attempt + 1) else .error .aboveCount

/-- The number of the probe before. -/
def previousNumber (attempt : UInt32) : Except Overflow UInt32 :=
  if 1 ≤ attempt.toNat then .ok (attempt - 1) else .error .belowCount

/-- The reading after the given span. -/
def readingAfter (reading : Nat) (d : Duration) : Except Overflow Nat :=
  if reading + d.nanos ≤ lastInstant then .ok (reading + d.nanos) else .error .beyondLast

/-- What a probe meets. -/
structure Probe where
  /-- How long the answer takes, in milliseconds. -/
  latency : Nat := 0
  answer : Except Store.Error Bool

/-- Whether the answer shows the expected state. A failed probe shows nothing. -/
def Probe.shows (p : Probe) (expectation : Expectation) : Bool :=
  match p.answer with
  | .ok found => expectation.isMet found
  | .error _ => false

/-- When a wait is cancelled. -/
structure Cancellation where
  /-- Before the wait begins. -/
  before : Bool := false
  /-- So many milliseconds after the start. -/
  elapsed : Option Nat := none
  /-- Whether it then comes ahead of whatever else happens in that millisecond. -/
  ahead : Bool := false
  /-- When this probe begins, counted from one. -/
  probe : Option Nat := none

/-- A moment within a wait. -/
structure Moment where
  /-- The millisecond, counted from the start. -/
  millis : Nat
  /-- Whether it lies ahead of whatever else happens in that millisecond, or behind it. -/
  ahead : Bool
deriving DecidableEq, Repr

/-- What a wait meets. -/
structure Setting where
  /-- The probes, counted from zero. -/
  probes : Nat → Probe
  cancellation : Cancellation := {}
  /-- The reading of the clock at the start, in nanoseconds. -/
  start : Nat := 0

/-- When a probe began and when it was answered, in milliseconds after the start. -/
structure Span where
  began : Nat
  answered : Option Nat
deriving DecidableEq, Repr

/-- A wait that came to its outcome. -/
structure Report where
  outcome : Outcome
  /-- How many milliseconds passed. -/
  elapsed : Nat
  /-- The probes that began, in order. -/
  spans : List Span
deriving DecidableEq, Repr

/-- A wait that its arithmetic broke off. -/
structure Break where
  cause : Overflow
  /-- The probes that began, in order. -/
  spans : List Span
deriving DecidableEq, Repr

/-- The course of a wait. -/
abbrev Course := Except Break Report

namespace Course

/-- The course with one more probe in front. -/
def after (s : Span) : Course → Course
  | .ok r => .ok { r with spans := s :: r.spans }
  | .error b => .error { b with spans := s :: b.spans }

/-- A wait that is cancelled before probe number `attempt` is answered. The outcome counts the
probes before it. -/
def cancelledBefore (attempt : UInt32) (elapsed : Nat) (spans : List Span) : Course :=
  match previousNumber attempt with
  | .ok n => .ok ⟨.cancelled n, elapsed, spans⟩
  | .error e => .error ⟨e, spans⟩

end Course

/-- Whether the moment lies ahead of what else happens in the given millisecond. -/
def Moment.isPast (m : Moment) (now : Nat) : Bool :=
  m.millis < now || (m.ahead && m.millis = now)

/-- The earlier of two moments. -/
def Moment.earlier (a b : Moment) : Moment := if a.isPast b.millis then a else b

/-- The moment of the cancellation, as far as it is known when the wait begins. -/
def Cancellation.initial (c : Cancellation) : Option Moment :=
  if c.before then some ⟨0, true⟩ else c.elapsed.map fun n => ⟨n, c.ahead⟩

/-- The moment of the cancellation once the given probe has begun at `now`. -/
def Cancellation.known (c : Cancellation) (known : Option Moment) (probe now : Nat) :
    Option Moment :=
  if c.probe = some probe then some ((known.map (·.earlier ⟨now, false⟩)).getD ⟨now, false⟩)
  else known

/-- The millisecond in which a cancellation is observed while the time passes from `now` to
`finish`. -/
def observed? (cancelled : Option Moment) (now finish : Nat) : Option Nat :=
  match cancelled with
  | some m => if m.isPast finish then some (max m.millis now) else none
  | none => none

/-- The millisecond in which a pause ends that begins at `now`. -/
def pauseEnd (now : Nat) (d : Duration) : Nat :=
  now + (d.nanos + (Time.nanosPerMilli - 1)) / Time.nanosPerMilli

/-- The reading of the clock `now` milliseconds after the start. -/
def Setting.reading (s : Setting) (now : Nat) : Nat := s.start + now * Time.nanosPerMilli

/-- Whether a pause that begins at `now` would end after the deadline. -/
def Setting.overruns (s : Setting) (deadline : Option Nat) (now : Nat) (d : Duration) :
    Except Overflow Bool :=
  match deadline with
  | none => .ok false
  | some last => (readingAfter (s.reading now) d).map fun moment => last < moment

/-- Makes probe number `attempt`, after `begun` earlier ones, and at most `left` more. -/
def probeFrom (config : Config) (expectation : Expectation) (setting : Setting)
    (deadline : Option Nat) :
    (left : Nat) → (attempt : UInt32) → (begun now : Nat) → (cancelled : Option Moment) → Course
  | left, attempt, begun, now, cancelled =>
    -- The cancellation is looked at before the probe begins.
    match observed? cancelled now now with
    | some c => .cancelledBefore attempt c []
    | none =>
      let probe := setting.probes begun
      let cancelled := setting.cancellation.known cancelled (begun + 1) now
      let answered := now + probe.latency
      match observed? cancelled now answered with
      | some c => .cancelledBefore attempt c [⟨now, none⟩]
      | none =>
        let span : Span := ⟨now, some answered⟩
        if probe.shows expectation then .ok ⟨.confirmed attempt, answered, [span]⟩
        else
          let delay := Retry.linearDelay attempt config.baseDelay
          match setting.overruns deadline answered delay with
          | .error e => .error ⟨e, [span]⟩
          | .ok overruns =>
            match left with
            | 0 => .ok ⟨.gaveUp attempt, answered, [span]⟩
            | left + 1 =>
              if overruns then .ok ⟨.gaveUp attempt, answered, [span]⟩
              else
                let next := pauseEnd answered delay
                match observed? cancelled answered next with
                | some c => .ok ⟨.cancelled attempt, c, [span]⟩
                | none =>
                  match nextNumber attempt with
                  | .error e => .error ⟨e, [span]⟩
                  | .ok following =>
                    .after span
                      (probeFrom config expectation setting deadline left following (begun + 1)
                        next cancelled)

/-- Waits, within the time given. -/
def run (config : Config) (expectation : Expectation) (timeout : Option Duration)
    (setting : Setting) : Course :=
  let waitUntil (deadline : Option Nat) : Course :=
    probeFrom config expectation setting deadline (config.maxAttempts.toNat - 1) 1 0 0
      setting.cancellation.initial
  match timeout with
  | none => waitUntil none
  | some d =>
    match readingAfter setting.start d with
    | .ok deadline => waitUntil (some deadline)
    | .error e => .error ⟨e, []⟩

end TenantSearch.Wait
