import TenantSearch.Retry.Delay

/-!
# `TenantSearch.Retry.Backoff`: repeating a call that failed

An operation is repeated until it succeeds, fails for good, or has been tried often enough.
Between two attempts there is one pause. The operation is seen through its results: the result
of the first attempt, of the second, and so on.

The attempts are counted in a 32-bit word. The recursion is over the attempts that may still
follow, so the count stays at most at the largest number of attempts.
-/

set_option autoImplicit false

namespace TenantSearch.Retry

open TenantSearch.Time (Duration)

variable {ε α : Type}

/-- How often to try and how long to pause. -/
structure Policy where
  maxAttempts : UInt32 := 3
  /-- The first pause, in milliseconds. -/
  base : UInt64 := 100
deriving DecidableEq

/-- A pause after a failed attempt. -/
structure Pause (ε : Type) where
  error : ε
  attempt : UInt32
  delay : Duration

/-- The result of the last attempt, and what came before. -/
structure Outcome (ε α : Type) where
  result : Except ε α
  /-- The number of the last attempt. -/
  attempts : UInt32
  /-- How many results were asked for. -/
  calls : Nat
  pauses : List (Pause ε)

/-- The outcome with one more pause in front. -/
def Outcome.after (o : Outcome ε α) (p : Pause ε) : Outcome ε α :=
  { o with pauses := p :: o.pauses }

/-- Makes attempt number `attempt`, after `calls` earlier ones, and at most `left` more. -/
def attemptFrom (base : UInt64) (retryable : ε → Bool) (operation : Nat → Except ε α) :
    (left : Nat) → (attempt : UInt32) → (calls : Nat) → Outcome ε α
  | left, attempt, calls =>
    match operation calls with
    | .ok v => ⟨.ok v, attempt, calls + 1, []⟩
    | .error e =>
      match left with
      | 0 => ⟨.error e, attempt, calls + 1, []⟩
      | left + 1 =>
        if retryable e then
          (attemptFrom base retryable operation left (attempt + 1) (calls + 1)).after
            ⟨e, attempt, exponentialDelay attempt base⟩
        else ⟨.error e, attempt, calls + 1, []⟩

/-- Repeats the operation. It is tried once at least. -/
def Policy.run (p : Policy) (retryable : ε → Bool) (operation : Nat → Except ε α) :
    Outcome ε α :=
  attemptFrom p.base retryable operation (p.maxAttempts.toNat - 1) 1 0

/-- How long all the pauses are together, in nanoseconds. -/
def Outcome.pausedNanos (o : Outcome ε α) : Nat :=
  o.pauses.foldr (fun p total => p.delay.nanos + total) 0

/-- What is said of a pause. -/
def Pause.message (errorText : ε → String) (p : Pause ε) : String :=
  "Retrying after transient error error=" ++ errorText p.error ++ " attempt="
    ++ toString p.attempt ++ " delay_ms=" ++ toString p.delay.millis

end TenantSearch.Retry
