import Mathlib.Order.Bounds.Basic
import TenantSearch.Proofs.Retry.Delay
import TenantSearch.Retry.Backoff

/-!
# `TenantSearch.Proofs.Retry.Backoff`: which attempt decides

An operation is repeated for as long as it fails in a way that may pass. `Outcome.DecidedBy` says
which result ends this: the first one that is not such a failure, or the last one that may be
asked for. `attemptFrom_decided` follows the attempts one by one, and `Policy.run_decided` is the
whole of them.

`Outcome.Counted` says how the attempts are counted and what lies between them. The count is a
word, and it starts again at zero behind the largest one. It never gets there, as the largest
number of attempts is a word too (`attemptFrom_counted`).

`Policy.run_retried` puts the two together, with the exact length of the pauses.
-/

set_option autoImplicit false

namespace TenantSearch.Retry

open TenantSearch.Time (Duration)

variable {ε α : Type}

/-- The result is an error after which the operation may be repeated. -/
def MayPass (retryable : ε → Bool) (result : Except ε α) : Prop :=
  ∃ e, result = .error e ∧ retryable e = true

/-- The outcome of at most `left + 1` attempts after `calls` earlier ones, when the one with `n`
attempts before it decides. -/
structure Outcome.DecidedBy (retryable : ε → Bool) (operation : Nat → Except ε α)
    (left calls n : Nat) (o : Outcome ε α) : Prop where
  le_left : n ≤ left
  /-- All earlier results may pass. -/
  earlier : ∀ k < n, MayPass retryable (operation (calls + k))
  /-- The deciding one may not, unless it is the last one that may be asked for. -/
  stops : n < left → ¬ MayPass retryable (operation (calls + n))
  result_eq : o.result = operation (calls + n)
  calls_eq : o.calls = calls + n + 1

section

variable {retryable : ε → Bool} {operation : Nat → Except ε α} {left calls n : Nat}
  {o : Outcome ε α}

/-- The next attempt decides. -/
theorem Outcome.DecidedBy.atOnce
    (hstops : 0 < left → ¬ MayPass retryable (operation calls))
    (hresult : o.result = operation calls) (hcalls : o.calls = calls + 1) :
    o.DecidedBy retryable operation left calls 0 where
  le_left := Nat.zero_le left
  earlier := fun _ hk => absurd hk (Nat.not_lt_zero _)
  stops := hstops
  result_eq := hresult
  calls_eq := hcalls

/-- One more failure in front that may pass. The deciding attempt is one further away, and all
before it may pass. -/
theorem Outcome.DecidedBy.after
    (h : o.DecidedBy retryable operation left (calls + 1) n)
    (hpasses : MayPass retryable (operation calls)) (p : Pause ε) :
    (o.after p).DecidedBy retryable operation (left + 1) calls (n + 1) where
  le_left := Nat.succ_le_succ h.le_left
  earlier := by
    intro k hk
    cases k with
    | zero => exact hpasses
    | succ k =>
      have hstep : calls + (k + 1) = calls + 1 + k := by omega
      rw [hstep]
      exact h.earlier k (Nat.lt_of_succ_lt_succ hk)
  stops := by
    intro hn
    have hstep : calls + (n + 1) = calls + 1 + n := by omega
    rw [hstep]
    exact h.stops (Nat.lt_of_succ_lt_succ hn)
  result_eq := by
    have hstep : calls + (n + 1) = calls + 1 + n := by omega
    rw [hstep]
    exact h.result_eq
  calls_eq := by
    show o.calls = _
    rw [h.calls_eq]
    omega

end

/-- Some attempt decides. If no attempt before it does, the last one decides, because none is left
behind it. -/
theorem attemptFrom_decided (base : UInt64) (retryable : ε → Bool)
    (operation : Nat → Except ε α) (left : Nat) (attempt : UInt32) (calls : Nat) :
    ∃ n, (attemptFrom base retryable operation left attempt calls).DecidedBy retryable operation
      left calls n := by
  -- The recursion is on the attempts that are left.
  induction left generalizing attempt calls with
  | zero =>
    refine ⟨0, .atOnce (fun h => absurd h (Nat.lt_irrefl 0)) ?_ ?_⟩ <;>
    · unfold attemptFrom
      cases operation calls <;> rfl
  | succ left ih =>
    unfold attemptFrom
    cases hresult : operation calls with
    | ok v =>
      refine ⟨0, .atOnce ?_ hresult.symm rfl⟩
      rintro - ⟨e, he, -⟩
      cases hresult.symm.trans he
    | error e =>
      by_cases hretry : retryable e = true
      · obtain ⟨n, hn⟩ := ih (attempt + 1) (calls + 1)
        simp only [hretry, if_true]
        exact ⟨n + 1, hn.after ⟨e, hresult, hretry⟩ _⟩
      · simp only [hretry]
        refine ⟨0, .atOnce ?_ hresult.symm rfl⟩
        rintro - ⟨e', he', hretry'⟩
        cases hresult.symm.trans he'
        exact hretry hretry'

/-- Some attempt decides, and it is one of those that the policy allows. -/
theorem Policy.run_decided (p : Policy) (retryable : ε → Bool) (operation : Nat → Except ε α) :
    ∃ n, (p.run retryable operation).DecidedBy retryable operation (p.maxAttempts.toNat - 1) 0 n :=
  attemptFrom_decided _ _ _ _ _ _

/-! ### The pauses -/

/-- How the attempts are counted after `calls` earlier ones, and what lies between them. -/
structure Outcome.Counted (base : UInt64) (operation : Nat → Except ε α) (calls : Nat)
    (o : Outcome ε α) : Prop where
  attempts : o.attempts.toNat = o.calls
  lt_calls : calls < o.calls
  /-- There is one pause behind each attempt but the last. -/
  numbers : o.pauses.map (·.attempt.toNat) = List.range' (calls + 1) (o.calls - (calls + 1))
  /-- It is there for the error of this attempt, -/
  error : ∀ p ∈ o.pauses, operation (p.attempt.toNat - 1) = .error p.error
  /-- and its length is that of this attempt. -/
  delay : ∀ p ∈ o.pauses, p.delay = exponentialDelay p.attempt base

section

variable {base : UInt64} {operation : Nat → Except ε α} {calls : Nat} {attempt : UInt32}
  {o : Outcome ε α}

/-- The attempt that decides has no pause behind it. -/
theorem Outcome.Counted.single (result : Except ε α) (hattempt : attempt.toNat = calls + 1) :
    Outcome.Counted base operation calls ⟨result, attempt, calls + 1, []⟩ where
  attempts := hattempt
  lt_calls := Nat.lt_succ_self calls
  numbers := by simp
  error := by simp
  delay := by simp

/-- One more attempt in front that fails, and its pause. The pauses are numbered from the attempt
before them, so the new one comes first. -/
theorem Outcome.Counted.after (h : o.Counted base operation (calls + 1)) {e : ε}
    (he : operation calls = .error e) (hattempt : attempt.toNat = calls + 1) :
    (o.after ⟨e, attempt, exponentialDelay attempt base⟩).Counted base operation calls where
  attempts := h.attempts
  lt_calls := (Nat.lt_succ_self calls).trans h.lt_calls
  numbers := by
    have hlt := h.lt_calls
    have hcount : o.calls - (calls + 1) = o.calls - (calls + 1 + 1) + 1 := by omega
    show attempt.toNat :: o.pauses.map (·.attempt.toNat) =
      List.range' (calls + 1) (o.calls - (calls + 1))
    rw [h.numbers, hattempt, hcount, List.range'_succ]
  error := by
    intro p hp
    rcases List.mem_cons.1 hp with rfl | hp
    · simpa [hattempt] using he
    · exact h.error p hp
  delay := by
    intro p hp
    rcases List.mem_cons.1 hp with rfl | hp
    · rfl
    · exact h.delay p hp

end

/-- The count of the attempts is exact for as long as all of them fit the word. The attempt number
is a word and would wrap around, but the number of attempts is a word as well. -/
theorem attemptFrom_counted (base : UInt64) (retryable : ε → Bool)
    (operation : Nat → Except ε α) (left : Nat) (attempt : UInt32) (calls : Nat)
    (hattempt : attempt.toNat = calls + 1) (hleft : calls + 1 + left < UInt32.size) :
    (attemptFrom base retryable operation left attempt calls).Counted base operation calls := by
  induction left generalizing attempt calls with
  | zero =>
    unfold attemptFrom
    cases operation calls with
    | ok v => exact .single _ hattempt
    | error e => exact .single _ hattempt
  | succ left ih =>
    unfold attemptFrom
    cases hresult : operation calls with
    | ok v => exact .single _ hattempt
    | error e =>
      by_cases hretry : retryable e = true
      · -- One more attempt is left, so the next number is a word as well.
        have hnext : (attempt + 1).toNat = calls + 1 + 1 := by
          rw [toNat_succ_of_lt (by omega), hattempt]
        have hrest := ih (attempt + 1) (calls + 1) hnext (by omega)
        simp only [hretry, if_true]
        exact hrest.after hresult hattempt
      · simp only [hretry]
        exact .single _ hattempt

/-! ### The whole of them -/

/-- Whether result number `n`, counted from one, is one with which the policy stops: a success, an
error after which the operation is not repeated, or the last result that may be asked for. -/
def Policy.StopsAt (p : Policy) (retryable : ε → Bool) (operation : Nat → Except ε α) (n : Nat) :
    Prop :=
  (∃ v, operation (n - 1) = .ok v) ∨ (∃ e, operation (n - 1) = .error e ∧ retryable e = false) ∨
    n = max p.maxAttempts.toNat 1

/-- What it comes to when an operation is repeated. -/
structure Outcome.Retried (p : Policy) (retryable : ε → Bool) (operation : Nat → Except ε α)
    (o : Outcome ε α) : Prop where
  /-- There is a call for each result up to the first one with which the policy stops. -/
  calls : IsLeast {n | 1 ≤ n ∧ p.StopsAt retryable operation n} o.calls
  result : o.result = operation (o.calls - 1)
  attempts : o.attempts.toNat = o.calls
  /-- There is one pause between each call and the next, and none behind the last. -/
  numbers : o.pauses.map (·.attempt.toNat) = List.range' 1 (o.calls - 1)
  error : ∀ q ∈ o.pauses, operation (q.attempt.toNat - 1) = .error q.error
  /-- The first pause is the base. Each one doubles, up to the largest word of milliseconds. -/
  delay : ∀ q ∈ o.pauses, q.delay.nanos =
    min (p.base.toNat * 2 ^ (q.attempt.toNat - 1)) (2 ^ 64 - 1) * Time.nanosPerMilli
  mono : o.pauses.Pairwise fun q q' => q.delay ≤ q'.delay

/-- A result that may pass is one after which the policy goes on, unless it is the last. -/
theorem Policy.stopsAt_iff (p : Policy) (retryable : ε → Bool) (operation : Nat → Except ε α)
    (n : Nat) :
    p.StopsAt retryable operation n ↔
      ¬ MayPass retryable (operation (n - 1)) ∨ n = max p.maxAttempts.toNat 1 := by
  unfold Policy.StopsAt MayPass
  rw [← or_assoc]
  refine or_congr ?_ Iff.rfl
  cases operation (n - 1) <;> simp

section

variable {p : Policy} {retryable : ε → Bool} {operation : Nat → Except ε α} {o : Outcome ε α}

/-- The deciding result is the first one with which the policy stops. The policy stops at a success,
at a failure that may not pass, and at the last attempt. -/
theorem Outcome.DecidedBy.isLeast {n : Nat}
    (h : o.DecidedBy retryable operation (p.maxAttempts.toNat - 1) 0 n) :
    IsLeast {n | 1 ≤ n ∧ p.StopsAt retryable operation n} (n + 1) := by
  have hle := h.le_left
  refine ⟨⟨Nat.le_add_left 1 n, (p.stopsAt_iff _ _ _).2 ?_⟩, ?_⟩
  · rcases Nat.lt_or_ge n (p.maxAttempts.toNat - 1) with hlt | hge
    · left
      simpa using h.stops hlt
    · right
      omega
  · rintro m ⟨hone, hstops⟩
    by_contra hlt
    rcases (p.stopsAt_iff _ _ _).1 hstops with hpasses | hlast
    · refine hpasses ?_
      simpa using h.earlier (m - 1) (by omega)
    · omega

/-- Pauses that are numbered one after the other do not get shorter. The delay grows with the
number, up to where it is clipped. -/
theorem Outcome.Counted.pairwise {base : UInt64} (h : o.Counted base operation 0) :
    o.pauses.Pairwise fun q q' => q.delay ≤ q'.delay := by
  have hnumbers : (o.pauses.map (·.attempt.toNat)).Pairwise (· < ·) := by
    rw [h.numbers]
    exact List.pairwise_lt_range'
  rw [List.pairwise_map] at hnumbers
  refine hnumbers.imp_of_mem ?_
  intro q q' hq hq' hlt
  rw [h.delay q hq, h.delay q' hq']
  exact exponentialDelay_mono base hlt.le

end

/-- An operation is called up to the first success, the first error that does not pass or the last
attempt that is allowed, with one pause between two calls. The delays are exact for every number
of an attempt. -/
theorem Policy.run_retried (p : Policy) (retryable : ε → Bool) (operation : Nat → Except ε α) :
    (p.run retryable operation).Retried p retryable operation ∧
      ∀ attempt : UInt32, (exponentialDelay attempt p.base).nanos =
        min (p.base.toNat * 2 ^ (attempt.toNat - 1)) (2 ^ 64 - 1) * Time.nanosPerMilli := by
  obtain ⟨n, hdecided⟩ := p.run_decided retryable operation
  have hmax := p.maxAttempts.toNat_lt
  have hcounted : (p.run retryable operation).Counted p.base operation 0 :=
    attemptFrom_counted _ _ _ _ _ _ rfl (by simp only [UInt32.size]; omega)
  have hcalls : (p.run retryable operation).calls = n + 1 := by
    rw [hdecided.calls_eq, Nat.zero_add]
  refine ⟨?_, fun attempt => nanos_exponentialDelay attempt p.base⟩
  exact
    { calls := hcalls ▸ hdecided.isLeast
      result := by rw [hdecided.result_eq, hcalls, Nat.zero_add, Nat.add_sub_cancel]
      attempts := hcounted.attempts
      numbers := hcounted.numbers
      error := hcounted.error
      delay := fun q hq => hcounted.delay q hq ▸ nanos_exponentialDelay q.attempt p.base
      mono := hcounted.pairwise }

end TenantSearch.Retry
