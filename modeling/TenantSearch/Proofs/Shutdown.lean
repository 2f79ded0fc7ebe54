import Mathlib.Data.List.Induction
import TenantSearch.Shutdown

/-!
# `TenantSearch.Proofs.Shutdown`: what a history of operations leaves behind

Two mechanisms signal a shutdown, and nothing but `Shutdown.trigger` keeps them together. A
history is any list of operations, each on any handle.

* `settled`: the states that histories lead to. The channel has sent what the first token says,
  and every other token is a child of the first.
* `perform_token`, `perform_cancel`, `perform_trigger`, `perform_wait`: one operation in such a
  state, on any handle.
* `after_ruled`: after every history, a token is cancelled by a trigger or by itself, a wait is
  done by a trigger, and cancelling a token is seen at that token only and lasts.
-/

set_option autoImplicit false

namespace TenantSearch.Shutdown

/-! ### Histories -/

/-- An operation on a handle. -/
structure Step where
  handle : Handle
  operation : Operation

/-- The state after a step. -/
def Step.next (s : Shutdown) (step : Step) : Shutdown := (s.perform step.handle step.operation).1

/-- The answer to a step. -/
def Step.reply (s : Shutdown) (step : Step) : Reply := (s.perform step.handle step.operation).2

/-- The state after several steps. -/
def run (s : Shutdown) (steps : List Step) : Shutdown := steps.foldl Step.next s

/-- The answers to several steps. -/
def replies (s : Shutdown) : List Step → List Reply
  | [] => []
  | step :: rest => step.reply s :: replies (step.next s) rest

/-- The state after a history. -/
def after (steps : List Step) : Shutdown := run {} steps

/-- Some step triggers the shutdown. -/
def Triggers (steps : List Step) : Prop := ∃ step ∈ steps, step.operation = .trigger

instance (steps : List Step) : Decidable (Triggers steps) := by
  unfold Triggers
  infer_instance

/-- How many tokens the steps take. -/
def takenBy (steps : List Step) : Nat := steps.countP (·.operation == .token)

/-- Some step cancels the token `i`, which was taken before. -/
def Cancels (steps : List Step) (i : Nat) : Prop :=
  ∃ before step later, steps = before ++ step :: later ∧ step.operation = .cancel i ∧
    i < takenBy before

/-- What holds after a history. -/
structure Ruled (steps : List Step) : Prop where
  /-- A token for each step that took one. -/
  length : (after steps).cancelled.length = takenBy steps
  /-- The next token has the number after theirs. -/
  token : ∀ handle, ((after steps).perform handle .token).2 = .token (takenBy steps)
  /-- A token is cancelled by a trigger, before or after it was taken, or by itself. -/
  cancelled : ∀ i < takenBy steps,
    (after steps).cancelled[i]? = some true ↔ Triggers steps ∨ Cancels steps i
  /-- A wait is done by a trigger, whenever and on whatever handle the wait was started. -/
  done : ∀ early late, steps = early ++ late → ∀ handle : Handle,
    (after steps).isDone (handle.service (after early).first).wait = true ↔ Triggers steps
  /-- So is a wait that is started now. -/
  wait : ∀ handle, ((after steps).perform handle .wait).2 = .finished (decide (Triggers steps))
  /-- Cancelling the token `n` changes no other token, neither one that was taken nor one that
  will be, and no answer. -/
  apart : ∀ handle n later,
    let without := after steps
    let cancelling := after (steps ++ [⟨handle, .cancel n⟩])
    (∀ i : Nat, i ≠ n → (run cancelling later).cancelled[i]? = (run without later).cancelled[i]?) ∧
      replies cancelling later = replies without later
  /-- What is cancelled stays cancelled. -/
  lasting : ∀ later (i : Nat), (after steps).cancelled[i]? = some true →
    (run (after steps) later).cancelled[i]? = some true

/-- A history may be cut anywhere. What its first part leads to is all that the rest gets to see. -/
theorem run_append (s : Shutdown) (steps later : List Step) :
    s.run (steps ++ later) = (s.run steps).run later := List.foldl_append

/-- A history is extended at its end, by the step that was taken last. All inductions over histories
use this form, as a step acts on the state that the earlier ones left. -/
theorem after_snoc (steps : List Step) (step : Step) :
    after (steps ++ [step]) = step.next (after steps) := run_append {} steps [step]

/-- A trigger is in one of the two parts of a history. -/
theorem triggers_append (steps later : List Step) :
    Triggers (steps ++ later) ↔ Triggers steps ∨ Triggers later := by
  simp only [Triggers, List.mem_append, or_and_right, exists_or]

/-- The last step triggers the shutdown, or an earlier one did. -/
theorem triggers_snoc (steps : List Step) (step : Step) :
    Triggers (steps ++ [step]) ↔ Triggers steps ∨ step.operation = .trigger := by
  rw [triggers_append]
  simp [Triggers]

/-- The tokens of two histories add up. -/
theorem takenBy_append (steps later : List Step) :
    takenBy (steps ++ later) = takenBy steps + takenBy later := List.countP_append

/-- Only the operation that takes a token adds one. -/
theorem takenBy_snoc (steps : List Step) (step : Step) :
    takenBy (steps ++ [step]) = takenBy steps + if step.operation = .token then 1 else 0 := by
  rw [takenBy_append]
  simp [takenBy, List.countP_cons]

/-- Token `i` is cancelled by an earlier step, or by the last one when the token was taken before
it. A step that names a token not yet taken cancels nothing, also not the token that gets this
number later. -/
theorem cancels_snoc (steps : List Step) (step : Step) (i : Nat) :
    Cancels (steps ++ [step]) i ↔
      Cancels steps i ∨ (step.operation = .cancel i ∧ i < takenBy steps) := by
  constructor
  · rintro ⟨before, s, later, heq, hcancel, htaken⟩
    -- The step that cancels is the last one, or there is a last one behind it.
    rcases List.eq_nil_or_concat later with rfl | ⟨rest, last, rfl⟩
    · obtain ⟨rfl, hstep⟩ := List.append_inj' heq rfl
      cases hstep
      exact .inr ⟨hcancel, htaken⟩
    · rw [List.concat_eq_append, ← List.cons_append, ← List.append_assoc] at heq
      obtain ⟨rfl, -⟩ := List.append_inj' heq rfl
      exact .inl ⟨before, s, rest, rfl, hcancel, htaken⟩
  · rintro (⟨before, s, later, rfl, hcancel, htaken⟩ | ⟨hcancel, htaken⟩)
    · exact ⟨before, s, later ++ [step], by simp, hcancel, htaken⟩
    · exact ⟨steps, step, [], rfl, hcancel, htaken⟩

/-- Only a token that was taken is ever cancelled by itself. -/
theorem Cancels.lt_takenBy {steps : List Step} {i : Nat} (h : Cancels steps i) :
    i < takenBy steps := by
  obtain ⟨before, step, later, rfl, -, htaken⟩ := h
  rw [takenBy_append]
  omega

/-! ### Tokens below one token -/

namespace Token

/-- The first token, with children that have these states. -/
def family (root : Bool) (flags : List Bool) : List Token :=
  ⟨none, root⟩ :: flags.map fun flag => ⟨some 0, flag⟩

/-- The children come behind the first token, in the order in which they were added. -/
theorem getElem?_family (root : Bool) (flags : List Bool) (k : Nat) :
    (family root flags)[k + 1]? = flags[k]?.map fun flag => ⟨some 0, flag⟩ := by
  rw [family, List.getElem?_cons_succ, List.getElem?_map]

/-- Child `i` has the number `i + 1`, as the first token has the number zero. -/
theorem isCancelled_family (root : Bool) (flags : List Bool) (i : Nat) :
    isCancelled (family root flags) (i + 1) = flags[i]?.any id := by
  rw [isCancelled, getElem?_family]
  cases flags[i]? <;> rfl

/-- A child starts in the state of the first token, so a token that is taken behind a trigger is
cancelled from the start. -/
theorem addChild_family (root : Bool) (flags : List Bool) :
    addChild (family root flags) 0 = family root (flags ++ [root]) := by
  simp [addChild, family, isCancelled]

/-- A child is below a token when its parent is, or when it is the token. The induction keeps the
marks `more` that were given before, because the next mark stands for the number behind them. -/
theorem foldl_markBelow (top : Nat) (root : Bool) (more flags : List Bool) :
    (flags.map fun flag => (⟨some 0, flag⟩ : Token)).foldl (markBelow top) (root :: more) =
      root :: more ++
        (List.range' (more.length + 1) flags.length).map fun k => k == top || root := by
  induction flags generalizing more with
  | nil => simp
  | cons flag rest ih =>
    have hmark : markBelow top (root :: more) ⟨some 0, flag⟩ =
        root :: (more ++ [more.length + 1 == top || root]) := rfl
    rw [List.map_cons, List.foldl_cons, hmark, ih]
    simp [List.range'_succ]

/-- Below the first token are all tokens, and below a child is only the child itself. -/
theorem below_family (top : Nat) (root : Bool) (flags : List Bool) :
    below top (family root flags) =
      (0 == top) :: (List.range' 1 flags.length).map fun k => k == top || 0 == top := by
  have hmark : markBelow top [] ⟨none, root⟩ = [0 == top] := by simp [markBelow]
  rw [below, family, List.foldl_cons, hmark, foldl_markBelow]
  rfl

/-- Cancelling a token changes the state of each child that is below it. Both kinds of cancelling
are read off this: of the first token and of a child. -/
theorem getElem?_cancel_family (root : Bool) (flags : List Bool) (top k : Nat) :
    (cancel (family root flags) top)[k + 1]? =
      flags[k]?.map fun flag => ⟨some 0, flag || (k + 1 == top || 0 == top)⟩ := by
  rw [cancel, below_family, family, List.zipWith_cons_cons, List.getElem?_cons_succ,
    List.getElem?_zipWith, List.getElem?_map, List.getElem?_map]
  -- Behind the last child there is no token on either side.
  by_cases hk : k < flags.length
  · rw [List.getElem?_range' hk, List.getElem?_eq_getElem hk]
    simp [Nat.add_comm]
  · rw [List.getElem?_eq_none (by omega)]
    rfl

/-- Cancelling the first token cancels the whole family, the first token included. The flags of the
children no longer matter from there on. -/
theorem cancel_root (root : Bool) (flags : List Bool) :
    cancel (family root flags) 0 = family true (List.replicate flags.length true) := by
  refine List.ext_getElem? fun k => ?_
  -- The first token is no child, so it is looked at on its own. Every child has the first token as
  -- its parent.
  cases k with
  | zero =>
    rw [cancel, below_family]
    simp [family]
  | succ k =>
    rw [getElem?_cancel_family, getElem?_family, List.getElem?_replicate]
    by_cases hk : k < flags.length
    · rw [if_pos hk, List.getElem?_eq_getElem hk]
      simp
    · rw [if_neg hk, List.getElem?_eq_none (by omega)]
      rfl

/-- Cancelling a child cancels nothing else. The first token is not below the child, and neither are
the other children. -/
theorem cancel_child (root : Bool) (flags : List Bool) (i : Nat) :
    cancel (family root flags) (i + 1) = family root (flags.set i true) := by
  refine List.ext_getElem? fun k => ?_
  cases k with
  | zero =>
    rw [cancel, below_family]
    simp [family]
  | succ k =>
    rw [getElem?_cancel_family, getElem?_family, List.getElem?_set]
    split
    next heq =>
      rw [← heq]
      by_cases hlt : i < flags.length <;> simp [hlt]
    next hne =>
      have hother : (k == i) = false := by simpa using Ne.symm hne
      simp [hother]

end Token

/-! ### One operation -/

/-- The state of a shutdown that was triggered or not, with tokens in these states. -/
def settled (triggered : Bool) (flags : List Bool) : Shutdown where
  channels := [⟨triggered⟩]
  tokens := Token.family triggered flags
  taken := List.range' 1 flags.length

/-- All handles hold what the first one holds, however often they were cloned. So an operation does
not depend on the handle that it is performed on. -/
theorem Handle.service_eq (first : Service) (handle : Handle) : handle.service first = first := by
  induction handle with
  | owner => rfl
  | cloneOf original ih => rw [Handle.service, ih, Service.clone]

section Operations

variable (triggered : Bool) (flags : List Bool) (handle : Handle)

/-- The token that was taken as number `i` is the child `i` of the first token, and so the token `i
+ 1` of the tree. This is how an index that a client knows turns into a place in the tree. -/
theorem taken_settled (i : Nat) :
    (settled triggered flags).taken[i]? = if i < flags.length then some (i + 1) else none := by
  show (List.range' 1 flags.length)[i]? = _
  split
  next hlt =>
    rw [List.getElem?_range' hlt]
    simp [Nat.add_comm]
  next hle => exact List.getElem?_eq_none (by simpa using hle)

/-- The states that a client sees are those of the children. The first token is not among them,
since it is never handed out. -/
theorem cancelled_settled : (settled triggered flags).cancelled = flags := by
  refine List.ext_getElem? fun i => ?_
  rw [cancelled, List.getElem?_map, taken_settled]
  split
  next hlt =>
    show some (Token.isCancelled (Token.family triggered flags) (i + 1)) = flags[i]?
    rw [Token.isCancelled_family, List.getElem?_eq_getElem hlt]
    rfl
  next hle => rw [List.getElem?_eq_none (by omega), Option.map_none]

/-- A wait looks at the channel only. It learns of the trigger and of no token. -/
theorem isDone_settled : (settled triggered flags).isDone ⟨0⟩ = triggered := by
  simp [isDone, settled]

/-- A new token starts in the state of the first one and gets the number of the tokens before it. -/
theorem perform_token :
    (settled triggered flags).perform handle .token =
      (settled triggered (flags ++ [triggered]), .token flags.length) := by
  have htake : (settled triggered flags).take (settled triggered flags).first =
      settled triggered (flags ++ [triggered]) := by
    simp only [take, settled, Token.addChild_family]
    simp [Token.family, List.range'_concat, Nat.add_comm]
  rw [perform, Handle.service_eq, htake]
  simp [settled]

/-- A token is cancelled alone. A number that no token has changes nothing, which `List.set` says as
well. -/
theorem perform_cancel (n : Nat) :
    (settled triggered flags).perform handle (.cancel n) =
      (settled triggered (flags.set n true), .nothing) := by
  rw [perform, cancel, taken_settled]
  -- Which token the number stands for, if it stands for one.
  split
  next m hm =>
    split at hm
    · cases hm
      simp [settled, Token.cancel_child]
    · cases hm
  next hnone =>
    split at hnone
    · cases hnone
    · rw [List.set_eq_of_length_le (by omega)]

/-- Both mechanisms are reached, whatever the handle: the channel is sent on and the first token is
cancelled, and with it all tokens. -/
theorem perform_trigger :
    (settled triggered flags).perform handle .trigger =
      (settled true (List.replicate flags.length true), .nothing) := by
  rw [perform, Handle.service_eq, trigger]
  simp [settled, Token.cancel_root, Channel.send]

/-- A wait changes nothing, and it is done when there was a trigger. -/
theorem perform_wait :
    (settled triggered flags).perform handle .wait =
      (settled triggered flags, .finished triggered) := by
  rw [perform, Handle.service_eq]
  exact congrArg (fun b => (_, Reply.finished b)) (isDone_settled triggered flags)

end Operations

/-! ### Histories lead to settled states -/

/-- What a history says about the tokens. -/
structure Describes (steps : List Step) (flags : List Bool) : Prop where
  state : after steps = settled (decide (Triggers steps)) flags
  length : flags.length = takenBy steps
  flag : ∀ i < takenBy steps, flags[i]? = some true ↔ Triggers steps ∨ Cancels steps i

namespace Describes

variable {steps : List Step} {flags : List Bool} {handle : Handle}

/-- A step that takes a token. It is the only one that changes how many there are. The new token is
cancelled at once if the family has been cancelled before. -/
theorem token (h : Describes steps flags) :
    Describes (steps ++ [⟨handle, .token⟩]) (flags ++ [decide (Triggers steps)]) where
  state := by
    rw [after_snoc, h.state, Step.next, perform_token]
    simp [triggers_snoc]
  length := by simp [h.length, takenBy_snoc]
  flag i hi := by
    have hlt : i < takenBy steps + 1 := by simpa [takenBy_snoc] using hi
    simp only [triggers_snoc, cancels_snoc, reduceCtorEq, or_false, false_and]
    -- The tokens from before keep their places and their states.
    rcases Nat.lt_succ_iff_lt_or_eq.1 hlt with hold | rfl
    · rw [List.getElem?_append_left (by rw [h.length]; exact hold), h.flag i hold]
    -- The new token cannot have been cancelled by itself before.
    · have hnot : ¬ Cancels steps (takenBy steps) := fun hc => Nat.lt_irrefl _ hc.lt_takenBy
      rw [← h.length, List.getElem?_concat_length, h.length]
      simp [hnot]

/-- A step that cancels token `n` alone, if it was taken. The other tokens and the first one stay as
they are. -/
theorem cancel (h : Describes steps flags) (n : Nat) :
    Describes (steps ++ [⟨handle, .cancel n⟩]) (flags.set n true) where
  state := by
    rw [after_snoc, h.state, Step.next, perform_cancel]
    simp [triggers_snoc]
  length := by simp [h.length, takenBy_snoc]
  flag i hi := by
    have hlt : i < takenBy steps := by simpa [takenBy_snoc] using hi
    have hflag := h.flag i hlt
    simp only [triggers_snoc, cancels_snoc, reduceCtorEq, or_false, Operation.cancel.injEq]
    rw [List.getElem?_set]
    split
    next heq => simp [heq, hlt, h.length]
    next hne => simp [hne, hflag]

/-- A step that triggers the shutdown. From here on every token counts as cancelled by the trigger,
and it no longer matters which of them were cancelled before. -/
theorem trigger (h : Describes steps flags) :
    Describes (steps ++ [⟨handle, .trigger⟩]) (List.replicate flags.length true) where
  state := by
    rw [after_snoc, h.state, Step.next, perform_trigger]
    simp [triggers_snoc]
  length := by simp [h.length, takenBy_snoc]
  flag i hi := by
    have hlt : i < takenBy steps := by simpa [takenBy_snoc] using hi
    -- All states are now `true`, and so is the right-hand side by the trigger.
    simp [triggers_snoc, h.length, hlt]

/-- A step that looks whether a wait is done. It says nothing about the tokens. -/
theorem wait (h : Describes steps flags) : Describes (steps ++ [⟨handle, .wait⟩]) flags where
  state := by
    rw [after_snoc, h.state, Step.next, perform_wait]
    simp [triggers_snoc]
  length := by simp [h.length, takenBy_snoc]
  flag i hi := by
    have hlt : i < takenBy steps := by simpa [takenBy_snoc] using hi
    simp only [triggers_snoc, cancels_snoc, reduceCtorEq, or_false, false_and]
    exact h.flag i hlt

end Describes

/-- Every history leads to a settled state. The induction goes backwards from the last step, which
is the one that `Describes` follows. -/
theorem exists_describes (steps : List Step) : ∃ flags, Describes steps flags := by
  induction steps using List.reverseRecOn with
  | nil =>
    refine ⟨[], rfl, rfl, fun i hi => ?_⟩
    cases hi
  | append_singleton steps step ih =>
    obtain ⟨flags, h⟩ := ih
    obtain ⟨handle, operation⟩ := step
    cases operation with
    | token => exact ⟨_, h.token⟩
    | cancel n => exact ⟨_, h.cancel n⟩
    | trigger => exact ⟨_, h.trigger⟩
    | wait => exact ⟨_, h.wait⟩

/-! ### States that differ in one token -/

/-- Settled states that agree in all but the token `n`. -/
inductive Alike (n : Nat) : Shutdown → Shutdown → Prop where
  | settled (triggered : Bool) {flags flags' : List Bool} (length : flags.length = flags'.length)
      (same : ∀ i : Nat, i ≠ n → flags[i]? = flags'[i]?) :
      Alike n (settled triggered flags) (settled triggered flags')

namespace Alike

variable {n : Nat} {s s' : Shutdown}

/-- Two alike states show the same for every token but `n`. -/
theorem cancelled (h : Alike n s s') (i : Nat) (hi : i ≠ n) :
    s.cancelled[i]? = s'.cancelled[i]? := by
  obtain ⟨triggered, length, same⟩ := h
  rw [cancelled_settled, cancelled_settled, same i hi]

/-- A step keeps two states alike, and its answers do not tell them apart. No answer tells whether a
token is cancelled, so that token `n` differs goes unnoticed. -/
theorem step (h : Alike n s s') (step : Step) :
    Alike n (step.next s) (step.next s') ∧ step.reply s = step.reply s' := by
  obtain ⟨triggered, length, same⟩ := h
  obtain ⟨handle, operation⟩ := step
  -- An answer depends on the trigger and on the number of tokens, and these are the same.
  simp only [Step.next, Step.reply]
  cases operation with
  | token =>
    rw [perform_token, perform_token, length]
    refine ⟨.settled _ (by simp [length]) fun i hi => ?_, rfl⟩
    rw [List.getElem?_append, List.getElem?_append, length, same i hi]
  | cancel m =>
    rw [perform_cancel, perform_cancel]
    refine ⟨.settled _ (by simp [length]) fun i hi => ?_, rfl⟩
    rw [List.getElem?_set, List.getElem?_set, length, same i hi]
  | trigger =>
    rw [perform_trigger, perform_trigger, length]
    exact ⟨.settled _ rfl fun _ _ => rfl, rfl⟩
  | wait =>
    rw [perform_wait, perform_wait]
    exact ⟨.settled _ length same, rfl⟩

/-- So does a whole history, answer by answer. -/
theorem run (h : Alike n s s') (steps : List Step) :
    Alike n (s.run steps) (s'.run steps) ∧ replies s steps = replies s' steps := by
  induction steps generalizing s s' with
  | nil => exact ⟨h, rfl⟩
  | cons step rest ih =>
    obtain ⟨hnext, hreply⟩ := h.step step
    obtain ⟨hrun, hreplies⟩ := ih hnext
    exact ⟨hrun, by rw [replies, replies, hreply, hreplies]⟩

end Alike

/-! ### The main result -/

/-- A trigger cannot be taken back by what comes later. -/
theorem Triggers.append {steps : List Step} (h : Triggers steps) (later : List Step) :
    Triggers (steps ++ later) := (triggers_append steps later).2 (.inl h)

/-- Neither can the cancelling of a token. -/
theorem Cancels.append {steps : List Step} {i : Nat} (h : Cancels steps i) (later : List Step) :
    Cancels (steps ++ later) i := by
  obtain ⟨before, step, rest, rfl, hcancel, htaken⟩ := h
  exact ⟨before, step, rest ++ later, by simp, hcancel, htaken⟩

/-- There is a state for each token that was taken, and for nothing else. -/
theorem length_cancelled (steps : List Step) : (after steps).cancelled.length = takenBy steps := by
  obtain ⟨flags, h⟩ := exists_describes steps
  rw [h.state, cancelled_settled, h.length]

/-- A token is cancelled by a trigger or by itself. The trigger may come before the token is taken,
the cancelling of the token by itself may not. -/
theorem cancelled_iff (steps : List Step) {i : Nat} (hi : i < takenBy steps) :
    (after steps).cancelled[i]? = some true ↔ Triggers steps ∨ Cancels steps i := by
  obtain ⟨flags, h⟩ := exists_describes steps
  rw [h.state, cancelled_settled, h.flag i hi]

/-- Whatever operations on whatever handles came before, the two mechanisms agree on whether
there was a trigger, and a token follows it or was cancelled by itself. -/
theorem after_ruled (steps : List Step) : Ruled steps where
  length := length_cancelled steps
  token handle := by
    obtain ⟨flags, h⟩ := exists_describes steps
    rw [h.state, perform_token, h.length]
  cancelled i hi := cancelled_iff steps hi
  done early late _ handle := by
    -- The wait holds the number of the channel, which was the same when it was started.
    obtain ⟨flags, h⟩ := exists_describes steps
    obtain ⟨flags', h'⟩ := exists_describes early
    rw [h.state, h'.state, Handle.service_eq]
    show (settled _ flags).isDone ⟨0⟩ = true ↔ _
    rw [isDone_settled, decide_eq_true_iff]
  wait handle := by
    obtain ⟨flags, h⟩ := exists_describes steps
    rw [h.state, perform_wait]
  apart handle n later := by
    obtain ⟨flags, h⟩ := exists_describes steps
    -- The two histories part with the cancelling of token `n`, and from there on they stay alike.
    have halike : Alike n (after (steps ++ [⟨handle, .cancel n⟩])) (after steps) := by
      rw [after_snoc, h.state, Step.next, perform_cancel]
      exact .settled _ (by simp) fun i hi => List.getElem?_set_ne hi.symm
    obtain ⟨hrun, hreplies⟩ := halike.run later
    exact ⟨hrun.cancelled, hreplies⟩
  lasting later i hi := by
    have hlt : i < takenBy steps := by
      rw [← length_cancelled]
      exact (List.getElem?_eq_some_iff.1 hi).1
    have hlt' : i < takenBy (steps ++ later) := by
      rw [takenBy_append]
      omega
    rw [after, ← run_append]
    -- What cancelled the token is still part of the longer history.
    rw [cancelled_iff steps hlt] at hi
    refine (cancelled_iff (steps ++ later) hlt').2 ?_
    rcases hi with htriggers | hcancels
    · exact .inl (htriggers.append later)
    · exact .inr (hcancels.append later)

-- A token of a clone is cancelled on the first handle, and the other token is not.
example :
    (after [⟨.owner, .token⟩, ⟨.clone, .token⟩, ⟨.owner, .cancel 1⟩]).cancelled =
      [false, true] := by
  decide

end TenantSearch.Shutdown
