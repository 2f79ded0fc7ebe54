import TenantSearch.Store.Error

/-!
# `TenantSearch.Proofs.Store.Error`: failures that may pass

`Transient` lists the failures after which the same call may succeed: nothing could be reached,
nothing came in time, a server in between said so, or the store did, in the code of its error.
`isTransient_iff` says that these are the ones that the program takes for transient.
-/

set_option autoImplicit false

namespace TenantSearch.Store.Error

/-- A failure after which the same call may succeed. -/
inductive Transient : Error → Prop where
  | unreachable : Transient .unreachable
  | timeout (seconds : UInt64) : Transient (.timeout seconds)
  /-- A server in between could not get an answer from the store. -/
  | gateway {code : Nat} (body : String) (h : 502 ≤ code ∧ code ≤ 504) :
      Transient (.status code body)
  /-- The store says so itself. -/
  | reported {code : String} (message : String)
      (h : ".TransientError.".toList <:+: code.toList) : Transient (.graph code message)

/-- The mark is found wherever it stands in the text. -/
theorem hasMark_iff (mark cs : List Char) : hasMark mark cs = true ↔ mark <:+: cs := by
  induction cs with
  | nil => rw [hasMark, List.isEmpty_iff, List.infix_nil]
  | cons c rest ih =>
    rw [hasMark, Bool.or_eq_true, ih, List.isPrefixOf_iff_prefix, List.infix_cons_iff]

/-- The test for transient errors answers what `Transient` states. The statement lists the causes
that pass by themselves, and the program asks about each kind of error. -/
theorem isTransient_iff (e : Error) : e.isTransient = true ↔ e.Transient := by
  constructor
  · intro h
    cases e with
    | unreachable => exact .unreachable
    | timeout seconds => exact .timeout seconds
    | status code body =>
      simp only [isTransient, Bool.or_eq_true, decide_eq_true_eq] at h
      exact .gateway body (by omega)
    | graph code message => exact .reported message ((hasMark_iff _ _).1 h)
    | _ => cases h
  -- One case for each rule of `Transient`.
  · rintro (_ | seconds | ⟨body, h⟩ | ⟨message, h⟩)
    · rfl
    · rfl
    · simp only [isTransient, Bool.or_eq_true, decide_eq_true_eq]
      omega
    · exact (hasMark_iff _ _).2 h

end TenantSearch.Store.Error
