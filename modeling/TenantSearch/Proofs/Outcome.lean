import Mathlib.Data.List.Forall2

/-!
# `TenantSearch.Proofs.Outcome`: computations that fail

A computation in `Except` is taken apart in four ways. Each comes with its rules for sequences,
so the proofs about the compiler follow the text of the compiler.

* `ok_of_bind`, `ok_of_map`: what a success consists of.
* `mapM_eq_ok_iff`, `mapM_eq_error_iff`: a run over a list has the results of its members, or
  else the error of the first one that fails.
* `SameOutcome R`: two runs fail with the same error, or their results are related by `R`.
* `Reports x es`: the run fails with the first of the errors `es`, and succeeds when there are
  none. In a sequence the errors of the first step come before those of the second.
-/

set_option autoImplicit false

namespace TenantSearch

variable {ε α β γ δ : Type}

/-! ### Success -/

/-- A sequence that succeeds has a first step that does. -/
theorem ok_of_bind {x : Except ε α} {f : α → Except ε β} {b : β} (h : x >>= f = .ok b) :
    ∃ a, x = .ok a ∧ f a = .ok b := by
  cases x with
  | error e => cases h
  | ok a => exact ⟨a, rfl, h⟩

/-- What is made of a result is made of one. -/
theorem ok_of_map {x : Except ε α} {f : α → β} {b : β} (h : x.map f = .ok b) :
    ∃ a, x = .ok a ∧ f a = b := by
  cases x with
  | error e => cases h
  | ok a => exact ⟨a, rfl, Except.ok.inj h⟩

/-! ### Runs over lists -/

section

variable {f : β → Except ε α} {b : β} {bs : List β}

/-- Every member of the second list is related to one of the first. -/
theorem exists_of_forall₂ {R : β → α → Prop} {as : List α} (h : List.Forall₂ R bs as) {a : α}
    (ha : a ∈ as) : ∃ b ∈ bs, R b a := by
  induction h with
  | nil => cases ha
  | @cons b first bs as hfirst _ ih =>
    rcases List.mem_cons.1 ha with rfl | ha
    · exact ⟨b, List.mem_cons_self, hfirst⟩
    · obtain ⟨c, hc, hrelated⟩ := ih ha
      exact ⟨c, List.mem_cons_of_mem _ hc, hrelated⟩

/-- A first member that succeeds puts its result in front. -/
theorem mapM_cons_of_ok {a : α} (h : f b = .ok a) :
    (b :: bs).mapM f = (bs.mapM f).map (a :: ·) := by
  rw [List.mapM_cons, h]
  cases hrest : bs.mapM f <;> rfl

/-- A first member that fails ends the run. The others are not looked at. -/
theorem mapM_cons_of_error {e : ε} (h : f b = .error e) : (b :: bs).mapM f = .error e := by
  rw [List.mapM_cons, h]
  rfl

/-- A run over a list succeeds with one result for each member. The first failure would end it, so
success is success of each. -/
theorem mapM_eq_ok_iff {as : List α} :
    bs.mapM f = .ok as ↔ List.Forall₂ (fun b a => f b = .ok a) bs as := by
  constructor
  · intro h
    induction bs generalizing as with
    | nil =>
      cases h
      exact .nil
    | cons b rest ih =>
      rw [List.mapM_cons] at h
      obtain ⟨a, ha, h⟩ := ok_of_bind h
      obtain ⟨others, hothers, h⟩ := ok_of_bind h
      cases h
      exact .cons ha (ih hothers)
  · intro h
    induction h with
    | nil => rfl
    | cons hfirst _ ih =>
      rw [mapM_cons_of_ok hfirst, ih]
      rfl

/-- Every result of a run over a list is the result of one of its members. -/
theorem ok_of_mapM {as : List α} (h : bs.mapM f = .ok as) : ∀ a ∈ as, ∃ b ∈ bs, f b = .ok a :=
  fun _ ha => exists_of_forall₂ (mapM_eq_ok_iff.1 h) ha

/-- A run over a list fails with the error of the first member that fails. All members before it
succeed, and nothing is said of those behind it. -/
theorem mapM_eq_error_iff {e : ε} :
    bs.mapM f = .error e ↔ ∃ before b after, bs = before ++ b :: after ∧
      (∀ c ∈ before, ∃ a, f c = .ok a) ∧ f b = .error e := by
  constructor
  · intro h
    induction bs with
    | nil => cases h
    | cons b rest ih =>
      cases hfirst : f b with
      | error e' =>
        rw [mapM_cons_of_error hfirst] at h
        cases h
        exact ⟨[], b, rest, rfl, by simp, hfirst⟩
      | ok a =>
        rw [mapM_cons_of_ok hfirst] at h
        cases hrest : rest.mapM f with
        | ok others =>
          rw [hrest] at h
          cases h
        | error e' =>
          rw [hrest] at h
          cases h
          obtain ⟨before, c, after, rfl, hbefore, hc⟩ := ih hrest
          refine ⟨b :: before, c, after, rfl, ?_, hc⟩
          intro d hd
          -- The member in front has succeeded, and the others did by induction.
          rcases List.mem_cons.1 hd with rfl | hd
          · exact ⟨a, hfirst⟩
          · exact hbefore d hd
  · rintro ⟨before, b, after, rfl, hbefore, hb⟩
    induction before with
    | nil => exact mapM_cons_of_error hb
    | cons c before ih =>
      obtain ⟨a, ha⟩ := hbefore c List.mem_cons_self
      rw [List.cons_append, mapM_cons_of_ok ha, ih fun d hd => hbefore d (List.mem_cons_of_mem _ hd)]
      rfl

end

/-! ### Two runs -/

/-- Both runs fail with the same error, or both succeed with related results. -/
inductive SameOutcome (R : α → β → Prop) : Except ε α → Except ε β → Prop where
  | error (e : ε) : SameOutcome R (.error e) (.error e)
  | ok {a : α} {b : β} (h : R a b) : SameOutcome R (.ok a) (.ok b)

namespace SameOutcome

variable {R : α → β → Prop} {S : γ → δ → Prop} {x : Except ε α} {y : Except ε β}

/-- Two sequences have the same outcome when their first steps have, and their second steps have it
for related results. An error in the first step ends both. If the first step fails, its own error is
reported, and it comes before all later ones. -/
theorem bind {f : α → Except ε γ} {g : β → Except ε δ} (h : SameOutcome R x y)
    (hnext : ∀ a b, R a b → SameOutcome S (f a) (g b)) : SameOutcome S (x >>= f) (y >>= g) := by
  cases h with
  | error e => exact .error e
  | ok hab => exact hnext _ _ hab

/-- What is made of related results may be related in another way. -/
theorem map {f : α → γ} {g : β → δ} (h : SameOutcome R x y)
    (hnext : ∀ a b, R a b → S (f a) (g b)) : SameOutcome S (x.map f) (y.map g) := by
  cases h with
  | error e => exact .error e
  | ok hab => exact .ok (hnext _ _ hab)

/-- A run has the same outcome as itself. -/
theorem refl (x : Except ε α) : SameOutcome Eq x x := by
  cases x with
  | error e => exact .error e
  | ok a => exact .ok rfl

end SameOutcome

/-! ### The first error -/

/-- The run fails with the first of the errors, and succeeds when there are none. -/
def Reports : Except ε α → List ε → Prop
  | .ok _, es => es = []
  | .error e, es => es.head? = some e

namespace Reports

variable {x : Except ε α} {es : List ε}

/-- What is made of the result does not change whether there is one. -/
theorem map (h : Reports x es) (f : α → β) : Reports (x.map f) es := by
  cases x with
  | error e => exact h
  | ok a => exact h

/-- The second step runs, and its errors count, after a success. -/
theorem bind {f : α → Except ε β} {later : List ε} (h : Reports x es)
    (hnext : ∀ a, x = .ok a → Reports (f a) later) : Reports (x >>= f) (es ++ later) := by
  cases x with
  | error e =>
    show (es ++ later).head? = some e
    rw [List.head?_append, h]
    rfl
  | ok a =>
    rw [h, List.nil_append]
    exact hnext a rfl

/-- A last step that cannot fail adds no errors. -/
theorem bind_ok (h : Reports x es) (f : α → β) :
    Reports (x >>= fun a => (.ok (f a) : Except ε β)) es := by
  have hwhole : Reports (x >>= fun a => (.ok (f a) : Except ε β)) (es ++ []) :=
    h.bind fun a _ => rfl
  rwa [List.append_nil] at hwhole

/-- One step for each member of a list, in order. The errors of all members are laid one behind the
other, and the first of them counts. -/
theorem mapM {f : β → Except ε α} {errors : β → List ε} {bs : List β}
    (h : ∀ b ∈ bs, Reports (f b) (errors b)) : Reports (bs.mapM f) (bs.flatMap errors) := by
  induction bs with
  | nil => rfl
  | cons b rest ih =>
    rw [List.mapM_cons, List.flatMap_cons]
    refine (h b (by simp)).bind fun a _ => ?_
    exact (ih fun c hc => h c (by simp [hc])).bind_ok (a :: ·)

/-- A run fails with the first error and with no other. -/
theorem eq_error_iff (h : Reports x es) (e : ε) : x = .error e ↔ es.head? = some e := by
  cases x with
  | error e' =>
    rw [show es.head? = some e' from h]
    simp
  | ok a =>
    rw [show es = [] from h]
    simp

/-- A run succeeds exactly when there are no errors. -/
theorem isOk_iff (h : Reports x es) : (∃ a, x = .ok a) ↔ es = [] := by
  cases x with
  | error e =>
    have hes : es ≠ [] := by
      rintro rfl
      cases h
    simp [hes]
  | ok a => simpa [Reports] using h

end Reports

end TenantSearch
