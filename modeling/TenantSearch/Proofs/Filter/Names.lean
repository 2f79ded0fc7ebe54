import TenantSearch.Proofs.Cypher.Written
import TenantSearch.Proofs.Filter.Numbering

/-!
# `TenantSearch.Proofs.Filter.Names`: the names in a condition

The expression of a condition is read back when the names in it are names (`Expr.Named`). The
tables of the entities have such names only, so every condition over an entity is `Named`, for
parameters of word characters (`Condition.named_expr`).
-/

set_option autoImplicit false

namespace TenantSearch.Filter

open TenantSearch.Cypher

/-- Every physical name is a name of the grammar. -/
theorem isName_physical {entity : Entity} {p : Property} (h : p ∈ entity.properties) :
    IsName p.physical := by
  revert h p
  cases entity <;> decide

/-- The nodes of the entities have names. -/
theorem isName_nodeName (entity : Entity) : IsName entity.nodeName := by
  cases entity <;> decide

/-- A stem of word characters stays one when a number is added. -/
theorem isWordText_parameter {scope : Scope} (h : IsWordText scope.stem) (n : Nat) :
    IsWordText (scope.parameter n) :=
  h.append (isWordText_toString n)

/-- The property of a compiled item has a name, because it is one of the properties of the entity.
-/
theorem Item.Compiled.isName {entity : Entity} {i : Item} {c : Comparison}
    (h : i.Compiled entity c) : IsName c.property.physical := by
  cases h with
  | plain hproperty => exact isName_physical (Entity.logical_of_property? hproperty).2
  | valued hproperty => exact isName_physical (Entity.logical_of_property? hproperty).2

namespace Comparison

/-- A test of a value uses the subject and one parameter, and both have names. -/
theorem named_testValue {c : Comparison} {subject : Term} {v : Value} {name : String}
    (hsubject : subject.Named) (hname : IsWordText name) :
    (c.testValue subject v name).Named := by
  unfold testValue
  cases c.operator <;> cases c.ignoresCase <;> cases v.isTime <;>
    simp [Expr.Named, Expr.AllNamed, Term.Named, hsubject, hname]

/-- A test without a value uses the subject alone. -/
theorem named_testNull (operator : Operator) {subject : Term} (hsubject : subject.Named) :
    (testNull operator subject).Named := by
  cases operator <;> simp [testNull, Expr.Named, Expr.AllNamed, Term.Named, hsubject]

/-- The test of a comparison has names throughout. -/
theorem named_test {scope : Scope} {c : Comparison} (hsubject : (c.subject scope).Named)
    (hstem : IsWordText scope.stem) (n : Nat) : (c.test scope n).Named := by
  unfold test
  cases c.value with
  | none => exact named_testNull _ hsubject
  | some v => exact named_testValue hsubject (isWordText_parameter hstem (n + 1))

/-- What a comparison refers to is read as names. -/
theorem named_expr {scope : Scope} {c : Comparison} (hnode : IsName scope.node)
    (hstem : IsWordText scope.stem) (hproperty : IsName c.property.physical) (b : Bindings) :
    (c.expr scope b).1.Named := by
  have hsubject : (c.subject scope).Named := ⟨hnode, hproperty⟩
  have htest := named_test hsubject hstem b.counter
  rw [fst_expr]
  split
  · exact ⟨htest, hsubject, trivial⟩
  · exact htest

end Comparison

namespace Condition

/-- Negation adds no name. -/
theorem named_exprUnder (negated : Bool) (e : Expr) :
    (exprUnder negated e).Named ↔ e.Named := by
  cases negated <;> rfl

mutual

/-- What a condition refers to is read as names. -/
theorem named_expr {scope : Scope} (hnode : IsName scope.node) (hstem : IsWordText scope.stem) :
    ∀ (c : Condition), (∀ d ∈ c.comparisons, IsName d.property.physical) →
      ∀ b, (c.expr scope b).1.Named
  | .node negated _ _ (some c), h, b => by
    rw [expr, named_exprUnder]
    exact Comparison.named_expr hnode hstem (h c (by simp [comparisons])) b
  | .node negated _ parts none, h, b => by
    rw [expr, named_exprUnder]
    exact allNamed_exprs hnode hstem parts h b

/-- Conditions side by side have names throughout, at whatever number they begin. -/
theorem allNamed_exprs {scope : Scope} (hnode : IsName scope.node)
    (hstem : IsWordText scope.stem) :
    ∀ (cs : List Condition), (∀ d ∈ comparisonsOf cs, IsName d.property.physical) →
      ∀ b, Expr.AllNamed (exprs scope cs b).1
  | [], _, _ => trivial
  | c :: rest, h, b => by
    have hfirst : ∀ d ∈ c.comparisons, IsName d.property.physical := by
      intro d hd
      exact h d (by simp [comparisonsOf, hd])
    have hrest : ∀ d ∈ comparisonsOf rest, IsName d.property.physical := by
      intro d hd
      exact h d (by simp [comparisonsOf, hd])
    exact ⟨named_expr hnode hstem c hfirst b, allNamed_exprs hnode hstem rest hrest _⟩

end

end Condition

end TenantSearch.Filter
