import Mathlib.Data.List.Forall2
import TenantSearch.Filter.Fragment
import TenantSearch.Proofs.Cypher.Token
import TenantSearch.Proofs.Filter.Member
import TenantSearch.Proofs.Filter.Node

/-!
# `TenantSearch.Proofs.Filter.Numbering`: the parameters of a condition

The bindings are threaded through the expressions of a condition. `Condition.values` are the
values that a condition binds, read off the condition alone, and for a compiled filter they are
those of its comparisons from left to right (`Item.Compiled.binds`). `Condition.bindings_expr`
says that the threading binds these values, one after the other, and nothing else. The expression
has the rest: `Comparison.fst_expr`, `Condition.fst_exprs_cons`.

Different numbers make different names. So no binding takes the place of an earlier one, and
the parameters of a condition are its values under the numbers from one on
(`Condition.params_fragment`).
-/

set_option autoImplicit false

namespace TenantSearch.Filter

/-! ### Values -/

namespace Condition

mutual

/-- The comparisons that the condition writes, from left to right. -/
def comparisons : Condition → List Comparison
  | .node _ _ _ (some c) => [c]
  | .node _ _ parts none => comparisonsOf parts

/-- The comparisons of several conditions. -/
def comparisonsOf : List Condition → List Comparison
  | [] => []
  | c :: rest => comparisons c ++ comparisonsOf rest

end

/-- A compiled filter has the comparisons of the filter, one for one and in order. By induction over
how the filter was compiled. Groups and negations add none of their own. -/
theorem compiled_comparisons {entity : Entity} {f : Filter} {c : Condition}
    (h : f.compile? entity = .ok c) :
    List.Forall₂ (Item.Compiled entity) f.items c.comparisons := by
  refine compile_induct
    (P := fun f c => List.Forall₂ (Item.Compiled entity) f.items c.comparisons)
    (Q := fun fs cs => List.Forall₂ (Item.Compiled entity) (fs.flatMap items) (comparisonsOf cs))
    ?_ ?_ ?_ ?_ ?_ h
  · intro f c ih
    rw [items_negate]
    simpa [negate, comparisons, comparisonsOf] using ih
  · intro j fs cs _ ih
    rw [items_join]
    exact ih
  · intro i c hc
    rw [items_compare]
    exact .cons (Item.compiled hc) .nil
  · exact .nil
  · intro f fs c cs _ ih ihs
    rw [List.flatMap_cons]
    exact List.rel_append ih ihs

end Condition

/-- What the comparison binds. -/
def Comparison.values (c : Comparison) : List Json :=
  match c.value with
  | none => []
  | some v => [bound c.operator v]

/-- What the condition binds. -/
def Condition.values (c : Condition) : List Json := c.comparisons.flatMap Comparison.values

namespace Item

/-- Whether `bound` is what the parameter of the comparison holds. A single value for `IN`
becomes a list of one. -/
def Binds (i : Item) (bound : Json) : Prop :=
  ∃ v, i.value.value? = .ok v ∧
    bound = if i.operator = .isIn ∧ v.isScalar then .array [v.toParam] else v.toParam

/-- What is bound is the value as a parameter, and a single value for `IN` in a list of one. -/
theorem bound_eq (operator : Operator) (v : Value) :
    Comparison.bound operator v =
      if operator = .isIn ∧ v.isScalar then .array [v.toParam] else v.toParam := by
  cases operator <;> cases v <;> rfl

/-- The compiled comparisons bind the values of those written ones that take a value. Null checks
are left out on both sides: they are written without a value, and they bind none. -/
theorem Compiled.binds {entity : Entity} {is : List Item} {cs : List Comparison}
    (h : List.Forall₂ (Item.Compiled entity) is cs) :
    List.Forall₂ Binds (is.filter (·.operator.takesValue)) (cs.flatMap Comparison.values) := by
  induction h with
  | nil => exact .nil
  | @cons i c is cs hfirst _ ih =>
    rw [List.flatMap_cons]
    cases hfirst with
    | plain _ htakes =>
      rw [List.filter_cons_of_neg (by simp [htakes])]
      exact ih
    | @valued p v _ htakes hvalue _ =>
      rw [List.filter_cons, if_pos htakes]
      exact .cons ⟨v, hvalue, bound_eq i.operator v⟩ ih

end Item

/-- Binds several values, each to the next parameter. -/
def Bindings.bindAll (b : Bindings) (scope : Scope) (vs : List Json) : Bindings :=
  vs.foldl (fun b v => b.bind scope v) b

/-- Without values nothing is bound. -/
@[simp] theorem Bindings.bindAll_nil (b : Bindings) (scope : Scope) :
    b.bindAll scope [] = b := rfl

/-- Values may be bound in two goes. -/
theorem Bindings.bindAll_append (b : Bindings) (scope : Scope) (vs ws : List Json) :
    b.bindAll scope (vs ++ ws) = (b.bindAll scope vs).bindAll scope ws :=
  List.foldl_append

/-- Each value takes one number. So the number of a value is settled by how many were bound before
it. -/
@[simp] theorem Bindings.counter_bindAll (b : Bindings) (scope : Scope) (vs : List Json) :
    (b.bindAll scope vs).counter = b.counter + vs.length := by
  induction vs generalizing b with
  | nil => rfl
  | cons v rest ih =>
    have hrest := ih (b.bind scope v)
    rw [List.length_cons]
    rw [show (b.bind scope v).counter = b.counter + 1 from rfl] at hrest
    rw [show b.bindAll scope (v :: rest) = (b.bind scope v).bindAll scope rest from rfl, hrest]
    omega

/-! ### Threading -/

namespace Comparison

/-- What the comparison is about. -/
def subject (c : Comparison) (scope : Scope) : Cypher.Term :=
  .property scope.node c.property.physical

/-- The test of the comparison, with `n` values before it. -/
def test (c : Comparison) (scope : Scope) (n : Nat) : Cypher.Expr :=
  match c.value with
  | none => testNull c.operator (c.subject scope)
  | some v => c.testValue (c.subject scope) v (scope.parameter (n + 1))

/-- The expression of a comparison is its test. Where the comparison asks for it, a missing
property is enough. -/
theorem fst_expr (scope : Scope) (c : Comparison) (b : Bindings) :
    (c.expr scope b).1 =
      if c.includeEmpty && c.operator.takesValue then
        .group .disjunction [c.test scope b.counter, .isNull (c.subject scope)]
      else c.test scope b.counter := by
  unfold expr test
  cases c.value <;> cases c.includeEmpty <;> cases c.operator.takesValue <;> rfl

/-- A comparison binds its value, if it has one. Including empty values binds nothing more. -/
theorem bindings_expr (scope : Scope) (c : Comparison) (b : Bindings) :
    (c.expr scope b).2 = b.bindAll scope c.values := by
  unfold expr values
  cases c.value <;> cases c.includeEmpty <;> cases c.operator.takesValue <;> rfl

end Comparison

namespace Condition

mutual

/-- A condition binds its values and nothing else. So where the bindings of a condition end is known
without its expression. -/
theorem bindings_expr (scope : Scope) :
    ∀ (c : Condition) (b : Bindings), (c.expr scope b).2 = b.bindAll scope c.values
  | .node _ _ _ (some c), b => by
    rw [expr, values, comparisons, List.flatMap_singleton]
    exact c.bindings_expr scope b
  | .node _ _ parts none, b => by
    rw [expr, values, comparisons]
    exact bindings_exprs scope parts b

/-- The same of the members of a group, each behind those before it. The bindings are passed on from
one member to the next. -/
theorem bindings_exprs (scope : Scope) :
    ∀ (cs : List Condition) (b : Bindings),
      (exprs scope cs b).2 = b.bindAll scope ((comparisonsOf cs).flatMap Comparison.values)
  | [], _ => by
    rw [exprs, comparisonsOf]
    rfl
  | c :: rest, b => by
    have hfirst := bindings_expr scope c b
    rw [values] at hfirst
    rw [exprs, comparisonsOf, List.flatMap_append, Bindings.bindAll_append, ← hfirst]
    exact bindings_exprs scope rest _

end

/-- Each of several conditions comes after the values of those before. With this, proofs about
expressions need not follow the bindings through them. -/
theorem fst_exprs_cons (scope : Scope) (c : Condition) (rest : List Condition) (b : Bindings) :
    (exprs scope (c :: rest) b).1 =
      (c.expr scope b).1 :: (exprs scope rest (b.bindAll scope c.values)).1 := by
  rw [← bindings_expr]
  rfl

end Condition

/-! ### Names -/

/-- Different numbers make different names. -/
theorem Scope.parameter_injective (scope : Scope) : Function.Injective scope.parameter := by
  intro m n h
  -- The names begin alike, so they differ in their digits if at all.
  have hchars := congrArg String.toList h
  simp only [Scope.parameter, String.toList_append] at hchars
  exact Cypher.toString_injective (String.toList_injective (List.append_cancel_left hchars))

/-- The values under the numbers that follow `n`. -/
def numbered (scope : Scope) (n : Nat) (vs : List Json) : Members Json :=
  (vs.zipIdx (n + 1)).map fun (v, k) => (scope.parameter k, v)

/-- The first value takes the first number. -/
theorem numbered_cons (scope : Scope) (n : Nat) (v : Json) (vs : List Json) :
    numbered scope n (v :: vs) = (scope.parameter (n + 1), v) :: numbered scope (n + 1) vs := rfl

/-- The names are those of the numbers, one after the other, whatever the values are. -/
theorem keys_numbered (scope : Scope) (n : Nat) (vs : List Json) :
    (numbered scope n vs).keys = (List.range' (n + 1) vs.length).map scope.parameter := by
  unfold numbered Members.keys
  rw [List.map_map, ← List.zipIdx_map_snd (n + 1) vs, List.map_map]
  rfl

/-- Every name in use has a number up to the counter. -/
def Bindings.Counted (b : Bindings) (scope : Scope) : Prop :=
  ∀ key ∈ b.params.keys, ∃ k ≤ b.counter, key = scope.parameter k

/-- The next name is not in use, so the new value comes last and takes the place of none. -/
theorem Bindings.Counted.params_bind {b : Bindings} {scope : Scope} (h : b.Counted scope)
    (v : Json) :
    (b.bind scope v).params = b.params ++ [(scope.parameter (b.counter + 1), v)] := by
  -- A name in use would have the number of the next one.
  refine Members.put_of_not_mem v ?_
  intro hmem
  obtain ⟨k, hk, heq⟩ := h _ hmem
  have hnumber := scope.parameter_injective heq
  omega

/-- With the new name, all names in use still have numbers up to the counter. -/
theorem Bindings.Counted.bind {b : Bindings} {scope : Scope} (h : b.Counted scope) (v : Json) :
    (b.bind scope v).Counted scope := by
  intro key hkey
  rw [h.params_bind v, Members.keys, List.map_append, List.mem_append] at hkey
  -- The name was in use before, or it is the new one.
  rcases hkey with hold | hnew
  · obtain ⟨k, hk, rfl⟩ := h key hold
    exact ⟨k, Nat.le_succ_of_le hk, rfl⟩
  · exact ⟨b.counter + 1, Nat.le_refl _, by simpa using hnew⟩

/-- So several values come last, numbered from the counter on. -/
theorem Bindings.Counted.params_bindAll {b : Bindings} {scope : Scope} (h : b.Counted scope)
    (vs : List Json) :
    (b.bindAll scope vs).params = b.params ++ numbered scope b.counter vs := by
  induction vs generalizing b with
  | nil => simp [numbered]
  | cons v rest ih =>
    rw [show b.bindAll scope (v :: rest) = (b.bind scope v).bindAll scope rest from rfl,
      ih (h.bind v), h.params_bind v, List.append_assoc]
    rfl

/-- Binding several values keeps the names counted as well. -/
theorem Bindings.Counted.bindAll {b : Bindings} {scope : Scope} (h : b.Counted scope)
    (vs : List Json) : (b.bindAll scope vs).Counted scope := by
  induction vs generalizing b with
  | nil => exact h
  | cons v rest ih => exact ih (h.bind v)

/-- The parameters of a condition are its values, numbered from one on. No name is in use at the
beginning, so the names are counted. -/
theorem Condition.params_fragment (scope : Scope) (c : Condition) :
    (c.fragment scope).params = numbered scope 0 c.values := by
  have hnone : ({} : Bindings).Counted scope := by
    intro key hkey
    simp [Members.keys] at hkey
  show (c.expr scope {}).2.params = _
  rw [c.bindings_expr, hnone.params_bindAll]
  rfl

end TenantSearch.Filter
