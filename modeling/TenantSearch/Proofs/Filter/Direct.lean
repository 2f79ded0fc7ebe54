import TenantSearch.Proofs.Filter.Binding
import TenantSearch.Proofs.Filter.Fault

/-!
# `TenantSearch.Proofs.Filter.Direct`: comparisons without a request

A comparison comes from a filter of a request, or it is built directly from a logical name, an
operator and a value (`Comparison.ofLogical`). The two ways share the check of the value only.
They differ in what they do with a value that the operator does not take: a request drops it,
and the direct way keeps it.

* `Comparison.ofLogical_compared`: both ways fail, or both succeed, and then they give the same
  fragment unless a value was kept that the operator does not take.
* `Comparison.ofLogical_same_false`: with such a value the direct null check is none.
-/

set_option autoImplicit false

namespace TenantSearch.Filter

open TenantSearch.Cypher

variable {entity : Entity} {logical : String} {operator : Operator}

/-- The comparison that a request writes with this value. Without a value, no member of the
value is set, and neither flag is. -/
def Item.ofValue (logical : String) (operator : Operator) (value : Option Value) : Item :=
  { property := logical, operator, value := value.elim .empty Value.written }

/-! ### Where the two ways meet -/

/-- The direct way differs from the way of a request in the choice of the value alone. -/
theorem Comparison.ofLogical_of_operand {value operand : Option Value}
    (h : (Item.ofValue logical operator value).operand? = .ok operand) :
    (Item.ofValue logical operator value).compile? entity =
      ofLogical entity logical operator operand := by
  rw [Item.compile?_eq, h]
  rfl

/-- A value that the operator takes is read back as it was written. -/
theorem Item.compile?_ofValue_some (htakes : operator.takesValue = true) (v : Value) :
    (Item.ofValue logical operator (some v)).compile? entity =
      Comparison.ofLogical entity logical operator (some v) := by
  apply Comparison.ofLogical_of_operand
  show (if operator.takesValue then v.written.value?.map some else .ok none) = _
  rw [if_pos htakes, Value.value?_written]
  rfl

/-- A value that the operator does not take is dropped. -/
theorem Item.compile?_ofValue_plain (htakes : operator.takesValue = false)
    (value : Option Value) :
    (Item.ofValue logical operator value).compile? entity =
      Comparison.ofLogical entity logical operator none := by
  apply Comparison.ofLogical_of_operand
  show (if operator.takesValue then (value.elim .empty Value.written).value?.map some else .ok none)
    = _
  rw [htakes]
  rfl

/-- The direct way has nothing to check for an operator that takes no value, and keeps the
value. -/
theorem Comparison.ofLogical_plain (htakes : operator.takesValue = false)
    (value : Option Value) :
    ofLogical entity logical operator value =
      (entity.resolve logical).map fun property => { property, operator, value } := by
  have hcheck : ∀ p, ({ property := p, operator, value } : Comparison).check = .ok () := by
    intro p
    cases operator <;> cases value <;> first | rfl | cases htakes
  unfold ofLogical
  cases entity.resolve logical with
  | error e => rfl
  | ok p =>
    show (({ property := p, operator, value } : Comparison).check >>= _) = _
    rw [hcheck]
    rfl

/-- Without the value that its operator takes, a comparison fails on the direct way. -/
theorem Comparison.ofLogical_ne_ok (htakes : operator.takesValue = true) (c : Comparison) :
    ofLogical entity logical operator none ≠ .ok c := by
  intro h
  obtain ⟨p, -, h⟩ := ok_of_bind h
  obtain ⟨_, hcheck, -⟩ := ok_of_bind h
  cases operator with
  | isNull | isEmpty => cases htakes
  | _ => cases hcheck

/-- It fails on the way of a request as well, though with another error. A request has to write a
value where the operator takes one, and what is missing counts as ambiguous. -/
theorem Item.compile?_ofValue_ne_ok (htakes : operator.takesValue = true) (c : Comparison) :
    (Item.ofValue logical operator none).compile? entity ≠ .ok c := by
  intro h
  have hoperand : (Item.ofValue logical operator none).operand? = .error .ambiguousValue := by
    show (if operator.takesValue then WrittenValue.empty.value?.map some else .ok none) = _
    rw [if_pos htakes]
    rfl
  rw [Item.compile?_eq] at h
  obtain ⟨p, -, h⟩ := ok_of_bind h
  obtain ⟨value, hvalue, -⟩ := ok_of_bind h
  rw [hoperand] at hvalue
  cases hvalue

/-- A filter of one comparison is checked as a node before the comparison is compiled. -/
theorem compile?_compare (entity : Entity) (i : Item) :
    (compare i).compile? entity = (i.compile? entity).map Condition.compare := by
  rw [compile?, tree?_compare]
  rfl

/-! ### Null checks -/

/-- The test of a null check. -/
def Operator.nullCheck (operator : Operator) (subject : String) : String :=
  if operator = .isEmpty then "(" ++ subject ++ " IS NULL OR " ++ subject ++ " = '')"
  else subject ++ " IS NULL"

namespace Comparison

variable {c : Comparison}

/-- The flag for missing properties has no effect without a value to take. So the fragment is that
of the test alone. -/
theorem fragment_compare (htakes : c.operator.takesValue = false) (scope : Scope) :
    (Condition.compare c).fragment scope =
      { text := (c.test scope 0).text, params := numbered scope 0 c.values } := by
  have htext : ((Condition.compare c).fragment scope).text = (c.test scope 0).text := by
    show (c.expr scope {}).1.text = _
    rw [c.fst_expr, htakes, Bool.and_false]
    rfl
  have hparams : ((Condition.compare c).fragment scope).params = numbered scope 0 c.values := by
    rw [Condition.params_fragment]
    show numbered scope 0 ([c].flatMap Comparison.values) = _
    rw [List.flatMap_singleton]
  rw [← htext, ← hparams]

/-- The test without a value is written as the null check of the operator. -/
theorem text_testNull (htakes : operator.takesValue = false) (subject : Term) :
    (testNull operator subject).text = operator.nullCheck subject.text := by
  cases operator with
  | isNull => rfl
  | isEmpty =>
    apply String.toList_injective
    simp [testNull, Expr.text, Expr.texts, groupText, separator, Operator.nullCheck, Term.text,
      Relation.text]
  | _ => cases htakes

/-- Without a value, a null check tests the property alone and binds nothing. -/
theorem fragment_plain (htakes : c.operator.takesValue = false) (hvalue : c.value = none)
    (scope : Scope) :
    (Condition.compare c).fragment scope =
      { text := c.operator.nullCheck (scope.node ++ "." ++ c.property.physical)
        params := [] } := by
  rw [fragment_compare htakes, test, values, hvalue]
  show ({ text := (testNull _ _).text, params := [] } : Fragment) = _
  rw [text_testNull htakes]
  rfl

/-- A null check that has a value is written as an equation with that value. Such a comparison is
not compiled from a filter, but it can be built. -/
theorem text_testValue (htakes : c.operator.takesValue = false) (subject : Term) (v : Value)
    (name : String) :
    (c.testValue subject v name).text =
      subject.text ++ " = " ++ if v.isTime then "datetime($" ++ name ++ ")" else "$" ++ name := by
  unfold testValue
  cases hoperator : c.operator with
  | isNull | isEmpty =>
    -- A null check is no match of texts.
    have hcase : c.ignoresCase = false := by simp [ignoresCase, hoperator, Operator.isTextMatch]
    rw [hcase]
    apply String.toList_injective
    cases v.isTime <;> simp [relation, Expr.text, Term.text, Relation.text]
  | _ =>
    rw [hoperator] at htakes
    cases htakes

/-- A null check that has kept a value compares the property with it. This is the text of a
comparison with `=`, which asks for something else than a null check does. -/
theorem fragment_kept {v : Value} (htakes : c.operator.takesValue = false)
    (hvalue : c.value = some v) (scope : Scope) :
    (Condition.compare c).fragment scope =
      { text := scope.node ++ "." ++ c.property.physical ++ " = " ++
          if v.isTime then "datetime($" ++ (scope.stem ++ "1") ++ ")"
          else "$" ++ (scope.stem ++ "1")
        params := [(scope.stem ++ "1", v.toParam)] } := by
  have hbound : bound c.operator v = v.toParam := by
    rw [Item.bound_eq, if_neg]
    rintro ⟨hin, -⟩
    rw [hin] at htakes
    cases htakes
  have hname : scope.parameter 1 = scope.stem ++ "1" := rfl
  rw [fragment_compare htakes, test, values, hvalue]
  show ({ text := (c.testValue (c.subject scope) v (scope.parameter 1)).text
          params := [(scope.parameter 1, bound c.operator v)] } : Fragment) = _
  rw [text_testValue htakes, hbound, hname]
  rfl

end Comparison

/-! ### The two ways -/

/-- What the comparison of the direct way and the condition of a request have in common. -/
structure Compared (operator : Operator) (value : Option Value) (c : Comparison)
    (d : Condition) : Prop where
  /-- The fragments differ where there is a value that the operator does not take. -/
  same : ∀ scope, (Condition.compare c).fragment scope = d.fragment scope ↔
    operator.takesValue = true ∨ value = none
  /-- The null check of a request tests the property and binds nothing, whatever the value. -/
  nullCheck : operator.takesValue = false → ∀ scope,
    d.fragment scope =
      { text := operator.nullCheck (scope.node ++ "." ++ c.property.physical), params := [] }
  /-- The direct null check compares with a value that it has, and binds it. -/
  kept : operator.takesValue = false → ∀ v, value = some v → ∀ scope,
    (Condition.compare c).fragment scope =
      { text := scope.node ++ "." ++ c.property.physical ++ " = " ++
          if v.isTime then "datetime($" ++ (scope.stem ++ "1") ++ ")"
          else "$" ++ (scope.stem ++ "1")
        params := [(scope.stem ++ "1", v.toParam)] }

namespace Compared

/-- An operator that takes values has the same comparison on both ways. -/
theorem of_takesValue (htakes : operator.takesValue = true) (value : Option Value)
    (c : Comparison) : Compared operator value c (.compare c) where
  same _ := iff_of_true rfl (.inl htakes)
  nullCheck hplain := by simp [htakes] at hplain
  kept hplain := by simp [htakes] at hplain

/-- A null check has the same property on both ways, and the direct one has the value. They agree
when there is no value to keep, and differ in their parameters when there is one. -/
theorem of_plain (htakes : operator.takesValue = false) (value : Option Value) (p : Property) :
    Compared operator value { property := p, operator, value }
      (.compare { property := p, operator, value := none }) := by
  have hplain (scope : Scope) := Comparison.fragment_plain
    (c := { property := p, operator, value := none }) htakes rfl scope
  have hkept (v : Value) (hvalue : value = some v) (scope : Scope) := Comparison.fragment_kept
    (c := { property := p, operator, value }) htakes hvalue scope
  refine { same := fun scope => ?_, nullCheck := fun _ => hplain, kept := fun _ => hkept }
  cases hvalue : value with
  | none => exact iff_of_true rfl (.inr rfl)
  | some v =>
    refine iff_of_false (fun heq => ?_) (by simp [htakes])
    -- The direct one binds a parameter and the other binds none.
    rw [← hvalue, hkept v hvalue, hplain] at heq
    cases congrArg Fragment.params heq

end Compared

/-- The direct way and a request that writes the same comparison both fail, or both succeed and
give the same fragment. The exception is a value for an operator that takes none: a request
drops it, and the direct way compares with it. -/
theorem Comparison.ofLogical_compared (entity : Entity) (logical : String) (operator : Operator)
    (value : Option Value) :
    let f := Filter.compare (.ofValue logical operator value)
    ((∃ c, ofLogical entity logical operator value = .ok c) ↔ ∃ d, f.compile? entity = .ok d) ∧
    ∀ c d, ofLogical entity logical operator value = .ok c → f.compile? entity = .ok d →
      Compared operator value c d := by
  intro f
  have hf : f.compile? entity =
      ((Item.ofValue logical operator value).compile? entity).map Condition.compare :=
    compile?_compare entity _
  rw [hf]
  cases htakes : operator.takesValue with
  | true =>
    cases value with
    | some v =>
      rw [Item.compile?_ofValue_some htakes]
      cases ofLogical entity logical operator (some v) with
      | error e => simp [Except.map]
      | ok c =>
        refine ⟨by simp [Except.map], ?_⟩
        intro _ _ hc hd
        cases hc
        cases hd
        exact .of_takesValue htakes _ _
    | none =>
      -- Neither way succeeds, though each has an error of its own.
      have hdirect : ∀ c, ofLogical entity logical operator none ≠ .ok c := ofLogical_ne_ok htakes
      have hrequest : ∀ c, (Item.ofValue logical operator none).compile? entity ≠ .ok c :=
        Item.compile?_ofValue_ne_ok htakes
      refine ⟨iff_of_false ?_ ?_, fun c _ hc => absurd hc (hdirect c)⟩
      · rintro ⟨c, hc⟩
        exact hdirect c hc
      · rintro ⟨_, hd⟩
        obtain ⟨c, hc, -⟩ := ok_of_map hd
        exact hrequest c hc
  | false =>
    rw [Item.compile?_ofValue_plain htakes, ofLogical_plain htakes, ofLogical_plain htakes]
    cases entity.resolve logical with
    | error e => simp [Except.map]
    | ok p =>
      refine ⟨by simp [Except.map], ?_⟩
      intro c d hc hd
      cases hc
      cases hd
      exact .of_plain htakes value p

/-- A name for which null is asked with a text beside it. The direct way compares the name with
the text, so it does not ask for null. -/
theorem Comparison.ofLogical_same_false :
    let scope : Scope := { node := "n", stem := "p" }
    let name := Entity.text "NAME" "name"
    let c : Comparison := { property := name, operator := .isNull, value := some (.str "x") }
    let d := Condition.compare { property := name, operator := .isNull, value := none }
    let f := Filter.compare (.ofValue "NAME" .isNull (some (.str "x")))
    ofLogical .organization "NAME" .isNull (some (.str "x")) = .ok c ∧
      f.compile? .organization = .ok d ∧
      (Condition.compare c).fragment scope =
        { text := "n.name = $p1", params := [("p1", .string "x")] } ∧
      d.fragment scope = { text := "n.name IS NULL", params := [] } ∧
      (Condition.compare c).fragment scope ≠ d.fragment scope := by
  intro scope name c d f
  have hdirect : (Condition.compare c).fragment scope =
      { text := "n.name = $p1", params := [("p1", .string "x")] } := by
    rw [Comparison.fragment_kept (c := c) (v := .str "x") rfl rfl, Fragment.mk.injEq]
    exact ⟨by decide, rfl⟩
  have hrequest : d.fragment scope = { text := "n.name IS NULL", params := [] } := rfl
  refine ⟨rfl, rfl, hdirect, hrequest, fun heq => ?_⟩
  rw [hdirect, hrequest] at heq
  cases congrArg Fragment.params heq

end TenantSearch.Filter
