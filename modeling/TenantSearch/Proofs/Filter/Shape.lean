import TenantSearch.Proofs.Cypher.Unit
import TenantSearch.Proofs.Filter.Names

/-!
# `TenantSearch.Proofs.Filter.Shape`: the form of a condition and its text

The form of a condition and its text are found by two recursions over the same nodes. Both guess
from the members of a node what it means, and they use different rules: the form looks at the
connective first, and the text at the number of children.

Here both get truth values, for any truth values of the comparisons. `Shape.truth` is the value of
a form. The value of a text is that of its only reading, which consists of the comparisons as
units (`Reading.Weighs`). Nodes of any kind are allowed, whether compiling gives them or not.

* `Condition.text_shape`: text and form have the same value, where a group without parts holds.
* `Condition.text_shape_false`: so they do not when an empty disjunction fails.
-/

set_option autoImplicit false

namespace TenantSearch.Filter

open TenantSearch.Cypher

/-! ### The value of a form -/

namespace Shape

mutual

/-- The operators of a form, from left to right. -/
def operators : Shape → List Operator
  | .leaf operator => [operator]
  | .not s => operators s
  | .group _ parts => operatorsOf parts

/-- The operators of several forms. -/
def operatorsOf : List Shape → List Operator
  | [] => []
  | s :: rest => operators s ++ operatorsOf rest

end

mutual

/-- The truth value of a form with `n` leaves before it, when the leaf at place `k` has the value
`τ k`, and a group without parts the value `ofEmpty`. -/
def truth (ofEmpty : Junction → Truth) (τ : Nat → Truth) : Shape → Nat → Truth
  | .leaf _, n => τ n
  | .not s, n => (truth ofEmpty τ s n).not
  | .group junction parts, n => groupTruth ofEmpty junction (truths ofEmpty τ parts n)

/-- The truth values of several forms. Each one comes after the leaves of those before. -/
def truths (ofEmpty : Junction → Truth) (τ : Nat → Truth) : List Shape → Nat → List Truth
  | [], _ => []
  | s :: rest, n => truth ofEmpty τ s n :: truths ofEmpty τ rest (n + s.operators.length)

end

end Shape

/-! ### The form of a node -/

namespace Condition

/-- The form of children. Without a connective, an only child has its own. -/
def groupShape : Option Junction → List Shape → Shape
  | some .disjunction, parts => .group .disjunction parts
  | none, [s] => s
  | _, parts => .group .conjunction parts

/-- The form of a node with children is that of the children, negated where the node is. A negated
only child without a connective is a negation, as it is when its own form is negated. -/
theorem shape_children (negated : Bool) (junction : Option Junction) (parts : List Condition) :
    (node negated junction parts none).shape =
      shapeUnder negated (groupShape junction (shapes parts)) := by
  cases junction with
  | some j => cases j <;> simp [shape, groupShape]
  | none =>
    match parts with
    | [] => simp [shape, shapes, groupShape]
    | [c] => simp [shape, shapes, groupShape]
    | c :: d :: rest => simp [shape, shapes, groupShape]

/-- A negation has the operators of what it negates. -/
theorem operators_shapeUnder (negated : Bool) (s : Shape) :
    (shapeUnder negated s).operators = s.operators := by
  cases negated <;> simp [shapeUnder, Shape.operators]

/-- Whichever form the children are given, it has their operators. -/
theorem operators_groupShape (junction : Option Junction) (parts : List Shape) :
    (groupShape junction parts).operators = Shape.operatorsOf parts := by
  unfold groupShape
  split <;> simp [Shape.operators, Shape.operatorsOf]

/-- Whatever its form is, children mean a group under their connective, or a conjunction. This is
where a child without a connective of its own joins the general rule. -/
theorem truth_groupShape (ofEmpty : Junction → Truth) (τ : Nat → Truth)
    (junction : Option Junction) (parts : List Shape) (n : Nat) :
    (groupShape junction parts).truth ofEmpty τ n =
      groupTruth ofEmpty (junction.getD .conjunction) (Shape.truths ofEmpty τ parts n) := by
  unfold groupShape
  split
  · rw [Shape.truth]
    rfl
  · simp [Shape.truths]
  -- What is left is a conjunction, or children without a connective that are not one.
  · rename_i hdisjunction _
    rw [Shape.truth]
    cases junction with
    | none => rfl
    | some j =>
      cases j with
      | conjunction => rfl
      | disjunction => exact (hdisjunction rfl).elim

mutual

/-- The leaves of the form are the comparisons. -/
theorem operators_shape : ∀ c : Condition,
    c.shape.operators = c.comparisons.map Comparison.operator
  | .node negated _ _ (some c) => by
    rw [shape, operators_shapeUnder, Shape.operators, comparisons]
    rfl
  | .node negated junction parts none => by
    rw [shape_children, operators_shapeUnder, operators_groupShape, comparisons]
    exact operatorsOf_shapes parts

/-- The same of several conditions. -/
theorem operatorsOf_shapes : ∀ cs : List Condition,
    Shape.operatorsOf (shapes cs) = (comparisonsOf cs).map Comparison.operator
  | [] => by rw [shapes, Shape.operatorsOf, comparisonsOf, List.map_nil]
  | c :: rest => by
    rw [shapes, Shape.operatorsOf, comparisonsOf, List.map_append, operators_shape c,
      operatorsOf_shapes rest]

end

end Condition

/-! ### Comparisons as units -/

namespace Comparison

/-- The comparisons as expressions, each with the bindings of those before. -/
def exprs (scope : Scope) : List Comparison → Bindings → List Expr
  | [], _ => []
  | c :: rest, b => (c.expr scope b).1 :: exprs scope rest (c.expr scope b).2

/-- The readings of the comparisons. -/
def readings (scope : Scope) (cs : List Comparison) (b : Bindings) : List Reading :=
  (exprs scope cs b).map Expr.reading

/-- The comparisons of a second list come after the values of the first. -/
theorem exprs_append (scope : Scope) (cs ds : List Comparison) (b : Bindings) :
    exprs scope (cs ++ ds) b =
      exprs scope cs b ++ exprs scope ds (b.bindAll scope (cs.flatMap Comparison.values)) := by
  induction cs generalizing b with
  | nil => rfl
  | cons c rest ih =>
    rw [List.cons_append, exprs, ih, exprs, List.flatMap_cons, Bindings.bindAll_append,
      bindings_expr, List.cons_append]

/-- Each comparison has one reading. -/
theorem length_readings (scope : Scope) (cs : List Comparison) (b : Bindings) :
    (readings scope cs b).length = cs.length := by
  rw [readings, List.length_map]
  induction cs generalizing b with
  | nil => rfl
  | cons c rest ih => rw [exprs, List.length_cons, List.length_cons, ih]

/-- A test without a value compares the property with nothing or with the empty text. -/
theorem atoms_testNull_ne_nil (operator : Operator) (subject : Term) :
    (testNull operator subject).reading.atoms ≠ [] := by
  cases operator <;>
    simp [testNull, Expr.reading, Expr.readings, groupReading, Reading.atoms, Reading.atomsOf]

/-- A test of a value compares the property with it, in whichever form. -/
theorem atoms_testValue_ne_nil (c : Comparison) (subject : Term) (v : Value) (name : String) :
    (c.testValue subject v name).reading.atoms ≠ [] := by
  unfold testValue
  cases c.operator <;> cases c.ignoresCase <;> cases v.isTime <;>
    simp [Expr.reading, Expr.readings, groupReading, Reading.atoms, Reading.atomsOf]

/-- Every comparison compares something, so it can be a unit. A condition without comparisons could
be mistaken for any other constant one. -/
theorem atoms_expr_ne_nil (c : Comparison) (scope : Scope) (b : Bindings) :
    (c.expr scope b).1.reading.atoms ≠ [] := by
  have htest : (c.test scope b.counter).reading.atoms ≠ [] := by
    unfold test
    cases c.value with
    | none => exact atoms_testNull_ne_nil _ _
    | some v => exact c.atoms_testValue_ne_nil _ v _
  -- Including empty values adds a comparison, so it takes none away.
  rw [fst_expr]
  split
  · simp [Expr.reading, Expr.readings, groupReading, Reading.atoms, Reading.atomsOf]
  · exact htest

/-- So no reading of a comparison is a constant, which could not be told from a group without parts.
-/
theorem atoms_ne_nil_of_mem_readings {scope : Scope} {cs : List Comparison} {b : Bindings} :
    ∀ r ∈ readings scope cs b, r.atoms ≠ [] := by
  induction cs generalizing b with
  | nil => simp [readings, exprs]
  | cons c rest ih =>
    rw [readings, exprs, List.map_cons, List.forall_mem_cons]
    exact ⟨c.atoms_expr_ne_nil scope b, ih⟩

/-- The text of each comparison has one reading. The names and the stem are those of words, and then
the grammar is unambiguous. -/
theorem isReading_exprs {scope : Scope} (hnode : IsName scope.node)
    (hstem : IsWordText scope.stem) {cs : List Comparison} {b : Bindings}
    (h : ∀ c ∈ cs, IsName c.property.physical) :
    List.Forall₂ (fun text r => ∀ r', IsReading text r' ↔ r' = r)
      ((exprs scope cs b).map Expr.text) (readings scope cs b) := by
  induction cs generalizing b with
  | nil => exact .nil
  | cons c rest ih =>
    rw [List.forall_mem_cons] at h
    have hnamed := named_expr hnode hstem h.1 b
    rw [readings, exprs, List.map_cons, List.map_cons]
    exact .cons (Expr.isReading_text_iff hnamed) (ih h.2)

end Comparison

namespace Condition

open Reading (Weighs Weighed units)

/-- The units of a condition are its comparisons, with the values from place `n` on. -/
def unitsFrom (scope : Scope) (τ : Nat → Truth) (cs : List Comparison) (b : Bindings) (n : Nat) :
    List (Reading × Truth) :=
  units τ n (Comparison.readings scope cs b)

/-- The units of a second list take the places behind those of the first, and come after its values.
-/
theorem unitsFrom_append (scope : Scope) (τ : Nat → Truth) (cs ds : List Comparison)
    (b : Bindings) (n : Nat) :
    unitsFrom scope τ (cs ++ ds) b n =
      unitsFrom scope τ cs b n ++
        unitsFrom scope τ ds (b.bindAll scope (cs.flatMap Comparison.values)) (n + cs.length) := by
  rw [unitsFrom, Comparison.readings, Comparison.exprs_append, List.map_append,
    Reading.units_append, ← Comparison.readings, Comparison.length_readings]
  rfl

/-- A negation turns the values of text and form alike. The units stay, and so do the values that
they are given. -/
theorem weighs_exprUnder (negated : Bool) {e : Expr} {us : List (Reading × Truth)}
    {ofEmpty : Junction → Truth} {τ : Nat → Truth} {s : Shape} {n : Nat}
    (h : e.reading.Weighs us (s.truth ofEmpty τ n)) :
    (exprUnder negated e).reading.Weighs us ((shapeUnder negated s).truth ofEmpty τ n) := by
  cases negated with
  | false => exact h
  | true =>
    show Weighs (.not e.reading) us ((Shape.not s).truth ofEmpty τ n)
    rw [Shape.truth]
    exact .not h

mutual

/-- The expression of a condition consists of its comparisons, and has the value of its form. The
text counts children where the form looks at the connective, and both come to the same value in each
case. -/
theorem weighs_expr (scope : Scope) (τ : Nat → Truth) : ∀ (c : Condition) (b : Bindings) (n : Nat),
    (c.expr scope b).1.reading.Weighs (unitsFrom scope τ c.comparisons b n)
      (c.shape.truth (fun _ => .yes) τ n)
  | .node negated _ _ (some c), b, n => by
    rw [expr, shape, comparisons]
    refine weighs_exprUnder negated ?_
    rw [Shape.truth]
    exact .unit _ (τ n)
  | .node negated junction parts none, b, n => by
    obtain ⟨weighed, hreadings, hunits, hvalues, hall⟩ := exists_weighed scope τ parts b n
    rw [expr, shape_children, comparisons]
    refine weighs_exprUnder negated ?_
    rw [truth_groupShape, Expr.reading, ← hreadings, ← hunits, ← hvalues]
    exact .groupReading _ weighed hall

/-- The expressions of several conditions, each with the comparisons and the form of its own. They
are taken one after the other: the units of each begin where those of the ones before it end. -/
theorem exists_weighed (scope : Scope) (τ : Nat → Truth) :
    ∀ (cs : List Condition) (b : Bindings) (n : Nat), ∃ weighed : List Weighed,
      weighed.map Weighed.reading = Expr.readings (exprs scope cs b).1 ∧
      weighed.flatMap Weighed.units = unitsFrom scope τ (comparisonsOf cs) b n ∧
      weighed.map Weighed.value = Shape.truths (fun _ => .yes) τ (shapes cs) n ∧
      ∀ p ∈ weighed, Weighs p.reading p.units p.value
  | [], _, _ => ⟨[], rfl, rfl, rfl, by simp⟩
  | c :: rest, b, n => by
    have hfirst := weighs_expr scope τ c b n
    obtain ⟨weighed, hreadings, hunits, hvalues, hall⟩ :=
      exists_weighed scope τ rest (b.bindAll scope c.values) (n + c.comparisons.length)
    refine ⟨⟨_, _, _⟩ :: weighed, ?_, ?_, ?_, List.forall_mem_cons.2 ⟨hfirst, hall⟩⟩
    · rw [fst_exprs_cons, Expr.readings, List.map_cons, hreadings]
    · rw [comparisonsOf, unitsFrom_append, List.flatMap_cons, hunits]
      rfl
    · rw [shapes, Shape.truths, List.map_cons, hvalues, operators_shape, List.length_map]

end

/-- What the text of a condition has in common with its form. The text has the reading `r`, the
comparisons in it have the readings `leaves`, and a group without parts has the value
`ofEmpty`. -/
structure SameMeaning (ofEmpty : Junction → Truth) (scope : Scope) (c : Condition) (r : Reading)
    (leaves : List Reading) : Prop where
  text : ∀ r', IsReading (c.fragment scope).text r' ↔ r' = r
  leafText : List.Forall₂ (fun text l => ∀ l', IsReading text l' ↔ l' = l)
    ((Comparison.exprs scope c.comparisons {}).map Expr.text) leaves
  /-- The leaves of the form are the comparisons, in order. -/
  operators : c.shape.operators = c.comparisons.map Comparison.operator
  /-- Text and form have one value, whatever values the comparisons have in their places. -/
  value : ∀ τ v, r.Weighs (units τ 0 leaves) v ↔ v = c.shape.truth ofEmpty τ 0
  /-- So they have when the comparisons are looked into. -/
  eval : ∀ σ τ, (∀ k l, leaves[k]? = some l → τ k = l.eval σ) →
    r.eval σ = c.shape.truth ofEmpty τ 0

/-- The text of a condition means what its form says, for nodes of any kind and at any depth. A
group without parts holds, under either connective. -/
theorem text_shape {scope : Scope} (hnode : IsName scope.node) (hstem : IsWordText scope.stem)
    (c : Condition) (hnames : ∀ d ∈ c.comparisons, IsName d.property.physical) :
    ∃ r leaves, SameMeaning (fun _ => .yes) scope c r leaves := by
  have hweighs (τ : Nat → Truth) := weighs_expr scope τ c {} 0
  have hgrounded (τ : Nat → Truth) : Reading.Grounded (unitsFrom scope τ c.comparisons {} 0) :=
    Reading.grounded_units Comparison.atoms_ne_nil_of_mem_readings τ 0
  refine ⟨(c.expr scope {}).1.reading, Comparison.readings scope c.comparisons {}, ?_⟩
  exact
    { text := Expr.isReading_text_iff (named_expr hnode hstem c hnames {})
      leafText := Comparison.isReading_exprs hnode hstem hnames
      operators := operators_shape c
      value := fun τ v =>
        ⟨fun h => h.unique (hgrounded τ) (hweighs τ), fun h => h ▸ hweighs τ⟩
      eval := fun σ τ hτ => by
        refine ((hweighs τ).eq_eval fun u hu => ?_).symm
        obtain ⟨⟨l, k⟩, hl, rfl⟩ := List.mem_map.1 hu
        exact hτ k l (List.mem_zipIdx_iff_getElem?.1 hl) }

/-- A negated conjunction without a connective, of a disjunction of one range, a negated
disjunction of none, and a null check. -/
theorem text_shape_of_degenerate :
    let scope : Scope := { node := "n", stem := "p" }
    let range : Comparison :=
      { property := Entity.plain "EMPLOYEES" "employees", operator := .between
        value := some (.list [.int 10, .int 50]) }
    let missing : Comparison :=
      { property := Entity.text "NAME" "name", operator := .isNull, value := none }
    let c := negate (group none
      [group (some .disjunction) [compare range], negate (group (some .disjunction) []),
       compare missing])
    IsName "n" ∧ IsWordText "p" ∧ (∀ d ∈ c.comparisons, IsName d.property.physical) ∧
      (c.fragment scope).text =
        "NOT (((n.employees >= $p1[0] AND n.employees <= $p1[1]) AND NOT (true) AND "
          ++ "n.name IS NULL))" ∧
      ∃ r leaves, SameMeaning (fun _ => .yes) scope c r leaves := by
  intro scope range missing c
  have hnode : IsName "n" := by decide
  have hstem : IsWordText "p" := by decide
  have hnames : ∀ d ∈ c.comparisons, IsName d.property.physical := by
    decide
  exact ⟨hnode, hstem, hnames, by decide, text_shape hnode hstem c hnames⟩

/-- An empty disjunction is written as the condition that holds, so its text does not mean that
one of no conditions holds. -/
theorem text_shape_false :
    ¬ ∃ r leaves, SameMeaning (fun junction => .joined junction []) { node := "n", stem := "p" }
      (group (some .disjunction) []) r leaves := by
  rintro ⟨r, leaves, h⟩
  have htext : IsReading "true" .always :=
    (Expr.isReading_text_iff (e := .group .disjunction []) trivial _).2 rfl
  obtain rfl : .always = r := (h.text .always).1 htext
  obtain rfl : leaves = [] := by
    have hleaves := h.leafText
    cases hleaves
    rfl
  have hvalue := (h.value (fun _ => .unknown) .yes).1 .always
  cases hvalue

end Condition

end TenantSearch.Filter
