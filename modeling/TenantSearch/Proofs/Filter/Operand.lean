import TenantSearch.Proofs.Cypher.Access
import TenantSearch.Proofs.Filter.Binding

/-!
# `TenantSearch.Proofs.Filter.Operand`: what a condition takes from its parameters

`Filter.valued` are the comparisons of a filter that bind a value, in the order of their
parameters. Each operator takes its own operands from the parameter: the value, two items of it,
or all of them. Whether these go through `datetime` is decided once for the whole value of the
comparison (`Value.isTime`).

* `Condition.accesses_expr`: a condition takes the operands of its comparisons and nothing else.
* `accesses_of_compile?`, `get?_params_of_compile?`: for a compiled filter, these are the
  comparisons of the filter, and the parameters hold their values.
-/

set_option autoImplicit false

namespace TenantSearch.Filter

open TenantSearch.Cypher

/-! ### Comparisons with a value -/

/-- The operator and the value of a comparison. -/
structure Valued where
  operator : Operator
  value : Value

/-- The operator and the value of an item, when it takes a value and the value has one kind. -/
def Item.valued? (i : Item) : Option Valued :=
  if i.operator.takesValue then
    match i.value.value? with
    | .ok v => some ⟨i.operator, v⟩
    | .error _ => none
  else none

/-- The comparisons that bind a value, from left to right. Their parameters are numbered from
one. -/
def valued (f : Filter) : List Valued := f.items.filterMap Item.valued?

/-- The operator and the value of a compiled comparison. -/
def Comparison.valued? (c : Comparison) : Option Valued := c.value.map fun v => ⟨c.operator, v⟩

/-- A compiled item has its value with it, if its operator takes one. -/
theorem Item.Compiled.valued?_eq {entity : Entity} {i : Item} {c : Comparison}
    (h : i.Compiled entity c) : i.valued? = c.valued? := by
  cases h with
  | plain _ takes => simp [Item.valued?, Comparison.valued?, takes, Item.comparison]
  | valued _ takes value _ =>
    simp [Item.valued?, Comparison.valued?, takes, value, Item.comparison]

/-- A compiled filter has the comparisons with a value that the filter has. -/
theorem Condition.valued_comparisons {entity : Entity} {f : Filter} {c : Condition}
    (h : f.compile? entity = .ok c) :
    c.comparisons.filterMap Comparison.valued? = f.valued := by
  have hcompiled := compiled_comparisons h
  rw [valued]
  generalize f.items = is, c.comparisons = cs at hcompiled ⊢
  induction hcompiled with
  | nil => rfl
  | cons hfirst _ ih => rw [List.filterMap_cons, List.filterMap_cons, ih, hfirst.valued?_eq]

/-- A range compares with two bounds. The item that it was compiled from was checked for this. -/
theorem bounds_of_mem_valued {entity : Entity} {f : Filter} {c : Condition}
    (h : f.compile? entity = .ok c) {v : Value} (hv : ⟨.between, v⟩ ∈ f.valued) :
    ∃ low high, v = .list [low, high] := by
  rw [← Condition.valued_comparisons h, List.mem_filterMap] at hv
  obtain ⟨d, hd, hvalued⟩ := hv
  obtain ⟨w, hw, heq⟩ := Option.map_eq_some_iff.1 hvalued
  obtain ⟨hoperator, rfl⟩ := Valued.mk.inj heq
  obtain ⟨i, -, hi⟩ := exists_of_forall₂ (Condition.compiled_comparisons h) hd
  obtain ⟨low, high, hbounds⟩ := hi.ranged hoperator
  exact ⟨low, high, Option.some.inj (hw.symm.trans hbounds)⟩

/-! ### Operands -/

/-- What the operator compares with, when its value is bound to `x`. -/
def Operator.operands (operator : Operator) (x : String) : List Operand :=
  match operator with
  | .isIn => [.each x]
  | .between => [.item x 0, .item x 1]
  | _ => [.whole x]

/-- The operands of an operator: each entry of a list, the two bounds of a range, or the whole
value. -/
theorem Operator.mem_operands (operator : Operator) (x : String) (o : Operand) :
    o ∈ operator.operands x ↔
      (operator = .isIn ∧ o = .each x) ∨ (operator = .between ∧ ∃ k < 2, o = .item x k) ∨
        (operator ≠ .isIn ∧ operator ≠ .between ∧ o = .whole x) := by
  -- There are two bounds, and each has a place.
  have hpair : (∃ k < 2, o = .item x k) ↔ o = .item x 0 ∨ o = .item x 1 := by
    constructor
    · rintro ⟨k, hk, rfl⟩
      obtain rfl | rfl : k = 0 ∨ k = 1 := by omega
      · exact .inl rfl
      · exact .inr rfl
    · rintro (rfl | rfl)
      · exact ⟨0, by decide, rfl⟩
      · exact ⟨1, by decide, rfl⟩
  rw [hpair]
  cases operator <;> simp [operands]

/-- All operands of a parameter have the name of that parameter. -/
theorem Operator.name?_of_mem_operands {operator : Operator} {x : String} {o : Operand}
    (h : o ∈ operator.operands x) : o.name? = some x := by
  rcases (operator.mem_operands x o).1 h with ⟨-, rfl⟩ | ⟨-, k, -, rfl⟩ | ⟨-, -, rfl⟩ <;> rfl

/-- What is bound to the parameter of a comparison. -/
def Valued.bound (w : Valued) : Json := Comparison.bound w.operator w.value

/-- What a comparison takes from the parameter `x`. -/
def Valued.accesses (w : Valued) (x : String) : List Access :=
  (w.operator.operands x).map fun o => ⟨o, w.value.isTime⟩

/-- What several comparisons take, with `n` values before them. -/
def accessesFrom (scope : Scope) (n : Nat) (ws : List Valued) : List Access :=
  (ws.zipIdx (n + 1)).flatMap fun (w, k) => w.accesses (scope.parameter k)

/-- Comparisons that follow others take the numbers behind theirs. -/
theorem accessesFrom_append (scope : Scope) (n : Nat) (ws ws' : List Valued) :
    accessesFrom scope n (ws ++ ws') =
      accessesFrom scope n ws ++ accessesFrom scope (n + ws.length) ws' := by
  unfold accessesFrom
  rw [List.zipIdx_append, List.flatMap_append]
  congr 3
  omega

namespace Comparison

/-- A test without a value uses no parameter. -/
theorem accesses_testNull (operator : Operator) (scope : Scope) (c : Comparison) :
    (testNull operator (c.subject scope)).reading.accesses = [] := by
  cases operator <;> rfl

/-- A test takes the operands of its operator. Where case is ignored the value is a text, so there
is no `datetime` that could be left out. -/
theorem accesses_testValue {c : Comparison} {v : Value} (hv : c.value = some v) (scope : Scope)
    (x : String) :
    (c.testValue (c.subject scope) v x).reading.accesses = Valued.accesses ⟨c.operator, v⟩ x := by
  have htext : c.ignoresCase = true → v.isTime = false := by
    intro hcase
    obtain ⟨-, s, hs⟩ := value_of_ignoresCase hcase
    cases hv.symm.trans hs
    rfl
  simp only [testValue, Valued.accesses]
  cases c.operator with
  | isIn => cases v.isTime <;> rfl
  | between => cases v.isTime <;> rfl
  | _ =>
    cases hcase : c.ignoresCase with
    | true =>
      rw [htext hcase]
      rfl
    | false => cases v.isTime <;> rfl

/-- A comparison uses the parameter of its value, if it has one. Including empty values adds no use.
-/
theorem accesses_expr (scope : Scope) (c : Comparison) (b : Bindings) :
    (c.expr scope b).1.reading.accesses =
      accessesFrom scope b.counter c.valued?.toList := by
  -- The test itself is written for the next parameter.
  have htest : (c.test scope b.counter).reading.accesses =
      accessesFrom scope b.counter c.valued?.toList := by
    unfold test valued?
    cases hv : c.value with
    | none => exact accesses_testNull c.operator scope c
    | some v =>
      rw [accesses_testValue hv]
      exact (List.append_nil _).symm
  rw [fst_expr]
  split
  -- The property may be missing, which is asked of the property alone.
  · rw [← htest]
    exact List.append_nil _
  · exact htest

end Comparison

namespace Condition

/-- Negation leaves the uses as they are. -/
theorem accesses_exprUnder (negated : Bool) (e : Expr) :
    (exprUnder negated e).reading.accesses = e.reading.accesses := by
  cases negated <;> rfl

/-- What a condition binds are the values of its comparisons. -/
theorem values_eq (c : Condition) :
    c.values = (c.comparisons.filterMap Comparison.valued?).map Valued.bound := by
  rw [values]
  induction c.comparisons with
  | nil => rfl
  | cons d rest ih =>
    rw [List.flatMap_cons, ih, List.filterMap_cons]
    unfold Comparison.values Comparison.valued?
    cases d.value <;> rfl

mutual

/-- A condition takes the operands of its comparisons and nothing else, through `datetime` where
the value of the comparison is a moment or a list of moments. -/
theorem accesses_expr (scope : Scope) : ∀ (c : Condition) (b : Bindings),
    (c.expr scope b).1.reading.accesses =
      accessesFrom scope b.counter (c.comparisons.filterMap Comparison.valued?)
  | .node negated _ _ (some c), b => by
    rw [expr, accesses_exprUnder, comparisons, List.filterMap_cons, List.filterMap_nil,
      c.accesses_expr scope b]
    cases c.valued? <;> rfl
  | .node negated junction parts none, b => by
    rw [expr, accesses_exprUnder, Expr.reading, accesses_groupReading, comparisons]
    exact accesses_exprs scope parts b

/-- Conditions side by side use parameters one after the other: those of the first, and behind them
those of the rest. -/
theorem accesses_exprs (scope : Scope) : ∀ (cs : List Condition) (b : Bindings),
    Reading.accessesOf (Expr.readings (exprs scope cs b).1) =
      accessesFrom scope b.counter ((comparisonsOf cs).filterMap Comparison.valued?)
  | [], b => by
    rw [comparisonsOf]
    rfl
  | c :: rest, b => by
    -- The rest starts behind the values of the first condition.
    have hrest := accesses_exprs scope rest (b.bindAll scope c.values)
    have hlength : c.values.length = (c.comparisons.filterMap Comparison.valued?).length := by
      rw [values_eq, List.length_map]
    rw [Bindings.counter_bindAll, hlength] at hrest
    rw [fst_exprs_cons, Expr.readings, Reading.accessesOf, accesses_expr scope c b, hrest,
      comparisonsOf, List.filterMap_append, accessesFrom_append]

end

end Condition

/-! ### Parameters -/

/-- The uses of a list of comparisons, by place: the comparison at a place uses the parameter with
the number of that place. -/
theorem mem_accessesFrom {scope : Scope} {n : Nat} {ws : List Valued} {a : Access} :
    a ∈ accessesFrom scope n ws ↔
      ∃ (k : Nat) (w : Valued), ws[k]? = some w ∧ a ∈ w.accesses (scope.parameter (n + k + 1)) := by
  simp only [accessesFrom, List.mem_flatMap, Prod.exists]
  constructor
  -- `zipIdx` counts from `n + 1`, so the place is what is left of the index.
  · rintro ⟨w, k, hw, ha⟩
    rw [List.mk_mem_zipIdx_iff_le_and_getElem?_sub] at hw
    obtain ⟨hle, hw⟩ := hw
    refine ⟨k - (n + 1), w, hw, ?_⟩
    rw [show n + (k - (n + 1)) + 1 = k by omega]
    exact ha
  · rintro ⟨k, w, hw, ha⟩
    refine ⟨w, n + k + 1, ?_, ha⟩
    rw [List.mk_mem_zipIdx_iff_le_and_getElem?_sub]
    refine ⟨by omega, ?_⟩
    rw [show n + k + 1 - (n + 1) = k by omega]
    exact hw

/-- The numbered parameters hold the values in their order. No name occurs twice, so the first one
found is the one that was meant. -/
theorem get?_numbered (scope : Scope) (n k : Nat) (vs : List Json) :
    (numbered scope n vs).get? (scope.parameter (n + k + 1)) = vs[k]? := by
  induction vs generalizing n k with
  | nil => rfl
  | cons v rest ih =>
    rw [numbered_cons, Members.get?]
    cases k with
    | zero => simp
    | succ k =>
      -- Another number makes another name.
      have hne : scope.parameter (n + 1) ≠ scope.parameter (n + (k + 1) + 1) := by
        intro heq
        have hnumber := scope.parameter_injective heq
        omega
      rw [if_neg hne, show n + (k + 1) + 1 = n + 1 + k + 1 by omega, ih]
      rfl

/-! ### Compiled filters -/

section Compiled

variable {entity : Entity} {f : Filter} {c : Condition}

/-- What the text of a compiled filter takes from the parameters. -/
theorem accesses_of_compile? (h : f.compile? entity = .ok c) (scope : Scope) :
    (c.expr scope {}).1.reading.accesses = accessesFrom scope 0 f.valued := by
  rw [c.accesses_expr scope, Condition.valued_comparisons h]

/-- What the parameters of a compiled filter hold. -/
theorem get?_params_of_compile? (h : f.compile? entity = .ok c) (scope : Scope) {n : Nat}
    {w : Valued} (hw : f.valued[n]? = some w) :
    (c.fragment scope).params.get? (scope.parameter (n + 1)) = some w.bound := by
  have hget := get?_numbered scope 0 n c.values
  rw [Nat.zero_add] at hget
  rw [c.params_fragment, hget, c.values_eq, Condition.valued_comparisons h, List.getElem?_map, hw]
  rfl

/-- From the parameter of a comparison, the text takes the operands of its operator. It takes all of
them and no others, each converted or not as the value says. -/
theorem takes_of_compile? (h : f.compile? entity = .ok c) (scope : Scope) {n : Nat}
    {w : Valued} (hw : f.valued[n]? = some w) :
    (c.expr scope {}).1.reading.Takes (scope.parameter (n + 1))
      (w.operator.operands (scope.parameter (n + 1))) w.value.isTime where
  all o ho := by
    rw [accesses_of_compile? h, mem_accessesFrom]
    refine ⟨n, w, hw, ?_⟩
    rw [Nat.zero_add]
    exact List.mem_map.2 ⟨o, ho, rfl⟩
  only a ha hname := by
    rw [accesses_of_compile? h, mem_accessesFrom] at ha
    obtain ⟨k, w', hw', ha⟩ := ha
    obtain ⟨o, ho, rfl⟩ := List.mem_map.1 ha
    -- The parameter of another comparison has another number.
    have hparameter := Option.some.inj ((Operator.name?_of_mem_operands ho).symm.trans hname)
    obtain rfl : k = n := by
      have hnumber := scope.parameter_injective hparameter
      omega
    obtain rfl : w' = w := Option.some.inj (hw'.symm.trans hw)
    exact ⟨by simpa using ho, rfl⟩

end Compiled

end TenantSearch.Filter
