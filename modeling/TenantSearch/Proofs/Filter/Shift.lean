import TenantSearch.Proofs.Cypher.Piece
import TenantSearch.Proofs.Cypher.Written
import TenantSearch.Proofs.Filter.Numbering

/-!
# `TenantSearch.Proofs.Filter.Shift`: a condition behind other parameters

A condition may be written behind bindings that are there already. It reads nothing of them but
their counter. So it does what it would do on its own, with every number raised by the counter,
and leaves what it finds as it is. `Condition.Continues` says what this means for the counter,
the bindings and the text, and `Condition.expr_continues` that it always holds.

It holds of every condition, also of those that no filter compiles to: nodes with a comparison
and children, groups without parts, values that do not suit their operator. Nor does it ask
anything of the node's name and the stem. The counter is a natural number, so there is always a
next name.

A name that is in use would be bound again in its old place. What rules this out is that every
name in use has a number up to the counter (`Bindings.Counted`). Each binding preserves that, so
it holds at every node of the tree.
-/

set_option autoImplicit false

namespace TenantSearch.Filter

open TenantSearch.Cypher

/-- The number in the name `y` is `k` above the one in the name `x`. -/
def Scope.Raises (scope : Scope) (k : Nat) (x y : String) : Prop :=
  ∃ n, x = scope.parameter n ∧ y = scope.parameter (n + k)

/-! ### Bindings -/

/-- How many values the condition writes. The children beside a comparison are not written. -/
def Condition.valueCount (c : Condition) : Nat := c.comparisons.countP fun d => d.value.isSome

/-- A condition binds as many values as it has comparisons with a value. -/
theorem Condition.length_values_eq (c : Condition) : c.values.length = c.valueCount := by
  unfold values valueCount
  induction c.comparisons with
  | nil => rfl
  | cons d rest ih =>
    rw [List.flatMap_cons, List.length_append, ih, List.countP_cons]
    cases hd : d.value <;> simp [Comparison.values, hd, Nat.add_comm]

/-- The same values behind other names. -/
theorem raises_numbered (scope : Scope) (n k : Nat) (vs : List Json) :
    List.Forall₂ (fun m m' => scope.Raises k m.1 m'.1 ∧ m.2 = m'.2) (numbered scope n vs)
      (numbered scope (n + k) vs) := by
  induction vs generalizing n with
  | nil => exact .nil
  | cons v rest ih =>
    have hnext : n + k + 1 = n + 1 + k := by omega
    rw [numbered_cons, numbered_cons, hnext]
    exact .cons ⟨⟨n + 1, rfl, rfl⟩, rfl⟩ (ih (n + 1))

/-! ### Texts -/

namespace Comparison

variable {R : String → String → Prop}

/-- A test without a value has no number in it, so it is the same under any relation of names. -/
theorem rel_testNull (operator : Operator) (c : Comparison) (scope : Scope) :
    Expr.Rel R (testNull operator (c.subject scope)) (testNull operator (c.subject scope)) := by
  unfold Expr.Rel
  cases operator <;>
    simp [testNull, subject, Expr.pieces, Expr.piecesOf, Term.pieces, groupPieces]

/-- The test of a value refers to its parameter only. -/
theorem rel_testValue {x y : String} (h : R x y) (c : Comparison) (scope : Scope) (v : Value) :
    Expr.Rel R (c.testValue (c.subject scope) v x) (c.testValue (c.subject scope) v y) := by
  unfold Expr.Rel testValue
  -- Operator, case and moments decide on the fixed text, and they are the same on both sides.
  cases c.operator <;> cases c.ignoresCase <;> cases v.isTime <;>
    simp [subject, Expr.pieces, Expr.piecesOf, Term.pieces, groupPieces, h]

/-- A test that is written from a higher counter has the higher number. -/
theorem rel_test (c : Comparison) (scope : Scope) (n k : Nat) :
    Expr.Rel (scope.Raises k) (c.test scope n) (c.test scope (n + k)) := by
  unfold test
  cases c.value with
  | none => exact rel_testNull _ c scope
  | some v =>
    refine rel_testValue ?_ c scope v
    exact ⟨n + 1, rfl, congrArg scope.parameter (by omega)⟩

/-- A comparison behind `k` more parameters. Its own number is higher by `k`, and nothing else in
its text is a number of a parameter. -/
theorem rel_expr (c : Comparison) (scope : Scope) {k : Nat} {b b' : Bindings}
    (hb : b'.counter = b.counter + k) :
    Expr.Rel (scope.Raises k) (c.expr scope b).1 (c.expr scope b').1 := by
  have htest := c.rel_test scope b.counter k
  rw [fst_expr, fst_expr, hb]
  split
  -- That the property may be missing refers to no parameter.
  · have hnull : Expr.Rel (scope.Raises k) (.isNull (c.subject scope))
        (.isNull (c.subject scope)) := rel_testNull .isNull c scope
    exact .group _ (.cons htest (.cons hnull .nil))
  · exact htest

end Comparison

namespace Condition

/-- Negation keeps the relation. -/
theorem rel_exprUnder {R : String → String → Prop} (negated : Bool) {e e' : Expr}
    (h : Expr.Rel R e e') : Expr.Rel R (exprUnder negated e) (exprUnder negated e') := by
  cases negated with
  | false => exact h
  | true => exact h.not

mutual

/-- A condition behind `k` more parameters. -/
theorem rel_expr (scope : Scope) {k : Nat} : ∀ (c : Condition) {b b' : Bindings},
    b'.counter = b.counter + k →
      Expr.Rel (scope.Raises k) (c.expr scope b).1 (c.expr scope b').1
  | .node negated _ _ (some c), _, _, hb => rel_exprUnder negated (c.rel_expr scope hb)
  | .node negated _ parts none, _, _, hb =>
    rel_exprUnder negated (.group _ (rel_exprs scope parts hb))

/-- Conditions side by side keep their distance: each moves both counters by as much. This is the
induction over the children of a group. -/
theorem rel_exprs (scope : Scope) {k : Nat} : ∀ (cs : List Condition) {b b' : Bindings},
    b'.counter = b.counter + k →
      List.Forall₂ (Expr.Rel (scope.Raises k)) (exprs scope cs b).1 (exprs scope cs b').1
  | [], _, _, _ => .nil
  | c :: rest, b, b', hb => by
    -- The first condition moves both counters by as much.
    have hrest :
        (b'.bindAll scope c.values).counter = (b.bindAll scope c.values).counter + k := by
      rw [Bindings.counter_bindAll, Bindings.counter_bindAll, hb]
      omega
    rw [fst_exprs_cons, fst_exprs_cons]
    exact .cons (rel_expr scope c hb) (rel_exprs scope rest hrest)

end

/-! ### Conditions -/

/-- The condition, written behind the bindings `b`, continues them. -/
structure Continues (c : Condition) (scope : Scope) (b : Bindings) : Prop where
  /-- The counter goes up by one for each value that is written. -/
  counter : (c.expr scope b).2.counter = b.counter + c.valueCount
  /-- The bindings stay as they are and where they are. Behind them come the next names, in
  order, with the values that the condition binds on its own. -/
  params : ∃ added, (c.expr scope b).2.params = b.params ++ added ∧
    Members.keys added = (List.range' (b.counter + 1) c.valueCount).map scope.parameter ∧
    List.Forall₂ (fun m m' => scope.Raises b.counter m.1 m'.1 ∧ m.2 = m'.2)
      (c.fragment scope).params added
  /-- The names stay numbered up to the counter, so another condition can follow. -/
  counted : (c.expr scope b).2.Counted scope
  /-- The text and the one that the condition has on its own are made up of pieces. -/
  texts : (c.fragment scope).text = Piece.textOf (c.expr scope {}).1.pieces ∧
    (c.expr scope b).1.text = Piece.textOf (c.expr scope b).1.pieces
  /-- The two have the same fixed text, and where the one refers to a parameter, the other
  refers to the one with the raised number. -/
  pieces : Expr.Rel (scope.Raises b.counter) (c.expr scope {}).1 (c.expr scope b).1
  text_ne : (c.expr scope b).1.text ≠ ""

/-- Every condition continues the bindings before it. What was bound stays as it is, and the text is
what it would be at the start, with each number raised. -/
theorem expr_continues {scope : Scope} {b : Bindings} (h : b.Counted scope) (c : Condition) :
    c.Continues scope b := by
  refine
    { counter := ?counter
      params := ⟨numbered scope b.counter c.values, ?added, ?names, ?values⟩
      counted := ?counted
      texts := ⟨(Expr.textOf_pieces _).symm, (Expr.textOf_pieces _).symm⟩
      pieces := rel_expr scope c (Nat.zero_add _).symm
      text_ne := Expr.text_ne_empty _ }
  case counter => rw [c.bindings_expr, Bindings.counter_bindAll, c.length_values_eq]
  case added => rw [c.bindings_expr, h.params_bindAll]
  case names => rw [keys_numbered, c.length_values_eq]
  case values =>
    -- On its own, the condition numbers its values from one on.
    have hraised := raises_numbered scope 0 b.counter c.values
    rw [Nat.zero_add] at hraised
    rw [c.params_fragment]
    exact hraised
  case counted =>
    rw [c.bindings_expr]
    exact h.bindAll c.values

/-- A negated disjunction behind two bindings with a gap between their numbers. Its parts are a
range with a single text and a child that it hides, a group of nothing, and a list of one. -/
theorem continues_of_unchecked :
    let scope : Scope := { node := "n", stem := "p" }
    let b : Bindings := { counter := 4, params := [("p1", .null), ("p4", .bool true)] }
    let range : Comparison :=
      { property := Entity.text "NAME" "name", operator := .between, value := some (.str "x")
        includeEmpty := true }
    let status : Comparison :=
      { property := Entity.text "STATUS" "status", operator := .isIn, value := some (.str "y") }
    let c : Condition := .node true (some .disjunction)
      [.node false none [compare status] (some range), group none [], compare status] none
    b.Counted scope ∧ c.valueCount = 2 ∧
      (c.expr scope b).2.params.keys = ["p1", "p4", "p5", "p6"] ∧
      (c.expr scope b).1.text =
        "NOT ((((n.name >= $p5[0] AND n.name <= $p5[1]) OR n.name IS NULL) OR true OR "
          ++ "n.status IN $p6))" ∧
      c.Continues scope b := by
  intro scope b range status c
  have hcounted : b.Counted scope := by
    intro key hkey
    have hkeys : key = "p1" ∨ key = "p4" := by simpa [Members.keys, b] using hkey
    rcases hkeys with rfl | rfl
    · exact ⟨1, by decide, by decide⟩
    · exact ⟨4, by decide, by decide⟩
  exact ⟨hcounted, by decide, by decide, by decide, expr_continues hcounted c⟩

end Condition

end TenantSearch.Filter
