import TenantSearch.Filter.Condition

/-!
# `TenantSearch.Filter.Fragment`: conditions as parts of a statement

A condition becomes a text that refers to its values by parameters. The parameters are numbered
from one in the order of the comparisons, so a property may be compared in several places. The
numbering and the bound values are threaded through the tree: each node takes the bindings of
what comes before it and passes on its own.
-/

set_option autoImplicit false

namespace TenantSearch.Filter

/-- What the names in a fragment are made of. -/
structure Scope where
  /-- The node whose properties are compared. -/
  node : String
  /-- What the name of every parameter begins with. -/
  stem : String

/-- The parameters bound so far. -/
structure Bindings where
  /-- The number of the newest parameter. -/
  counter : Nat := 0
  params : Members Json := []

/-- The name of a parameter. -/
def Scope.parameter (scope : Scope) (n : Nat) : String := scope.stem ++ toString n

/-- Binds a value to the next parameter. -/
def Bindings.bind (b : Bindings) (scope : Scope) (v : Json) : Bindings :=
  { counter := b.counter + 1, params := b.params.put (scope.parameter (b.counter + 1)) v }

/-- The name of the newest parameter. -/
def Bindings.newest (b : Bindings) (scope : Scope) : String := scope.parameter b.counter

namespace Comparison

open TenantSearch.Cypher (Term Relation Expr)

/-- The relation between a property and a value. -/
def relation : Operator → Relation
  | .contains => .contains
  | .startsWith => .startsWith
  | .atMost => .atMost
  | .atLeast => .atLeast
  | _ => .equal

/-- The value as it is bound. A single value for `IN` becomes a list of one. -/
def bound (operator : Operator) (value : Value) : Json :=
  match operator, value with
  | .isIn, .list items => (Value.list items).toParam
  | .isIn, v => .array [v.toParam]
  | _, v => v.toParam

/-- The test of the property against the value that is bound to `name`. -/
def testValue (c : Comparison) (subject : Term) (value : Value) (name : String) : Expr :=
  let moment (t : Term) : Term := if value.isTime then .moment t else t
  match c.operator with
  | .isIn => if value.isTime then .isInMoments subject name else .isIn subject name
  | .between =>
    .group .conjunction
      [.compare subject .atLeast (moment (.item name 0)),
       .compare subject .atMost (moment (.item name 1))]
  | operator =>
    if c.ignoresCase then
      .compare (.lower subject) (relation operator) (.lower (.parameter name))
    else .compare subject (relation operator) (moment (.parameter name))

/-- The test of the property alone. -/
def testNull (operator : Operator) (subject : Term) : Expr :=
  match operator with
  | .isEmpty => .group .disjunction [.isNull subject, .compare subject .equal .emptyText]
  | _ => .isNull subject

/-- The comparison as an expression, with the bindings after it. -/
def expr (scope : Scope) (c : Comparison) (b : Bindings) : Expr × Bindings :=
  let subject : Term := .property scope.node c.property.physical
  let (test, b) :=
    match c.value with
    | none => (testNull c.operator subject, b)
    | some value =>
      let b := b.bind scope (bound c.operator value)
      (c.testValue subject value (b.newest scope), b)
  if c.includeEmpty && c.operator.takesValue then
    (.group .disjunction [test, .isNull subject], b)
  else (test, b)

end Comparison

namespace Condition

open TenantSearch.Cypher (Expr)

/-- The expression, negated where asked. -/
def exprUnder (negated : Bool) (e : Expr) : Expr := if negated then .not e else e

mutual

/-- The condition as an expression, with the bindings after it. -/
def expr (scope : Scope) : Condition → Bindings → Expr × Bindings
  | .node negated _ _ (some c), b =>
    let (e, b) := c.expr scope b
    (exprUnder negated e, b)
  | .node negated junction parts none, b =>
    let (es, b) := exprs scope parts b
    (exprUnder negated (.group (junction.getD .conjunction) es), b)

/-- Several conditions as expressions, from left to right. -/
def exprs (scope : Scope) : List Condition → Bindings → List Expr × Bindings
  | [], b => ([], b)
  | c :: rest, b =>
    let (e, b) := expr scope c b
    let (es, b) := exprs scope rest b
    (e :: es, b)

end

end Condition

/-- A condition as a part of a statement. -/
structure Fragment where
  /-- The text of the condition. It is empty when there is no condition. -/
  text : String := ""
  params : Members Json := []

/-- The fragment of a condition. -/
def Condition.fragment (scope : Scope) (c : Condition) : Fragment :=
  let (e, b) := c.expr scope {}
  { text := e.text, params := b.params }

/-- Whether there is no condition. -/
def Fragment.isEmpty (f : Fragment) : Bool := f.text.isEmpty

/-- The condition as a clause, when there is one. -/
def Fragment.whereClause (f : Fragment) : String :=
  if f.isEmpty then "" else " WHERE " ++ f.text

end TenantSearch.Filter
