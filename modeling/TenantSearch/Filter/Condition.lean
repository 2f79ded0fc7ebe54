import TenantSearch.Cypher.Expr
import TenantSearch.Entity
import TenantSearch.Filter.Basic

/-!
# `TenantSearch.Filter.Condition`: filters of an entity

A condition is a filter whose properties are those of an entity. Its nodes are of one general
form: children under a connective, or a comparison, and either may be negated. `Filter.compile?`
gives conditions of three forms only, comparisons, groups and negations, but the meaning of the
other nodes is fixed too: a comparison hides the children beside it, several children without a
connective are joined by `AND`, and a node without children always holds.
-/

set_option autoImplicit false

namespace TenantSearch.Filter

/-- The comparison of a property of an entity. -/
structure Comparison where
  property : Property
  operator : Operator
  /-- None, when the operator compares with nothing. -/
  value : Option Value
  caseSensitive : Bool := false
  includeEmpty : Bool := false

namespace Comparison

/-- Checks that the value suits the operator: a range has two bounds, and what compares with a
value has one. -/
def check (c : Comparison) : Except CompileError Unit :=
  match c.operator, c.value with
  | .between, some (.list [_, _]) => .ok ()
  | .between, _ => .error .boundsExpected
  | operator, none =>
    if operator.takesValue then .error (.valueMissing operator c.property.logical) else .ok ()
  | _, some _ => .ok ()

/-- The comparison of a property named in a request, with its value checked. -/
def ofLogical (entity : Entity) (logical : String) (operator : Operator)
    (value : Option Value) : Except CompileError Comparison := do
  let property ← entity.resolve logical
  let c : Comparison := { property, operator, value }
  c.check
  return c

/-- Whether case is ignored. The comparison has to ask for it, and property, operator and
value have to be about text. -/
def ignoresCase (c : Comparison) : Bool :=
  !c.caseSensitive && c.property.isText && c.operator.isTextMatch && c.value.any Value.isText

end Comparison

/-- A filter of an entity. -/
inductive Condition where
  | node (negated : Bool) (junction : Option Junction) (parts : List Condition)
      (comparison : Option Comparison)

namespace Condition

/-- The condition without a part. -/
def empty : Condition := .node false none [] none

instance : Inhabited Condition := ⟨empty⟩

/-- A single comparison. -/
def compare (c : Comparison) : Condition := .node false none [] (some c)

/-- Conditions under a connective. -/
def group (junction : Option Junction) (parts : List Condition) : Condition :=
  .node false junction parts none

/-- The opposite of a condition. -/
def negate (c : Condition) : Condition := .node true none [c] none

/-- The form, negated where asked. -/
def shapeUnder (negated : Bool) (s : Shape) : Shape := if negated then .not s else s

mutual

/-- The form of the condition. -/
def shape : Condition → Shape
  | .node negated _ _ (some c) => shapeUnder negated (.leaf c.operator)
  | .node negated (some .disjunction) parts none =>
    shapeUnder negated (.group .disjunction (shapes parts))
  | .node negated none [c] none => shapeUnder negated (shape c)
  | .node negated _ parts none => shapeUnder negated (.group .conjunction (shapes parts))

/-- The forms of several conditions. -/
def shapes : List Condition → List Shape
  | [] => []
  | c :: rest => shape c :: shapes rest

end

end Condition

/-- The comparison of a request as one of the entity. The value of an operator that takes none
is dropped unseen. -/
def Item.compile? (entity : Entity) (i : Item) : Except CompileError Comparison := do
  let property ← entity.resolve i.property
  let value ← if i.operator.takesValue then i.value.value?.map some else .ok none
  let c : Comparison :=
    { property, operator := i.operator, value
      caseSensitive := i.caseSensitive.getD false
      includeEmpty := i.includeEmpty.getD false }
  c.check
  return c

namespace Tree

mutual

/-- The filter as a condition of the entity. -/
def compile? (entity : Entity) : Tree → Except CompileError Condition
  | .leaf item => (item.compile? entity).map .compare
  | .not t => (compile? entity t).map .negate
  | .group junction parts => (compileAll? entity parts).map (.group (some junction))

/-- The parts of a group as conditions of the entity. -/
def compileAll? (entity : Entity) : List Tree → Except CompileError (List Condition)
  | [] => .ok []
  | t :: rest => do
    let c ← compile? entity t
    let cs ← compileAll? entity rest
    return c :: cs

end

end Tree

/-- The filter of a request as a condition of the entity. All of its nodes are checked before
any of its comparisons is. -/
def compile? (entity : Entity) (f : Filter) : Except CompileError Condition := do
  let t ← f.tree?
  t.compile? entity

end TenantSearch.Filter
