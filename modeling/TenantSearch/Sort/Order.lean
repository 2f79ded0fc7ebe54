import TenantSearch.Entity
import TenantSearch.Sort.Rule

/-!
# `TenantSearch.Sort.Order`: sort rules of an entity

An order is a list of keys, and the first key takes precedence. Each key sorts by a property of
a node. Text is sorted without regard to case unless the rule asks for it.
-/

set_option autoImplicit false

namespace TenantSearch.Sort

/-- One key of an order. -/
structure Key where
  /-- The node. None stands for the node of the whole order. -/
  node : Option String := none
  property : Property
  direction : Direction
  lowercase : Bool
  /-- The expression that stands in for a missing value. -/
  nullDefault : Option String := none
deriving DecidableEq

/-- The key as a part of a statement, for the given node. -/
def Key.text (k : Key) (node : String) : String :=
  let plain := k.node.getD node ++ "." ++ k.property.physical
  let folded := if k.lowercase then "toLower(" ++ plain ++ ")" else plain
  let total :=
    match k.nullDefault with
    | some d => "coalesce(" ++ folded ++ ", " ++ d ++ ")"
    | none => folded
  total ++ " " ++ k.direction.word

/-- The key of a rule for the property with a logical name. -/
def Rule.key (r : Rule) (entity : Entity) (logical : String) : Except CompileError Key := do
  let property ← entity.resolve logical
  return {
    property
    direction := r.direction
    lowercase := !r.caseSensitive.getD false && property.isText }

/-- An order. -/
structure Order where
  keys : List Key
deriving DecidableEq

/-- The order as a clause, when it has keys. -/
def Order.clause (o : Order) (node : String) : String :=
  if o.keys.isEmpty then ""
  else " ORDER BY " ++ ", ".intercalate (o.keys.map fun k => k.text node)

/-- The order of the rules for one entity. -/
def Order.compile? (entity : Entity) (rules : List Rule) : Except CompileError Order := do
  let keys ← rules.mapM fun r => r.key entity r.property
  return { keys }

end TenantSearch.Sort
