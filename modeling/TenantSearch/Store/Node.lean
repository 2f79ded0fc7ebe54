import TenantSearch.Cypher.Identifier
import TenantSearch.Store.Basic

/-!
# `TenantSearch.Store.Node`: whether a node is there

A node of a tenant is found by its label and its id. The label goes into the statement as a
quoted name, and the id as a parameter.
-/

set_option autoImplicit false

namespace TenantSearch.Store

/-- A node that a tenant may have. -/
structure Node where
  tenant : String
  id : String
  label : String

namespace Node

/-- The statement that looks for the node. -/
def statement (n : Node) : String :=
  "MATCH (n:" ++ Cypher.Identifier.quote (Cypher.Identifier.tenantLabel n.label n.tenant)
    ++ " \x7bid: $id\x7d) RETURN count(n) > 0"

/-- The call that looks for the node. -/
def probe (n : Node) : Call := { statement := n.statement, params := [("id", .string n.id)] }

/-- What the rows of the probe say. A store that says nothing has no such node. -/
def existsIn (rows : List Row) : Bool :=
  ((firstCell? rows).bind Json.bool?).getD false

/-- What the answer to the probe says. -/
def seen (answer : Answer) : Except Error Bool := answer.map existsIn

end Node

end TenantSearch.Store
