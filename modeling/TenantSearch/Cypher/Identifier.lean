/-!
# `TenantSearch.Cypher.Identifier`: quoted names in statements

A name of any characters stands between backticks, and a backtick inside it is written twice.
-/

set_option autoImplicit false

namespace TenantSearch.Cypher.Identifier

/-- The inside of a quoted name. -/
def escape : List Char → List Char
  | [] => []
  | c :: rest => if c = '\x60' then '\x60' :: '\x60' :: escape rest else c :: escape rest

/-- The name between backticks. -/
def quote (name : String) : String :=
  String.ofList ('\x60' :: escape name.toList ++ ['\x60'])

/-- The label that the nodes of a tenant have. -/
def tenantLabel (label tenant : String) : String := label ++ "_" ++ tenant

end TenantSearch.Cypher.Identifier
