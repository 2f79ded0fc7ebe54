/-!
# `TenantSearch.Store.Error`: how the graph store fails

A failure is transient when the same call may succeed later: the store was out of reach or out
of time, a server in between said so, or the store itself did.
-/

set_option autoImplicit false

namespace TenantSearch.Store

/-- How a call to the graph store fails. -/
inductive Error where
  /-- No connection was made. -/
  | unreachable
  /-- The address makes no sense, or the connection broke. -/
  | broken
  /-- An answer with a status that is not a success. -/
  | status (code : Nat) (body : String)
  /-- An error reported by the store. -/
  | graph (code message : String)
  /-- An answer that could not be read. -/
  | unreadable
  /-- Settings that do not make sense. -/
  | settings (message : String)
  /-- No answer within the given seconds. -/
  | timeout (seconds : UInt64)
deriving DecidableEq, Repr

namespace Error

/-- What the codes of the store's own transient errors contain. -/
def transientMark : List Char := ".TransientError.".toList

/-- Whether the text contains the mark. -/
def hasMark (mark : List Char) : List Char → Bool
  | [] => mark.isEmpty
  | c :: rest => mark.isPrefixOf (c :: rest) || hasMark mark rest

/-- Whether the same call may succeed later. -/
def isTransient : Error → Bool
  | unreachable => true
  | broken => false
  | status code _ => code = 502 || code = 503 || code = 504
  | graph code _ => hasMark transientMark code.toList
  | unreadable => false
  | settings _ => false
  | timeout _ => true

/-- The failure in words. -/
def message : Error → String
  | unreachable => "HTTP error: no connection"
  | broken => "HTTP error: connection failed"
  | status code body => "Graph store returned status " ++ toString code ++ ": " ++ body
  | graph code message => "Graph error " ++ code ++ ": " ++ message
  | unreadable => "Decode error: unexpected answer"
  | settings message => "Configuration error: " ++ message
  | timeout seconds => "Query timeout after " ++ toString seconds ++ "s on neo4j"

end Error

end TenantSearch.Store
