import TenantSearch.Json.Reader
import TenantSearch.Json.Record
import TenantSearch.Store.Basic

/-!
# `TenantSearch.Endpoint.Wire`: what goes over the wire

The graph store takes statements over HTTP, each in a transaction of its own. A request holds one
statement, and an answer holds results and errors. If there are errors, the first one is the
answer. Otherwise the rows of the first result are.
-/

set_option autoImplicit false

namespace TenantSearch.Endpoint

open TenantSearch.Store (Call Row)

/-- The body of the request for a call. -/
def requestBody (call : Call) : Json :=
  .object
    [("statements", .array
      [.object [("statement", .string call.statement), ("parameters", .object call.params)]])]

/-- An error in an answer. -/
structure WireError where
  code : String
  message : String
deriving DecidableEq

/-- An answer of the store. -/
structure WireAnswer where
  /-- The rows of each result. -/
  results : List (List Row)
  errors : List WireError

/-- A list of what `read` reads. -/
def listOf? {α : Type} (read : Json → Option α) (j : Json) : Option (List α) :=
  j.items?.bind fun items => items.mapM read

/-- Reads one row of a result. -/
def row? (j : Json) : Option Row := do
  let slots ← Json.slots? [{ name := "row" }] j
  match slots with
  | [row] => Json.Record.required? (listOf? Json.plain?) row
  | _ => none

/-- Reads one result. -/
def result? (j : Json) : Option (List Row) := do
  let slots ← Json.slots? [{ name := "data", omissible := true }] j
  match slots with
  | [data] => Json.Record.withDefault? [] (listOf? row?) data
  | _ => none

/-- Reads one error. -/
def wireError? (j : Json) : Option WireError := do
  let slots ← Json.slots? [{ name := "code" }, { name := "message" }] j
  match slots with
  | [code, message] =>
    let code ← Json.Record.required? Json.string? code
    let message ← Json.Record.required? Json.string? message
    return { code, message }
  | _ => none

/-- Reads an answer. -/
def WireAnswer.ofJson? (j : Json) : Option WireAnswer := do
  let slots ←
    Json.slots? [{ name := "results", omissible := true }, { name := "errors", omissible := true }]
      j
  match slots with
  | [results, errors] =>
    let results ← Json.Record.withDefault? [] (listOf? result?) results
    let errors ← Json.Record.withDefault? [] (listOf? wireError?) errors
    return { results, errors }
  | _ => none

/-- What the answer says. -/
def WireAnswer.answer (a : WireAnswer) : Store.Answer :=
  match a.errors with
  | first :: _ => .error (.graph first.code first.message)
  | [] => .ok (a.results.headD [])

end TenantSearch.Endpoint
