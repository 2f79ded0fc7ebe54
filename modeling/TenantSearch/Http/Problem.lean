import TenantSearch.Entity
import TenantSearch.Http.Message
import TenantSearch.Search.Run

/-!
# `TenantSearch.Http.Problem`: requests that are not served

A problem is what a client is told about a request that failed. What is wrong with the request
itself is told in full. Of a failure of the graph store a client learns only whether to try
again.
-/

set_option autoImplicit false

namespace TenantSearch.Http

/-- What a client is told. -/
inductive Problem where
  | badRequest (code message : String)
  | notFound (code message : String)
  | unavailable
  | internal
deriving DecidableEq, Repr

namespace Problem

/-- The body of a response about a problem. -/
def body (kind code message : String) : Json :=
  .object [("error", .string kind), ("code", .string code), ("message", .string message)]

/-- The response about a problem. -/
def response : Problem → Response
  | badRequest code message => .json 400 (body "bad_request" code message)
  | notFound code message => .json 404 (body "not_found" code message)
  | unavailable =>
    .json 503 (body "service_unavailable" "SERVICE_UNAVAILABLE"
      "Graph store temporarily unavailable")
  | internal => .json 500 (body "internal_error" "INTERNAL" "Graph store operation failed")

/-- What a client is told about a failure of the store. -/
def ofStore (e : Store.Error) : Problem := if e.isTransient then unavailable else internal

/-- What a client is told about a request that does not compile. -/
def ofCompile (e : CompileError) : Problem := badRequest e.code e.message

/-- What a client is told about a search that failed. -/
def ofFailure : Search.Failure → Problem
  | .compile e => ofCompile e
  | .store e => ofStore e

end Problem

/-- Why a request is turned away before it is looked into. -/
inductive Rejection where
  /-- A part of the path is no text. -/
  | unreadablePath (parameter : String)
  | invalidTenant
  | unknownEntity (name : String)
  | notJson
  | bodyTooLarge
  | unreadableBody
  /-- The values of the request are out of bounds. -/
  | invalid (faults : List String)
deriving DecidableEq, Repr

namespace Rejection

/-- The message about a body that could not be read. -/
def unreadableBodyMessage : String := "Failed to read the request body"

/-- What a client is told. -/
def problem : Rejection → Problem
  | unreadablePath parameter =>
    .badRequest "PATH_PARSE_ERROR" ("Invalid URL: Invalid UTF-8 in \x60" ++ parameter ++ "\x60")
  | invalidTenant =>
    .badRequest "INVALID_TENANT"
      "Invalid tenant: must be 1-64 alphanumeric chars, dashes, or underscores"
  | unknownEntity name => .notFound "UNKNOWN_ENTITY" (Entity.unknownMessage name)
  | notJson =>
    .badRequest "JSON_PARSE_ERROR" "Expected request with \x60Content-Type: application/json\x60"
  | bodyTooLarge => .badRequest "JSON_PARSE_ERROR" "Failed to buffer the request body"
  | unreadableBody => .badRequest "JSON_PARSE_ERROR" unreadableBodyMessage
  | invalid faults => .badRequest "VALIDATION_ERROR" ("; ".intercalate faults)

end Rejection

end TenantSearch.Http
