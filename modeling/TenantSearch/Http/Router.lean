import TenantSearch.Http.Document
import TenantSearch.Http.MediaType
import TenantSearch.Http.Origin
import TenantSearch.Http.Problem
import TenantSearch.Json.Reader
import TenantSearch.Tenant
import TenantSearch.Text.Percent
import TenantSearch.Text.Split

/-!
# `TenantSearch.Http.Router`: answering requests

A request is answered in one pass: the path selects a route, the route checks what it needs and
then does its work. The checks of an entity route come in a fixed order: the parts of the path,
the tenant, the entity, the kind of body, its size, its JSON, the values in it, and last the
compilation. The first check that fails decides the response, and the store is not called.
-/

set_option autoImplicit false

namespace TenantSearch.Http

/-- What the server needs to know. -/
structure Settings where
  host : String := "127.0.0.1"
  port : Nat := 5390
  limits : Search.Limits := {}

/-- What an entity route does with a request. -/
inductive Action where
  /-- Shows the statements. -/
  | compile
  /-- Runs them. -/
  | search
deriving DecidableEq, Repr

/-- The routes. -/
inductive Route where
  | openApi
  | docs
  | health
  /-- A route of an entity, with the tenant and the entity as they stand in the path. -/
  | entity (tenant name : String) (action : Action)
deriving DecidableEq, Repr

namespace Route

/-- The route with the given parts of a path. -/
def ofParts? : List String → Option Route
  | ["", "api", "openapi.json"] => some openApi
  | ["", "api", "docs"] => some docs
  | ["", "api", "docs", ""] => some docs
  | ["", "api", "v1", "health"] => some health
  | ["", "api", "v1", "tenants", tenant, name, "compile"] => some (entity tenant name .compile)
  | ["", "api", "v1", "tenants", tenant, name, "search"] => some (entity tenant name .search)
  | _ => none

/-- The methods of a route, as they stand in a header. -/
def allow : Route → String
  | entity _ _ _ => "POST"
  | _ => "GET,HEAD"

/-- Whether the route has the method. -/
def hasMethod : Route → String → Bool
  | entity _ _ _, method => method = "POST"
  | _, method => method = "GET" || method = "HEAD"

end Route

/-- How many bytes the body of a request may have. -/
def maxBodyBytes : Nat := 1024 * 1024

/-- The text of a part of the path. -/
def decodePart (parameter part : String) : Except Rejection String :=
  match Text.Percent.decode? part with
  | some s => .ok s
  | none => .error (.unreadablePath parameter)

/-- The tenant and the entity of a path. -/
def pathOf (tenant name : String) : Except Rejection (String × Entity) := do
  let tenant ← decodePart "tenant" tenant
  let name ← decodePart "entity" name
  if Tenant.isValid tenant then
    match Entity.ofName? name with
    | some e => return (tenant, e)
    | none => .error (.unknownEntity name)
  else .error .invalidTenant

/-- The search request in the body. -/
def bodyOf (r : Request) : Except Rejection Search.Request :=
  if !((header? r.headers "content-type").any MediaType.isJson) then .error .notJson
  else if maxBodyBytes < r.body.utf8ByteSize then .error .bodyTooLarge
  else
    match (Json.read? r.body).bind Search.Request.ofJson? with
    | none => .error .unreadableBody
    | some request =>
      match request.faults with
      | [] => .ok request
      | faults => .error (.invalid faults)

/-- What an entity route works on. -/
def entityInput (tenant name : String) (r : Request) :
    Except Rejection (String × Entity × Search.Request) := do
  let (tenant, entity) ← pathOf tenant name
  let request ← bodyOf r
  return (tenant, entity, request)

/-- The health of the server: whether the store answers a trivial statement. -/
def checkHealth (store : Store) : Response × List Store.Call :=
  let report (status : Nat) (overall graph : String) : Response :=
    .json status (.object
      [("status", .string overall), ("version", .string Document.version),
       ("graph", .string graph)])
  let response :=
    match store 0 with
    | .ok _ => report 200 "ok" "up"
    | .error _ => report 503 "degraded" "down"
  (response, [⟨"RETURN 1", []⟩])

/-- The work of an entity route. -/
def act (limits : Search.Limits) (store : Store) (action : Action) (tenant : String)
    (entity : Entity) (request : Search.Request) : Response × List Store.Call :=
  match action with
  | .compile =>
    match Search.compile? tenant entity request limits with
    | .ok q => (.json 200 q.toJson, [])
    | .error e => ((Problem.ofCompile e).response, [])
  | .search =>
    match Search.run tenant entity request limits store with
    | (.ok page, calls) => (.json 200 page.toJson, calls)
    | (.error e, calls) => ((Problem.ofFailure e).response, calls)

/-- The work of a route. -/
def Route.serve (route : Route) (settings : Settings) (store : Store) (r : Request) :
    Response × List Store.Call :=
  match route with
  | .openApi => (.json 200 Document.openApi, [])
  | .docs => (.html Document.page, [])
  | .health => checkHealth store
  | .entity tenant name action =>
    match entityInput tenant name r with
    | .ok (tenant, kind, request) => act settings.limits store action tenant kind request
    | .error e => (e.problem.response, [])

/-- The response to a path without a route. -/
def noRoute (r : Request) : Response :=
  (Problem.notFound "ROUTE_NOT_FOUND" ("No route for " ++ r.method ++ " " ++ r.path)).response

/-- The response to a question about what is allowed. -/
def preflight (route : Option Route) : Response :=
  .bare 200
    ([("access-control-allow-methods", "GET,POST,OPTIONS"),
      ("access-control-allow-headers", "content-type,accept,origin")]
      ++ (route.map fun route => ("allow", route.allow)).toList)

/-- The response before anything is said about origins. -/
def dispatch (settings : Settings) (store : Store) (r : Request) : Response × List Store.Call :=
  let route := Route.ofParts? (Text.split '/' r.path)
  if r.method = "OPTIONS" then (preflight route, [])
  else
    match route with
    | none => (noRoute r, [])
    | some route =>
      if route.hasMethod r.method then route.serve settings store r
      else (.bare 405 [("allow", route.allow)], [])

/-- The response with the origin of the request, when it is allowed. -/
def withOrigin (settings : Settings) (r : Request) (response : Response) : Response :=
  match header? r.headers "origin" with
  | some origin =>
    if isAllowedOrigin settings.host settings.port origin then
      response.withHeader "access-control-allow-origin" origin
    else response
  | none => response

/-- The response to a request, with the calls to the store that it took. -/
def respond (settings : Settings) (store : Store) (r : Request) :
    Response × List Store.Call :=
  let (response, calls) := dispatch settings store r
  let response := if r.method = "HEAD" then response.withoutBody else response
  (withOrigin settings r response, calls)

end TenantSearch.Http
