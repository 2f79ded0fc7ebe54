import TenantSearch.Json.Basic

/-!
# `TenantSearch.Http.Message`: requests and responses
-/

set_option autoImplicit false

namespace TenantSearch.Http

/-- The headers of a message. Names are compared without regard to case. -/
abbrev Headers := List (String × String)

/-- The first value of a header. The name is given in lower case. -/
def header? (headers : Headers) (name : String) : Option String :=
  (headers.find? fun h => h.1.map Char.toLower = name).map Prod.snd

/-- A request. -/
structure Request where
  method : String
  /-- The path, with the query if there is one. -/
  target : String
  headers : Headers := []
  body : String := ""

/-- The path of the request, as it is written. -/
def Request.path (r : Request) : String :=
  String.ofList (r.target.toList.takeWhile fun c => c ≠ '?' && c ≠ '#')

/-- The body of a response. -/
inductive Body where
  | empty
  | json (j : Json)
  | html (text : String)

/-- A response. -/
structure Response where
  status : Nat
  headers : Headers
  body : Body

namespace Response

/-- A response without a body. -/
def bare (status : Nat) (headers : Headers) : Response := ⟨status, headers, .empty⟩

/-- A response with JSON. -/
def json (status : Nat) (j : Json) : Response :=
  ⟨status, [("content-type", "application/json")], .json j⟩

/-- A response with a page. -/
def html (text : String) : Response :=
  ⟨200, [("content-type", "text/html; charset=utf-8")], .html text⟩

/-- The response without its body. -/
def withoutBody (r : Response) : Response := { r with body := .empty }

/-- The response with one more header. -/
def withHeader (r : Response) (name value : String) : Response :=
  { r with headers := r.headers ++ [(name, value)] }

end Response

end TenantSearch.Http
