/-!
# `TenantSearch.Http.Origin`: which pages may call the server

A browser names the origin of the page that makes a request. The origins of the server itself
are allowed, with and without its port. A server that listens on all interfaces or on the
loopback interface is reachable under two names.
-/

set_option autoImplicit false

namespace TenantSearch.Http

/-- The names under which a server is reachable. -/
def publicNames (host : String) : List String :=
  if ["0.0.0.0", "::", "[::]", "127.0.0.1", "localhost", "::1"].contains host then
    ["localhost", "127.0.0.1"]
  else [host]

/-- The allowed origins. -/
def allowedOrigins (host : String) (port : Nat) : List String :=
  (publicNames host).flatMap fun name =>
    ["http://" ++ name ++ ":" ++ toString port, "http://" ++ name]

/-- Whether the origin is allowed. -/
def isAllowedOrigin (host : String) (port : Nat) (origin : String) : Bool :=
  (allowedOrigins host port).contains origin

end TenantSearch.Http
