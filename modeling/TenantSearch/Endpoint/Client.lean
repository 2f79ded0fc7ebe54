import TenantSearch.Endpoint.Wire
import TenantSearch.Retry.Backoff
import TenantSearch.Text.Base64

/-!
# `TenantSearch.Endpoint.Client`: calling the graph store

A client sends each call as a request to its endpoint. A transient failure is followed by another
attempt with the same request, up to three attempts in all.

How a request gets to the endpoint is not the client's business. It writes down the address, the
credentials, the time limit and the call, and hands them over. A `Transport` says what becomes of
each request, whatever the address is: the client is a function of the replies. A transport is
taken at its word, so an answer has the status and the body that it reports.
-/

set_option autoImplicit false

namespace TenantSearch.Endpoint

open TenantSearch.Store (Call Row)

/-- How the endpoint is reached. -/
structure Config where
  url : String
  database : String := "neo4j"
  username : Option String := none
  password : Option String := none
  timeoutSeconds : UInt64 := 5
deriving DecidableEq, Repr

/-- A request as the client hands it over. -/
structure Request where
  /-- The address, as the client writes it. -/
  url : String
  authorization : Option String
  /-- How many seconds the answer may take. -/
  timeoutSeconds : UInt64
  call : Call

/-- Why a request, or the answer to it, does not get through. -/
inductive Loss where
  /-- There is no connection. -/
  | refused
  /-- It took too long. -/
  | stalled
  /-- Anything else: the address makes no sense, or the connection broke. -/
  | broken
deriving DecidableEq, Repr

/-- What becomes of a request. -/
inductive Reply where
  /-- No answer begins. -/
  | lost (loss : Loss)
  /-- The status of an answer, and its body if that gets through as well. -/
  | answered (status : Nat) (body : Except Loss String)

/-- A reply, and how long it took in milliseconds. -/
structure Exchange where
  reply : Reply
  millis : Nat := 0

/-- What becomes of each request. The number counts the requests before it. -/
def Transport := Request → Nat → Exchange

/-- The transport that gives these replies one after the other, and then has no connection. -/
def Transport.ofReplies (replies : List Reply) : Transport := fun _ n =>
  { reply := replies.getD n (.lost .refused) }

/-- A client of an endpoint. -/
structure Client where
  config : Config
  /-- The address to which requests go. -/
  commitUrl : String
deriving DecidableEq, Repr

/-- The characters without the slashes at the end. -/
def withoutSlashes (cs : List Char) : List Char := (cs.reverse.dropWhile (· = '/')).reverse

/-- The client with these settings. -/
def Client.ofConfig (c : Config) : Except Store.Error Client :=
  let base := withoutSlashes c.url.toList
  if base.isEmpty then .error (.settings "graph url must not be empty")
  else
    .ok
      { config := c
        commitUrl := String.ofList base ++ "/db/" ++ c.database ++ "/tx/commit" }

namespace Client

/-- How often a call is tried, and how long the client pauses. -/
def policy : Retry.Policy := { maxAttempts := 3, base := 100 }

/-- The name and password of the client, as a header. -/
def authorization (c : Client) : Option String :=
  c.config.username.map fun name =>
    "Basic " ++ Text.Base64.encode (name ++ ":" ++ c.config.password.getD "")

/-- The request for a call. -/
def request (c : Client) (call : Call) : Request :=
  { url := c.commitUrl
    authorization := c.authorization
    timeoutSeconds := c.config.timeoutSeconds
    call }

/-- The error for a loss. -/
def lossError (c : Client) : Loss → Store.Error
  | .refused => .unreachable
  | .stalled => .timeout c.config.timeoutSeconds
  | .broken => .broken

/-- What an answer with the status and the body says. -/
def readAnswer (c : Client) (status : Nat) (body : Except Loss String) : Store.Answer :=
  if 200 ≤ status ∧ status < 300 then
    match body with
    | .error loss => .error (c.lossError loss)
    | .ok text =>
      match (Json.read? text).bind WireAnswer.ofJson? with
      | some answer => answer.answer
      | none => .error .unreadable
  -- Of a failure the status is enough, also when the body is lost.
  else .error (.status status (body.toOption.getD ""))

/-- What a reply says. -/
def readReply (c : Client) : Reply → Store.Answer
  | .lost loss => .error (c.lossError loss)
  | .answered status body => c.readAnswer status body

/-- What a client did for a call. -/
structure Run where
  answer : Store.Answer
  /-- The requests that were sent, in order. -/
  requests : List Request
  /-- How long it took, in milliseconds. -/
  elapsed : Nat

/-- Makes a call, after `first` earlier requests. -/
def run (c : Client) (transport : Transport) (first : Nat) (call : Call) : Run :=
  let request := c.request call
  let exchange (k : Nat) : Exchange := transport request (first + k)
  let outcome := policy.run Store.Error.isTransient fun k => c.readReply (exchange k).reply
  let sent := List.range outcome.calls
  { answer := outcome.result
    requests := sent.map fun _ => request
    elapsed := sent.foldl (fun total k => total + (exchange k).millis) 0
      + outcome.pausedNanos / Time.nanosPerMilli }

/-- How many requests are sent by the first `n` of calls that are all the same. -/
def requestsBefore (c : Client) (transport : Transport) (call : Call) : Nat → Nat
  | 0 => 0
  | n + 1 =>
    let before := c.requestsBefore transport call n
    before + (c.run transport before call).requests.length

/-- Call number `n` of calls that are all the same, counted from zero. -/
def runNth (c : Client) (transport : Transport) (call : Call) (n : Nat) : Run :=
  c.run transport (c.requestsBefore transport call n) call

end Client

end TenantSearch.Endpoint
