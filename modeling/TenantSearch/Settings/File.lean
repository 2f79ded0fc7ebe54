import TenantSearch.Json.Reader
import TenantSearch.Json.Record
import TenantSearch.Settings.Basic

/-!
# `TenantSearch.Settings.File`: settings in files

A file holds an object with sections. Every section and every member may be missing or `null`.
Members of the file that are not known do no harm, but they are told, since they may be typing
errors. Inside a section they are skipped.

One file can be merged with another that it goes before (`File.over`). Sections are merged member
by member, so a section of the upper file leaves those members of the lower one that it does not
mention.
-/

set_option autoImplicit false

namespace TenantSearch.Settings

namespace File

/-- Where the server listens. -/
structure Server where
  host : Option String := none
  port : Option UInt16 := none
deriving DecidableEq, Repr

/-- How the graph store is reached. -/
structure Graph where
  url : Option String := none
  database : Option String := none
  username : Option String := none
  password : Option String := none
  timeoutSeconds : Option UInt64 := none
deriving DecidableEq, Repr

/-- How a wait goes. -/
structure Consistency where
  maxAttempts : Option UInt32 := none
  baseDelayMillis : Option UInt64 := none
deriving DecidableEq, Repr

/-- How large pages are. -/
structure Paging where
  standardLimit : Option Int64 := none
  largestLimit : Option Int64 := none
deriving DecidableEq, Repr

end File

/-- What stands in a file. -/
structure File where
  server : Option File.Server := none
  graph : Option File.Graph := none
  consistency : Option File.Consistency := none
  paging : Option File.Paging := none
  debug : Option Bool := none
  /-- The members that are not known. -/
  unknown : Members Json := []

namespace File

/-- Reads the section about the server. -/
def Server.ofJson? (j : Json) : Option Server := do
  match ← Json.slots? [{ name := "host" }, { name := "port" }] j with
  | [host, port] =>
    let host ← Json.optionalSlot? Json.string? host
    let port ← Json.optionalSlot? (Json.natural? Word.maxUnsigned16) port
    return { host, port := port.map Nat.toUInt16 }
  | _ => none

/-- Reads the section about the graph store. -/
def Graph.ofJson? (j : Json) : Option Graph := do
  let fields : List Json.Field :=
    [{ name := "url" }, { name := "database" }, { name := "username" }, { name := "password" },
     { name := "timeout_secs" }]
  match ← Json.slots? fields j with
  | [url, database, username, password, timeout] =>
    let url ← Json.optionalSlot? Json.string? url
    let database ← Json.optionalSlot? Json.string? database
    let username ← Json.optionalSlot? Json.string? username
    let password ← Json.optionalSlot? Json.string? password
    let timeout ← Json.optionalSlot? (Json.natural? Word.maxUnsigned) timeout
    return { url, database, username, password, timeoutSeconds := timeout.map Nat.toUInt64 }
  | _ => none

/-- Reads the section about waits. -/
def Consistency.ofJson? (j : Json) : Option Consistency := do
  match ← Json.slots? [{ name := "max_attempts" }, { name := "base_delay_ms" }] j with
  | [attempts, delay] =>
    let attempts ← Json.optionalSlot? (Json.natural? Word.maxUnsigned32) attempts
    let delay ← Json.optionalSlot? (Json.natural? Word.maxUnsigned) delay
    return { maxAttempts := attempts.map Nat.toUInt32, baseDelayMillis := delay.map Nat.toUInt64 }
  | _ => none

/-- A signed number of 64 bits. -/
def limit? (j : Json) : Option Int64 := j.integer?.bind Word.ofInt?

/-- Reads the section about pages. -/
def Paging.ofJson? (j : Json) : Option Paging := do
  match ← Json.slots? [{ name := "default_limit" }, { name := "max_limit" }] j with
  | [standard, largest] =>
    let standardLimit ← Json.optionalSlot? limit? standard
    let largestLimit ← Json.optionalSlot? limit? largest
    return { standardLimit, largestLimit }
  | _ => none

/-- The known members of a file. -/
def fields : List Json.Field :=
  [{ name := "server" }, { name := "graph" }, { name := "consistency" }, { name := "query" },
   { name := "debug" }]

/-- Whether the key names a known member. -/
def isKnown (key : String) : Bool := fields.any (·.hasKey key)

/-- Reads a file. -/
def ofJson? : Json → Option File
  | .object members => do
    let unknown ← Json.plainMembers? [] (members.filter fun m => !isKnown m.1)
    match ← Json.Record.named? fields members with
    | [server, graph, consistency, paging, debug] =>
      let server ← Json.optionalSlot? Server.ofJson? server
      let graph ← Json.optionalSlot? Graph.ofJson? graph
      let consistency ← Json.optionalSlot? Consistency.ofJson? consistency
      let paging ← Json.optionalSlot? Paging.ofJson? paging
      let debug ← Json.optionalSlot? Json.bool? debug
      return { server, graph, consistency, paging, debug, unknown }
    | _ => none
  | _ => none

/-- Reads the text of a file. -/
def read? (text : String) : Option File := (Json.read? text).bind ofJson?

/-- The section about the server, merged with a lower one. -/
def Server.over (upper lower : Server) : Server where
  host := upper.host.or lower.host
  port := upper.port.or lower.port

/-- The section about the graph store, merged with a lower one. -/
def Graph.over (upper lower : Graph) : Graph where
  url := upper.url.or lower.url
  database := upper.database.or lower.database
  username := upper.username.or lower.username
  password := upper.password.or lower.password
  timeoutSeconds := upper.timeoutSeconds.or lower.timeoutSeconds

/-- The section about waits, merged with a lower one. -/
def Consistency.over (upper lower : Consistency) : Consistency where
  maxAttempts := upper.maxAttempts.or lower.maxAttempts
  baseDelayMillis := upper.baseDelayMillis.or lower.baseDelayMillis

/-- The section about pages, merged with a lower one. -/
def Paging.over (upper lower : Paging) : Paging where
  standardLimit := upper.standardLimit.or lower.standardLimit
  largestLimit := upper.largestLimit.or lower.largestLimit

/-- Merges a section that may be missing. A lower section that is missing counts as empty. -/
def mergeSection {α : Type} (merge : α → α → α) (empty : α) : Option α → Option α → Option α
  | some upper, lower => some (merge upper (lower.getD empty))
  | none, lower => lower

/-- What the file says about the settings. -/
def layer (f : File) : Layer where
  host := f.server.bind Server.host
  port := f.server.bind Server.port
  url := f.graph.bind Graph.url
  database := f.graph.bind Graph.database
  username := f.graph.bind Graph.username
  password := f.graph.bind Graph.password
  timeoutSeconds := f.graph.bind Graph.timeoutSeconds
  maxAttempts := f.consistency.bind Consistency.maxAttempts
  baseDelayMillis := f.consistency.bind Consistency.baseDelayMillis
  standardLimit := f.paging.bind Paging.standardLimit
  largestLimit := f.paging.bind Paging.largestLimit
  debug := f.debug

end File

/-- The file on top of a lower one. -/
def File.over (upper lower : File) : File where
  server := File.mergeSection File.Server.over {} upper.server lower.server
  graph := File.mergeSection File.Graph.over {} upper.graph lower.graph
  consistency := File.mergeSection File.Consistency.over {} upper.consistency lower.consistency
  paging := File.mergeSection File.Paging.over {} upper.paging lower.paging
  debug := upper.debug.or lower.debug
  unknown := lower.unknown

end TenantSearch.Settings
