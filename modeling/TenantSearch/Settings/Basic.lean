import TenantSearch.Endpoint.Client
import TenantSearch.Search.Limits
import TenantSearch.Text.Blank
import TenantSearch.Text.Quoted
import TenantSearch.Text.Split
import TenantSearch.Wait.Basic

/-!
# `TenantSearch.Settings`: how the program is set up

Settings come in layers. A layer says something about some of the settings, and where two layers
speak of the same one, the upper layer counts (`Layer.over`). What no layer mentions has a
standard value. Each setting is decided by itself, whatever the layers say about others.

Settings that make no sense have a `Fault`. Of several faults the first one is told.
-/

set_option autoImplicit false

namespace TenantSearch

/-- The settings of the program. -/
structure Settings where
  /-- Where the server listens. -/
  host : String := "127.0.0.1"
  port : UInt16 := 5390
  /-- How the graph store is reached. -/
  graph : Endpoint.Config :=
    { url := "http://localhost:7474", database := "neo4j", timeoutSeconds := 30 }
  /-- How often a wait probes the store. -/
  maxAttempts : UInt32 := 5
  /-- The pause after the first probe, in milliseconds. -/
  baseDelayMillis : UInt64 := 100
  limits : Search.Limits := {}
  debug : Bool := false
deriving DecidableEq

namespace Settings

/-- What one source says about the settings. -/
structure Layer where
  host : Option String := none
  port : Option UInt16 := none
  url : Option String := none
  database : Option String := none
  username : Option String := none
  password : Option String := none
  timeoutSeconds : Option UInt64 := none
  maxAttempts : Option UInt32 := none
  baseDelayMillis : Option UInt64 := none
  standardLimit : Option Int64 := none
  largestLimit : Option Int64 := none
  debug : Option Bool := none
deriving DecidableEq, Repr

/-- One layer on top of another. -/
def Layer.over (upper lower : Layer) : Layer where
  host := upper.host.or lower.host
  port := upper.port.or lower.port
  url := upper.url.or lower.url
  database := upper.database.or lower.database
  username := upper.username.or lower.username
  password := upper.password.or lower.password
  timeoutSeconds := upper.timeoutSeconds.or lower.timeoutSeconds
  maxAttempts := upper.maxAttempts.or lower.maxAttempts
  baseDelayMillis := upper.baseDelayMillis.or lower.baseDelayMillis
  standardLimit := upper.standardLimit.or lower.standardLimit
  largestLimit := upper.largestLimit.or lower.largestLimit
  debug := upper.debug.or lower.debug

/-- The settings that a layer leads to. -/
def ofLayer (l : Layer) : Settings :=
  let standard : Settings := {}
  { host := l.host.getD standard.host
    port := l.port.getD standard.port
    graph :=
      { url := l.url.getD standard.graph.url
        database := l.database.getD standard.graph.database
        username := l.username
        password := l.password
        timeoutSeconds := l.timeoutSeconds.getD standard.graph.timeoutSeconds }
    maxAttempts := l.maxAttempts.getD standard.maxAttempts
    baseDelayMillis := l.baseDelayMillis.getD standard.baseDelayMillis
    limits :=
      { standard := l.standardLimit.getD standard.limits.standard
        largest := l.largestLimit.getD standard.limits.largest }
    debug := l.debug.getD standard.debug }

/-- What is wrong with settings. -/
inductive Fault where
  | noHost
  | noPort
  | noUrl
  /-- The address is none of the web. -/
  | urlScheme (url : String)
  | noDatabase
  | noTimeout
  | noAttempts
  | noDelay
  | standardLimit (limit : Int64)
  /-- The largest limit is below the standard one. -/
  | largestLimit (largest standard : Int64)
deriving DecidableEq, Repr

/-- The fault in words. -/
def Fault.message (f : Fault) : String :=
  "Configuration error: " ++
    match f with
    | noHost => "server.host must not be empty"
    | noPort => "server.port must be non-zero"
    | noUrl =>
      "graph.url must not be empty. Set via CRMGRAPH_GRAPH_URL env var or graph.url in config file."
    | urlScheme url => "graph.url must start with http:// or https://. Got: " ++ url
    | noDatabase => "graph.database must not be empty"
    | noTimeout => "graph.timeout_secs must be non-zero"
    | noAttempts => "consistency.max_attempts must be at least 1"
    | noDelay => "consistency.base_delay_ms must be at least 1"
    | standardLimit n => "query.default_limit must be at least 1 (got " ++ toString n ++ ")"
    | largestLimit largest standard =>
      "query.max_limit (" ++ toString largest ++ ") must not be below query.default_limit ("
        ++ toString standard ++ ")"

/-- Whether the text begins like a web address. -/
def isWebAddress (url : String) : Bool :=
  Text.beginsWith "http://" url || Text.beginsWith "https://" url

/-- The first thing that is wrong with the settings. -/
def fault? (s : Settings) : Option Fault :=
  if s.host.isEmpty then some .noHost
  else if s.port = 0 then some .noPort
  else if (Text.trim s.graph.url).isEmpty then some .noUrl
  else if !isWebAddress s.graph.url then some (.urlScheme s.graph.url)
  else if s.graph.database.isEmpty then some .noDatabase
  else if s.graph.timeoutSeconds = 0 then some .noTimeout
  else if s.maxAttempts = 0 then some .noAttempts
  else if s.baseDelayMillis = 0 then some .noDelay
  else if s.limits.standard < 1 then some (.standardLimit s.limits.standard)
  else if s.limits.largest < s.limits.standard then
    some (.largestLimit s.limits.largest s.limits.standard)
  else none

/-- The settings, unless something is wrong with them. -/
def check (s : Settings) : Except Fault Settings :=
  match s.fault? with
  | some f => .error f
  | none => .ok s

/-- How a wait goes with these settings. -/
def wait (s : Settings) : Wait.Config :=
  .clamped s.maxAttempts (.ofMillis s.baseDelayMillis)

/-- A text that may be missing, in a message. -/
def optionalText : Option String → String
  | some s => "Some(" ++ Text.quoted s ++ ")"
  | none => "None"

/-- How the graph store is reached, in a message. The password is not shown. -/
def graphText (s : Settings) : String :=
  "GraphConfig \x7b url: " ++ Text.quoted s.graph.url ++ ", database: "
    ++ Text.quoted s.graph.database ++ ", username: " ++ optionalText s.graph.username
    ++ ", password: " ++ optionalText (s.graph.password.map fun _ => "***")
    ++ ", timeout_secs: " ++ toString s.graph.timeoutSeconds ++ " \x7d"

end Settings

end TenantSearch
