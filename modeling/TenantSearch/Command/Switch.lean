import TenantSearch.Command.Number
import TenantSearch.Entity
import TenantSearch.Settings.Basic

/-!
# `TenantSearch.Command.Switch`: what can be given on the command line

A switch has a long name and perhaps a short one of one letter. Two switches ask for help and for
the version, some are flags, the others have a value. `globals` are the switches for the settings.
They can be given before and after the name of a command, and as variables of the environment.
-/

set_option autoImplicit false

namespace TenantSearch.Command

/-- What was given. -/
structure Given where
  layer : Settings.Layer := {}
  config : Option String := none
  tenant : Option String := none
  entity : Option Entity := none
  request : Option String := none
  id : Option String := none
  deleted : Option Bool := none
  timeoutSeconds : Option UInt64 := none

/-- A place for one value. -/
structure Place where
  isTaken : Given → Bool
  /-- Puts a value there. None, when the text is no value. -/
  put? : String → Given → Option Given

/-- A place for what `read` reads. -/
def Place.of {α : Type} (read : String → Option α) (get : Given → Option α)
    (set : Given → α → Given) : Place where
  isTaken g := (get g).isSome
  put? text g := (read text).map (set g)

/-- Puts a value in a place that is free. -/
def Place.fill? (p : Place) (text : String) (g : Given) : Option Given :=
  if p.isTaken g then none else p.put? text g

/-- What a switch does. -/
inductive Effect where
  | help
  | version
  | flag (place : Place)
  | value (place : Place)

/-- A switch. -/
structure Switch where
  long : String
  short : Option Char := none
  /-- The variable that can be set instead. -/
  variableName : Option String := none
  effect : Effect

/-- Where the value of a switch goes. -/
def Switch.place? (s : Switch) : Option Place :=
  match s.effect with
  | .flag place | .value place => some place
  | _ => none

/-! ### Values -/

/-- Reads any text. -/
def text? (s : String) : Option String := some s

/-- Reads a path. It cannot be empty. -/
def path? (s : String) : Option String := if s.isEmpty then none else some s

/-- Reads a truth value. -/
def truth? (s : String) : Option Bool :=
  if s = "true" then some true else if s = "false" then some false else none

/-- A place in the layer of settings. -/
def setting {α : Type} (read : String → Option α) (get : Settings.Layer → Option α)
    (set : Settings.Layer → α → Settings.Layer) : Place :=
  .of read (fun g => get g.layer) (fun g v => { g with layer := set g.layer v })

/-! ### Switches -/

/-- The switch that asks for help. -/
def helpSwitch : Switch := { long := "help", short := some 'h', effect := .help }

/-- The switch that asks for the version. -/
def versionSwitch : Switch := { long := "version", short := some 'V', effect := .version }

/-- The switches for the settings. -/
def globals : List Switch :=
  [{ long := "host", short := some 'H', variableName := some "CRMGRAPH_HOST"
     effect := .value (setting text? (·.host) fun l v => { l with host := some v }) },
   { long := "port", short := some 'p', variableName := some "CRMGRAPH_PORT"
     effect := .value (setting uint16? (·.port) fun l v => { l with port := some v }) },
   { long := "debug", variableName := some "CRMGRAPH_DEBUG"
     effect := .flag (setting truth? (·.debug) fun l v => { l with debug := some v }) },
   { long := "config", short := some 'c', variableName := some "CRMGRAPH_CONFIG"
     effect := .value (.of path? (·.config) fun g v => { g with config := some v }) },
   { long := "graph-url", variableName := some "CRMGRAPH_GRAPH_URL"
     effect := .value (setting text? (·.url) fun l v => { l with url := some v }) },
   { long := "graph-database", variableName := some "CRMGRAPH_GRAPH_DATABASE"
     effect := .value (setting text? (·.database) fun l v => { l with database := some v }) },
   { long := "graph-username", variableName := some "CRMGRAPH_GRAPH_USERNAME"
     effect := .value (setting text? (·.username) fun l v => { l with username := some v }) },
   { long := "graph-password", variableName := some "CRMGRAPH_GRAPH_PASSWORD"
     effect := .value (setting text? (·.password) fun l v => { l with password := some v }) },
   { long := "graph-timeout-secs", variableName := some "CRMGRAPH_GRAPH_TIMEOUT_SECS"
     effect := .value (setting uint64? (·.timeoutSeconds)
       fun l v => { l with timeoutSeconds := some v }) },
   { long := "consistency-max-attempts", variableName := some "CRMGRAPH_CONSISTENCY_MAX_ATTEMPTS"
     effect := .value (setting uint32? (·.maxAttempts)
       fun l v => { l with maxAttempts := some v }) },
   { long := "consistency-base-delay-ms", variableName := some "CRMGRAPH_CONSISTENCY_BASE_DELAY_MS"
     effect := .value (setting uint64? (·.baseDelayMillis)
       fun l v => { l with baseDelayMillis := some v }) },
   { long := "query-default-limit", variableName := some "CRMGRAPH_QUERY_DEFAULT_LIMIT"
     effect := .value (setting int64? (·.standardLimit)
       fun l v => { l with standardLimit := some v }) },
   { long := "query-max-limit", variableName := some "CRMGRAPH_QUERY_MAX_LIMIT"
     effect := .value (setting int64? (·.largestLimit)
       fun l v => { l with largestLimit := some v }) }]

/-! ### Places of commands -/

/-- The place of the tenant. -/
def tenantPlace : Place := .of text? (·.tenant) fun g v => { g with tenant := some v }

/-- The place of the entity. -/
def entityPlace : Place := .of Entity.ofName? (·.entity) fun g v => { g with entity := some v }

/-- The place of the search request. -/
def requestPlace : Place := .of text? (·.request) fun g v => { g with request := some v }

/-- The place of the id. -/
def idPlace : Place := .of text? (·.id) fun g v => { g with id := some v }

/-- The switch for the tenant. -/
def tenantSwitch : Switch :=
  { long := "tenant", short := some 't', effect := .value tenantPlace }

/-- The flag that waits for the end of a node. -/
def deletedSwitch : Switch :=
  { long := "deleted"
    effect := .flag (.of truth? (·.deleted) fun g v => { g with deleted := some v }) }

/-- The switch for the time that a wait may take. -/
def timeoutSwitch : Switch :=
  { long := "timeout-secs"
    effect := .value (.of uint64? (·.timeoutSeconds)
      fun g v => { g with timeoutSeconds := some v }) }

end TenantSearch.Command
