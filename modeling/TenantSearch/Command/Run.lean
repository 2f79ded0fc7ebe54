import TenantSearch.Command.Basic
import TenantSearch.Endpoint.Client
import TenantSearch.Environment.Load
import TenantSearch.Http.Address
import TenantSearch.Http.Document
import TenantSearch.Json.Writer
import TenantSearch.Search.Query
import TenantSearch.Settings.Load
import TenantSearch.Wait.Run

/-!
# `TenantSearch.Command.Run`: a run of the program

A run is a function of its command line and of what it meets: the environment, the files, what
becomes of its requests, and whether it is asked to stop. It ends with a text, or with a message
about what went wrong. A run whose arithmetic fails is broken off with a message as well, and the
requests up to that point are made.
-/

set_option autoImplicit false

namespace TenantSearch.Command

/-- What a run meets. -/
structure Surroundings where
  environment : Environment := []
  files : Files
  transport : Endpoint.Transport
  /-- Whether the program is asked to stop once it is at work: when it listens, or with its first
  request. -/
  interrupted : Bool := false

/-- How a run ends. -/
inductive Ending where
  /-- The command line asks for nothing that can be done. -/
  | stopped (stop : Stop)
  | done (output : String)
  | failed (message : String)
  /-- The program was broken off by a step of its arithmetic. -/
  | brokenOff (message : String)

/-- The status that the run ends with. -/
def Ending.status : Ending → Nat
  | stopped .usage => 2
  | stopped _ => 0
  | done _ => 0
  | failed _ => 1
  | brokenOff _ => 101

/-- A run. -/
structure Course where
  ending : Ending
  /-- The requests that are sent to the graph store. -/
  requests : List Endpoint.Request := []

/-- What the program says about its version. -/
def versionText : String := "crmgraph " ++ Http.Document.version ++ "\n"

/-- What the program says about its command line. -/
def usageText : String :=
  "Usage: crmgraph [OPTIONS] [COMMAND]\n\nCommands: " ++ ", ".intercalate names ++ "\n"

/-- What the program prints when it fails. -/
def failureText (message : String) : String := "\nError: " ++ message ++ "\n\n"

/-- What the program prints when it is broken off. -/
def brokenOffText (message : String) : String := "\n" ++ message ++ "\n"

/-- The statements of a search, or why there are none. -/
def compileText (settings : Settings) (tenant : String) (entity : Entity) (request : String) :
    Except String String :=
  match (Json.read? request).bind Search.Request.ofJson? with
  | none => .error "Failed to parse search request JSON"
  | some request =>
    match Search.compile? tenant entity request settings.limits with
    | .error e => .error e.message
    | .ok query => .ok (query.toJson.pretty ++ "\n")

/-- What is said when the node is as expected. -/
def confirmedText (entity : Entity) (id : String) (attempts : UInt32) : String :=
  entity.label ++ " " ++ id ++ " confirmed after " ++ toString attempts ++ " attempt(s)\n"

/-- The reading of the clock when a wait begins, in nanoseconds. -/
def clockStart : Nat := Time.nanosPerSecond

/-- A wait for the node. A run that is asked to stop hears it with its first request, and makes
no other. -/
def runWait (s : Surroundings) (settings : Settings) (client : Endpoint.Client)
    (tenant : String) (entity : Entity) (id : String) (deleted : Bool)
    (timeoutSeconds : Option UInt64) : Course :=
  let node : Store.Node := { tenant, id, label := entity.label }
  let call (n : Nat) : Endpoint.Client.Run := client.runNth s.transport node.probe n
  let probes (n : Nat) : Wait.Probe :=
    { latency := (call n).elapsed, answer := Store.Node.seen (call n).answer }
  let expectation : Wait.Expectation := if deleted then .deleted else .created
  let timeout := timeoutSeconds.map Time.Duration.ofSeconds
  let cancellation : Wait.Cancellation := { probe := if s.interrupted then some 1 else none }
  let setting : Wait.Setting := { probes, cancellation, start := clockStart }
  let requestsFor (spans : List Wait.Span) : List Endpoint.Request :=
    (List.range spans.length).flatMap fun n => (call n).requests
  match Wait.run settings.wait expectation timeout setting with
  | .error broken =>
    { ending := .brokenOff broken.cause.message, requests := requestsFor broken.spans }
  | .ok report =>
    let requests := requestsFor report.spans
    let ending : Ending :=
      match report.outcome.result with
      | .ok attempts => .done (confirmedText entity id attempts)
      | .error message => .failed message
    if s.interrupted && !report.outcome.isConfirmed then { ending, requests := requests.take 1 }
    else { ending, requests }

/-- Runs a command with the settings. -/
def runWith (s : Surroundings) (settings : Settings) (command : Command) : Course :=
  match command with
  | .compile tenant entity request =>
    match compileText settings tenant entity request with
    | .ok output => { ending := .done output }
    | .error message => { ending := .failed message }
  | .serve =>
    match Endpoint.Client.ofConfig settings.graph, Http.Address.failure? settings.host with
    | .error _, _ => { ending := .failed "Failed to initialize graph client" }
    | .ok _, some failure => { ending := .failed failure.message }
    | .ok _, none => { ending := .done "" }
  | .wait tenant entity id deleted timeoutSeconds =>
    match Endpoint.Client.ofConfig settings.graph with
    | .error _ => { ending := .failed "Failed to initialize graph client" }
    | .ok client => runWait s settings client tenant entity id deleted timeoutSeconds

/-- Runs the program. Without a command it serves. -/
def run (s : Surroundings) (words : List String) : Course :=
  let environment := s.environment.withFile s.files
  match read environment words with
  | .error stop => { ending := .stopped stop }
  | .ok invocation =>
    let loading := Settings.load s.files environment.home? invocation.options invocation.config
    match loading.result with
    | .error failure => { ending := .failed failure.message }
    | .ok settings => runWith s settings (invocation.command.getD .serve)

/-- The paths of the files that a run may look at. -/
def paths (environment : Environment) (files : Files) (words : List String) : List String :=
  let environment := environment.withFile files
  let home := environment.home?
  let named :=
    match read environment words with
    | .ok invocation => invocation.config
    | .error _ => none
  [Environment.fileName, Settings.fileName] ++ (home.map Settings.profilePath).toList
    ++ (named.map (Files.expandHome home)).toList

end TenantSearch.Command
