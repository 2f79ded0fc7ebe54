import TenantSearch.Command.Line

/-!
# `TenantSearch.Command`: what the program is asked to do

A command line asks for a command or for none, and may say something about the settings. What
stands behind the name of the command goes before what stands in front of it, and both go before
the variables of the environment.
-/

set_option autoImplicit false

namespace TenantSearch

/-- What the program can do. -/
inductive Command where
  /-- Answers requests over the network. -/
  | serve
  /-- Shows the statements of a search. -/
  | compile (tenant : String) (entity : Entity) (request : String)
  /-- Waits for a node to appear, or to disappear. -/
  | wait (tenant : String) (entity : Entity) (id : String) (deleted : Bool)
      (timeoutSeconds : Option UInt64)
deriving DecidableEq

namespace Command

/-- What a command line asks for. -/
structure Invocation where
  command : Option Command
  /-- What is said about the settings. -/
  layer : Settings.Layer
  /-- The file with settings. -/
  config : Option String

/-- The switches on every level. -/
def common : List Switch := helpSwitch :: globals

/-- The name that asks for help about a command. -/
def helpName : String := "help"

/-- The level of a command. -/
def level? : String → Option Level
  | "serve" => some { switches := common }
  | "compile" =>
    some { switches := tenantSwitch :: common, arguments := [entityPlace, requestPlace] }
  | "wait" =>
    some
      { switches := tenantSwitch :: deletedSwitch :: timeoutSwitch :: common
        arguments := [entityPlace, idPlace] }
  | _ => none

/-- The names of the commands. -/
def names : List String := ["serve", "compile", "wait", helpName]

/-- The level in front of the name of a command. -/
def topLevel : Level := { switches := versionSwitch :: common, commands := names }

/-- The command with what was given to it. None, when something is missing. -/
def ofGiven? (name : String) (g : Given) : Option Command :=
  match name with
  | "serve" => some serve
  | "compile" => do
    return compile (← g.tenant) (← g.entity) (g.request.getD "\x7b\x7d")
  | "wait" => do
    return wait (← g.tenant) (← g.entity) (← g.id) (g.deleted.getD false) g.timeoutSeconds
  | _ => none

/-- Reads the words behind the name of a command. -/
def readCommand (env : Environment) (name : String) (words : List String) :
    Except Stop (Command × Given) := do
  let level ← orUsage (level? name)
  let (s, _) ← State.scan level { arguments := level.arguments } words
  let given ← s.finish level env
  let command ← orUsage (ofGiven? name given)
  return (command, given)

/-- Why the reading stops where help is asked for: there is help about one command at a time. -/
def helpOn : List String → Stop
  | [] => .help
  | [name] => if names.contains name then .help else .usage
  | _ => .usage

/-- Reads a command line. -/
def read (env : Environment) (words : List String) : Except Stop Invocation := do
  let (s, rest) ← State.scan topLevel { arguments := topLevel.arguments } words
  let ofEnvironment := ofVariables globals env
  match rest with
  | [] =>
    let given ← s.finish topLevel env
    return {
      command := none
      layer := given.layer.over ofEnvironment.layer
      config := given.config.or ofEnvironment.config }
  | name :: words =>
    if name = helpName then .error (helpOn words)
    else
      let (command, behind) ← readCommand env name words
      let front ← s.finish topLevel env
      return {
        command := some command
        layer := behind.layer.over (front.layer.over ofEnvironment.layer)
        config := (behind.config.or front.config).or ofEnvironment.config }

/-- Whether the command line turns on the output for debugging. -/
def Invocation.debug (i : Invocation) : Bool := i.layer.debug = some true

/-- What the command line says about the settings. It can turn the output for debugging on, but
not off. -/
def Invocation.options (i : Invocation) : Settings.Layer :=
  { i.layer with debug := if i.debug then some true else none }

end Command

end TenantSearch
