import TenantSearch.Command.Switch
import TenantSearch.Environment.Basic
import TenantSearch.Text.Split

/-!
# `TenantSearch.Command.Line`: reading the command line

A command line is read word by word. A word with dashes in front is a switch, or a cluster of
short ones. The value of a switch is the next word, unless that is a switch, or stands in the same
word. Every other word is an argument, or the name of a command, which ends the level. After the
word `--` all words are arguments.

A value is looked at when the next switch or argument comes, or the line ends. So a help switch
before a value that makes no sense is heard, and one behind it is not.
-/

set_option autoImplicit false

namespace TenantSearch.Command

/-- Why the reading of a command line stops. -/
inductive Stop where
  /-- The line makes no sense. -/
  | usage
  | help
  | version
deriving DecidableEq, Repr

/-- What can stand on one level of the command line. -/
structure Level where
  switches : List Switch
  /-- The places of the arguments, in order. -/
  arguments : List Place := []
  /-- The names that end the level. -/
  commands : List String := []

/-- What was read last and not yet looked at. -/
inductive Pending where
  | nothing
  /-- A switch whose value has not come yet. -/
  | awaiting (place : Place)
  | value (place : Place) (text : String)

/-- Where the reading stands. -/
structure State where
  given : Given := {}
  pending : Pending := .nothing
  /-- The places of the arguments that have not come yet. -/
  arguments : List Place
  /-- Whether all words are arguments from now on. -/
  trailing : Bool := false

/-- Something that has to be there. -/
def orUsage {α : Type} : Option α → Except Stop α
  | some v => .ok v
  | none => .error .usage

namespace State

/-- Looks at what was read last. -/
def settle (s : State) : Except Stop State :=
  match s.pending with
  | .nothing => .ok s
  | .awaiting _ => .error .usage
  | .value place text => do
    let given ← orUsage (place.fill? text s.given)
    return { s with given, pending := .nothing }

/-- Fills a place at once. -/
def fill (s : State) (place : Place) (text : String) : Except Stop State := do
  let given ← orUsage (place.fill? text s.given)
  return { s with given }

/-- A switch, with the value in the same word if there is one. -/
def switch (s : State) (effect : Effect) (attached : Option String) : Except Stop State := do
  match effect, attached with
  | .help, none =>
    let _ ← s.settle
    .error .help
  | .version, none =>
    let _ ← s.settle
    .error .version
  | .flag place, none => (← s.settle).fill place "true"
  | .value place, none => return { ← s.settle with pending := .awaiting place }
  | .value place, some text => (← s.settle).fill place text
  | _, some _ => .error .usage

/-- A word that is an argument. -/
def argument (s : State) (word : String) : Except Stop State := do
  match s.arguments with
  | place :: rest =>
    return { ← s.settle with pending := .value place word, arguments := rest }
  | [] => .error .usage

/-- A word that begins with two dashes, without them. -/
def long (level : Level) (s : State) (word : List Char) : Except Stop State := do
  let name := String.ofList (word.takeWhile (· ≠ '='))
  let attached :=
    match word.dropWhile (· ≠ '=') with
    | _ :: value => some (String.ofList value)
    | [] => none
  let found ← orUsage (level.switches.find? (·.long = name))
  s.switch found.effect attached

/-- A word that begins with one dash, without it. A switch with a value takes what is left of the
word, where an equals sign may come first. -/
def cluster (level : Level) (s : State) : List Char → Except Stop State
  | [] => .ok s
  | c :: rest => do
    let found ← orUsage (level.switches.find? (·.short = some c))
    match found.effect, rest with
    | .value _, '=' :: value => s.switch found.effect (some (String.ofList value))
    | .value _, _ :: _ => s.switch found.effect (some (String.ofList rest))
    | _, _ => cluster level (← s.switch found.effect none) rest

/-- Whether the next word may be the name of a command. -/
def isOpen (s : State) : Bool :=
  !s.trailing &&
    match s.pending with
    | .awaiting _ => false
    | _ => true

/-- Reads a word that is no name of a command. -/
def step (level : Level) (s : State) (word : String) : Except Stop State :=
  if s.trailing then s.argument word
  else
    match word.toList with
    | ['-', '-'] => .ok { s with trailing := true }
    | '-' :: '-' :: rest => s.long level rest
    | '-' :: c :: rest => s.cluster level (c :: rest)
    | _ =>
      match s.pending with
      | .awaiting place => .ok { s with pending := .value place word }
      | _ => s.argument word

/-- Reads words up to the end or to the name of a command. In the second case that name and the
words behind it are left. -/
def scan (level : Level) : State → List String → Except Stop (State × List String)
  | s, [] => .ok (s, [])
  | s, word :: rest =>
    if s.isOpen && level.commands.contains word then .ok (s, word :: rest)
    else
      match s.step level word with
      | .ok s => scan level s rest
      | .error stop => .error stop

end State

/-- Whether the variable of a switch, where it counts, holds a value that makes sense. It counts
when the switch itself was not given. -/
def Switch.isSound (env : Environment) (given : Given) (s : Switch) : Bool :=
  match s.place?, s.variableName.bind env.get? with
  | some place, some text => place.isTaken given || (place.put? text given).isSome
  | _, _ => true

/-- What was given on the level, once all words are read. -/
def State.finish (level : Level) (env : Environment) (s : State) :
    Except Stop Given := do
  let s ← s.settle
  if level.switches.all (·.isSound env s.given) then return s.given
  else .error .usage

/-- What the variables say, as far as it makes sense. -/
def ofVariables (switches : List Switch) (env : Environment) : Given :=
  switches.foldl
    (fun given s =>
      match s.place?, s.variableName.bind env.get? with
      | some place, some text => (place.fill? text given).getD given
      | _, _ => given)
    {}

end TenantSearch.Command
