import TenantSearch.Files
import TenantSearch.Settings.File

/-!
# `TenantSearch.Settings.Load`: settings from files and options

The layers, from the top: what the options say, what the file says that the options name or, if
they name none, the file in the current folder, what the profile in the home folder says, and
the standard values. A file that the options name has to be there, the other two may be missing.
-/

set_option autoImplicit false

namespace TenantSearch.Settings

/-- Why the settings cannot be loaded. -/
inductive Failure where
  | missing (path : String)
  | unreadable (path : String)
  /-- The text of the file makes no sense. -/
  | malformed (path : String)
  | invalid (fault : Fault)
deriving DecidableEq, Repr

/-- The failure in words. -/
def Failure.message : Failure → String
  | missing path => "Config file not found: " ++ path
  | unreadable path => "Failed to read config file: " ++ path
  | malformed path => "Failed to parse config file: " ++ path
  | invalid fault => fault.message

/-- What is told on the way. -/
inductive Warning where
  | unknownMembers (names : List String)
  /-- There is a password but no name that it belongs to. -/
  | passwordIgnored
deriving DecidableEq, Repr

/-- The warning in words. -/
def Warning.message : Warning → String
  | unknownMembers names =>
    "Unknown fields in config file (possible typos) fields=" ++ ", ".intercalate names
  | passwordIgnored => "graph.password is set without graph.username and will be ignored"

/-- The outcome of loading, with what was told on the way. -/
structure Loading (α : Type) where
  result : Except Failure α
  warnings : List Warning := []

/-- One step of loading after another. -/
def Loading.andThen {α β : Type} (x : Loading α) (next : α → Loading β) : Loading β :=
  match x.result with
  | .error e => { result := .error e, warnings := x.warnings }
  | .ok v =>
    let y := next v
    { result := y.result, warnings := x.warnings ++ y.warnings }

/-- The name of settings files. -/
def fileName : String := "crmgraph.json"

/-- Where the profile stands in the home folder. -/
def profilePath (home : String) : String := Files.join (Files.join home ".crmgraph") fileName

/-- Reads what stands at a path. There is no file where nothing stands. -/
def loadFile (files : Files) (path : String) : Loading (Option File) :=
  match files path with
  | .nothing => { result := .ok none }
  | .folder => { result := .error (.unreadable path) }
  | .text content =>
    match File.read? content with
    | none => { result := .error (.malformed path) }
    | some file =>
      { result := .ok (some file)
        warnings := if file.unknown.isEmpty then [] else [.unknownMembers file.unknown.keys] }

/-- Reads the profile. -/
def loadProfile (files : Files) (home : Option String) : Loading (Option File) :=
  match home with
  | some home => loadFile files (profilePath home)
  | none => { result := .ok none }

/-- Reads the file that is `named`, or the one in the current folder. -/
def loadOverlay (files : Files) (home named : Option String) : Loading (Option File) :=
  match named with
  | none => loadFile files fileName
  | some path =>
    let path := Files.expandHome home path
    (loadFile files path).andThen fun file =>
      match file with
      | none => { result := .error (.missing path) }
      | some file => { result := .ok (some file) }

/-- Puts a file on top of what was found before, if there is one. -/
def putFile (file : Option File) (found : File) : File :=
  match file with
  | some file => file.over found
  | none => found

/-- The files in one: the named or local file on top of the profile. -/
def mergeFiles (overlay profile : Option File) : File := putFile overlay (putFile profile {})

/-- The settings that follow from the options and the files, before they are checked. -/
def combine (options : Layer) (overlay profile : Option File) : Settings :=
  ofLayer (options.over (mergeFiles overlay profile).layer)

/-- The settings that follow from the options and the files. -/
def resolve (options : Layer) (overlay profile : Option File) : Except Fault Settings :=
  (combine options overlay profile).check

/-- What is told about settings without a fault. -/
def warnings (s : Settings) : List Warning :=
  if s.graph.password.isSome && s.graph.username.isNone then [.passwordIgnored] else []

/-- Loads the settings. The options are a layer and perhaps the path of a file. -/
def load (files : Files) (home : Option String) (options : Layer) (named : Option String) :
    Loading Settings :=
  (loadProfile files home).andThen fun profile =>
    (loadOverlay files home named).andThen fun overlay =>
      match resolve options overlay profile with
      | .error fault => { result := .error (.invalid fault) }
      | .ok s => { result := .ok s, warnings := s.warnings }

end TenantSearch.Settings
