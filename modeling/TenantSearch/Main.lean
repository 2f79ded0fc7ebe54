import TenantSearch.Command.Run

/-!
# `TenantSearch.Main`: the program

The program asks for the variables and the files that a run looks at, runs its command line and
prints what comes of it. The replies of the graph store are read from the standard input: each
line is a JSON object with a status and a body, and when the input ends there is no connection.
-/

set_option autoImplicit false

namespace TenantSearch.Main

/-- What stands at a path. -/
def entryAt (path : String) : IO Entry := do
  try
    return .text (← IO.FS.readFile path)
  catch
    | .noFileOrDirectory .. => return .nothing
    | _ => return .folder

/-- The variables that are set, of those with the given names. -/
def environmentOf (names : List String) : IO Environment := do
  let mut found : Environment := []
  for name in names do
    if let some value ← IO.getEnv name then
      found := found.put name value
  return found

/-- The names of the variables that a run asks for. -/
def namesOf (file : Entry) : List String :=
  let inFile := match file with
    | .text content => Environment.namesIn content
    | _ => []
  "HOME" :: Command.globals.filterMap (·.variableName) ++ inFile

/-- The reply on a line of the input. -/
def replyOf (line : String) : Endpoint.Reply :=
  match Json.read? line with
  | some (.object members) =>
    let status := ((Members.get? members "status").bind Json.integer?).getD 200
    let body := ((Members.get? members "body").bind Json.string?).getD ""
    .answered status.toNat (.ok body)
  | _ => .lost .broken

/-- The lines of the standard input. -/
partial def inputLines (input : IO.FS.Stream) : IO (List String) := do
  let line ← input.getLine
  if line.isEmpty then return []
  else return line :: (← inputLines input)

/-- The files at the paths. -/
def filesAt (paths : List String) : IO Files := do
  let entries ← paths.mapM fun path => do return (path, ← entryAt path)
  return fun path => (entries.lookup path).getD .nothing

/-- Whether the command line asks for the graph store. -/
def needsStore (environment : Environment) (words : List String) : Bool :=
  match Command.read environment words with
  | .ok { command := some (.wait ..), .. } => true
  | _ => false

/-- Prints what came of a run. -/
def report (ending : Command.Ending) : IO Unit := do
  match ending with
  | .done output => IO.print output
  | .failed message => IO.eprint (Command.failureText message)
  | .stopped .version => IO.print Command.versionText
  | .stopped .help => IO.print Command.usageText
  | .stopped .usage => IO.eprint Command.usageText
  | .brokenOff message => IO.eprint (Command.brokenOffText message)

/-- Runs the program. -/
def run (words : List String) : IO UInt32 := do
  let first ← filesAt [Environment.fileName]
  let environment ← environmentOf (namesOf (first Environment.fileName))
  let files ← filesAt (Command.paths environment first words)
  let replies ←
    if needsStore (environment.withFile files) words then
      (·.map replyOf) <$> inputLines (← IO.getStdin)
    else pure []
  let course := Command.run
    { environment, files, transport := .ofReplies replies } words
  report course.ending
  return UInt32.ofNat course.ending.status

end TenantSearch.Main

/-- Runs the program with the words of its command line. -/
def main (words : List String) : IO UInt32 := TenantSearch.Main.run words
