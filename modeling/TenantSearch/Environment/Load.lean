import TenantSearch.Environment.Assignment
import TenantSearch.Environment.Basic
import TenantSearch.Environment.Lines
import TenantSearch.Files

/-!
# `TenantSearch.Environment.Load`: variables from a file

A file in the current folder may add variables to the environment, line by line, but never
changes the value of a variable that is set. The first line that makes
no sense ends the file, and the lines before it count.
-/

set_option autoImplicit false

namespace TenantSearch

namespace Environment

/-- The value that a name stands for in a file. Variables that are set go before what the file
says, and a name without a value stands for nothing. -/
def valueOf (env stored : Environment) (name : String) : String :=
  ((env.get? name).or (stored.get? name)).getD ""

/-- The variables after the lines, where `stored` is what earlier lines say. -/
def withLines (env stored : Environment) : List (List Char) → Environment
  | [] => env
  | line :: rest =>
    match Line.read? (valueOf env stored) line with
    | none => env
    | some .nothing => withLines env stored rest
    | some (.assignment name value) =>
      let env := if (env.get? name).isSome then env else env.put name value
      withLines env (stored.put name value) rest

/-- The name of the file with variables. -/
def fileName : String := ".env"

/-- The variables with those from the file in the current folder. -/
def withFile (env : Environment) (files : Files) : Environment :=
  match files fileName with
  | .text content => withLines env [] (lines content)
  | _ => env

/-- The longest runs of characters of a class. -/
def runs (inside : Char → Bool) : List Char → List (List Char)
  | [] => [[]]
  | c :: rest =>
    match runs inside rest with
    | run :: others => if inside c then (c :: run) :: others else [] :: run :: others
    | [] => []

/-- The names of variables that the text of a file may ask for. -/
def namesIn (content : String) : List String :=
  let cs := content.toList
  ((runs isNameChar cs ++ runs Text.isAlphanumeric cs).map String.ofList).filter (!·.isEmpty)

end Environment

end TenantSearch
