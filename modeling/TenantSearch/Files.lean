import TenantSearch.Text.Split

/-!
# `TenantSearch.Files`: what stands at a path

A program sees files through their paths. `Files` says what stands at each one. A path that
begins with a slash starts at the root, every other one in the current folder.
-/

set_option autoImplicit false

namespace TenantSearch

/-- What stands at a path. -/
inductive Entry where
  | nothing
  | folder
  | text (content : String)
deriving DecidableEq, Repr

/-- What stands at each path. -/
abbrev Files := String → Entry

namespace Files

/-- The parts of a path that count. -/
def isStep (part : String) : Bool := part ≠ "" && part ≠ "."

/-- The path inside the home folder, for a path that begins with `~` as its first part. The
parts at its ends that do not count are dropped. -/
def insideHome? (path : String) : Option String :=
  match Text.split '/' path with
  | "~" :: rest =>
    let kept := rest.dropWhile (!isStep ·)
    some ("/".intercalate (kept.reverse.dropWhile (!isStep ·)).reverse)
  | _ => none

/-- A path inside a folder. -/
def join (folder path : String) : String :=
  if folder.endsWith "/" then folder ++ path else folder ++ "/" ++ path

/-- The path with `~` replaced by the home folder, where there is one. -/
def expandHome (home : Option String) (path : String) : String :=
  match home, insideHome? path with
  | some home, some rest => join home rest
  | _, _ => path

end Files

end TenantSearch
