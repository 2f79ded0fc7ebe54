/-!
# `TenantSearch.Http.MediaType`: what a body is said to be

A media type is a type and a subtype, and may have parameters. The subtype may end in a suffix
after a plus sign. A body counts as JSON when its type is `application` and its subtype or its
suffix is `json`, in any case of letters.
-/

set_option autoImplicit false

namespace TenantSearch.Http.MediaType

/-- Whether a name may hold the character. -/
def isToken (c : Char) : Bool :=
  c.isAlphanum || "!#$%&'*+-.^_\x60|~".toList.contains c

/-- Whether a quoted value may hold the character. -/
def isQuotable (c : Char) : Bool := ' ' ≤ c && c ≠ '\x7f'

/-- Where the reading of parameters stands. -/
inductive Mode where
  /-- Before a name. -/
  | start
  | name
  /-- After the equals sign. -/
  | equals
  | value
  /-- In a quoted value, which may still be empty. -/
  | quoted (empty : Bool)
  /-- After a quoted value. -/
  | closed

/-- What one character does. -/
def Mode.step : Mode → Char → Option Mode
  | start, c => if c = ' ' then some start else if isToken c then some name else none
  | name, c => if c = '=' then some equals else if isToken c then some name else none
  | equals, c =>
    if c = '"' then some (quoted true) else if isToken c then some value else none
  | value, c => if c = ';' then some start else if isToken c then some value else none
  | quoted empty, c =>
    if c = '"' ∧ ¬ empty then some closed
    else if isQuotable c then some (quoted false)
    else none
  | closed, c => if c = ';' then some start else if c = ' ' then some closed else none

/-- Whether the parameters may end here. -/
def Mode.isFinal : Mode → Bool
  | name | quoted _ => false
  | _ => true

/-- Whether the characters are parameters. -/
def areParameters (mode : Mode) : List Char → Bool
  | [] => mode.isFinal
  | c :: rest =>
    match mode.step c with
    | some mode => areParameters mode rest
    | none => false

/-- The parts of a subtype: what stands before the last plus sign and what follows it. A plus
sign at the front parts nothing. -/
def parts (subtype : List Char) : List Char × Option (List Char) :=
  match subtype with
  | [] => ([], none)
  | first :: rest =>
    let tail := rest.reverse.takeWhile (· ≠ '+')
    if tail.length = rest.length then (subtype, none)
    else (first :: rest.take (rest.length - tail.length - 1), some tail.reverse)

/-- The characters in lower case. -/
def lower (cs : List Char) : List Char := cs.map Char.toLower

/-- Whether the media type says that the body is JSON. -/
def isJson (text : String) : Bool :=
  let cs := text.toList
  let kind := cs.takeWhile (· ≠ '/')
  match cs.drop kind.length with
  | [] => false
  | _ :: rest =>
    let subtype := rest.takeWhile fun c => c ≠ ';' && c ≠ ' '
    let parameters := (rest.drop subtype.length).drop 1
    let (plain, suffix) := parts (lower subtype)
    cs.all (fun c => ' ' ≤ c && c < '\x7f' || c = '\t')
      && kind.all isToken && !subtype.isEmpty && subtype.all isToken
      && areParameters .start parameters
      && lower kind = "application".toList
      && (plain = "json".toList || suffix = some "json".toList)

end TenantSearch.Http.MediaType
