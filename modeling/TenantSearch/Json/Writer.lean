import TenantSearch.Decimal.Shortest
import TenantSearch.Json.Basic

/-!
# `TenantSearch.Json.Writer`: from value to text

Members are written in their order. `text` writes no white space, `pretty` puts each item on a
line of its own and indents it by two spaces for each container around it.
-/

set_option autoImplicit false

namespace TenantSearch.Json

/-- Floats are written without an exponent when the exponent of their first digit is between
-5 and 15. -/
def floatLayout : Decimal.Layout := ⟨-5, 15⟩

/-- The float as a value: what is not finite has no number in JSON and becomes `null`. -/
def ofFloat (x : Float) : Json :=
  if x.isFinite then float x else null

/-- A hexadecimal digit. -/
def hexDigit (n : Nat) : Char := Nat.digitChar n

/-- A character inside a string. -/
def escape (c : Char) : List Char :=
  if c = '"' then ['\\', '"']
  else if c = '\\' then ['\\', '\\']
  else if c = '\x08' then ['\\', 'b']
  else if c = '\x0c' then ['\\', 'f']
  else if c = '\n' then ['\\', 'n']
  else if c = '\r' then ['\\', 'r']
  else if c = '\t' then ['\\', 't']
  else if c < ' ' then ['\\', 'u', '0', '0', hexDigit (c.toNat / 16), hexDigit (c.toNat % 16)]
  else [c]

/-- A string between quotes. -/
def quote (s : String) : String :=
  String.ofList ('"' :: s.toList.flatMap escape ++ ['"'])

/-- The text of a value that holds no other values. -/
def scalarText : Json → String
  | bool true => "true"
  | bool false => "false"
  | integer n => toString n
  | float x => floatLayout.float x
  | string s => quote s
  | _ => "null"

mutual

/-- The text of a value. -/
def text : Json → String
  | array items => "[" ++ ",".intercalate (itemTexts items) ++ "]"
  | object members => "\x7b" ++ ",".intercalate (memberTexts members) ++ "\x7d"
  | j => j.scalarText

/-- The texts of the items of a list. -/
def itemTexts : List Json → List String
  | [] => []
  | j :: rest => text j :: itemTexts rest

/-- The texts of the members of an object. -/
def memberTexts : List (String × Json) → List String
  | [] => []
  | (key, j) :: rest => (quote key ++ ":" ++ text j) :: memberTexts rest

end

/-- A line break and the indentation of the given depth. -/
def newline (depth : Nat) : String :=
  String.ofList ('\n' :: List.replicate (2 * depth) ' ')

/-- The parts of a container, each on a line of its own. -/
def block (first last : String) (depth : Nat) (parts : List String) : String :=
  if parts.isEmpty then first ++ last
  else
    first ++ newline (depth + 1) ++ ("," ++ newline (depth + 1)).intercalate parts
      ++ newline depth ++ last

mutual

/-- The text of a value over several lines, inside `depth` containers. -/
def prettyAt (depth : Nat) : Json → String
  | array items => block "[" "]" depth (prettyItems (depth + 1) items)
  | object members => block "\x7b" "\x7d" depth (prettyMembers (depth + 1) members)
  | j => j.scalarText

/-- The texts of the items of a list over several lines. -/
def prettyItems (depth : Nat) : List Json → List String
  | [] => []
  | j :: rest => prettyAt depth j :: prettyItems depth rest

/-- The texts of the members of an object over several lines. -/
def prettyMembers (depth : Nat) : List (String × Json) → List String
  | [] => []
  | (key, j) :: rest => (quote key ++ ": " ++ prettyAt depth j) :: prettyMembers depth rest

end

/-- The text of a value over several lines. -/
def pretty (j : Json) : String := prettyAt 0 j

end TenantSearch.Json
