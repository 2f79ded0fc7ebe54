import TenantSearch.Text.Printable

/-!
# `TenantSearch.Text.Quoted`: strings in messages

A string in a message stands between double quotes. Inside, a double quote and a backslash are
escaped, and so is every character that does not print by itself: four of them have a letter,
the others are written as their code point.
-/

set_option autoImplicit false

namespace TenantSearch.Text

/-- The character as a code point. -/
def codePoint (c : Char) : List Char :=
  ['\\', 'u', '\x7b'] ++ Nat.toDigits 16 c.toNat ++ ['\x7d']

/-- A character between quotes. -/
def quoteChar (c : Char) : List Char :=
  if c = '"' then ['\\', '"']
  else if c = '\\' then ['\\', '\\']
  else if c = '\n' then ['\\', 'n']
  else if c = '\r' then ['\\', 'r']
  else if c = '\t' then ['\\', 't']
  else if c = '\x00' then ['\\', '0']
  else if standsAlone c then [c]
  else codePoint c

/-- The string between quotes. -/
def quoted (s : String) : String :=
  String.ofList ('"' :: s.toList.flatMap quoteChar ++ ['"'])

end TenantSearch.Text
