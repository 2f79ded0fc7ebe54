import TenantSearch.Json.Basic

/-!
# `TenantSearch.Json.Token`: the tokens of a JSON text

Between strings, a token is a punctuation character or a maximal run of characters that are
neither punctuation nor white space. Such a run is left as it is; the reader decides whether it
is a value.

A string is kept as its code points. An escape `\uXXXX` gives one 16-bit unit, and two units
that form a surrogate pair are joined at the end of the string. A string in which a surrogate
stays alone has no value.
-/

set_option autoImplicit false

namespace TenantSearch.Json

/-- A token of a JSON text. -/
inductive Token where
  | openList
  | closeList
  | openMembers
  | closeMembers
  | comma
  | colon
  /-- A string, with its value when it has one. -/
  | text (value : Option String)
  /-- A run of other characters. -/
  | word (chars : List Char)

namespace Token

/-- White space between tokens. -/
def isSpace (c : Char) : Bool :=
  c = ' ' || c = '\t' || c = '\n' || c = '\r'

/-- The token of a punctuation character. -/
def ofPunctuation? (c : Char) : Option Token :=
  if c = '[' then some openList
  else if c = ']' then some closeList
  else if c = '\x7b' then some openMembers
  else if c = '\x7d' then some closeMembers
  else if c = ',' then some comma
  else if c = ':' then some colon
  else none

/-- The value of a hexadecimal digit of either case. -/
def hexDigit? (c : Char) : Option Nat :=
  if '0' ≤ c ∧ c ≤ '9' then some (c.toNat - '0'.toNat)
  else if 'a' ≤ c ∧ c ≤ 'f' then some (c.toNat - 'a'.toNat + 10)
  else if 'A' ≤ c ∧ c ≤ 'F' then some (c.toNat - 'A'.toNat + 10)
  else none

/-- The character of an escape of one letter. -/
def escaped? (c : Char) : Option Char :=
  if c = '"' ∨ c = '\\' ∨ c = '/' then some c
  else if c = 'b' then some '\x08'
  else if c = 'f' then some '\x0c'
  else if c = 'n' then some '\n'
  else if c = 'r' then some '\r'
  else if c = 't' then some '\t'
  else none

/-- Whether the unit is the first half of a surrogate pair. -/
def isLeading (n : Nat) : Bool := 0xD800 ≤ n && n ≤ 0xDBFF

/-- Whether the unit is the second half of a surrogate pair. -/
def isTrailing (n : Nat) : Bool := 0xDC00 ≤ n && n ≤ 0xDFFF

/-- Joins the surrogate pairs. None, when a surrogate stays alone. -/
def joinPairs? : List Nat → Option (List Char)
  | [] => some []
  | [n] => if isLeading n || isTrailing n then none else some [Char.ofNat n]
  | n :: m :: rest =>
    if isLeading n && isTrailing m then
      (joinPairs? rest).map (Char.ofNat (0x10000 + (n - 0xD800) * 0x400 + (m - 0xDC00)) :: ·)
    else if isLeading n || isTrailing n then none
    else (joinPairs? (m :: rest)).map (Char.ofNat n :: ·)

/-- Where the reading of tokens stands. What was taken is kept with its newest part first. -/
inductive Mode where
  /-- Between two tokens. -/
  | between
  /-- In a run of other characters. -/
  | word (taken : List Char)
  /-- In a string. -/
  | text (taken : List Nat)
  /-- After a backslash in a string. -/
  | escape (taken : List Nat)
  /-- In the digits of an escape, with the value so far and how many digits are missing. -/
  | unit (taken : List Nat) (value missing : Nat)

/-- What one character does between two tokens. -/
def start (done : List Token) (c : Char) : List Token × Mode :=
  match ofPunctuation? c with
  | some t => (t :: done, .between)
  | none =>
    if isSpace c then (done, .between)
    else if c = '"' then (done, .text [])
    else (done, .word [c])

/-- What one character does. None, when a string may not hold it. -/
def step (done : List Token) (mode : Mode) (c : Char) : Option (List Token × Mode) :=
  match mode with
  | .between => some (start done c)
  | .word taken =>
    if (ofPunctuation? c).isSome || isSpace c || c = '"' then
      some (start (.word taken.reverse :: done) c)
    else some (done, .word (c :: taken))
  | .text taken =>
    if c = '"' then
      some (.text ((joinPairs? taken.reverse).map String.ofList) :: done, .between)
    else if c = '\\' then some (done, .escape taken)
    else if c < ' ' then none
    else some (done, .text (c.toNat :: taken))
  | .escape taken =>
    if c = 'u' then some (done, .unit taken 0 4)
    else (escaped? c).map fun e => (done, .text (e.toNat :: taken))
  | .unit taken value missing =>
    (hexDigit? c).map fun d =>
      if missing ≤ 1 then (done, .text ((value * 16 + d) :: taken))
      else (done, .unit taken (value * 16 + d) (missing - 1))

/-- The tokens of the characters, after those `done` before. -/
def scan (done : List Token) (mode : Mode) : List Char → Option (List Token)
  | [] =>
    match mode with
    | .between => some done.reverse
    | .word taken => some (.word taken.reverse :: done).reverse
    | _ => none
  | c :: rest =>
    match step done mode c with
    | some (done, mode) => scan done mode rest
    | none => none

/-- The tokens of a text. None, when a string does not end or holds what it may not. -/
def ofText? (text : String) : Option (List Token) :=
  scan [] .between text.toList

end Token

end TenantSearch.Json
