import TenantSearch.Decimal.Scaled
import TenantSearch.Json.Token

/-!
# `TenantSearch.Json.Reader`: from text to value

The reader runs over the tokens with a stack of the containers that are still open. A text is
read only as a whole: what follows the value may be white space alone.

A container inside more than `maxDepth - 1` others becomes `unusable` when it closes, and so
does an object with a key that has no value.
-/

set_option autoImplicit false

namespace TenantSearch.Json

/-- How many containers may be open at once. -/
def maxDepth : Nat := 127

/-- The value of a run of characters. -/
def ofWord? (chars : List Char) : Option Json :=
  if chars = ['n', 'u', 'l', 'l'] then some null
  else if chars = ['t', 'r', 'u', 'e'] then some (bool true)
  else if chars = ['f', 'a', 'l', 's', 'e'] then some (bool false)
  else
    (Decimal.Literal.read? chars).map fun l =>
      match l.number with
      | .integer n => integer n
      | .float x => float x
      | .tooLarge => unusable

namespace Reader

/-- An open container, with what it holds so far, newest first. -/
inductive Frame where
  | list (items : List Json)
  /-- The second part is the key whose value comes next, the third says whether every key so
  far has a value. -/
  | members (done : List (String × Json)) (key : Option String) (usable : Bool)

/-- What may come next. -/
inductive Awaited where
  | value
  /-- A value, or the end of a list that was just opened. -/
  | valueOrClose
  | key
  /-- A key, or the end of an object that was just opened. -/
  | keyOrClose
  | colon
  | commaOrClose
  /-- Nothing: the text is complete. -/
  | nothing (result : Json)

/-- Where the reading stands. -/
structure State where
  awaited : Awaited := .value
  /-- The open containers, innermost first. -/
  stack : List Frame := []
  /-- How many containers are open. -/
  depth : Nat := 0

/-- Puts a finished value where it belongs. -/
def State.place (s : State) (v : Json) : State :=
  match s.stack with
  | [] => { s with awaited := .nothing v }
  | .list items :: outer =>
    { s with awaited := .commaOrClose, stack := .list (v :: items) :: outer }
  | .members done (some key) usable :: outer =>
    { s with awaited := .commaOrClose, stack := .members ((key, v) :: done) none usable :: outer }
  | .members done none _ :: outer =>
    { s with awaited := .commaOrClose, stack := .members done none false :: outer }

/-- Opens a container. -/
def State.enter (s : State) (frame : Frame) (awaited : Awaited) : State :=
  { awaited, stack := frame :: s.stack, depth := s.depth + 1 }

/-- Closes the innermost container, whose value is `v`. -/
def State.leave (s : State) (outer : List Frame) (v : Json) : State :=
  let kept := if s.depth ≤ maxDepth then v else unusable
  { s with stack := outer, depth := s.depth - 1 }.place kept

/-- Closes a list. -/
def State.leaveList? (s : State) : Option State :=
  match s.stack with
  | .list items :: outer => some (s.leave outer (array items.reverse))
  | _ => none

/-- Closes an object. -/
def State.leaveMembers? (s : State) : Option State :=
  match s.stack with
  | .members done _ usable :: outer =>
    some (s.leave outer (if usable then object done.reverse else unusable))
  | _ => none

/-- A token where a value is awaited. -/
def State.value? (s : State) : Token → Option State
  | .openList => some (s.enter (.list []) .valueOrClose)
  | .openMembers => some (s.enter (.members [] none true) .keyOrClose)
  | .text (some t) => some (s.place (string t))
  | .text none => some (s.place unusable)
  | .word chars => (ofWord? chars).map s.place
  | _ => none

/-- A token where a key is awaited. -/
def State.key? (s : State) : Token → Option State
  | .text key =>
    match s.stack with
    | .members done _ usable :: outer =>
      some { s with awaited := .colon, stack := .members done key usable :: outer }
    | _ => none
  | _ => none

/-- What one token does. None, when it may not stand there. -/
def State.step (s : State) (t : Token) : Option State :=
  match s.awaited, t with
  | .value, t => s.value? t
  | .valueOrClose, .closeList => s.leaveList?
  | .valueOrClose, t => s.value? t
  | .key, t => s.key? t
  | .keyOrClose, .closeMembers => s.leaveMembers?
  | .keyOrClose, t => s.key? t
  | .colon, .colon => some { s with awaited := .value }
  | .commaOrClose, .closeList => s.leaveList?
  | .commaOrClose, .closeMembers => s.leaveMembers?
  | .commaOrClose, .comma =>
    match s.stack with
    | .list _ :: _ => some { s with awaited := .value }
    | .members .. :: _ => some { s with awaited := .key }
    | [] => none
  | _, _ => none

/-- Runs over the tokens. -/
def run (s : State) : List Token → Option Json
  | [] =>
    match s.awaited with
    | .nothing v => some v
    | _ => none
  | t :: rest =>
    match s.step t with
    | some s => run s rest
    | none => none

end Reader

/-- The value of a JSON text. None, when the text is not well formed. -/
def read? (text : String) : Option Json := do
  let tokens ← Token.ofText? text
  Reader.run {} tokens

end TenantSearch.Json
