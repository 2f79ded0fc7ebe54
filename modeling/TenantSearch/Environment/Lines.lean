import TenantSearch.Text.Blank

/-!
# `TenantSearch.Environment.Lines`: lines of a file of variables

A line of such a file may run over several lines of text: quotes that are open at the end of a
line of text go on in the next one, and so does a blank at its very end. A comment begins with
`#` after a blank and reaches to the end of the line of text.
-/

set_option autoImplicit false

namespace TenantSearch.Environment

/-- Where a line stands after some characters. -/
inductive Position where
  /-- Outside quotes. -/
  | plain
  /-- After a blank outside quotes. -/
  | blank
  /-- After a backslash outside quotes. -/
  | escaped
  /-- Between single quotes, or there after a backslash. -/
  | single (escaped : Bool)
  /-- Between double quotes, or there after a backslash. -/
  | double (escaped : Bool)
  | comment
deriving DecidableEq, Repr

/-- A character outside quotes that is no blank. -/
def Position.opening (c : Char) : Position :=
  if c = '\\' then escaped
  else if c = '"' then double false
  else if c = '\'' then single false
  else plain

/-- The position after one more character. -/
def Position.after (p : Position) (c : Char) : Position :=
  match p with
  | plain => if Text.isBlank c && c ≠ '\n' && c ≠ '\r' then blank else opening c
  | blank => if c = '#' then comment else opening c
  | escaped => plain
  | single true => single false
  | single false =>
    if c = '\\' then single true else if c = '\'' then plain else single false
  | double true => double false
  | double false =>
    if c = '\\' then double true else if c = '"' then plain else double false
  | comment => comment

/-- The characters before a comment, and the position after them. -/
def uncommented (p : Position) : List Char → List Char × Position
  | [] => ([], p)
  | c :: rest =>
    match p.after c with
    | .comment => ([], .comment)
    | next =>
      let (kept, last) := uncommented next rest
      (c :: kept, last)

/-- The lines of a text, each with the character that ends it. -/
def textLines : List Char → List (List Char)
  | [] => []
  | c :: rest =>
    if c = '\n' then [c] :: textLines rest
    else
      match textLines rest with
      | line :: lines => (c :: line) :: lines
      | [] => [[c]]

/-- A line without what ends it. -/
def withoutEnd (cs : List Char) : List Char :=
  match cs.reverse with
  | '\n' :: '\r' :: rest => rest.reverse
  | '\n' :: rest => rest.reverse
  | _ => cs

/-- Whether the line is a comment as a whole. -/
def isComment (cs : List Char) : Bool := (cs.dropWhile Text.isBlank).head? = some '#'

/-- The lines up to the first that makes no sense. `read` is what the line holds so far. -/
def linesFrom (read : List Char) (p : Position) : List (List Char) → List (List Char)
  | [] => []
  | text :: rest =>
    if isComment (read ++ text) then linesFrom [] .plain rest
    else
      match uncommented p text with
      | (kept, .comment) => (read ++ kept) :: linesFrom [] .plain rest
      | (kept, .plain) => withoutEnd (read ++ kept) :: linesFrom [] .plain rest
      | (kept, next) => linesFrom (read ++ kept) next rest

/-- The lines of a file. What is still open at its end is no line. -/
def lines (content : String) : List (List Char) :=
  let cs := content.toList
  let marked := cs.head? = some '\uFEFF'
  linesFrom [] .plain (textLines (if marked then cs.drop 1 else cs))

end TenantSearch.Environment
