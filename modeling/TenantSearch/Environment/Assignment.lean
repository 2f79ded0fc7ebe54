import TenantSearch.Text.Alphanumeric
import TenantSearch.Text.Blank

/-!
# `TenantSearch.Environment.Assignment`: the line `NAME=value`

A line gives a value to a variable. The word `export` may stand in front. The value may be
quoted, as a whole or in part. Between single quotes every character stands for itself. Elsewhere
a backslash takes the meaning from some characters, and `$NAME` and `${NAME}` stand for values
that are already known. After a blank outside quotes only a comment may follow.
-/

set_option autoImplicit false

namespace TenantSearch.Environment

/-- Whether a name may begin with the character. -/
def isNameStart (c : Char) : Bool := c.isAlpha || c = '_'

/-- Whether a name may hold the character. -/
def isNameChar (c : Char) : Bool := c.isAlphanum || c = '_' || c = '.'

/-- Where a value stands after some characters. -/
inductive Mode where
  | plain
  /-- Between single quotes. -/
  | single
  /-- Between double quotes. -/
  | double
  /-- After a backslash, between double quotes or not. -/
  | escaped (inDouble : Bool)
  /-- In a name after `$`, read so far in reverse order. -/
  | name (inDouble : Bool) (read : List Char)
  /-- In a name after `${`, read so far in reverse order. -/
  | bracedName (inDouble : Bool) (read : List Char)
  /-- After a blank that ends the value. -/
  | ended
deriving DecidableEq, Repr

/-- The mode between double quotes or outside quotes. -/
def Mode.outside (inDouble : Bool) : Mode := if inDouble then double else plain

/-- The character after a backslash, with what it stands for. -/
def unescaped? (c : Char) : Option Char :=
  if c = 'n' then some '\n'
  else if ['\\', '\'', '"', '$', ' '].contains c then some c
  else none

/-- The value in the characters, with `valueOf` for the values that names stand for. The
characters of the value come in reverse order. -/
def value? (valueOf : String → String) : Mode → List Char → List Char → Option (List Char)
  | mode, done, [] =>
    match mode with
    | .single | .double | .escaped true | .name true _ | .bracedName _ _ => none
    | .name false read => some ((valueOf (String.ofList read.reverse)).toList.reverse ++ done)
    | _ => some done
  | mode, done, c :: rest =>
    match mode with
    | .ended =>
      if c = ' ' || c = '\t' then value? valueOf .ended done rest
      else if c = '#' then some done
      else none
    | .escaped inDouble =>
      match unescaped? c with
      | some c => value? valueOf (.outside inDouble) (c :: done) rest
      | none => none
    | .single =>
      if c = '\'' then value? valueOf .plain done rest
      else value? valueOf .single (c :: done) rest
    | .name inDouble read =>
      if Text.isAlphanumeric c then value? valueOf (.name inDouble (c :: read)) done rest
      else if c = '\x7b' && read.isEmpty then
        value? valueOf (.bracedName inDouble []) done rest
      else
        let done := (valueOf (String.ofList read.reverse)).toList.reverse ++ done
        if c = '$' then value? valueOf (.name inDouble []) done rest
        else value? valueOf (.outside inDouble) (c :: done) rest
    | .bracedName inDouble read =>
      if c = '\x7d' then
        let done := (valueOf (String.ofList read.reverse)).toList.reverse ++ done
        value? valueOf (.outside inDouble) done rest
      else value? valueOf (.bracedName inDouble (c :: read)) done rest
    | .double =>
      if c = '$' then value? valueOf (.name true []) done rest
      else if c = '"' then value? valueOf .plain done rest
      else if c = '\\' then value? valueOf (.escaped true) done rest
      else value? valueOf .double (c :: done) rest
    | .plain =>
      if c = '$' then value? valueOf (.name false []) done rest
      else if c = '\'' then value? valueOf .single done rest
      else if c = '"' then value? valueOf .double done rest
      else if c = '\\' then value? valueOf (.escaped false) done rest
      else if c = ' ' || c = '\t' then value? valueOf .ended done rest
      else value? valueOf .plain (c :: done) rest

/-- What a line says. -/
inductive Line where
  | nothing
  | assignment (name value : String)
deriving DecidableEq, Repr

/-- The name at the front, and what follows it and the blanks after it. -/
def name? (cs : List Char) : Option (String × List Char) :=
  match cs with
  | [] => none
  | c :: _ =>
    if isNameStart c then
      some (String.ofList (cs.takeWhile isNameChar),
        (cs.dropWhile isNameChar).dropWhile Text.isBlank)
    else none

/-- What follows an equals sign at the front and the blanks after it. -/
def afterEquals? : List Char → Option (List Char)
  | '=' :: rest => some (rest.dropWhile Text.isBlank)
  | _ => none

/-- The name and the text of the value. The name `export` is one only if a value follows. -/
def parts? (cs : List Char) : Option (String × List Char) := do
  let (name, rest) ← name? cs
  match afterEquals? rest with
  | some text => some (name, text)
  | none =>
    if name = "export" then do
      let (name, rest) ← name? rest
      let text ← afterEquals? rest
      return (name, text)
    else none

/-- Reads a line. None, when it makes no sense. -/
def Line.read? (valueOf : String → String) (cs : List Char) : Option Line :=
  let cs := (cs.reverse.dropWhile Text.isBlank).reverse.dropWhile Text.isBlank
  if cs.isEmpty || cs.head? = some '#' then some .nothing
  else do
    let (name, text) ← parts? cs
    if text.isEmpty || text.head? = some '#' then return .assignment name ""
    else
      let value ← value? valueOf .plain [] text
      return .assignment name (String.ofList value.reverse)

end TenantSearch.Environment
