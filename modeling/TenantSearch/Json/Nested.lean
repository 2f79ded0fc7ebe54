import TenantSearch.Json.Record

/-!
# `TenantSearch.Json.Nested`: records that hold records of their own kind

Such a record is read from the leaves up. `Nested.view` reads each JSON value in both ways in
which a record around it could need it: as one record and as a list of them. A record then only
picks from the views of its members. So the recursion goes through the JSON value alone, and a
kind of record says only what its fields are and what it makes of their slots.
-/

set_option autoImplicit false

namespace TenantSearch.Json

/-- A JSON value with what it is as one record and as a list of records. -/
structure View (β : Type) where
  json : Json
  one : Option β
  many : Option (List β)

namespace View

variable {β γ : Type}

/-- Whether the value is `null`. -/
def isNull (v : View β) : Bool := v.json.isNull

/-- A slot that may be absent or `null`. -/
def optional? (read : View β → Option γ) (slot : Option (View β)) : Option (Option γ) :=
  Record.optional? isNull read slot

/-- A slot that may be absent or `null` and holds nothing nested. -/
def plain? (read : Json → Option γ) (slot : Option (View β)) : Option (Option γ) :=
  optional? (fun v => read v.json) slot

end View

/-- A kind of record whose slots may hold records of the same kind. -/
structure Nested (β : Type) where
  fields : List Field
  /-- The record with these slots. -/
  ofSlots? : List (Option (View β)) → Option β

namespace Nested

variable {β : Type} (kind : Nested β)

mutual

/-- What a JSON value is as a record of this kind. -/
def view : Json → View β
  | .object members =>
    { json := .object members
      one := (Record.named? kind.fields (memberViews members)).bind kind.ofSlots?
      many := none }
  | .array items =>
    let views := itemViews items
    { json := .array items
      one := (Record.positional? kind.fields views).bind kind.ofSlots?
      many := views.mapM View.one }
  | j => { json := j, one := none, many := none }

/-- The views of the items of a list. -/
def itemViews : List Json → List (View β)
  | [] => []
  | j :: rest => view j :: itemViews rest

/-- The views of the members of an object. -/
def memberViews : List (String × Json) → List (String × View β)
  | [] => []
  | (key, j) :: rest => (key, view j) :: memberViews rest

end

/-- Reads a record. -/
def read? (j : Json) : Option β := (kind.view j).one

end Nested

end TenantSearch.Json
