import TenantSearch.Json.Basic

/-!
# `TenantSearch.Json.Record`: records in JSON

A record has two written forms. The named form is an object. Each field may stand there once,
under its name or an alias, in any order, and other keys are skipped. The positional form is a
list of the fields in their declared order. It may stop early before fields that can be left
out, and it holds nothing else.

`named?` and `positional?` sort what is written into one slot for each declared field. What the
slots mean is up to the record: `required?`, `withDefault?` and `optional?` read one slot. The
slots are polymorphic, so a record whose fields are records of the same kind can be read from
parts that were read before.
-/

set_option autoImplicit false

namespace TenantSearch.Json

/-- A declared field. -/
structure Field where
  name : String
  aliases : List String := []
  /-- Whether the positional form may stop before the field. -/
  omissible : Bool := false

/-- Whether `key` names the field. -/
def Field.hasKey (f : Field) (key : String) : Bool :=
  key = f.name || f.aliases.contains key

namespace Record

variable {α β : Type}

/-- What the members hold for the field. None, when the field stands there more than once. -/
def slot? (members : Members α) (f : Field) : Option (Option α) :=
  match members.filter fun m => f.hasKey m.1 with
  | [] => some none
  | [m] => some (some m.2)
  | _ => none

/-- The slots of the named form. -/
def named? (fields : List Field) (members : Members α) : Option (List (Option α)) :=
  fields.mapM (slot? members)

/-- The slots of the positional form. -/
def positional? : List Field → List α → Option (List (Option α))
  | [], [] => some []
  | [], _ :: _ => none
  | f :: fs, [] => if f.omissible then (positional? fs []).map (none :: ·) else none
  | _ :: fs, v :: vs => (positional? fs vs).map (some v :: ·)

/-- A field that has to be there. -/
def required? (read : α → Option β) : Option α → Option β
  | some v => read v
  | none => none

/-- A field with a default. It may be absent, but not `null`. -/
def withDefault? (default : β) (read : α → Option β) : Option α → Option β
  | some v => read v
  | none => some default

/-- A field without a default that may be absent or `null`. -/
def optional? (isNull : α → Bool) (read : α → Option β) : Option α → Option (Option β)
  | some v => if isNull v then some none else (read v).map some
  | none => some none

end Record

/-- The slots of a record in either form. -/
def slots? (fields : List Field) : Json → Option (List (Option Json))
  | object members => Record.named? fields members
  | array items => Record.positional? fields items
  | _ => none

/-- A slot that may be absent or `null`. -/
def optionalSlot? {β : Type} (read : Json → Option β) (slot : Option Json) :
    Option (Option β) :=
  Record.optional? isNull read slot

/-- One of several names, written as a string or as the key of an object that holds `null`. -/
def name? {β : Type} (values : Members β) : Json → Option β
  | string s => values.get? s
  | object [(key, null)] => values.get? key
  | _ => none

/-- The members that are there. -/
def objectOf (members : List (String × Option Json)) : Json :=
  object (members.filterMap fun (key, v) => v.map (key, ·))

end TenantSearch.Json
