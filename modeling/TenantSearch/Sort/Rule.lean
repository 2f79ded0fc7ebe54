import TenantSearch.Json.Record

/-!
# `TenantSearch.Sort.Rule`: the sort rules of a request

A request lists its rules in order of precedence. A rule names a property, and may name a
direction and whether case matters.
-/

set_option autoImplicit false

namespace TenantSearch.Sort

/-- The direction of an order. -/
inductive Direction where
  | ascending
  | descending
deriving DecidableEq, Repr, Inhabited

namespace Direction

/-- The word in requests and in statements. -/
def word : Direction → String
  | ascending => "ASC"
  | descending => "DESC"

/-- Reads a direction. -/
def ofJson? : Json → Option Direction :=
  Json.name? [("ASC", ascending), ("DESC", descending)]

/-- Writes a direction. -/
def toJson (d : Direction) : Json := .string d.word

/-- A direction is read back from its name. -/
theorem ofJson?_toJson (d : Direction) : ofJson? d.toJson = some d := by
  cases d <;> rfl

end Direction

/-- One rule of an order. -/
structure Rule where
  /-- The name of the property. -/
  property : String
  direction : Direction := .ascending
  /-- Whether case matters. -/
  caseSensitive : Option Bool := none
deriving DecidableEq

namespace Rule

/-- The members of a rule. -/
def fields : List Json.Field :=
  [{ name := "by" }, { name := "direction", omissible := true },
   { name := "caseSensitive", omissible := true }]

/-- The rule with these slots. -/
def ofSlots? : List (Option Json) → Option Rule
  | [property, direction, caseSensitive] => do
    let property ← Json.Record.required? Json.string? property
    let direction ← Json.Record.withDefault? .ascending Direction.ofJson? direction
    let caseSensitive ← Json.optionalSlot? Json.bool? caseSensitive
    return { property, direction, caseSensitive }
  | _ => none

/-- Reads a rule. -/
def ofJson? (j : Json) : Option Rule := (Json.slots? fields j).bind ofSlots?

/-- Reads a list of rules. -/
def listOfJson? (j : Json) : Option (List Rule) := j.items?.bind fun items => items.mapM ofJson?

/-- Writes a rule. -/
def toJson (r : Rule) : Json :=
  Json.objectOf
    [("by", some (.string r.property)), ("direction", some r.direction.toJson),
     ("caseSensitive", r.caseSensitive.map .bool)]

end Rule

end TenantSearch.Sort
