import TenantSearch.Filter.Basic
import TenantSearch.Json.Nested

/-!
# `TenantSearch.Filter.Codec`: filters in JSON

Filters hold filters, and written values hold lists of written values. Both are nested records
(`Json.Nested`), so what is said here of each is its fields and what it makes of their slots.

Every reader takes both forms of a record. The groups and the negation have a name in capitals
and an alias in small letters.
-/

set_option autoImplicit false

namespace TenantSearch.Filter

open TenantSearch.Time (Timestamp)

/-- The float nearest to an integer of 64 bits. -/
def floatOfInt (n : Int) : Float :=
  if 0 ≤ n then n.toNat.toUInt64.toFloat else -(n.natAbs.toUInt64.toFloat)

/-- Reads a float. Integers are taken too. -/
def readFloat? : Json → Option Float
  | .float x => some x
  | .integer n => some (floatOfInt n)
  | _ => none

/-- Reads an integer of 64 bits. -/
def readInt? (j : Json) : Option Int64 := j.integer?.bind Word.ofInt?

/-- Reads a moment. -/
def readTime? (j : Json) : Option Timestamp := j.string?.bind Timestamp.read?

namespace WrittenValue

/-- The members of a written value. -/
def fields : List Json.Field :=
  [{ name := "str", omissible := true }, { name := "int", omissible := true },
   { name := "float", omissible := true }, { name := "bool", omissible := true },
   { name := "time", omissible := true }, { name := "array", omissible := true }]

/-- The written value with these slots. -/
def ofSlots? : List (Option (Json.View WrittenValue)) → Option WrittenValue
  | [str, int, float, bool, time, array] => do
    let str ← Json.View.plain? Json.string? str
    let int ← Json.View.plain? readInt? int
    let float ← Json.View.plain? readFloat? float
    let bool ← Json.View.plain? Json.bool? bool
    let time ← Json.View.plain? readTime? time
    let array ← Json.View.optional? Json.View.many array
    return ⟨str, int, float, bool, time, array⟩
  | _ => none

/-- Written values as nested records. -/
def nested : Json.Nested WrittenValue := { fields, ofSlots? }

/-- Reads a written value. -/
def ofJson? (j : Json) : Option WrittenValue := nested.read? j

end WrittenValue

namespace Item

/-- The members of a comparison. -/
def fields : List Json.Field :=
  [{ name := "property" }, { name := "operation", omissible := true },
   { name := "value", omissible := true }, { name := "caseSensitive", omissible := true },
   { name := "includeEmpty", omissible := true }]

/-- The comparison with these slots. -/
def ofSlots? : List (Option Json) → Option Item
  | [property, operation, value, caseSensitive, includeEmpty] => do
    let property ← Json.Record.required? Json.string? property
    let operator ← Json.Record.withDefault? .equals Operator.ofJson? operation
    let value ← Json.Record.withDefault? .empty WrittenValue.ofJson? value
    let caseSensitive ← Json.optionalSlot? Json.bool? caseSensitive
    let includeEmpty ← Json.optionalSlot? Json.bool? includeEmpty
    return { property, operator, value, caseSensitive, includeEmpty }
  | _ => none

/-- Reads a comparison. -/
def ofJson? (j : Json) : Option Item := (Json.slots? fields j).bind ofSlots?

/-- Writes a comparison. -/
def toJson (i : Item) : Json :=
  Json.objectOf
    [("property", some (.string i.property)), ("operation", some i.operator.toJson),
     ("value", some i.value.toJson), ("caseSensitive", i.caseSensitive.map .bool),
     ("includeEmpty", i.includeEmpty.map .bool)]

end Item

/-- The members of a node. -/
def fields : List Json.Field :=
  [{ name := "NOT", aliases := ["not"], omissible := true },
   { name := "AND", aliases := ["and"], omissible := true },
   { name := "OR", aliases := ["or"], omissible := true },
   { name := "filter", omissible := true }]

/-- The node with these slots. -/
def ofSlots? : List (Option (Json.View Filter)) → Option Filter
  | [negated, conjunction, disjunction, item] => do
    let negated ← Json.View.optional? Json.View.one negated
    let conjunction ← Json.View.optional? Json.View.many conjunction
    let disjunction ← Json.View.optional? Json.View.many disjunction
    let item ← Json.View.plain? Item.ofJson? item
    return ⟨negated, conjunction, disjunction, item⟩
  | _ => none

/-- Filters as nested records. -/
def nested : Json.Nested Filter := { fields, ofSlots? }

/-- Reads a filter. -/
def ofJson? (j : Json) : Option Filter := nested.read? j

mutual

/-- Writes a filter. -/
def toJson : Filter → Json
  | ⟨negated, conjunction, disjunction, item⟩ =>
    let inner : Option Json :=
      match negated with
      | some f => some (toJson f)
      | none => none
    let all : Option Json :=
      match conjunction with
      | some fs => some (.array (toJsons fs))
      | none => none
    let any : Option Json :=
      match disjunction with
      | some fs => some (.array (toJsons fs))
      | none => none
    Json.objectOf [("NOT", inner), ("AND", all), ("OR", any), ("filter", item.map Item.toJson)]
termination_by structural f => f

/-- Writes the filters of a group. -/
def toJsons : List Filter → List Json
  | [] => []
  | f :: rest => toJson f :: toJsons rest
termination_by structural fs => fs

end

end TenantSearch.Filter
