import TenantSearch.Json.Record

/-!
# `TenantSearch.Filter.Operator`: comparison operators

An operator compares a property with a value. The two null checks take no value. Three
operators match text and can ignore case.
-/

set_option autoImplicit false

namespace TenantSearch.Filter

/-- A comparison operator. -/
inductive Operator where
  | equals
  | contains
  | startsWith
  | isIn
  | atMost
  | atLeast
  | between
  | isNull
  | isEmpty
deriving DecidableEq, Repr, Inhabited

namespace Operator

/-- Every operator. -/
def all : List Operator :=
  [equals, contains, startsWith, isIn, atMost, atLeast, between, isNull, isEmpty]

/-- The name in requests. -/
def name : Operator → String
  | equals => "EQUALS"
  | contains => "CONTAINS"
  | startsWith => "STARTS_WITH"
  | isIn => "IN"
  | atMost => "LTE"
  | atLeast => "GTE"
  | between => "BETWEEN"
  | isNull => "IS_NULL"
  | isEmpty => "IS_EMPTY"

/-- The name in messages. -/
def word : Operator → String
  | equals => "Equals"
  | contains => "Contains"
  | startsWith => "StartsWith"
  | isIn => "In"
  | atMost => "Lte"
  | atLeast => "Gte"
  | between => "Between"
  | isNull => "IsNull"
  | isEmpty => "IsEmpty"

/-- The names that a request may use. `EQ` stands for `EQUALS`. -/
def names : Members Operator :=
  all.map (fun op => (op.name, op)) ++ [("EQ", equals)]

/-- Whether the operator compares with a value. -/
def takesValue : Operator → Bool
  | isNull | isEmpty => false
  | _ => true

/-- Whether the operator matches text, with or without regard to case. -/
def isTextMatch : Operator → Bool
  | equals | contains | startsWith => true
  | _ => false

/-- Reads an operator. -/
def ofJson? : Json → Option Operator := Json.name? names

/-- Writes an operator. -/
def toJson (op : Operator) : Json := .string op.name

/-- An operator is read back from its name. -/
theorem ofJson?_toJson (op : Operator) : ofJson? op.toJson = some op := by
  cases op <;> rfl

end Operator

end TenantSearch.Filter
