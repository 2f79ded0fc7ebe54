import TenantSearch.Filter.Operator

/-!
# `TenantSearch.CompileError`: why a request does not compile

A request fails to compile because its filter is malformed or because it names a property that
the entity does not have. Both come from the request alone, so a caller sees the reason, and
trying again is of no use.
-/

set_option autoImplicit false

namespace TenantSearch

/-- How the children of a group are joined. -/
inductive Junction where
  | conjunction
  | disjunction
deriving DecidableEq, Repr, Inhabited

/-- The name of the group in requests. -/
def Junction.name : Junction → String
  | .conjunction => "AND"
  | .disjunction => "OR"

/-- How many children a group has at least. -/
def minGroupSize : Nat := 2

/-- Why a request does not compile. -/
inductive CompileError where
  /-- A node of the filter sets none or several of its members. -/
  | ambiguousNode
  /-- A group has too few children. -/
  | smallGroup (junction : Junction)
  /-- A value sets none or several of its members. -/
  | ambiguousValue
  /-- The value of a range is not a list of two. -/
  | boundsExpected
  /-- An operator that compares with a value has none. -/
  | valueMissing (operator : Filter.Operator) (property : String)
  /-- The entity has no such property. -/
  | unknownProperty (entity property : String)
deriving DecidableEq, Repr

namespace CompileError

/-- How the message of every malformed filter begins. -/
def malformed : String := "incorrect filter formatting"

/-- The reason in words. -/
def message : CompileError → String
  | ambiguousNode => malformed
  | smallGroup junction =>
    malformed ++ ": at least " ++ toString minGroupSize ++ " filters expected in "
      ++ junction.name ++ " group"
  | ambiguousValue =>
    malformed ++ ": value must hold exactly one of str, int, float, bool, time, array"
  | boundsExpected => malformed ++ ": BETWEEN expects an array of exactly 2 values"
  | valueMissing operator property =>
    malformed ++ ": value required for " ++ operator.word ++ " on " ++ property
  | unknownProperty entity property =>
    "unknown property " ++ property ++ " for " ++ entity

/-- The code of the reason. -/
def code : CompileError → String
  | unknownProperty _ _ => "UNKNOWN_PROPERTY"
  | _ => "MALFORMED_FILTER"

end CompileError

end TenantSearch
