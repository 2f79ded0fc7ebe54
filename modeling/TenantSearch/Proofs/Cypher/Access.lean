import TenantSearch.Proofs.Cypher.Written

/-!
# `TenantSearch.Proofs.Cypher.Access`: what a condition takes from its parameters

A condition takes the value of a parameter, an item of it, or all of its items, and it takes them
as they are or as moments, through `datetime`. `Reading.accesses` lists what is taken, from left
to right. It is read off the reading, so it says what is in the text.

A `datetime` around anything else is listed too, so the converted accesses are all the places
where the word stands.
-/

set_option autoImplicit false

namespace TenantSearch.Cypher

/-- What is compared with a property or converted. -/
inductive Operand where
  /-- The value of a parameter. -/
  | whole (name : String)
  /-- An item of a list parameter. -/
  | item (name : String) (index : Nat)
  /-- Every item of a list parameter. -/
  | each (name : String)
  /-- Any other term. It is listed where it is converted. -/
  | other (t : Term)
deriving DecidableEq, Repr

/-- The parameter that the operand is taken from. -/
def Operand.name? : Operand → Option String
  | whole name | item name _ | each name => some name
  | other _ => none

/-- An operand, taken through `datetime` or as it is. -/
structure Access where
  operand : Operand
  converted : Bool
deriving DecidableEq, Repr

/-- What a term takes. -/
def Term.accesses : Term → List Access
  | property _ _ | emptyText => []
  | parameter name => [⟨.whole name, false⟩]
  | item name index => [⟨.item name index, false⟩]
  | lower t => t.accesses
  | moment (.parameter name) => [⟨.whole name, true⟩]
  | moment (.item name index) => [⟨.item name index, true⟩]
  | moment t => ⟨.other t, true⟩ :: t.accesses

/-- What a test takes. -/
def Test.accesses : Test → List Access
  | relation _ right => right.accesses
  | isNull => []
  | isIn list => [⟨.each list, false⟩]
  | isInMoments list => [⟨.each list, true⟩]

/-- What a comparison takes. -/
def Atom.accesses (a : Atom) : List Access := a.subject.accesses ++ a.test.accesses

namespace Reading

mutual

/-- What a condition takes, from left to right. -/
def accesses : Reading → List Access
  | always => []
  | atom a => a.accesses
  | not r => accesses r
  | group _ parts => accessesOf parts

/-- What several conditions take. -/
def accessesOf : List Reading → List Access
  | [] => []
  | r :: rest => accesses r ++ accessesOf rest

end

/-- From the parameter `x`, the condition takes these operands and nothing else, through
`datetime` or as they are. -/
structure Takes (r : Reading) (x : String) (operands : List Operand) (converted : Bool) :
    Prop where
  all : ∀ o ∈ operands, ⟨o, converted⟩ ∈ r.accesses
  only : ∀ a ∈ r.accesses, a.operand.name? = some x → a.operand ∈ operands ∧
    a.converted = converted

end Reading

/-- A group takes what its parts take, however many there are. -/
theorem accesses_groupReading (junction : Junction) (rs : List Reading) :
    (groupReading junction rs).accesses = Reading.accessesOf rs := by
  match rs with
  | [] => rfl
  | [r] => exact (List.append_nil _).symm
  | _ :: _ :: _ => rfl

end TenantSearch.Cypher
