import TenantSearch.Proofs.Filter.Node
import TenantSearch.Search.Query

/-!
# `TenantSearch.Proofs.Search.Step`: the steps of the compiler

A request compiles in three steps: its filter, its term and its order. The term cannot fail.
`Request.term?` is the term that a request searches for, and `termCondition` the condition of
such a term, so what blank terms do is said once (`bind_termCondition?`).

`condition?_eq` and `ok_of_compile?` are what later modules know of the two functions.
-/

set_option autoImplicit false

namespace TenantSearch.Search

open TenantSearch.Filter (Condition Fragment)

/-- The nodes of the filter of a request, in pre-order. -/
def Request.nodes (r : Request) : List Filter := r.filter.elim [] Filter.nodes

/-- The comparisons of the filter of a request, from left to right. -/
def Request.items (r : Request) : List Filter.Item := r.filter.elim [] Filter.items

/-- The term of the request without blanks around it, when there is more than blanks. -/
def Request.term? (r : Request) : Option String :=
  r.search.bind fun s => if (Text.trim s).isEmpty then none else some (Text.trim s)

/-- The condition that some text property contains the term. -/
def termCondition (entity : Entity) (term : String) : Condition :=
  .group (some .disjunction) (entity.searchable.map fun p =>
    .compare { property := p, operator := .contains, value := some (.str term) })

/-- A term of blanks is no term. Any other is trimmed and then searched for. The program trims the
term where it compiles it, and the statements speak of the trimmed one. -/
theorem bind_termCondition? (entity : Entity) (r : Request) :
    r.search.bind (termCondition? entity) = r.term?.map (termCondition entity) := by
  unfold Request.term?
  cases r.search with
  | none => rfl
  | some s =>
    rw [Option.bind_some, Option.bind_some]
    show (if (Text.trim s).isEmpty then none else some (termCondition entity (Text.trim s))) = _
    by_cases hblank : (Text.trim s).isEmpty = true
    · rw [if_pos hblank, if_pos hblank]
      rfl
    · rw [if_neg hblank, if_neg hblank]
      rfl

/-- The condition of the filter, when there is a filter. -/
def filterCondition? (entity : Entity) (r : Request) : Except CompileError (Option Condition) :=
  match r.filter with
  | some f => (f.compile? entity).map some
  | none => .ok none

/-- Only the filter can fail. -/
theorem condition?_eq (entity : Entity) (r : Request) :
    condition? entity r =
      (filterCondition? entity r).map fun filter =>
        both filter (r.term?.map (termCondition entity)) := by
  rw [condition?, bind_termCondition?]
  unfold filterCondition?
  cases r.filter with
  | none => rfl
  | some f => cases f.compile? entity <;> rfl

/-- The two sources that invoices are sorted over. -/
def invoiceSource : Sort.Source :=
  { stem := "INVOICE", node := Entity.invoice.nodeName, entity := .invoice }

@[inherit_doc invoiceSource]
def contractSource : Sort.Source :=
  { stem := "CONTRACT", node := Entity.contract.nodeName, entity := .contract
    defaults := [⟨"ENDED_AT", "date('2100-01-01')", "date('1900-01-01')"⟩] }

/-- Invoices are sorted by their own properties and by those of their contract. -/
theorem invoiceSources_eq : invoiceSources = [invoiceSource, contractSource] := rfl

/-- The fragment of a condition, if there is one. -/
def fragmentOf (entity : Entity) (condition : Option Condition) : Fragment :=
  (condition.map (·.fragment (scope entity))).getD {}

/-- What a compiled query consists of. Later proofs take a compiled query apart with this, and do
not unfold the compiler. -/
theorem ok_of_compile? {tenant : String} {entity : Entity} {r : Request} {limits : Limits}
    {q : Query} (h : compile? tenant entity r limits = .ok q) :
    ∃ condition order,
      condition? entity r = .ok condition ∧ order? entity r.sort = .ok order ∧
      q.countStatement =
        pattern entity ++ (fragmentOf entity condition).whereClause ++ " RETURN count("
          ++ entity.nodeName ++ ")" ∧
      q.pageStatement =
        pattern entity ++ (fragmentOf entity condition).whereClause ++ joined entity ++ " RETURN "
          ++ entity.nodeName ++ order.clause entity.nodeName ++ " SKIP $skip LIMIT $limit" ∧
      q.params =
        (((fragmentOf entity condition).params.put "tenant" (.string tenant)).put "skip"
          (.integer q.skip.toInt)).put "limit" (.integer q.limit.toInt) := by
  obtain ⟨condition, hcondition, h⟩ := ok_of_bind h
  obtain ⟨order, horder, h⟩ := ok_of_bind h
  cases h
  exact ⟨condition, order, hcondition, horder, rfl, rfl, rfl⟩

end TenantSearch.Search
