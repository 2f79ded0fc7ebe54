import TenantSearch.Filter.Fragment
import TenantSearch.Page
import TenantSearch.Search.Limits
import TenantSearch.Search.Request
import TenantSearch.Sort.Joined
import TenantSearch.Text.Blank

/-!
# `TenantSearch.Search.Query`: requests as statements

A request becomes two statements with one set of parameters: one counts the matching nodes of
the tenant, the other returns a page of them. Whatever comes from the client is a parameter.
The statements are made of names from the tables of the entity alone.

Invoices can be sorted by their contract too, so their page joins the contract.
-/

set_option autoImplicit false

namespace TenantSearch.Search

/-- The statements of a search. -/
structure Query where
  countStatement : String
  pageStatement : String
  params : Members Json
  page : Int64
  limit : Int64
  skip : Int64

/-- The query as an answer. -/
def Query.toJson (q : Query) : Json :=
  .object
    [("countStatement", .string q.countStatement), ("pageStatement", .string q.pageStatement),
     ("params", .object q.params), ("page", .integer q.page.toInt),
     ("limit", .integer q.limit.toInt), ("skip", .integer q.skip.toInt)]

/-- What invoices are sorted over: the invoice and its contract. A contract without an end
comes last in both directions. -/
def invoiceSources : List Sort.Source :=
  [{ stem := "INVOICE", node := Entity.invoice.nodeName, entity := .invoice },
   { stem := "CONTRACT", node := Entity.contract.nodeName, entity := .contract
     defaults := [⟨"ENDED_AT", "date('2100-01-01')", "date('1900-01-01')"⟩] }]

/-- The rule for a request without one. -/
def standardRule : Entity → Sort.Rule
  | .invoice => { property := "INVOICE_DUE_DATE", direction := .descending }
  | _ => { property := "CREATED_AT", direction := .descending }

/-- The order of a request. -/
def order? (entity : Entity) (rules : List Sort.Rule) : Except CompileError Sort.Order :=
  let rules := if rules.isEmpty then [standardRule entity] else rules
  match entity with
  | .invoice => Sort.Order.compileJoined? invoiceSources rules
  | _ => Sort.Order.compile? entity rules

/-- The condition that some text property contains the term, without regard to case. A blank
term asks for nothing. -/
def termCondition? (entity : Entity) (term : String) : Option Filter.Condition :=
  let term := Text.trim term
  if term.isEmpty then none
  else
    let parts := entity.searchable.map fun p =>
      Filter.Condition.compare { property := p, operator := .contains, value := some (.str term) }
    some (.group (some .disjunction) parts)

/-- Both conditions, when there are two. -/
def both : Option Filter.Condition → Option Filter.Condition → Option Filter.Condition
  | some c, some d => some (.group (some .conjunction) [c, d])
  | some c, none => some c
  | none, d => d

/-- How the conditions of an entity name its node and their parameters. -/
def scope (entity : Entity) : Filter.Scope :=
  { node := entity.nodeName, stem := entity.nodeName ++ "_param_" }

/-- The pattern that matches the nodes of the tenant. -/
def pattern (entity : Entity) : String :=
  "MATCH (:Tenant \x7bname:$tenant\x7d)<-[:" ++ entity.tenantRelationship ++ "]-("
    ++ entity.nodeName ++ ":" ++ entity.label ++ ")"

/-- What is joined to the nodes of a page. -/
def joined : Entity → String
  | .invoice =>
    " OPTIONAL MATCH (" ++ Entity.contract.nodeName ++ ":Contract)-[:HAS_INVOICE]->("
      ++ Entity.invoice.nodeName ++ ")"
  | _ => ""

/-- The condition of a request: its filter and its term. -/
def condition? (entity : Entity) (request : Request) :
    Except CompileError (Option Filter.Condition) := do
  let filter ←
    match request.filter with
    | some f => (f.compile? entity).map some
    | none => .ok none
  return both filter (request.search.bind (termCondition? entity))

/-- The page that a request asks for. -/
def requestedPage (request : Request) (limits : Limits) : Page Json :=
  { page := Int64.ofInt (max 1 (request.page.getD 1).toInt)
    limit := limits.resolve request.limit }

/-- The statements of a request. -/
def compile? (tenant : String) (entity : Entity) (request : Request) (limits : Limits) :
    Except CompileError Query := do
  let page := requestedPage request limits
  let condition ← condition? entity request
  let fragment := (condition.map (·.fragment (scope entity))).getD {}
  let order ← order? entity request.sort
  let matched := pattern entity ++ fragment.whereClause
  let node := entity.nodeName
  return {
    countStatement := matched ++ " RETURN count(" ++ node ++ ")"
    pageStatement :=
      matched ++ joined entity ++ " RETURN " ++ node ++ order.clause node
        ++ " SKIP $skip LIMIT $limit"
    params :=
      ((fragment.params.put "tenant" (.string tenant)).put "skip"
        (.integer page.skip.toInt)).put "limit" (.integer page.limit.toInt)
    page := page.page
    limit := page.limit
    skip := page.skip }

end TenantSearch.Search
