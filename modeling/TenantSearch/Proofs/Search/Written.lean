import TenantSearch.Proofs.Search.Binding
import TenantSearch.Proofs.Sort.Clause

/-!
# `TenantSearch.Proofs.Search.Written`: the statements of a query as tokens

Each statement is a pattern with clauses behind it, and a clause is read on its own. So the
tokens of a statement are those of its clauses (`Spells`): of the condition of the request, if
there is one, of what is joined, of the order and of the page.

The tables of the entities supply the rest. All the names in them are names, and what stands in
for missing values refers to nothing (`sound_of_order?`).
-/

set_option autoImplicit false

namespace TenantSearch.Search

open TenantSearch.Cypher
open TenantSearch.Filter (Condition)
open TenantSearch.Sort (Order Source Constant)

/-! ### Clauses -/

/-- The tokens of the pattern. -/
def patternTokens (entity : Entity) : List Token :=
  [.keyword "MATCH", .symbol '(', .symbol ':', .name "Tenant", .symbol '\x7b', .name "name",
    .symbol ':', .parameter "tenant", .symbol '\x7d', .symbol ')', .symbol '<', .symbol '-',
    .symbol '[', .symbol ':', .name entity.tenantRelationship, .symbol ']', .symbol '-',
    .symbol '(', .name entity.nodeName, .symbol ':', .name entity.label, .symbol ')']

/-- The labels of the table are names, so they need no quotes in a statement. -/
theorem isName_label (entity : Entity) : IsName entity.label := by
  cases entity <;> decide

/-- So are the relationships to the tenant. -/
theorem isName_tenantRelationship (entity : Entity) : IsName entity.tenantRelationship := by
  cases entity <;> decide

/-- The pattern is spelled by its tokens, and ends with its closing bracket. Between the brackets
and marks, which end by themselves, stand the names of the table. -/
theorem delimited_pattern (entity : Entity) :
    Delimited (pattern entity) (patternTokens entity) := by
  have hopening : Delimited "MATCH (:Tenant \x7bname:$tenant\x7d)<-[:"
      [.keyword "MATCH", .symbol '(', .symbol ':', .name "Tenant", .symbol '\x7b', .name "name",
        .symbol ':', .parameter "tenant", .symbol '\x7d', .symbol ')', .symbol '<', .symbol '-',
        .symbol '[', .symbol ':'] := fun _ => rfl
  have hmiddle : Delimited "]-(" [.symbol ']', .symbol '-', .symbol '('] := fun _ => rfl
  have hcolon : Delimited ":" [.symbol ':'] := fun _ => rfl
  have hclosing : Delimited ")" [.symbol ')'] := fun _ => rfl
  -- The names are those of the edge, of the node and of its label.
  have hedge := hopening.append_spelled (isName_tenantRelationship entity).spelled
  have hnode := (hedge.append_delimited hmiddle (by decide)).append_spelled
    (Filter.isName_nodeName entity).spelled
  have hlabel := (hnode.append_delimited hcolon (by decide)).append_spelled
    (isName_label entity).spelled
  exact hlabel.append_delimited hclosing (by decide)

/-- The condition of a request as an expression, if there is one. -/
def exprOf (entity : Entity) (condition : Option Condition) : Option Expr :=
  condition.map fun c => (c.expr (scope entity) {}).1

/-- The tokens of a condition, if there is one. -/
def conditionTokens (e : Option Expr) : List Token :=
  e.elim [] fun e => .keyword "WHERE" :: e.tokens

/-- The parameters of an entity begin with its node and are words in full. -/
theorem isWordText_stem (entity : Entity) : IsWordText (scope entity).stem := by
  cases entity <;> decide

/-- All names in the condition of a request are names, since they come from the tables. -/
theorem named_exprOf {entity : Entity} {r : Request} {condition : Option Condition}
    (h : condition? entity r = .ok condition) : ∀ e ∈ exprOf entity condition, e.Named := by
  intro e he
  obtain ⟨c, rfl, rfl⟩ := Option.map_eq_some_iff.1 he
  refine Condition.named_expr (Filter.isName_nodeName entity) (isWordText_stem entity) c ?_ {}
  intro d hd
  exact (sound_of_condition? h d hd).1

/-- A condition as a clause, if there is one. -/
def whereText : Option String → String
  | none => ""
  | some text => " WHERE " ++ text

/-- The text of a condition is not empty, so it is not taken for a missing one. A missing condition
leaves no clause, and that is the only way to have none. -/
theorem whereClause_fragmentOf (entity : Entity) (condition : Option Condition) :
    (fragmentOf entity condition).whereClause =
      whereText ((exprOf entity condition).map Expr.text) := by
  cases condition with
  | none => rfl
  | some c =>
    have hne := (c.expr (scope entity) {}).1.text_ne_empty
    show (if (c.expr (scope entity) {}).1.text.isEmpty = true then "" else _) = _
    rw [if_neg (by simpa using hne)]
    rfl

/-- The condition of a request is spelled by its tokens as a clause, or it is left out. The clause
is kept apart from the pattern before it by the blank it begins with. -/
theorem clause_condition {entity : Entity} {r : Request} {condition : Option Condition}
    (h : condition? entity r = .ok condition) :
    Clause (fragmentOf entity condition).whereClause
      (conditionTokens (exprOf entity condition)) := by
  rw [whereClause_fragmentOf]
  -- A request may have no condition at all.
  cases hexpr : exprOf entity condition with
  | none => exact .inl ⟨rfl, rfl⟩
  | some e =>
    have hopening : Delimited " WHERE " [.keyword "WHERE"] := fun _ => rfl
    exact .inr ⟨separated_append (by decide) _,
      hopening.append_spelled (Expr.spelled (named_exprOf h e hexpr))⟩

/-- The tokens of what is joined to the nodes of a page. -/
def joinedTokens : Entity → List Token
  | .invoice =>
    [.keyword "OPTIONAL", .keyword "MATCH", .symbol '(', .name Entity.contract.nodeName,
      .symbol ':', .name "Contract", .symbol ')', .symbol '-', .symbol '[', .symbol ':',
      .name "HAS_INVOICE", .symbol ']', .symbol '-', .symbol '>', .symbol '(',
      .name Entity.invoice.nodeName, .symbol ')']
  | _ => []

/-- What is joined is a clause, or it is left out. -/
theorem clause_joined (entity : Entity) : Clause (joined entity) (joinedTokens entity) := by
  cases entity with
  | invoice => exact .inr ⟨by decide, Delimited.spelled fun _ => rfl⟩
  | _ => exact .inl ⟨rfl, rfl⟩

/-- A page returns its node. -/
theorem clause_return (entity : Entity) :
    Clause (" RETURN " ++ entity.nodeName) [.keyword "RETURN", .name entity.nodeName] := by
  have hopening : Delimited " RETURN " [.keyword "RETURN"] := fun _ => rfl
  have hnode := (Filter.isName_nodeName entity).spelled
  exact .inr ⟨separated_append (by decide) _, hopening.append_spelled hnode⟩

/-- The tokens of the clause that counts the nodes. -/
def countTokens (entity : Entity) : List Token :=
  [.keyword "RETURN", .name "count", .symbol '(', .name entity.nodeName, .symbol ')']

/-- Counting returns the number of the nodes. -/
theorem clause_count (entity : Entity) :
    Clause (" RETURN count(" ++ entity.nodeName ++ ")") (countTokens entity) := by
  have hopening : Delimited " RETURN count(" [.keyword "RETURN", .name "count", .symbol '('] :=
    fun _ => rfl
  have hnode := (Filter.isName_nodeName entity).spelled
  refine .inr ⟨?_, (hnode.delimited_call hopening).spelled⟩
  rw [String.append_assoc]
  exact separated_append (by decide) _

/-- The tokens of the clause that picks a page. -/
def sliceTokens : List Token :=
  [.keyword "SKIP", .parameter "skip", .keyword "LIMIT", .parameter "limit"]

/-- The clause that picks a page ends with a parameter. It comes last in a statement, so nothing can
run into that. -/
theorem clause_slice : Clause " SKIP $skip LIMIT $limit" sliceTokens := by
  refine .inr ⟨by decide, ?_⟩
  exact spelled_of_run [.keyword "SKIP", .parameter "skip", .keyword "LIMIT"]
    (.parameter "limit".toList) fun _ => rfl

/-! ### Orders -/

/-- The tokens of a date, such as the first day of a year. -/
def dateTokens (year : String) : List Token :=
  [.name "date", .symbol '(', .symbol '\'', .name year, .symbol '-', .name "01", .symbol '-',
    .name "01", .symbol '\'', .symbol ')']

/-- A date refers to nothing and ends by itself, whatever its year is. So a default for missing
values can stand in a sort key without being taken for anything else. -/
theorem constant_of_date {text year : String} (h : Delimited text (dateTokens year)) :
    Constant text := by
  have htokens : tokens text = dateTokens year := h.spelled.tokens_eq
  refine ⟨?_, ?_, ?_, ?_⟩
  · rwa [htokens]
  · intro u hu
    rw [htokens] at hu
    cases u <;> simp [Use.In, Use.tokens, dateTokens, List.infix_cons_iff] at hu
  · simp [htokens, dateTokens]
  · simp [htokens, dateTokens]

/-- The two sources of invoices have nodes that are names and defaults that are dates. This is
checked once, and every order for invoices relies on it. -/
theorem sound_invoiceSources : ∀ s ∈ invoiceSources, s.Sound := by
  intro s hs
  rw [invoiceSources_eq, List.mem_cons, List.mem_singleton] at hs
  rcases hs with rfl | rfl
  · refine ⟨Filter.isName_nodeName .invoice, ?_⟩
    intro d hd
    cases hd
  · refine ⟨Filter.isName_nodeName .contract, ?_⟩
    intro d hd direction
    obtain rfl := List.mem_singleton.1 hd
    -- In both directions the default is a date.
    cases direction with
    | ascending => exact @constant_of_date _ "2100" fun _ => rfl
    | descending => exact @constant_of_date _ "1900" fun _ => rfl

/-- Whether a page of the entity has a node of this name: its own node, or the contract of an
invoice. -/
def OnPage (entity : Entity) (node : String) : Prop :=
  node = entity.nodeName ∨ (entity = .invoice ∧ node = Entity.contract.nodeName)

/-- An order sorts the nodes of the page. For invoices these are two, and each key has the node of
its source. -/
theorem sound_of_order? {entity : Entity} {rules : List Sort.Rule} {order : Order}
    (h : order? entity rules = .ok order) :
    ∀ k ∈ order.keys, k.Sound entity.nodeName ∧
      OnPage entity (k.node.getD entity.nodeName) := by
  have hnode := Filter.isName_nodeName entity
  intro k hk
  cases entity with
  | invoice =>
    obtain ⟨hsound, s, hs, hown⟩ :=
      Order.sound_of_compileJoined? Entity.invoice.nodeName sound_invoiceSources h k hk
    refine ⟨hsound, ?_⟩
    rw [hown, Option.getD_some]
    rw [invoiceSources_eq, List.mem_cons, List.mem_singleton] at hs
    rcases hs with rfl | rfl
    · exact .inl rfl
    · exact .inr ⟨rfl, rfl⟩
  | _ =>
    obtain ⟨hsound, hown⟩ := Order.sound_of_compile? hnode h k hk
    rw [hown]
    exact ⟨hsound, .inl rfl⟩

/-! ### Statements -/

/-- The tokens of the two statements of a query. -/
structure Query.Spells (entity : Entity) (e : Option Expr) (order : Order) (q : Query) : Prop where
  count : tokens q.countStatement = patternTokens entity ++ conditionTokens e ++ countTokens entity
  page :
    tokens q.pageStatement =
      patternTokens entity ++ conditionTokens e ++ joinedTokens entity
        ++ [.keyword "RETURN", .name entity.nodeName] ++ order.tokens entity.nodeName
        ++ sliceTokens

/-- The statements of a query are read clause by clause. Each clause begins with a blank, so none
runs into the one before it. -/
theorem spells_of_compile? {tenant : String} {entity : Entity} {r : Request} {limits : Limits}
    {q : Query} (h : compile? tenant entity r limits = .ok q) :
    ∃ condition order, condition? entity r = .ok condition ∧ order? entity r.sort = .ok order ∧
      q.Spells entity (exprOf entity condition) order := by
  obtain ⟨condition, order, hcondition, horder, hcount, hpage, -⟩ := ok_of_compile? h
  refine ⟨condition, order, hcondition, horder, ?_, ?_⟩
  all_goals
    have hmatched := (delimited_pattern entity).spelled.append_clause (clause_condition hcondition)
  · have hstatement := hmatched.append_clause (clause_count entity)
    rw [hcount, ← hstatement.tokens_eq]
    simp only [String.append_assoc]
  · have hkeys := Order.clause_tokens fun k hk => (sound_of_order? horder k hk).1
    have hstatement := (((hmatched.append_clause (clause_joined entity)).append_clause
      (clause_return entity)).append_clause hkeys).append_clause clause_slice
    rw [hpage, ← hstatement.tokens_eq]
    simp only [String.append_assoc]

end TenantSearch.Search
