import TenantSearch.Proofs.Search.Written

/-!
# `TenantSearch.Proofs.Search.Closed`: compiled searches are closed

A query consists of two statements and one set of parameters, and the store sees nothing else.
`Query.Closed` says that they fit together. The keys of the parameters are known, and no key
occurs twice. Each of them holds what it should. The statements refer to the parameters under
these keys and to no others, do with them what their values allow, and refer to nodes that the
same statement introduces.

`compile?_closed`: every query that the compiler returns is closed. The proof follows the tokens
of the statements clause by clause: no use of a name runs over from one clause to the next.
-/

set_option autoImplicit false

namespace TenantSearch.Search

open TenantSearch.Cypher
open TenantSearch.Filter (Condition Comparison Scope Fits numbered)
open TenantSearch.Sort (Order)

/-! ### Closed queries -/

/-- Whether the statement introduces a node under the name: `(x:`. -/
def Introduces (ts : List Token) (x : String) : Prop :=
  [.symbol '(', .name x, .symbol ':'] <:+: ts

/-- Whether the use of a name in a statement suits the parameters and the nodes. After `RETURN`
there may be the function `count` instead of a node. -/
def Suits (params : Members Json) (ts : List Token) : Use → Prop
  | .isIn x => ∃ items, params.get? x = some (.array items)
  | .item x => ∃ low high, params.get? x = some (.array [low, high])
  | .lower x => ∃ s, params.get? x = some (.string s)
  | .property x | .target x | .counted x => Introduces ts x
  | .returned x => x = "count" ∨ Introduces ts x

/-- Whether the statements of a query and its parameters fit together. -/
structure Query.Closed (tenant : String) (entity : Entity) (r : Request) (q : Query) : Prop where
  keys :
    q.params.keys =
      (List.range' 1 (r.parameterCount entity)).map
          (fun n => entity.nodeName ++ "_param_" ++ toString n)
        ++ ["tenant", "skip", "limit"]
  nodup : q.params.keys.Nodup
  /-- The values of the filter come first, from left to right. -/
  valued : ∀ n i, r.valued[n]? = some i →
    ∃ v, q.params.get? (entity.nodeName ++ "_param_" ++ toString (n + 1)) = some v ∧ i.Binds v
  /-- Behind them is the term, once for each text property. -/
  term : ∀ s, r.term? = some s → ∀ n < entity.searchable.length,
    q.params.get? (entity.nodeName ++ "_param_" ++ toString (r.valued.length + n + 1))
      = some (.string s)
  tenant : q.params.get? "tenant" = some (.string tenant)
  skip : q.params.get? "skip" = some (.integer q.skip.toInt)
  limit : q.params.get? "limit" = some (.integer q.limit.toInt)
  pageParameters : ∀ x, .parameter x ∈ tokens q.pageStatement ↔ x ∈ q.params.keys
  countParameters : ∀ x,
    .parameter x ∈ tokens q.countStatement ↔ x ∈ q.params.keys ∧ x ≠ "skip" ∧ x ≠ "limit"
  pageNodes : ∀ x, Introduces (tokens q.pageStatement) x ↔ OnPage entity x
  countNodes : ∀ x, Introduces (tokens q.countStatement) x ↔ x = entity.nodeName
  pageUses : ∀ u : Use, u.In (tokens q.pageStatement) →
    Suits q.params (tokens q.pageStatement) u
  countUses : ∀ u : Use, u.In (tokens q.countStatement) →
    Suits q.params (tokens q.countStatement) u

/-! ### Values -/

/-- The term is bound once for each text property of the entity, and no term is bound nowhere. -/
theorem length_termValues (entity : Entity) (term : Option String) :
    (termValues entity term).length = if term.isSome then entity.searchable.length else 0 := by
  cases term <;> simp [termValues]

/-! ### Uses -/

section Clauses

variable {entity : Entity} {r : Request} {condition : Option Condition} {order : Order} {u : Use}

/-- The pattern names the node only where it introduces it, and that is no use of it. -/
theorem not_in_patternTokens (u : Use) (entity : Entity) : ¬ u.In (patternTokens entity) := by
  intro h
  cases u <;> simp [Use.In, Use.tokens, patternTokens, List.infix_cons_iff] at h

/-- `SKIP` and `LIMIT` take bare parameters. None of them is used as a list, a range or a text. -/
theorem not_in_sliceTokens (u : Use) : ¬ u.In sliceTokens := by
  intro h
  cases u <;> simp [Use.In, Use.tokens, sliceTokens, List.infix_cons_iff] at h

/-- What is counted is returned by the function `count`, and is the node of the pattern. -/
theorem in_countTokens (h : u.In (countTokens entity)) :
    u = .returned "count" ∨ u = .counted entity.nodeName := by
  cases u <;> simp_all [Use.In, Use.tokens, countTokens, List.infix_cons_iff]

/-- A page returns the node that stands behind `RETURN`, and does nothing else with it. -/
theorem in_returnTokens {x : String} (h : u.In [.keyword "RETURN", .name x]) :
    u = .returned x := by
  cases u <;> simp_all [Use.In, Use.tokens, List.infix_cons_iff]

/-- What is joined leads to the nodes of the pattern. Only invoices are joined with anything. -/
theorem in_joinedTokens (h : u.In (joinedTokens entity)) : u = .target entity.nodeName := by
  cases entity with
  | invoice => cases u <;> simp_all [Use.In, Use.tokens, joinedTokens, List.infix_cons_iff]
  | _ => exact absurd h u.not_in_nil

/-- What a condition does with its parameters suits what the request binds to them. The condition
numbers its parameters from the start, and so do the bindings, which is why both meet at the counter
zero. -/
theorem fits_conditionTokens (hcondition : condition? entity r = .ok condition)
    (h : u.In (conditionTokens (exprOf entity condition))) :
    Fits (numbered (scope entity) 0 (valuesOf condition)) entity.nodeName u := by
  cases condition with
  | none => exact absurd h u.not_in_nil
  | some c =>
    -- The keyword in front is no part of a use.
    have huses := Expr.mem_uses (Use.in_cons rfl h)
    exact c.fits_uses_expr (scope entity) (fun d hd => (sound_of_condition? hcondition d hd).2)
      {} huses

/-- The condition names each of its parameters, and no others. Without a condition there are no
values either, so both sides are empty. -/
theorem parameter_mem_conditionTokens (entity : Entity) (condition : Option Condition)
    (x : String) :
    .parameter x ∈ conditionTokens (exprOf entity condition) ↔
      x ∈ parameterNames entity (valuesOf condition).length := by
  rw [← keys_numbered]
  cases condition with
  | none => simp [exprOf, conditionTokens, valuesOf, comparisonsOf, numbered, Members.keys]
  | some c =>
    -- The tokens of an expression name the parameters that it binds.
    have hexpr := c.mem_parameters_expr (scope entity) {} x
    rw [← Expr.mem_parameters] at hexpr
    show .parameter x ∈ .keyword "WHERE" :: (c.expr (scope entity) {}).1.tokens ↔
      x ∈ (numbered (scope entity) 0 c.values).keys
    simpa using hexpr

/-- A condition introduces no node: it has no colon. -/
theorem colon_not_mem_conditionTokens (e : Option Expr) : .symbol ':' ∉ conditionTokens e := by
  cases e with
  | none => simp [conditionTokens]
  | some e => simp [conditionTokens, e.colon_not_mem]

/-- A condition is a clause: it begins with a keyword, or it is left out. -/
theorem isClause_conditionTokens (e : Option Expr) : IsClause (conditionTokens e) := by
  cases e <;> simp [IsClause, conditionTokens]

/-- So is what is joined. -/
theorem isClause_joinedTokens (entity : Entity) : IsClause (joinedTokens entity) := by
  cases entity <;> simp [IsClause, joinedTokens]

/-- So is the order. -/
theorem isClause_order (order : Order) (node : String) : IsClause (order.tokens node) := by
  unfold Order.tokens
  split <;> simp [IsClause]

end Clauses

/-! ### Nodes -/

section Nodes

variable {x : String}

/-- What a statement introduces, its clauses do. An introduction has no keyword in it, so none
begins in one clause and ends in the next. -/
theorem introduces_append {ts us : List Token} (hus : IsClause us) :
    Introduces (ts ++ us) x ↔ Introduces ts x ∨ Introduces us x := by
  constructor
  · exact infix_append_clause (by simp) hus
  · rintro (h | h)
    · exact h.trans (List.prefix_append ts us).isInfix
    · exact h.trans (List.suffix_append ts us).isInfix

/-- Without a colon there is no introduction. -/
theorem not_introduces {ts : List Token} (h : .symbol ':' ∉ ts) : ¬ Introduces ts x := by
  intro hx
  exact h (hx.subset (by simp))

/-- The pattern introduces the node of the entity. -/
theorem introduces_patternTokens (entity : Entity) :
    Introduces (patternTokens entity) x ↔ x = entity.nodeName := by
  simp [Introduces, patternTokens, List.infix_cons_iff]

/-- The node of a contract is introduced beside that of an invoice, and nowhere else. -/
theorem introduces_joinedTokens (entity : Entity) :
    Introduces (joinedTokens entity) x ↔ entity = .invoice ∧ x = Entity.contract.nodeName := by
  cases entity <;> simp [Introduces, joinedTokens, List.infix_cons_iff]

end Nodes

/-- What fits the values that a condition binds suits all parameters of the query, because a key
that occurs once is found wherever it stands. The node has to be introduced by the statement around
the condition. -/
theorem suits_of_fits {params ms : Members Json} {ts : List Token} {node : String} {u : Use}
    (hnodup : params.keys.Nodup) (hsubset : ms ⊆ params) (hnode : Introduces ts node)
    (h : Fits ms node u) : Suits params ts u := by
  -- A condition uses lists, bounds, texts and properties. It never returns, counts or joins.
  cases u with
  | isIn x =>
    obtain ⟨items, hmem⟩ := h
    exact ⟨items, get?_of_mem hnodup (hsubset hmem)⟩
  | item x =>
    obtain ⟨low, high, hmem⟩ := h
    exact ⟨low, high, get?_of_mem hnodup (hsubset hmem)⟩
  | lower x =>
    obtain ⟨s, hmem⟩ := h
    exact ⟨s, get?_of_mem hnodup (hsubset hmem)⟩
  | property x =>
    obtain rfl : x = node := h
    exact hnode
  | target x => cases h
  | counted x => cases h
  | returned x => cases h

/-! ### Statements -/

section Statements

variable {tenant : String} {entity : Entity} {r : Request} {limits : Limits} {q : Query}
  {condition : Option Condition} {order : Order}

/-- Counting needs the node of the entity and nothing that it is joined with. -/
theorem introduces_countStatement {e : Option Expr} (hspells : q.Spells entity e order)
    (x : String) : Introduces (tokens q.countStatement) x ↔ x = entity.nodeName := by
  have hcount : IsClause (countTokens entity) := by simp [IsClause, countTokens]
  have hcondition := not_introduces (x := x) (colon_not_mem_conditionTokens e)
  have hcolon : .symbol ':' ∉ countTokens entity := by simp [countTokens]
  rw [hspells.count, introduces_append hcount, introduces_append (isClause_conditionTokens e),
    introduces_patternTokens]
  simp [hcondition, not_introduces hcolon]

/-- A page introduces the node of the entity, and for invoices that of the contract as well. What is
returned, sorted or sliced introduces nothing. -/
theorem introduces_pageStatement {e : Option Expr} (hspells : q.Spells entity e order)
    (horder : order? entity r.sort = .ok order) (x : String) :
    Introduces (tokens q.pageStatement) x ↔ OnPage entity x := by
  have hkeys : ∀ k ∈ order.keys, k.Sound entity.nodeName := fun k hk =>
    (sound_of_order? horder k hk).1
  have hreturn : IsClause [.keyword "RETURN", .name entity.nodeName] := by simp [IsClause]
  have hslice : IsClause sliceTokens := by simp [IsClause, sliceTokens]
  have hcondition := not_introduces (x := x) (colon_not_mem_conditionTokens e)
  have hreturned : ¬ Introduces [.keyword "RETURN", .name entity.nodeName] x :=
    not_introduces (by simp)
  have hsorted := not_introduces (x := x) (Order.colon_not_mem hkeys)
  have hsliced : ¬ Introduces sliceTokens x := not_introduces (by simp [sliceTokens])
  -- Colons occur in the pattern and in what is joined. All other clauses introduce nothing.
  rw [hspells.page, introduces_append hslice, introduces_append (isClause_order order _),
    introduces_append hreturn, introduces_append (isClause_joinedTokens entity),
    introduces_append (isClause_conditionTokens e), introduces_patternTokens,
    introduces_joinedTokens]
  simp [OnPage, hcondition, hreturned, hsorted, hsliced]

/-- Counting refers to every parameter but the two of the page. They are given to the store with the
others and are not used there. -/
theorem parameter_mem_countStatement (hspells : q.Spells entity (exprOf entity condition) order)
    (hparams : q.params = numbered (scope entity) 0 (valuesOf condition) ++ ownParams tenant q)
    (x : String) :
    .parameter x ∈ tokens q.countStatement ↔ x ∈ q.params.keys ∧ x ≠ "skip" ∧ x ≠ "limit" := by
  have hstatement : .parameter x ∈ tokens q.countStatement ↔
      x = "tenant" ∨ x ∈ parameterNames entity (valuesOf condition).length := by
    rw [hspells.count, List.mem_append, List.mem_append, parameter_mem_conditionTokens]
    simp [patternTokens, countTokens]
  -- The numbered parameters are none of the page.
  have hskip : "skip" ∉ parameterNames entity (valuesOf condition).length :=
    not_mem_parameterNames (by decide) entity _
  have hlimit : "limit" ∉ parameterNames entity (valuesOf condition).length :=
    not_mem_parameterNames (by decide) entity _
  rw [hstatement, keys_of_params hparams, List.mem_append]
  constructor
  · rintro (rfl | hmem)
    · exact ⟨.inr (by simp), by decide, by decide⟩
    · refine ⟨.inl hmem, ?_, ?_⟩
      · rintro rfl
        exact hskip hmem
      · rintro rfl
        exact hlimit hmem
  · rintro ⟨hnumbered | hown, hnotSkip, hnotLimit⟩
    · exact .inr hnumbered
    · exact .inl (by simpa [hnotSkip, hnotLimit] using hown)

/-- A page refers to every parameter, as each of its own three stands in a clause of its own. The
counting statement has no use for two of them, though they are bound for it as well. -/
theorem parameter_mem_pageStatement (hspells : q.Spells entity (exprOf entity condition) order)
    (horder : order? entity r.sort = .ok order)
    (hparams : q.params = numbered (scope entity) 0 (valuesOf condition) ++ ownParams tenant q)
    (x : String) : .parameter x ∈ tokens q.pageStatement ↔ x ∈ q.params.keys := by
  have hpattern : .parameter x ∈ patternTokens entity ↔ x = "tenant" := by simp [patternTokens]
  have hjoined : .parameter x ∉ joinedTokens entity := by cases entity <;> simp [joinedTokens]
  have hreturn : .parameter x ∉ [Token.keyword "RETURN", .name entity.nodeName] := by simp
  have hsorted := Order.parameter_not_mem (fun k hk => (sound_of_order? horder k hk).1) x
  have hslice : .parameter x ∈ sliceTokens ↔ x = "skip" ∨ x = "limit" := by simp [sliceTokens]
  have hown : x ∈ ["tenant", "skip", "limit"] ↔ x = "tenant" ∨ x = "skip" ∨ x = "limit" := by
    simp
  rw [hspells.page, keys_of_params hparams]
  simp only [List.mem_append, parameter_mem_conditionTokens, hpattern, hjoined, hreturn, hsorted,
    hslice, hown]
  -- The statement has the tenant first, and the keys have the numbered parameters first.
  tauto

/-- What both statements begin with suits the parameters, where the statement introduces the node.
The condition is the only clause that uses parameters as anything but themselves. -/
theorem suits_matched (hcondition : condition? entity r = .ok condition)
    (hparams : q.params = numbered (scope entity) 0 (valuesOf condition) ++ ownParams tenant q)
    {ts : List Token} (hnode : Introduces ts entity.nodeName) {u : Use}
    (h : u.In (patternTokens entity ++ conditionTokens (exprOf entity condition))) :
    Suits q.params ts u := by
  have hsubset : numbered (scope entity) 0 (valuesOf condition) ⊆ q.params := by
    rw [hparams]
    exact List.subset_append_left _ _
  rcases Use.in_append_clause (isClause_conditionTokens _) h with hpattern | hwhere
  · exact absurd hpattern (not_in_patternTokens u entity)
  · exact suits_of_fits (nodup_of_params hparams) hsubset hnode
      (fits_conditionTokens hcondition hwhere)

/-- All that counting does suits the parameters and the nodes. Besides the condition it has a
function, and the node that this function counts. -/
theorem suits_countStatement (hcondition : condition? entity r = .ok condition)
    (hspells : q.Spells entity (exprOf entity condition) order)
    (hparams : q.params = numbered (scope entity) 0 (valuesOf condition) ++ ownParams tenant q)
    {u : Use} (h : u.In (tokens q.countStatement)) :
    Suits q.params (tokens q.countStatement) u := by
  have hnode : Introduces (tokens q.countStatement) entity.nodeName :=
    (introduces_countStatement hspells _).2 rfl
  rw [hspells.count] at h
  rcases Use.in_append_clause (by simp [IsClause, countTokens]) h with hmatched | hcount
  · exact suits_matched hcondition hparams hnode hmatched
  -- What is returned is a function or the node.
  · rcases in_countTokens hcount with rfl | rfl
    · exact .inl rfl
    · exact hnode

/-- All that a page does suits the parameters and the nodes. The order may use the node of a
contract, and it does so only for invoices, where that node is joined. -/
theorem suits_pageStatement (hcondition : condition? entity r = .ok condition)
    (horder : order? entity r.sort = .ok order)
    (hspells : q.Spells entity (exprOf entity condition) order)
    (hparams : q.params = numbered (scope entity) 0 (valuesOf condition) ++ ownParams tenant q)
    {u : Use} (h : u.In (tokens q.pageStatement)) :
    Suits q.params (tokens q.pageStatement) u := by
  have hnodes := introduces_pageStatement hspells horder
  have hnode : Introduces (tokens q.pageStatement) entity.nodeName := (hnodes _).2 (.inl rfl)
  rw [hspells.page] at h
  -- One clause after the other, from the last one on.
  rcases Use.in_append_clause (by simp [IsClause, sliceTokens]) h with h | hslice
  · rcases Use.in_append_clause (isClause_order order _) h with h | hsorted
    · rcases Use.in_append_clause (by simp [IsClause]) h with h | hreturn
      · rcases Use.in_append_clause (isClause_joinedTokens entity) h with hmatched | hjoined
        · exact suits_matched hcondition hparams hnode hmatched
        · rw [in_joinedTokens hjoined]
          exact hnode
      · rw [in_returnTokens hreturn]
        exact .inr hnode
    · obtain ⟨k, hk, rfl⟩ :=
        Order.mem_uses (fun k hk => (sound_of_order? horder k hk).1) hsorted
      -- A sort key is sound when its node is on the page.
      exact (hnodes _).2 (sound_of_order? horder k hk).2
  · exact absurd hslice (not_in_sliceTokens u)

end Statements

/-- Every compiled search is closed. What the keys are is read off the request alone, so it does not
matter in which order the compiler writes its clauses. -/
theorem compile?_closed {tenant : String} {entity : Entity} {r : Request} {limits : Limits}
    {q : Query} (h : compile? tenant entity r limits = .ok q) : q.Closed tenant entity r := by
  obtain ⟨condition, order, hcondition, horder, hspells⟩ := spells_of_compile? h
  obtain ⟨vs, hbinds, hvalues⟩ := values_of_condition? hcondition
  have hparams := params_of_compile? h hcondition
  have hlength : r.valued.length = vs.length := hbinds.length_eq
  -- The values are those of the filter and then those of the term.
  have hcount : (valuesOf condition).length = r.parameterCount entity := by
    rw [hvalues, List.length_append, length_termValues, Request.parameterCount, hlength]
  refine
    { keys := ?keys
      nodup := nodup_of_params hparams
      valued := ?valued
      term := ?searched
      tenant := get?_own hparams (by simp [ownParams])
      skip := get?_own hparams (by simp [ownParams])
      limit := get?_own hparams (by simp [ownParams])
      pageParameters := parameter_mem_pageStatement hspells horder hparams
      countParameters := parameter_mem_countStatement hspells hparams
      pageNodes := introduces_pageStatement hspells horder
      countNodes := introduces_countStatement hspells
      pageUses := fun u hu => suits_pageStatement hcondition horder hspells hparams hu
      countUses := fun u hu => suits_countStatement hcondition hspells hparams hu }
  case keys =>
    rw [keys_of_params hparams, hcount]
    rfl
  case valued =>
    intro n i hi
    obtain ⟨hn, rfl⟩ := List.getElem?_eq_some_iff.1 hi
    have hvs : n < vs.length := hlength ▸ hn
    refine ⟨vs[n], get?_of_params hparams ?_, hbinds.get hn hvs⟩
    -- The values of the filter come before those of the term.
    rw [hvalues, List.getElem?_append_left hvs, List.getElem?_eq_getElem hvs]
  case searched =>
    intro s hs n hn
    refine get?_of_params hparams ?_
    rw [hvalues, hs, hlength, List.getElem?_append_right (Nat.le_add_right _ n),
      Nat.add_sub_cancel_left]
    simp [termValues, hn]

/-- A search for invoices with a single value for `IN`, a range, a term, and a sort rule for the
contract. -/
theorem closed_of_invoice :
    let status : Filter.Item :=
      { property := "STATUS", operator := .isIn
        value := ⟨some "PAID", none, none, none, none, none⟩ }
    let amount : Filter.Item :=
      { property := "AMOUNT", operator := .between
        value := ⟨none, none, none, none, none,
          some [⟨none, some 1, none, none, none, none⟩, ⟨none, some 9, none, none, none, none⟩]⟩ }
    let r : Request :=
      { filter := some (.join .conjunction [.negate (.compare status), .compare amount])
        search := some " 2024 ", sort := [{ property := "CONTRACT_ENDED_AT" }] }
    ∃ q, compile? "acme" .invoice r {} = .ok q ∧
      q.params.keys = ["i_param_1", "i_param_2", "i_param_3", "tenant", "skip", "limit"] ∧
      q.Closed "acme" .invoice r := by
  intro status amount r
  obtain ⟨q, hq⟩ : ∃ q, compile? "acme" .invoice r {} = .ok q := ⟨_, rfl⟩
  have hclosed := compile?_closed hq
  refine ⟨q, hq, ?_, hclosed⟩
  rw [hclosed.keys]
  decide

end TenantSearch.Search
