import TenantSearch.Proofs.Filter.Meaning
import TenantSearch.Proofs.Search.Fault
import TenantSearch.Proofs.Search.Paging
import TenantSearch.Proofs.Search.Written

/-!
# `TenantSearch.Proofs.Search.Narrow`: what a term adds to a search

The condition of a request joins its filter and its term. They are written in one pass and number
their parameters together, so it takes a proof that the term leaves the filter as it is. The filter
comes first, so its text and its parameters are those that it has alone (`exprOf_both`). The
comparisons of the term begin with the next number (`fst_expr_termCondition`).

`Query.Narrows` compares the query of a request with that of the same request without its term. The
two differ in the condition and in the parameters of the term, and what matches with the term
matches without it. `compile?_narrowed` says that this holds of every request. Both requests fail
with the same error or both compile, and they compile when nothing is wrong with the filter and the
sort rules (`Request.Sound`).
-/

set_option autoImplicit false

namespace TenantSearch.Search

open TenantSearch.Cypher
open TenantSearch.Filter (Condition Comparison Scope Bindings numbered readings_eq_map)
open TenantSearch.Sort (Order)

/-! ### Queries with and without the term -/

/-- The statements of a query with this condition and this order. -/
structure Query.States (entity : Entity) (order : Order) (condition : Option String) (q : Query) :
    Prop where
  count :
    q.countStatement =
      pattern entity ++ whereText condition ++ " RETURN count(" ++ entity.nodeName ++ ")"
  page :
    q.pageStatement =
      pattern entity ++ whereText condition ++ joined entity ++ " RETURN " ++ entity.nodeName
        ++ order.clause entity.nodeName ++ " SKIP $skip LIMIT $limit"

/-- The text has this reading and no other. -/
def ReadsAs (text : String) (r : Reading) : Prop := ∀ r', IsReading text r' ↔ r' = r

/-- What a term asks of a property when the term is parameter `k`: that the property contains it,
without regard to case. -/
def termAtom (entity : Entity) (p : Property) (k : Nat) : Atom :=
  ⟨.lower (.property entity.nodeName p.physical),
    .relation .contains (.lower (.parameter ((scope entity).parameter k)))⟩

/-- What a term asks of a node when there are `n` parameters before its own: this of one of the
text properties, which come in the order of the table. -/
def termReading (entity : Entity) (n : Nat) : Reading :=
  .chained .disjunction
    ((entity.searchable.zipIdx (n + 1)).map fun (p, k) => .atom (termAtom entity p k))

/-- How the condition of a request is made of that of its filter and its term, when there are `n`
parameters before those of the term. -/
inductive Combines (entity : Entity) (n : Nat) :
    (filter term whole : Option String) → Prop where
  | neither : Combines entity n none none none
  | filter (f : String) : Combines entity n (some f) none (some f)
  | term (t s : String) (reads : ReadsAs s (termReading entity n)) :
      Combines entity n none (some t) (some s)
  | both (f t s : String) (r : Reading) (filterReads : ReadsAs f r)
      (termReads : ReadsAs s (termReading entity n))
      (wholeReads : ReadsAs ("(" ++ f ++ " AND " ++ s ++ ")")
        (.group .conjunction [r, termReading entity n])) :
      Combines entity n (some f) (some t) (some ("(" ++ f ++ " AND " ++ s ++ ")"))

/-- The query `q` of a request beside `plain`, the query of the same request without its term.
They have the conditions `whole` and `filter`, and `values` are those of the filter. -/
structure Query.Extends (tenant : String) (entity : Entity) (r : Request) (order : Order)
    (filter whole : Option String) (values : List Json) (plain q : Query) : Prop where
  ordered : order? entity r.sort = .ok order
  plainStates : plain.States entity order filter
  states : q.States entity order whole
  /-- Without its term, the request has a condition when it has a filter. -/
  isSome : filter.isSome = r.filter.isSome
  combines : Combines entity values.length filter r.term? whole
  plainParams : plain.params = numbered (scope entity) 0 values ++ ownParams tenant plain
  /-- The parameters of the filter are the same and come first. Each of those of the term holds
  the term. -/
  params :
    q.params =
      numbered (scope entity) 0 values
        ++ numbered (scope entity) values.length (termValues entity r.term?)
        ++ ownParams tenant q
  page : q.page = plain.page ∧ q.limit = plain.limit ∧ q.skip = plain.skip

/-- The query `q` of a request asks for no more than `plain`, the query of the same request without
its term. -/
def Query.Narrows (tenant : String) (entity : Entity) (r : Request) (plain q : Query) : Prop :=
  ∃ order filter whole values,
    Query.Extends tenant entity r order filter whole values plain q ∧
    -- What matches the condition matches that of the filter, whatever the comparisons come to.
    ∀ f w, filter = some f → whole = some w → ∀ rf rw, IsReading f rf → IsReading w rw →
      ∀ σ : Atom → Truth, rw.eval σ = .yes → rf.eval σ = .yes

/-! ### The condition of a term -/

/-- The comparison of a property with the term as an expression. -/
def termExpr (entity : Entity) (p : Property) (k : Nat) : Expr :=
  .compare (.lower (.property entity.nodeName p.physical)) .contains
    (.lower (.parameter ((scope entity).parameter k)))

/-- A comparison with the term ignores case, as the properties that it is about are texts and no
flag is set. So both sides are put in lower case. -/
theorem fst_expr_termComparison (entity : Entity) (t : String) {p : Property}
    (h : p.isText = true) (b : Bindings) :
    ((Condition.compare (termComparison t p)).expr (scope entity) b).1 =
      termExpr entity p (b.counter + 1) := by
  have hcase : (termComparison t p).ignoresCase = true := by
    simp [termComparison, Comparison.ignoresCase, h, Filter.Operator.isTextMatch,
      Filter.Value.isText]
  show ((termComparison t p).expr (scope entity) b).1 = _
  rw [Comparison.fst_expr, if_neg (by simp [termComparison])]
  exact if_pos hcase

/-- The comparisons of a term are numbered one after the other. All of them bind the same term, each
under a number of its own. -/
theorem fst_exprs_terms (entity : Entity) (t : String) (ps : List Property)
    (hps : ∀ p ∈ ps, p.isText = true) (b : Bindings) :
    (Condition.exprs (scope entity) (ps.map fun p => .compare (termComparison t p)) b).1 =
      (ps.zipIdx (b.counter + 1)).map fun (p, k) => termExpr entity p k := by
  induction ps generalizing b with
  | nil => rfl
  | cons p rest ih =>
    have hrest := ih (fun q hq => hps q (List.mem_cons_of_mem p hq))
      (b.bindAll (scope entity) (Condition.compare (termComparison t p)).values)
    rw [Bindings.counter_bindAll] at hrest
    rw [List.map_cons, Condition.fst_exprs_cons, hrest,
      fst_expr_termComparison entity t (hps p List.mem_cons_self), List.zipIdx_cons, List.map_cons]
    rfl

/-- The condition of a term as an expression, with `b.counter` parameters before its own. -/
theorem fst_expr_termCondition (entity : Entity) (t : String) (b : Bindings) :
    ((termCondition entity t).expr (scope entity) b).1 =
      .group .disjunction
        ((entity.searchable.zipIdx (b.counter + 1)).map fun (p, k) => termExpr entity p k) := by
  rw [← fst_exprs_terms entity t entity.searchable (fun p hp => (List.mem_filter.1 hp).2) b]
  rfl

/-- A group with parts is read as a chain of them, also when there is only one. -/
theorem groupReading_eq_chained (junction : Junction) {rs : List Reading} (ne : rs ≠ []) :
    groupReading junction rs = .chained junction rs := by
  cases rs with
  | nil => exact absurd rfl ne
  | cons r rest => cases rest <;> rfl

/-- The reading of the condition of a term, with the numbers that its parameters have there. -/
theorem reading_termCondition (entity : Entity) (t : String) (b : Bindings) :
    ((termCondition entity t).expr (scope entity) b).1.reading = termReading entity b.counter := by
  rw [fst_expr_termCondition, Expr.reading, readings_eq_map, List.map_map]
  refine groupReading_eq_chained .disjunction ?_
  simpa using entity.searchable_ne_nil

/-! ### Both conditions -/

/-- The filter comes first, and the term is numbered from where it stopped. -/
theorem exprOf_both (entity : Entity) (c d : Condition) :
    exprOf entity (both (some c) (some d)) =
      some (.group .conjunction [(c.expr (scope entity) {}).1,
        (d.expr (scope entity) (Bindings.bindAll {} (scope entity) c.values)).1]) := by
  show some (Expr.group .conjunction (Condition.exprs (scope entity) [c, d] {}).1) = _
  rw [Condition.fst_exprs_cons, Condition.fst_exprs_cons]
  rfl

section

variable {tenant : String} {entity : Entity} {r : Request} {limits : Limits}

/-- The text of a condition with names that are names has its reading and no other. -/
theorem readsAs_text {e : Expr} (h : e.Named) : ReadsAs e.text e.reading :=
  Expr.isReading_text_iff h

/-- Without its term, a request has the condition of its filter. -/
theorem condition?_of_search_none (entity : Entity) (r : Request) :
    condition? entity { r with search := none } = filterCondition? entity r := by
  rw [condition?_eq]
  show (filterCondition? entity r).map (both · none) = _
  cases filterCondition? entity r with
  | error e => rfl
  | ok filter => cases filter <;> rfl

/-- With its term, a request has the condition of its filter joined with that of the term. -/
theorem condition?_of_filterCondition? {entity : Entity} {r : Request} {filter : Option Condition}
    (h : filterCondition? entity r = .ok filter) :
    condition? entity r = .ok (both filter (r.term?.map (termCondition entity))) := by
  rw [condition?_eq, h]
  rfl

/-- Two conditions are joined in brackets, each as it is alone. -/
theorem text_and (d e : Expr) :
    (Expr.group .conjunction [d, e]).text = "(" ++ d.text ++ " AND " ++ e.text ++ ")" := by
  simp [Expr.text, Expr.texts, groupText, separator, String.append_assoc]

/-- Their reading is that of both. -/
theorem reading_and (d e : Expr) :
    (Expr.group .conjunction [d, e]).reading = .group .conjunction [d.reading, e.reading] := rfl

/-- The condition of a request combines its parts. There are four cases, one for each of the parts
being there or not. -/
theorem combines_both {filter : Option Condition}
    (hfilter : filterCondition? entity r = .ok filter) :
    Combines entity (valuesOf filter).length ((exprOf entity filter).map Expr.text) r.term?
      ((exprOf entity (both filter (r.term?.map (termCondition entity)))).map Expr.text) := by
  have hnamed := named_exprOf (condition?_of_filterCondition? hfilter)
  -- Without a term the condition is that of the filter, if there is one.
  cases hterm : r.term? with
  | none =>
    cases filter with
    | none => exact .neither
    | some c => exact .filter _
  | some t =>
    rw [hterm] at hnamed
    cases filter with
    | none =>
      refine .term t _ ?_
      have hreads := readsAs_text (hnamed _ rfl)
      rwa [reading_termCondition] at hreads
    | some c =>
      rw [Option.map_some, exprOf_both] at hnamed ⊢
      have hwhole := hnamed _ rfl
      have hfilterReads := readsAs_text hwhole.1
      have htermReads := readsAs_text hwhole.2.1
      have hwholeReads := readsAs_text hwhole
      -- The term is numbered behind the values of the filter.
      have hcounter : (Bindings.bindAll {} (scope entity) c.values).counter =
          (valuesOf (some c)).length :=
        (Bindings.counter_bindAll _ _ _).trans (Nat.zero_add _)
      rw [reading_termCondition, hcounter] at htermReads
      rw [text_and, reading_and, reading_termCondition, hcounter] at hwholeReads
      rw [Option.map_some, text_and]
      exact .both _ t _ _ hfilterReads htermReads hwholeReads

/-- A conjunction holds only where its left part does. -/
theorem left_of_and {v w : Truth} (h : v.and w = .yes) : v = .yes := by
  cases v <;> cases w <;> first | rfl | cases h

/-- What matches the condition of a request matches that of its filter. The readings are those of
the texts, so this is about what the store is sent. -/
theorem Combines.narrows {n : Nat} {filter term whole : Option String}
    (h : Combines entity n filter term whole) {f w : String} (hf : filter = some f)
    (hw : whole = some w) {rf rw : Reading} (hrf : IsReading f rf) (hrw : IsReading w rw)
    {σ : Atom → Truth} (hyes : rw.eval σ = .yes) : rf.eval σ = .yes := by
  -- Only with a filter and a term is there something to show.
  cases h with
  | neither => cases hf
  | term => cases hf
  | filter =>
    cases hf
    cases hw
    rwa [hrf.unique hrw]
  | both _ _ _ r hfilterReads _ hwholeReads =>
    cases hf
    cases hw
    obtain rfl := (hfilterReads rf).1 hrf
    obtain rfl := (hwholeReads rw).1 hrw
    rw [Reading.eval, Reading.evals, Reading.evals, Reading.evals, Filter.joined_and] at hyes
    exact left_of_and hyes

/-! ### Whole queries -/

/-- A request whose condition and order compile compiles. The page and the limits cannot fail. -/
theorem exists_compile? (tenant : String) (limits : Limits) {condition : Option Condition}
    {order : Order} (hcondition : condition? entity r = .ok condition)
    (horder : order? entity r.sort = .ok order) :
    ∃ q, compile? tenant entity r limits = .ok q := by
  rw [compile?, hcondition, horder]
  exact ⟨_, rfl⟩

/-- What a query with this condition and this order is. -/
theorem states_of_compile? {condition : Option Condition} {order : Order} {q : Query}
    (h : compile? tenant entity r limits = .ok q)
    (hcondition : condition? entity r = .ok condition) (horder : order? entity r.sort = .ok order) :
    q.States entity order ((exprOf entity condition).map Expr.text) := by
  obtain ⟨condition', order', hcondition', horder', hcount, hpage, -⟩ := ok_of_compile? h
  obtain rfl := Except.ok.inj (hcondition'.symm.trans hcondition)
  obtain rfl := Except.ok.inj (horder'.symm.trans horder)
  rw [whereClause_fragmentOf] at hcount hpage
  exact ⟨hcount, hpage⟩

/-- The values of the term come behind those of the filter. -/
theorem valuesOf_both (filter : Option Condition) (term : Option String) :
    valuesOf (both filter (term.map (termCondition entity))) =
      valuesOf filter ++ termValues entity term := by
  rw [valuesOf, comparisonsOf_both, comparisonsOf_termCondition, List.flatMap_append,
    values_termComparisons]
  rfl

/-- There is a condition of the filter exactly when there is a filter. A filter is never compiled
away. -/
theorem isSome_filterCondition? {filter : Option Condition}
    (h : filterCondition? entity r = .ok filter) : filter.isSome = r.filter.isSome := by
  unfold filterCondition? at h
  cases hr : r.filter with
  | none =>
    rw [hr] at h
    cases h
    rfl
  | some f =>
    rw [hr] at h
    obtain ⟨c, -, rfl⟩ := ok_of_map h
    rfl

/-- Two queries with the same filter and order differ in the term alone: what it adds to the
condition, and the parameters that it adds behind the others. -/
theorem extends_of_compile? {filter : Option Condition} {order : Order} {plain q : Query}
    (hplain : compile? tenant entity { r with search := none } limits = .ok plain)
    (hq : compile? tenant entity r limits = .ok q)
    (hfilter : filterCondition? entity r = .ok filter) (horder : order? entity r.sort = .ok order) :
    Query.Extends tenant entity r order ((exprOf entity filter).map Expr.text)
      ((exprOf entity (both filter (r.term?.map (termCondition entity)))).map Expr.text)
      (valuesOf filter) plain q := by
  have hcondition := condition?_of_filterCondition? hfilter
  have halone := (condition?_of_search_none entity r).trans hfilter
  obtain ⟨hpage, hlimit, hskip⟩ := page_of_compile? hplain
  obtain ⟨hpage', hlimit', hskip'⟩ := page_of_compile? hq
  exact
    { ordered := horder
      plainStates := states_of_compile? hplain halone horder
      states := states_of_compile? hq hcondition horder
      isSome := by simpa [exprOf] using isSome_filterCondition? hfilter
      combines := combines_both hfilter
      plainParams := params_of_compile? hplain halone
      params := by
        rw [params_of_compile? hq hcondition, valuesOf_both, Filter.numbered_append, Nat.zero_add]
      page := ⟨hpage'.trans hpage.symm, hlimit'.trans hlimit.symm, hskip'.trans hskip.symm⟩ }

/-- Two queries of a request with and without its term, when the filter and the order of the
request compile. -/
theorem narrows_of_compile? {filter : Option Condition} {order : Order}
    (hfilter : filterCondition? entity r = .ok filter) (horder : order? entity r.sort = .ok order) :
    ∃ plain q, compile? tenant entity { r with search := none } limits = .ok plain ∧
      compile? tenant entity r limits = .ok q ∧ Query.Narrows tenant entity r plain q := by
  have halone := (condition?_of_search_none entity r).trans hfilter
  have hcondition := condition?_of_filterCondition? hfilter
  obtain ⟨plain, hplain⟩ := exists_compile? tenant limits halone horder
  obtain ⟨q, hq⟩ := exists_compile? tenant limits hcondition horder
  have hextends := extends_of_compile? hplain hq hfilter horder
  refine ⟨plain, q, hplain, hq, order, _, _, valuesOf filter, hextends, ?_⟩
  intro f w hf hw rf rw hrf hrw σ hyes
  exact hextends.combines.narrows hf hw hrf hrw hyes

/-- A term has no say in whether a request compiles. It does when its filter and its order do, and
else both requests fail with the same error. -/
theorem sameOutcome_compile? (tenant : String) (entity : Entity) (r : Request) (limits : Limits) :
    SameOutcome (Query.Narrows tenant entity r)
      (compile? tenant entity { r with search := none } limits)
      (compile? tenant entity r limits) := by
  -- The condition is compiled before the order, in both requests.
  have halone := condition?_of_search_none entity r
  cases hfilter : filterCondition? entity r with
  | error e =>
    rw [compile?, compile?, halone, condition?_eq, hfilter]
    exact .error e
  | ok filter =>
  have hcondition := condition?_of_filterCondition? hfilter
  cases horder : order? entity r.sort with
  | error e =>
    rw [compile?, compile?, halone, hfilter, hcondition, horder]
    exact .error e
  | ok order =>
  obtain ⟨plain, q, hplain, hq, hnarrows⟩ := narrows_of_compile? hfilter horder
  rw [hplain, hq]
  exact .ok hnarrows

end

/-- A term leaves the filter of a search as it is and narrows what matches. Whatever the term is, a
request with a sound filter and sound sort rules compiles. -/
theorem compile?_narrowed (tenant : String) (entity : Entity) (r : Request) (limits : Limits) :
    SameOutcome (Query.Narrows tenant entity r)
        (compile? tenant entity { r with search := none } limits)
        (compile? tenant entity r limits) ∧
      (r.Sound entity →
        ∃ plain q, compile? tenant entity { r with search := none } limits = .ok plain ∧
          compile? tenant entity r limits = .ok q ∧ Query.Narrows tenant entity r plain q) := by
  have hsame := sameOutcome_compile? tenant entity r limits
  refine ⟨hsame, fun hsound => ?_⟩
  obtain ⟨q, hq⟩ := (exists_compile?_iff tenant entity r limits).2 hsound
  rw [hq] at hsame
  generalize hplain : compile? tenant entity { r with search := none } limits = x at hsame
  -- The request with its term compiles, so the one without it does too.
  cases hsame with
  | ok hnarrows => exact ⟨_, q, rfl, hq, hnarrows⟩

/-- A negated comparison and a term with spaces around it, over the two text properties of a user.
The parameters of the term are numbered behind that of the filter. -/
theorem compile?_narrowed_user :
    let r : Request :=
      { filter := some (.negate (.compare
          { property := "BOT", value := (Filter.Value.bool true).written }))
        search := some " Ada " }
    let filter := "NOT (u.bot = $u_param_1)"
    let term :=
      "(toLower(u.firstName) CONTAINS toLower($u_param_2)"
        ++ " OR toLower(u.lastName) CONTAINS toLower($u_param_3))"
    r.Sound .user ∧
      ∃ plain q, compile? "acme" .user { r with search := none } {} = .ok plain ∧
        compile? "acme" .user r {} = .ok q ∧ Query.Narrows "acme" .user r plain q ∧
        plain.countStatement = pattern .user ++ " WHERE " ++ filter ++ " RETURN count(u)" ∧
        q.countStatement =
          pattern .user ++ " WHERE (" ++ filter ++ " AND " ++ term ++ ") RETURN count(u)" := by
  intro r filter term
  have hsound : r.Sound .user := (faultsFor_eq_nil_iff .user r).1 rfl
  obtain ⟨plain, q, hplain, hq, hnarrows⟩ := (compile?_narrowed "acme" .user r {}).2 hsound
  have hfilter : (compile? "acme" .user { r with search := none } {}).toOption.map
      Query.countStatement = some (pattern .user ++ " WHERE " ++ filter ++ " RETURN count(u)") := by
    decide +kernel
  have hboth : (compile? "acme" .user r {}).toOption.map Query.countStatement =
      some (pattern .user ++ " WHERE (" ++ filter ++ " AND " ++ term ++ ") RETURN count(u)") := by
    decide +kernel
  rw [hplain] at hfilter
  rw [hq] at hboth
  exact ⟨hsound, plain, q, hplain, hq, hnarrows, Option.some.inj hfilter, Option.some.inj hboth⟩

end TenantSearch.Search
