import TenantSearch.Proofs.Filter.Alike
import TenantSearch.Proofs.Search.Step

/-!
# `TenantSearch.Proofs.Search.Alike`: statements do not depend on data

The statements of a search are made of names from the tables, and the data of the client goes
into the parameters. This is a law about two runs. Take two requests with the same sort rules,
filters that are alike, and a term in both or in neither. Whatever else they hold, whoever the
tenants are and whatever the limits, the compiler fails on both with the same error, or it gives
both the same two statements (`compile?_sameStatements`).

So no character of a value, a term or a tenant's name can reach a statement.
-/

set_option autoImplicit false

namespace TenantSearch.Search

open TenantSearch.Filter (Condition)

/-- Requests that differ in the data of their filters and terms, and in their pages. -/
structure Request.Alike (r r' : Request) : Prop where
  /-- Both filters have the same tree, with values that are alike. -/
  filter : Option.Rel Filter.Alike r.filter r'.filter
  sort : r.sort = r'.sort
  /-- Both terms are blank or absent, or none of them is. -/
  term : r.term?.isSome = r'.term?.isSome

/-- Queries with the same two statements. -/
def Query.SameStatements (q q' : Query) : Prop :=
  q.countStatement = q'.countStatement ∧ q.pageStatement = q'.pageStatement

/-- The conditions of two terms have the same form. -/
theorem termCondition_alike (entity : Entity) (term term' : String) :
    (termCondition entity term).Alike (termCondition entity term') := by
  refine .node false (some .disjunction) ?_ .none
  rw [List.forall₂_map_left_iff, List.forall₂_map_right_iff, List.forall₂_same]
  intro p _
  exact .node false none .nil (.some ⟨rfl, rfl, .some (.str term term'), rfl, rfl⟩)

/-- Terms give conditions alike if both are there or neither is. What they say is bound, and not
written. -/
theorem terms_alike (entity : Entity) {o o' : Option String} (h : o.isSome = o'.isSome) :
    Option.Rel Condition.Alike (o.map (termCondition entity)) (o'.map (termCondition entity)) := by
  cases Filter.rel_of_isSome_eq h with
  | none => exact .none
  | some _ => exact .some (termCondition_alike entity _ _)

/-- Both conditions are joined alike. -/
theorem both_alike {o o' p p' : Option Condition} (ho : Option.Rel Condition.Alike o o')
    (hp : Option.Rel Condition.Alike p p') :
    Option.Rel Condition.Alike (both o p) (both o' p') := by
  cases ho with
  | none => exact hp
  | some hc =>
    cases hp with
    | none => exact .some hc
    | some hd => exact .some (.node false (some .conjunction) (.cons hc (.cons hd .nil)) .none)

namespace Request

variable {r r' : Request}

/-- Requests alike have filters that fail alike, or that compile to conditions alike. -/
theorem Alike.filterCondition? (h : r.Alike r') (entity : Entity) :
    SameOutcome (Option.Rel Condition.Alike) (filterCondition? entity r)
      (filterCondition? entity r') := by
  obtain ⟨filter, sort, search, page, limit⟩ := r
  obtain ⟨filter', sort', search', page', limit'⟩ := r'
  obtain ⟨hfilter, -, -⟩ := h
  cases hfilter with
  | none => exact .ok .none
  | some hf => exact (hf.compile? entity).map fun _ _ => .some

/-- Requests alike fail alike, or have conditions alike. -/
theorem Alike.condition? (h : r.Alike r') (entity : Entity) :
    SameOutcome (Option.Rel Condition.Alike) (condition? entity r) (condition? entity r') := by
  rw [condition?_eq, condition?_eq]
  exact (h.filterCondition? entity).map fun o o' ho => both_alike ho (terms_alike entity h.term)

end Request

/-- Conditions that are alike have the same clause. Their texts are the same, and the clause is
written from the text alone. -/
theorem whereClause_eq (entity : Entity) {o o' : Option Condition}
    (h : Option.Rel Condition.Alike o o') :
    (fragmentOf entity o).whereClause = (fragmentOf entity o').whereClause := by
  cases h with
  | none => rfl
  | @some c c' hc =>
    have htext := hc.text_eq (scope entity)
    show (c.fragment (scope entity)).whereClause = (c'.fragment (scope entity)).whereClause
    unfold Filter.Fragment.whereClause Filter.Fragment.isEmpty
    rw [htext]

/-- The statements do not depend on the data of the request, the tenant or the limits. So no value,
no term and no tenant can change what a statement asks for. -/
theorem compile?_sameStatements (tenant tenant' : String) (entity : Entity)
    {r r' : Request} (h : r.Alike r') (limits limits' : Limits) :
    SameOutcome Query.SameStatements (compile? tenant entity r limits)
      (compile? tenant' entity r' limits') := by
  refine (h.condition? entity).bind fun o o' ho => ?_
  have hclause := whereClause_eq entity ho
  rw [h.sort]
  refine (SameOutcome.refl (order? entity r'.sort)).bind ?_
  rintro order _ rfl
  refine .ok ⟨?_, ?_⟩
  · show pattern entity ++ (fragmentOf entity o).whereClause ++ _ ++ _ ++ _ = _
    rw [hclause]
    rfl
  · show pattern entity ++ (fragmentOf entity o).whereClause ++ _ ++ _ ++ _ ++ _ ++ _ = _
    rw [hclause]
    rfl

/-- Quotes and keywords in a value and a term leave the statements as they are. They would end the
text that they stand in, if they were written into the statement. -/
theorem sameStatements_of_quotes :
    let r : Request :=
      { filter := some (.compare
          { property := "NAME", value := ⟨some "Ada", none, none, none, none, none⟩ })
        search := some "analyst" }
    let r' : Request :=
      { filter := some (.compare
          { property := "NAME", value := ⟨some "' OR true OR '", none, none, none, none, none⟩ })
        search := some ") RETURN c //", page := some 7 }
    r.Alike r' ∧ ∃ q q', compile? "acme" .contact r {} = .ok q ∧
      compile? "other" .contact r' {} = .ok q' ∧ q.SameStatements q' := by
  intro r r'
  have hvalue : (Filter.WrittenValue.mk (some "Ada") none none none none none).Alike
      ⟨some "' OR true OR '", none, none, none, none, none⟩ :=
    .intro rfl rfl rfl rfl rfl .none
  have halike : r.Alike r' :=
    ⟨.some (.intro .none .none .none (.some ⟨rfl, rfl, hvalue, rfl, rfl⟩)), rfl, by decide⟩
  have hsame := compile?_sameStatements "acme" "other" .contact halike {} {}
  obtain ⟨q, hq⟩ : ∃ q, compile? "acme" .contact r {} = .ok q := ⟨_, rfl⟩
  obtain ⟨q', hq'⟩ : ∃ q', compile? "other" .contact r' {} = .ok q' := ⟨_, rfl⟩
  rw [hq, hq'] at hsame
  cases hsame with
  | ok h => exact ⟨halike, q, q', hq, hq', h⟩

end TenantSearch.Search
