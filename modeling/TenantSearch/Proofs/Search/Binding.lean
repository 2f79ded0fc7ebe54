import Mathlib.Data.List.Nodup
import TenantSearch.Proofs.Filter.Binding
import TenantSearch.Proofs.Search.Step

/-!
# `TenantSearch.Proofs.Search.Binding`: the parameters of a query

The condition of a request has the comparisons of its filter and then, for a term, one
comparison for each text property (`comparisons_of_condition?`). So the parameters of a query
are the values of the filter, the term as often as there are text properties, the tenant and the
bounds of the page (`params_of_compile?`).

The names of the numbered parameters contain an underscore and those of the others do not, so
no name is bound twice (`nodup_of_params`), and each is looked up where it was bound
(`get?_of_params`, `get?_own`).
-/

set_option autoImplicit false

namespace TenantSearch.Search

open TenantSearch.Filter (Condition Comparison Scope numbered)

/-! ### Comparisons -/

/-- The comparisons of a condition, if there is one. -/
def comparisonsOf (condition : Option Condition) : List Comparison :=
  condition.elim [] Condition.comparisons

/-- The comparison of a property with the term. -/
def termComparison (term : String) (p : Property) : Comparison :=
  { property := p, operator := .contains, value := some (.str term) }

/-- The comparisons of a term, if there is one. -/
def termComparisons (entity : Entity) (term : Option String) : List Comparison :=
  term.elim [] fun s => entity.searchable.map (termComparison s)

/-- The comparisons of the filter come before those of the term. -/
theorem comparisonsOf_both (filter term : Option Condition) :
    comparisonsOf (both filter term) = comparisonsOf filter ++ comparisonsOf term := by
  cases filter <;> cases term <;>
    simp [both, comparisonsOf, Condition.group, Condition.comparisons, Condition.comparisonsOf]

/-- The term is compared with every property that can be searched, in order. They stand side by side
under one connective. -/
theorem comparisonsOf_termCondition (entity : Entity) (term : Option String) :
    comparisonsOf (term.map (termCondition entity)) = termComparisons entity term := by
  cases term with
  | none => rfl
  | some s =>
    -- A term is a group with one comparison for each property.
    show Condition.comparisonsOf (entity.searchable.map fun p => .compare (termComparison s p)) =
      entity.searchable.map (termComparison s)
    induction entity.searchable with
    | nil => rfl
    | cons p rest ih =>
      rw [List.map_cons, List.map_cons, Condition.comparisonsOf, ih]
      rfl

/-- The condition of a request has the comparisons of the filter and those of the term. Both are
compiled in one run, so the numbers of the second go on where those of the first end. -/
theorem comparisons_of_condition? {entity : Entity} {r : Request} {condition : Option Condition}
    (h : condition? entity r = .ok condition) :
    ∃ cs, List.Forall₂ (Filter.Item.Compiled entity) r.items cs ∧
      comparisonsOf condition = cs ++ termComparisons entity r.term? := by
  rw [condition?_eq] at h
  obtain ⟨filter, hfilter, rfl⟩ := ok_of_map h
  rw [comparisonsOf_both, comparisonsOf_termCondition]
  -- The term adds its comparisons behind those of the filter, so only the filter is left.
  refine ⟨comparisonsOf filter, ?_, rfl⟩
  unfold filterCondition? at hfilter
  unfold Request.items
  cases hr : r.filter with
  | none =>
    rw [hr] at hfilter
    cases hfilter
    exact .nil
  | some f =>
    rw [hr] at hfilter
    obtain ⟨c, hc, rfl⟩ := ok_of_map hfilter
    exact Condition.compiled_comparisons hc

/-- The comparisons of a request are of properties with names, and its ranges have two
bounds. -/
theorem sound_of_condition? {entity : Entity} {r : Request} {condition : Option Condition}
    (h : condition? entity r = .ok condition) :
    ∀ c ∈ comparisonsOf condition, Cypher.IsName c.property.physical ∧ c.Ranged := by
  obtain ⟨cs, hcompiled, hcomparisons⟩ := comparisons_of_condition? h
  rw [hcomparisons]
  intro c hc
  rcases List.mem_append.1 hc with hfilter | hterm
  · obtain ⟨i, -, hi⟩ := exists_of_forall₂ hcompiled hfilter
    exact ⟨hi.isName, hi.ranged⟩
  -- The comparisons of the term are `CONTAINS` on properties of the table.
  · unfold termComparisons at hterm
    cases hsearch : r.term? with
    | none => simp [hsearch] at hterm
    | some s =>
      rw [hsearch] at hterm
      obtain ⟨p, hp, rfl⟩ := List.mem_map.1 hterm
      refine ⟨Filter.isName_physical (List.mem_of_mem_filter hp), ?_⟩
      rintro ⟨⟩

/-! ### Values -/

/-- The comparisons of the filter of a request that take a value, from left to right. -/
def Request.valued (r : Request) : List Filter.Item :=
  r.items.filter (·.operator.takesValue)

/-- How many parameters the conditions of a request have. -/
def Request.parameterCount (entity : Entity) (r : Request) : Nat :=
  r.valued.length + if r.term?.isSome then entity.searchable.length else 0

/-- What the term of a request is bound to, once for each text property. -/
def termValues (entity : Entity) (term : Option String) : List Json :=
  term.elim [] fun s => entity.searchable.map fun _ => .string s

/-- The values of a condition, if there is one. -/
def valuesOf (condition : Option Condition) : List Json :=
  (comparisonsOf condition).flatMap Comparison.values

/-- Each of these comparisons has the term as its value. -/
theorem values_termComparisons (entity : Entity) (term : Option String) :
    (termComparisons entity term).flatMap Comparison.values = termValues entity term := by
  cases term with
  | none => rfl
  | some s =>
    show (entity.searchable.map (termComparison s)).flatMap Comparison.values =
      entity.searchable.map fun _ => .string s
    rw [List.flatMap_map, List.map_eq_flatMap]
    rfl

/-- The values of the filter, and those of the term. -/
theorem values_of_condition? {entity : Entity} {r : Request} {condition : Option Condition}
    (h : condition? entity r = .ok condition) :
    ∃ vs, List.Forall₂ Filter.Item.Binds r.valued vs ∧
      valuesOf condition = vs ++ termValues entity r.term? := by
  obtain ⟨cs, hcompiled, hcomparisons⟩ := comparisons_of_condition? h
  refine ⟨cs.flatMap Comparison.values, Filter.Item.Compiled.binds hcompiled, ?_⟩
  rw [valuesOf, hcomparisons, List.flatMap_append, values_termComparisons]

/-! ### Parameters -/

/-- The fragment of a condition numbers its values, if there is a condition. -/
theorem params_fragmentOf (entity : Entity) (condition : Option Condition) :
    (fragmentOf entity condition).params = numbered (scope entity) 0 (valuesOf condition) := by
  cases condition with
  | none => rfl
  | some c => exact c.params_fragment (scope entity)

/-- The names of the parameters of a condition with `n` values. -/
def parameterNames (entity : Entity) (n : Nat) : List String :=
  (List.range' 1 n).map (scope entity).parameter

/-- Values are bound to numbered parameters, in order. -/
theorem keys_numbered (entity : Entity) (vs : List Json) :
    (numbered (scope entity) 0 vs).keys = parameterNames entity vs.length :=
  Filter.keys_numbered (scope entity) 0 vs

/-- All of these names contain an underscore. The names that the request itself binds have none, so
they stay free. -/
theorem not_mem_parameterNames {key : String} (h : '_' ∉ key.toList) (entity : Entity) (n : Nat) :
    key ∉ parameterNames entity n := by
  intro hmem
  obtain ⟨k, -, rfl⟩ := List.mem_map.1 hmem
  apply h
  -- Every stem has one, whatever the entity.
  have hstem : '_' ∈ (entity.nodeName ++ "_param_").toList := by
    rw [String.toList_append]
    simp
  unfold Scope.parameter
  rw [String.toList_append]
  exact List.mem_append_left _ hstem

/-- No parameter is named twice, because the numbers differ. -/
theorem nodup_parameterNames (entity : Entity) (n : Nat) : (parameterNames entity n).Nodup := by
  have hrange : (List.range' 1 n).Nodup := List.nodup_range'
  exact List.Nodup.map (scope entity).parameter_injective hrange

/-- The values of a query, without those of its conditions. -/
def ownParams (tenant : String) (q : Query) : Members Json :=
  [("tenant", .string tenant), ("skip", .integer q.skip.toInt), ("limit", .integer q.limit.toInt)]

/-- What the condition of a query binds, and what the query binds beside it. The three of the query
come last, behind all that the condition numbers. -/
theorem params_of_compile? {tenant : String} {entity : Entity} {r : Request} {limits : Limits}
    {q : Query} {condition : Option Condition}
    (h : compile? tenant entity r limits = .ok q)
    (hcondition : condition? entity r = .ok condition) :
    q.params = numbered (scope entity) 0 (valuesOf condition) ++ ownParams tenant q := by
  obtain ⟨condition', -, hcondition', -, -, -, hparams⟩ := ok_of_compile? h
  obtain rfl : condition' = condition := Except.ok.inj (hcondition'.symm.trans hcondition)
  rw [hparams, params_fragmentOf]
  -- Each of the three keys is new, so each of the values comes last.
  have hnew : ∀ key : String, '_' ∉ key.toList →
      key ∉ (numbered (scope entity) 0 (valuesOf condition')).keys := by
    intro key hkey
    rw [keys_numbered]
    exact not_mem_parameterNames hkey entity _
  generalize numbered (scope entity) 0 (valuesOf condition') = ms at hnew ⊢
  have htenant : "tenant" ∉ ms.keys := hnew "tenant" (by decide)
  have hskip : "skip" ∉ Members.keys (ms ++ [("tenant", .string tenant)]) := by
    simpa [Members.keys] using hnew "skip" (by decide)
  have hlimit : "limit" ∉ Members.keys
      (ms ++ [("tenant", .string tenant)] ++ [("skip", .integer q.skip.toInt)]) := by
    simpa [Members.keys] using hnew "limit" (by decide)
  rw [Members.put_of_not_mem _ htenant, Members.put_of_not_mem _ hskip,
    Members.put_of_not_mem _ hlimit, List.append_assoc, List.append_assoc]
  rfl

/-- Where no key occurs twice, a member is the value of its key. The search stops at the first
member with the key, and there is no second one. -/
theorem get?_of_mem {ms : Members Json} (hnodup : ms.keys.Nodup) {key : String} {v : Json}
    (h : (key, v) ∈ ms) : ms.get? key = some v := by
  induction ms with
  | nil => cases h
  | cons m rest ih =>
    obtain ⟨k, w⟩ := m
    rw [Members.keys, List.map_cons, List.nodup_cons] at hnodup
    rcases List.mem_cons.1 h with heq | hrest
    · cases heq
      simp [Members.get?]
    · have hne : k ≠ key := by
        rintro rfl
        exact hnodup.1 (List.mem_map.2 ⟨(k, v), hrest, rfl⟩)
      rw [Members.get?, if_neg hne]
      exact ih hnodup.2 hrest

/-! ### Lookup -/

section Lookup

variable {tenant : String} {entity : Entity} {q : Query} {vs : List Json}
  (hparams : q.params = numbered (scope entity) 0 vs ++ ownParams tenant q)

include hparams

/-- The parameters are the numbered ones, and behind them those of the request itself. -/
theorem keys_of_params :
    q.params.keys = parameterNames entity vs.length ++ ["tenant", "skip", "limit"] := by
  rw [hparams, Members.keys, List.map_append, ← Members.keys, keys_numbered]
  rfl

/-- No name is bound twice. The numbered names differ by their numbers, and the other three have no
underscore. -/
theorem nodup_of_params : q.params.keys.Nodup := by
  rw [keys_of_params hparams, List.nodup_append]
  refine ⟨nodup_parameterNames entity _, by decide, ?_⟩
  rintro key hkey own hown rfl
  have hword : '_' ∉ key.toList := by
    revert hown
    clear hkey
    revert key
    decide
  exact not_mem_parameterNames hword entity _ hkey

/-- The numbered parameters hold the values in their order. -/
theorem get?_of_params {n : Nat} {v : Json} (h : vs[n]? = some v) :
    q.params.get? ((scope entity).parameter (n + 1)) = some v := by
  apply get?_of_mem (nodup_of_params hparams)
  rw [hparams]
  refine List.mem_append_left _ (List.mem_map.2 ⟨(v, n + 1), ?_, rfl⟩)
  rw [List.mk_mem_zipIdx_iff_le_and_getElem?_sub]
  exact ⟨by omega, by simpa using h⟩

/-- What the request itself binds is found under its name: no numbered parameter hides it. -/
theorem get?_own {key : String} {v : Json} (h : (key, v) ∈ ownParams tenant q) :
    q.params.get? key = some v := by
  apply get?_of_mem (nodup_of_params hparams)
  rw [hparams]
  exact List.mem_append_right _ h

end Lookup

end TenantSearch.Search
