import TenantSearch.Proofs.Filter.Meaning
import TenantSearch.Proofs.Filter.Operand

/-!
# `TenantSearch.Proofs.Filter.Moment`: timestamps are compared as moments

A timestamp is bound as a text, so a comparison with it has to go through `datetime`, and
`datetime` must not meet anything else.

* `Filter.compile?_converts`: in the text of a compiled filter, what is under `datetime` was a
  timestamp, and a timestamp is compared through `datetime`, alone or in a list of timestamps.
* `convertsAll_false`: a list in which only some items are timestamps is bound as it is, so those
  timestamps are compared as texts.
-/

set_option autoImplicit false

namespace TenantSearch.Filter

open TenantSearch.Cypher
open TenantSearch.Time (Timestamp)

/-! ### Moments -/

/-- A list is all timestamps if it is a list of timestamps. The test looks at each entry, and the
statement has the timestamps themselves. -/
theorem Value.all_isMoment_iff (vs : List Value) :
    vs.all isMoment = true ↔ ∃ ts : List Timestamp, vs = ts.map .time := by
  constructor
  · intro h
    induction vs with
    | nil => exact ⟨[], rfl⟩
    | cons v rest ih =>
      rw [List.all_cons, Bool.and_eq_true] at h
      obtain ⟨hv, hrest⟩ := h
      obtain ⟨ts, rfl⟩ := ih hrest
      cases v with
      | time t => exact ⟨t :: ts, rfl⟩
      | _ => cases hv
  · rintro ⟨ts, rfl⟩
    rw [List.all_map, List.all_eq_true]
    exact fun _ _ => rfl

/-- What is converted: a moment, or a list of moments with one at least. The empty list is not
converted, though all of its entries are timestamps. -/
theorem Value.isTime_iff (v : Value) :
    v.isTime = true ↔
      (∃ t, v = .time t) ∨ ∃ ts : List Timestamp, ts ≠ [] ∧ v = .list (ts.map .time) := by
  have hlist (vs : List Value) : (Value.list vs).isTime = (!vs.isEmpty && vs.all isMoment) := by
    cases vs <;> rfl
  cases v with
  | time t => exact iff_of_true rfl (.inl ⟨t, rfl⟩)
  | list vs =>
    rw [hlist, Bool.and_eq_true, all_isMoment_iff]
    constructor
    · rintro ⟨hne, ts, rfl⟩
      exact .inr ⟨ts, by simpa using hne, rfl⟩
    · rintro (⟨t, ht⟩ | ⟨ts, hne, heq⟩)
      · cases ht
      · cases heq
        exact ⟨by simpa using hne, ts, rfl⟩
  | _ => simp [isTime]

/-- Timestamps are bound as texts with milliseconds. -/
theorem Value.toParams_times (ts : List Timestamp) :
    Value.toParams (ts.map .time) = ts.map fun t => Json.string t.toMillis := by
  induction ts with
  | nil => rfl
  | cons t rest ih => rw [List.map_cons, List.map_cons, Value.toParams, ih, Value.toParam]

/-- A list of moments is bound as the list of their texts. -/
theorem Valued.bound_times (operator : Operator) (ts : List Timestamp) :
    Valued.bound ⟨operator, .list (ts.map .time)⟩ =
      .array (ts.map fun t => .string t.toMillis) := by
  rw [← Value.toParams_times]
  cases operator <;> rfl

/-! ### The text of a filter -/

/-- Lists and items under `datetime`, in the reading `r` of the text of a filter. -/
structure ConvertsLists (f : Filter) (scope : Scope) (params : Members Json) (r : Reading) :
    Prop where
  /-- The item of a list under `datetime` was a timestamp, as the others of its list were. -/
  item : ∀ x k, ⟨.item x k, true⟩ ∈ r.accesses → ∃ (n : Nat) (ts : List Timestamp) (t : Timestamp),
    f.valued[n]? = some ⟨.between, .list (ts.map .time)⟩ ∧ x = scope.parameter (n + 1) ∧
      params.get? x = some (.array (ts.map fun t => .string t.toMillis)) ∧ ts[k]? = some t
  /-- All items of a list that are converted one by one were timestamps. -/
  each : ∀ x, ⟨.each x, true⟩ ∈ r.accesses → ∃ (n : Nat) (v : Value) (ts : List Timestamp),
    f.valued[n]? = some ⟨.isIn, v⟩ ∧ x = scope.parameter (n + 1) ∧
      (v = .list (ts.map .time) ∨ ∃ t, v = .time t ∧ ts = [t]) ∧
      params.get? x = some (.array (ts.map fun t => .string t.toMillis))
  /-- Nothing is converted but parameters and what is in them. -/
  other : ∀ t, ⟨.other t, true⟩ ∉ r.accesses

/-- Where timestamps are converted, in the reading `r` of the text of a filter. -/
structure Converts (f : Filter) (scope : Scope) (params : Members Json) (r : Reading) : Prop
    extends ConvertsLists f scope params r where
  /-- A parameter under `datetime` holds a timestamp, unless its value is a list. -/
  whole : ∀ x, ⟨.whole x, true⟩ ∈ r.accesses → ∃ (n : Nat) (w : Valued),
    f.valued[n]? = some w ∧ x = scope.parameter (n + 1) ∧
      (w.value.isScalar = true →
        ∃ t, w.value = .time t ∧ params.get? x = some (.string t.toMillis))
  /-- A single timestamp is compared through `datetime`. -/
  moment : ∀ (n : Nat) operator t, f.valued[n]? = some ⟨operator, .time t⟩ →
    r.Takes (scope.parameter (n + 1)) (operator.operands (scope.parameter (n + 1))) true
  /-- So are the timestamps of a list of nothing else, after `IN` and in a range. -/
  moments : ∀ (n : Nat) operator (ts : List Timestamp), operator = .isIn ∨ operator = .between →
    ts ≠ [] → f.valued[n]? = some ⟨operator, .list (ts.map .time)⟩ →
    r.Takes (scope.parameter (n + 1)) (operator.operands (scope.parameter (n + 1))) true
  /-- A list with anything else in it is compared as it is. -/
  mixed : ∀ (n : Nat) operator vs, operator = .isIn ∨ operator = .between →
    (∃ v ∈ vs, v.isMoment = false) → f.valued[n]? = some ⟨operator, .list vs⟩ →
    r.Takes (scope.parameter (n + 1)) (operator.operands (scope.parameter (n + 1))) false

section Text

variable {entity : Entity} {f : Filter} {c : Condition}

/-- What is under `datetime` belongs to a comparison with a moment or with moments. -/
theorem exists_of_converted (h : f.compile? entity = .ok c) (scope : Scope) {o : Operand}
    (ho : ⟨o, true⟩ ∈ (c.expr scope {}).1.reading.accesses) :
    ∃ (n : Nat) (w : Valued), f.valued[n]? = some w ∧
      o ∈ w.operator.operands (scope.parameter (n + 1)) ∧ w.value.isTime = true := by
  rw [accesses_of_compile? h, mem_accessesFrom] at ho
  obtain ⟨n, w, hw, ho⟩ := ho
  obtain ⟨o', ho', heq⟩ := List.mem_map.1 ho
  obtain ⟨rfl, htime⟩ := Access.mk.inj heq
  exact ⟨n, w, hw, by simpa using ho', htime⟩

/-- Where the text converts an entry of a parameter, the parameter is bound to a list of timestamps.
There is one field for each way to get at an entry. -/
theorem convertsLists (h : f.compile? entity = .ok c) (scope : Scope) :
    ConvertsLists f scope (c.fragment scope).params (c.expr scope {}).1.reading where
  item x k hx := by
    obtain ⟨n, ⟨operator, v⟩, hw, ho, htime⟩ := exists_of_converted h scope hx
    -- Only a range is compared by items.
    obtain ⟨rfl, hk, rfl⟩ : operator = .between ∧ k < 2 ∧ x = scope.parameter (n + 1) := by
      simpa [Operator.mem_operands, and_comm] using ho
    obtain ⟨low, high, hbounds⟩ := bounds_of_mem_valued h (List.mem_of_getElem? hw)
    obtain ⟨t, rfl⟩ | ⟨ts, -, rfl⟩ := (Value.isTime_iff v).1 htime
    · cases hbounds
    -- Both bounds were timestamps, so there is one at either index.
    · have hlength : ts.length = 2 := by
        simpa using congrArg List.length (Value.list.inj hbounds)
      have hget := get?_params_of_compile? h scope hw
      rw [Valued.bound_times] at hget
      exact ⟨n, ts, ts[k], hw, rfl, hget, List.getElem?_eq_getElem (by omega)⟩
  each x hx := by
    obtain ⟨n, ⟨operator, v⟩, hw, ho, htime⟩ := exists_of_converted h scope hx
    -- Only membership is tested for each entry.
    obtain ⟨rfl, rfl⟩ : operator = .isIn ∧ x = scope.parameter (n + 1) := by
      simpa [Operator.mem_operands] using ho
    have hget := get?_params_of_compile? h scope hw
    obtain ⟨t, rfl⟩ | ⟨ts, -, rfl⟩ := (Value.isTime_iff v).1 htime
    -- A single timestamp was bound as a list of one.
    · exact ⟨n, .time t, [t], hw, rfl, .inr ⟨t, rfl, rfl⟩, hget⟩
    · rw [Valued.bound_times] at hget
      exact ⟨n, .list (ts.map .time), ts, hw, rfl, .inl rfl, hget⟩
  other t ht := by
    obtain ⟨n, w, hw, ho, -⟩ := exists_of_converted h scope ht
    cases Operator.name?_of_mem_operands ho

/-- The timestamps of a compiled filter are converted where they are compared. Each field of the
statement is one way to use a parameter, or one kind of value. Both are settled by the operands of
the operator. -/
theorem converts (h : f.compile? entity = .ok c) (scope : Scope) :
    Converts f scope (c.fragment scope).params (c.expr scope {}).1.reading where
  toConvertsLists := convertsLists h scope
  whole x hx := by
    obtain ⟨n, ⟨operator, v⟩, hw, ho, htime⟩ := exists_of_converted h scope hx
    obtain ⟨hnotIn, -, rfl⟩ : operator ≠ .isIn ∧ operator ≠ .between ∧
        x = scope.parameter (n + 1) := by
      simpa [Operator.mem_operands] using ho
    refine ⟨n, ⟨operator, v⟩, hw, rfl, fun hscalar => ?_⟩
    obtain ⟨t, rfl⟩ | ⟨ts, -, rfl⟩ := (Value.isTime_iff v).1 htime
    -- Only `IN` binds a single value as a list.
    · have hbound : Valued.bound ⟨operator, .time t⟩ = .string t.toMillis := by
        rw [Valued.bound, Item.bound_eq, if_neg (fun hlist => hnotIn hlist.1)]
        rfl
      exact ⟨t, rfl, by rw [get?_params_of_compile? h scope hw, hbound]⟩
    · cases hscalar
  moment n operator t hw := takes_of_compile? h scope hw
  moments n operator ts _ hne hw := by
    have htime := (Value.isTime_iff _).2 (.inr ⟨ts, hne, rfl⟩)
    have htakes := takes_of_compile? h scope hw
    rw [htime] at htakes
    exact htakes
  mixed n operator vs _ hmixed hw := by
    have htime : (Value.list vs).isTime = false := by
      rw [← Bool.not_eq_true, Value.isTime_iff]
      rintro (⟨t, ht⟩ | ⟨ts, -, hts⟩)
      · cases ht
      · obtain ⟨v, hv, hmoment⟩ := hmixed
        rw [Value.list.inj hts] at hv
        obtain ⟨t, -, rfl⟩ := List.mem_map.1 hv
        cases hmoment
    have htakes := takes_of_compile? h scope hw
    rw [htime] at htakes
    exact htakes

end Text

/-- The text of a compiled filter has exactly one reading, and there timestamps are converted
where they are compared. -/
theorem compile?_converts (entity : Entity) {stem : String} (hstem : IsWordText stem)
    {f : Filter} {c : Condition} (h : f.compile? entity = .ok c) :
    let scope : Scope := { node := entity.nodeName, stem }
    ∃ r, (∀ r', IsReading (c.fragment scope).text r' ↔ r' = r) ∧
      Converts f scope (c.fragment scope).params r := by
  intro scope
  have hnamed : (c.expr scope {}).1.Named :=
    Condition.named_expr (isName_nodeName entity) hstem c (Condition.isName_of_compile? h) {}
  exact ⟨(c.expr scope {}).1.reading, Expr.isReading_text_iff hnamed, converts h scope⟩

/-- The first moment of a year. -/
def newYear : Timestamp := ⟨19723, 0, 0, by decide, by decide, .inl (by decide)⟩

/-- A moment, a list of moments, and a range with one bound that is a text. The range is left as it
is, since one of its bounds is no timestamp. -/
theorem converts_of_dates :
    let since : Item :=
      { property := "CREATED_AT", operator := .atLeast, value := (Value.time newYear).written }
    let among : Item :=
      { property := "UPDATED_AT", operator := .isIn
        value := (Value.list [.time newYear, .time newYear]).written }
    let mixed : Item :=
      { property := "CREATED_AT", operator := .between
        value := (Value.list [.time newYear, .str "2024-12-31"]).written }
    let f := join .conjunction [compare since, compare among, compare mixed]
    let created := Entity.plain "CREATED_AT" "createdAt"
    let updated := Entity.plain "UPDATED_AT" "updatedAt"
    let c := Condition.group (some .conjunction)
      [.compare { property := created, operator := .atLeast, value := some (.time newYear) },
       .compare
        { property := updated, operator := .isIn
          value := some (.list [.time newYear, .time newYear]) },
       .compare
        { property := created, operator := .between
          value := some (.list [.time newYear, .str "2024-12-31"]) }]
    let scope : Scope := { node := "c", stem := "p" }
    IsWordText "p" ∧ f.compile? .contact = .ok c ∧
      (c.fragment scope).text =
        "(c.createdAt >= datetime($p1) AND c.updatedAt IN [v IN $p2 | datetime(v)] AND "
          ++ "(c.createdAt >= $p3[0] AND c.createdAt <= $p3[1]))" ∧
      ∃ r, (∀ r', IsReading (c.fragment scope).text r' ↔ r' = r) ∧
        Converts f scope (c.fragment scope).params r := by
  intro since among mixed f created updated c scope
  have hstem : IsWordText "p" := by decide
  have hcompile : f.compile? .contact = .ok c := rfl
  exact ⟨hstem, hcompile, by decide, compile?_converts .contact hstem hcompile⟩

/-! ### Lists with a timestamp among other values -/

/-- All timestamps converted, whatever stands beside them, and nothing else. -/
structure ConvertsAll (f : Filter) (scope : Scope) (params : Members Json) (r : Reading) : Prop
    extends ConvertsLists f scope params r where
  whole : ∀ x, ⟨.whole x, true⟩ ∈ r.accesses → ∃ (n : Nat) (operator : Operator) (t : Timestamp),
    f.valued[n]? = some ⟨operator, .time t⟩ ∧ x = scope.parameter (n + 1) ∧
      params.get? x = some (.string t.toMillis)
  moment : ∀ (n : Nat) operator t, f.valued[n]? = some ⟨operator, .time t⟩ →
    r.Takes (scope.parameter (n + 1)) (operator.operands (scope.parameter (n + 1))) true
  isIn : ∀ (n : Nat) vs t, f.valued[n]? = some ⟨.isIn, .list vs⟩ → .time t ∈ vs →
    ⟨.each (scope.parameter (n + 1)), true⟩ ∈ r.accesses
  between : ∀ (n : Nat) vs (k : Nat) t, f.valued[n]? = some ⟨.between, .list vs⟩ →
    vs[k]? = some (.time t) → ⟨.item (scope.parameter (n + 1)) k, true⟩ ∈ r.accesses

/-- A range from a timestamp to a text is compared as it is, and the timestamp with it. So not every
timestamp of a filter is converted. Whether a list is converted is one decision for all its entries.
-/
theorem convertsAll_false :
    let f := compare
      { property := "CREATED_AT", operator := .between
        value := (Value.list [.time newYear, .str "2024-12-31"]).written }
    let c := Condition.compare
      { property := Entity.plain "CREATED_AT" "createdAt", operator := .between
        value := some (.list [.time newYear, .str "2024-12-31"]) }
    let scope : Scope := { node := Entity.contact.nodeName, stem := "p" }
    let created : Term := .property "c" "createdAt"
    let r : Reading := .group .conjunction
      [.atom ⟨created, .relation .atLeast (.item "p1" 0)⟩,
       .atom ⟨created, .relation .atMost (.item "p1" 1)⟩]
    f.compile? .contact = .ok c ∧ IsReading (c.fragment scope).text r ∧
      ¬ ConvertsAll f scope (c.fragment scope).params r := by
  intro f c scope created r
  have hcompile : f.compile? .contact = .ok c := rfl
  have hnamed : (c.expr scope {}).1.Named :=
    Condition.named_expr (isName_nodeName .contact) (by decide) c
      (Condition.isName_of_compile? hcompile) {}
  have hname : scope.parameter 1 = "p1" := by decide
  have hreading : r = (c.expr scope {}).1.reading := by
    show r = .group .conjunction
      [.atom ⟨created, .relation .atLeast (.item (scope.parameter 1) 0)⟩,
       .atom ⟨created, .relation .atMost (.item (scope.parameter 1) 1)⟩]
    rw [hname]
  refine ⟨hcompile, (Expr.isReading_text_iff hnamed r).2 hreading, fun hall => ?_⟩
  have hlow : ⟨.item "p1" 0, true⟩ ∈ r.accesses :=
    hall.between 0 [.time newYear, .str "2024-12-31"] 0 newYear rfl rfl
  exact absurd hlow (by decide)

end TenantSearch.Filter
