import TenantSearch.Proofs.Filter.Member
import TenantSearch.Proofs.Filter.Node

/-!
# `TenantSearch.Proofs.Filter.Fault`: what is wrong with a filter

A fault is what is wrong with one node or one comparison, looked at alone. `Filter.fault?` is
the fault of a node, `Item.fault?` that of a comparison, and neither knows how filters are
compiled.

* `reports_tree?`: the check of the nodes fails with the first fault of a node, in pre-order.
* `Item.reports_compile?`: a comparison fails with its fault.
* `reports_compile?`: a filter fails with the first fault of a node. If there is none, it fails
  with the first fault of a comparison, from left to right.

`Filter.fault?_eq_none_iff` and `Item.fault?_eq_none_iff` say what nodes and comparisons without
a fault are.
-/

set_option autoImplicit false

namespace TenantSearch.Filter

/-! ### Faults of nodes -/

/-- The fault of a node. It sets one member, and a group has two children at least. -/
def fault? (f : Filter) : Option CompileError :=
  if f.memberCount ≠ 1 then some .ambiguousNode
  else
    match f with
    | ⟨_, some fs, _, _⟩ => if fs.length < 2 then some (.smallGroup .conjunction) else none
    | ⟨_, _, some fs, _⟩ => if fs.length < 2 then some (.smallGroup .disjunction) else none
    | _ => none

/-- A node that sets none or several members has that for its fault, whatever else is wrong. -/
theorem fault?_ambiguous {f : Filter} (h : f.memberCount ≠ 1) :
    f.fault? = some .ambiguousNode := by
  unfold fault?
  exact if_pos h

/-- A negation has no fault of its own. -/
theorem fault?_negate (f : Filter) : f.negate.fault? = none := rfl

/-- A group has a fault when it is too small, whichever way it joins. -/
theorem fault?_join (j : Junction) (fs : List Filter) :
    (join j fs).fault? = if fs.length < 2 then some (.smallGroup j) else none := by
  cases j <;> rfl

/-- Groups that are equal have the same members. -/
theorem join_inj {j j' : Junction} {fs fs' : List Filter} (h : join j fs = join j' fs') :
    fs = fs' := by
  cases j <;> cases j' <;> cases h <;> rfl

/-- A node without a fault sets one member, and has two children at least if it is a group. The
fault is found before the node is compiled, so it does not depend on what the children are. -/
theorem fault?_eq_none_iff (f : Filter) :
    f.fault? = none ↔ f.memberCount = 1 ∧ ∀ j fs, f = join j fs → 2 ≤ fs.length := by
  induction f using Filter.induct (Q := fun _ => True) with
  | negate f _ =>
    have hgroup : ∀ j fs, f.negate = join j fs → 2 ≤ fs.length := by
      intro j fs heq
      cases j <;> cases heq
    exact ⟨fun _ => ⟨rfl, hgroup⟩, fun _ => rfl⟩
  | join j fs _ =>
    have hcount : (join j fs).memberCount = 1 := by cases j <;> rfl
    rw [fault?_join]
    -- The number of members is right, so the size of the group decides.
    by_cases hsmall : fs.length < 2
    · rw [if_pos hsmall]
      constructor
      · intro h
        cases h
      · intro h
        have hsize := h.2 j fs rfl
        omega
    · rw [if_neg hsmall]
      refine ⟨fun _ => ⟨hcount, ?_⟩, fun _ => rfl⟩
      intro j' fs' heq
      rw [← join_inj heq]
      omega
  | compare i =>
    have hgroup : ∀ j fs, compare i = join j fs → 2 ≤ fs.length := by
      intro j fs heq
      cases j <;> cases heq
    exact ⟨fun _ => ⟨rfl, hgroup⟩, fun _ => rfl⟩
  | ambiguous f hcount =>
    rw [fault?_ambiguous hcount]
    constructor
    · intro h
      cases h
    · intro h
      exact absurd h.1 hcount
  | nil => trivial
  | cons => trivial

/-- A node comes before all that is below it, so its fault comes before theirs. -/
theorem exists_nodes (f : Filter) : ∃ below, f.nodes = f :: below := by
  obtain ⟨negated, conjunction, disjunction, item⟩ := f
  cases negated <;> cases conjunction <;> cases disjunction <;> simp [nodes]

/-- The check of the nodes fails with the fault of the first node that has one. A node with a fault
ends the check, and in the list of faults it comes before all that is below it. -/
theorem reports_tree? (f : Filter) : Reports f.tree? (f.nodes.filterMap fault?) := by
  induction f using Filter.induct
    (Q := fun fs => Reports (trees? fs) ((fs.flatMap nodes).filterMap fault?)) with
  | negate f ih =>
    rw [tree?_negate, nodes_negate, List.filterMap_cons_none (fault?_negate f)]
    exact ih.map _
  | join j fs ih =>
    -- A small group is reported before anything below it, and a large one has no fault itself.
    rw [tree?_join, nodes_join]
    by_cases hsmall : fs.length < minGroupSize
    · rw [if_pos hsmall, List.filterMap_cons_some (b := .smallGroup j)]
      · rfl
      · rw [fault?_join]
        exact if_pos hsmall
    · rw [if_neg hsmall, List.filterMap_cons_none]
      · exact ih.map _
      · rw [fault?_join]
        exact if_neg hsmall
  | compare i =>
    rw [tree?_compare, nodes_compare]
    rfl
  | ambiguous f hcount =>
    -- What is below the node is never looked at.
    obtain ⟨below, hnodes⟩ := f.exists_nodes
    rw [tree?_ambiguous hcount, hnodes, List.filterMap_cons_some (fault?_ambiguous hcount)]
    rfl
  | nil => rfl
  | cons f fs ih ihs =>
    rw [trees?, List.flatMap_cons, List.filterMap_append]
    exact ih.bind fun t _ => ihs.bind_ok (t :: ·)

/-! ### Faults of comparisons -/

namespace WrittenValue

/-- The fault of one record of a value. It sets one member. -/
def fault? (w : WrittenValue) : Option CompileError :=
  if w.memberCount ≠ 1 then some .ambiguousValue else none

/-- A record without a fault sets one member. -/
theorem fault?_eq_none_iff (w : WrittenValue) : w.fault? = none ↔ w.memberCount = 1 := by
  unfold fault?
  by_cases hcount : w.memberCount = 1 <;> simp [hcount]

/-- A value fails when some record in it does not set one member. Lists are read from the left, and
a record is looked at before its list. -/
theorem reports_value? (w : WrittenValue) : Reports w.value? (w.parts.filterMap fault?) := by
  induction w using WrittenValue.induct
    (Q := fun ws => Reports (values? ws) ((ws.flatMap parts).filterMap fault?)) with
  | scalar v hscalar =>
    have hfault : v.written.fault? = none := by cases v <;> rfl
    rw [parts_scalar hscalar, List.filterMap_cons_none hfault, Value.value?_written]
    rfl
  | list ws ih =>
    rw [value?_list, parts_list, List.filterMap_cons_none rfl]
    exact ih.map _
  | ambiguous w hcount =>
    have hfault : w.fault? = some .ambiguousValue := if_pos hcount
    obtain ⟨below, hparts⟩ := w.exists_parts
    rw [value?_ambiguous hcount, hparts, List.filterMap_cons_some hfault]
    rfl
  | nil => rfl
  | cons w ws ih ihs =>
    rw [values?, List.flatMap_cons, List.filterMap_append]
    exact ih.bind fun v _ => ihs.bind_ok (v :: ·)

/-- Values have no other error. -/
theorem eq_of_value?_error {w : WrittenValue} {e : CompileError} (h : w.value? = .error e) :
    e = .ambiguousValue := by
  have hhead := (w.reports_value?.eq_error_iff e).1 h
  obtain ⟨part, -, hpart⟩ := List.mem_filterMap.1 (List.mem_of_mem_head? hhead)
  unfold fault? at hpart
  split at hpart <;> cases hpart
  rfl

/-- A value is one exactly when all records in it set one member. -/
theorem value?_isOk_iff (w : WrittenValue) :
    (∃ v, w.value? = .ok v) ↔ ∀ part ∈ w.parts, part.memberCount = 1 := by
  rw [w.reports_value?.isOk_iff, List.filterMap_eq_nil_iff]
  simp only [fault?_eq_none_iff]

/-- Whether the value is a list of two. -/
def isPair : WrittenValue → Bool
  | ⟨none, none, none, none, none, some [_, _]⟩ => true
  | _ => false

/-- A list of two sets no other member. -/
theorem isPair_iff (w : WrittenValue) : w.isPair = true ↔ ∃ low high, w = list [low, high] := by
  constructor
  · intro h
    unfold isPair at h
    split at h
    · exact ⟨_, _, rfl⟩
    · cases h
  · rintro ⟨low, high, rfl⟩
    rfl

end WrittenValue

/-- Whether the value is a list of two. -/
def Value.isPair : Value → Bool
  | .list [_, _] => true
  | _ => false

/-- A written value is a list of two exactly when the value that it is read as is one. So the bounds
of a range can be counted in the request, before any value is read. -/
theorem isPair_of_value? {w : WrittenValue} {v : Value} (h : w.value? = .ok v) :
    v.isPair = w.isPair := by
  induction w using WrittenValue.induct (Q := fun _ => True) with
  | scalar v' hscalar =>
    rw [Value.value?_written] at h
    cases h
    -- A scalar is no list on either side.
    cases v with
    | list items => cases hscalar
    | _ => rfl
  | list ws _ =>
    rw [WrittenValue.value?_list] at h
    obtain ⟨vs, hvs, rfl⟩ := ok_of_map h
    have hlength := WrittenValue.length_of_values? hvs
    -- Both sides count up to three.
    rcases ws with - | ⟨w₁, - | ⟨w₂, - | ⟨w₃, ws⟩⟩⟩ <;>
      rcases vs with - | ⟨v₁, - | ⟨v₂, - | ⟨v₃, vs⟩⟩⟩ <;>
      first | rfl | (simp at hlength)
  | ambiguous w hcount =>
    rw [WrittenValue.value?_ambiguous hcount] at h
    cases h
  | nil => trivial
  | cons => trivial

namespace Item

/-- The fault of a comparison. The property comes before the value, and the value before its
bounds. A value that the operator does not take has no fault. -/
def fault? (entity : Entity) (i : Item) : Option CompileError :=
  if entity.property? i.property = none then some (.unknownProperty entity.label i.property)
  else if i.operator.takesValue = false then none
  else if ¬ ∀ part ∈ i.value.parts, part.memberCount = 1 then some .ambiguousValue
  else if i.operator = .between ∧ i.value.isPair = false then some .boundsExpected
  else none

/-- The check of a value asks for two bounds where the operator is a range, and for nothing else. An
operator that takes a value has got one here, so this is the only check that can fail. -/
theorem check_valued (i : Item) (p : Property) (v : Value) :
    (i.comparison p (some v)).check =
      if i.operator = .between ∧ v.isPair = false then .error .boundsExpected else .ok () := by
  obtain ⟨logical, operator, written, sensitive, empty⟩ := i
  unfold Comparison.check comparison
  cases operator with
  | between =>
    cases v with
    | list vs => rcases vs with - | ⟨v₁, - | ⟨v₂, - | ⟨v₃, vs⟩⟩⟩ <;> rfl
    | _ => rfl
  | _ => rfl

/-- Without a value there is nothing to check, since a range takes one. -/
theorem check_plain {i : Item} (p : Property) (h : i.operator.takesValue = false) :
    (i.comparison p none).check = .ok () := by
  obtain ⟨logical, operator, written, sensitive, empty⟩ := i
  cases operator <;> first | rfl | cases h

/-- A comparison fails with its fault. At most one is found, because each step is taken only when
those before it succeed. -/
theorem reports_compile? (entity : Entity) (i : Item) :
    Reports (i.compile? entity) (i.fault? entity).toList := by
  rw [compile?_eq]
  unfold fault? Entity.resolve
  cases hproperty : entity.property? i.property with
  | none => rfl
  | some p =>
    cases htakes : i.operator.takesValue with
    -- The value is dropped, so it has no faults and nothing is left to check.
    | false =>
      have hoperand : i.operand? = .ok none := by
        rw [operand?, htakes]
        rfl
      rw [hoperand]
      show Reports ((i.comparison p none).check >>= _) []
      rw [check_plain p htakes]
      rfl
    | true =>
      have hoperand : i.operand? = i.value.value?.map some := if_pos htakes
      have hvalue := i.value.value?_isOk_iff
      rw [hoperand]
      show Reports (i.value.value?.map some >>= _)
        (if ¬ ∀ part ∈ i.value.parts, part.memberCount = 1 then some .ambiguousValue
          else if i.operator = .between ∧ i.value.isPair = false then some .boundsExpected
          else none).toList
      cases hv : i.value.value? with
      -- The value itself is wrong, and its bounds are not looked at.
      | error e =>
        -- An error of the value says that some record in it is wrong.
        have hfault : ¬ ∀ part ∈ i.value.parts, part.memberCount = 1 := by
          rw [← hvalue, hv]
          simp
        rw [if_pos hfault, WrittenValue.eq_of_value?_error hv]
        rfl
      | ok v =>
        rw [if_neg (not_not_intro (hvalue.1 ⟨v, hv⟩)), ← isPair_of_value? hv]
        show Reports ((i.comparison p (some v)).check >>= _) _
        rw [check_valued]
        -- The value is right. Only a range asks for more.
        by_cases hbounds : i.operator = .between ∧ v.isPair = false
        · rw [if_pos hbounds, if_pos hbounds]
          rfl
        · rw [if_neg hbounds, if_neg hbounds]
          rfl

/-- A comparison without a fault has a property of the entity. If it takes a value, the value
sets one member at every level, and it is a list of two where it is a range. -/
theorem fault?_eq_none_iff (entity : Entity) (i : Item) :
    i.fault? entity = none ↔
      (∃ p ∈ entity.properties, p.logical = i.property) ∧
      (i.operator.takesValue = true →
        (∀ part ∈ i.value.parts, part.memberCount = 1) ∧
        (i.operator = .between → ∃ low high, i.value = .list [low, high])) := by
  have hproperty : (∃ p ∈ entity.properties, p.logical = i.property) ↔
      entity.property? i.property ≠ none := by
    unfold Entity.property?
    simp
  simp only [← WrittenValue.isPair_iff, hproperty]
  unfold fault?
  -- The faults are taken in their order, each behind those that are ruled out.
  by_cases hp : entity.property? i.property = none
  · simp [hp]
  · rw [if_neg hp]
    cases htakes : i.operator.takesValue with
    | false => simp [hp]
    | true =>
      by_cases hall : ∀ part ∈ i.value.parts, part.memberCount = 1
      · rw [if_neg (by simp), if_neg (not_not_intro hall)]
        by_cases hbetween : i.operator = .between
        · simpa [hp, hbetween] using fun _ => hall
        · simpa [hp, hbetween] using hall
      · rw [if_neg (by simp), if_pos hall]
        simp [hall]

end Item

/-! ### Faults of filters -/

/-- The comparisons of a checked filter are those of the filter, so their faults may be looked for
in either. -/
theorem items_of_tree? {f : Filter} {t : Tree} (h : f.tree? = .ok t) : t.items = f.items := by
  induction f using Filter.induct
    (Q := fun fs => ∀ ts, trees? fs = .ok ts → Tree.itemsOf ts = fs.flatMap items)
    generalizing t with
  | negate f ih =>
    rw [tree?_negate] at h
    obtain ⟨inner, hinner, rfl⟩ := ok_of_map h
    rw [items_negate, Tree.items, ih hinner]
  | join j fs ih =>
    rw [tree?_join] at h
    split at h
    · cases h
    · obtain ⟨ts, hts, rfl⟩ := ok_of_map h
      rw [items_join, Tree.items, ih ts hts]
  | compare i =>
    rw [tree?_compare] at h
    cases h
    rw [items_compare, Tree.items]
  | ambiguous f hcount =>
    rw [tree?_ambiguous hcount] at h
    cases h
  | nil ts h =>
    cases h
    rfl
  | cons f fs ih ihs ts h =>
    obtain ⟨first, hfirst, h⟩ := ok_of_bind h
    obtain ⟨rest, hrest, h⟩ := ok_of_bind h
    cases h
    rw [Tree.itemsOf, List.flatMap_cons, ih hfirst, ihs rest hrest]

mutual

/-- A checked filter fails with the fault of the first comparison that has one. -/
theorem Tree.reports_compile? (entity : Entity) :
    ∀ t : Tree, Reports (t.compile? entity) (t.items.filterMap (Item.fault? entity))
  | .leaf i => by
    have hreports := (i.reports_compile? entity).map Condition.compare
    rw [Tree.items, Tree.compile?]
    -- The list of one comparison holds its fault, or nothing.
    cases hfault : i.fault? entity <;> simpa [hfault] using hreports
  | .not t => (Tree.reports_compile? entity t).map Condition.negate
  | .group j ts => (Tree.reports_compileAll? entity ts).map (Condition.group (some j))

/-- The same of the members of a group, one after the other. -/
theorem Tree.reports_compileAll? (entity : Entity) :
    ∀ ts : List Tree,
      Reports (Tree.compileAll? entity ts) ((Tree.itemsOf ts).filterMap (Item.fault? entity))
  | [] => rfl
  | t :: ts => by
    rw [Tree.compileAll?, Tree.itemsOf, List.filterMap_append]
    exact (Tree.reports_compile? entity t).bind fun c _ =>
      (Tree.reports_compileAll? entity ts).bind_ok (c :: ·)

end

/-- A filter fails with the fault of its first node that has one, or else with the fault of its
first comparison that has one. A comparison early in the filter gives way to a node far behind it.
-/
theorem reports_compile? (entity : Entity) (f : Filter) :
    Reports (f.compile? entity)
      (f.nodes.filterMap fault? ++ f.items.filterMap (Item.fault? entity)) := by
  -- The check runs over the whole filter before the first comparison is compiled.
  refine f.reports_tree?.bind fun t ht => ?_
  rw [← items_of_tree? ht]
  exact t.reports_compile? entity

end TenantSearch.Filter
