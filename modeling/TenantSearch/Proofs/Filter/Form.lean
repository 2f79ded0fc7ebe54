import TenantSearch.Proofs.Filter.Node

/-!
# `TenantSearch.Proofs.Filter.Form`: compiling keeps the form

The nodes of a condition are of one general form, so the form of a condition is guessed from
its members: children without a connective are a negated filter where there is one child, and
a conjunction where there are several. The guess is wrong for some conditions. It is right for
those that have a node of one of three kinds everywhere (`Condition.Regular`), and these are
what compiling gives.

* `Condition.shape_compare`, `shape_negate`, `shape_group`: the form of each kind.
* `Filter.compile?_kept`: a filter that compiles keeps its form and its comparisons, and has
  regular nodes only.
-/

set_option autoImplicit false

namespace TenantSearch.Filter

/-! ### Nodes of conditions -/

namespace Condition

/-- The comparison of a node. -/
def comparison? : Condition → Option Comparison
  | .node _ _ _ comparison => comparison

mutual

/-- The nodes, each before those below it. -/
def nodes : Condition → List Condition
  | .node negated junction parts comparison =>
    .node negated junction parts comparison :: nodesOf parts

/-- The nodes of several conditions. -/
def nodesOf : List Condition → List Condition
  | [] => []
  | c :: rest => nodes c ++ nodesOf rest

end

/-- The comparisons at the nodes, from left to right. -/
def leaves (c : Condition) : List Comparison := c.nodes.filterMap comparison?

/-- A node that means what its members say. -/
inductive Regular : Condition → Prop where
  /-- A comparison, with nothing beside it. -/
  | leaf (c : Comparison) : Regular (.node false none [] (some c))
  /-- A group under a connective that joins several children. -/
  | group (junction : Junction) {parts : List Condition}
      (size : minGroupSize ≤ parts.length) : Regular (.node false (some junction) parts none)
  /-- A wrapper that negates its only child. -/
  | wrapper (c : Condition) : Regular (.node true none [c] none)

/-- The nodes of several conditions are those of each, in order. -/
theorem nodesOf_eq_flatMap (cs : List Condition) : nodesOf cs = cs.flatMap nodes := by
  induction cs with
  | nil => rfl
  | cons c rest ih => rw [nodesOf, ih, List.flatMap_cons]

/-- A comparison is a node with nothing below it. -/
theorem nodes_compare (c : Comparison) : (compare c).nodes = [compare c] := by
  rw [compare, nodes, nodesOf]

/-- A wrapper is a node in front of those of its child. -/
theorem nodes_negate (c : Condition) : c.negate.nodes = c.negate :: c.nodes := by
  rw [negate, nodes, nodesOf, nodesOf, List.append_nil]

/-- A group is a node in front of those of its members. -/
theorem nodes_group (j : Junction) (cs : List Condition) :
    (group (some j) cs).nodes = group (some j) cs :: cs.flatMap nodes := by
  rw [group, nodes, nodesOf_eq_flatMap]

/-- A comparison is its own leaf. -/
@[simp] theorem leaves_compare (c : Comparison) : (compare c).leaves = [c] := by
  rw [leaves, nodes_compare]
  rfl

/-- A wrapper has no leaf but those of its child. -/
@[simp] theorem leaves_negate (c : Condition) : c.negate.leaves = c.leaves := by
  rw [leaves, nodes_negate, List.filterMap_cons_none rfl]
  rfl

/-- A group has those of its members. -/
@[simp] theorem leaves_group (j : Junction) (cs : List Condition) :
    (group (some j) cs).leaves = cs.flatMap leaves := by
  rw [leaves, nodes_group, List.filterMap_cons_none rfl, List.filterMap_flatMap]
  rfl

/-! ### The form of each kind of node -/

/-- The form of a comparison is its operator. -/
@[simp] theorem shape_compare (c : Comparison) : (compare c).shape = .leaf c.operator := by
  rw [compare, shape]
  rfl

/-- The form of a wrapper is a negation. Its one child and its flag tell it from a group. -/
@[simp] theorem shape_negate (c : Condition) : c.negate.shape = .not c.shape := by
  rw [negate, shape]
  rfl

/-- A connective keeps the group apart from a wrapper, whatever the number of children. A group of
one child stays a group, where a wrapper is its child. -/
@[simp] theorem shape_group (j : Junction) (cs : List Condition) :
    (group (some j) cs).shape = .group j (shapes cs) := by
  cases j with
  | conjunction =>
    -- The general equation is for what is neither a disjunction nor a wrapper.
    rw [group, shape]
    · rfl
    · intro h
      cases h
    · intro _ h
      cases h
  | disjunction =>
    rw [group, shape]
    rfl

-- Without a connective, a group of one has the form of its only child.
example (c : Condition) : (group none [c]).shape = c.shape := by
  rw [group, shape]
  rfl

end Condition

/-! ### Compiled filters -/

/-- What a comparison has from the one of a request: the property that the entity has under
the name, the operator, the flags, and the value where the operator takes one. -/
structure Item.Kept (entity : Entity) (i : Item) (c : Comparison) : Prop where
  property : ∀ p, p = c.property ↔ p ∈ entity.properties ∧ p.logical = i.property
  operator : c.operator = i.operator
  caseSensitive : c.caseSensitive = i.caseSensitive.getD false
  includeEmpty : c.includeEmpty = i.includeEmpty.getD false
  value : i.operator.takesValue = true → ∃ v, i.value.value? = .ok v ∧ c.value = some v
  noValue : i.operator.takesValue = false → c.value = none

/-- What the compiled condition has from the filter. -/
structure Kept (entity : Entity) (f : Filter) (c : Condition) : Prop where
  /-- The filter passes its check, and the form is that of the checked filter. -/
  shape : ∃ t, f.tree? = .ok t ∧ c.shape = t.shape
  /-- The comparisons are those of the filter, in order and number. -/
  leaves : List.Forall₂ (Item.Kept entity) f.items c.leaves
  /-- Every node is of one of the three kinds. -/
  regular : ∀ n ∈ c.nodes, n.Regular

/-- A logical name belongs to one property of the table. So the property that a comparison was
compiled for can be told from its name. -/
theorem Item.property_unique {entity : Entity} {logical : String} {p : Property}
    (h : entity.property? logical = some p) (q : Property) :
    q = p ↔ q ∈ entity.properties ∧ q.logical = logical := by
  constructor
  · rintro rfl
    obtain ⟨hlogical, hmem⟩ := Entity.logical_of_property? h
    exact ⟨hmem, hlogical⟩
  · rintro ⟨hmem, rfl⟩
    have hfound := Entity.property?_logical hmem
    exact Option.some.inj (hfound.symm.trans h)

/-- A compiled comparison has everything from the one of the request. Of its value it has what the
operator takes. -/
theorem Item.Compiled.kept {entity : Entity} {i : Item} {c : Comparison}
    (h : i.Compiled entity c) : i.Kept entity c := by
  cases h with
  | plain property takes =>
    exact
      { property := Item.property_unique property
        operator := rfl
        caseSensitive := rfl
        includeEmpty := rfl
        value := fun htakes => by simp [takes] at htakes
        noValue := fun _ => rfl }
  | @valued p v property takes value _ =>
    exact
      { property := Item.property_unique property
        operator := rfl
        caseSensitive := rfl
        includeEmpty := rfl
        value := fun _ => ⟨v, value, rfl⟩
        noValue := fun htakes => by simp [takes] at htakes }

namespace Kept

variable {entity : Entity}

/-- A comparison keeps its form, and its node is regular. It has one leaf, and that leaf is the
comparison itself. -/
theorem compare {i : Item} {c : Comparison} (h : i.Compiled entity c) :
    Kept entity (.compare i) (.compare c) where
  shape := ⟨.leaf i, tree?_compare i, by rw [Condition.shape_compare, h.kept.operator, Tree.shape]⟩
  leaves := by
    rw [items_compare, Condition.leaves_compare]
    exact .cons h.kept .nil
  regular := by
    intro n hn
    rw [Condition.nodes_compare, List.mem_singleton] at hn
    rw [hn]
    exact .leaf c

/-- A negation keeps its form. Two in a row stay two, as nothing is simplified. Its leaves are those
of the filter inside. -/
theorem negate {f : Filter} {c : Condition} (h : Kept entity f c) :
    Kept entity f.negate c.negate where
  shape := by
    obtain ⟨t, ht, hshape⟩ := h.shape
    refine ⟨.not t, ?_, ?_⟩
    · rw [tree?_negate, ht]
      rfl
    · rw [Condition.shape_negate, hshape, Tree.shape]
  leaves := by
    rw [items_negate, Condition.leaves_negate]
    exact h.leaves
  regular := by
    intro n hn
    rw [Condition.nodes_negate] at hn
    rcases List.mem_cons.1 hn with rfl | hn
    · exact .wrapper c
    · exact h.regular n hn

/-- Several filters keep their forms when each does. The forms are collected in the order of the
filters. -/
theorem shapes {fs : List Filter} {cs : List Condition} (h : List.Forall₂ (Kept entity) fs cs) :
    ∃ ts, trees? fs = .ok ts ∧ Condition.shapes cs = Tree.shapes ts := by
  induction h with
  | nil => exact ⟨[], rfl, rfl⟩
  | @cons f c fs cs hfirst _ ih =>
    obtain ⟨t, ht, hshape⟩ := hfirst.shape
    obtain ⟨ts, hts, hshapes⟩ := ih
    refine ⟨t :: ts, ?_, ?_⟩
    · rw [trees?, ht, hts]
      rfl
    · rw [Condition.shapes, Tree.shapes, hshape, hshapes]

/-- A group keeps its form and its size, so it has no fewer children than the filter, and at least
as many as the check asks for. -/
theorem join {j : Junction} {fs : List Filter} {cs : List Condition}
    (hsize : minGroupSize ≤ fs.length) (h : List.Forall₂ (Kept entity) fs cs) :
    Kept entity (.join j fs) (.group (some j) cs) where
  shape := by
    obtain ⟨ts, hts, hshapes⟩ := shapes h
    refine ⟨.group j ts, ?_, ?_⟩
    · rw [tree?_join, if_neg (by omega), hts]
      rfl
    · rw [Condition.shape_group, hshapes, Tree.shape]
  leaves := by
    rw [items_join, Condition.leaves_group]
    exact List.rel_flatMap h fun _ _ hkept => hkept.leaves
  regular := by
    intro n hn
    rw [Condition.nodes_group] at hn
    rcases List.mem_cons.1 hn with rfl | hn
    · exact .group j (h.length_eq ▸ hsize)
    -- Any other node is one of a part.
    · obtain ⟨c, hc, hn⟩ := List.mem_flatMap.1 hn
      obtain ⟨f, -, hkept⟩ := exists_of_forall₂ h hc
      exact hkept.regular n hn

end Kept

/-- Compiling keeps the form of a filter and its comparisons, and gives regular nodes only. The
induction has one case for each form, and each is a lemma of `Kept`. -/
theorem compile?_kept (entity : Entity) (f : Filter) (c : Condition)
    (h : f.compile? entity = .ok c) : Kept entity f c := by
  refine compile_induct (P := Kept entity) (Q := List.Forall₂ (Kept entity))
    ?negate ?join ?compare ?nil ?cons h
  case negate => exact fun f c hkept => hkept.negate
  case join => exact fun j fs cs hsize hkept => .join hsize hkept
  case compare => exact fun i c hc => .compare (Item.compiled hc)
  case nil => exact .nil
  case cons => exact fun f fs c cs _ hfirst hrest => .cons hfirst hrest

/-- Two negations stay two, and the value of a null check is dropped, whatever it is. The value of
the null check would be ambiguous if it were looked at. -/
theorem kept_of_doubleNegation :
    let paid : Item :=
      { property := "STATUS", value := ⟨some "PAID", none, none, none, none, none⟩
        includeEmpty := some true }
    let unissued : Item :=
      { property := "ISSUED_DATE", operator := .isNull
        value := ⟨some "", some 0, none, none, none, none⟩ }
    let f := negate (join .disjunction [negate (negate (compare paid)), compare unissued])
    let c := Condition.negate (.group (some .disjunction)
      [.negate (.negate (.compare
        { property := Entity.plain "STATUS" "status", operator := .equals
          value := some (.str "PAID"), includeEmpty := true })),
       .compare
        { property := Entity.plain "ISSUED_DATE" "issuedDate", operator := .isNull
          value := none }])
    f.compile? .invoice = .ok c ∧ Kept .invoice f c := by
  intro paid unissued f c
  have hcompile : f.compile? .invoice = .ok c := rfl
  exact ⟨hcompile, compile?_kept .invoice f c hcompile⟩

end TenantSearch.Filter
