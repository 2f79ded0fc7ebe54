import Mathlib.Data.List.Forall2
import TenantSearch.Filter.Condition
import TenantSearch.Proofs.Outcome

/-!
# `TenantSearch.Proofs.Filter.Node`: the nodes of a filter

A request may set any members of a node, so a `Filter` has nodes that mean nothing. `nodes` lists
all of them, a node before what is below it, and `items` the comparisons among them.

Proofs about filters follow one of two inductions:

* `Filter.induct`, over every filter: a node negates, joins, compares, or sets none or several
  of its members.
* `Filter.compile_induct`, over the filters that compile, together with their conditions.

Neither leaves the sixteen combinations of members to its users. `Item.Compiled` says all that
a compiled comparison has from the written one.
-/

set_option autoImplicit false

namespace TenantSearch

namespace Filter

/-! ### Members and nodes -/

/-- How many of its members a node sets. -/
def memberCount : Filter → Nat
  | ⟨negated, conjunction, disjunction, item⟩ =>
    [negated.isSome, conjunction.isSome, disjunction.isSome, item.isSome].count true

/-- The comparison of a node. -/
def item? : Filter → Option Item
  | ⟨_, _, _, item⟩ => item

mutual

/-- The nodes, each before those below it. -/
def nodes : Filter → List Filter
  | ⟨negated, conjunction, disjunction, item⟩ =>
    ⟨negated, conjunction, disjunction, item⟩ ::
      ((match negated with
        | some f => nodes f
        | none => []) ++
      (match conjunction with
        | some fs => nodesOf fs
        | none => []) ++
      (match disjunction with
        | some fs => nodesOf fs
        | none => []))
termination_by structural f => f

/-- The nodes of several filters. -/
def nodesOf : List Filter → List Filter
  | [] => []
  | f :: rest => nodes f ++ nodesOf rest
termination_by structural fs => fs

end

/-- The comparisons from left to right. -/
def items (f : Filter) : List Item := f.nodes.filterMap item?

/-- The nodes of several filters are those of each, in order. -/
theorem nodesOf_eq_flatMap (fs : List Filter) : nodesOf fs = fs.flatMap nodes := by
  induction fs with
  | nil => rfl
  | cons f rest ih => rw [nodesOf, ih, List.flatMap_cons]

/-- A negation is a node, and the others are those of the filter inside. -/
theorem nodes_negate (f : Filter) : f.negate.nodes = f.negate :: f.nodes := by
  simp [negate, nodes]

/-- A group is a node, and the others are those of its members. -/
theorem nodes_join (j : Junction) (fs : List Filter) :
    (join j fs).nodes = join j fs :: fs.flatMap nodes := by
  cases j <;> simp [join, nodes, nodesOf_eq_flatMap]

/-- A comparison is a node with nothing below it. -/
theorem nodes_compare (i : Item) : (compare i).nodes = [compare i] := by
  simp [compare, nodes]

/-- A negation has no comparison of its own. -/
@[simp] theorem items_negate (f : Filter) : f.negate.items = f.items := by
  rw [items, nodes_negate, List.filterMap_cons_none rfl]
  rfl

/-- Neither has a group. -/
@[simp] theorem items_join (j : Junction) (fs : List Filter) :
    (join j fs).items = fs.flatMap items := by
  have hnode : (join j fs).item? = none := by cases j <;> rfl
  rw [items, nodes_join, List.filterMap_cons_none hnode, List.filterMap_flatMap]
  rfl

/-- A comparison is the only one at its node. -/
@[simp] theorem items_compare (i : Item) : (compare i).items = [i] := by
  rw [items, nodes_compare]
  rfl

/-- Induction over filters. A node has one of the three forms, or it sets none or several of its
members. The sixteen combinations are sorted out here, once for all. -/
theorem induct {P : Filter → Prop} {Q : List Filter → Prop}
    (negate : ∀ f, P f → P (negate f)) (join : ∀ j fs, Q fs → P (join j fs))
    (compare : ∀ i, P (compare i)) (ambiguous : ∀ f : Filter, f.memberCount ≠ 1 → P f)
    (nil : Q []) (cons : ∀ f fs, P f → Q fs → Q (f :: fs)) (f : Filter) : P f := by
  refine @Filter.rec P (fun o => ∀ f ∈ o, P f) (fun o => ∀ fs ∈ o, Q fs) Q
    ?_ ?_ ?_ ?_ ?_ ?_ ?_ f
  · intro negated conjunction disjunction item hnegated hconjunction hdisjunction
    rcases negated with - | g <;> rcases conjunction with - | gs <;>
      rcases disjunction with - | hs <;> rcases item with - | i
    -- Three of the combinations are forms, and the others have another number of members.
    case none.none.none.some => exact compare i
    case none.none.some.none => exact join .disjunction hs (hdisjunction hs rfl)
    case none.some.none.none => exact join .conjunction gs (hconjunction gs rfl)
    case some.none.none.none => exact negate g (hnegated g rfl)
    all_goals exact ambiguous _ (by simp [memberCount])
  -- The remaining goals are about the optional members and about lists.
  · intro f hf
    cases hf
  · intro g hg f hf
    cases hf
    exact hg
  · intro fs hfs
    cases hfs
  · intro gs hgs fs hfs
    cases hfs
    exact hgs
  · exact nil
  · intro g gs hg hgs
    exact cons g gs hg hgs

/-- The nodes of a filter whatever members it sets: its own, and then those of what is set. -/
theorem nodes_mk (negated : Option Filter) (conjunction disjunction : Option (List Filter))
    (item : Option Item) :
    nodes ⟨negated, conjunction, disjunction, item⟩ =
      ⟨negated, conjunction, disjunction, item⟩ ::
        (negated.toList.flatMap nodes ++ (conjunction.getD []).flatMap nodes ++
          (disjunction.getD []).flatMap nodes) := by
  cases negated <;> cases conjunction <;> cases disjunction <;>
    simp [nodes, nodesOf_eq_flatMap]

/-- The comparison of a node comes first, and then those below it. They are found in the order in
which the compiler meets them. -/
theorem items_mk (negated : Option Filter) (conjunction disjunction : Option (List Filter))
    (item : Option Item) :
    items ⟨negated, conjunction, disjunction, item⟩ =
      item.toList ++ (negated.toList.flatMap items ++ (conjunction.getD []).flatMap items ++
        (disjunction.getD []).flatMap items) := by
  have hbelow : ∀ fs : List Filter,
      (fs.flatMap nodes).filterMap item? = fs.flatMap items := by
    intro fs
    rw [List.filterMap_flatMap]
    rfl
  have hown : item? ⟨negated, conjunction, disjunction, item⟩ = item := rfl
  rw [items, nodes_mk, List.filterMap_cons, List.filterMap_append, List.filterMap_append,
    hbelow, hbelow, hbelow, hown]
  cases item <;> rfl

/-- Induction over filters whatever members their nodes set. It serves what does not depend on how
many these are. -/
theorem induct_members {P : Filter → Prop}
    (mk : ∀ negated conjunction disjunction item, (∀ f ∈ negated, P f) →
      (∀ fs ∈ conjunction, ∀ f ∈ fs, P f) → (∀ fs ∈ disjunction, ∀ f ∈ fs, P f) →
      P ⟨negated, conjunction, disjunction, item⟩) (f : Filter) : P f := by
  refine @Filter.rec P (fun o => ∀ f ∈ o, P f) (fun o => ∀ fs ∈ o, ∀ f ∈ fs, P f)
    (fun fs => ∀ f ∈ fs, P f) mk ?_ ?_ ?_ ?_ ?_ ?_ f
  · intro f hf
    cases hf
  · intro g hg f hf
    cases hf
    exact hg
  · intro fs hfs
    cases hfs
  · intro gs hgs fs hfs
    cases hfs
    exact hgs
  · intro f hf
    cases hf
  · intro g gs hg hgs f hf
    rcases List.mem_cons.1 hf with rfl | hf
    · exact hg
    · exact hgs f hf

/-! ### Checked filters -/

/-- A negation is checked as the filter inside is. -/
@[simp] theorem tree?_negate (f : Filter) : f.negate.tree? = f.tree?.map .not := by
  rw [negate, tree?]

/-- A group counts its members before it looks at them, so a small group fails for its size even if
a member is wrong as well. -/
theorem tree?_join (j : Junction) (fs : List Filter) :
    (join j fs).tree? =
      if fs.length < minGroupSize then .error (.smallGroup j)
      else (trees? fs).map (.group j) := by
  cases j <;> rw [join, tree?]

/-- A comparison passes the check of the tree. What it says is looked at later. -/
@[simp] theorem tree?_compare (i : Item) : (compare i).tree? = .ok (.leaf i) := by
  rw [compare, tree?]

/-- A node that sets none or several members fails the check, whichever they are. -/
theorem tree?_ambiguous {f : Filter} (h : f.memberCount ≠ 1) :
    f.tree? = .error .ambiguousNode := by
  obtain ⟨negated, conjunction, disjunction, item⟩ := f
  cases negated <;> cases conjunction <;> cases disjunction <;> cases item <;>
    first | exact absurd rfl h | rw [tree?] <;> simp

/-- Induction over the filters that compile, together with their conditions. A small group and an
ambiguous node do not occur there, so each filter has one of the three forms. -/
theorem compile_induct {entity : Entity} {P : Filter → Condition → Prop}
    {Q : List Filter → List Condition → Prop}
    (negate : ∀ f c, P f c → P f.negate c.negate)
    (join : ∀ j fs cs, minGroupSize ≤ fs.length → Q fs cs →
      P (join j fs) (.group (some j) cs))
    (compare : ∀ i c, i.compile? entity = .ok c → P (compare i) (.compare c))
    (nil : Q [] [])
    (cons : ∀ f fs c cs, f.compile? entity = .ok c → P f c → Q fs cs → Q (f :: fs) (c :: cs))
    {f : Filter} {c : Condition} (h : f.compile? entity = .ok c) : P f c := by
  -- The check and the compilation proper are followed together, along the filter.
  obtain ⟨t, ht, hc⟩ := ok_of_bind h
  clear h
  induction f using Filter.induct
    (Q := fun fs => ∀ ts cs, trees? fs = .ok ts → Tree.compileAll? entity ts = .ok cs → Q fs cs)
    generalizing t c with
  | negate f ih =>
    rw [tree?_negate] at ht
    obtain ⟨inner, hinner, rfl⟩ := ok_of_map ht
    obtain ⟨d, hd, rfl⟩ := ok_of_map hc
    exact negate f d (ih inner hinner hd)
  | join j fs ih =>
    rw [tree?_join] at ht
    -- A group that is too small does not compile.
    split at ht
    · cases ht
    · rename_i hsize
      obtain ⟨ts, hts, rfl⟩ := ok_of_map ht
      obtain ⟨cs, hcs, rfl⟩ := ok_of_map hc
      exact join j fs cs (by omega) (ih ts cs hts hcs)
  | compare i =>
    rw [tree?_compare] at ht
    cases ht
    obtain ⟨comparison, hcomparison, rfl⟩ := ok_of_map hc
    exact compare i comparison hcomparison
  | ambiguous f hcount =>
    rw [tree?_ambiguous hcount] at ht
    cases ht
  | nil ts cs hts hcs =>
    cases hts
    cases hcs
    exact nil
  | cons f fs ih ihs ts cs hts hcs =>
    obtain ⟨t, ht, hts⟩ := ok_of_bind hts
    obtain ⟨ts', hts', hts⟩ := ok_of_bind hts
    cases hts
    obtain ⟨c, hc, hcs⟩ := ok_of_bind hcs
    obtain ⟨cs', hcs', hcs⟩ := ok_of_bind hcs
    cases hcs
    -- The two runs over the first member are one compilation of it.
    have hfirst : f.compile? entity = .ok c := by
      rw [compile?, ht]
      exact hc
    exact cons f fs c cs' hfirst (ih t ht hc) (ihs ts' cs' hts' hcs')

/-! ### Compiled comparisons -/

namespace Item

/-- The value that the operator looks at. -/
def operand? (i : Item) : Except CompileError (Option Value) :=
  if i.operator.takesValue then i.value.value?.map some else .ok none

/-- The item as a comparison of a property with a value. -/
def comparison (i : Item) (property : Property) (value : Option Value) : Comparison :=
  { property, operator := i.operator, value
    caseSensitive := i.caseSensitive.getD false
    includeEmpty := i.includeEmpty.getD false }

/-- The steps of the compilation, with the choice of the value as a step of its own. -/
theorem compile?_eq (entity : Entity) (i : Item) :
    i.compile? entity = do
      let property ← entity.resolve i.property
      let value ← i.operand?
      (i.comparison property value).check
      return i.comparison property value := by
  unfold compile? operand?
  cases i.operator.takesValue <;> rfl

end Item

/-- A name that resolves is that of a property in the table. -/
theorem ok_of_resolve {entity : Entity} {logical : String} {p : Property}
    (h : entity.resolve logical = .ok p) : entity.property? logical = some p := by
  unfold Entity.resolve at h
  split at h
  · rename_i q hq
    rw [hq, Except.ok.inj h]
  · cases h

/-- A range that passes its check has two bounds. -/
theorem Comparison.bounds_of_check {c : Comparison} (h : c.check = .ok ())
    (hoperator : c.operator = .between) : ∃ low high, c.value = some (.list [low, high]) := by
  unfold Comparison.check at h
  split at h
  case h_1 low high _ hvalue => exact ⟨low, high, hvalue⟩
  case h_2 => cases h
  case h_3 => simp_all
  case h_4 hne => exact absurd hoperator hne

/-- What a compiled comparison has from the written one. -/
inductive Item.Compiled (entity : Entity) (i : Item) : Comparison → Prop where
  /-- The value of an operator that takes none is dropped. -/
  | plain {p : Property} (property : entity.property? i.property = some p)
    (takes : i.operator.takesValue = false) : Compiled entity i (i.comparison p none)
  /-- Any other value has one kind, and two bounds where it is a range. -/
  | valued {p : Property} {v : Value} (property : entity.property? i.property = some p)
    (takes : i.operator.takesValue = true) (value : i.value.value? = .ok v)
    (bounds : i.operator = .between → ∃ low high, v = .list [low, high]) :
    Compiled entity i (i.comparison p (some v))

/-- What compiles has all that `Item.Compiled` says. This is the only place where the steps of the
compilation are taken apart. -/
theorem Item.compiled {entity : Entity} {i : Item} {c : Comparison}
    (h : i.compile? entity = .ok c) : i.Compiled entity c := by
  rw [Item.compile?_eq] at h
  -- The property, the value and the check, in the order in which they may fail.
  obtain ⟨p, hp, h⟩ := ok_of_bind h
  obtain ⟨value, hvalue, h⟩ := ok_of_bind h
  obtain ⟨_, hcheck, h⟩ := ok_of_bind h
  cases h
  cases htakes : i.operator.takesValue with
  | false =>
    -- The value was not looked at.
    rw [Item.operand?, if_neg (by simp [htakes])] at hvalue
    cases hvalue
    exact .plain (ok_of_resolve hp) htakes
  | true =>
    rw [Item.operand?, if_pos htakes] at hvalue
    obtain ⟨v, hv, rfl⟩ := ok_of_map hvalue
    refine .valued (ok_of_resolve hp) htakes hv fun hbetween => ?_
    obtain ⟨low, high, hbounds⟩ := Comparison.bounds_of_check hcheck hbetween
    exact ⟨low, high, Option.some.inj hbounds⟩

end Filter

end TenantSearch
