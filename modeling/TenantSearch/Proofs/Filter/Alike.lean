import Mathlib.Data.List.Forall2
import TenantSearch.Proofs.Filter.Member
import TenantSearch.Proofs.Filter.Node
import TenantSearch.Proofs.Filter.Numbering

/-!
# `TenantSearch.Proofs.Filter.Alike`: filters that differ in their data

Two written values are alike when they set the same members and their lists have the same
lengths at every level. What the members hold is free. Filters are alike when they have the same
tree, operators, property names and flags, and values that are alike.

Each step of the compilation takes what is alike to what is alike, or fails on both with the
same error:

* `WrittenValue.Alike.value?`, `Item.Alike.compile?`, `Alike.tree?`, `Alike.compile?`.

The last step forgets the data. `Condition.Alike.expr_eq`: conditions that are alike have the
same expression.
-/

set_option autoImplicit false

namespace TenantSearch.Filter

open TenantSearch.Time (Timestamp)

/-! ### The relations -/

/-- Values of the same kind, with lists of the same length at every level. -/
inductive Value.Alike : Value → Value → Prop where
  | str (s s' : String) : Alike (.str s) (.str s')
  | int (n n' : Int64) : Alike (.int n) (.int n')
  | float (x x' : Float) : Alike (.float x) (.float x')
  | bool (b b' : Bool) : Alike (.bool b) (.bool b')
  | time (t t' : Timestamp) : Alike (.time t) (.time t')
  | list {vs vs' : List Value} (items : List.Forall₂ Alike vs vs') : Alike (.list vs) (.list vs')

/-- Written values that set the same members, with lists of the same length at every level. -/
inductive WrittenValue.Alike : WrittenValue → WrittenValue → Prop where
  | intro {str str' : Option String} {int int' : Option Int64} {float float' : Option Float}
      {bool bool' : Option Bool} {time time' : Option Timestamp}
      {array array' : Option (List WrittenValue)}
      (hstr : str.isSome = str'.isSome) (hint : int.isSome = int'.isSome)
      (hfloat : float.isSome = float'.isSome) (hbool : bool.isSome = bool'.isSome)
      (htime : time.isSome = time'.isSome)
      (harray : Option.Rel (List.Forall₂ Alike) array array') :
    Alike ⟨str, int, float, bool, time, array⟩ ⟨str', int', float', bool', time', array'⟩

/-- Comparisons of a request that differ in what their values hold. -/
structure Item.Alike (i i' : Item) : Prop where
  property : i.property = i'.property
  operator : i.operator = i'.operator
  value : i.value.Alike i'.value
  caseSensitive : i.caseSensitive = i'.caseSensitive
  includeEmpty : i.includeEmpty = i'.includeEmpty

/-- Filters with the same tree, whose comparisons are alike. -/
inductive Alike : Filter → Filter → Prop where
  | intro {negated negated' : Option Filter} {conjunction conjunction' : Option (List Filter)}
      {disjunction disjunction' : Option (List Filter)} {item item' : Option Item}
      (hnegated : Option.Rel Alike negated negated')
      (hconjunction : Option.Rel (List.Forall₂ Alike) conjunction conjunction')
      (hdisjunction : Option.Rel (List.Forall₂ Alike) disjunction disjunction')
      (hitem : Option.Rel Item.Alike item item') :
    Alike ⟨negated, conjunction, disjunction, item⟩ ⟨negated', conjunction', disjunction', item'⟩

/-- Checked filters with the same tree, whose comparisons are alike. -/
inductive Tree.Alike : Tree → Tree → Prop where
  | leaf {i i' : Item} (h : i.Alike i') : Alike (.leaf i) (.leaf i')
  | not {t t' : Tree} (h : Alike t t') : Alike (.not t) (.not t')
  | group (junction : Junction) {ts ts' : List Tree} (h : List.Forall₂ Alike ts ts') :
    Alike (.group junction ts) (.group junction ts')

/-- Comparisons of an entity that differ in what their values hold. -/
structure Comparison.Alike (c c' : Comparison) : Prop where
  property : c.property = c'.property
  operator : c.operator = c'.operator
  value : Option.Rel Value.Alike c.value c'.value
  caseSensitive : c.caseSensitive = c'.caseSensitive
  includeEmpty : c.includeEmpty = c'.includeEmpty

/-- Conditions of the same form, whose comparisons are alike. -/
inductive Condition.Alike : Condition → Condition → Prop where
  | node (negated : Bool) (junction : Option Junction) {parts parts' : List Condition}
      {comparison comparison' : Option Comparison} (hparts : List.Forall₂ Alike parts parts')
      (hcomparison : Option.Rel Comparison.Alike comparison comparison') :
    Alike (.node negated junction parts comparison) (.node negated junction parts' comparison')

/-! ### Values -/

/-- What is related is there on both sides or on none. -/
theorem isSome_eq_of_rel {α β : Type} {R : α → β → Prop} {o : Option α} {o' : Option β}
    (h : Option.Rel R o o') : o.isSome = o'.isSome := by
  cases h <;> rfl

/-- Both are there, or none is. Cases on the relation leave the two that can occur, where cases on
the two options would leave four. -/
theorem rel_of_isSome_eq {α β : Type} {o : Option α} {o' : Option β}
    (h : o.isSome = o'.isSome) : Option.Rel (fun _ _ => True) o o' := by
  cases o with
  | none =>
    cases o' with
    | none => exact .none
    | some b => cases h
  | some a =>
    cases o' with
    | none => cases h
    | some b => exact .some trivial

namespace Value

/-- Whether a value is a text depends on its kind alone. -/
theorem Alike.isText_eq {v v' : Value} (h : v.Alike v') : v.isText = v'.isText := by
  cases h <;> rfl

/-- So does whether it is a time. -/
theorem Alike.isMoment_eq {v v' : Value} (h : v.Alike v') : v.isMoment = v'.isMoment := by
  cases h <;> rfl

/-- Two lists that are alike hold times at the same places, so one is all times when the other is.
-/
theorem all_isMoment_eq {vs vs' : List Value} (h : List.Forall₂ Alike vs vs') :
    vs.all isMoment = vs'.all isMoment := by
  induction h with
  | nil => rfl
  | cons hfirst _ ih => rw [List.all_cons, List.all_cons, hfirst.isMoment_eq, ih]

/-- Whether a value is converted as a time depends on its kinds, and not on the moments that it
names. An empty list is not converted, and it is alike only to an empty one. -/
theorem Alike.isTime_eq {v v' : Value} (h : v.Alike v') : v.isTime = v'.isTime := by
  cases h with
  | list items =>
    cases items with
    | nil => rfl
    | cons hfirst hrest => rw [isTime, isTime, hfirst.isMoment_eq, all_isMoment_eq hrest]
  | _ => rfl

end Value

namespace WrittenValue

/-- Written values that are alike set as many members, so one is ambiguous when the other is. -/
theorem Alike.memberCount_eq {w w' : WrittenValue} (h : w.Alike w') :
    w.memberCount = w'.memberCount := by
  obtain ⟨hstr, hint, hfloat, hbool, htime, harray⟩ := h
  rw [memberCount, memberCount, hstr, hint, hfloat, hbool, htime, isSome_eq_of_rel harray]

/-- What is alike to a list is a list of the same length. The members are set alike, so the list is
the only one that is set. -/
theorem Alike.of_list {ws : List WrittenValue} {w' : WrittenValue} (h : (list ws).Alike w') :
    ∃ ws', w' = list ws' ∧ List.Forall₂ Alike ws ws' := by
  cases h with
  | intro hstr hint hfloat hbool htime harray =>
    cases rel_of_isSome_eq hstr
    cases rel_of_isSome_eq hint
    cases rel_of_isSome_eq hfloat
    cases rel_of_isSome_eq hbool
    cases rel_of_isSome_eq htime
    cases harray with
    | some hws => exact ⟨_, rfl, hws⟩

/-- What is alike to a scalar is a scalar of the same kind. Which member is set is the same on both
sides, and that is what makes the kind. -/
theorem Alike.of_scalar {v : Value} (hscalar : v.isScalar = true) {w' : WrittenValue}
    (h : v.written.Alike w') : ∃ v', w' = v'.written ∧ v.Alike v' := by
  cases v <;> cases h with
  | intro hstr hint hfloat hbool htime harray =>
    -- The members that are not set are not set on the other side either.
    cases rel_of_isSome_eq hstr
    cases rel_of_isSome_eq hint
    cases rel_of_isSome_eq hfloat
    cases rel_of_isSome_eq hbool
    cases rel_of_isSome_eq htime
    cases harray
    first
    | exact ⟨.str _, rfl, .str _ _⟩
    | exact ⟨.int _, rfl, .int _ _⟩
    | exact ⟨.float _, rfl, .float _ _⟩
    | exact ⟨.bool _, rfl, .bool _ _⟩
    | exact ⟨.time _, rfl, .time _ _⟩
    | cases hscalar

/-- The values of what is alike are alike, or both fail with the same error. The induction takes the
lists along, as the values of a list are read one after the other. -/
theorem Alike.value? {w w' : WrittenValue} (h : w.Alike w') :
    SameOutcome Value.Alike w.value? w'.value? := by
  induction w using WrittenValue.induct
    (Q := fun ws => ∀ ws', List.Forall₂ Alike ws ws' →
      SameOutcome (List.Forall₂ Value.Alike) (values? ws) (values? ws')) generalizing w' with
  | scalar v hscalar =>
    obtain ⟨v', rfl, hv⟩ := h.of_scalar hscalar
    rw [Value.value?_written, Value.value?_written]
    exact .ok hv
  | list ws ih =>
    obtain ⟨ws', rfl, hws⟩ := h.of_list
    rw [value?_list, value?_list]
    exact (ih ws' hws).map fun _ _ => .list
  | ambiguous w hcount =>
    rw [value?_ambiguous hcount, value?_ambiguous (h.memberCount_eq ▸ hcount)]
    exact .error _
  | nil ws' h =>
    cases h
    exact .ok .nil
  | cons w ws ih ihs ws' h =>
    cases h with
    | cons hfirst hrest =>
      rw [values?, values?]
      exact (ih hfirst).bind fun _ _ hv => (ihs _ hrest).bind fun _ _ hvs => .ok (.cons hv hvs)

end WrittenValue

/-! ### Comparisons -/

/-- The check looks at the operator and at the lengths of lists, and these are the same for both. So
both pass, or both fail with the same error. -/
theorem Comparison.Alike.check_eq {c c' : Comparison} (h : c.Alike c') :
    c.check = c'.check := by
  obtain ⟨p, operator, value, caseSensitive, includeEmpty⟩ := c
  obtain ⟨p', operator', value', caseSensitive', includeEmpty'⟩ := c'
  obtain ⟨rfl, rfl, hvalue, -, -⟩ := h
  cases hvalue with
  | none => rfl
  | some hv =>
    cases hv with
    | list items =>
      -- A range counts its bounds, up to a third one.
      cases items with
      | nil => cases operator <;> rfl
      | cons _ hrest =>
        cases hrest with
        | nil => cases operator <;> rfl
        | cons _ hrest =>
          cases hrest with
          | nil => cases operator <;> rfl
          | cons _ _ => cases operator <;> rfl
    | _ => cases operator <;> rfl

namespace Item

/-- Whether a value is taken is up to the operator, which both have in common. -/
theorem Alike.operand? {i i' : Item} (h : i.Alike i') :
    SameOutcome (Option.Rel Value.Alike) i.operand? i'.operand? := by
  rw [Item.operand?, Item.operand?, h.operator]
  by_cases htakes : i'.operator.takesValue = true
  · rw [if_pos htakes, if_pos htakes]
    exact h.value.value?.map fun _ _ => .some
  · rw [if_neg htakes, if_neg htakes]
    exact .ok .none

/-- The two comparisons differ in their values alone. The flags are the same, and what they stand
for when they are left out is as well. -/
theorem Alike.comparison {i i' : Item} (h : i.Alike i') (p : Property) {value value' : Option Value}
    (hvalue : Option.Rel Value.Alike value value') :
    (i.comparison p value).Alike (i'.comparison p value') :=
  ⟨rfl, h.operator, hvalue, congrArg (·.getD false) h.caseSensitive,
    congrArg (·.getD false) h.includeEmpty⟩

/-- Comparisons that are alike compile to comparisons that are, or fail with the same error at the
same step. -/
theorem Alike.compile? {i i' : Item} (h : i.Alike i') (entity : Entity) :
    SameOutcome Comparison.Alike (i.compile? entity) (i'.compile? entity) := by
  -- Step by step: the property, the value, the check.
  rw [compile?_eq, compile?_eq, h.property]
  refine (SameOutcome.refl (entity.resolve i'.property)).bind ?_
  rintro p _ rfl
  refine h.operand?.bind fun value value' hvalue => ?_
  have halike := h.comparison p hvalue
  -- Property and value agree so far, so the check has the same outcome.
  rw [halike.check_eq]
  exact (SameOutcome.refl _).bind fun _ _ _ => .ok halike

end Item

/-! ### Filters -/

/-- Filters that are alike have as many parts at their roots. -/
theorem Alike.memberCount_eq {f f' : Filter} (h : f.Alike f') :
    f.memberCount = f'.memberCount := by
  obtain ⟨hnegated, hconjunction, hdisjunction, hitem⟩ := h
  rw [memberCount, memberCount, isSome_eq_of_rel hnegated, isSome_eq_of_rel hconjunction,
    isSome_eq_of_rel hdisjunction, isSome_eq_of_rel hitem]

/-- What is alike to a negation is the negation of what is alike. -/
theorem Alike.of_negate {f f' : Filter} (h : f.negate.Alike f') :
    ∃ g', f' = negate g' ∧ f.Alike g' := by
  cases h with
  | intro hnegated hconjunction hdisjunction hitem =>
    cases hconjunction
    cases hdisjunction
    cases hitem
    cases hnegated with
    | some hf => exact ⟨_, rfl, hf⟩

/-- What is alike to a group joins as many filters, in the same way. -/
theorem Alike.of_join {j : Junction} {fs : List Filter} {f' : Filter} (h : (join j fs).Alike f') :
    ∃ fs', f' = join j fs' ∧ List.Forall₂ Alike fs fs' := by
  cases j <;> cases h with
  | intro hnegated hconjunction hdisjunction hitem =>
    cases hnegated
    cases hconjunction
    cases hdisjunction
    cases hitem
    exact ⟨_, rfl, ‹_›⟩

/-- What is alike to a comparison is one, with the same property and operator. -/
theorem Alike.of_compare {i : Item} {f' : Filter} (h : (compare i).Alike f') :
    ∃ i', f' = compare i' ∧ i.Alike i' := by
  cases h with
  | intro hnegated hconjunction hdisjunction hitem =>
    cases hnegated
    cases hconjunction
    cases hdisjunction
    cases hitem with
    | some hi => exact ⟨_, rfl, hi⟩

/-- Filters that are alike are checked alike. The check looks at the number of the parts of a node
and at the length of its groups, so it stops at the same node of both. -/
theorem Alike.tree? {f f' : Filter} (h : f.Alike f') :
    SameOutcome Tree.Alike f.tree? f'.tree? := by
  induction f using Filter.induct
    (Q := fun fs => ∀ fs', List.Forall₂ Alike fs fs' →
      SameOutcome (List.Forall₂ Tree.Alike) (trees? fs) (trees? fs')) generalizing f' with
  | negate f ih =>
    obtain ⟨g', rfl, hg⟩ := h.of_negate
    rw [tree?_negate, tree?_negate]
    exact (ih hg).map fun _ _ => .not
  | join j fs ih =>
    obtain ⟨fs', rfl, hfs⟩ := h.of_join
    rw [tree?_join, tree?_join, hfs.length_eq]
    -- A group that is too small fails before its members are looked at.
    by_cases hsmall : fs'.length < minGroupSize
    · rw [if_pos hsmall, if_pos hsmall]
      exact .error _
    · rw [if_neg hsmall, if_neg hsmall]
      exact (ih fs' hfs).map fun _ _ => .group j
  | compare i =>
    obtain ⟨i', rfl, hi⟩ := h.of_compare
    rw [tree?_compare, tree?_compare]
    exact .ok (.leaf hi)
  | ambiguous f hcount =>
    rw [tree?_ambiguous hcount, tree?_ambiguous (h.memberCount_eq ▸ hcount)]
    exact .error _
  | nil fs' h =>
    cases h
    exact .ok .nil
  | cons f fs ih ihs fs' h =>
    cases h with
    | cons hfirst hrest =>
      rw [trees?, trees?]
      exact (ih hfirst).bind fun _ _ ht => (ihs _ hrest).bind fun _ _ hts => .ok (.cons ht hts)

namespace Tree

mutual

/-- Checked filters that are alike compile to conditions that are. -/
theorem Alike.compile? (entity : Entity) : ∀ {t t' : Tree}, t.Alike t' →
    SameOutcome Condition.Alike (t.compile? entity) (t'.compile? entity)
  | _, _, .leaf h => (h.compile? entity).map fun _ _ hc => .node false none .nil (.some hc)
  | _, _, .not h =>
    (Alike.compile? entity h).map fun _ _ hc => .node true none (.cons hc .nil) .none
  | _, _, .group j h =>
    (Alike.compileAll? entity h).map fun _ _ hcs => .node false (some j) hcs .none

/-- The members of a group are compiled in order, so the first that fails is the same one in both.
-/
theorem Alike.compileAll? (entity : Entity) : ∀ {ts ts' : List Tree},
    List.Forall₂ Tree.Alike ts ts' →
      SameOutcome (List.Forall₂ Condition.Alike) (Tree.compileAll? entity ts)
        (Tree.compileAll? entity ts')
  | _, _, .nil => .ok .nil
  | _, _, .cons h hrest =>
    (Alike.compile? entity h).bind fun _ _ hc =>
      (Alike.compileAll? entity hrest).bind fun _ _ hcs => .ok (.cons hc hcs)

end

end Tree

/-- Filters that are alike compile to conditions that are. -/
theorem Alike.compile? {f f' : Filter} (h : f.Alike f') (entity : Entity) :
    SameOutcome Condition.Alike (f.compile? entity) (f'.compile? entity) :=
  h.tree?.bind fun _ _ ht => ht.compile? entity

/-! ### Expressions -/

namespace Comparison

/-- No value is no text, on either side. -/
theorem any_isText_eq {o o' : Option Value} (h : Option.Rel Value.Alike o o') :
    o.any Value.isText = o'.any Value.isText := by
  cases h with
  | none => rfl
  | some hv => exact hv.isText_eq

/-- The test of a value depends on its kind. The value itself is bound to a parameter, and the test
only names that. -/
theorem Alike.testValue_eq {c c' : Comparison} (h : c.Alike c') {v v' : Value}
    (hv : v.Alike v') (subject : Cypher.Term) (name : String) :
    c.testValue subject v name = c'.testValue subject v' name := by
  have hcase : c.ignoresCase = c'.ignoresCase := by
    rw [ignoresCase, ignoresCase, h.caseSensitive, h.property, h.operator, any_isText_eq h.value]
  unfold testValue
  rw [hcase, h.operator, hv.isTime_eq]

/-- So does the test of a comparison, which has nothing to look at when there is no value. The text
of a test depends on the kind of the value alone. -/
theorem Alike.test_eq {c c' : Comparison} (h : c.Alike c') (scope : Scope) (n : Nat) :
    c.test scope n = c'.test scope n := by
  -- The test of a value is settled before the comparisons are taken apart.
  have htest := fun {v v'} (hv : Value.Alike v v') => h.testValue_eq hv
  obtain ⟨p, operator, value, caseSensitive, includeEmpty⟩ := c
  obtain ⟨p', operator', value', caseSensitive', includeEmpty'⟩ := c'
  obtain ⟨rfl, rfl, hvalue, rfl, rfl⟩ := h
  cases hvalue with
  | none => rfl
  | some hv => exact htest hv _ _

/-- Comparisons that are alike have the same expression, when they begin at the same counter. The
bindings may differ, since only their number goes into the names. -/
theorem Alike.expr_eq {c c' : Comparison} (h : c.Alike c') (scope : Scope) {b b' : Bindings}
    (hb : b.counter = b'.counter) : (c.expr scope b).1 = (c'.expr scope b').1 := by
  rw [fst_expr, fst_expr, h.includeEmpty, h.operator, h.test_eq, subject, subject, h.property, hb]

/-- They bind as many values, which is one or none. -/
theorem Alike.length_values {c c' : Comparison} (h : c.Alike c') :
    c.values.length = c'.values.length := by
  have hsome := isSome_eq_of_rel h.value
  unfold values
  cases hv : c.value <;> cases hv' : c'.value <;> simp [hv, hv'] at hsome ⊢

end Comparison

namespace Condition

mutual

/-- The comparisons of conditions that are alike are alike. -/
theorem Alike.comparisons : ∀ {c c' : Condition}, c.Alike c' →
    List.Forall₂ Comparison.Alike c.comparisons c'.comparisons
  | _, _, .node _ _ hparts .none => Alike.comparisonsOf hparts
  | _, _, .node _ _ _ (.some h) => .cons h .nil

/-- The same of the members of a group. -/
theorem Alike.comparisonsOf : ∀ {cs cs' : List Condition},
    List.Forall₂ Condition.Alike cs cs' →
      List.Forall₂ Comparison.Alike (Condition.comparisonsOf cs) (Condition.comparisonsOf cs')
  | _, _, .nil => .nil
  | _, _, .cons h hrest => List.rel_append (Alike.comparisons h) (Alike.comparisonsOf hrest)

end

/-- Conditions that are alike bind as many values, so the conditions behind them begin at the same
counter. -/
theorem Alike.length_values {c c' : Condition} (h : c.Alike c') :
    c.values.length = c'.values.length := by
  have hcomparisons := Alike.comparisons h
  unfold values
  generalize c.comparisons = ds, c'.comparisons = ds' at hcomparisons ⊢
  induction hcomparisons with
  | nil => rfl
  | cons hfirst _ ih =>
    rw [List.flatMap_cons, List.flatMap_cons, List.length_append, List.length_append, ih,
      hfirst.length_values]

mutual

/-- Conditions that are alike have the same expression. The counter is threaded through the members
of a group and stays the same in both. -/
theorem Alike.expr_eq (scope : Scope) : ∀ {c c' : Condition}, c.Alike c' →
    ∀ {b b' : Bindings}, b.counter = b'.counter → (c.expr scope b).1 = (c'.expr scope b').1
  | _, _, .node negated j hparts .none, _, _, hb =>
    congrArg (fun es => exprUnder negated (.group (j.getD .conjunction) es))
      (Alike.exprs_eq scope hparts hb)
  | _, _, .node negated _ _ (.some h), _, _, hb =>
    congrArg (exprUnder negated) (h.expr_eq scope hb)

/-- The same of the members of a group, each from the counter that the ones before it leave. -/
theorem Alike.exprs_eq (scope : Scope) : ∀ {cs cs' : List Condition},
    List.Forall₂ Condition.Alike cs cs' → ∀ {b b' : Bindings}, b.counter = b'.counter →
      (exprs scope cs b).1 = (exprs scope cs' b').1
  | _, _, .nil, _, _, _ => rfl
  | _, _, @List.Forall₂.cons _ _ _ c c' _ _ h hrest, b, b', hb => by
    have hcounter : (b.bindAll scope c.values).counter = (b'.bindAll scope c'.values).counter := by
      rw [Bindings.counter_bindAll, Bindings.counter_bindAll, hb, Alike.length_values h]
    rw [fst_exprs_cons, fst_exprs_cons, Alike.expr_eq scope h hb,
      Alike.exprs_eq scope hrest hcounter]

end

/-- Conditions that are alike have the same text. -/
theorem Alike.text_eq {c c' : Condition} (h : c.Alike c') (scope : Scope) :
    (c.fragment scope).text = (c'.fragment scope).text :=
  congrArg Cypher.Expr.text (Alike.expr_eq scope h rfl)

end Condition

end TenantSearch.Filter
