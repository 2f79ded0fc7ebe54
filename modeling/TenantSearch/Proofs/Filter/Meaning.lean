import TenantSearch.Proofs.Filter.Names

/-!
# `TenantSearch.Proofs.Filter.Meaning`: what the text of a filter means

A filter of a request has a truth value of its own, for any truth values of the comparisons in
the store: `NOT` negates, groups join all of their members, and a leaf is what its operator
says. `Filter.truth` computes this value from the filter as it was written. It knows no
condition, no expression and no text.

A comparison names the parameter with its value, so leaves are told apart by their position:
`Filter.truth` is given the number of values before the filter.

* `Condition.eval_expr`: the expression of a compiled filter has the value of the filter.
* `Filter.compile?_meaning`: the text of a compiled filter has exactly one reading, and the
  reading has the value of the filter.
-/

set_option autoImplicit false

namespace TenantSearch.Filter

open TenantSearch.Cypher

/-! ### The value of a filter -/

/-- How many values the filter compares with. -/
def valueCount (f : Filter) : Nat := f.items.countP (·.operator.takesValue)

mutual

/-- The truth value of a filter with `n` values before it. Nodes that set none or several of
their members have no value. -/
def truth (leaf : Item → Nat → Truth) : Filter → Nat → Truth
  | ⟨some f, none, none, none⟩, n => (truth leaf f n).not
  | ⟨none, some fs, none, none⟩, n => .joined .conjunction (truths leaf fs n)
  | ⟨none, none, some fs, none⟩, n => .joined .disjunction (truths leaf fs n)
  | ⟨none, none, none, some i⟩, n => leaf i n
  | _, _ => .unknown
termination_by structural f => f

/-- The truth values of several filters. Each one comes after the values of those before. -/
def truths (leaf : Item → Nat → Truth) : List Filter → Nat → List Truth
  | [], _ => []
  | f :: rest, n => truth leaf f n :: truths leaf rest (n + f.valueCount)
termination_by structural fs => fs

end

/-- A subject compared with a term that has the value `v`. Moments are converted. -/
def relatedTruth (σ : Atom → Truth) (subject : Term) (relation : Relation) (v : Value)
    (t : Term) : Truth :=
  σ ⟨subject, .relation relation (if v.isTime then .moment t else t)⟩

/-- A property matched with the text `v` that is bound to `name`. Texts of a text property are
matched in lower case, unless the item says that case matters. -/
def Item.matchTruth (i : Item) (σ : Atom → Truth) (subject : Term) (p : Property)
    (relation : Relation) (v : Value) (name : String) : Truth :=
  if p.isText ∧ v.isText ∧ i.caseSensitive ≠ some true then
    σ ⟨.lower subject, .relation relation (.lower (.parameter name))⟩
  else relatedTruth σ subject relation v (.parameter name)

/-- The truth value of the item's test, when its value is `v` and bound to `name`. The null
checks have no value. -/
def Item.testTruth (i : Item) (σ : Atom → Truth) (subject : Term) (p : Property) (v : Value)
    (name : String) : Truth :=
  match i.operator with
  | .equals => i.matchTruth σ subject p .equal v name
  | .contains => i.matchTruth σ subject p .contains v name
  | .startsWith => i.matchTruth σ subject p .startsWith v name
  | .atMost => relatedTruth σ subject .atMost v (.parameter name)
  | .atLeast => relatedTruth σ subject .atLeast v (.parameter name)
  | .between =>
    (relatedTruth σ subject .atLeast v (.item name 0)).and
      (relatedTruth σ subject .atMost v (.item name 1))
  | .isIn => σ ⟨subject, if v.isTime then .isInMoments name else .isIn name⟩
  | .isNull | .isEmpty => .unknown

/-- The truth value of a null check. An empty text is empty too. -/
def nullTruth (σ : Atom → Truth) (subject : Term) : Operator → Truth
  | .isEmpty => (σ ⟨subject, .isNull⟩).or (σ ⟨subject, .relation .equal .emptyText⟩)
  | _ => σ ⟨subject, .isNull⟩

/-- The truth value of a leaf with `n` values before it. A test with a value may also hold for
nodes that lack the property. -/
def Item.truth (entity : Entity) (scope : Scope) (σ : Atom → Truth) (i : Item) (n : Nat) :
    Truth :=
  match entity.property? i.property with
  | none => .unknown
  | some p =>
    let subject : Term := .property scope.node p.physical
    if i.operator.takesValue then
      match i.value.value? with
      | .error _ => .unknown
      | .ok v =>
        let test := i.testTruth σ subject p v (scope.parameter (n + 1))
        if i.includeEmpty = some true then test.or (σ ⟨subject, .isNull⟩) else test
    else nullTruth σ subject i.operator

/-! ### Groups -/

/-- The expressions of a list are read one by one. -/
theorem readings_eq_map (es : List Expr) : Expr.readings es = es.map Expr.reading := by
  induction es with
  | nil => rfl
  | cons e rest ih => rw [Expr.readings, ih, List.map_cons]

/-- A group without parts would always hold, whatever its connective. With one part or more, its
value is that of the parts joined by the connective. -/
theorem eval_group (σ : Atom → Truth) (j : Junction) {es : List Expr} (ne : es ≠ []) :
    (Expr.group j es).reading.eval σ = .joined j (es.map fun e => e.reading.eval σ) := by
  rw [Expr.reading, readings_eq_map]
  cases es with
  | nil => exact absurd rfl ne
  | cons e rest =>
    cases rest with
    | nil => simp [groupReading]
    | cons d rest =>
      show (Reading.group j ((e :: d :: rest).map Expr.reading)).eval σ = _
      rw [Reading.eval, Reading.evals_eq_map, List.map_map]
      rfl

/-- Two values joined by `AND` are the `AND` of them. -/
theorem joined_and (v w : Truth) : Truth.joined .conjunction [v, w] = v.and w := by
  cases v <;> cases w <;> rfl

/-- Two values joined by `OR` are the `OR` of them. -/
theorem joined_or (v w : Truth) : Truth.joined .disjunction [v, w] = v.or w := by
  cases v <;> cases w <;> rfl

/-- A conjunction of two is true, false or null as the `AND` of the two is. -/
theorem eval_and (σ : Atom → Truth) (d e : Expr) :
    (Expr.group .conjunction [d, e]).reading.eval σ =
      (d.reading.eval σ).and (e.reading.eval σ) := by
  rw [eval_group σ _ (by simp), ← joined_and]
  rfl

/-- A disjunction of two is true, false or null as the `OR` of the two is. -/
theorem eval_or (σ : Atom → Truth) (d e : Expr) :
    (Expr.group .disjunction [d, e]).reading.eval σ =
      (d.reading.eval σ).or (e.reading.eval σ) := by
  rw [eval_group σ _ (by simp), ← joined_or]
  rfl

/-! ### Comparisons -/

namespace Comparison

/-- The test without a value is what the operator asks about the property: that it is missing, or
that it is missing or an empty text. -/
theorem eval_testNull (σ : Atom → Truth) (operator : Operator) (subject : Term) :
    (testNull operator subject).reading.eval σ = nullTruth σ subject operator := by
  cases operator with
  -- This is the one test with two sides.
  | isEmpty =>
    rw [testNull, eval_or]
    rfl
  | _ => rfl

end Comparison

namespace Item

variable (i : Item) (σ : Atom → Truth) (subject : Term) (p : Property) (v : Value)
  (name : String)

/-- Only a comparison of texts ignores case. -/
theorem ignoresCase_of_not_match (h : i.operator.isTextMatch = false) :
    (i.comparison p (some v)).ignoresCase = false := by
  simp [comparison, Comparison.ignoresCase, h]

/-- What the item says of case decides, for a text in a text property. Case is ignored where the
property and the value are texts and the item does not ask for case. In all other places the
comparison is the plain one. -/
theorem eval_testValue_match (h : i.operator.isTextMatch = true) :
    ((i.comparison p (some v)).testValue subject v name).reading.eval σ =
      i.matchTruth σ subject p (Comparison.relation i.operator) v name := by
  have hcase : (i.comparison p (some v)).ignoresCase = true ↔
      p.isText ∧ v.isText ∧ i.caseSensitive ≠ some true := by
    cases hsensitive : i.caseSensitive with
    | none => simp [comparison, Comparison.ignoresCase, hsensitive, h]
    | some sensitive =>
      cases sensitive <;> simp [comparison, Comparison.ignoresCase, hsensitive, h]
  -- The three operators that match text share the last clause of the test.
  have htest : (i.comparison p (some v)).testValue subject v name =
      if (i.comparison p (some v)).ignoresCase then
        .compare (.lower subject) (Comparison.relation i.operator) (.lower (.parameter name))
      else
        .compare subject (Comparison.relation i.operator)
          (if v.isTime then .moment (.parameter name) else .parameter name) := by
    unfold Comparison.testValue
    rw [show (i.comparison p (some v)).operator = i.operator from rfl]
    cases hoperator : i.operator <;> rw [hoperator] at h <;>
      first | rfl | exact absurd h (by decide)
  rw [htest, matchTruth]
  by_cases hfolded : (i.comparison p (some v)).ignoresCase = true
  · rw [if_pos hfolded, if_pos (hcase.1 hfolded)]
    rfl
  · rw [if_neg hfolded, if_neg (fun hall => hfolded (hcase.2 hall))]
    rfl

/-- The test of a value is what the operator says of the property and the value. For texts this is
shown before, in one case for each way to treat case. -/
theorem eval_testValue (h : i.operator.takesValue = true) :
    ((i.comparison p (some v)).testValue subject v name).reading.eval σ =
      i.testTruth σ subject p v name := by
  have hmatch := i.eval_testValue_match σ subject p v name
  -- The operator decides the clause of the test.
  obtain ⟨logical, operator, written, sensitive, empty⟩ := i
  cases operator with
  | equals => exact hmatch rfl
  | contains => exact hmatch rfl
  | startsWith => exact hmatch rfl
  | between =>
    rw [Comparison.testValue, comparison, eval_and]
    rfl
  -- A list of times is converted entry by entry, which the pattern of the test does not show.
  | isIn =>
    rw [Comparison.testValue, comparison, testTruth]
    cases v.isTime <;> rfl
  | atMost =>
    have hcase := ignoresCase_of_not_match ⟨logical, .atMost, written, sensitive, empty⟩ p v rfl
    rw [Comparison.testValue, hcase]
    rfl
  | atLeast =>
    have hcase := ignoresCase_of_not_match ⟨logical, .atLeast, written, sensitive, empty⟩ p v rfl
    rw [Comparison.testValue, hcase]
    rfl
  -- The other operators take no value.
  | isNull => cases h
  | isEmpty => cases h

end Item

/-- The expression of a comparison has the value of the item that it was compiled from. A missing
property is let in where the item says so, and only if the operator takes a value. -/
theorem Item.Compiled.eval_expr {entity : Entity} {i : Item} {c : Comparison}
    (h : i.Compiled entity c) (scope : Scope) (σ : Atom → Truth) (b : Bindings) :
    (c.expr scope b).1.reading.eval σ = i.truth entity scope σ b.counter := by
  unfold Item.truth
  rw [Comparison.fst_expr]
  cases h with
  | @plain p hproperty htakes =>
    have htakes' : (i.comparison p none).operator.takesValue = false := htakes
    rw [htakes', Bool.and_false, if_neg (by simp)]
    simp only [hproperty, htakes]
    exact Comparison.eval_testNull σ i.operator _
  | @valued p v hproperty htakes hvalue hbounds =>
    have htakes' : (i.comparison p (some v)).operator.takesValue = true := htakes
    -- A flag that is not written counts as false.
    have hmissing : (i.comparison p (some v)).includeEmpty = true ↔
        i.includeEmpty = some true := by
      obtain ⟨_, _, _, _, empty⟩ := i
      cases empty <;> simp [Item.comparison]
    have htest : ((i.comparison p (some v)).test scope b.counter).reading.eval σ =
        i.testTruth σ (.property scope.node p.physical) p v (scope.parameter (b.counter + 1)) :=
      i.eval_testValue σ _ p v _ htakes
    rw [htakes', Bool.and_true]
    simp only [hproperty, htakes, hvalue, if_true]
    by_cases hempty : i.includeEmpty = some true
    · rw [if_pos (hmissing.2 hempty), if_pos hempty, eval_or, htest]
      rfl
    · rw [if_neg (fun h => hempty (hmissing.1 h)), if_neg hempty, htest]

/-! ### Filters -/

/-- Filters under a connective are joined by it. -/
theorem truth_join (leaf : Item → Nat → Truth) (j : Junction) (fs : List Filter) (n : Nat) :
    (join j fs).truth leaf n = .joined j (truths leaf fs n) := by
  cases j <;> rw [join, truth]

namespace Condition

variable {entity : Entity} {f : Filter} {c : Condition}

/-- A compiled filter binds one value for each comparison that takes one. -/
theorem length_values (h : f.compile? entity = .ok c) : c.values.length = f.valueCount := by
  have hbinds := Item.Compiled.binds (compiled_comparisons h)
  rw [values, ← hbinds.length_eq, valueCount, List.countP_eq_length_filter]

/-- What a compiled filter refers to is read as names. -/
theorem isName_of_compile? (h : f.compile? entity = .ok c) :
    ∀ d ∈ c.comparisons, IsName d.property.physical := by
  intro d hd
  obtain ⟨i, -, hi⟩ := exists_of_forall₂ (compiled_comparisons h) hd
  exact hi.isName

/-- The expression of a compiled filter has the value of the filter. The number of values
before the filter is the counter of the bindings before the expression. -/
theorem eval_expr (scope : Scope) (σ : Atom → Truth) (h : f.compile? entity = .ok c)
    (b : Bindings) :
    (c.expr scope b).1.reading.eval σ = f.truth (Item.truth entity scope σ) b.counter := by
  -- The induction follows the compilation. The bindings before the expression are arbitrary,
  -- because each part of a group starts from those of the parts before it.
  revert b
  refine compile_induct
    (P := fun f c => ∀ b, (c.expr scope b).1.reading.eval σ =
      f.truth (Item.truth entity scope σ) b.counter)
    (Q := fun fs cs => ∀ b, (exprs scope cs b).1.map (fun e => e.reading.eval σ) =
      truths (Item.truth entity scope σ) fs b.counter) ?_ ?_ ?_ ?_ ?_ h
  · intro f c ih b
    have hvalue : (c.negate.expr scope b).1.reading.eval σ =
        ((c.expr scope b).1.reading.eval σ).not := rfl
    rw [hvalue, ih b, Filter.negate, truth]
  · intro j fs cs hsize ih b
    have hne : (exprs scope cs b).1 ≠ [] := by
      intro hnil
      have htruths := ih b
      rw [hnil] at htruths
      -- A group without parts comes from a filter without members, and those do not compile.
      cases fs with
      | nil => exact absurd hsize (by decide)
      | cons f rest => simp [truths] at htruths
    rw [truth_join, ← ih b, ← eval_group σ j hne]
    rfl
  · intro i c hc b
    rw [Filter.compare, truth]
    exact (Item.compiled hc).eval_expr scope σ b
  · intro b
    rfl
  · intro f fs c cs hfirst ih ihs b
    -- The first condition binds as many values as the first filter counts.
    have hrest := ihs (c.expr scope b).2
    rw [bindings_expr, Bindings.counter_bindAll, length_values hfirst] at hrest
    rw [truths, ← ih b, ← hrest, exprs, List.map_cons, bindings_expr]

end Condition

/-- The text of a compiled filter has exactly one reading, and for all truth values of the
comparisons the reading has the value of the filter. -/
theorem compile?_meaning (entity : Entity) {stem : String} (hstem : IsWordText stem)
    {f : Filter} {c : Condition} (h : f.compile? entity = .ok c) :
    let scope : Scope := { node := entity.nodeName, stem }
    ∃ r, (∀ r', IsReading (c.fragment scope).text r' ↔ r' = r) ∧
      ∀ σ, r.eval σ = f.truth (Item.truth entity scope σ) 0 := by
  intro scope
  have hnamed : (c.expr scope {}).1.Named :=
    Condition.named_expr (isName_nodeName entity) hstem c (Condition.isName_of_compile? h) {}
  refine ⟨(c.expr scope {}).1.reading, ?_, ?_⟩
  · intro r'
    exact Expr.isReading_text_iff hnamed r'
  · intro σ
    exact Condition.eval_expr scope σ h {}

/-- A negated disjunction of a double negation and a null check. The value of the first comparison
holds a parenthesis and a connective, which have no part in the text. -/
theorem meaning_of_nested :
    IsWordText "p" ∧
      ∃ r,
        (∀ r', IsReading
          "NOT ((NOT (NOT ((toLower(c.name) = toLower($p1) OR c.name IS NULL))) OR c.id IS NULL))"
          r' ↔ r' = r) ∧
        ∀ σ, r.eval σ =
          ((((σ ⟨.lower (.property "c" "name"), .relation .equal (.lower (.parameter "p1"))⟩).or
            (σ ⟨.property "c" "name", .isNull⟩)).not.not).or
              (σ ⟨.property "c" "id", .isNull⟩)).not := by
  refine ⟨by decide, ?_⟩
  let i : Item :=
    { property := "NAME", value := ⟨some "a) OR (b", none, none, none, none, none⟩
      includeEmpty := some true }
  let f : Filter :=
    negate (join .disjunction
      [negate (negate (compare i)), compare { property := "ID", operator := .isNull }])
  let name : Comparison := i.comparison (Entity.text "NAME" "name") (some (.str "a) OR (b"))
  let id : Comparison :=
    { property := Entity.plain "ID" "id", operator := .isNull, value := none }
  let c : Condition :=
    (Condition.group (some .disjunction) [.negate (.negate (.compare name)), .compare id]).negate
  have hcompile : f.compile? .contact = .ok c := rfl
  obtain ⟨r, hreading, heval⟩ := @compile?_meaning .contact "p" (by decide) f c hcompile
  have htext : (c.fragment { node := "c", stem := "p" }).text =
      "NOT ((NOT (NOT ((toLower(c.name) = toLower($p1) OR c.name IS NULL))) OR c.id IS NULL))" := by
    decide
  refine ⟨r, ?_, ?_⟩
  · rw [← htext]
    exact hreading
  · intro σ
    rw [heval σ, ← joined_or]
    rfl

end TenantSearch.Filter
