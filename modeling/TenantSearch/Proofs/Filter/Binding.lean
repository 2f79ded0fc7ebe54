import TenantSearch.Proofs.Cypher.Use
import TenantSearch.Proofs.Filter.Names

/-!
# `TenantSearch.Proofs.Filter.Binding`: parameters fit their uses

The expression of a condition refers to the parameters that the condition binds, to all of them
and to no others (`Condition.mem_parameters_expr`). What it does with a parameter suits the
value of the parameter: a list after `IN`, a list of two where an item is picked, a text where
it is put in lower case. And it reads the properties of one node only
(`Condition.fits_uses_expr`).
-/

set_option autoImplicit false

namespace TenantSearch.Filter

open TenantSearch.Cypher

/-- Whether a use suits these parameters, in a condition about the node. -/
def Fits (ms : Members Json) (node : String) : Use → Prop
  | .isIn name => ∃ items, (name, .array items) ∈ ms
  | .item name => ∃ low high, (name, .array [low, high]) ∈ ms
  | .lower name => ∃ s, (name, .string s) ∈ ms
  | .property x => x = node
  | .target _ | .counted _ | .returned _ => False

/-- What suits some parameters suits more of them, since it only asks that certain ones are there.
-/
theorem Fits.mono {ms ms' : Members Json} {node : String} {u : Use} (h : Fits ms node u)
    (hsubset : ms ⊆ ms') : Fits ms' node u := by
  cases u with
  | isIn name =>
    obtain ⟨items, hmem⟩ := h
    exact ⟨items, hsubset hmem⟩
  | item name =>
    obtain ⟨low, high, hmem⟩ := h
    exact ⟨low, high, hsubset hmem⟩
  | lower name =>
    obtain ⟨s, hmem⟩ := h
    exact ⟨s, hsubset hmem⟩
  | _ => exact h

/-- The values of a second list are numbered from where the first one stops. -/
theorem numbered_append (scope : Scope) (n : Nat) (vs ws : List Json) :
    numbered scope n (vs ++ ws) = numbered scope n vs ++ numbered scope (n + vs.length) ws := by
  unfold numbered
  rw [List.zipIdx_append, List.map_append]
  congr 3
  omega

namespace Comparison

/-- A range has two bounds. -/
def Ranged (c : Comparison) : Prop :=
  c.operator = .between → ∃ low high, c.value = some (.list [low, high])

/-- A test without a value has no parameters. -/
theorem mem_parameters_testNull (operator : Operator) (scope : Scope) (c : Comparison)
    (x : String) : x ∉ (testNull operator (c.subject scope)).parameters := by
  cases operator <;>
    simp [testNull, Expr.parameters, Expr.parametersOf, Term.parameters, subject]

/-- A test without a value reads the property and uses no parameter, so it suits any of them. -/
theorem fits_testNull (operator : Operator) (scope : Scope) (c : Comparison)
    (ms : Members Json) {u : Use} (h : u ∈ (testNull operator (c.subject scope)).uses) :
    Fits ms scope.node u := by
  have hu : u = .property scope.node := by
    cases operator <;> simpa [testNull, Expr.uses, Expr.usesOf, Term.uses, subject] using h
  rw [hu]
  rfl

/-- A test of a value refers to its parameter, and to no other. Whichever of its forms it has, it
names the parameter in it. -/
theorem mem_parameters_testValue (c : Comparison) (scope : Scope) (v : Value)
    (name x : String) : x ∈ (c.testValue (c.subject scope) v name).parameters ↔ x = name := by
  unfold testValue
  cases c.operator <;> cases c.ignoresCase <;> cases v.isTime <;>
    simp [Expr.parameters, Expr.parametersOf, Term.parameters, subject]

/-- A comparison that ignores case is about a text. It is by its kind that a value is folded, and a
list of texts is not of that kind. -/
theorem value_of_ignoresCase {c : Comparison} (h : c.ignoresCase = true) :
    c.operator.isTextMatch = true ∧ ∃ s, c.value = some (.str s) := by
  simp only [ignoresCase, Bool.and_eq_true] at h
  obtain ⟨⟨-, hmatch⟩, htext⟩ := h
  refine ⟨hmatch, ?_⟩
  -- Of all values only a single text is folded.
  cases hv : c.value with
  | none => simp [hv] at htext
  | some v =>
    cases v with
    | str s => exact ⟨s, rfl⟩
    | _ => simp [hv, Value.isText] at htext

/-- What is bound for `IN` is a list: a single value is made one. -/
theorem bound_isIn (v : Value) : ∃ items, bound .isIn v = .array items := by
  cases v <;> exact ⟨_, rfl⟩

/-- What is bound for a match of texts is the text itself. -/
theorem bound_str {operator : Operator} (h : operator.isTextMatch = true) (s : String) :
    bound operator (.str s) = .string s := by
  cases operator <;> first | rfl | cases h

/-- A test reads the property. It takes its parameter for a list after `IN`, picks items of it
for a range, and puts it in lower case to ignore case. -/
theorem mem_uses_testValue {c : Comparison} {scope : Scope} {v : Value} {name : String} {u : Use}
    (h : u ∈ (c.testValue (c.subject scope) v name).uses) :
    u = .property scope.node ∨ (c.operator = .isIn ∧ u = .isIn name) ∨
      (c.operator = .between ∧ u = .item name) ∨ (c.ignoresCase = true ∧ u = .lower name) := by
  unfold testValue at h
  cases hoperator : c.operator <;> rw [hoperator] at h <;> cases hcase : c.ignoresCase <;>
    cases htime : v.isTime <;>
    simp [hcase, htime, Expr.uses, Expr.usesOf, Term.uses, subject] at h <;> grind

/-- What a test does with its parameter suits the value. A parameter that is taken for a list, a
range or a text is bound to one. -/
theorem fits_testValue {c : Comparison} (hranged : c.Ranged) {v : Value}
    (hv : c.value = some v) (scope : Scope) (name : String) {u : Use}
    (h : u ∈ (c.testValue (c.subject scope) v name).uses) :
    Fits [(name, bound c.operator v)] scope.node u := by
  rcases mem_uses_testValue h with rfl | ⟨hoperator, rfl⟩ | ⟨hoperator, rfl⟩ | ⟨hcase, rfl⟩
  · rfl
  · obtain ⟨items, hitems⟩ := bound_isIn v
    refine ⟨items, ?_⟩
    rw [hoperator, hitems]
    exact List.mem_cons_self
  -- A range that was checked has two bounds.
  · obtain ⟨low, high, hbounds⟩ := hranged hoperator
    obtain rfl : v = .list [low, high] := Option.some.inj (hv.symm.trans hbounds)
    refine ⟨low.toParam, high.toParam, ?_⟩
    rw [hoperator]
    exact List.mem_cons_self
  -- Case is ignored for a single text only.
  · obtain ⟨hmatch, s, htext⟩ := value_of_ignoresCase hcase
    obtain rfl : v = .str s := Option.some.inj (hv.symm.trans htext)
    refine ⟨s, ?_⟩
    rw [bound_str hmatch]
    exact List.mem_cons_self

/-- The expression has the uses of the test, and may read the property once more. -/
theorem mem_uses_expr (scope : Scope) (c : Comparison) (b : Bindings) {u : Use}
    (h : u ∈ (c.expr scope b).1.uses) :
    u ∈ (c.test scope b.counter).uses ∨ u = .property scope.node := by
  rw [fst_expr] at h
  split at h
  · simpa [Expr.uses, Expr.usesOf, Term.uses, subject] using h
  · exact .inl h

/-- A comparison refers to the parameter that it binds, or to none when it binds none. So the text
has no parameter without a value, and no value is bound for nothing. -/
theorem mem_parameters_expr (scope : Scope) (c : Comparison) (b : Bindings) (x : String) :
    x ∈ (c.expr scope b).1.parameters ↔ x ∈ (numbered scope b.counter c.values).keys := by
  -- Including empty values adds a test of the property, which has no parameter.
  have htest : x ∈ (c.expr scope b).1.parameters ↔ x ∈ (c.test scope b.counter).parameters := by
    rw [fst_expr]
    split
    · simp [Expr.parameters, Expr.parametersOf, Term.parameters, subject]
    · rfl
  rw [htest]
  unfold test values
  cases c.value with
  | none =>
    have hnone := mem_parameters_testNull c.operator scope c x
    simp [hnone, numbered, Members.keys]
  | some v =>
    rw [mem_parameters_testValue]
    simp [numbered, Members.keys]

/-- What a comparison does with its parameter suits what it binds to it. A comparison without a
value uses the property alone, and that suits any parameters. -/
theorem fits_uses_expr (scope : Scope) {c : Comparison} (hranged : c.Ranged) (b : Bindings)
    {u : Use} (h : u ∈ (c.expr scope b).1.uses) :
    Fits (numbered scope b.counter c.values) scope.node u := by
  rcases mem_uses_expr scope c b h with htest | rfl
  · unfold test at htest
    unfold values
    cases hv : c.value with
    | none =>
      rw [hv] at htest
      exact fits_testNull _ scope c _ htest
    | some v =>
      rw [hv] at htest
      exact fits_testValue hranged hv scope _ htest
  · rfl

end Comparison

namespace Condition

/-- A negation refers to what it negates. -/
theorem parameters_exprUnder (negated : Bool) (e : Expr) :
    (exprUnder negated e).parameters = e.parameters := by
  cases negated <;> rfl

/-- A negation uses what it negates. -/
theorem uses_exprUnder (negated : Bool) (e : Expr) : (exprUnder negated e).uses = e.uses := by
  cases negated <;> rfl

mutual

/-- A condition refers to the parameters that it binds, and to no others. So none that it binds goes
unused, and none that it uses is left unbound. -/
theorem mem_parameters_expr (scope : Scope) : ∀ (c : Condition) (b : Bindings) (x : String),
    x ∈ (c.expr scope b).1.parameters ↔ x ∈ (numbered scope b.counter c.values).keys
  | .node negated _ _ (some c), b, x => by
    rw [expr, parameters_exprUnder, values, comparisons, List.flatMap_singleton]
    exact c.mem_parameters_expr scope b x
  | .node negated _ parts none, b, x => by
    rw [expr, parameters_exprUnder, values, comparisons]
    exact mem_parameters_exprs scope parts b x

/-- The same of the members of a group, each from the counter that the ones before it leave. Names
of different members differ, because the numbers do not overlap. -/
theorem mem_parameters_exprs (scope : Scope) :
    ∀ (cs : List Condition) (b : Bindings) (x : String),
      x ∈ Expr.parametersOf (exprs scope cs b).1 ↔
        x ∈ (numbered scope b.counter ((comparisonsOf cs).flatMap Comparison.values)).keys
  | [], b, x => by simp [exprs, Expr.parametersOf, comparisonsOf, numbered, Members.keys]
  | c :: rest, b, x => by
    have hfirst := mem_parameters_expr scope c b x
    -- The rest starts behind the values of the first condition.
    have hrest := mem_parameters_exprs scope rest (b.bindAll scope c.values) x
    rw [Bindings.counter_bindAll] at hrest
    rw [fst_exprs_cons, Expr.parametersOf, List.mem_append, hfirst, hrest, comparisonsOf,
      List.flatMap_append, numbered_append]
    simp [Members.keys, values]

end

mutual

/-- What a condition does with its parameters suits what it binds to them. Ranges have to be ranges
for that, which their check sees to. -/
theorem fits_uses_expr (scope : Scope) : ∀ (c : Condition),
    (∀ d ∈ c.comparisons, d.Ranged) → ∀ (b : Bindings) {u : Use},
      u ∈ (c.expr scope b).1.uses → Fits (numbered scope b.counter c.values) scope.node u
  | .node negated _ _ (some c), hranged, b, u, h => by
    rw [expr, uses_exprUnder] at h
    rw [values, comparisons, List.flatMap_singleton]
    exact c.fits_uses_expr scope (hranged c (by simp [comparisons])) b h
  | .node negated _ parts none, hranged, b, u, h => by
    rw [expr, uses_exprUnder] at h
    rw [values, comparisons]
    exact fits_uses_exprs scope parts hranged b h

/-- The same of the members of a group. What suits the parameters of one member suits those of the
group. -/
theorem fits_uses_exprs (scope : Scope) : ∀ (cs : List Condition),
    (∀ d ∈ comparisonsOf cs, d.Ranged) → ∀ (b : Bindings) {u : Use},
      u ∈ Expr.usesOf (exprs scope cs b).1 →
        Fits (numbered scope b.counter ((comparisonsOf cs).flatMap Comparison.values))
          scope.node u
  | [], _, b, u, h => by cases h
  | c :: rest, hranged, b, u, h => by
    have hfirst : ∀ d ∈ c.comparisons, d.Ranged := by
      intro d hd
      exact hranged d (by simp [comparisonsOf, hd])
    have hrest : ∀ d ∈ comparisonsOf rest, d.Ranged := by
      intro d hd
      exact hranged d (by simp [comparisonsOf, hd])
    rw [fst_exprs_cons, Expr.usesOf, List.mem_append] at h
    rw [comparisonsOf, List.flatMap_append, numbered_append]
    rcases h with h | h
    · exact (fits_uses_expr scope c hfirst b h).mono (List.subset_append_left _ _)
    -- The rest is numbered from where the first condition stopped.
    · have hfits := fits_uses_exprs scope rest hrest (b.bindAll scope c.values) h
      rw [Bindings.counter_bindAll] at hfits
      exact hfits.mono (List.subset_append_right _ _)

end

end Condition

/-- A compiled range has two bounds: with any other number it would not have compiled. The check is
made once, when the item is compiled, and this is what later proofs know of it. -/
theorem Item.Compiled.ranged {entity : Entity} {i : Item} {c : Comparison}
    (h : i.Compiled entity c) : c.Ranged := by
  intro hoperator
  cases h with
  | plain _ htakes =>
    rw [show i.operator = .between from hoperator] at htakes
    cases htakes
  | valued _ _ _ hbounds =>
    obtain ⟨low, high, rfl⟩ := hbounds hoperator
    exact ⟨low, high, rfl⟩

end TenantSearch.Filter
