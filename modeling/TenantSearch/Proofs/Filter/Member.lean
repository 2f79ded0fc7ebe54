import TenantSearch.Filter.Value
import TenantSearch.Proofs.Outcome

/-!
# `TenantSearch.Proofs.Filter.Member`: the members of a written value

A request may set any members of a value, at every level of its lists. `parts` lists the values
at all levels, and `memberCount` counts what each of them sets. `WrittenValue.induct` is the
induction over written values: a scalar, a list, or a record that sets none or several members.
-/

set_option autoImplicit false

namespace TenantSearch.Filter

/-- Whether the value is not a list. -/
def Value.isScalar : Value → Bool
  | .list _ => false
  | _ => true

namespace WrittenValue

/-- How many of its members the record sets. -/
def memberCount : WrittenValue → Nat
  | ⟨str, int, float, bool, time, array⟩ =>
    [str.isSome, int.isSome, float.isSome, bool.isSome, time.isSome, array.isSome].count true

/-- A list. -/
def list (ws : List WrittenValue) : WrittenValue := ⟨none, none, none, none, none, some ws⟩

mutual

/-- The value and what is in its lists, at every level. -/
def parts : WrittenValue → List WrittenValue
  | ⟨str, int, float, bool, time, array⟩ =>
    ⟨str, int, float, bool, time, array⟩ ::
      (match array with
        | some ws => partsOf ws
        | none => [])
termination_by structural w => w

/-- The parts of several values. -/
def partsOf : List WrittenValue → List WrittenValue
  | [] => []
  | w :: rest => parts w ++ partsOf rest
termination_by structural ws => ws

end

/-- The parts of a list of values are those of each. -/
theorem partsOf_eq_flatMap (ws : List WrittenValue) : partsOf ws = ws.flatMap parts := by
  induction ws with
  | nil => rfl
  | cons w rest ih => rw [partsOf, ih, List.flatMap_cons]

/-- A list has itself as a part, and the parts of its entries. -/
theorem parts_list (ws : List WrittenValue) :
    (list ws).parts = list ws :: ws.flatMap parts := by
  simp [list, parts, partsOf_eq_flatMap]

/-- A scalar has no part but itself. -/
theorem parts_scalar {v : Value} (h : v.isScalar = true) : v.written.parts = [v.written] := by
  cases v with
  | list items => cases h
  | _ => simp [Value.written, parts]

/-- A value comes before all that is in it. -/
theorem exists_parts (w : WrittenValue) : ∃ below, w.parts = w :: below := by
  obtain ⟨str, int, float, bool, time, array⟩ := w
  cases array <;> simp [parts]

/-- Induction over written values. A value that can be read is a scalar or a list, and any other has
no member or several. Following the reader, the induction has these three cases. -/
theorem induct {P : WrittenValue → Prop} {Q : List WrittenValue → Prop}
    (scalar : ∀ v : Value, v.isScalar = true → P v.written) (list : ∀ ws, Q ws → P (list ws))
    (ambiguous : ∀ w : WrittenValue, w.memberCount ≠ 1 → P w)
    (nil : Q []) (cons : ∀ w ws, P w → Q ws → Q (w :: ws)) (w : WrittenValue) : P w := by
  refine @WrittenValue.rec P (fun o => ∀ ws ∈ o, Q ws) Q ?_ ?_ ?_ nil cons w
  · intro str int float bool time array harray
    by_cases hcount : memberCount ⟨str, int, float, bool, time, array⟩ = 1
    · cases array with
      | some ws =>
        -- The list is the only member.
        cases str <;> cases int <;> cases float <;> cases bool <;> cases time <;>
          first | exact list ws (harray ws rfl) | exact absurd hcount (by simp [memberCount])
      | none =>
        -- One of the five other members is set, and it has a scalar of its kind.
        cases str <;> cases int <;> cases float <;> cases bool <;> cases time <;>
          first
          | exact scalar (.str _) rfl
          | exact scalar (.int _) rfl
          | exact scalar (.float _) rfl
          | exact scalar (.bool _) rfl
          | exact scalar (.time _) rfl
          | exact absurd hcount (by simp [memberCount])
    · exact ambiguous _ hcount
  · intro ws hws
    cases hws
  · intro ws hws ws' hws'
    cases hws'
    exact hws

/-- The float of a value, when that member is set. -/
def float? : WrittenValue → Option Float
  | ⟨_, _, float, _, _, _⟩ => float

/-- The parts of a value, from its members: only the list adds to them. -/
theorem parts_mk (str : Option String) (int : Option Int64) (float : Option Float)
    (bool : Option Bool) (time : Option Time.Timestamp) (array : Option (List WrittenValue)) :
    parts ⟨str, int, float, bool, time, array⟩ =
      ⟨str, int, float, bool, time, array⟩ :: (array.getD []).flatMap parts := by
  cases array <;> simp [parts, partsOf_eq_flatMap]

/-- Induction over written values whatever members they set. The codec does not care whether a value
can be read, so its induction has one case. -/
theorem induct_members {P : WrittenValue → Prop}
    (mk : ∀ str int float bool time array, (∀ ws ∈ array, ∀ w ∈ ws, P w) →
      P ⟨str, int, float, bool, time, array⟩) (w : WrittenValue) : P w := by
  refine @WrittenValue.rec P (fun o => ∀ ws ∈ o, ∀ w ∈ ws, P w) (fun ws => ∀ w ∈ ws, P w)
    mk ?_ ?_ ?_ ?_ w
  · intro ws hws
    cases hws
  · intro ws hws ws' hws'
    cases hws'
    exact hws
  · intro w hw
    cases hw
  · intro w ws hw hws v hv
    rcases List.mem_cons.1 hv with rfl | hv
    · exact hw
    · exact hws v hv

/-- A value with no member, or with more than one, says nothing. -/
theorem value?_ambiguous {w : WrittenValue} (h : w.memberCount ≠ 1) :
    w.value? = .error .ambiguousValue := by
  obtain ⟨str, int, float, bool, time, array⟩ := w
  -- Every member is there or not. Six of the cases have one member.
  cases str <;> cases int <;> cases float <;> cases bool <;> cases time <;> cases array <;>
    first | exact absurd rfl h | rw [value?] <;> simp

/-- A list is the list of what its entries are. -/
theorem value?_list (ws : List WrittenValue) : (list ws).value? = (values? ws).map .list := by
  rw [list, value?]

/-- A list has as many values as it has records. Reading a list reads every entry, and none is
dropped. -/
theorem length_of_values? {ws : List WrittenValue} {vs : List Value} (h : values? ws = .ok vs) :
    vs.length = ws.length := by
  induction ws generalizing vs with
  | nil =>
    cases h
    rfl
  | cons w ws ih =>
    obtain ⟨v, -, h⟩ := ok_of_bind h
    obtain ⟨rest, hrest, h⟩ := ok_of_bind h
    cases h
    rw [List.length_cons, List.length_cons, ih hrest]

end WrittenValue

end TenantSearch.Filter
