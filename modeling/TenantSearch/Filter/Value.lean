import TenantSearch.CompileError
import TenantSearch.Json.Writer
import TenantSearch.Time.Timestamp
import TenantSearch.Word.Saturating

/-!
# `TenantSearch.Filter.Value`: the values of a filter

A request writes a value as a record with one optional member for each kind. `WrittenValue` is
that record, with any of its members set. A value proper has exactly one kind, and
`WrittenValue.value?` finds it, in lists at every level.
-/

set_option autoImplicit false

namespace TenantSearch.Filter

open TenantSearch.Time (Timestamp)

/-- A value as a request writes it. -/
inductive WrittenValue where
  | mk (str : Option String) (int : Option Int64) (float : Option Float) (bool : Option Bool)
      (time : Option Timestamp) (array : Option (List WrittenValue))

/-- A value of one kind. -/
inductive Value where
  | str (s : String)
  | int (n : Int64)
  | float (x : Float)
  | bool (b : Bool)
  | time (t : Timestamp)
  | list (items : List Value)
deriving Inhabited

namespace WrittenValue

/-- The record without a member. -/
def empty : WrittenValue := ⟨none, none, none, none, none, none⟩

instance : Inhabited WrittenValue := ⟨empty⟩

mutual

/-- The value of the only member that is set. -/
def value? : WrittenValue → Except CompileError Value
  | ⟨some s, none, none, none, none, none⟩ => .ok (.str s)
  | ⟨none, some n, none, none, none, none⟩ => .ok (.int n)
  | ⟨none, none, some x, none, none, none⟩ => .ok (.float x)
  | ⟨none, none, none, some b, none, none⟩ => .ok (.bool b)
  | ⟨none, none, none, none, some t, none⟩ => .ok (.time t)
  | ⟨none, none, none, none, none, some items⟩ => (values? items).map .list
  | _ => .error .ambiguousValue
termination_by structural w => w

/-- The values of the items of a list. -/
def values? : List WrittenValue → Except CompileError (List Value)
  | [] => .ok []
  | w :: rest => do
    let v ← value? w
    let vs ← values? rest
    return v :: vs
termination_by structural ws => ws

end

mutual

/-- Writes the members that are set. -/
def toJson : WrittenValue → Json
  | ⟨str, int, float, bool, time, array⟩ =>
    let items : Option Json :=
      match array with
      | some ws => some (.array (toJsons ws))
      | none => none
    Json.objectOf
      [("str", str.map .string), ("int", int.map fun n => .integer n.toInt),
       ("float", float.map Json.ofFloat), ("bool", bool.map .bool),
       ("time", time.map fun t => .string t.canonical), ("array", items)]
termination_by structural w => w

/-- Writes the items of a list. -/
def toJsons : List WrittenValue → List Json
  | [] => []
  | w :: rest => toJson w :: toJsons rest
termination_by structural ws => ws

end

end WrittenValue

namespace Value

mutual

/-- The record that writes the value. -/
def written : Value → WrittenValue
  | .str s => ⟨some s, none, none, none, none, none⟩
  | .int n => ⟨none, some n, none, none, none, none⟩
  | .float x => ⟨none, none, some x, none, none, none⟩
  | .bool b => ⟨none, none, none, some b, none, none⟩
  | .time t => ⟨none, none, none, none, some t, none⟩
  | .list items => ⟨none, none, none, none, none, some (writtens items)⟩

/-- The records that write the items of a list. -/
def writtens : List Value → List WrittenValue
  | [] => []
  | v :: rest => written v :: writtens rest

end

mutual

/-- The record of a value has that value. -/
theorem value?_written : ∀ v : Value, v.written.value? = .ok v
  | .str _ => by simp [written, WrittenValue.value?]
  | .int _ => by simp [written, WrittenValue.value?]
  | .float _ => by simp [written, WrittenValue.value?]
  | .bool _ => by simp [written, WrittenValue.value?]
  | .time _ => by simp [written, WrittenValue.value?]
  | .list items => by simp [written, WrittenValue.value?, values?_writtens items, Except.map]

/-- The values of a list are read back, one by one. -/
theorem values?_writtens : ∀ vs : List Value, WrittenValue.values? (writtens vs) = .ok vs
  | [] => by simp [writtens, WrittenValue.values?]
  | v :: rest => by
    simp [writtens, WrittenValue.values?, value?_written v, values?_writtens rest, bind,
      Except.bind, pure, Except.pure]

end

mutual

/-- The value as a parameter of a statement. -/
def toParam : Value → Json
  | .str s => .string s
  | .int n => .integer n.toInt
  | .float x => Json.ofFloat x
  | .bool b => .bool b
  | .time t => .string t.toMillis
  | .list items => .array (toParams items)

/-- The items of a list as items of a parameter. -/
def toParams : List Value → List Json
  | [] => []
  | v :: rest => toParam v :: toParams rest

end

/-- Whether the value is text. -/
def isText : Value → Bool
  | .str _ => true
  | _ => false

/-- Whether the value is a single moment. -/
def isMoment : Value → Bool
  | .time _ => true
  | _ => false

/-- Whether the value is a moment or a list of moments, with one at least. -/
def isTime : Value → Bool
  | .time _ => true
  | .list (v :: rest) => v.isMoment && rest.all isMoment
  | _ => false

end Value

end TenantSearch.Filter
