/-!
# `TenantSearch.Json`: JSON values

Numbers come in two kinds. An integer literal that fits 64 bits is kept exactly, every other
number is a float. An object keeps its members in the order of the text, repeated keys
included, because a reader of records has to see the repetition.

`unusable` stands for a text that is well formed but has no value here: a number beyond the
floats, a string with half of a surrogate pair, a container nested too deeply. A record may
carry such a member under a key that it does not know, and every reader that asks for the
member's value fails.

`Json.plain?` takes a value as it stands, without a record type. There the last of the values
of a repeated key wins, at the place of the first.
-/

set_option autoImplicit false

namespace TenantSearch

/-- A JSON value. -/
inductive Json where
  | null
  | bool (b : Bool)
  | integer (n : Int)
  | float (x : Float)
  | string (s : String)
  | array (items : List Json)
  | object (members : List (String × Json))
  /-- Well-formed text without a value. -/
  | unusable
deriving Inhabited

/-- Named values in order, such as the members of an object or the parameters of a
statement. -/
abbrev Members (α : Type) := List (String × α)

namespace Members

variable {α : Type}

/-- Gives `key` the value `v`. A key that is already there keeps its place. -/
def put : Members α → String → α → Members α
  | [], key, v => [(key, v)]
  | (k, w) :: rest, key, v => if k = key then (k, v) :: rest else (k, w) :: put rest key v

/-- The value of `key`. -/
def get? : Members α → String → Option α
  | [], _ => none
  | (k, v) :: rest, key => if k = key then some v else get? rest key

/-- The keys, in order. -/
def keys (ms : Members α) : List String := ms.map Prod.fst

/-- A new key comes last. Parameters are put one after the other, so this is what keeps them in
order. -/
theorem put_of_not_mem {ms : Members α} {key : String} (v : α) (h : key ∉ ms.keys) :
    ms.put key v = ms ++ [(key, v)] := by
  induction ms with
  | nil => rfl
  | cons m rest ih =>
    obtain ⟨k, w⟩ := m
    have hk : k ≠ key := by
      rintro rfl
      simp [keys] at h
    have hrest : key ∉ keys rest := by
      intro hmem
      exact h (by simpa [keys] using Or.inr hmem)
    simp [put, hk, ih hrest]

/-- What was put under a key is found there. -/
theorem get?_put_self (ms : Members α) (key : String) (v : α) :
    (ms.put key v).get? key = some v := by
  induction ms with
  | nil => simp [put, get?]
  | cons m rest ih =>
    obtain ⟨k, w⟩ := m
    by_cases hk : k = key <;> simp [put, get?, hk, ih]

/-- Putting something under one key leaves the other keys as they are. Only the member with the same
key is replaced. -/
theorem get?_put_of_ne (ms : Members α) {key other : String} (v : α) (h : other ≠ key) :
    (ms.put key v).get? other = ms.get? other := by
  induction ms with
  | nil => simp [put, get?, Ne.symm h]
  | cons m rest ih =>
    obtain ⟨k, w⟩ := m
    by_cases hk : k = key
    · subst hk
      simp [put, get?, Ne.symm h]
    · simp [put, get?, hk, ih]

end Members

namespace Json

/-- Whether the value is `null`. -/
def isNull : Json → Bool
  | null => true
  | _ => false

/-- The truth value, when the value is one. -/
def bool? : Json → Option Bool
  | bool b => some b
  | _ => none

/-- The string, when the value is one. -/
def string? : Json → Option String
  | string s => some s
  | _ => none

/-- The integer, when the value is one. -/
def integer? : Json → Option Int
  | integer n => some n
  | _ => none

/-- The integer, when the value is one between `low` and `high`. -/
def integerWithin? (low high : Int) : Json → Option Int
  | integer n => if low ≤ n ∧ n ≤ high then some n else none
  | _ => none

/-- The natural number, when the value is one up to `high`. -/
def natural? (high : Nat) (j : Json) : Option Nat :=
  (j.integerWithin? 0 high).map Int.toNat

/-- The items, when the value is a list. -/
def items? : Json → Option (List Json)
  | array items => some items
  | _ => none

mutual

/-- The value as it stands, with one value for each key. -/
def plain? : Json → Option Json
  | .null => some .null
  | .bool b => some (.bool b)
  | .integer n => some (.integer n)
  | .float x => some (.float x)
  | .string s => some (.string s)
  | .array items => (plainItems? items).map .array
  | .object members => (plainMembers? [] members).map .object
  | .unusable => none

/-- The items of a list as they stand. -/
def plainItems? : List Json → Option (List Json)
  | [] => some []
  | j :: rest => do
    let v ← plain? j
    let vs ← plainItems? rest
    return v :: vs

/-- The members of an object as they stand, added to those `done` before. -/
def plainMembers? (done : Members Json) : List (String × Json) → Option (Members Json)
  | [] => some done
  | (key, j) :: rest => do
    let v ← plain? j
    plainMembers? (done.put key v) rest

end

end Json

end TenantSearch
