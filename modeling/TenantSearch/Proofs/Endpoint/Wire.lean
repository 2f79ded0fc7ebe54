import TenantSearch.Endpoint.Wire
import TenantSearch.Proofs.Json.Record

/-!
# `TenantSearch.Proofs.Endpoint.Wire`: what an answer of the store holds

An answer holds results and errors, a result holds rows, and a row holds cells. `HoldsAnswer`
says what the JSON of an answer holds at each of these levels, in the order in which it stands
there. `WireAnswer.ofJson?_eq_some_iff` says that an answer that can be read is read as what it
holds.
-/

set_option autoImplicit false

namespace TenantSearch.Endpoint

open TenantSearch.Store (Row)
open TenantSearch.Json (ListSlot)

/-- The cells of a row, in order. -/
def HoldsRow (j : Json) (row : Row) : Prop :=
  ∃ cells, Json.slots? [{ name := "row" }] j = some [some (.array cells)] ∧
    List.Forall₂ (fun cell value => cell.plain? = some value) cells row

/-- The rows of a result, in order. A result may come without rows. -/
def HoldsRows (j : Json) (rows : List Row) : Prop :=
  ∃ data, Json.slots? [{ name := "data", omissible := true }] j = some [data] ∧
    ListSlot HoldsRow data rows

/-- The code and the message of an error. -/
def HoldsError (j : Json) (e : WireError) : Prop :=
  Json.slots? [{ name := "code" }, { name := "message" }] j =
    some [some (.string e.code), some (.string e.message)]

/-- The results and the errors of an answer, in order. Either may be left out. -/
def HoldsAnswer (j : Json) (a : WireAnswer) : Prop :=
  ∃ results errors,
    Json.slots? [{ name := "results", omissible := true }, { name := "errors", omissible := true }]
        j = some [results, errors] ∧
      ListSlot HoldsRows results a.results ∧ ListSlot HoldsError errors a.errors

section

variable {β : Type} {read : Json → Option β} {Holds : Json → β → Prop}

/-- A list is read if every entry is, and it holds what the entries hold. -/
theorem listOf?_eq_some_iff (hread : ∀ j value, read j = some value ↔ Holds j value) {j : Json}
    {values : List β} :
    listOf? read j = some values ↔ ∃ items, j = .array items ∧ List.Forall₂ Holds items values := by
  -- The list is read entry by entry, and one bad entry spoils it.
  have hitems (items : List Json) :
      items.mapM read = some values ↔ List.Forall₂ Holds items values := by
    rw [Json.mapM_eq_some_iff]
    exact ⟨fun h => h.imp fun _ _ => (hread _ _).1, fun h => h.imp fun _ _ => (hread _ _).2⟩
  constructor
  · intro h
    cases j with
    | array items => exact ⟨items, rfl, (hitems items).1 h⟩
    | _ => cases h
  · rintro ⟨items, rfl, h⟩
    exact (hitems items).2 h

/-- A list that may be left out is read as the empty list where it is. -/
theorem withDefault?_eq_some_iff (hread : ∀ j value, read j = some value ↔ Holds j value)
    {slot : Option Json} {values : List β} :
    Json.Record.withDefault? [] (listOf? read) slot = some values ↔ ListSlot Holds slot values := by
  cases slot with
  | none =>
    constructor
    · intro h
      cases h
      exact .absent
    · rintro ⟨⟩
      rfl
  | some j =>
    show listOf? read j = some values ↔ _
    rw [listOf?_eq_some_iff hread]
    constructor
    · rintro ⟨items, rfl, h⟩
      exact .present h
    · rintro (_ | h)
      exact ⟨_, rfl, h⟩

end

/-- A row is read from the cells it holds. Whatever else stands in the object is not looked at. -/
theorem row?_eq_some_iff (j : Json) (row : Row) : row? j = some row ↔ HoldsRow j row := by
  have hplain : ∀ j value, Json.plain? j = some value ↔ Json.plain? j = some value :=
    fun _ _ => Iff.rfl
  unfold row?
  constructor
  · intro h
    obtain ⟨slots, hslots, h⟩ := Option.bind_eq_some_iff.1 h
    -- The record has one field, so it has one slot.
    rcases slots with _ | ⟨_ | cells, _ | _⟩
    · cases h
    · cases h
    · cases h
    · obtain ⟨items, rfl, hcells⟩ := (listOf?_eq_some_iff hplain).1 h
      exact ⟨items, hslots, hcells⟩
    · cases h
  · rintro ⟨cells, hslots, hcells⟩
    rw [hslots]
    exact (listOf?_eq_some_iff hplain).2 ⟨cells, rfl, hcells⟩

/-- A result is read from the rows it holds, and from none if it has no data. -/
theorem result?_eq_some_iff (j : Json) (rows : List Row) :
    result? j = some rows ↔ HoldsRows j rows := by
  unfold result?
  constructor
  · intro h
    obtain ⟨slots, hslots, h⟩ := Option.bind_eq_some_iff.1 h
    rcases slots with _ | ⟨data, _ | _⟩
    · cases h
    · exact ⟨data, hslots, (withDefault?_eq_some_iff row?_eq_some_iff).1 h⟩
    · cases h
  · rintro ⟨data, hslots, hdata⟩
    rw [hslots]
    exact (withDefault?_eq_some_iff row?_eq_some_iff).2 hdata

/-- An error is read if it has both its code and its message. -/
theorem wireError?_eq_some_iff (j : Json) (e : WireError) :
    wireError? j = some e ↔ HoldsError j e := by
  unfold wireError? HoldsError
  constructor
  · intro h
    obtain ⟨slots, hslots, h⟩ := Option.bind_eq_some_iff.1 h
    rcases slots with _ | ⟨code, _ | ⟨message, _ | _⟩⟩
    · cases h
    · cases h
    · obtain ⟨c, hcode, h⟩ := Option.bind_eq_some_iff.1 h
      obtain ⟨m, hmessage, h⟩ := Option.bind_eq_some_iff.1 h
      cases h
      rw [hslots, Json.required?_string_iff.1 hcode, Json.required?_string_iff.1 hmessage]
    · cases h
  · intro hslots
    rw [hslots]
    rfl

/-- An answer is read from its results and errors, and either may be left out. -/
theorem WireAnswer.ofJson?_eq_some_iff (j : Json) (a : WireAnswer) :
    WireAnswer.ofJson? j = some a ↔ HoldsAnswer j a := by
  unfold WireAnswer.ofJson?
  constructor
  · intro h
    obtain ⟨slots, hslots, h⟩ := Option.bind_eq_some_iff.1 h
    rcases slots with _ | ⟨results, _ | ⟨errors, _ | _⟩⟩
    · cases h
    · cases h
    · obtain ⟨rs, hresults, h⟩ := Option.bind_eq_some_iff.1 h
      obtain ⟨es, herrors, h⟩ := Option.bind_eq_some_iff.1 h
      cases h
      exact ⟨results, errors, hslots, (withDefault?_eq_some_iff result?_eq_some_iff).1 hresults,
        (withDefault?_eq_some_iff wireError?_eq_some_iff).1 herrors⟩
    · cases h
  · rintro ⟨results, errors, hslots, hresults, herrors⟩
    rw [hslots]
    show (Json.Record.withDefault? [] (listOf? result?) results >>= fun rs =>
      Json.Record.withDefault? [] (listOf? wireError?) errors >>= fun es => some ⟨rs, es⟩) = some a
    rw [(withDefault?_eq_some_iff result?_eq_some_iff).2 hresults,
      (withDefault?_eq_some_iff wireError?_eq_some_iff).2 herrors]
    rfl

end TenantSearch.Endpoint
