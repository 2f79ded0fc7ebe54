import TenantSearch.Json.Nested
import TenantSearch.Proofs.Json.Record

/-!
# `TenantSearch.Proofs.Json.Nested`: nested records are read member by member

A nested record is read through views, which hold each JSON value in all the ways in which it may
be needed. The lemmas here take the views away again. A record is read from the slots of its
object as any other record is, only that a slot is viewed first (`read?_object`), and a slot
that was viewed is read as the value itself is (`optional?_view`, `plain?_view`). So the proofs
about a kind of record are about its own slots, and none of them follows `Nested.view`.
-/

set_option autoImplicit false

namespace TenantSearch.Json.Nested

variable {β γ : Type} (kind : Nested β)

/-- A view keeps the value that it is a view of, whatever the value can be read as. -/
theorem view_json (j : Json) : (kind.view j).json = j := by
  cases j <;> rfl

/-- Each item has a view of its own. The list has its own recursion only because Lean cannot see
through `List.map` inside the definition of `view`. -/
theorem itemViews_eq_map (items : List Json) : kind.itemViews items = items.map kind.view :=
  eq_map_of_cons rfl (fun _ _ => rfl) items

/-- The members keep their keys, so a field finds its view where it would find its value. -/
theorem memberViews_eq_map (members : List (String × Json)) :
    kind.memberViews members = members.map fun m => (m.1, kind.view m.2) :=
  eq_map_of_cons rfl (fun _ _ => rfl) members

/-- A slot is read in the same way before and after it is viewed. Whether it is `null` is asked of
the value in the view, which is the value that was viewed. -/
theorem optional?_view (read : View β → Option γ) (slot : Option Json) :
    View.optional? read (slot.map kind.view) =
      optionalSlot? (fun j => read (kind.view j)) slot := by
  rw [View.optional?, Record.optional?_map]
  simp only [View.isNull, view_json]
  rfl

/-- What holds nothing nested is read from the value itself. -/
theorem plain?_view (read : Json → Option γ) (slot : Option Json) :
    View.plain? read (slot.map kind.view) = optionalSlot? read slot := by
  rw [View.plain?, optional?_view]
  simp only [view_json]

/-- A record is read from the slots of its object, each of which is viewed on its own. The fields
pick their members by key, so it does not matter that the members are viewed first. -/
theorem read?_object (members : List (String × Json)) :
    kind.read? (.object members) =
      (Record.named? kind.fields members).bind fun slots =>
        kind.ofSlots? (slots.map (·.map kind.view)) := by
  show (kind.view (.object members)).one = _
  rw [view, memberViews_eq_map, Record.named?_map, Option.bind_map]
  rfl

/-- A list is a list of records when each of its items is one. -/
theorem many_view_array (items : List Json) :
    (kind.view (.array items)).many = items.mapM kind.read? := by
  rw [view, itemViews_eq_map, List.mapM_map]
  rfl

end TenantSearch.Json.Nested
