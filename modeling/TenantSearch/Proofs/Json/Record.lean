import Mathlib.Data.List.Forall2
import TenantSearch.Json.Record

/-!
# `TenantSearch.Proofs.Json.Record`: what records hold

A reader of records works on slots, one for each declared field. The lemmas here say what the
slots hold without naming the reader's steps: lists are read item by item (`mapM_eq_some_iff`),
and `ListSlot` is a list that may be left out.

A slot depends only on the members whose key names its field. So the order of the members does
not matter (`slot?_of_perm`), and neither do members that no field knows
(`slot?_append_unknown`).
-/

set_option autoImplicit false

namespace TenantSearch.Json

section

variable {α β : Type}

/-- A function that goes through a list item by item maps it. The functions over JSON values have
this form, because they are defined together with one over single values. -/
theorem eq_map_of_cons {f : List α → List β} {g : α → β} (hnil : f [] = [])
    (hcons : ∀ a rest, f (a :: rest) = g a :: f rest) (items : List α) :
    f items = items.map g := by
  induction items with
  | nil => exact hnil
  | cons a rest ih => rw [hcons, ih, List.map_cons]

/-- A list is read item by item. One item that cannot be read spoils the list. -/
theorem mapM_eq_some_iff {read : α → Option β} {items : List α} {values : List β} :
    items.mapM read = some values ↔
      List.Forall₂ (fun item value => read item = some value) items values := by
  constructor
  · intro h
    induction items generalizing values with
    | nil =>
      cases h
      exact .nil
    | cons item rest ih =>
      rw [List.mapM_cons] at h
      obtain ⟨first, hfirst, h⟩ := Option.bind_eq_some_iff.1 h
      obtain ⟨others, hothers, h⟩ := Option.bind_eq_some_iff.1 h
      cases h
      exact .cons hfirst (ih hothers)
  · intro h
    induction h with
    | nil => rfl
    | cons hfirst _ ih =>
      rw [List.mapM_cons, hfirst, ih]
      rfl

/-- The slot of a list that may be left out holds these values. -/
inductive ListSlot (Holds : Json → β → Prop) : Option Json → List β → Prop where
  | absent : ListSlot Holds none []
  | present {items : List Json} {values : List β} (h : List.Forall₂ Holds items values) :
      ListSlot Holds (some (.array items)) values

end

/-- A text that has to be there. An absent member and one of another kind fail alike. -/
theorem required?_string_iff {slot : Option Json} {s : String} :
    Record.required? string? slot = some s ↔ slot = some (.string s) := by
  constructor
  · intro h
    cases slot with
    | none => cases h
    | some j =>
      cases j with
      | string t =>
        cases h
        rfl
      | _ => cases h
  · rintro rfl
    rfl

namespace Record

section

variable {α : Type}

/-- The members that are there. -/
def present (entries : List (String × Option α)) : Members α :=
  entries.filterMap fun (key, v) => v.map (key, ·)

/-- An object has the members that are present. -/
theorem objectOf_eq (entries : List (String × Option Json)) :
    objectOf entries = object (present entries) := rfl

/-- An absent member is left out. -/
theorem present_cons_none (key : String) (rest : List (String × Option α)) :
    present ((key, none) :: rest) = present rest := rfl

/-- A present member stands where it is listed. -/
theorem present_cons_some (key : String) (v : α) (rest : List (String × Option α)) :
    present ((key, some v) :: rest) = (key, v) :: present rest := rfl

/-- Members that follow others are present behind theirs. -/
theorem present_append (entries entries' : List (String × Option α)) :
    present (entries ++ entries') = present entries ++ present entries' :=
  List.filterMap_append

/-- A member that is there is one of those that may be. -/
theorem mem_present {entries : List (String × Option α)} {m : String × α}
    (h : m ∈ present entries) : (m.1, some m.2) ∈ entries := by
  obtain ⟨e, he, hem⟩ := List.mem_filterMap.1 h
  obtain ⟨v, hv, rfl⟩ := Option.map_eq_some_iff.1 hem
  rw [← hv]
  exact he

end

section

variable {α β : Type} (f : Field)

/-- A field is written under its name or one of its aliases. -/
theorem hasKey_iff (key : String) : f.hasKey key = true ↔ key ∈ f.name :: f.aliases := by
  simp [Field.hasKey]

/-- The order of the members does not matter. A slot looks for the members with its keys, and there
may be one at most. -/
theorem slot?_of_perm {members members' : Members α} (h : members.Perm members') :
    slot? members f = slot? members' f := by
  have hheld := h.filter fun m => f.hasKey m.1
  unfold slot?
  generalize members.filter (fun m => f.hasKey m.1) = held at hheld
  generalize members'.filter (fun m => f.hasKey m.1) = held' at hheld
  -- One member is the same one in both orders, and otherwise only the number counts.
  rcases held with - | ⟨m, - | ⟨n, rest⟩⟩
  · rw [hheld.nil_eq]
  · rw [List.singleton_perm.1 hheld]
  · have hlength := hheld.length_eq
    rcases held' with - | ⟨m', - | ⟨n', rest'⟩⟩
    · cases hlength
    · simp at hlength
    · rfl

/-- Members that do not name the field are skipped. -/
theorem slot?_append_unknown (members : Members α) {extra : Members α}
    (h : ∀ m ∈ extra, f.hasKey m.1 = false) : slot? (members ++ extra) f = slot? members f := by
  have hextra : extra.filter (fun m => f.hasKey m.1) = [] := by
    rw [List.filter_eq_nil_iff]
    intro m hm
    simp [h m hm]
  simp only [slot?, List.filter_append, hextra, List.append_nil]

/-- What the members hold may be changed before or after it is looked for. Whether a slot is filled
depends on the keys alone. -/
theorem slot?_map (g : α → β) (members : Members α) :
    slot? (members.map fun m => (m.1, g m.2)) f = (slot? members f).map (Option.map g) := by
  have hheld : (members.map fun m => (m.1, g m.2)).filter (fun m => f.hasKey m.1) =
      (members.filter fun m => f.hasKey m.1).map fun m => (m.1, g m.2) := by
    rw [List.filter_map]
    rfl
  unfold slot?
  rw [hheld]
  generalize members.filter (fun m => f.hasKey m.1) = held
  rcases held with - | ⟨m, - | ⟨n, rest⟩⟩ <;> rfl

/-- Fields are found by their keys alone, whatever the members hold. So a record that is read
through views is the record itself, seen through them. -/
theorem named?_map (g : α → β) (fields : List Field) (members : Members α) :
    named? fields (members.map fun m => (m.1, g m.2)) =
      (named? fields members).map (List.map (Option.map g)) := by
  unfold named?
  induction fields with
  | nil => rfl
  | cons f fields ih =>
    -- A field that fails stops the rest on both sides, so the cases are those of one field.
    rw [List.mapM_cons, List.mapM_cons, ih, slot?_map]
    cases slot? members f <;> cases fields.mapM (slot? members) <;> rfl

/-- A slot is read through a view as it is read from what the view shows. -/
theorem optional?_map {γ : Type} (g : α → β) (isNull : β → Bool) (read : β → Option γ)
    (slot : Option α) :
    optional? isNull read (slot.map g) =
      optional? (fun a => isNull (g a)) (fun a => read (g a)) slot := by
  cases slot <;> rfl

/-- Members that hold related values fill a slot with related values. They have to match in number
and order, and only the ones that the slot looks for. -/
theorem slot?_of_related {R : α → β → Prop} {members : Members α} {members' : Members β}
    (h : List.Forall₂ (fun m m' => R m.2 m'.2) (members.filter fun m => f.hasKey m.1)
      (members'.filter fun m => f.hasKey m.1))
    {v : Option α} (hv : slot? members f = some v) :
    ∃ v', slot? members' f = some v' ∧ Option.Rel R v v' := by
  unfold slot? at hv ⊢
  generalize members.filter (fun m => f.hasKey m.1) = held at h hv
  generalize members'.filter (fun m => f.hasKey m.1) = held' at h
  cases h with
  | nil =>
    cases hv
    exact ⟨none, rfl, .none⟩
  | cons hfirst hrest =>
    cases hrest with
    | nil =>
      cases hv
      exact ⟨_, rfl, .some hfirst⟩
    | cons => cases hv

/-- A written member fills the slot of its field, and one that is left out leaves it empty. No other
member may have one of the keys of the field. -/
theorem slot?_present {before after : List (String × Option α)} {key : String} {v : Option α}
    (hkey : f.hasKey key = true) (hbefore : ∀ e ∈ before, f.hasKey e.1 = false)
    (hafter : ∀ e ∈ after, f.hasKey e.1 = false) :
    slot? (present (before ++ (key, v) :: after)) f = some v := by
  have hother : ∀ entries : List (String × Option α), (∀ e ∈ entries, f.hasKey e.1 = false) →
      (present entries).filter (fun m => f.hasKey m.1) = [] := by
    intro entries h
    rw [List.filter_eq_nil_iff]
    intro m hm
    simp [h _ (mem_present hm)]
  unfold slot?
  rw [present_append, List.filter_append, hother before hbefore, List.nil_append]
  cases v with
  | none => rw [present_cons_none, hother after hafter]
  | some w => simp only [present_cons_some, List.filter_cons, hkey, if_true, hother after hafter]

end

section

variable {α : Type}

/-- Neither field has a key that is the name of the other. -/
def Apart (f g : Field) : Prop := f.hasKey g.name = false ∧ g.hasKey f.name = false

/-- A field is written under its own name. -/
theorem hasKey_name (f : Field) : f.hasKey f.name = true :=
  (hasKey_iff f f.name).2 List.mem_cons_self

/-- The fields from some place on get what is written for them. Every field finds what is written
under its own name, since the names are told apart. -/
theorem named?_suffix {before fields : List Field}
    {written rest : List (String × Option α)} (hbefore : written.map Prod.fst = before.map (·.name))
    (hrest : rest.map Prod.fst = fields.map (·.name)) (hapart : (before ++ fields).Pairwise Apart) :
    named? fields (present (written ++ rest)) = some (rest.map Prod.snd) := by
  -- The fields are taken in order. Those before the present one are kept, as their names count.
  induction fields generalizing before written rest with
  | nil =>
    obtain rfl := List.map_eq_nil_iff.1 hrest
    rfl
  | cons f fields ih =>
    cases rest with
    | nil => cases hrest
    | cons e rest =>
      obtain ⟨key, v⟩ := e
      obtain ⟨rfl, hnames⟩ := List.cons.inj hrest
      obtain ⟨-, hfields, hcross⟩ := List.pairwise_append.1 hapart
      have hslot : slot? (present (written ++ (f.name, v) :: rest)) f = some v := by
        refine slot?_present f (hasKey_name f) ?_ ?_
        · intro e he
          have hname : e.1 ∈ before.map (·.name) := hbefore ▸ List.mem_map_of_mem he
          obtain ⟨g, hg, heq⟩ := List.mem_map.1 hname
          rw [← heq]
          exact (hcross g hg f List.mem_cons_self).2
        · intro e he
          have hname : e.1 ∈ fields.map (·.name) := hnames ▸ List.mem_map_of_mem he
          obtain ⟨g, hg, heq⟩ := List.mem_map.1 hname
          rw [← heq]
          exact ((List.pairwise_cons.1 hfields).1 g hg).1
      have hothers : named? fields (present (written ++ (f.name, v) :: rest)) =
          some (rest.map Prod.snd) := by
        rw [List.append_cons] at hapart ⊢
        refine ih ?_ hnames hapart
        rw [List.map_append, List.map_append, hbefore]
        rfl
      unfold named? at hothers ⊢
      rw [List.mapM_cons, hslot, hothers]
      rfl

/-- Each field gets what is written under its name. -/
theorem named?_present {fields : List Field} {entries : List (String × Option α)}
    (hnames : entries.map Prod.fst = fields.map (·.name)) (hapart : fields.Pairwise Apart) :
    named? fields (present entries) = some (entries.map Prod.snd) :=
  @named?_suffix α [] fields [] entries rfl hnames hapart

end

end Record

end TenantSearch.Json
