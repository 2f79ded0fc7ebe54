import Mathlib.Data.List.Nodup
import Mathlib.Data.List.Pairwise
import TenantSearch.Proofs.Json.Record
import TenantSearch.Proofs.Outcome

/-!
# `TenantSearch.Proofs.Search.Variant`: other ways to write a request

Clients do not write requests as the library does. They order the members of a record as they
like, add members of their own, write `not` for `NOT`, and `EQ` for `EQUALS`. `Variant` relates
a JSON value to all the values that differ from it in this way, at each node of its own accord.

What is allowed at a node depends on what stands there. `Place` lists the kinds of nodes, and
`Place.members` the members of each record, with all their spellings. The tables here are those
of the request language, and not the ones that the readers use.

`ReadsBack` says that all variants of a value are read alike. `ReadsBack.record` derives this
for a record from its members.
-/

set_option autoImplicit false

namespace TenantSearch.Search

open TenantSearch.Json (Field objectOf)
open TenantSearch.Json.Record (named? slot? present)

/-! ### Variants -/

/-- What can stand at a node of a request. -/
inductive Place where
  | scalar
  | operator
  | value
  | item
  | filter
  | rule
  | request
  | list (entry : Place)

/-- A member of a record. -/
structure Member where
  name : String
  /-- The other spellings of the name. -/
  aliases : List String := []
  place : Place

/-- Every spelling of the name. -/
def Member.spellings (m : Member) : List String := m.name :: m.aliases

/-- The members of the record that stands at the place. -/
def Place.members : Place → List Member
  | value =>
    [{ name := "str", place := scalar }, { name := "int", place := scalar },
     { name := "float", place := scalar }, { name := "bool", place := scalar },
     { name := "time", place := scalar }, { name := "array", place := list value }]
  | item =>
    [{ name := "property", place := scalar }, { name := "operation", place := operator },
     { name := "value", place := value }, { name := "caseSensitive", place := scalar },
     { name := "includeEmpty", place := scalar }]
  | filter =>
    [{ name := "NOT", aliases := ["not"], place := filter },
     { name := "AND", aliases := ["and"], place := list filter },
     { name := "OR", aliases := ["or"], place := list filter }, { name := "filter", place := item }]
  | rule =>
    [{ name := "by", place := scalar }, { name := "direction", place := scalar },
     { name := "caseSensitive", place := scalar }]
  | request =>
    [{ name := "filter", place := filter }, { name := "sort", place := list rule },
     { name := "search", place := scalar }, { name := "page", place := scalar },
     { name := "limit", place := scalar }]
  | scalar | operator | list _ => []

/-- Whether the record at the place has a member of that name. -/
def Place.Knows (p : Place) (key : String) : Prop := ∃ m ∈ p.members, key ∈ m.spellings

instance (p : Place) (key : String) : Decidable (p.Knows key) :=
  inferInstanceAs (Decidable (∃ m ∈ p.members, key ∈ m.spellings))

mutual

/-- The second value differs from the first one only in ways that mean nothing at the place. -/
inductive Variant : Place → Json → Json → Prop where
  | same (p : Place) (j : Json) : Variant p j j
  /-- The short name of the operator. -/
  | short : Variant .operator (.string "EQUALS") (.string "EQ")
  | list {p : Place} {items items' : List Json} (entries : Entries p items items') :
      Variant (.list p) (.array items) (.array items')
  /-- The members are spelled in another way, unknown ones are added, and all of them are put in
  any order. -/
  | record {p : Place} {members spelled extra shuffled : List (String × Json)}
      (respelled : Respelled p members spelled) (unknown : ∀ m ∈ extra, ¬ p.Knows m.1)
      (shuffle : shuffled.Perm (spelled ++ extra)) : Variant p (.object members) (.object shuffled)

/-- The items of a list are written in another way, one by one. -/
inductive Entries : Place → List Json → List Json → Prop where
  | nil (p : Place) : Entries p [] []
  | cons {p : Place} {j j' : Json} {rest rest' : List Json} (first : Variant p j j')
      (others : Entries p rest rest') : Entries p (j :: rest) (j' :: rest')

/-- The members of a record are spelled and written in another way, one by one. -/
inductive Respelled : Place → List (String × Json) → List (String × Json) → Prop where
  | nil (p : Place) : Respelled p [] []
  | cons {p : Place} {m : Member} {key key' : String} {j j' : Json}
      {rest rest' : List (String × Json)} (known : m ∈ p.members) (spelling : key ∈ m.spellings)
      (spelling' : key' ∈ m.spellings) (held : Variant m.place j j')
      (others : Respelled p rest rest') : Respelled p ((key, j) :: rest) ((key', j') :: rest')

end

/-! ### What a variant can be -/

/-- No two members of a record share a spelling. -/
theorem Place.disjoint_spellings (p : Place) :
    p.members.Pairwise fun m m' => List.Disjoint m.spellings m'.spellings := by
  have hnodup : (p.members.flatMap Member.spellings).Nodup := by
    cases p with
    | list _ => exact List.nodup_nil
    | _ => decide
  exact (List.nodup_flatMap.1 hnodup).2

/-- A value that is no object is written in one way only where nothing is known about its place. -/
theorem Variant.eq_of_scalar {j j' : Json} (h : Variant .scalar j j')
    (hj : ∀ members, j ≠ .object members) : j' = j := by
  cases h with
  | same => rfl
  | record => exact absurd rfl (hj _)

/-- The name of an operator is written as it is, or as the short name of `EQUALS`. -/
theorem Variant.of_operator {s : String} {j' : Json} (h : Variant .operator (.string s) j') :
    j' = .string s ∨ s = "EQUALS" ∧ j' = .string "EQ" := by
  cases h with
  | same => exact .inl rfl
  | short => exact .inr ⟨rfl, rfl⟩

/-- Lists are variants if their entries are, one by one. No entry is added or left out. -/
theorem Entries.forall₂ {p : Place} {items items' : List Json} (h : Entries p items items') :
    List.Forall₂ (Variant p) items items' := by
  -- The relations are mutual, so the induction is on the list and not on `h`.
  induction items generalizing items' with
  | nil =>
    cases h
    exact .nil
  | cons j rest ih =>
    cases h with
    | cons hfirst hothers => exact .cons hfirst (ih hothers)

/-- The variants of a list are lists of variants. -/
theorem Variant.of_array {p : Place} {items : List Json} {j' : Json}
    (h : Variant (.list p) (.array items) j') :
    ∃ items', j' = .array items' ∧ List.Forall₂ (Variant p) items items' := by
  cases h with
  | same => exact ⟨items, rfl, List.forall₂_same.2 fun j _ => .same p j⟩
  | list hentries => exact ⟨_, rfl, hentries.forall₂⟩

/-- Members that are known may stay as they are. -/
theorem Respelled.refl {p : Place} {members : List (String × Json)}
    (h : ∀ m ∈ members, p.Knows m.1) : Respelled p members members := by
  induction members with
  | nil => exact .nil p
  | cons m rest ih =>
    -- The spelling that is used is one of the known ones, and it is used on both sides.
    obtain ⟨known, hknown, hspelling⟩ := h m List.mem_cons_self
    exact .cons hknown hspelling hspelling (.same _ _)
      (ih fun n hn => h n (List.mem_cons_of_mem m hn))

/-- The variants of a record are records, and an unchanged record is one of them. -/
theorem Variant.of_object {p : Place} {members : List (String × Json)} {j' : Json}
    (h : Variant p (.object members) j') (hknown : ∀ m ∈ members, p.Knows m.1) :
    ∃ spelled extra shuffled, j' = .object shuffled ∧ Respelled p members spelled ∧
      (∀ m ∈ extra, ¬ p.Knows m.1) ∧ shuffled.Perm (spelled ++ extra) := by
  cases h with
  | same =>
    exact ⟨members, [], members, rfl, .refl hknown, by simp, by rw [List.append_nil]⟩
  | record hrespelled hunknown hshuffle => exact ⟨_, _, _, rfl, hrespelled, hunknown, hshuffle⟩

/-! ### The slots of a record -/

/-- A spelling belongs to one member. -/
theorem Place.member_unique {p : Place} {m m' : Member} {key : String} (hm : m ∈ p.members)
    (hm' : m' ∈ p.members) (hkey : key ∈ m.spellings) (hkey' : key ∈ m'.spellings) : m = m' := by
  by_contra hne
  have hsymm : Std.Symm fun a b : Member => List.Disjoint a.spellings b.spellings :=
    ⟨fun _ _ h _ hin hin' => h hin' hin⟩
  exact p.disjoint_spellings.forall hm hm' hne hkey hkey'

/-- The field of the readers that stands for the member. -/
def Member.Is (m : Member) (f : Field) : Prop := f.name = m.name ∧ f.aliases = m.aliases

/-- The field for a member is read under the spellings of that member. -/
theorem Member.Is.hasKey_iff {m : Member} {f : Field} (h : m.Is f) (key : String) :
    f.hasKey key = true ↔ key ∈ m.spellings := by
  rw [Json.Record.hasKey_iff, h.1, h.2]
  rfl

/-- The field for a member is read under no other key. -/
theorem Member.Is.hasKey_eq_false {m : Member} {f : Field} (h : m.Is f) {key : String}
    (hkey : key ∉ m.spellings) : f.hasKey key = false :=
  Bool.eq_false_iff.2 fun hhas => hkey ((h.hasKey_iff key).1 hhas)

/-- Other spellings do not move a value to another slot. The spellings of different members are
disjoint, so a slot takes the same members on both sides. -/
theorem Respelled.held {p : Place} {members spelled : List (String × Json)}
    (h : Respelled p members spelled) {m : Member} (hm : m ∈ p.members) {f : Field}
    (hf : m.Is f) :
    List.Forall₂ (fun a b => Variant m.place a.2 b.2) (members.filter fun a => f.hasKey a.1)
      (spelled.filter fun a => f.hasKey a.1) := by
  induction members generalizing spelled with
  | nil =>
    cases h
    exact .nil
  | cons a rest ih =>
    cases h with
    | @cons _ m' key key' j j' _ rest' hm' hkey hkey' hheld hothers =>
      -- Both spellings are of `m'`, so the slot of `m` takes both or neither.
      by_cases hsame : m' = m
      · subst hsame
        have hhas : f.hasKey key = true := (hf.hasKey_iff key).2 hkey
        have hhas' : f.hasKey key' = true := (hf.hasKey_iff key').2 hkey'
        simp only [List.filter_cons, hhas, hhas', if_true]
        exact .cons hheld (ih hothers)
      · have hno : f.hasKey key = false :=
          hf.hasKey_eq_false fun hin => hsame (Place.member_unique hm' hm hkey hin)
        have hno' : f.hasKey key' = false :=
          hf.hasKey_eq_false fun hin => hsame (Place.member_unique hm' hm hkey' hin)
        simpa [List.filter_cons, hno, hno'] using ih hothers

/-- The slots of a variant hold variants of what was written. -/
inductive SlotsVary : List Member → List (Option Json) → List (Option Json) → Prop where
  | nil : SlotsVary [] [] []
  | cons {m : Member} {written slot : Option Json} {members : List Member}
      {others slots : List (Option Json)} (first : Option.Rel (Variant m.place) written slot)
      (rest : SlotsVary members others slots) :
      SlotsVary (m :: members) (written :: others) (slot :: slots)

/-- Members stand for fields with the same names, in the same order. The place and the reader list
the same members, and this is checked for each record by evaluation. -/
theorem forall₂_is {members : List Member} {fields : List Field}
    (h : members.map (fun m => (m.name, m.aliases)) = fields.map fun f => (f.name, f.aliases)) :
    List.Forall₂ Member.Is members fields := by
  have hequal : List.Forall₂ Eq (members.map fun m => (m.name, m.aliases))
      (fields.map fun f => (f.name, f.aliases)) := by
    rw [h]
    exact List.forall₂_refl _
  rw [List.forall₂_map_left_iff, List.forall₂_map_right_iff] at hequal
  refine hequal.imp fun m f heq => ?_
  exact ⟨(congrArg Prod.fst heq).symm, (congrArg Prod.snd heq).symm⟩

/-- The fields of a record are named as its members are. -/
theorem names_of_is {members : List Member} {fields : List Field}
    (h : List.Forall₂ Member.Is members fields) :
    fields.map (·.name) = members.map Member.name := by
  induction h with
  | nil => rfl
  | cons hf _ ih => rw [List.map_cons, List.map_cons, hf.1, ih]

/-- Members without a common spelling have fields that are told apart. No key fits two of the
fields, so every member has one slot at most. -/
theorem apart_of_is {members : List Member} {fields : List Field}
    (h : List.Forall₂ Member.Is members fields)
    (hdisjoint : members.Pairwise fun m m' => List.Disjoint m.spellings m'.spellings) :
    fields.Pairwise Json.Record.Apart := by
  induction h with
  | nil => exact .nil
  | @cons m f members fields hf hothers ih =>
    obtain ⟨hfirst, hrest⟩ := List.pairwise_cons.1 hdisjoint
    refine List.pairwise_cons.2 ⟨fun g hg => ?_, ih hrest⟩
    obtain ⟨m', hm', hg⟩ := exists_of_forall₂ hothers hg
    constructor
    · refine hf.hasKey_eq_false fun hin => hfirst m' hm' hin ?_
      rw [hg.1]
      exact List.mem_cons_self
    · refine hg.hasKey_eq_false fun hin => hfirst m' hm' ?_ hin
      rw [hf.1]
      exact List.mem_cons_self

/-- Slots that vary one by one vary together. The fields are read in their own order, whatever the
order of the members is. -/
theorem slotsVary_of_slot {written shuffled : Members Json} {members : List Member}
    {fields : List Field} (h : List.Forall₂ Member.Is members fields)
    (hslot : ∀ m ∈ members, ∀ f, m.Is f → ∀ v, slot? written f = some v →
      ∃ v', slot? shuffled f = some v' ∧ Option.Rel (Variant m.place) v v')
    {values : List (Option Json)} (hvalues : named? fields written = some values) :
    ∃ slots, named? fields shuffled = some slots ∧ SlotsVary members values slots := by
  induction h generalizing values with
  | nil =>
    cases hvalues
    exact ⟨[], rfl, .nil⟩
  | @cons m f members fields hf hothers ih =>
    unfold named? at hvalues
    rw [List.mapM_cons] at hvalues
    obtain ⟨v, hv, hvalues⟩ := Option.bind_eq_some_iff.1 hvalues
    obtain ⟨rest, hrest, hvalues⟩ := Option.bind_eq_some_iff.1 hvalues
    cases hvalues
    obtain ⟨v', hv', hvary⟩ := hslot m List.mem_cons_self f hf v hv
    obtain ⟨slots, hslots, hothers⟩ :=
      ih (fun m' hm' => hslot m' (List.mem_cons_of_mem m hm')) hrest
    refine ⟨v' :: slots, ?_, .cons hvary hothers⟩
    unfold named? at hslots ⊢
    rw [List.mapM_cons, hv', hslots]
    rfl

/-- The slots of a variant of a record. Each of its members has one. Unknown members, other
spellings and another order are dealt with here, once for all records. -/
theorem Variant.slots {p : Place} {fields : List Field} {entries : List (String × Option Json)}
    {j' : Json} (h : Variant p (objectOf entries) j')
    (hfields : List.Forall₂ Member.Is p.members fields)
    (hentries : entries.map Prod.fst = p.members.map Member.name) :
    ∃ members' slots, j' = .object members' ∧ named? fields members' = some slots ∧
      SlotsVary p.members (entries.map Prod.snd) slots := by
  have hknown : ∀ m ∈ present entries, p.Knows m.1 := by
    intro m hm
    have hname : m.1 ∈ entries.map Prod.fst :=
      List.mem_map.2 ⟨_, Json.Record.mem_present hm, rfl⟩
    rw [hentries] at hname
    obtain ⟨known, hin, heq⟩ := List.mem_map.1 hname
    exact ⟨known, hin, heq ▸ List.mem_cons_self⟩
  rw [Json.Record.objectOf_eq] at h
  obtain ⟨spelled, extra, shuffled, rfl, hrespelled, hunknown, hshuffle⟩ := h.of_object hknown
  -- A slot sees neither the order of the members nor the unknown ones.
  have hslot : ∀ m ∈ p.members, ∀ f, m.Is f → ∀ v, slot? (present entries) f = some v →
      ∃ v', slot? shuffled f = some v' ∧ Option.Rel (Variant m.place) v v' := by
    intro m hm f hf v hv
    have hskip : ∀ a ∈ extra, f.hasKey a.1 = false := fun a ha =>
      hf.hasKey_eq_false fun hin => hunknown a ha ⟨m, hm, hin⟩
    rw [Json.Record.slot?_of_perm f hshuffle, Json.Record.slot?_append_unknown f spelled hskip]
    exact Json.Record.slot?_of_related f (hrespelled.held hm hf) hv
  have hwritten : named? fields (present entries) = some (entries.map Prod.snd) :=
    Json.Record.named?_present (hentries.trans (names_of_is hfields).symm)
      (apart_of_is hfields p.disjoint_spellings)
  obtain ⟨slots, hslots, hvary⟩ := slotsVary_of_slot hfields hslot hwritten
  exact ⟨shuffled, slots, rfl, hslots, hvary⟩

/-! ### Reading variants -/

section

variable {α β : Type} {p : Place}

/-- Every variant of the value is read as `b`, and none is `null`. -/
def ReadsBack (p : Place) (read : Json → Option β) (j : Json) (b : β) : Prop :=
  ∀ j', Variant p j j' → j'.isNull = false ∧ read j' = some b

/-- A scalar has no variants but itself. -/
theorem ReadsBack.scalar {read : Json → Option β} {j : Json} {b : β}
    (hobject : ∀ members, j ≠ .object members) (hnull : j.isNull = false) (hread : read j = some b) :
    ReadsBack .scalar read j b := by
  intro j' h
  rw [h.eq_of_scalar hobject]
  exact ⟨hnull, hread⟩

/-- A list is read item by item. The order of the items counts, and it is the same in every variant.
-/
theorem ReadsBack.list {read : Json → Option β} {readList : Json → Option (List β)}
    (hread : ∀ items, readList (.array items) = items.mapM read) {write : β → Json}
    {values : List β} (h : ∀ b ∈ values, ReadsBack p read (write b) b) :
    ReadsBack (.list p) readList (.array (values.map write)) values := by
  intro j' hj'
  obtain ⟨items, rfl, hvary⟩ := hj'.of_array
  refine ⟨rfl, ?_⟩
  rw [hread, Json.mapM_eq_some_iff]
  clear hj'
  induction values generalizing items with
  | nil =>
    cases hvary
    exact .nil
  | cons b values ih =>
    rw [List.map_cons] at hvary
    cases hvary with
    | cons hfirst hothers =>
      have hothers := ih (fun c hc => h c (List.mem_cons_of_mem b hc)) _ hothers
      exact .cons (h b List.mem_cons_self _ hfirst).2 hothers

/-- A record is read from its slots. For each record it is left to say which fields it has, what is
written for them, and what its slots are filled with. -/
theorem ReadsBack.record {read : Json → Option β} {fields : List Field}
    {fill : List (Option Json) → Option β}
    (hread : ∀ members, read (.object members) = (named? fields members).bind fill)
    (hfields : p.members.map (fun m => (m.name, m.aliases)) =
      fields.map fun f => (f.name, f.aliases)) {entries : List (String × Option Json)}
    (hentries : entries.map Prod.fst = p.members.map Member.name) {b : β}
    (hfill : ∀ slots, SlotsVary p.members (entries.map Prod.snd) slots → fill slots = some b) :
    ReadsBack p read (objectOf entries) b := by
  intro j' h
  obtain ⟨members, slots, rfl, hslots, hvary⟩ := h.slots (forall₂_is hfields) hentries
  refine ⟨rfl, ?_⟩
  rw [hread, hslots]
  exact hfill slots hvary

/-- A slot for what is always written. -/
theorem ReadsBack.required {read : Json → Option β} {j : Json} {b : β} (h : ReadsBack p read j b)
    {slot : Option Json} (hslot : Option.Rel (Variant p) (some j) slot) :
    Json.Record.required? read slot = some b := by
  cases hslot with
  | some hvariant => exact (h _ hvariant).2

/-- A member that has a default and is written is read back. -/
theorem ReadsBack.withDefault {read : Json → Option β} {j : Json} {b : β}
    (h : ReadsBack p read j b) {slot : Option Json}
    (hslot : Option.Rel (Variant p) (some j) slot) (default : β) :
    Json.Record.withDefault? default read slot = some b := by
  cases hslot with
  | some hvariant => exact (h _ hvariant).2

/-- A slot for what is written when it is there. No variant of a value is `null`, which would be
read as a value that is missing. -/
theorem optional_of_readsBack {read : Json → Option β} {write : β → Json} {b : Option β}
    (h : ∀ a ∈ b, ReadsBack p read (write a) a) {slot : Option Json}
    (hslot : Option.Rel (Variant p) (b.map write) slot) :
    Json.optionalSlot? read slot = some b := by
  cases b with
  | none =>
    cases hslot
    rfl
  | some a =>
    cases hslot with
    | some hvariant =>
      obtain ⟨hnull, hread⟩ := h a rfl _ hvariant
      simp only [Json.optionalSlot?, Json.Record.optional?, hnull, hread]
      rfl

end

end TenantSearch.Search
