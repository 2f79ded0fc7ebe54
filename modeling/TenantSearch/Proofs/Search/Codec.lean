import TenantSearch.Proofs.Filter.Member
import TenantSearch.Proofs.Filter.Node
import TenantSearch.Proofs.Json.Nested
import TenantSearch.Proofs.Search.Variant
import TenantSearch.Proofs.Time.Timestamp
import TenantSearch.Search.Request

/-!
# `TenantSearch.Proofs.Search.Codec`: requests are read back

What is written for a request is read as that request, and so is every variant of it. The parts
of a request are taken from the inside out: written values, comparisons, filters, sort rules and
the request itself. Each is a record, so its proof says what its members are written as and read
from (`ReadsBack`), and `ReadsBack.record` does the rest. Written values and filters nest, and
are followed by induction.

Filters and written values are nested records, which are read through views. What a view reads is
settled for all of them in `Proofs.Json.Nested`, and here a slot is read as any other slot is.

A float that is not finite is written as `null`, so it is not read back. `Finite` leaves it out.
-/

set_option autoImplicit false

namespace TenantSearch

open TenantSearch.Search (Place Variant Respelled ReadsBack optional_of_readsBack)

namespace Filter

/-! ### Written values -/

/-- A time is read back from its canonical text. -/
theorem readTime?_canonical (t : Time.Timestamp) :
    readTime? (.string t.canonical) = some t := by
  rw [readTime?, Json.string?, Option.bind_some, t.read?_canonical]

namespace WrittenValue

/-- The object form of a written value, over its own slots. -/
theorem ofJson?_object (members : List (String × Json)) :
    ofJson? (.object members) =
      (Json.Record.named? fields members).bind fun slots =>
        ofSlots? (slots.map (·.map nested.view)) :=
  nested.read?_object members

/-- The values of a list are written one by one. -/
theorem toJsons_eq_map (ws : List WrittenValue) : toJsons ws = ws.map toJson :=
  Json.eq_map_of_cons rfl (fun _ _ => rfl) ws

/-- A value is written as an object with a member for each form it has. This is the defining
equation, with the list inside written by `map`. -/
theorem toJson_mk (str : Option String) (int : Option Int64) (float : Option Float)
    (bool : Option Bool) (time : Option Time.Timestamp) (array : Option (List WrittenValue)) :
    toJson ⟨str, int, float, bool, time, array⟩ =
      Json.objectOf
        [("str", str.map .string), ("int", int.map fun n => .integer n.toInt),
         ("float", float.map Json.ofFloat), ("bool", bool.map .bool),
         ("time", time.map fun t => .string t.canonical),
         ("array", array.map fun ws => .array (ws.map toJson))] := by
  cases array <;> simp [toJson, toJsons_eq_map]

/-- The floats of the value, in all its lists, are finite. -/
def Finite (w : WrittenValue) : Prop := ∀ part ∈ w.parts, ∀ x ∈ part.float?, x.isFinite = true

/-- A value can be written as JSON if its own number can, and if the values in its list can. -/
theorem finite_mk_iff {str : Option String} {int : Option Int64} {float : Option Float}
    {bool : Option Bool} {time : Option Time.Timestamp} {array : Option (List WrittenValue)} :
    Finite ⟨str, int, float, bool, time, array⟩ ↔
      (∀ x ∈ float, x.isFinite = true) ∧ ∀ ws ∈ array, ∀ w ∈ ws, w.Finite := by
  unfold Finite
  simp only [parts_mk, List.forall_mem_cons, List.forall_mem_flatMap, float?]
  cases array <;> simp

/-- A written value is read back, with all its lists. A list of values is one of the forms, so the
entries of that list have been read back before. -/
theorem readsBack (w : WrittenValue) (hfinite : w.Finite) :
    ReadsBack .value ofJson? w.toJson w := by
  induction w using induct_members with
  | mk str int float bool time array ih =>
    obtain ⟨hfloats, hitems⟩ := finite_mk_iff.1 hfinite
    have hstr : ∀ s ∈ str, ReadsBack .scalar Json.string? (.string s) s :=
      fun s _ => .scalar (by simp) rfl rfl
    have hint : ∀ n ∈ int, ReadsBack .scalar readInt? (.integer n.toInt) n :=
      fun n _ => .scalar (by simp) rfl (Word.ofInt?_toInt n)
    -- A float that is not finite would be written as `null`.
    have hfloat : ∀ x ∈ float, ReadsBack .scalar readFloat? (Json.ofFloat x) x := by
      intro x hx
      rw [Json.ofFloat, if_pos (hfloats x hx)]
      exact .scalar (by simp) rfl rfl
    have hbool : ∀ b ∈ bool, ReadsBack .scalar Json.bool? (.bool b) b :=
      fun b _ => .scalar (by simp) rfl rfl
    have htime : ∀ t ∈ time, ReadsBack .scalar readTime? (.string t.canonical) t :=
      fun t _ => .scalar (by simp) rfl (readTime?_canonical t)
    have harray : ∀ ws ∈ array, ReadsBack (.list .value) (fun j => (nested.view j).many)
        (.array (ws.map toJson)) ws :=
      fun ws hws => .list nested.many_view_array fun w hw => ih ws hws w hw (hitems ws hws w hw)
    rw [toJson_mk]
    -- One slot for each member that a value may have, in the order in which they are written.
    refine .record ofJson?_object rfl rfl fun slots hslots => ?_
    obtain _ | ⟨h₁, _ | ⟨h₂, _ | ⟨h₃, _ | ⟨h₄, _ | ⟨h₅, _ | ⟨h₆, _ | _⟩⟩⟩⟩⟩⟩ := hslots
    simp only [List.map_cons, List.map_nil, ofSlots?, Json.Nested.plain?_view,
      Json.Nested.optional?_view, optional_of_readsBack hstr h₁, optional_of_readsBack hint h₂,
      optional_of_readsBack hfloat h₃, optional_of_readsBack hbool h₄,
      optional_of_readsBack htime h₅, optional_of_readsBack harray h₆]
    rfl

end WrittenValue

/-! ### Comparisons -/

/-- An operator is read back. `EQ` is the one short name, and it is read as `EQUALS` is. -/
theorem Operator.readsBack (op : Operator) : ReadsBack .operator ofJson? op.toJson op := by
  intro j h
  rcases h.of_operator with rfl | ⟨hname, rfl⟩
  · exact ⟨rfl, ofJson?_toJson op⟩
  -- Only one operator is written as `EQUALS`.
  · obtain rfl : op = .equals := by
      cases op <;> first | rfl | exact absurd hname (by decide)
    exact ⟨rfl, rfl⟩

/-- A comparison is read back. Its operator, its value and its flags have defaults, which are read
where the member is left out. -/
theorem Item.readsBack (i : Item) (hfinite : i.value.Finite) :
    ReadsBack .item ofJson? i.toJson i := by
  have hproperty : ReadsBack .scalar Json.string? (.string i.property) i.property :=
    .scalar (by simp) rfl rfl
  have hflag : ∀ flag : Option Bool, ∀ b ∈ flag, ReadsBack .scalar Json.bool? (.bool b) b :=
    fun _ b _ => .scalar (by simp) rfl rfl
  refine .record (fun _ => rfl) rfl rfl fun slots hslots => ?_
  obtain _ | ⟨h₁, _ | ⟨h₂, _ | ⟨h₃, _ | ⟨h₄, _ | ⟨h₅, _ | _⟩⟩⟩⟩⟩ := hslots
  simp only [ofSlots?, hproperty.required h₁, i.operator.readsBack.withDefault h₂,
    (i.value.readsBack hfinite).withDefault h₃, optional_of_readsBack (hflag _) h₄,
    optional_of_readsBack (hflag _) h₅]
  rfl

/-! ### Filters -/

/-- The object form of a filter, over its own slots. -/
theorem ofJson?_object (members : List (String × Json)) :
    ofJson? (.object members) =
      (Json.Record.named? fields members).bind fun slots =>
        ofSlots? (slots.map (·.map nested.view)) :=
  nested.read?_object members

/-- The filters of a list are written one by one. -/
theorem toJsons_eq_map (fs : List Filter) : toJsons fs = fs.map toJson :=
  Json.eq_map_of_cons rfl (fun _ _ => rfl) fs

/-- A filter is written as an object with a member for each of its parts. This is the defining
equation, with the lists inside written by `map`. -/
theorem toJson_mk (negated : Option Filter) (conjunction disjunction : Option (List Filter))
    (item : Option Item) :
    toJson ⟨negated, conjunction, disjunction, item⟩ =
      Json.objectOf
        [("NOT", negated.map toJson), ("AND", conjunction.map fun fs => .array (fs.map toJson)),
         ("OR", disjunction.map fun fs => .array (fs.map toJson)),
         ("filter", item.map Item.toJson)] := by
  cases negated <;> cases conjunction <;> cases disjunction <;> simp [toJson, toJsons_eq_map]

/-- The floats of all comparisons are finite. -/
def Finite (f : Filter) : Prop := ∀ i ∈ f.items, i.value.Finite

/-- A filter can be written as JSON if its comparison can, and if all the filters in it can. -/
theorem finite_mk_iff {negated : Option Filter} {conjunction disjunction : Option (List Filter)}
    {item : Option Item} :
    Finite ⟨negated, conjunction, disjunction, item⟩ ↔
      (∀ i ∈ item, i.value.Finite) ∧ (∀ f ∈ negated, f.Finite) ∧
        (∀ fs ∈ conjunction, ∀ f ∈ fs, f.Finite) ∧ ∀ fs ∈ disjunction, ∀ f ∈ fs, f.Finite := by
  unfold Finite
  simp only [items_mk, List.forall_mem_append, List.forall_mem_flatMap, Option.mem_toList]
  cases conjunction <;> cases disjunction <;> simp [and_assoc]

/-- A filter is read back, with all its nodes. The filters in it are read through views, which have
been read back before. -/
theorem readsBack (f : Filter) (hfinite : f.Finite) : ReadsBack .filter ofJson? f.toJson f := by
  induction f using induct_members with
  | mk negated conjunction disjunction item ihnegated ihconjunction ihdisjunction =>
    obtain ⟨hitem, hnegated, hconjunction, hdisjunction⟩ := finite_mk_iff.1 hfinite
    have hgroup : ∀ group : Option (List Filter),
        (∀ fs ∈ group, ∀ f ∈ fs, ReadsBack .filter ofJson? f.toJson f) →
        ∀ fs ∈ group, ReadsBack (.list .filter) (fun j => (nested.view j).many)
          (.array (fs.map toJson)) fs :=
      fun _ h fs hfs => .list nested.many_view_array (h fs hfs)
    -- What is left is the record: its members, and what is read from each.
    rw [toJson_mk]
    refine .record ofJson?_object rfl rfl fun slots hslots => ?_
    obtain _ | ⟨h₁, _ | ⟨h₂, _ | ⟨h₃, _ | ⟨h₄, _ | _⟩⟩⟩⟩ := hslots
    -- The filter inside is read through its own view, which is what `ofJson?` does.
    have hread₁ : Json.optionalSlot? (fun j => (nested.view j).one) _ = some negated :=
      optional_of_readsBack (fun f hf => ihnegated f hf (hnegated f hf)) h₁
    have hread₂ := optional_of_readsBack (hgroup _ fun fs hfs f hf =>
      ihconjunction fs hfs f hf (hconjunction fs hfs f hf)) h₂
    have hread₃ := optional_of_readsBack (hgroup _ fun fs hfs f hf =>
      ihdisjunction fs hfs f hf (hdisjunction fs hfs f hf)) h₃
    have hread₄ := optional_of_readsBack (fun i hi => i.readsBack (hitem i hi)) h₄
    simp only [List.map_cons, List.map_nil, ofSlots?, Json.Nested.plain?_view,
      Json.Nested.optional?_view, hread₁, hread₂, hread₃, hread₄]
    rfl

end Filter

/-! ### Requests -/

/-- A sort rule is read back. The direction has a default, and the flag may be missing. -/
theorem Sort.Rule.readsBack (r : Sort.Rule) : ReadsBack .rule ofJson? r.toJson r := by
  have hproperty : ReadsBack .scalar Json.string? (.string r.property) r.property :=
    .scalar (by simp) rfl rfl
  have hdirection : ReadsBack .scalar Direction.ofJson? r.direction.toJson r.direction :=
    .scalar (by simp [Direction.toJson]) rfl (Direction.ofJson?_toJson r.direction)
  have hflag : ∀ b ∈ r.caseSensitive, ReadsBack .scalar Json.bool? (.bool b) b :=
    fun b _ => .scalar (by simp) rfl rfl
  refine .record (fun _ => rfl) rfl rfl fun slots hslots => ?_
  obtain _ | ⟨h₁, _ | ⟨h₂, _ | ⟨h₃, _ | _⟩⟩⟩ := hslots
  simp only [ofSlots?, hproperty.required h₁, hdirection.withDefault h₂,
    optional_of_readsBack hflag h₃]
  rfl

namespace Search.Request

/-- The floats of the filter are finite. -/
def Finite (r : Request) : Prop := ∀ f ∈ r.filter, f.Finite

/-- An empty list of rules is left out, and read where no rules are written. So the list is the one
member of a request that is written by its content. -/
theorem withDefault?_sort {rules : List Sort.Rule} {slot : Option Json}
    (h : Option.Rel (Variant (.list .rule))
      (if rules.isEmpty then none else some (.array (rules.map Sort.Rule.toJson))) slot) :
    Json.Record.withDefault? [] Sort.Rule.listOfJson? slot = some rules := by
  cases rules with
  | nil =>
    cases h
    rfl
  | cons first others =>
    have hrules : ReadsBack (.list .rule) Sort.Rule.listOfJson?
        (.array ((first :: others).map Sort.Rule.toJson)) (first :: others) :=
      .list (fun _ => rfl) fun r _ => r.readsBack
    exact hrules.withDefault h []

/-- A request is read back. It can be written in several ways, and `Variant` says which. The members
are read independently, each into a field of its own. -/
theorem readsBack (r : Request) (hfinite : r.Finite) : ReadsBack .request ofJson? r.toJson r := by
  have hsearch : ∀ s ∈ r.search, ReadsBack .scalar Json.string? (.string s) s :=
    fun s _ => .scalar (by simp) rfl rfl
  -- The page and the limit are numbers of the same kind.
  have hnumber : ∀ number : Option Int64, ∀ n ∈ number,
      ReadsBack .scalar Filter.readInt? (.integer n.toInt) n :=
    fun _ n _ => .scalar (by simp) rfl (Word.ofInt?_toInt n)
  refine .record (fun _ => rfl) rfl rfl fun slots hslots => ?_
  obtain _ | ⟨h₁, _ | ⟨h₂, _ | ⟨h₃, _ | ⟨h₄, _ | ⟨h₅, _ | _⟩⟩⟩⟩⟩ := hslots
  simp only [ofSlots?, optional_of_readsBack (fun f hf => f.readsBack (hfinite f hf)) h₁,
    withDefault?_sort h₂, optional_of_readsBack hsearch h₃, optional_of_readsBack (hnumber _) h₄,
    optional_of_readsBack (hnumber _) h₅]
  rfl

/-- A request is read back from what is written for it, and from every other way to write that. -/
theorem ofJson?_of_variant (r : Request) (hfinite : r.Finite) :
    ofJson? r.toJson = some r ∧ ∀ j, Variant .request r.toJson j → ofJson? j = some r :=
  ⟨(r.readsBack hfinite _ (.same _ _)).2, fun j h => (r.readsBack hfinite j h).2⟩

/-- A request for the second page of what does not have one of the given amounts. -/
def otherAmounts : Request where
  filter := some (.negate (.compare
    { property := "amount", value := .list [⟨none, none, some 1.5, none, none, none⟩] }))
  page := some 2

/-- The amounts as a client may write them, with a member that is not known here. -/
def writtenAmounts : Json :=
  .object [("array", .array [.object [("unit", .string "EUR"), ("float", .float 1.5)]])]

/-- Their comparison as a client may write it, with a short name and in another order. -/
def writtenItem : Json :=
  .object
    [("operation", .string "EQ"), ("property", .string "amount"), ("value", writtenAmounts)]

/-- The request as a client may write it. -/
def writtenRequest : Json :=
  .object
    [("page", .integer 2), ("trace", .bool true),
     ("filter", .object [("not", .object [("filter", writtenItem)])])]

/-- The amounts can be written: the number is finite. -/
theorem finite_otherAmounts : otherAmounts.Finite := by
  have hfloat : (1.5 : Float).isFinite = true := by decide
  intro f hf i hi
  obtain rfl := Option.some.inj hf
  rw [Filter.items_negate, Filter.items_compare] at hi
  obtain rfl := List.mem_singleton.1 hi
  simp [Filter.WrittenValue.list, Filter.WrittenValue.finite_mk_iff, hfloat]

/-- The amounts are written with a member that no reader knows, which stands before the number.
Neither changes what the slots of the record hold. -/
theorem variant_writtenAmounts :
    Variant .value (.object [("array", .array [.object [("float", .float 1.5)]])])
      writtenAmounts := by
  have hfloat : Respelled .value [("float", .float 1.5)] [("float", .float 1.5)] :=
    .cons (.tail _ (.tail _ (.head _))) (by decide) (by decide) (.same _ _) (.nil _)
  have hunit : ∀ m ∈ [("unit", Json.string "EUR")], ¬ Place.value.Knows m.1 :=
    List.forall_mem_singleton.2 (by decide)
  have hentry : Variant .value (.object [("float", .float 1.5)])
      (.object [("unit", .string "EUR"), ("float", .float 1.5)]) :=
    .record hfloat hunit (@List.perm_append_comm _ [_] [_])
  have harray : Respelled .value [("array", .array [.object [("float", .float 1.5)]])]
      [("array", .array [.object [("unit", .string "EUR"), ("float", .float 1.5)]])] :=
    .cons (.tail _ (.tail _ (.tail _ (.tail _ (.tail _ (.head _)))))) (by decide) (by decide)
      (.list (.cons hentry (.nil _))) (.nil _)
  exact .record harray (List.forall_mem_nil _) (.refl _)

/-- The comparison is written with the short name, and with its members in another order. Only the
place of an operator has short names. -/
theorem variant_writtenItem :
    Variant .item
      (.object
        [("property", .string "amount"), ("operation", .string "EQUALS"),
         ("value", .object [("array", .array [.object [("float", .float 1.5)]])])])
      writtenItem := by
  have hspelled : Respelled .item
      [("property", .string "amount"), ("operation", .string "EQUALS"),
       ("value", .object [("array", .array [.object [("float", .float 1.5)]])])]
      [("property", .string "amount"), ("operation", .string "EQ"), ("value", writtenAmounts)] :=
    .cons (.head _) (by decide) (by decide) (.same _ _)
      (.cons (.tail _ (.head _)) (by decide) (by decide) .short
        (.cons (.tail _ (.tail _ (.head _))) (by decide) (by decide) variant_writtenAmounts
          (.nil _)))
  exact .record hspelled (List.forall_mem_nil _) (.swap _ _ _)

/-- The request is written with `not` for `NOT`, with a member that no reader knows, and in another
order. -/
theorem variant_writtenRequest : Variant .request otherAmounts.toJson writtenRequest := by
  have hfilter : Respelled .filter
      [("filter", .object
        [("property", .string "amount"), ("operation", .string "EQUALS"),
         ("value", .object [("array", .array [.object [("float", .float 1.5)]])])])]
      [("filter", writtenItem)] :=
    .cons (.tail _ (.tail _ (.tail _ (.head _)))) (by decide) (by decide) variant_writtenItem
      (.nil _)
  have hnot : Respelled .filter [("NOT", .object _)] [("not", .object _)] :=
    .cons (.head _) (by decide) (by decide)
      (.record hfilter (List.forall_mem_nil _) (.refl _)) (.nil _)
  have hrequest : Respelled .request [("filter", .object _), ("page", .integer 2)]
      [("filter", .object _), ("page", .integer 2)] :=
    .cons (.head _) (by decide) (by decide) (.record hnot (List.forall_mem_nil _) (.refl _))
      (.cons (.tail _ (.tail _ (.tail _ (.head _)))) (by decide) (by decide) (.same _ _) (.nil _))
  have htrace : ∀ m ∈ [("trace", Json.bool true)], ¬ Place.request.Knows m.1 :=
    List.forall_mem_singleton.2 (by decide)
  exact .record hrequest htrace (@List.perm_append_comm _ [_, _] [_])

/-- A request with floats is read back, whatever liberty the client takes in writing it. -/
theorem ofJson?_writtenRequest :
    otherAmounts.Finite ∧ Variant .request otherAmounts.toJson writtenRequest ∧
      ofJson? writtenRequest = some otherAmounts :=
  ⟨finite_otherAmounts, variant_writtenRequest,
    (ofJson?_of_variant otherAmounts finite_otherAmounts).2 _ variant_writtenRequest⟩

end Search.Request

end TenantSearch
