import TenantSearch.Proofs.Filter.Fault
import TenantSearch.Proofs.Search.Step
import TenantSearch.Proofs.Sort.Joined

/-!
# `TenantSearch.Proofs.Search.Fault`: what is wrong with a request

A request compiles when nothing is wrong with it, and when something is, the compiler reports
the first fault. The faults of a request are those of the nodes of its filter in pre-order, then
those of its comparisons from left to right, then those of its sort rules. `Request.faultsFor`
lists them in this order, without a word on how requests are compiled. `Request.Sound` says
what a request without faults is.

`compile?_outcome`: a request compiles exactly when it is sound, and otherwise fails with the
first of its faults. A malformed node anywhere is reported before any comparison, and a
comparison before any sort rule.
-/

set_option autoImplicit false

namespace TenantSearch.Search

open TenantSearch.Filter (Condition)
open TenantSearch.Text (after? after?_eq_some_iff)

/-! ### Names in sort rules -/

/-- The fault of a name that should be a property of the entity. -/
def nameFault? (entity : Entity) (logical : String) : Option CompileError :=
  if entity.property? logical = none then some (.unknownProperty entity.label logical) else none

/-- The fault of a sort rule. The rules of invoices name a property of the invoice or of its
contract by a prefix. -/
def ruleFault? : Entity → Sort.Rule → Option CompileError
  | .invoice, rule =>
    match after? "INVOICE_" rule.property, after? "CONTRACT_" rule.property with
    | some logical, _ => nameFault? .invoice logical
    | none, some logical => nameFault? .contract logical
    | none, none => some (.unknownProperty "sort" rule.property)
  | entity, rule => nameFault? entity rule.property

/-- Whether the sort rule names a property. -/
def Resolves : Entity → Sort.Rule → Prop
  | .invoice, rule =>
    (∃ p ∈ Entity.invoice.properties, rule.property = "INVOICE_" ++ p.logical) ∨
      ∃ p ∈ Entity.contract.properties, rule.property = "CONTRACT_" ++ p.logical
  | entity, rule => ∃ p ∈ entity.properties, rule.property = p.logical

/-- A property is found if the entity has one of that name. -/
theorem property?_ne_none_iff (entity : Entity) (logical : String) :
    entity.property? logical ≠ none ↔ ∃ p ∈ entity.properties, p.logical = logical := by
  unfold Entity.property?
  simp

/-- A name in the filter is faultless if the entity has such a property. -/
theorem nameFault?_eq_none_iff (entity : Entity) (logical : String) :
    nameFault? entity logical = none ↔ ∃ p ∈ entity.properties, p.logical = logical := by
  rw [← property?_ne_none_iff]
  unfold nameFault?
  by_cases hp : entity.property? logical = none <;> simp [hp]

/-- A name has one of the two prefixes at most. -/
theorem after?_contract {name logical : String} (h : after? "INVOICE_" name = some logical) :
    after? "CONTRACT_" name = none := by
  cases hcontract : after? "CONTRACT_" name with
  | none => rfl
  | some other =>
    rw [after?_eq_some_iff] at h hcontract
    -- The prefixes differ in their first character.
    have hfirst := congrArg (fun s => s.toList.head?) (h.symm.trans hcontract)
    simp at hfirst

/-- After `INVOICE_` stands a property of the invoice. -/
theorem ruleFault?_invoice {rule : Sort.Rule} {logical : String}
    (h : after? "INVOICE_" rule.property = some logical) :
    ruleFault? .invoice rule = nameFault? .invoice logical := by
  simp only [ruleFault?, h]

/-- After `CONTRACT_` stands a property of the contract, unless the name begins with `INVOICE_` as
well. -/
theorem ruleFault?_contract {rule : Sort.Rule} {logical : String}
    (hinvoice : after? "INVOICE_" rule.property = none)
    (h : after? "CONTRACT_" rule.property = some logical) :
    ruleFault? .invoice rule = nameFault? .contract logical := by
  simp only [ruleFault?, hinvoice, h]

/-- A name with neither prefix is no property to sort invoices by. -/
theorem ruleFault?_neither {rule : Sort.Rule}
    (hinvoice : after? "INVOICE_" rule.property = none)
    (hcontract : after? "CONTRACT_" rule.property = none) :
    ruleFault? .invoice rule = some (.unknownProperty "sort" rule.property) := by
  simp only [ruleFault?, hinvoice, hcontract]

/-- A rule for invoices without a fault names a property by its prefix. No name has both prefixes,
so it does not matter which is looked for first. -/
theorem ruleFault?_invoice_eq_none_iff (rule : Sort.Rule) :
    ruleFault? .invoice rule = none ↔ Resolves .invoice rule := by
  unfold Resolves
  simp only [← after?_eq_some_iff]
  cases hinvoice : after? "INVOICE_" rule.property with
  | some logical =>
    rw [ruleFault?_invoice hinvoice, nameFault?_eq_none_iff, after?_contract hinvoice]
    simp [eq_comm]
  | none =>
    cases hcontract : after? "CONTRACT_" rule.property with
    | some logical =>
      rw [ruleFault?_contract hinvoice hcontract, nameFault?_eq_none_iff]
      simp [eq_comm]
    | none =>
      rw [ruleFault?_neither hinvoice hcontract]
      simp

/-- A sort rule is faultless if its property resolves. Only invoices have prefixes to look for. -/
theorem ruleFault?_eq_none_iff (entity : Entity) (rule : Sort.Rule) :
    ruleFault? entity rule = none ↔ Resolves entity rule := by
  cases entity with
  | invoice => exact ruleFault?_invoice_eq_none_iff rule
  | _ =>
    show nameFault? _ rule.property = none ↔ ∃ p ∈ _, rule.property = Property.logical p
    rw [nameFault?_eq_none_iff]
    simp only [eq_comm]

/-- The sources whose prefix fits a name, in the order in which they are tried: the invoice, and
then its contract. -/
theorem fitting_invoiceSources (name : String) :
    (invoiceSources.filterMap fun s => (s.rest? name).map (s, ·)) =
      ((after? "INVOICE_" name).map (invoiceSource, ·)).toList ++
        ((after? "CONTRACT_" name).map (contractSource, ·)).toList := by
  have hinvoice : invoiceSource.rest? name = after? "INVOICE_" name := rfl
  have hcontract : contractSource.rest? name = after? "CONTRACT_" name := rfl
  -- There are two sources, so what fits is a list of at most two.
  rw [invoiceSources_eq, List.filterMap_eq_flatMap_toList, ← hinvoice, ← hcontract]
  simp

/-- The key of a rule fails for the property alone. -/
theorem reports_key (rule : Sort.Rule) (entity : Entity) (logical : String) :
    Reports (rule.key entity logical) (nameFault? entity logical).toList := by
  unfold Sort.Rule.key nameFault? Entity.resolve
  cases entity.property? logical <;> rfl

/-- A rule for invoices is looked up in the source of its prefix. The error names the property
without its prefix, or the whole name where there is no prefix. -/
theorem reports_joinedKey (rule : Sort.Rule) :
    Reports (rule.joinedKey invoiceSources) (ruleFault? .invoice rule).toList := by
  -- At most one of the prefixes fits, so the order of the sources does not matter.
  cases hinvoice : after? "INVOICE_" rule.property with
  | some logical =>
    have hselect : Sort.select? invoiceSources rule.property = some (invoiceSource, logical) := by
      rw [Sort.select?, fitting_invoiceSources, hinvoice, after?_contract hinvoice]
      rfl
    -- The rest of the name is looked up in the table of invoices alone.
    rw [Sort.Rule.joinedKey, hselect, ruleFault?_invoice hinvoice]
    exact (reports_key rule .invoice logical).bind_ok _
  | none =>
    cases hcontract : after? "CONTRACT_" rule.property with
    | some logical =>
      have hselect : Sort.select? invoiceSources rule.property =
          some (contractSource, logical) := by
        rw [Sort.select?, fitting_invoiceSources, hinvoice, hcontract]
        rfl
      rw [Sort.Rule.joinedKey, hselect, ruleFault?_contract hinvoice hcontract]
      exact (reports_key rule .contract logical).bind_ok _
    | none =>
      have hselect : Sort.select? invoiceSources rule.property = none := by
        rw [Sort.select?, fitting_invoiceSources, hinvoice, hcontract]
        rfl
      rw [Sort.Rule.joinedKey, hselect, ruleFault?_neither hinvoice hcontract]
      rfl

/-- The sort rules of a request, or else the standard one. -/
def rulesFor (entity : Entity) (r : Request) : List Sort.Rule :=
  if r.sort.isEmpty then [standardRule entity] else r.sort

/-- The order fails with the fault of the first rule that has one. -/
theorem reports_order? (entity : Entity) (r : Request) :
    Reports (order? entity r.sort) ((rulesFor entity r).filterMap (ruleFault? entity)) := by
  rw [List.filterMap_eq_flatMap_toList]
  cases entity with
  | invoice => exact (Reports.mapM fun rule _ => reports_joinedKey rule).bind_ok _
  | _ => exact (Reports.mapM fun rule _ => reports_key rule _ rule.property).bind_ok _

/-! ### Faults of requests -/

/-- What is wrong with a request: with its nodes, its comparisons and its sort rules. -/
def Request.faultsFor (entity : Entity) (r : Request) : List CompileError :=
  r.nodes.filterMap Filter.fault? ++ r.items.filterMap (Filter.Item.fault? entity)
    ++ (rulesFor entity r).filterMap (ruleFault? entity)

/-- A request without faults. -/
structure Request.Sound (entity : Entity) (r : Request) : Prop where
  /-- Every node sets one member, and every group has two children at least. -/
  nodes : ∀ f ∈ r.nodes, f.memberCount = 1 ∧ ∀ j fs, f = .join j fs → 2 ≤ fs.length
  /-- Every comparison is about a property of the entity. -/
  properties : ∀ i ∈ r.items, ∃ p ∈ entity.properties, p.logical = i.property
  /-- A value that is looked at sets one member at every level. -/
  values : ∀ i ∈ r.items, i.operator.takesValue = true →
    ∀ part ∈ i.value.parts, part.memberCount = 1
  /-- A range has two bounds. -/
  bounds : ∀ i ∈ r.items, i.operator = .between → ∃ low high, i.value = .list [low, high]
  /-- Every sort rule, or else the standard one, names a property. -/
  rules : ∀ rule ∈ rulesFor entity r, Resolves entity rule

/-- A request has no fault if it is sound. The faults are listed by where they are, and soundness
lists what has to hold. -/
theorem faultsFor_eq_nil_iff (entity : Entity) (r : Request) :
    r.faultsFor entity = [] ↔ r.Sound entity := by
  unfold Request.faultsFor
  simp only [List.append_eq_nil_iff, List.filterMap_eq_nil_iff, Filter.fault?_eq_none_iff,
    Filter.Item.fault?_eq_none_iff, ruleFault?_eq_none_iff]
  constructor
  -- What is asked of an item is asked for each item, and so in three lists.
  · rintro ⟨⟨hnodes, hitems⟩, hrules⟩
    refine ⟨hnodes, fun i hi => (hitems i hi).1, fun i hi htakes => ((hitems i hi).2 htakes).1,
      ?_, hrules⟩
    intro i hi hbetween
    exact ((hitems i hi).2 (by rw [hbetween]; rfl)).2 hbetween
  · rintro ⟨hnodes, hproperties, hvalues, hbounds, hrules⟩
    exact ⟨⟨hnodes, fun i hi => ⟨hproperties i hi, fun htakes =>
      ⟨hvalues i hi htakes, hbounds i hi⟩⟩⟩, hrules⟩

/-- The condition fails with the first fault of the filter. A node fails before any item does,
because the filter is checked as a whole before it is compiled. -/
theorem reports_condition? (entity : Entity) (r : Request) :
    Reports (condition? entity r)
      (r.nodes.filterMap Filter.fault? ++ r.items.filterMap (Filter.Item.fault? entity)) := by
  rw [condition?_eq]
  obtain ⟨filter, sort, search, page, limit⟩ := r
  -- Without a filter there is nothing to fail: the term is compiled in any case.
  cases filter with
  | none => rfl
  | some f => exact ((f.reports_compile? entity).map some).map _

/-- The condition of a request comes before its order, so its faults do too. -/
theorem reports_compile? (tenant : String) (entity : Entity) (r : Request) (limits : Limits) :
    Reports (compile? tenant entity r limits) (r.faultsFor entity) :=
  (reports_condition? entity r).bind fun _ _ => (reports_order? entity r).bind_ok _

/-- Nothing but its faults keeps a request from being compiled. -/
theorem exists_compile?_iff (tenant : String) (entity : Entity) (r : Request) (limits : Limits) :
    (∃ q, compile? tenant entity r limits = .ok q) ↔ r.Sound entity := by
  rw [(reports_compile? tenant entity r limits).isOk_iff, faultsFor_eq_nil_iff]

/-- A request compiles exactly when it is sound. Otherwise it fails with the first of its
faults. -/
theorem compile?_outcome (tenant : String) (entity : Entity) (r : Request) (limits : Limits) :
    ((∃ q, compile? tenant entity r limits = .ok q) ↔ r.Sound entity) ∧
      ∀ e, compile? tenant entity r limits = .error e ↔ (r.faultsFor entity).head? = some e :=
  ⟨exists_compile?_iff tenant entity r limits,
    (reports_compile? tenant entity r limits).eq_error_iff⟩

end TenantSearch.Search
