import TenantSearch.Entity
import TenantSearch.Proofs.Cypher.Identifier
import TenantSearch.Store.Node

/-!
# `TenantSearch.Proofs.Store.Node`: a probe sees one tenant

The name of a tenant goes into the statement of a probe. `Node.Contained` states that it does
not get out of its place there, whatever it is: the statement has one quoted name, and that name
is the label of the tenant's nodes. Two probes then have the same statement only if they look at
the same kind of node of the same tenant (`statement_contained`).
-/

set_option autoImplicit false

namespace TenantSearch

namespace Entity

/-- Entities have different labels. -/
theorem label_inj {e e' : Entity} : e.label = e'.label ↔ e = e' := by
  cases e <;> cases e' <;> decide

/-- No label of an entity has an underscore, so the first one in a tenant label ends the entity. -/
theorem underscore_not_mem_label (e : Entity) : '_' ∉ e.label.toList := by
  cases e <;> decide

end Entity

namespace Store.Node

open TenantSearch.Cypher

/-- What stands before the quoted name of a probe. -/
def opening : List Char := "MATCH (n:".toList

/-- What stands behind it. -/
def closing : List Char := " \x7bid: $id\x7d) RETURN count(n) > 0".toList

/-- The tenant and the id of a node stay in their places. -/
structure Contained (n : Node) : Prop where
  /-- The first quoted name of the statement is the label of the node and its tenant, and the
  text around it is fixed. -/
  reading : Identifier.read? n.statement.toList =
    some ⟨opening, (n.label ++ "_" ++ n.tenant).toList, closing⟩
  /-- There is no other quoted name. -/
  single : '\x60' ∉ closing
  /-- The id is the parameter of the probe, -/
  bound : n.probe = ⟨n.statement, [("id", .string n.id)]⟩
  /-- and the statement is the same for all ids. -/
  unmentioned : ∀ id, ({ n with id } : Node).statement = n.statement

/-- The label of a statement is read out of it: what stands between the quotes is the tenant label
of its node. -/
theorem read?_statement (n : Node) :
    Identifier.read? n.statement.toList =
      some ⟨opening, (Identifier.tenantLabel n.label n.tenant).toList, closing⟩ := by
  have htext : n.statement.toList =
      opening ++
        ((Identifier.quote (Identifier.tenantLabel n.label n.tenant)).toList ++ closing) := by
    rw [statement, String.toList_append, String.toList_append, List.append_assoc]
    rfl
  rw [htext]
  exact Identifier.read?_append (by decide) _ (by decide)

/-- The statement of a probe tells the label of the tenant's nodes. The label is quoted, and quoted
names are read back, whatever characters they have. -/
theorem statement_inj {n n' : Node} :
    n.statement = n'.statement ↔
      Identifier.tenantLabel n.label n.tenant = Identifier.tenantLabel n'.label n'.tenant := by
  constructor
  · intro h
    have hread := n.read?_statement
    rw [h, n'.read?_statement] at hread
    have hname := congrArg Identifier.Quoted.name (Option.some.inj hread)
    exact (String.toList_inj.1 hname).symm
  · intro h
    rw [statement, statement, h]

/-- A probe quotes its tenant as a part of one label, and its statement tells the tenants and
the kinds of nodes apart. -/
theorem statement_contained :
    (∀ n : Node, n.Contained) ∧
      ∀ (e e' : Entity) (tenant tenant' id id' : String),
        (⟨tenant, id, e.label⟩ : Node).statement = (⟨tenant', id', e'.label⟩ : Node).statement ↔
          e = e' ∧ tenant = tenant' := by
  constructor
  · intro n
    exact
      { reading := n.read?_statement
        single := by decide
        bound := rfl
        unmentioned := fun _ => rfl }
  · intro e e' tenant tenant' id id'
    rw [statement_inj]
    show Identifier.tenantLabel e.label tenant = Identifier.tenantLabel e'.label tenant' ↔ _
    rw [Identifier.tenantLabel_inj e.underscore_not_mem_label e'.underscore_not_mem_label,
      Entity.label_inj]

end Store.Node

end TenantSearch
