import TenantSearch.CompileError

/-!
# `TenantSearch.Entity`: what can be searched

Each entity has a table of properties. Requests use the logical name of a property, statements
use the physical one. Text properties can be compared without regard to case, and free-text
search looks at them.

Logical names are unique in a table (`nodup_logical`), so `resolve` does not depend on the
order of the table.
-/

set_option autoImplicit false

namespace TenantSearch

/-- A property of an entity. -/
structure Property where
  /-- The name in requests. -/
  logical : String
  /-- The name in the graph store. -/
  physical : String
  /-- Whether the property holds text. -/
  isText : Bool
deriving DecidableEq, Repr

/-- A kind of node that can be searched. -/
inductive Entity where
  | organization
  | contact
  | user
  | meeting
  | contract
  | invoice
deriving DecidableEq, Repr, Inhabited

namespace Entity

/-- Every entity. -/
def all : List Entity := [organization, contact, user, meeting, contract, invoice]

/-- The name in requests. -/
def name : Entity → String
  | organization => "organization"
  | contact => "contact"
  | user => "user"
  | meeting => "meeting"
  | contract => "contract"
  | invoice => "invoice"

/-- The label of the nodes. -/
def label : Entity → String
  | organization => "Organization"
  | contact => "Contact"
  | user => "User"
  | meeting => "Meeting"
  | contract => "Contract"
  | invoice => "Invoice"

/-- The name of the node in statements. -/
def nodeName : Entity → String
  | organization => "org"
  | contact => "c"
  | user => "u"
  | meeting => "m"
  | contract => "ct"
  | invoice => "i"

/-- The relationship from the node to its tenant. -/
def tenantRelationship : Entity → String
  | organization => "ORGANIZATION_BELONGS_TO_TENANT"
  | contact => "CONTACT_BELONGS_TO_TENANT"
  | user => "USER_BELONGS_TO_TENANT"
  | meeting => "MEETING_BELONGS_TO_TENANT"
  | contract => "CONTRACT_BELONGS_TO_TENANT"
  | invoice => "INVOICE_BELONGS_TO_TENANT"

/-- A text property. -/
def text (logical physical : String) : Property := ⟨logical, physical, true⟩

/-- A property that holds no text to compare. -/
def plain (logical physical : String) : Property := ⟨logical, physical, false⟩

/-- The properties, in order. -/
def properties : Entity → List Property
  | organization =>
    [plain "ID" "id", text "NAME" "name", text "DESCRIPTION" "description",
     text "WEBSITE" "website", text "INDUSTRY" "industry", text "MARKET" "market",
     text "REFERENCE_ID" "referenceId", plain "EMPLOYEES" "employees",
     plain "IS_CUSTOMER" "isCustomer", plain "HIDE" "hide",
     plain "LAST_TOUCHPOINT_AT" "lastTouchpointAt", plain "CREATED_AT" "createdAt",
     plain "UPDATED_AT" "updatedAt"]
  | contact =>
    [plain "ID" "id", text "NAME" "name", text "FIRST_NAME" "firstName",
     text "LAST_NAME" "lastName", text "PREFIX" "prefix", text "DESCRIPTION" "description",
     text "TIMEZONE" "timezone", plain "CREATED_AT" "createdAt",
     plain "UPDATED_AT" "updatedAt"]
  | user =>
    [plain "ID" "id", text "FIRST_NAME" "firstName", text "LAST_NAME" "lastName",
     plain "INTERNAL" "internal", plain "BOT" "bot", plain "CREATED_AT" "createdAt"]
  | meeting =>
    [plain "ID" "id", text "NAME" "name", text "AGENDA" "agenda", plain "START_AT" "startedAt",
     plain "END_AT" "endedAt", plain "CREATED_AT" "createdAt"]
  | contract =>
    [plain "ID" "id", text "NAME" "name", plain "STATUS" "status",
     plain "SERVICE_STARTED_AT" "serviceStartedAt", plain "ENDED_AT" "endedAt",
     plain "CREATED_AT" "createdAt"]
  | invoice =>
    [plain "ID" "id", text "NUMBER" "number", plain "STATUS" "status",
     plain "DRY_RUN" "dryRun", plain "AMOUNT" "totalAmount", plain "CURRENCY" "currency",
     plain "ISSUED_DATE" "issuedDate", plain "DUE_DATE" "dueDate",
     plain "CREATED_AT" "createdAt"]

/-- The property with a logical name, when the entity has one. -/
def property? (e : Entity) (logical : String) : Option Property :=
  e.properties.find? fun p => p.logical = logical

/-- The property with a logical name. -/
def resolve (e : Entity) (logical : String) : Except CompileError Property :=
  match e.property? logical with
  | some p => .ok p
  | none => .error (.unknownProperty e.label logical)

/-- The text properties, in order. -/
def searchable (e : Entity) : List Property := e.properties.filter Property.isText

/-- The entity of a name, without regard to the case of ASCII letters. -/
def ofName? (s : String) : Option Entity :=
  all.find? fun e => e.name = s.map Char.toLower

/-- What is said of a name that no entity has. -/
def unknownMessage (s : String) : String :=
  "unknown entity '" ++ s ++ "', expected one of: " ++ ", ".intercalate (all.map name)

/-- Reads an entity. Here the name is in lower case. -/
def ofJson? : Json → Option Entity := Json.name? (all.map fun e => (e.name, e))

/-- Writes an entity. -/
def toJson (e : Entity) : Json := .string e.name

/-- No table gives two properties the same logical name. -/
theorem nodup_logical (e : Entity) : (e.properties.map Property.logical).Nodup := by
  cases e <;> decide

/-- Every entity has text to search. -/
theorem searchable_ne_nil (e : Entity) : e.searchable ≠ [] := by
  cases e <;> decide

/-- A property that is found has the name that was looked for. -/
theorem logical_of_property? {e : Entity} {logical : String} {p : Property}
    (h : e.property? logical = some p) : p.logical = logical ∧ p ∈ e.properties :=
  ⟨by simpa using List.find?_some h, List.mem_of_find?_eq_some h⟩

/-- Every property is found under its logical name. The search stops at the first property with that
name, and no table has two. -/
theorem property?_logical {e : Entity} {p : Property} (h : p ∈ e.properties) :
    e.property? p.logical = some p := by
  have nodup := e.nodup_logical
  revert h nodup
  unfold property?
  generalize e.properties = ps
  intro h nodup
  induction ps with
  | nil => simp at h
  | cons q rest ih =>
    rw [List.map_cons, List.nodup_cons] at nodup
    rcases List.mem_cons.1 h with rfl | hrest
    · simp
    · have hne : q.logical ≠ p.logical := by
        intro heq
        exact nodup.1 (heq ▸ List.mem_map_of_mem hrest)
      simp [List.find?, hne, ih hrest nodup.2]

end Entity

end TenantSearch
