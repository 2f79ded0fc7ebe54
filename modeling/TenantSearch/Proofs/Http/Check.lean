import TenantSearch.Http.Router

/-!
# `TenantSearch.Proofs.Http.Check`: requests that are turned away

A request to an entity passes six checks before the store is called. `Fails` states each of them
on the request as it came, with what the client is told, and does not ask whether the others
pass: a request may fail several at once. `First` is the first check that fails in the order of
`Check.rank`.

The lemmas at the end say what there is once checks have passed: a tenant, an entity, a search
request.
-/

set_option autoImplicit false

namespace TenantSearch.Http

/-! ### The checks -/

/-- The checks of a request to an entity. -/
inductive Check where
  /-- The tenant and the entity can be read from the path. -/
  | path
  | tenant
  | entity
  /-- The body holds a search request. -/
  | body
  /-- The values of the search request are in their bounds. -/
  | values
  | compilation
deriving DecidableEq, Repr

namespace Check

/-- The place of the check among the others. -/
def rank : Check → Nat
  | path => 0
  | tenant => 1
  | entity => 2
  | body => 3
  | values => 4
  | compilation => 5

/-- The status of the response to a request that fails the check. -/
def status : Check → Nat
  | entity => 404
  | _ => 400

/-- The codes in the response to a request that fails the check. -/
def codes : Check → List String
  | path => ["PATH_PARSE_ERROR"]
  | tenant => ["INVALID_TENANT"]
  | entity => ["UNKNOWN_ENTITY"]
  | body => ["JSON_PARSE_ERROR"]
  | values => ["VALIDATION_ERROR"]
  | compilation => ["MALFORMED_FILTER", "UNKNOWN_PROPERTY"]

/-- The response names the check. -/
def Names (c : Check) (response : Response) : Prop :=
  ∃ code ∈ c.codes, ∃ kind message,
    response = .json c.status (Problem.body kind code message)

end Check

/-- The search request that the body says. -/
def Request.content? (r : Request) : Option Search.Request :=
  (Json.read? r.body).bind Search.Request.ofJson?

/-- Whether the body is said to be JSON. -/
def Request.hasJson (r : Request) : Bool :=
  (header? r.headers "content-type").any MediaType.isJson

section

variable (limits : Search.Limits) (tenant name : String) (r : Request)

/-- The request fails a check, and this is the problem with it. The tenant and the name are parts
of the path, as they stand in it. -/
inductive Fails : Check → Problem → Prop where
  | tenantPart (h : Text.Percent.decode? tenant = none) :
      Fails .path (Rejection.unreadablePath "tenant").problem
  | namePart {t : String} (htenant : Text.Percent.decode? tenant = some t)
      (h : Text.Percent.decode? name = none) :
      Fails .path (Rejection.unreadablePath "entity").problem
  | tenant {t : String} (htenant : Text.Percent.decode? tenant = some t)
      (h : Tenant.isValid t = false) : Fails .tenant Rejection.invalidTenant.problem
  | entity {n : String} (hname : Text.Percent.decode? name = some n)
      (h : Entity.ofName? n = none) : Fails .entity (Rejection.unknownEntity n).problem
  | notJson (h : r.hasJson = false) : Fails .body Rejection.notJson.problem
  | tooLarge (hjson : r.hasJson = true) (h : maxBodyBytes < r.body.utf8ByteSize) :
      Fails .body Rejection.bodyTooLarge.problem
  | unreadable (hjson : r.hasJson = true) (hsize : r.body.utf8ByteSize ≤ maxBodyBytes)
      (h : r.content? = none) : Fails .body Rejection.unreadableBody.problem
  | values {request : Search.Request} (hcontent : r.content? = some request)
      (h : (∃ n, request.limit = some n ∧ n < 0) ∨
        ∃ s, request.search = some s ∧ 256 < s.length) :
      Fails .values (Rejection.invalid request.faults).problem
  | compilation {t n : String} {e : Entity} {request : Search.Request} {error : CompileError}
      (htenant : Text.Percent.decode? tenant = some t)
      (hname : Text.Percent.decode? name = some n) (hentity : Entity.ofName? n = some e)
      (hcontent : r.content? = some request)
      (h : Search.compile? t e request limits = .error error) :
      Fails .compilation (Problem.ofCompile error)

/-- The request passes the check. -/
def Passes (c : Check) : Prop := ∀ p, ¬ Fails limits tenant name r c p

/-- The check is the first one that the request fails. -/
structure First (c : Check) (p : Problem) : Prop where
  fails : Fails limits tenant name r c p
  earlier : ∀ c', c'.rank < c.rank → Passes limits tenant name r c'

end

section

variable {limits : Search.Limits} {tenant name : String} {r : Request}

/-! ### The first check -/

/-- If a check fails, then some check fails first. -/
theorem Fails.exists_first {c : Check} {p : Problem} (h : Fails limits tenant name r c p) :
    ∃ c' p', First limits tenant name r c' p' := by
  by_cases hearlier : ∀ c', c'.rank < c.rank → Passes limits tenant name r c'
  · exact ⟨c, p, h, hearlier⟩
  · obtain ⟨c', hc'⟩ := Classical.not_forall.1 hearlier
    obtain ⟨hlt, hfails⟩ := Classical.not_imp.1 hc'
    obtain ⟨p', h'⟩ := Classical.not_forall_not.1 hfails
    -- This check fails too and comes earlier, so the search for the first one ends.
    exact h'.exists_first
termination_by c.rank

/-- An error of compilation has one of the two codes of that check. -/
theorem code_mem_codes (e : CompileError) : e.code ∈ Check.compilation.codes := by
  cases e with
  | unknownProperty _ _ => exact .tail _ (.head _)
  | _ => exact .head _

/-- The problem with a request names the check. -/
theorem Fails.names {c : Check} {p : Problem} (h : Fails limits tenant name r c p) :
    c.Names p.response := by
  cases h with
  | compilation _ _ _ _ _ => exact ⟨_, code_mem_codes _, _, _, rfl⟩
  | _ => exact ⟨_, List.mem_singleton_self _, _, _, rfl⟩

/-! ### What the checks that pass leave -/

/-- A path that passes is decoded, in both of its parts. -/
theorem decoded_of_passes (hpath : Passes limits tenant name r .path) :
    ∃ t n, Text.Percent.decode? tenant = some t ∧ Text.Percent.decode? name = some n := by
  cases htenant : Text.Percent.decode? tenant with
  | none => exact absurd (.tenantPart htenant) (hpath _)
  | some t =>
    cases hname : Text.Percent.decode? name with
    | none => exact absurd (.namePart htenant hname) (hpath _)
    | some n => exact ⟨t, n, rfl, rfl⟩

/-- A tenant that passes is valid. -/
theorem isValid_of_passes {t : String} (htenant : Text.Percent.decode? tenant = some t)
    (h : Passes limits tenant name r .tenant) : Tenant.isValid t = true := by
  rw [← Bool.not_eq_false]
  exact fun hinvalid => h _ (.tenant htenant hinvalid)

/-- An entity that passes is known. -/
theorem named_of_passes {n : String} (hname : Text.Percent.decode? name = some n)
    (h : Passes limits tenant name r .entity) : ∃ e, Entity.ofName? n = some e := by
  cases hentity : Entity.ofName? n with
  | none => exact absurd (.entity hname hentity) (h _)
  | some e => exact ⟨e, rfl⟩

/-- A body that passes is said to be JSON, is not too large, and holds a search request. Each of the
three is a check of its own, and they are made in this order. -/
theorem content_of_passes (h : Passes limits tenant name r .body) :
    r.hasJson = true ∧ r.body.utf8ByteSize ≤ maxBodyBytes ∧
      ∃ request, r.content? = some request := by
  have hjson : r.hasJson = true := by
    rw [← Bool.not_eq_false]
    exact fun hnot => h _ (.notJson hnot)
  have hsize : r.body.utf8ByteSize ≤ maxBodyBytes :=
    Nat.le_of_not_lt fun hlarge => h _ (.tooLarge hjson hlarge)
  cases hcontent : r.content? with
  | none => exact absurd (.unreadable hjson hsize hcontent) (h _)
  | some request => exact ⟨hjson, hsize, request, rfl⟩

end

end TenantSearch.Http
