import TenantSearch.Proofs.Http.Check
import TenantSearch.Proofs.Search.Run

/-!
# `TenantSearch.Proofs.Http.Respond`: what the checks decide

The server looks at a request to an entity step by step, and `Fails` states each check without
the others. `serve_of_first` brings the two together: the first check that fails decides the
response of the route. `serve_of_passes` is the other half: what is left when the checks before
the compilation pass.

`respond_decided` is the whole of it, with when the store is called.
-/

set_option autoImplicit false

namespace TenantSearch.Http

/-- What the checks decide about a request to an entity. -/
structure Decided (settings : Settings) (store : Store) (r : Request) (tenant name : String)
    (action : Action) : Prop where
  /-- The first check that fails decides the response. -/
  first : ∀ c p, First settings.limits tenant name r c p →
    (respond settings store r).1 = withOrigin settings r p.response ∧ c.Names p.response
  /-- The store is called only if no check fails. -/
  uncalled : ∀ c p, Fails settings.limits tenant name r c p → (respond settings store r).2 = []
  /-- To show the statements, the store is never called, and the response is the same for every
  store. -/
  compile : action = .compile →
    (respond settings store r).2 = [] ∧
      ∀ store', respond settings store' r = respond settings store r
  /-- To run them, it is. -/
  search : action = .search → (∀ c, Passes settings.limits tenant name r c) →
    (respond settings store r).2 ≠ []

section

variable {limits : Search.Limits} {tenant name : String} {r : Request}

/-! ### The input of a route -/

/-- A request has a fault when one of its values is out of its bounds. The server lists these
faults, and the check only asks whether there are any. -/
theorem faults_ne_nil_iff (request : Search.Request) :
    request.faults ≠ [] ↔
      (∃ n, request.limit = some n ∧ n < 0) ∨ ∃ s, request.search = some s ∧ 256 < s.length := by
  have hlimit : (request.limit.any (· < 0)) = true ↔ ∃ n, request.limit = some n ∧ n < 0 := by
    simp only [Option.any_eq_true, decide_eq_true_iff]
  have hsearch : (request.search.any fun s => Search.Request.maxTermLength < s.length) = true ↔
      ∃ s, request.search = some s ∧ 256 < s.length := by
    simp only [Option.any_eq_true, decide_eq_true_iff]
    rfl
  -- Each of the two faults is listed or not on its own.
  rw [← hlimit, ← hsearch]
  unfold Search.Request.faults
  split <;> split <;> simp_all

/-- Once both parts of the path are decoded, the tenant is looked at before the entity. The path
fails with the problem of the first that is not valid. -/
theorem pathOf_of_decoded {t n : String} (htenant : Text.Percent.decode? tenant = some t)
    (hname : Text.Percent.decode? name = some n) :
    pathOf tenant name =
      if Tenant.isValid t then
        match Entity.ofName? n with
        | some e => .ok (t, e)
        | none => .error (.unknownEntity n)
      else .error .invalidTenant := by
  unfold pathOf decodePart
  rw [htenant, hname]
  rfl

/-- Once the path is read, all that can fail is the body. -/
theorem entityInput_of_path {t : String} {e : Entity} (h : pathOf tenant name = .ok (t, e)) :
    entityInput tenant name r = (bodyOf r).map fun request => (t, e, request) := by
  unfold entityInput
  rw [h]
  show (bodyOf r >>= fun request => .ok (t, e, request)) = _
  cases bodyOf r <;> rfl

/-- The path that is left when its checks pass. Three checks are about the path: its coding, the
tenant and the entity. -/
theorem pathOf_of_passes
    (h : ∀ c, c.rank < Check.body.rank → Passes limits tenant name r c) :
    ∃ t n e, Text.Percent.decode? tenant = some t ∧ Text.Percent.decode? name = some n ∧
      Entity.ofName? n = some e ∧ pathOf tenant name = .ok (t, e) := by
  obtain ⟨t, n, ht, hn⟩ := decoded_of_passes (h .path (by decide))
  obtain ⟨e, he⟩ := named_of_passes hn (h .entity (by decide))
  refine ⟨t, n, e, ht, hn, he, ?_⟩
  rw [pathOf_of_decoded ht hn, if_pos (isValid_of_passes ht (h .tenant (by decide))), he]

/-- The checks of the body, one after the other. Its kind comes first, then its size, and then what
is in it. -/
theorem bodyOf_eq (r : Request) :
    bodyOf r =
      if !r.hasJson then .error .notJson
      else if maxBodyBytes < r.body.utf8ByteSize then .error .bodyTooLarge
      else
        match r.content? with
        | none => .error .unreadableBody
        | some request =>
          match request.faults with
          | [] => .ok request
          | faults => .error (.invalid faults) := rfl

/-- A body that could be read has nothing left to fail but its values. -/
theorem bodyOf_of_content {request : Search.Request} (hjson : r.hasJson = true)
    (hsize : r.body.utf8ByteSize ≤ maxBodyBytes) (hcontent : r.content? = some request) :
    bodyOf r =
      match request.faults with
      | [] => .ok request
      | faults => .error (.invalid faults) := by
  rw [bodyOf_eq, hjson, if_neg (by decide), if_neg (Nat.not_lt.2 hsize), hcontent]

/-- Values out of their bounds turn it down, with all of its faults. -/
theorem bodyOf_of_faults {request : Search.Request} (hjson : r.hasJson = true)
    (hsize : r.body.utf8ByteSize ≤ maxBodyBytes) (hcontent : r.content? = some request)
    (hfaults : request.faults ≠ []) : bodyOf r = .error (.invalid request.faults) := by
  rw [bodyOf_of_content hjson hsize hcontent]
  split
  · rename_i hnone
    exact absurd hnone hfaults
  · rfl

/-- A body whose checks pass is the request that is in it. -/
theorem bodyOf_of_passes {request : Search.Request} (hcontent : r.content? = some request)
    (hbody : Passes limits tenant name r .body) (hvalues : Passes limits tenant name r .values) :
    bodyOf r = .ok request := by
  obtain ⟨hjson, hsize, -⟩ := content_of_passes hbody
  have hnone : request.faults = [] := by
    by_contra hfaults
    exact hvalues _ (.values hcontent ((faults_ne_nil_iff request).1 hfaults))
  rw [bodyOf_of_content hjson hsize hcontent, hnone]

/-! ### The response -/

variable {settings : Settings} {store : Store} {action : Action}

/-- A route to an entity reads its input first and then does its work. -/
theorem serve_entity (settings : Settings) (store : Store) (tenant name : String)
    (action : Action) (r : Request) :
    (Route.entity tenant name action).serve settings store r =
      match entityInput tenant name r with
      | .ok (t, e, request) => act settings.limits store action t e request
      | .error rejection => (rejection.problem.response, []) := rfl

/-- A path that fails decides the response of the route, whatever the body is. -/
theorem serve_of_path_error {rejection : Rejection} (h : pathOf tenant name = .error rejection) :
    (Route.entity tenant name action).serve settings store r =
      (rejection.problem.response, []) := by
  have hinput : entityInput tenant name r = .error rejection := by
    unfold entityInput
    rw [h]
    rfl
  rw [serve_entity, hinput]

/-- A body that fails decides the response when the path passes its checks. Both routes read the
body in the same way, so this holds of either. -/
theorem serve_of_body_error {rejection : Rejection}
    (hpath : ∀ c, c.rank < Check.body.rank → Passes limits tenant name r c)
    (h : bodyOf r = .error rejection) :
    (Route.entity tenant name action).serve settings store r =
      (rejection.problem.response, []) := by
  obtain ⟨t, n, e, -, -, -, hpath⟩ := pathOf_of_passes hpath
  have hinput : entityInput tenant name r = .error rejection := by
    rw [entityInput_of_path hpath, h]
    rfl
  rw [serve_entity, hinput]

/-- A request that passes all checks before the compilation comes to the work of its route. Both
routes have the same checks up to there. -/
theorem serve_of_passes (h : ∀ c, c.rank < Check.compilation.rank → Passes limits tenant name r c) :
    ∃ t n e request, Text.Percent.decode? tenant = some t ∧ Text.Percent.decode? name = some n ∧
      Entity.ofName? n = some e ∧ r.content? = some request ∧
      (Route.entity tenant name action).serve settings store r =
        act settings.limits store action t e request := by
  obtain ⟨t, n, e, ht, hn, he, hpath⟩ :=
    pathOf_of_passes fun c hc => h c (Nat.lt_trans hc (by decide))
  obtain ⟨-, -, request, hcontent⟩ := content_of_passes (h .body (by decide))
  have hbody := bodyOf_of_passes hcontent (h .body (by decide)) (h .values (by decide))
  have hinput : entityInput tenant name r = .ok (t, e, request) := by
    rw [entityInput_of_path hpath, hbody]
    rfl
  refine ⟨t, n, e, request, ht, hn, he, hcontent, ?_⟩
  rw [serve_entity, hinput]

/-- The calls of a search are those of running its statements. The response takes nothing from the
store itself. -/
theorem act_search_calls (t : String) (e : Entity) (request : Search.Request) :
    (act limits store .search t e request).2 = (Search.run t e request limits store).2 := by
  unfold act
  rcases Search.run t e request limits store with ⟨_ | _, calls⟩ <;> rfl

/-- To show the statements, the store is not needed. -/
theorem act_compile (store store' : Store) (t : String) (e : Entity) (request : Search.Request) :
    (act limits store .compile t e request).2 = [] ∧
      act limits store' .compile t e request = act limits store .compile t e request := by
  unfold act
  cases Search.compile? t e request limits <;> exact ⟨rfl, rfl⟩

/-- A request that does not compile is turned away by both routes, with the same problem. The store
is not called for it. -/
theorem act_of_compile_error {t : String} {e : Entity} {request : Search.Request}
    {error : CompileError} (h : Search.compile? t e request limits = .error error) :
    act limits store action t e request = ((Problem.ofCompile error).response, []) := by
  cases action with
  | compile =>
    unfold act
    rw [h]
  | search =>
    unfold act
    rw [Search.run_of_error h]
    rfl

/-- The first check that fails decides the response of the route, and the store is not called. That
it is the first is what lets the server get to it. -/
theorem serve_of_first {c : Check} {p : Problem} (h : First settings.limits tenant name r c p) :
    (Route.entity tenant name action).serve settings store r = (p.response, []) := by
  obtain ⟨hfails, hearlier⟩ := h
  -- One case for each way to fail. The checks before it pass, so the server gets to this one.
  cases hfails with
  | tenantPart htenant =>
    apply serve_of_path_error
    simp only [pathOf, decodePart, htenant]
    rfl
  | namePart htenant hname =>
    apply serve_of_path_error
    simp only [pathOf, decodePart, htenant, hname]
    rfl
  | @tenant t ht hinvalid =>
    obtain ⟨t', n, ht', hn⟩ := decoded_of_passes (hearlier .path (by decide))
    obtain rfl : t' = t := Option.some.inj (ht'.symm.trans ht)
    apply serve_of_path_error
    rw [pathOf_of_decoded ht hn, hinvalid]
    rfl
  | @entity n hn hunknown =>
    obtain ⟨t, n', ht, hn'⟩ := decoded_of_passes (hearlier .path (by decide))
    obtain rfl : n' = n := Option.some.inj (hn'.symm.trans hn)
    have hvalid := isValid_of_passes ht (hearlier .tenant (by decide))
    apply serve_of_path_error
    rw [pathOf_of_decoded ht hn, if_pos hvalid, hunknown]
  | notJson hjson =>
    apply serve_of_body_error hearlier
    rw [bodyOf_eq, hjson]
    rfl
  | tooLarge hjson hsize =>
    apply serve_of_body_error hearlier
    rw [bodyOf_eq, hjson, if_neg (by decide), if_pos hsize]
  | unreadable hjson hsize hcontent =>
    apply serve_of_body_error hearlier
    rw [bodyOf_eq, hjson, if_neg (by decide), if_neg (Nat.not_lt.2 hsize), hcontent]
  | @values request hcontent hbounds =>
    obtain ⟨hjson, hsize, -⟩ := content_of_passes (hearlier .body (by decide))
    -- The values are looked at only in a body that could be read.
    apply serve_of_body_error fun c hc => hearlier c (Nat.lt_trans hc (by decide))
    exact bodyOf_of_faults hjson hsize hcontent ((faults_ne_nil_iff request).2 hbounds)
  | @compilation t n e request error ht hn he hcontent herror =>
    obtain ⟨t', n', e', request', ht', hn', he', hcontent', hserve⟩ := serve_of_passes hearlier
    obtain rfl : t' = t := Option.some.inj (ht'.symm.trans ht)
    obtain rfl : n' = n := Option.some.inj (hn'.symm.trans hn)
    obtain rfl : e' = e := Option.some.inj (he'.symm.trans he)
    obtain rfl : request' = request := Option.some.inj (hcontent'.symm.trans hcontent)
    rw [hserve, act_of_compile_error herror]

/-- A request to a route for its method is answered by the route. What comes before it is the choice
of the route, and what comes after it are the headers. -/
theorem respond_entity (settings : Settings) (store : Store) {r : Request}
    (hmethod : r.method = "POST")
    (hroute : Route.ofParts? (Text.split '/' r.path) = some (.entity tenant name action)) :
    respond settings store r =
      (withOrigin settings r ((Route.entity tenant name action).serve settings store r).1,
        ((Route.entity tenant name action).serve settings store r).2) := by
  have hdispatch : dispatch settings store r =
      (Route.entity tenant name action).serve settings store r := by
    unfold dispatch
    rw [hroute, hmethod]
    rfl
  unfold respond
  rw [hdispatch, hmethod]
  rfl

/-- The route that shows the statements never calls the store, and takes nothing from it. So its
response depends on the request and the settings alone. -/
theorem serve_compile (settings : Settings) (store store' : Store) (tenant name : String)
    (r : Request) :
    ((Route.entity tenant name .compile).serve settings store r).2 = [] ∧
      (Route.entity tenant name .compile).serve settings store' r =
        (Route.entity tenant name .compile).serve settings store r := by
  rw [serve_entity, serve_entity]
  cases entityInput tenant name r with
  | error e => exact ⟨rfl, rfl⟩
  | ok input => exact act_compile store store' _ _ _

/-- The route that runs them calls the store at least once, because counting comes first. The route
that only compiles makes no calls. -/
theorem serve_search_calls (h : ∀ c, Passes settings.limits tenant name r c) :
    ((Route.entity tenant name .search).serve settings store r).2 ≠ [] := by
  obtain ⟨t, n, e, request, ht, hn, he, hcontent, hserve⟩ := serve_of_passes fun c _ => h c
  rw [hserve, act_search_calls]
  cases hcompile : Search.compile? t e request settings.limits with
  | error error =>
    -- The compilation is a check as well.
    exact absurd (.compilation ht hn he hcontent hcompile) (h _ _)
  | ok q =>
    rw [Search.run_of_ok hcompile]
    -- The count alone, or the count and the page.
    rcases q.calls_run store with hcalls | hcalls <;> simp [hcalls]

/-- The first check that a request fails decides the response, and the store is called only to run
the statements of a request that passes all checks. Every request to an entity is covered, as it
fails some check first or passes all of them. -/
theorem respond_decided (settings : Settings) (store : Store) {r : Request}
    {tenant name : String} {action : Action} (hmethod : r.method = "POST")
    (hroute : Route.ofParts? (Text.split '/' r.path) = some (.entity tenant name action)) :
    Decided settings store r tenant name action := by
  have hrespond (store : Store) := respond_entity settings store hmethod hroute
  refine { first := ?first, uncalled := ?uncalled, compile := ?compile, search := ?search }
  case first =>
    intro c p hfirst
    rw [hrespond, serve_of_first hfirst]
    exact ⟨rfl, hfirst.fails.names⟩
  case uncalled =>
    intro c p hfails
    -- Some check fails first, and it turns the request away.
    obtain ⟨c', p', hfirst⟩ := hfails.exists_first
    rw [hrespond, serve_of_first hfirst]
  case compile =>
    rintro rfl
    refine ⟨?_, fun store' => ?_⟩
    · rw [hrespond]
      exact (serve_compile settings store store tenant name r).1
    · rw [hrespond, hrespond, (serve_compile settings store store' tenant name r).2]
  case search =>
    rintro rfl hpasses
    rw [hrespond]
    exact serve_search_calls hpasses

/-- A request with an unknown entity, an invalid tenant and no content. -/
def faultyRequest : Request :=
  { method := "POST", target := "/api/v1/tenants/a.b/ticket/compile" }

/-- The tenant decides, because it is looked at before the entity and the body. The request has
three faults, and the first of them shows. -/
theorem first_faulty :
    First {} "a.b" "ticket" faultyRequest .tenant Rejection.invalidTenant.problem := by
  have htenant : Text.Percent.decode? "a.b" = some "a.b" := by decide +kernel
  have hname : Text.Percent.decode? "ticket" = some "ticket" := by decide +kernel
  refine { fails := .tenant htenant (by decide), earlier := ?_ }
  intro c hc p hfails
  cases hfails with
  | tenantPart h => simp [htenant] at h
  | namePart _ h => simp [hname] at h
  | _ => exact absurd hc (by decide)

/-- Three checks fail here, and the response is that of the tenant. -/
theorem decided_of_faulty :
    faultyRequest.method = "POST" ∧
      Route.ofParts? (Text.split '/' faultyRequest.path) = some (.entity "a.b" "ticket" .compile) ∧
      First {} "a.b" "ticket" faultyRequest .tenant Rejection.invalidTenant.problem ∧
      (respond {} (Store.ofAnswers []) faultyRequest).1 =
        Rejection.invalidTenant.problem.response := by
  have hdecided : Decided {} (Store.ofAnswers []) faultyRequest "a.b" "ticket" .compile :=
    respond_decided {} _ rfl (by decide)
  exact ⟨rfl, by decide, first_faulty, (hdecided.first _ _ first_faulty).1⟩

end

end TenantSearch.Http
