import TenantSearch.Proofs.Http.Respond
import TenantSearch.Proofs.Store.Error

/-!
# `TenantSearch.Proofs.Http.Failure`: what a client learns of a failure

A search calls the store once or twice, and either call may fail in many ways, with texts that
come from the store. `FailsWith` says that one of the calls that were made fails.

The client learns one thing of it: whether to try again (`respond_of_failsWith`). So two stores
that fail cannot be told apart by more than that, wherever and however they fail
(`respond_indistinct`).
-/

set_option autoImplicit false

namespace TenantSearch.Http

section

variable (settings : Settings) (store store' : Store) (r : Request) (e e' : Store.Error)

/-- One of the calls that the server makes for the request fails with this error. -/
def FailsWith : Prop := ∃ n < (respond settings store r).2.length, store n = .error e

/-- What the responses tell of two failures of the store. -/
structure Indistinct : Prop where
  /-- Failures that agree in whether they may pass have the same response, -/
  same : (e.Transient ↔ e'.Transient) →
    (respond settings store r).1 = (respond settings store' r).1
  /-- and any others differ in the status. -/
  apart : ¬ (e.Transient ↔ e'.Transient) →
    (respond settings store r).1.status ≠ (respond settings store' r).1.status
  status : (e.Transient → (respond settings store r).1.status = 503) ∧
    (¬ e.Transient → (respond settings store r).1.status = 500)
  status' : (e'.Transient → (respond settings store' r).1.status = 503) ∧
    (¬ e'.Transient → (respond settings store' r).1.status = 500)

end

section

variable {settings : Settings} {store store' : Store} {tenant name : String} {r : Request}
  {e e' : Store.Error}

/-! ### One failure -/

/-- The problem that a failure is for the client. -/
theorem ofStore_of_transient (h : e.Transient) : Problem.ofStore e = .unavailable :=
  if_pos ((Store.Error.isTransient_iff e).2 h)

/-- A failure that is not transient is an internal error. -/
theorem ofStore_of_not_transient (h : ¬ e.Transient) : Problem.ofStore e = .internal :=
  if_neg fun htransient => h ((Store.Error.isTransient_iff e).1 htransient)

/-- Failures that agree in whether they may pass are one problem. -/
theorem ofStore_congr (h : e.Transient ↔ e'.Transient) :
    Problem.ofStore e = Problem.ofStore e' := by
  by_cases htransient : e.Transient
  · rw [ofStore_of_transient htransient, ofStore_of_transient (h.1 htransient)]
  · rw [ofStore_of_not_transient htransient, ofStore_of_not_transient (h.not.1 htransient)]

/-- The headers about origins leave the status as it is. -/
theorem status_withOrigin (settings : Settings) (r : Request) (response : Response) :
    (withOrigin settings r response).status = response.status := by
  unfold withOrigin
  split
  · split <;> rfl
  · rfl

/-- A search whose call fails comes to the problem of its error. -/
theorem act_of_failed {limits : Search.Limits} {t : String} {kind : Entity}
    {request : Search.Request} {q : Search.Query} {n : Nat}
    (hcompile : Search.compile? t kind request limits = .ok q)
    (hn : n < (act limits store .search t kind request).2.length) (h : store n = .error e) :
    (act limits store .search t kind request).1 = (Problem.ofStore e).response := by
  rw [act_search_calls, Search.run_of_ok hcompile] at hn
  unfold act
  simp only [Search.run_of_ok hcompile, Search.Query.run_of_failed hn h]
  rfl

variable (hmethod : r.method = "POST")
  (hroute : Route.ofParts? (Text.split '/' r.path) = some (.entity tenant name .search))
  (hpasses : ∀ c, Passes settings.limits tenant name r c)

include hmethod hroute hpasses

/-- The response to a search whose call fails. Nothing of the error shows in it but whether it is
transient. -/
theorem respond_of_failsWith (h : FailsWith settings store r e) :
    (respond settings store r).1 = withOrigin settings r (Problem.ofStore e).response := by
  obtain ⟨t, n, kind, request, ht, hn, hkind, hcontent, hserve⟩ :=
    @serve_of_passes _ tenant name r settings store .search fun c _ => hpasses c
  obtain ⟨k, hk, hfails⟩ := h
  rw [respond_entity settings store hmethod hroute, hserve] at hk ⊢
  cases hcompile : Search.compile? t kind request settings.limits with
  | error error =>
    -- The compilation is a check as well, so a request that passes has a query.
    exact absurd (.compilation ht hn hkind hcontent hcompile) (hpasses _ _)
  | ok q => rw [act_of_failed hcompile hk hfails]

/-- A failing call shows in the status: 503 for a transient failure, and 500 for any other. The
headers that are added for browsers do not change it. -/
theorem status_of_failsWith (h : FailsWith settings store r e) :
    (e.Transient → (respond settings store r).1.status = 503) ∧
      (¬ e.Transient → (respond settings store r).1.status = 500) := by
  rw [respond_of_failsWith hmethod hroute hpasses h, status_withOrigin]
  -- The origin is settled: what is left is the problem for the failure.
  constructor
  · intro htransient
    rw [ofStore_of_transient htransient]
    rfl
  · intro hnot
    rw [ofStore_of_not_transient hnot]
    rfl

/-! ### Two failures -/

/-- Whatever the store says when it fails, the client learns only whether to try again. Two errors
of one kind give the same response, down to the headers and the body. -/
theorem respond_indistinct (h : FailsWith settings store r e)
    (h' : FailsWith settings store' r e') : Indistinct settings store store' r e e' := by
  have hstatus := status_of_failsWith hmethod hroute hpasses h
  have hstatus' := status_of_failsWith hmethod hroute hpasses h'
  refine { same := ?same, apart := ?apart, status := hstatus, status' := hstatus' }
  case same =>
    intro hsame
    rw [respond_of_failsWith hmethod hroute hpasses h,
      respond_of_failsWith hmethod hroute hpasses h', ofStore_congr hsame]
  case apart =>
    intro hapart
    by_cases htransient : e.Transient
    · have hnot : ¬ e'.Transient := fun h' => hapart (iff_of_true htransient h')
      rw [hstatus.1 htransient, hstatus'.2 hnot]
      decide
    · have htransient' : e'.Transient := by
        by_contra hnot
        exact hapart (iff_of_false htransient hnot)
      rw [hstatus.2 htransient, hstatus'.1 htransient']
      decide

end

/-! ### Two stores that fail -/

/-- A search for all contacts. -/
def plainSearch : Request :=
  { method := "POST", target := "/api/v1/tenants/acme/contact/search"
    headers := [("content-type", "application/json")], body := "\x7b\x7d" }

/-- A store that does not count. -/
def silentStore : Store := Store.ofAnswers [.error (.graph "Neo.ClientError.Security" "who?")]

/-- A store that counts one match and then refuses to show it. -/
def refusingStore : Store :=
  Store.ofAnswers [.ok [[.integer 1]], .error (.status 401 "not for acme")]

/-- The example is routed to the search for contacts. -/
theorem route_plainSearch :
    Route.ofParts? (Text.split '/' plainSearch.path) = some (.entity "acme" "contact" .search) := by
  decide

/-- It has an empty request, which is read from an empty object. -/
theorem content_plainSearch : plainSearch.content? = some {} := rfl

/-- Its path has no escapes, and the entity is known. -/
theorem decoded_plainSearch :
    Text.Percent.decode? "acme" = some "acme" ∧ Text.Percent.decode? "contact" = some "contact" ∧
      Entity.ofName? "contact" = some .contact := by
  decide +kernel

/-- It passes every check, so that the store is called. There is one case for each way to fail. -/
theorem passes_plainSearch (c : Check) : Passes {} "acme" "contact" plainSearch c := by
  obtain ⟨htenant, hname, hentity⟩ := decoded_plainSearch
  have hjson : plainSearch.hasJson = true := by decide +kernel
  intro p hfails
  cases hfails with
  | tenantPart h => cases htenant.symm.trans h
  | namePart _ h => cases hname.symm.trans h
  | tenant ht h =>
    cases htenant.symm.trans ht
    exact absurd h (by decide)
  | entity hn h =>
    cases hname.symm.trans hn
    cases hentity.symm.trans h
  | notJson h => cases hjson.symm.trans h
  | tooLarge _ h => exact absurd h (by decide)
  | unreadable _ _ h => cases content_plainSearch.symm.trans h
  | values hcontent h =>
    cases content_plainSearch.symm.trans hcontent
    rcases h with ⟨n, hn, -⟩ | ⟨s, hs, -⟩
    · cases hn
    · cases hs
  | compilation ht hn he hcontent h =>
    cases htenant.symm.trans ht
    cases hname.symm.trans hn
    cases hentity.symm.trans he
    cases content_plainSearch.symm.trans hcontent
    cases h

/-- The search calls the store as the statements of its query say. First it
counts, and then it may ask for the page. -/
theorem calls_plainSearch (store : Store) :
    ∃ q, Search.compile? "acme" .contact {} {} = .ok q ∧
      (respond {} store plainSearch).2 = (q.run store).2 := by
  obtain ⟨htenant, hname, hentity⟩ := decoded_plainSearch
  obtain ⟨t, n, e, request, ht, hn, he, hcontent, hserve⟩ :=
    @serve_of_passes {} "acme" "contact" plainSearch {} store .search fun c _ =>
      passes_plainSearch c
  cases htenant.symm.trans ht
  cases hname.symm.trans hn
  cases hentity.symm.trans he
  cases content_plainSearch.symm.trans hcontent
  have hcompile : ∃ q, Search.compile? "acme" .contact {} {} = .ok q := ⟨_, rfl⟩
  obtain ⟨q, hq⟩ := hcompile
  refine ⟨q, hq, ?_⟩
  rw [respond_entity {} store rfl route_plainSearch, hserve, act_search_calls]
  exact congrArg Prod.snd (Search.run_of_ok hq)

/-- A store that fails at once fails at the count, which is the first call. -/
theorem failsWith_silentStore :
    FailsWith {} silentStore plainSearch (.graph "Neo.ClientError.Security" "who?") := by
  obtain ⟨q, -, hcalls⟩ := calls_plainSearch silentStore
  refine ⟨0, ?_, rfl⟩
  rw [hcalls, Search.Query.run_of_uncounted rfl]
  exact Nat.one_pos

/-- A store that counts and then fails fails at the page, which is the second call: there is
something to list. -/
theorem failsWith_refusingStore :
    FailsWith {} refusingStore plainSearch (.status 401 "not for acme") := by
  obtain ⟨q, hq, hcalls⟩ := calls_plainSearch refusingStore
  obtain ⟨hpage, hlimit, -⟩ := Search.page_of_compile? hq
  -- With one contact counted, the first page is not behind the last.
  have hskip : (q.pageOf (Search.countOf [[.integer 1]]) []).skip <
      Search.countOf [[.integer 1]] := by
    unfold Search.Query.pageOf
    rw [hpage, hlimit]
    decide
  refine ⟨1, ?_, rfl⟩
  rw [hcalls, Search.Query.run_of_counted rfl, if_pos hskip]
  exact Nat.one_lt_two

/-- A client cannot tell the store that does not count from the one that does not show. Both fail
for good, one at the first call and the other at the second, and with different errors. -/
theorem indistinct_of_refused :
    plainSearch.method = "POST" ∧
      Route.ofParts? (Text.split '/' plainSearch.path)
        = some (.entity "acme" "contact" .search) ∧
      (∀ c, Passes {} "acme" "contact" plainSearch c) ∧
      FailsWith {} silentStore plainSearch (.graph "Neo.ClientError.Security" "who?") ∧
      FailsWith {} refusingStore plainSearch (.status 401 "not for acme") ∧
      (respond {} silentStore plainSearch).1 = (respond {} refusingStore plainSearch).1 := by
  have hindistinct : Indistinct {} silentStore refusingStore plainSearch
      (.graph "Neo.ClientError.Security" "who?") (.status 401 "not for acme") :=
    respond_indistinct rfl route_plainSearch passes_plainSearch failsWith_silentStore
      failsWith_refusingStore
  have hsame : Store.Error.Transient (.graph "Neo.ClientError.Security" "who?") ↔
      Store.Error.Transient (.status 401 "not for acme") := by
    rw [← Store.Error.isTransient_iff, ← Store.Error.isTransient_iff]
    decide
  exact ⟨rfl, route_plainSearch, passes_plainSearch, failsWith_silentStore,
    failsWith_refusingStore, hindistinct.same hsame⟩

end TenantSearch.Http
