import TenantSearch.Proofs.Search.Step

/-!
# `TenantSearch.Proofs.Search.Paging`: the page of a compiled request

The numbers of a request come from a client and the limits from the settings. Both may be any
words. Whatever they are, the page of the query counts from one, and its size is at least one.
-/

set_option autoImplicit false

namespace TenantSearch.Search

variable {tenant : String} {entity : Entity} {r : Request} {limits : Limits} {q : Query}

/-- A compiled query carries the page that the request asks for. -/
theorem page_of_compile? (h : compile? tenant entity r limits = .ok q) :
    q.page = (requestedPage r limits).page ∧ q.limit = (requestedPage r limits).limit ∧
      q.skip = (requestedPage r limits).skip := by
  obtain ⟨condition, -, h⟩ := ok_of_bind h
  obtain ⟨order, -, h⟩ := ok_of_bind h
  cases h
  exact ⟨rfl, rfl, rfl⟩

/-- A page below one is taken for the first. -/
theorem toInt_requestedPage_page (r : Request) (limits : Limits) :
    (requestedPage r limits).page.toInt = max 1 (r.page.getD 1).toInt := by
  have hmax := Int64.toInt_lt (r.page.getD 1)
  exact Int64.toInt_ofInt_of_le (by omega) (by omega)

/-- The size is brought between one and the largest size. -/
theorem toInt_resolve (limits : Limits) (requested : Option Int64) :
    (limits.resolve requested).toInt =
      max 1 (min (requested.getD limits.standard).toInt (max limits.largest.toInt 1)) := by
  have hmax := Int64.toInt_lt (requested.getD limits.standard)
  exact Int64.toInt_ofInt_of_le (by omega) (by omega)

/-- The pages of compiled requests count from one. -/
theorem one_le_page (h : compile? tenant entity r limits = .ok q) : 1 ≤ q.page.toInt := by
  rw [(page_of_compile? h).1, toInt_requestedPage_page]
  omega

/-- A compiled request lists at least one row, whatever limits are set. -/
theorem one_le_limit (h : compile? tenant entity r limits = .ok q) : 1 ≤ q.limit.toInt := by
  rw [(page_of_compile? h).2.1]
  show 1 ≤ (limits.resolve r.limit).toInt
  rw [toInt_resolve]
  omega

end TenantSearch.Search
