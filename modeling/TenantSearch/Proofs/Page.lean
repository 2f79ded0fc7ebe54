import TenantSearch.Page

/-!
# `TenantSearch.Proofs.Page`: which pages there are

`Page.skip` and `Page.totalPages` are computed from different formulas, and the first of them is
clipped. Both are read as exact integers here. `le_totalPages_iff` says what the number of pages
means: page `n` is one of them when it begins before the last row. `skip_lt_total_iff` says that
the clipped number of skipped rows tells the same.
-/

set_option autoImplicit false

namespace TenantSearch.Page

variable {α : Type} {p : Page α}

/-- Full pages, and one more for the rows that are left. The result fits the word, since there are
no more pages than rows. -/
theorem toInt_totalPages (hlimit : 0 < p.limit.toInt) (htotal : 0 < p.total.toInt) :
    p.totalPages.toInt =
      p.total.toInt / p.limit.toInt + if p.total.toInt % p.limit.toInt = 0 then 0 else 1 := by
  have hsome : ¬ (p.limit ≤ 0 ∨ p.total ≤ 0) := by
    simp only [Int64.le_iff_toInt_le, Int64.toInt_zero]
    omega
  -- With rows left, a page has more than one row, so there are fewer full pages than rows.
  have hfull : p.total.toInt / p.limit.toInt ≤ p.total.toInt :=
    Int.ediv_le_self _ (by omega)
  have hleft : p.total.toInt % p.limit.toInt ≠ 0 →
      p.total.toInt / p.limit.toInt < p.total.toInt := by
    intro hmod
    refine Int.ediv_lt_self_of_pos_of_ne_one htotal ?_
    intro hone
    rw [hone] at hmod
    exact hmod (Int.emod_one _)
  have hnonneg : 0 ≤ p.total.toInt / p.limit.toInt := Int.ediv_nonneg (by omega) (by omega)
  have hmax := Int64.toInt_lt p.total
  rw [totalPages, if_neg hsome]
  split
  · rw [Int64.toInt_ofInt_of_le (by omega) (by omega), Int.add_zero]
  · rename_i hmod
    have := hleft hmod
    rw [Int64.toInt_ofInt_of_le (by omega) (by omega)]

/-- There are no pages where nothing was counted. -/
theorem totalPages_of_total_nonpos (htotal : p.total.toInt ≤ 0) : p.totalPages = 0 := by
  rw [totalPages, if_pos]
  right
  rwa [Int64.le_iff_toInt_le, Int64.toInt_zero]

/-- The pages are those that begin before the last row. So the count needs no division to be
understood, and rounding up is right. -/
theorem le_totalPages_iff (hlimit : 0 < p.limit.toInt) {n : Int} (hn : 1 ≤ n) :
    n ≤ p.totalPages.toInt ↔ (n - 1) * p.limit.toInt < p.total.toInt := by
  have hbefore : 0 ≤ (n - 1) * p.limit.toInt := Int.mul_nonneg (by omega) (by omega)
  rcases Int.lt_or_le 0 p.total.toInt with htotal | htotal
  · rw [toInt_totalPages hlimit htotal]
    by_cases hmod : p.total.toInt % p.limit.toInt = 0
    · have hexact : p.total.toInt / p.limit.toInt * p.limit.toInt = p.total.toInt :=
        Int.ediv_mul_cancel_of_emod_eq_zero hmod
      rw [if_pos hmod, Int.add_zero, ← hexact, Int.mul_lt_mul_right hlimit, hexact]
      omega
    · -- The last page is not full, so no page begins exactly behind the last row.
      have hne : (n - 1) * p.limit.toInt ≠ p.total.toInt := by
        intro heq
        rw [← heq] at hmod
        exact hmod (Int.mul_emod_left _ _)
      have hle : n - 1 ≤ p.total.toInt / p.limit.toInt ↔
          (n - 1) * p.limit.toInt ≤ p.total.toInt := Int.le_ediv_iff_mul_le hlimit
      rw [if_neg hmod]
      omega
  · rw [totalPages_of_total_nonpos htotal, Int64.toInt_zero]
    omega

/-- What is skipped before a page is exact, up to the largest word. -/
theorem toInt_skip (hpage : 1 ≤ p.page.toInt) (hlimit : 0 ≤ p.limit.toInt) :
    p.skip.toInt = min ((p.page.toInt - 1) * p.limit.toInt) Word.maxSigned := by
  have hbefore : 0 ≤ (p.page.toInt - 1) * p.limit.toInt := Int.mul_nonneg (by omega) hlimit
  rw [skip, Int.max_eq_right (by omega), Int.max_eq_right hlimit, Word.toInt_saturate]
  simp only [Word.minSigned, Word.maxSigned]
  omega

/-- A page begins before the last row exactly when it is one of the pages that the rows fill. -/
theorem skip_lt_total_iff (hpage : 1 ≤ p.page.toInt) (hlimit : 1 ≤ p.limit.toInt) :
    p.skip < p.total ↔ p.page ≤ p.totalPages := by
  have hmax := Word.toInt_le_maxSigned p.total
  rw [Int64.lt_iff_toInt_lt, Int64.le_iff_toInt_le, toInt_skip hpage (by omega),
    le_totalPages_iff (by omega) hpage]
  omega

end TenantSearch.Page
