import Mathlib.Data.Rat.Floor
import TenantSearch.Proofs.Page
import TenantSearch.Proofs.Search.Paging

/-!
# `TenantSearch.Proofs.Search.Window`: the rows of a page

A page holds a window of the rows: those behind the skipped ones, as many as its limit says. All
numbers are 64-bit words, and a window is a range of exact integers, so it may reach beyond the
largest word.

* `Page.Divides`: the pages that the rows fill, counted by rounding up, begin before the last
  row, and their windows share out the rows, each row to one page.
* `Query.Windowed`: which window a request is given, whatever words it and the settings hold.
* `windows_exact`: both of them, for every compiled request and every page.
-/

set_option autoImplicit false

namespace TenantSearch

namespace Page

variable {α : Type} {p : Page α}

/-! ### Windows -/

/-- Whether the page holds the row with the index `row`, counted from zero. -/
def Holds (p : Page α) (row : Int) : Prop :=
  p.skip.toInt ≤ row ∧ row < p.skip.toInt + p.limit.toInt

/-- How the pages divide the rows. -/
structure Divides (p : Page α) : Prop where
  pages : 0 < p.total.toInt →
    p.totalPages.toInt = ⌈(p.total.toInt : ℚ) / (p.limit.toInt : ℚ)⌉
  noPages : p.total.toInt ≤ 0 → p.totalPages.toInt = 0
  /-- A page begins before the last row when it is one of the pages. -/
  begins : p.total > p.skip ↔ p.page ≤ p.totalPages
  /-- Each row is held by one of the pages and by no other. -/
  holds : ∀ row, 0 ≤ row → row < p.total.toInt →
    ∃! n : Int64, (1 ≤ n.toInt ∧ n ≤ p.totalPages) ∧ Holds { p with page := n } row

/-- No page begins before the first row. -/
theorem toInt_skip_nonneg (p : Page α) : 0 ≤ p.skip.toInt := by
  have hbefore : 0 ≤ max 0 (p.page.toInt - 1) * max 0 p.limit.toInt :=
    Int.mul_nonneg (by omega) (by omega)
  rw [skip, Word.toInt_saturate]
  simp only [Word.minSigned, Word.maxSigned]
  omega

/-- The number of pages is the number of rows over the limit, rounded up. It is the number of the
page that begins before the last row and ends behind it. -/
theorem toInt_totalPages_eq_ceil (hlimit : 1 ≤ p.limit.toInt) (htotal : 0 < p.total.toInt) :
    p.totalPages.toInt = ⌈(p.total.toInt : ℚ) / (p.limit.toInt : ℚ)⌉ := by
  have hpos : (0 : ℚ) < p.limit.toInt := by exact_mod_cast hlimit
  have hpages := fun n => p.le_totalPages_iff (n := n) (by omega)
  have hfirst : 1 ≤ p.totalPages.toInt := (hpages 1 (by omega)).2 (by omega)
  -- The last page begins before the last row, and the one behind it does not.
  have hlast := (hpages _ hfirst).1 (Int.le_refl _)
  have hbehind : p.total.toInt ≤ p.totalPages.toInt * p.limit.toInt := by
    have hnext := (hpages (p.totalPages.toInt + 1) (by omega)).not.1 (by omega)
    rw [Int.add_sub_cancel] at hnext
    omega
  symm
  rw [Int.ceil_eq_iff, lt_div_iff₀ hpos, div_le_iff₀ hpos]
  exact ⟨by exact_mod_cast hlast, by exact_mod_cast hbehind⟩

/-- What is skipped before one of the pages is not clipped. -/
theorem toInt_skip_of_le (hlimit : 1 ≤ p.limit.toInt) {n : Int64} (hn : 1 ≤ n.toInt)
    (hle : n ≤ p.totalPages) :
    ({ p with page := n } : Page α).skip.toInt = (n.toInt - 1) * p.limit.toInt := by
  have hskip : ({ p with page := n } : Page α).skip.toInt =
      min ((n.toInt - 1) * p.limit.toInt) Word.maxSigned := toInt_skip hn (by simp only; omega)
  have hbegins := (p.le_totalPages_iff (by omega) hn).1 (Int64.le_iff_toInt_le.1 hle)
  have hmax := Word.toInt_le_maxSigned p.total
  omega

/-- The window of a page, as the quotient of the row and the limit. No product of a page and the
limit saturates here, because the page is among the pages counted. -/
theorem holds_iff (hlimit : 1 ≤ p.limit.toInt) {n : Int64} (hn : 1 ≤ n.toInt)
    (hle : n ≤ p.totalPages) (row : Int) :
    Holds { p with page := n } row ↔ n.toInt = row / p.limit.toInt + 1 := by
  have hskip := toInt_skip_of_le hlimit hn hle
  have hlow : n.toInt - 1 ≤ row / p.limit.toInt ↔ (n.toInt - 1) * p.limit.toInt ≤ row :=
    Int.le_ediv_iff_mul_le (by omega)
  have hhigh : row / p.limit.toInt < n.toInt ↔ row < n.toInt * p.limit.toInt :=
    Int.ediv_lt_iff_lt_mul (by omega)
  have hnext : n.toInt * p.limit.toInt = (n.toInt - 1) * p.limit.toInt + p.limit.toInt := by
    rw [Int.sub_mul, Int.one_mul, Int.sub_add_cancel]
  unfold Holds
  rw [hskip]
  show _ ∧ row < (n.toInt - 1) * p.limit.toInt + p.limit.toInt ↔ _
  omega

/-- Every row is on one page, and that page is among the pages counted. It is the quotient of the
row and the limit, counted from one. -/
theorem existsUnique_holds (hlimit : 1 ≤ p.limit.toInt) {row : Int} (hfirst : 0 ≤ row)
    (hlast : row < p.total.toInt) :
    ∃! n : Int64, (1 ≤ n.toInt ∧ n ≤ p.totalPages) ∧ Holds { p with page := n } row := by
  -- The only candidate is a page of the rows, and so it is a word.
  have hquotient : 0 ≤ row / p.limit.toInt := Int.ediv_nonneg hfirst (by omega)
  have hbegins : row / p.limit.toInt * p.limit.toInt ≤ row :=
    Int.ediv_mul_le row (by omega)
  have hpage : row / p.limit.toInt + 1 ≤ p.totalPages.toInt := by
    rw [p.le_totalPages_iff (by omega) (by omega), Int.add_sub_cancel]
    omega
  have hword : (Int64.ofInt (row / p.limit.toInt + 1)).toInt = row / p.limit.toInt + 1 := by
    have hmax := Int64.toInt_lt p.totalPages
    exact Int64.toInt_ofInt_of_le (by omega) (by omega)
  have hone : 1 ≤ (Int64.ofInt (row / p.limit.toInt + 1)).toInt := by omega
  have hle : Int64.ofInt (row / p.limit.toInt + 1) ≤ p.totalPages := by
    rw [Int64.le_iff_toInt_le, hword]
    exact hpage
  -- Being on a page is a matter of the quotient alone, and a page is its number.
  refine ⟨_, ⟨⟨hone, hle⟩, (holds_iff hlimit hone hle row).2 hword⟩, ?_⟩
  rintro n ⟨⟨hn, hnle⟩, hholds⟩
  rw [← Int64.toInt_inj, hword]
  exact (holds_iff hlimit hn hnle row).1 hholds

/-- Pages divide the rows: as many as it takes, each beginning behind the one before, and each row
on one of them. -/
theorem divides (hpage : 1 ≤ p.page.toInt) (hlimit : 1 ≤ p.limit.toInt) : p.Divides where
  pages := toInt_totalPages_eq_ceil hlimit
  noPages := fun htotal => by rw [totalPages_of_total_nonpos htotal, Int64.toInt_zero]
  begins := skip_lt_total_iff hpage hlimit
  holds := fun _ hfirst hlast => existsUnique_holds hlimit hfirst hlast

end Page

namespace Search

/-! ### Requests -/

variable {tenant : String} {entity : Entity} {r : Request} {limits : Limits} {q : Query}

/-- The window that a compiled request is given. -/
structure Query.Windowed (q : Query) (r : Request) (limits : Limits) : Prop where
  page : q.page.toInt = max 1 (r.page.getD 1).toInt
  /-- The limit is what the request asks for, or else the standard, as far as the range of
  limits allows. -/
  limit : q.limit.toInt =
    max 1 (min (r.limit.getD limits.standard).toInt (max limits.largest.toInt 1))
  one_le_page : 1 ≤ q.page.toInt
  one_le_limit : 1 ≤ q.limit.toInt
  limit_le : q.limit.toInt ≤ max limits.largest.toInt 1
  skip : q.skip.toInt = min ((q.page.toInt - 1) * q.limit.toInt) (2 ^ 63 - 1)
  /-- The parameters hold the same numbers. -/
  skipParam : q.params.get? "skip" = some (.integer q.skip.toInt)
  limitParam : q.params.get? "limit" = some (.integer q.limit.toInt)

/-- What is skipped and how much is listed is bound for the statement, as it was computed. -/
theorem params_get?_of_compile? (h : compile? tenant entity r limits = .ok q) :
    q.params.get? "skip" = some (.integer q.skip.toInt) ∧
      q.params.get? "limit" = some (.integer q.limit.toInt) := by
  obtain ⟨condition, order, -, -, -, -, hparams⟩ := ok_of_compile? h
  constructor
  · rw [hparams, Members.get?_put_of_ne _ _ (by decide), Members.get?_put_self]
  · rw [hparams, Members.get?_put_self]

/-- A compiled request asks for its page: the limit within its bounds, and as many rows skipped as
the pages before it hold, up to the largest word. -/
theorem windowed_of_compile? (h : compile? tenant entity r limits = .ok q) :
    q.Windowed r limits := by
  obtain ⟨hpage, hlimit, hskip⟩ := page_of_compile? h
  obtain ⟨hskipParam, hlimitParam⟩ := params_get?_of_compile? h
  have hresolved : q.limit.toInt =
      max 1 (min (r.limit.getD limits.standard).toInt (max limits.largest.toInt 1)) := by
    rw [hlimit]
    exact toInt_resolve limits r.limit
  -- The product is exact unless it is too large for a word.
  have hexact : q.skip.toInt = min ((q.page.toInt - 1) * q.limit.toInt) Word.maxSigned := by
    have honePage := one_le_page h
    have honeLimit := one_le_limit h
    rw [hpage] at honePage
    rw [hlimit] at honeLimit
    rw [hskip, hpage, hlimit]
    exact Page.toInt_skip honePage (by omega)
  -- The bounds are not crossed, so the upper one holds after the lower one is seen to.
  have hle : q.limit.toInt ≤ limits.ceiling :=
    hresolved.trans_le (Int.max_le.2 ⟨limits.one_le_ceiling, Int.min_le_right _ _⟩)
  exact
    { page := by rw [hpage, toInt_requestedPage_page]
      limit := hresolved
      one_le_page := one_le_page h
      one_le_limit := one_le_limit h
      limit_le := hle
      skip := hexact
      skipParam := hskipParam
      limitParam := hlimitParam }

/-- The numbers of a request and of the settings decide neither whether it compiles nor which
error it has. -/
theorem compile?_sameOutcome (tenant : String) (entity : Entity) (r : Request)
    (page limit : Option Int64) (limits limits' : Limits) :
    SameOutcome (fun _ _ => True) (compile? tenant entity r limits)
      (compile? tenant entity { r with page, limit } limits') := by
  have hcondition := SameOutcome.refl (condition? entity r)
  have horder := SameOutcome.refl (order? entity r.sort)
  exact hcondition.bind fun _ _ _ => horder.bind fun _ _ _ => .ok trivial

/-- Every compiled request is given a window by exact numbers, and no numbers make a request
fail. The windows of the pages divide the rows, and no window begins before the first row. -/
theorem windows_exact (tenant : String) (entity : Entity) (r : Request) (limits : Limits) :
    (∀ page limit limits', SameOutcome (fun _ _ => True) (compile? tenant entity r limits)
      (compile? tenant entity { r with page, limit } limits')) ∧
    (∀ q, compile? tenant entity r limits = .ok q → q.Windowed r limits) ∧
    ∀ (α : Type) (p : Page α), 0 ≤ p.skip.toInt ∧
      (1 ≤ p.page.toInt → 1 ≤ p.limit.toInt → p.Divides) := by
  refine ⟨?_, ?_, ?_⟩
  · intro page limit limits'
    exact compile?_sameOutcome tenant entity r page limit limits limits'
  · intro q h
    exact windowed_of_compile? h
  · intro α p
    exact ⟨p.toInt_skip_nonneg, Page.divides⟩

/-- The last page and the largest limit that words can name, and a result with as many rows as
words can count. -/
theorem windows_of_largest :
    let largest : Int64 := 0x7fffffffffffffff
    let r : Request := { page := some largest, limit := some largest }
    let limits : Limits := { largest }
    let p : Page Unit := { page := 0x4000000000000000, limit := 2, total := largest }
    (∃ q, compile? "acme" .contact r limits = .ok q ∧ q.Windowed r limits ∧
      q.skip.toInt = 2 ^ 63 - 1) ∧
    1 ≤ p.page.toInt ∧ 1 ≤ p.limit.toInt ∧ p.page ≤ p.totalPages ∧ p.Divides := by
  intro largest r limits p
  obtain ⟨-, hwindowed, hdivides⟩ := windows_exact "acme" .contact r limits
  obtain ⟨q, hq⟩ : ∃ q, compile? "acme" .contact r limits = .ok q := ⟨_, rfl⟩
  have hpage : 1 ≤ p.page.toInt := by decide
  have hlimit : 1 ≤ p.limit.toInt := by decide
  refine ⟨⟨q, hq, hwindowed q hq, ?_⟩, hpage, hlimit, by decide, (hdivides Unit p).2 hpage hlimit⟩
  have hw := hwindowed q hq
  rw [hw.skip, hw.page, hw.limit]
  decide

end Search

end TenantSearch
