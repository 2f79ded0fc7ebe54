import TenantSearch.Json.Basic
import TenantSearch.Word.Saturating

/-!
# `TenantSearch.Page`: pages of results

Pages count from one, and a page below one is taken for the first. All numbers are 64-bit words.
What is skipped before a page is clipped to the largest word when the product is larger.
-/

set_option autoImplicit false

namespace TenantSearch

/-- One page of the rows of a query. -/
structure Page (α : Type) where
  page : Int64
  /-- How many rows a page has. -/
  limit : Int64
  /-- How many rows there are on all pages. -/
  total : Int64 := 0
  rows : List α := []

namespace Page

variable {α : Type}

/-- How many rows come before the page. -/
def skip (p : Page α) : Int64 :=
  Word.saturate (max 0 (p.page.toInt - 1) * max 0 p.limit.toInt)

/-- How many pages the rows fill. -/
def totalPages (p : Page α) : Int64 :=
  if p.limit ≤ 0 ∨ p.total ≤ 0 then 0
  else
    let full := p.total.toInt / p.limit.toInt
    Int64.ofInt (if p.total.toInt % p.limit.toInt = 0 then full else full + 1)

/-- The page as an answer: its rows, and where it stands among all pages. -/
def toJson (p : Page Json) : Json :=
  .object
    [("data", .array p.rows),
     ("meta", .object
       [("page", .integer p.page.toInt), ("limit", .integer p.limit.toInt),
        ("total_items", .integer p.total.toInt),
        ("total_pages", .integer p.totalPages.toInt)])]

end Page

end TenantSearch
