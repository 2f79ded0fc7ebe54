import TenantSearch.Word.Saturating

/-!
# `TenantSearch.Search.Limits`: how large a page may be
-/

set_option autoImplicit false

namespace TenantSearch.Search

/-- The bounds of the size of a page. -/
structure Limits where
  /-- The size when the request names none. -/
  standard : Int64 := 20
  /-- The largest size. -/
  largest : Int64 := 100
deriving DecidableEq

/-- The upper bound of a size: the largest size, or one where the settings name a smaller one. -/
def Limits.ceiling (l : Limits) : Int := max l.largest.toInt 1

/-- The two bounds of a size are never crossed, whatever the settings say. To bring a number between
crossed bounds is a fault, so it is by this that `resolve` has a size for every request. -/
theorem Limits.one_le_ceiling (l : Limits) : 1 ≤ l.ceiling :=
  Int.le_max_right _ _

/-- The size of the pages of a request: what it asks for, brought between one and the largest
size. -/
def Limits.resolve (l : Limits) (requested : Option Int64) : Int64 :=
  let wanted := (requested.getD l.standard).toInt
  Int64.ofInt (max 1 (min wanted l.ceiling))

end TenantSearch.Search
