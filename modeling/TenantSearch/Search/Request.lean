import TenantSearch.Filter.Codec
import TenantSearch.Sort.Rule

/-!
# `TenantSearch.Search.Request`: what a client asks for

A request may have a filter, sort rules, a free-text term, a page and a page size. Every part
may be left out. `Request.faults` lists what is wrong with a request that could be read.
-/

set_option autoImplicit false

namespace TenantSearch.Search

/-- A search request. -/
structure Request where
  filter : Option Filter := none
  sort : List Sort.Rule := []
  /-- The term that every text property is searched for. -/
  search : Option String := none
  page : Option Int64 := none
  limit : Option Int64 := none

namespace Request

/-- The members of a request. -/
def fields : List Json.Field :=
  [{ name := "filter", omissible := true }, { name := "sort", omissible := true },
   { name := "search", omissible := true }, { name := "page", omissible := true },
   { name := "limit", omissible := true }]

/-- The request with these slots. -/
def ofSlots? : List (Option Json) → Option Request
  | [filter, sort, search, page, limit] => do
    let filter ← Json.optionalSlot? Filter.ofJson? filter
    let sort ← Json.Record.withDefault? [] Sort.Rule.listOfJson? sort
    let search ← Json.optionalSlot? Json.string? search
    let page ← Json.optionalSlot? Filter.readInt? page
    let limit ← Json.optionalSlot? Filter.readInt? limit
    return { filter, sort, search, page, limit }
  | _ => none

/-- Reads a request. -/
def ofJson? (j : Json) : Option Request := (Json.slots? fields j).bind ofSlots?

/-- Writes a request. Parts that say nothing are left out. -/
def toJson (r : Request) : Json :=
  Json.objectOf
    [("filter", r.filter.map Filter.toJson),
     ("sort", if r.sort.isEmpty then none else some (.array (r.sort.map Sort.Rule.toJson))),
     ("search", r.search.map .string),
     ("page", r.page.map fun n => .integer n.toInt),
     ("limit", r.limit.map fun n => .integer n.toInt)]

/-- How many characters the term may have. -/
def maxTermLength : Nat := 256

/-- What is wrong with the values of the request, in alphabetical order. -/
def faults (r : Request) : List String :=
  (if r.limit.any (· < 0) then ["limit: limit must not be negative"] else [])
    ++ (if r.search.any fun s => maxTermLength < s.length then
          ["search: search term must be at most 256 characters"]
        else [])

end Request

end TenantSearch.Search
