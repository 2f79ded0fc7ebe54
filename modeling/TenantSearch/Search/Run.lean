import TenantSearch.Search.Query
import TenantSearch.Store.Basic

/-!
# `TenantSearch.Search.Run`: searching the store

A search counts the matches first. It asks for the page only if the page begins before the last
match. The calls that were made are part of the result.
-/

set_option autoImplicit false

namespace TenantSearch.Search

/-- Why a search fails. -/
inductive Failure where
  | compile (error : CompileError)
  | store (error : Store.Error)

/-- The number of matches in the answer to the count. An answer that is no number counts
nothing. -/
def countOf (rows : List Store.Row) : Int64 :=
  (((Store.firstCell? rows).bind Json.integer?).bind Word.ofInt?).getD 0

/-- The nodes in the answer to the page: the first cell of each row that has one. -/
def nodesOf (rows : List Store.Row) : List Json := rows.filterMap List.head?

/-- The call that counts. -/
def Query.countCall (q : Query) : Store.Call := ⟨q.countStatement, q.params⟩

/-- The call that asks for the page. -/
def Query.pageCall (q : Query) : Store.Call := ⟨q.pageStatement, q.params⟩

/-- Runs the statements, with the calls that were made. -/
def Query.run (q : Query) (store : Store) :
    Except Store.Error (Page Json) × List Store.Call :=
  match store 0 with
  | .error e => (.error e, [q.countCall])
  | .ok counted =>
    let page : Page Json := { page := q.page, limit := q.limit, total := countOf counted }
    if page.skip < page.total then
      match store 1 with
      | .error e => (.error e, [q.countCall, q.pageCall])
      | .ok rows => (.ok { page with rows := nodesOf rows }, [q.countCall, q.pageCall])
    else (.ok page, [q.countCall])

/-- Runs a search, with the calls that were made. -/
def run (tenant : String) (entity : Entity) (request : Request) (limits : Limits)
    (store : Store) : Except Failure (Page Json) × List Store.Call :=
  match compile? tenant entity request limits with
  | .error e => (.error (.compile e), [])
  | .ok q =>
    let (result, calls) := q.run store
    (result.mapError .store, calls)

end TenantSearch.Search
