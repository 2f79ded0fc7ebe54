import TenantSearch.Json.Basic
import TenantSearch.Store.Error

/-!
# `TenantSearch.Store`: calls to the graph store

A call is a statement with its parameters, and the answer is a list of rows or an error. A store
is seen through its answers: the answer to the first call, to the second, and so on. What a
program does with a store is then a function of the answers.
-/

set_option autoImplicit false

namespace TenantSearch

namespace Store

/-- One row, in the order of the columns. -/
abbrev Row := List Json

/-- A statement with its parameters. -/
structure Call where
  statement : String
  params : Members Json

/-- What a call brings. -/
abbrev Answer := Except Error (List Row)

/-- The first cell of the first row. -/
def firstCell? (rows : List Row) : Option Json :=
  rows.head?.bind List.head?

end Store

/-- A graph store: the answer to each call, counted from zero. -/
def Store := Nat → Store.Answer

/-- The store that gives the listed answers and then no rows. -/
def Store.ofAnswers (answers : List Store.Answer) : Store :=
  fun n => answers.getD n (.ok [])

end TenantSearch
