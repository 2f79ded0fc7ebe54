import TenantSearch.Cypher.Identifier

/-!
# `TenantSearch.Proofs.Cypher.Identifier`: quoted names are read back

`scan?` is how the store reads a quoted name: up to the first backtick that is not followed by
another one, where two backticks stand for one. `read?` looks for the first quoted name of a
statement. Neither knows how the name was written.

`scan?_escape` says that the name is read back whatever its characters are. What follows the
closing backtick must not begin with a backtick, or the two would be read as one of the name.
-/

set_option autoImplicit false

namespace TenantSearch.Cypher.Identifier

/-! ### Reading -/

/-- Reads a quoted name behind its opening backtick. The result is the name and what follows
the closing backtick. -/
def scan? : List Char → Option (List Char × List Char)
  | [] => none
  | [c] => if c = '\x60' then some ([], []) else none
  | c :: d :: rest =>
    if c = '\x60' then
      if d = '\x60' then (scan? rest).map fun found => (d :: found.1, found.2)
      else some ([], d :: rest)
    else (scan? (d :: rest)).map fun found => (c :: found.1, found.2)

/-- A text and the first quoted name in it. -/
structure Quoted where
  /-- What stands before the opening backtick. -/
  before : List Char
  name : List Char
  /-- What stands behind the closing backtick. -/
  behind : List Char
deriving DecidableEq, Repr

/-- Reads a text up to its first quoted name. -/
def read? : List Char → Option Quoted
  | [] => none
  | c :: rest =>
    if c = '\x60' then (scan? rest).map fun found => ⟨[], found.1, found.2⟩
    else (read? rest).map fun q => { q with before := c :: q.before }

/-- A character that is no quote is part of the name. -/
theorem scan?_plain {c : Char} (hc : c ≠ '\x60') (rest : List Char) :
    scan? (c :: rest) = (scan? rest).map fun found => (c :: found.1, found.2) := by
  cases rest with
  | nil =>
    show (if c = '\x60' then some ([], []) else none) = _
    rw [if_neg hc]
    rfl
  | cons d rest => rw [scan?, if_neg hc]

/-- Two quotes stand for one in the name. -/
theorem scan?_doubled (rest : List Char) :
    scan? ('\x60' :: '\x60' :: rest) =
      (scan? rest).map fun found => ('\x60' :: found.1, found.2) := by
  rw [scan?, if_pos rfl, if_pos rfl]

/-- A single quote ends the name. -/
theorem scan?_close {rest : List Char} (hrest : rest.head? ≠ some '\x60') :
    scan? ('\x60' :: rest) = some ([], rest) := by
  cases rest with
  | nil => rfl
  | cons d rest =>
    have hd : d ≠ '\x60' := by simpa using hrest
    rw [scan?, if_pos rfl, if_neg hd]

/-- A name is read back, with runs of backticks of any length in it. Every backtick of the name is
doubled, so the first that stands alone ends it. -/
theorem scan?_escape (name : List Char) {rest : List Char} (hrest : rest.head? ≠ some '\x60') :
    scan? (escape name ++ '\x60' :: rest) = some (name, rest) := by
  induction name with
  -- Only the end of the name needs to know what follows.
  | nil => exact scan?_close hrest
  | cons c name ih =>
    unfold escape
    split
    · rename_i hc
      subst hc
      rw [List.cons_append, List.cons_append, scan?_doubled, ih]
      rfl
    · rename_i hc
      rw [List.cons_append, scan?_plain hc, ih]
      rfl

/-- A quoted name is read back, with what follows it. What follows must not begin with a quote,
which would make the closing one part of the name. -/
theorem read?_quote (name : String) {rest : List Char} (hrest : rest.head? ≠ some '\x60') :
    read? ((quote name).toList ++ rest) = some ⟨[], name.toList, rest⟩ := by
  have htext : (quote name).toList ++ rest = '\x60' :: (escape name.toList ++ '\x60' :: rest) := by
    simp [quote]
  rw [htext, read?, if_pos rfl, scan?_escape name.toList hrest]
  rfl

/-- A quoted name is found behind any text without backticks. What stands before it is read as it
is, up to the opening backtick. -/
theorem read?_append {before : List Char} (hbefore : '\x60' ∉ before) (name : String)
    {rest : List Char} (hrest : rest.head? ≠ some '\x60') :
    read? (before ++ ((quote name).toList ++ rest)) = some ⟨before, name.toList, rest⟩ := by
  induction before with
  | nil =>
    rw [List.nil_append]
    exact read?_quote name hrest
  | cons c before ih =>
    rw [List.mem_cons, not_or] at hbefore
    rw [List.cons_append, read?, if_neg (Ne.symm hbefore.1), ih hbefore.2]
    rfl

/-! ### Labels -/

/-- Where the separator is in neither of the first parts, the first separator ends them. So a joined
text tells its first part, and what follows may hold the separator again. -/
theorem append_separator_inj {x : Char} {a a' b b' : List Char} (ha : x ∉ a) (ha' : x ∉ a') :
    a ++ x :: b = a' ++ x :: b' ↔ a = a' ∧ b = b' := by
  constructor
  · intro h
    -- If one part ended before the other, the longer one would hold the separator.
    induction a generalizing a' with
    | nil =>
      cases a' with
      | nil => exact ⟨rfl, (List.cons.inj h).2⟩
      | cons c a' => exact absurd (List.mem_cons.2 (.inl (List.cons.inj h).1)) ha'
    | cons c a ih =>
      cases a' with
      | nil => exact absurd (List.mem_cons.2 (.inl (List.cons.inj h).1.symm)) ha
      | cons c' a' =>
        rw [List.mem_cons, not_or] at ha ha'
        obtain ⟨hhead, htail⟩ := List.cons.inj h
        obtain ⟨hrest, hb⟩ := ih ha.2 ha'.2 htail
        exact ⟨by rw [hhead, hrest], hb⟩
  · rintro ⟨rfl, rfl⟩
    rfl

/-- A label without underscores ends at the first one, so the tenant may have any. -/
theorem tenantLabel_inj {label label' tenant tenant' : String} (hlabel : '_' ∉ label.toList)
    (hlabel' : '_' ∉ label'.toList) :
    tenantLabel label tenant = tenantLabel label' tenant' ↔
      label = label' ∧ tenant = tenant' := by
  have htext (l t : String) : (tenantLabel l t).toList = l.toList ++ '_' :: t.toList := by
    simp [tenantLabel]
  rw [← String.toList_inj, htext, htext, append_separator_inj hlabel hlabel', String.toList_inj,
    String.toList_inj]

end TenantSearch.Cypher.Identifier
