import TenantSearch.Filter.Value

/-!
# `TenantSearch.Filter`: the filter of a request

A filter is a tree. In a request every node has four members, of which one has to be set: a
negated filter, two kinds of groups, and the comparison of one property. `Filter` is such a
node with any of its members set. `Filter.tree?` checks the nodes and gives a `Tree`, where
every node is of one kind.

A node is checked before its children, and children in order, so the first fault in that order
is the one that is reported. A group counts its children before they are checked.
-/

set_option autoImplicit false

namespace TenantSearch

namespace Filter

/-- The comparison of one property. -/
structure Item where
  property : String
  operator : Operator := .equals
  value : WrittenValue := .empty
  /-- Whether case matters. -/
  caseSensitive : Option Bool := none
  /-- Whether a node without the property matches too. -/
  includeEmpty : Option Bool := none
deriving Inhabited

end Filter

/-- A node of a filter as a request writes it. -/
inductive Filter where
  | mk (negated : Option Filter) (conjunction disjunction : Option (List Filter))
      (item : Option Filter.Item)

namespace Filter

/-- A node without a member. -/
def empty : Filter := ⟨none, none, none, none⟩

instance : Inhabited Filter := ⟨empty⟩

/-- A node that compares one property. -/
def compare (item : Item) : Filter := ⟨none, none, none, some item⟩

/-- A node that negates a filter. -/
def negate (f : Filter) : Filter := ⟨some f, none, none, none⟩

/-- A node that joins filters. -/
def join : Junction → List Filter → Filter
  | .conjunction, fs => ⟨none, some fs, none, none⟩
  | .disjunction, fs => ⟨none, none, some fs, none⟩

/-- A filter in which every node is of one kind. -/
inductive Tree where
  | leaf (item : Item)
  | not (t : Tree)
  | group (junction : Junction) (parts : List Tree)

/-- The form of a filter: its nodes and operators without properties and values. -/
inductive Shape where
  | leaf (operator : Operator)
  | not (s : Shape)
  | group (junction : Junction) (parts : List Shape)

mutual

/-- Checks that every node sets one member and that every group is large enough. -/
def tree? : Filter → Except CompileError Tree
  | ⟨some f, none, none, none⟩ => (tree? f).map .not
  | ⟨none, some fs, none, none⟩ =>
    if fs.length < minGroupSize then .error (.smallGroup .conjunction)
    else (trees? fs).map (.group .conjunction)
  | ⟨none, none, some fs, none⟩ =>
    if fs.length < minGroupSize then .error (.smallGroup .disjunction)
    else (trees? fs).map (.group .disjunction)
  | ⟨none, none, none, some item⟩ => .ok (.leaf item)
  | _ => .error .ambiguousNode
termination_by structural f => f

/-- Checks the children of a group in order. -/
def trees? : List Filter → Except CompileError (List Tree)
  | [] => .ok []
  | f :: rest => do
    let t ← tree? f
    let ts ← trees? rest
    return t :: ts
termination_by structural fs => fs

end

namespace Tree

mutual

/-- The form of the tree. -/
def shape : Tree → Shape
  | .leaf item => .leaf item.operator
  | .not t => .not (shape t)
  | .group junction parts => .group junction (shapes parts)

/-- The forms of the parts of a group. -/
def shapes : List Tree → List Shape
  | [] => []
  | t :: rest => shape t :: shapes rest

end

mutual

/-- The comparisons of the tree from left to right. -/
def items : Tree → List Item
  | .leaf item => [item]
  | .not t => items t
  | .group _ parts => itemsOf parts

/-- The comparisons of the parts of a group. -/
def itemsOf : List Tree → List Item
  | [] => []
  | t :: rest => items t ++ itemsOf rest

end

end Tree

end Filter

end TenantSearch
