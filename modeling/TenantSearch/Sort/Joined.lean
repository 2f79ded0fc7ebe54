import TenantSearch.Sort.Order
import TenantSearch.Text.Split

/-!
# `TenantSearch.Sort.Joined`: sort rules over several entities

When a statement joins several entities, a rule names a property by a stem and a logical name,
joined by an underscore. The stem selects one of the sources. If the stems of several sources
fit, the longest one wins, and of equally long ones the last. The rest of the name is looked up
in that source alone.

A source may give a property an expression for missing values. These defaults belong to the
node of the source: all sources of one node share them, and the last default given for a
property counts.
-/

set_option autoImplicit false

namespace TenantSearch.Sort

/-- What stands in for the missing values of a property, by direction. -/
structure NullDefault where
  /-- The logical name of the property. -/
  property : String
  ascending : String
  descending : String
deriving DecidableEq

/-- What stands in, in one direction. -/
def NullDefault.toward (d : NullDefault) : Direction → String
  | .ascending => d.ascending
  | .descending => d.descending

/-- An entity that takes part in an order. -/
structure Source where
  /-- What the names of its properties begin with in rules. -/
  stem : String
  /-- The node in the statement. -/
  node : String
  entity : Entity
  defaults : List NullDefault := []
deriving DecidableEq

/-- What follows the stem and the underscore in a name that begins with them. -/
def Source.rest? (s : Source) (name : String) : Option String :=
  Text.after? (s.stem ++ "_") name

/-- The later of two sources, unless the stem of the earlier one is longer. -/
def Source.longer (earlier later : Source × String) : Source × String :=
  if earlier.1.stem.length ≤ later.1.stem.length then later else earlier

/-- The source that a name selects, and the rest of the name. -/
def select? (sources : List Source) (name : String) : Option (Source × String) :=
  let fitting := sources.filterMap fun s => (s.rest? name).map (s, ·)
  match fitting with
  | [] => none
  | first :: rest => some (rest.foldl Source.longer first)

/-- The default for a property of a node. -/
def default? (sources : List Source) (node logical : String) : Option NullDefault :=
  let all := sources.flatMap fun s => s.defaults.map (s.node, ·)
  (all.reverse.find? fun d => d.1 = node && d.2.property = logical).map Prod.snd

/-- The key of a rule over several sources. -/
def Rule.joinedKey (r : Rule) (sources : List Source) : Except CompileError Key :=
  match select? sources r.property with
  | none => .error (.unknownProperty "sort" r.property)
  | some (source, logical) => do
    let key ← r.key source.entity logical
    return { key with
      node := some source.node
      nullDefault := (default? sources source.node logical).map (·.toward r.direction) }

/-- The order of the rules over several sources. -/
def Order.compileJoined? (sources : List Source) (rules : List Rule) :
    Except CompileError Order := do
  let keys ← rules.mapM fun r => r.joinedKey sources
  return { keys }

end TenantSearch.Sort
