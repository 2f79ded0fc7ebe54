import TenantSearch.CompileError

/-!
# `TenantSearch.Cypher.Expr`: conditions in statements

The condition of a statement compares properties of nodes with parameters. It is built as an
expression first and written last, so what is compared with what can be read off the
expression.

A group of two or more parts is written in parentheses, and so is what `NOT` applies to. This
holds everywhere, so the text does not rely on the precedence of the connectives.
-/

set_option autoImplicit false

namespace TenantSearch.Cypher

/-- What a comparison is about. -/
inductive Term where
  /-- A property of a node. -/
  | property (node name : String)
  /-- The value of a parameter. -/
  | parameter (name : String)
  /-- An item of a list parameter. -/
  | item (name : String) (index : Nat)
  /-- The empty text. -/
  | emptyText
  /-- The text in lower case. -/
  | lower (t : Term)
  /-- The moment that a text names. -/
  | moment (t : Term)
deriving DecidableEq, Repr

/-- A comparison of two terms. -/
inductive Relation where
  | equal
  | contains
  | startsWith
  | atMost
  | atLeast
deriving DecidableEq, Repr

/-- A condition. -/
inductive Expr where
  /-- The condition that always holds. -/
  | always
  | compare (left : Term) (relation : Relation) (right : Term)
  | isNull (t : Term)
  /-- The term is one of the items of a list parameter. -/
  | isIn (t : Term) (name : String)
  /-- The term is one of the moments that the items of a list parameter name. -/
  | isInMoments (t : Term) (name : String)
  | not (e : Expr)
  | group (junction : Junction) (parts : List Expr)

/-- The text of a term. -/
def Term.text : Term → String
  | property node name => node ++ "." ++ name
  | parameter name => "$" ++ name
  | item name index => "$" ++ name ++ "[" ++ toString index ++ "]"
  | emptyText => "''"
  | lower t => "toLower(" ++ t.text ++ ")"
  | moment t => "datetime(" ++ t.text ++ ")"

/-- The text of a relation. -/
def Relation.text : Relation → String
  | equal => "="
  | contains => "CONTAINS"
  | startsWith => "STARTS WITH"
  | atMost => "<="
  | atLeast => ">="

/-- What stands between the parts of a group. -/
def separator : Junction → String
  | .conjunction => " AND "
  | .disjunction => " OR "

/-- The text of a group with parts of these texts. A group without parts always holds, and a
single part stands for itself. -/
def groupText (junction : Junction) : List String → String
  | [] => "true"
  | [part] => part
  | parts => "(" ++ (separator junction).intercalate parts ++ ")"

namespace Expr

mutual

/-- The text of a condition. -/
def text : Expr → String
  | always => "true"
  | compare left relation right => left.text ++ " " ++ relation.text ++ " " ++ right.text
  | isNull t => t.text ++ " IS NULL"
  | isIn t name => t.text ++ " IN $" ++ name
  | isInMoments t name => t.text ++ " IN [v IN $" ++ name ++ " | datetime(v)]"
  | not e => "NOT (" ++ text e ++ ")"
  | group junction parts => groupText junction (texts parts)

/-- The texts of several conditions. -/
def texts : List Expr → List String
  | [] => []
  | e :: rest => text e :: texts rest

end

end Expr

end TenantSearch.Cypher
