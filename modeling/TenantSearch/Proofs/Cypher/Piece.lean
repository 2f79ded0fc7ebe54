import Mathlib.Data.List.Forall2
import TenantSearch.Cypher.Expr

/-!
# `TenantSearch.Proofs.Cypher.Piece`: texts in pieces

The text of an expression is fixed text with references to parameters in it. `Expr.pieces` keeps
the two apart, and `Expr.textOf_pieces` says that the pieces make up the text. So texts can be
compared place by place (`Expr.Rel`). The tokens of a text would not do for that, as they need
names that are names, and here the names may be any text.
-/

set_option autoImplicit false

namespace TenantSearch.Cypher

/-- A piece of a text. -/
inductive Piece where
  | fixed (s : String)
  /-- A reference to a parameter. -/
  | reference (name : String)
deriving DecidableEq, Repr

namespace Piece

/-- The text of a piece. -/
def text : Piece → String
  | fixed s => s
  | reference name => "$" ++ name

/-- The text that pieces make up. -/
def textOf (ps : List Piece) : String := String.join (ps.map text)

/-- No pieces make up no text. -/
@[simp] theorem textOf_nil : textOf [] = "" := String.join_nil

/-- The first piece comes first in the text. -/
@[simp] theorem textOf_cons (p : Piece) (ps : List Piece) :
    textOf (p :: ps) = p.text ++ textOf ps := String.join_cons

/-- Texts are put together as their pieces are. -/
@[simp] theorem textOf_append (ps qs : List Piece) :
    textOf (ps ++ qs) = textOf ps ++ textOf qs := by
  rw [textOf, List.map_append, String.join_append]
  rfl

/-- The same fixed text, or references to parameters that `R` relates. -/
inductive Rel (R : String → String → Prop) : Piece → Piece → Prop where
  | fixed (s : String) : Rel R (.fixed s) (.fixed s)
  | reference {x y : String} (h : R x y) : Rel R (.reference x) (.reference y)

variable {R : String → String → Prop}

/-- Fixed text is related to itself, whatever `R` is. -/
@[simp] theorem rel_fixed (s : String) : Rel R (.fixed s) (.fixed s) := .fixed s

/-- Two references are related when the names are, and in no other way. -/
@[simp] theorem rel_reference_iff {x y : String} :
    Rel R (.reference x) (.reference y) ↔ R x y := by
  constructor
  · intro h
    cases h with
    | reference h => exact h
  · exact .reference

end Piece

/-- The pieces of a term. -/
def Term.pieces : Term → List Piece
  | property node name => [.fixed (node ++ "." ++ name)]
  | parameter name => [.reference name]
  | item name index => [.reference name, .fixed ("[" ++ toString index ++ "]")]
  | emptyText => [.fixed "''"]
  | lower t => .fixed "toLower(" :: t.pieces ++ [.fixed ")"]
  | moment t => .fixed "datetime(" :: t.pieces ++ [.fixed ")"]

/-- The pieces of a group whose parts have these pieces. -/
def groupPieces (junction : Junction) : List (List Piece) → List Piece
  | [] => [.fixed "true"]
  | [part] => part
  | parts => .fixed "(" :: [.fixed (separator junction)].intercalate parts ++ [.fixed ")"]

namespace Expr

mutual

/-- The pieces of a condition. -/
def pieces : Expr → List Piece
  | always => [.fixed "true"]
  | compare left relation right =>
    left.pieces ++ .fixed (" " ++ relation.text ++ " ") :: right.pieces
  | isNull t => t.pieces ++ [.fixed " IS NULL"]
  | isIn t name => t.pieces ++ [.fixed " IN ", .reference name]
  | isInMoments t name =>
    t.pieces ++ [.fixed " IN [v IN ", .reference name, .fixed " | datetime(v)]"]
  | not e => .fixed "NOT (" :: pieces e ++ [.fixed ")"]
  | group junction parts => groupPieces junction (piecesOf parts)

/-- The pieces of several conditions. -/
def piecesOf : List Expr → List (List Piece)
  | [] => []
  | e :: rest => pieces e :: piecesOf rest

end

end Expr

/-! ### The text -/

open Piece (textOf)

/-- The pieces of a term make up its text. -/
theorem Term.textOf_pieces (t : Term) : textOf t.pieces = t.text := by
  induction t with
  | lower t ih | moment t ih => simp [pieces, text, Piece.text, ih, String.append_assoc]
  | _ => simp [pieces, text, Piece.text, String.append_assoc]

/-- A separator between lists of pieces is one between their texts. Texts and pieces are joined by
the same recursion. -/
theorem textOf_intercalate (s : String) (parts : List (List Piece)) :
    textOf ([.fixed s].intercalate parts) = s.intercalate (parts.map textOf) := by
  induction parts with
  | nil => simp
  | cons part rest ih =>
    cases rest with
    | nil => simp
    | cons next more =>
      rw [List.intercalate_cons_cons, List.map_cons, List.map_cons, String.intercalate_cons_cons,
        ← List.map_cons, ← ih]
      simp [Piece.text, String.append_assoc]

/-- The pieces of a group make up its text. A group has its three forms in both, as a group of one
has no brackets. -/
theorem textOf_groupPieces (junction : Junction) (parts : List (List Piece)) :
    textOf (groupPieces junction parts) = groupText junction (parts.map textOf) := by
  match parts with
  | [] => simp [groupPieces, groupText, Piece.text]
  | [part] => rfl
  | part :: next :: rest =>
    simp [groupPieces, groupText, Piece.text, textOf_intercalate, String.append_assoc]

mutual

/-- The pieces of a condition make up its text. Nothing is lost by taking the text apart into fixed
texts and references to parameters. -/
theorem Expr.textOf_pieces : ∀ e : Expr, textOf e.pieces = e.text
  | .always => by simp [pieces, text, Piece.text]
  | .compare left relation right => by
    simp [pieces, text, Piece.text, Term.textOf_pieces, String.append_assoc]
  | .isNull t => by simp [pieces, text, Piece.text, Term.textOf_pieces]
  -- The sign of a parameter belongs to the text before it on the one side and to the reference on
  -- the other, so these two are compared letter by letter.
  | .isIn t name => by
    simp [pieces, text, Piece.text, Term.textOf_pieces, ← String.toList_inj]
  | .isInMoments t name => by
    simp [pieces, text, Piece.text, Term.textOf_pieces, ← String.toList_inj]
  | .not e => by simp [pieces, text, Piece.text, Expr.textOf_pieces e, String.append_assoc]
  | .group junction parts => by
    rw [pieces, text, textOf_groupPieces, Expr.map_textOf_piecesOf parts]

/-- The same of the members of a group. -/
theorem Expr.map_textOf_piecesOf : ∀ es : List Expr, (piecesOf es).map textOf = texts es
  | [] => rfl
  | e :: rest => by
    rw [piecesOf, texts, List.map_cons, Expr.textOf_pieces e, Expr.map_textOf_piecesOf rest]

end

/-! ### The places -/

variable {R : String → String → Prop}

/-- The separator is fixed text, so members that are related stay so behind it. It is the same on
both sides and refers to no parameter. -/
theorem rel_intercalate (s : String) {parts parts' : List (List Piece)}
    (h : List.Forall₂ (List.Forall₂ (Piece.Rel R)) parts parts') :
    List.Forall₂ (Piece.Rel R) ([.fixed s].intercalate parts) ([.fixed s].intercalate parts') := by
  induction h with
  | nil => exact .nil
  | cons hfirst hrest ih =>
    cases hrest with
    | nil => simpa using hfirst
    | cons hnext hmore =>
      rw [List.intercalate_cons_cons, List.intercalate_cons_cons]
      exact List.rel_append (List.rel_append hfirst (.cons (.fixed s) .nil)) ih

/-- Groups are related when they join members that are related, one by one. A group of none and a
group of one are written without brackets, so the three forms are three cases. -/
theorem rel_groupPieces (junction : Junction) {parts parts' : List (List Piece)}
    (h : List.Forall₂ (List.Forall₂ (Piece.Rel R)) parts parts') :
    List.Forall₂ (Piece.Rel R) (groupPieces junction parts) (groupPieces junction parts') := by
  cases h with
  | nil => exact .cons (.fixed _) .nil
  | cons hfirst hrest =>
    cases hrest with
    | nil => exact hfirst
    | cons hnext hmore =>
      -- Only a group of several members has brackets and separators.
      have hall := List.Forall₂.cons hfirst (List.Forall₂.cons hnext hmore)
      exact .cons (.fixed _)
        (List.rel_append (rel_intercalate _ hall) (.cons (.fixed _) .nil))

namespace Expr

/-- The texts of the conditions have the same fixed text, and in the same places they refer to
parameters that `R` relates. -/
def Rel (R : String → String → Prop) (e e' : Expr) : Prop :=
  List.Forall₂ (Piece.Rel R) e.pieces e'.pieces

/-- A negation puts the same fixed text around both. -/
theorem Rel.not {e e' : Expr} (h : Rel R e e') : Rel R (.not e) (.not e') :=
  .cons (.fixed _) (List.rel_append h (.cons (.fixed _) .nil))

/-- So does a group, which has no references of its own. -/
theorem Rel.group (junction : Junction) {es es' : List Expr} (h : List.Forall₂ (Rel R) es es') :
    Rel R (.group junction es) (.group junction es') := by
  have hparts : List.Forall₂ (List.Forall₂ (Piece.Rel R)) (piecesOf es) (piecesOf es') := by
    induction h with
    | nil => exact .nil
    | cons hfirst _ ih => exact .cons hfirst ih
  exact rel_groupPieces junction hparts

end Expr

end TenantSearch.Cypher
