import Mathlib.Data.List.Forall2
import TenantSearch.Proofs.Cypher.Grammar

/-!
# `TenantSearch.Proofs.Cypher.Written`: expressions and their texts

The text of an expression is read back as the expression. `Expr.tokens` are the tokens of the
text and `Expr.reading` is its reading, where a group without parts always holds and a group of
one part is that part.

* `Expr.spelled`: the text has these tokens, if the names in the expression are names.
* `Expr.reads`: the grammar reads them as the expression.
* `Expr.isReading_text_iff`: so the text has exactly one reading.
-/

set_option autoImplicit false

namespace TenantSearch.Cypher

namespace Term

/-- The tokens of a term. -/
def tokens : Term → List Token
  | property node name => [.name node, .symbol '.', .name name]
  | parameter name => [.parameter name]
  | item name index => [.parameter name, .symbol '[', .name (toString index), .symbol ']']
  | emptyText => [.emptyText]
  | lower t => .name "toLower" :: .symbol '(' :: t.tokens ++ [.symbol ')']
  | moment t => .name "datetime" :: .symbol '(' :: t.tokens ++ [.symbol ')']

/-- Whether the names in the term are read as names. -/
def Named : Term → Prop
  | property node name => IsName node ∧ IsName name
  | parameter name | item name _ => IsWordText name
  | emptyText => True
  | lower t | moment t => t.Named

/-- The tokens of a term denote the term. -/
theorem denotes (t : Term) : Denotes t.tokens t := by
  induction t with
  | property node name => exact .property node name
  | parameter name => exact .parameter name
  | item name index => exact .item name index
  | emptyText => exact .emptyText
  | lower t ih => exact .lower ih
  | moment t ih => exact .moment ih

end Term

/-- The tokens of a group whose parts have these tokens. -/
def groupTokens (junction : Junction) : List (List Token) → List Token
  | [] => [.keyword "TRUE"]
  | [part] => part
  | parts => .symbol '(' :: [connective junction].intercalate parts ++ [.symbol ')']

/-- The reading of a group whose parts have these readings. -/
def groupReading (junction : Junction) : List Reading → Reading
  | [] => .always
  | [part] => part
  | parts => .group junction parts

namespace Expr

mutual

/-- The tokens of a condition. -/
def tokens : Expr → List Token
  | always => [.keyword "TRUE"]
  | compare left relation right => left.tokens ++ relation.tokens ++ right.tokens
  | isNull t => t.tokens ++ [.keyword "IS", .keyword "NULL"]
  | isIn t name => t.tokens ++ [.keyword "IN", .parameter name]
  | isInMoments t name =>
    t.tokens ++ [.keyword "IN", .symbol '[', .name "v", .keyword "IN", .parameter name,
      .symbol '|', .name "datetime", .symbol '(', .name "v", .symbol ')', .symbol ']']
  | not e => .keyword "NOT" :: .symbol '(' :: tokens e ++ [.symbol ')']
  | group junction parts => groupTokens junction (tokensOf parts)

/-- The tokens of several conditions. -/
def tokensOf : List Expr → List (List Token)
  | [] => []
  | e :: rest => tokens e :: tokensOf rest

end

mutual

/-- The reading of a condition. -/
def reading : Expr → Reading
  | always => .always
  | compare left relation right => .atom ⟨left, .relation relation right⟩
  | isNull t => .atom ⟨t, .isNull⟩
  | isIn t name => .atom ⟨t, .isIn name⟩
  | isInMoments t name => .atom ⟨t, .isInMoments name⟩
  | not e => .not (reading e)
  | group junction parts => groupReading junction (readings parts)

/-- The readings of several conditions. -/
def readings : List Expr → List Reading
  | [] => []
  | e :: rest => reading e :: readings rest

end

mutual

/-- Whether the names in the condition are read as names. -/
def Named : Expr → Prop
  | always => True
  | compare left _ right => left.Named ∧ right.Named
  | isNull t => t.Named
  | isIn t name | isInMoments t name => t.Named ∧ IsWordText name
  | not e => Named e
  | group _ parts => AllNamed parts

/-- Whether the names in several conditions are. -/
def AllNamed : List Expr → Prop
  | [] => True
  | e :: rest => Named e ∧ AllNamed rest

end

end Expr

/-! ### Texts -/

/-- A blank is read as nothing, and ends by itself. -/
theorem delimited_blank : Delimited " " [] := fun _ => rfl

/-- The condition that always holds is written as a constant. -/
theorem spelled_true : Spelled "true" [.keyword "TRUE"] :=
  spelled_of_run [] (.word "true".toList) fun _ => rfl

/-- A relation is spelled by its tokens. Three of them are words, so they need a blank behind them.
-/
theorem Relation.spelled (relation : Relation) : Spelled relation.text relation.tokens := by
  cases relation with
  | equal => exact Delimited.spelled fun _ => rfl
  | contains => exact spelled_of_run [] (.word "CONTAINS".toList) fun _ => rfl
  | startsWith => exact spelled_of_run [.keyword "STARTS"] (.word "WITH".toList) fun _ => rfl
  | atMost => exact Delimited.spelled fun _ => rfl
  | atLeast => exact Delimited.spelled fun _ => rfl

/-- A text in parentheses behind the name of a function. -/
theorem Spelled.delimited_call {text opening : String} {ts before : List Token}
    (h : Spelled text ts) (hopening : Delimited opening before) :
    Delimited (opening ++ text ++ ")") (before ++ ts ++ [.symbol ')']) :=
  (hopening.append_spelled h).append_delimited (fun _ => rfl) (by decide)

/-- A term is spelled by its tokens, when its names are names. A property may end in a word, and so
may a parameter. -/
theorem Term.spelled {t : Term} (h : t.Named) : Spelled t.text t.tokens := by
  induction t with
  | property node name =>
    have hdot : Delimited "." [.symbol '.'] := fun _ => rfl
    exact (h.1.spelled.append_delimited hdot (by decide)).append_spelled h.2.spelled
  | parameter name => exact IsWordText.spelled_parameter h "$" [] fun _ => rfl
  | item name index =>
    have hopening : Delimited "[" [.symbol '['] := fun _ => rfl
    have hclosing : Delimited "]" [.symbol ']'] := fun _ => rfl
    have hname : Spelled ("$" ++ name) [.parameter name] :=
      IsWordText.spelled_parameter h "$" [] fun _ => rfl
    have hlist := hname.append_delimited hopening (by decide)
    have hindex := hlist.append_spelled (isName_toString index).spelled
    exact (hindex.append_delimited hclosing (by decide)).spelled
  | emptyText => exact Delimited.spelled fun _ => rfl
  | lower t ih =>
    have hopening : Delimited "toLower(" [.name "toLower", .symbol '('] := fun _ => rfl
    exact ((ih h).delimited_call hopening).spelled
  | moment t ih =>
    have hopening : Delimited "datetime(" [.name "datetime", .symbol '('] := fun _ => rfl
    exact ((ih h).delimited_call hopening).spelled

/-- Texts between separators are read as tokens between separators. The separator keeps the words on
its two sides apart, so each text is scanned by itself. -/
theorem spelled_intercalate {separator : String} {between : List Token}
    (hseparator : Delimited separator between) (hseparated : Separated separator)
    {texts : List String} {tss : List (List Token)} (h : List.Forall₂ Spelled texts tss)
    (ne : texts ≠ []) :
    Spelled (separator.intercalate texts) (between.intercalate tss) := by
  induction h with
  | nil => exact absurd rfl ne
  | @cons text ts texts tss hfirst hrest ih =>
    cases hrest with
    | nil => simpa using hfirst
    | @cons next us nexts uss hnext hmore =>
      rw [String.intercalate_cons_cons, List.intercalate_cons_cons]
      -- The separator ends the word before it, and no word runs over its end.
      exact (hfirst.append_delimited hseparator hseparated).append_spelled (ih (by simp))

/-- A connective between blanks ends by itself. -/
theorem delimited_separator (junction : Junction) :
    Delimited (separator junction) [connective junction] := by
  cases junction <;> exact fun _ => rfl

/-- It begins with a blank, so it ends the word before it. -/
theorem separated_separator (junction : Junction) : Separated (separator junction) := by
  cases junction <;> decide

/-- The text of a group is spelled by its tokens, in each of its three forms. Without members it is
the constant, with one it is that member, and with more it has brackets. -/
theorem spelled_groupText (junction : Junction) {texts : List String} {tss : List (List Token)}
    (h : List.Forall₂ Spelled texts tss) :
    Spelled (groupText junction texts) (groupTokens junction tss) := by
  cases h with
  | nil => exact spelled_true
  | @cons text ts texts tss hfirst hrest =>
    cases hrest with
    | nil => exact hfirst
    | @cons next us nexts uss hnext hmore =>
      have hall := List.Forall₂.cons hfirst (List.Forall₂.cons hnext hmore)
      have hopening : Delimited "(" [.symbol '('] := fun _ => rfl
      have hparts := spelled_intercalate (delimited_separator junction)
        (separated_separator junction) hall (by simp)
      exact (hparts.delimited_call hopening).spelled

mutual

/-- The text of a condition has its tokens. Each case puts the parts together with a rule of
composition, and none looks at single characters. -/
theorem Expr.spelled : ∀ {e : Expr}, e.Named → Spelled e.text e.tokens
  | .always, _ => spelled_true
  | .compare left relation right, h => by
    have hleft := (Term.spelled h.1).append_delimited delimited_blank (by decide)
    have hmiddle :=
      (hleft.append_spelled relation.spelled).append_delimited delimited_blank (by decide)
    simpa [Expr.text, Expr.tokens] using hmiddle.append_spelled (Term.spelled h.2)
  | .isNull t, h => by
    have htest : Spelled " IS NULL" [.keyword "IS", .keyword "NULL"] :=
      spelled_of_run [.keyword "IS"] (.word "NULL".toList) fun _ => rfl
    exact (Term.spelled h).append htest (by decide)
  | .isIn t name, h => by
    have htest : Spelled (" IN $" ++ name) [.keyword "IN", .parameter name] :=
      h.2.spelled_parameter " IN $" [.keyword "IN"] fun _ => rfl
    have htext := (Term.spelled h.1).append htest (separated_append (by decide) _)
    rwa [← String.append_assoc] at htext
  | .isInMoments t name, h => by
    have hlist : Spelled (" IN [v IN $" ++ name)
        [.keyword "IN", .symbol '[', .name "v", .keyword "IN", .parameter name] :=
      h.2.spelled_parameter " IN [v IN $"
        [.keyword "IN", .symbol '[', .name "v", .keyword "IN"] fun _ => rfl
    have hmoments : Delimited " | datetime(v)]"
        [.symbol '|', .name "datetime", .symbol '(', .name "v", .symbol ')', .symbol ']'] :=
      fun _ => rfl
    have htext := (Term.spelled h.1).append hlist (separated_append (by decide) _)
    have hwhole := (htext.append_delimited hmoments (by decide)).spelled
    rw [← String.append_assoc] at hwhole
    simpa [Expr.text, Expr.tokens] using hwhole
  | .not e, h => by
    have hopening : Delimited "NOT (" [.keyword "NOT", .symbol '('] := fun _ => rfl
    have hinner : Spelled e.text e.tokens := Expr.spelled h
    exact (hinner.delimited_call hopening).spelled
  | .group junction parts, h => spelled_groupText junction (Expr.spelled_parts h)

/-- The same of the members of a group. -/
theorem Expr.spelled_parts : ∀ {es : List Expr}, Expr.AllNamed es →
    List.Forall₂ Spelled (Expr.texts es) (Expr.tokensOf es)
  | [], _ => .nil
  | _ :: _, h => .cons (Expr.spelled h.1) (Expr.spelled_parts h.2)

end

/-- A condition is never the empty text, not even a group without parts. So a condition is never
taken for a missing one where the clause is written. -/
theorem Expr.text_ne_empty : ∀ e : Expr, e.text ≠ ""
  | .always => by simp [text]
  | .compare left relation right => by simp [text]
  | .isNull t => by simp [text]
  | .isIn t name => by simp [text]
  | .isInMoments t name => by simp [text]
  | .not e => by simp [text]
  | .group j [] => by simp [text, texts, groupText]
  | .group j [part] => by simpa [text, texts, groupText] using text_ne_empty part
  | .group j (part :: next :: rest) => by simp [text, texts, groupText]

/-! ### Readings -/

/-- One part is a chain. -/
theorem Reads.single {j : Junction} {ts : List Token} {r : Reading}
    (h : Reads (.ofParts j) ts r) : Reads (.chain j) ts r := by
  have hchain := Reads.chain j [(ts, r)] (by simp) (by simpa using h)
  simpa [Reading.chained] using hchain

/-- What may stand behind `NOT` may stand everywhere. -/
theorem Reads.loosen {ts : List Token} {r : Reading} (h : Reads .negation ts r) :
    Reads (.chain .disjunction) ts r :=
  Reads.single (j := .disjunction) (Reads.single (j := .conjunction) h)

/-- Readings side by side, in the form that a chain takes. The grammar pairs each part with its
reading, where the induction gives two lists. -/
theorem exists_parts {tss : List (List Token)} {rs : List Reading}
    (h : List.Forall₂ (Reads .negation) tss rs) :
    ∃ parts : List (List Token × Reading), parts.map Prod.fst = tss ∧ parts.map Prod.snd = rs ∧
      ∀ p ∈ parts, Reads .negation p.1 p.2 := by
  induction h with
  | nil => exact ⟨[], rfl, rfl, by simp⟩
  | @cons ts r tss rs hfirst _ ih =>
    obtain ⟨parts, rfl, rfl, hall⟩ := ih
    refine ⟨(ts, r) :: parts, rfl, rfl, ?_⟩
    intro p hp
    rcases List.mem_cons.1 hp with rfl | hp
    · exact hfirst
    · exact hall p hp

/-- A chain in parentheses. Inside the brackets stands a disjunction of conjunctions, whichever
connective was meant. -/
theorem reads_chain (junction : Junction) {tss : List (List Token)} {rs : List Reading}
    (h : List.Forall₂ (Reads .negation) tss rs) (ne : tss ≠ []) :
    Reads .negation (.symbol '(' :: [connective junction].intercalate tss ++ [.symbol ')'])
      (.chained junction rs) := by
  obtain ⟨parts, rfl, rfl, hall⟩ := exists_parts h
  have hne : parts ≠ [] := by rintro rfl; exact ne rfl
  have hloose : Reads (.chain .disjunction)
      ([connective junction].intercalate (parts.map Prod.fst))
      (.chained junction (parts.map Prod.snd)) := by
    -- A conjunction is a single part of a disjunction. In a disjunction each part is a conjunction
    -- of one.
    cases junction with
    | conjunction =>
      exact Reads.single (j := .disjunction) (.chain .conjunction parts hne hall)
    | disjunction =>
      exact .chain .disjunction parts hne fun p hp =>
        Reads.single (j := .conjunction) (hall p hp)
  exact .plain (.parentheses hloose)

/-- The grammar reads the tokens of a group as the group. A group of several needs its brackets for
this, since it may stand behind `NOT` or inside another group. -/
theorem reads_group (junction : Junction) {tss : List (List Token)} {rs : List Reading}
    (h : List.Forall₂ (Reads .negation) tss rs) :
    Reads .negation (groupTokens junction tss) (groupReading junction rs) := by
  cases h with
  | nil => exact .plain .always
  | @cons ts r tss rs hfirst hrest =>
    cases hrest with
    | nil => exact hfirst
    | @cons us q uss qs hnext hmore =>
      exact reads_chain junction (.cons hfirst (.cons hnext hmore)) (by simp)

mutual

/-- The grammar reads the tokens of a condition as the condition, in a place behind `NOT`. This is
the narrowest place, so it may stand in all others as well. -/
theorem Expr.reads : ∀ e : Expr, Reads .negation e.tokens e.reading
  | .always => .plain .always
  | .compare left relation right => by
    have htest := Tests.relation relation right.denotes
    have hwhole := Compares.intro left.denotes htest
    rw [← List.append_assoc] at hwhole
    exact .plain (.comparison hwhole)
  | .isNull t => .plain (.comparison (.intro t.denotes .isNull))
  | .isIn t name => .plain (.comparison (.intro t.denotes (.isIn name)))
  | .isInMoments t name => .plain (.comparison (.intro t.denotes (.isInMoments name "v")))
  | .not e => .not (.plain (.parentheses (Expr.reads e).loosen))
  | .group junction parts => reads_group junction (Expr.reads_parts parts)

/-- The same of the members of a group. -/
theorem Expr.reads_parts : ∀ es : List Expr,
    List.Forall₂ (Reads .negation) (Expr.tokensOf es) (Expr.readings es)
  | [] => .nil
  | e :: rest => .cons (Expr.reads e) (Expr.reads_parts rest)

end

/-- The text of a condition has exactly one reading. That there is no other is due to the grammar,
which is unambiguous. -/
theorem Expr.isReading_text_iff {e : Expr} (h : e.Named) (r : Reading) :
    IsReading e.text r ↔ r = e.reading := by
  have hread : IsReading e.text e.reading := by
    rw [IsReading, (Expr.spelled h).tokens_eq]
    exact e.reads.loosen
  constructor
  · intro hr
    exact hr.unique hread
  · rintro rfl
    exact hread

end TenantSearch.Cypher
