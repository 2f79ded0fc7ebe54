import TenantSearch.Proofs.Cypher.Written

/-!
# `TenantSearch.Proofs.Cypher.Use`: what a statement does with its names

The tokens around a name tell what a statement does with it: it takes a parameter for a list, it
picks an item of a parameter, it reads a property of a node. `Use.In u ts` says that the use `u`
stands somewhere in the tokens `ts`.

No use goes on across most of the tokens. So the uses in a text are those in its parts:

* `Use.in_cons`: a token that opens no use can be dropped.
* `Use.in_append`: a use does not run into a token that no use goes on with.
* `Expr.mem_uses`, `Expr.mem_parameters`: the uses in a condition and its parameters are those that
  its terms have.
-/

set_option autoImplicit false

namespace TenantSearch.Cypher

/-- A use of a name. -/
inductive Use where
  /-- `IN $x` takes a parameter for a list. -/
  | isIn (name : String)
  /-- `$x[` picks an item of a parameter. -/
  | item (name : String)
  /-- `toLower($x` takes a parameter for a text. -/
  | lower (name : String)
  /-- `x.` reads a property of a node. -/
  | property (node : String)
  /-- `>(x` leads to a node. -/
  | target (node : String)
  /-- `count(x` counts nodes. -/
  | counted (node : String)
  /-- `RETURN x` returns nodes. -/
  | returned (node : String)
deriving DecidableEq

namespace Use

/-- The tokens of the use. -/
def tokens : Use → List Token
  | isIn name => [.keyword "IN", .parameter name]
  | item name => [.parameter name, .symbol '[']
  | lower name => [.name "toLower", .symbol '(', .parameter name]
  | property node => [.name node, .symbol '.']
  | target node => [.symbol '>', .symbol '(', .name node]
  | counted node => [.name "count", .symbol '(', .name node]
  | returned node => [.keyword "RETURN", .name node]

/-- Whether the use stands somewhere in the tokens. -/
def In (u : Use) (ts : List Token) : Prop := u.tokens <:+: ts

end Use

namespace Token

/-- Whether a use may begin with the token. -/
def opens : Token → Bool
  | name _ | parameter _ => true
  | keyword word => word = "IN" || word = "RETURN"
  | symbol c => c = '>'
  | _ => false

/-- Whether a use may go on with the token. -/
def continues : Token → Bool
  | name _ | parameter _ => true
  | symbol c => c = '[' || c = '(' || c = '.'
  | _ => false

end Token

/-! ### Uses in parts of a text -/

/-- A window does not run into a token that is none of those behind its first. So a window over two
texts lies in one of them, if the second begins with such a token. -/
theorem infix_append_cons {w ts us : List Token} {t : Token} (ht : t ∉ w.tail)
    (h : w <:+: ts ++ t :: us) : w <:+: ts ∨ w <:+: t :: us := by
  rcases List.infix_append_iff_ne_nil.1 h with hleft | hright | hboth
  · exact .inl hleft
  · exact .inr hright
  · obtain ⟨before, behind, hbefore, hbehind, htokens, -, hbegin⟩ := hboth
    -- The token would be one of those behind the first one.
    obtain ⟨next, more, rfl⟩ := List.exists_cons_of_ne_nil hbehind
    obtain ⟨first, others, rfl⟩ := List.exists_cons_of_ne_nil hbefore
    rw [List.cons_prefix_cons] at hbegin
    exfalso
    apply ht
    rw [htokens, ← hbegin.1]
    simp

/-- Whether the tokens are those of a clause, or there are none. A clause begins with a
keyword. -/
def IsClause (ts : List Token) : Prop := ∀ t ∈ ts.head?, ∃ word, t = .keyword word

/-- A window without keywords behind its first token does not run into a clause. -/
theorem infix_append_clause {w ts us : List Token} (hw : ∀ word, .keyword word ∉ w.tail)
    (hus : IsClause us) (h : w <:+: ts ++ us) : w <:+: ts ∨ w <:+: us := by
  cases us with
  | nil => exact .inl (by simpa using h)
  | cons t us =>
    obtain ⟨word, rfl⟩ := hus t rfl
    exact infix_append_cons (hw word) h

namespace Use

/-- A use begins with a token that opens uses. -/
theorem opens_head (u : Use) : ∃ t rest, u.tokens = t :: rest ∧ t.opens = true := by
  cases u <;> exact ⟨_, _, rfl, rfl⟩

/-- After its first token a use has only tokens that continue uses. -/
theorem continues_tail (u : Use) : ∀ t ∈ u.tokens.tail, t.continues = true := by
  cases u <;> simp [tokens, Token.continues]

/-- There is no use in an empty text. -/
theorem not_in_nil (u : Use) : ¬ u.In [] := by
  intro h
  obtain ⟨t, rest, htokens, -⟩ := u.opens_head
  rw [In, htokens, List.infix_nil] at h
  cases h

/-- A token that opens no use can be dropped. -/
theorem in_cons {u : Use} {t : Token} {ts : List Token} (ht : t.opens = false)
    (h : u.In (t :: ts)) : u.In ts := by
  obtain ⟨first, rest, htokens, hopens⟩ := u.opens_head
  rw [In, List.infix_cons_iff] at h
  rcases h with hbegin | hinfix
  · rw [htokens, List.cons_prefix_cons] at hbegin
    rw [hbegin.1, ht] at hopens
    cases hopens
  · exact hinfix

/-- A use does not run into a token that no use goes on with. -/
theorem in_append {u : Use} {ts us : List Token} {t : Token} (ht : t.continues = false)
    (h : u.In (ts ++ t :: us)) : u.In ts ∨ u.In (t :: us) := by
  refine infix_append_cons ?_ h
  intro hmem
  rw [u.continues_tail t hmem] at ht
  cases ht

/-- A use does not run into a clause. -/
theorem in_append_clause {u : Use} {ts us : List Token} (hus : IsClause us)
    (h : u.In (ts ++ us)) : u.In ts ∨ u.In us := by
  refine infix_append_clause ?_ hus h
  intro word hmem
  have hcontinues := u.continues_tail _ hmem
  cases hcontinues

/-- A use that stands before a closing token stands without it. -/
theorem in_concat {u : Use} {ts : List Token} {t : Token} (hopens : t.opens = false)
    (hcontinues : t.continues = false) (h : u.In (ts ++ [t])) : u.In ts := by
  rcases in_append hcontinues h with h | h
  · exact h
  · exact absurd (in_cons hopens h) u.not_in_nil

/-- A use in texts between separators is a use in one of them. The separator neither opens a use nor
continues one, so no use reaches across it. -/
theorem in_intercalate {u : Use} {t : Token} (hopens : t.opens = false)
    (hcontinues : t.continues = false) {tss : List (List Token)}
    (h : u.In ([t].intercalate tss)) : ∃ ts ∈ tss, u.In ts := by
  induction tss with
  | nil => exact absurd h u.not_in_nil
  | cons ts rest ih =>
    cases rest with
    | nil => exact ⟨ts, by simp, by simpa using h⟩
    | cons next more =>
      rw [List.intercalate_cons_cons, List.append_assoc, List.singleton_append] at h
      rcases in_append hcontinues h with hfirst | hrest
      · exact ⟨ts, by simp, hfirst⟩
      · obtain ⟨us, hus, hu⟩ := ih (in_cons hopens hrest)
        exact ⟨us, List.mem_cons_of_mem _ hus, hu⟩

/-- A use in a group is a use in one of its parts. The connectives and the brackets are separators
of this kind. -/
theorem in_groupTokens {u : Use} (j : Junction) {tss : List (List Token)}
    (h : u.In (groupTokens j tss)) : ∃ ts ∈ tss, u.In ts := by
  have hopens : (connective j).opens = false := by cases j <;> rfl
  have hcontinues : (connective j).continues = false := by cases j <;> rfl
  rcases tss with - | ⟨part, - | ⟨next, more⟩⟩
  · exact absurd (in_cons rfl h) u.not_in_nil
  · exact ⟨part, by simp, h⟩
  · have hgroup : u.In (.symbol '(' :: ([connective j].intercalate (part :: next :: more)
        ++ [.symbol ')'])) := h
    exact in_intercalate hopens hcontinues (in_concat rfl rfl (in_cons rfl hgroup))

end Use

/-- The separators have nothing of what stands between them. A token other than the separator stands
in one of the texts. -/
theorem mem_intercalate {s t : Token} (h : s ≠ t) {tss : List (List Token)} :
    s ∈ [t].intercalate tss ↔ ∃ ts ∈ tss, s ∈ ts := by
  induction tss with
  | nil => simp
  | cons ts rest ih =>
    cases rest with
    | nil => simp
    | cons next more =>
      rw [List.intercalate_cons_cons, List.append_assoc, List.mem_append, List.mem_append, ih]
      simp [h]

/-! ### Uses in conditions -/

namespace Term

/-- The uses in a term. -/
def uses : Term → List Use
  | property node _ => [.property node]
  | parameter _ | emptyText => []
  | item name _ => [.item name]
  | lower (.parameter name) => [.lower name]
  | lower (.item name _) => [.lower name, .item name]
  | lower t | moment t => t.uses

/-- The parameters in a term. -/
def parameters : Term → List String
  | property _ _ | emptyText => []
  | parameter name | item name _ => [name]
  | lower t | moment t => t.parameters

/-- Lower case keeps what the term uses. -/
theorem mem_uses_lower {t : Term} {u : Use} (h : u ∈ t.uses) : u ∈ (lower t).uses := by
  cases t with
  | parameter name => cases h
  | item name index => exact List.mem_cons_of_mem _ h
  | _ => exact h

/-- The uses in the tokens of a term are those in the term. Every use has at most two tokens, so it
is looked for at the beginning of the term, and then behind its first token. -/
theorem mem_uses {t : Term} {u : Use} (h : u.In t.tokens) : u ∈ t.uses := by
  induction t with
  | property node name =>
    cases u <;> simp_all [Use.In, Use.tokens, tokens, uses, List.infix_cons_iff]
  | parameter name => cases u <;> simp_all [Use.In, Use.tokens, tokens, List.infix_cons_iff]
  | item name index =>
    cases u <;> simp_all [Use.In, Use.tokens, tokens, uses, List.infix_cons_iff]
  | emptyText => exact absurd (Use.in_cons rfl h) u.not_in_nil
  | lower t ih =>
    rcases List.infix_cons_iff.1 h with hbegin | hrest
    · -- Only a text in lower case begins like this, and its parameter begins the inner term.
      cases u with
      | lower name =>
        cases t <;> simp_all [Use.tokens, tokens, uses]
      | _ => simp [Use.tokens] at hbegin
    · exact mem_uses_lower (ih (Use.in_concat rfl rfl (Use.in_cons rfl hrest)))
  | moment t ih =>
    rcases List.infix_cons_iff.1 h with hbegin | hrest
    · cases u <;> simp [Use.tokens] at hbegin
    · exact ih (Use.in_concat rfl rfl (Use.in_cons rfl hrest))

/-- The parameters in the tokens of a term are those in the term. -/
theorem mem_parameters {t : Term} {x : String} : .parameter x ∈ t.tokens ↔ x ∈ t.parameters := by
  induction t with
  | property node name => simp [tokens, parameters]
  | parameter name => simp [tokens, parameters]
  | item name index => simp [tokens, parameters]
  | emptyText => simp [tokens, parameters]
  | lower t ih => simp [tokens, parameters, ih]
  | moment t ih => simp [tokens, parameters, ih]

/-- A term has no colon in it, so no label is read inside it. -/
theorem colon_not_mem (t : Term) : .symbol ':' ∉ t.tokens := by
  induction t with
  | property node name => simp [tokens]
  | parameter name => simp [tokens]
  | item name index => simp [tokens]
  | emptyText => simp [tokens]
  | lower t ih => simp [tokens, ih]
  | moment t ih => simp [tokens, ih]

end Term

namespace Expr

mutual

/-- The uses in a condition. -/
def uses : Expr → List Use
  | always => []
  | compare left _ right => left.uses ++ right.uses
  | isNull t => t.uses
  | isIn t name | isInMoments t name => t.uses ++ [.isIn name]
  | not e => uses e
  | group _ parts => usesOf parts

/-- The uses in several conditions. -/
def usesOf : List Expr → List Use
  | [] => []
  | e :: rest => uses e ++ usesOf rest

end

mutual

/-- The parameters in a condition. -/
def parameters : Expr → List String
  | always => []
  | compare left _ right => left.parameters ++ right.parameters
  | isNull t => t.parameters
  | isIn t name | isInMoments t name => t.parameters ++ [name]
  | not e => parameters e
  | group _ parts => parametersOf parts

/-- The parameters in several conditions. -/
def parametersOf : List Expr → List String
  | [] => []
  | e :: rest => parameters e ++ parametersOf rest

end

end Expr

/-- A relation has no part in a use. None of its words opens a use or continues one, so a use stands
before it or behind it. -/
theorem Use.in_relation {u : Use} (relation : Relation) {ts us : List Token}
    (h : u.In (ts ++ relation.tokens ++ us)) : u.In ts ∨ u.In us := by
  rw [List.append_assoc] at h
  cases relation with
  | startsWith =>
    rcases Use.in_append rfl h with h | h
    · exact .inl h
    · exact .inr (Use.in_cons rfl (Use.in_cons rfl h))
  | _ =>
    rcases Use.in_append rfl h with h | h
    · exact .inl h
    · exact .inr (Use.in_cons rfl h)

namespace Expr

mutual

/-- The uses in the tokens of a condition are those in the condition. A condition is taken apart
into its terms, and no use reaches from one term into another. -/
theorem mem_uses : ∀ {e : Expr} {u : Use}, u.In e.tokens → u ∈ e.uses
  | .always, u, h => absurd (Use.in_cons rfl h) u.not_in_nil
  | .compare left relation right, u, h => by
    rw [uses, List.mem_append]
    exact (Use.in_relation relation h).imp Term.mem_uses Term.mem_uses
  | .isNull t, u, h => by
    rcases Use.in_append rfl h with h | h
    · exact Term.mem_uses h
    · exact absurd (Use.in_cons rfl (Use.in_cons rfl h)) u.not_in_nil
  | .isIn t name, u, h => by
    rw [uses, List.mem_append]
    -- No use runs into `IN`, and behind it there is the parameter alone.
    rcases Use.in_append rfl h with h | h
    · exact .inl (Term.mem_uses h)
    · cases u <;> simp_all [Use.In, Use.tokens, List.infix_cons_iff]
  | .isInMoments t name, u, h => by
    rw [uses, List.mem_append]
    -- The brackets repeat `IN` for the variable, and the list stands behind the second one.
    rcases Use.in_append rfl h with h | h
    · exact .inl (Term.mem_uses h)
    · cases u <;> simp_all [Use.In, Use.tokens, List.infix_cons_iff]
  | .not e, u, h => by
    -- Neither the keyword nor the parentheses belong to a use.
    have hinner : u.In (.keyword "NOT" :: .symbol '(' :: (e.tokens ++ [.symbol ')'])) := h
    exact @mem_uses e u (Use.in_concat rfl rfl (Use.in_cons rfl (Use.in_cons rfl hinner)))
  | .group j parts, u, h => by
    obtain ⟨ts, hts, hu⟩ := Use.in_groupTokens j h
    exact mem_uses_parts hts hu

/-- A use in one of the expressions is among the uses of them all. -/
theorem mem_uses_parts : ∀ {es : List Expr} {u : Use} {ts : List Token},
    ts ∈ tokensOf es → u.In ts → u ∈ usesOf es
  | e :: rest, u, ts, hts, hu => by
    rw [usesOf, List.mem_append]
    rcases List.mem_cons.1 hts with rfl | hrest
    · exact .inl (mem_uses hu)
    · exact .inr (mem_uses_parts hrest hu)

end

/-- A token of no group of its own is a token of one of the parts. A group adds keywords and
parentheses, and nothing else. -/
theorem mem_groupTokens (j : Junction) {s : Token} (hkeyword : ∀ word, s ≠ .keyword word)
    (hopening : s ≠ .symbol '(') (hclosing : s ≠ .symbol ')') {tss : List (List Token)} :
    s ∈ groupTokens j tss ↔ ∃ ts ∈ tss, s ∈ ts := by
  have hconnective : s ≠ connective j := by
    cases j <;> exact hkeyword _
  rcases tss with - | ⟨part, - | ⟨next, more⟩⟩
  · simp [groupTokens, hkeyword]
  · simp [groupTokens]
  · show s ∈ .symbol '(' :: [connective j].intercalate (part :: next :: more)
      ++ [.symbol ')'] ↔ _
    rw [← mem_intercalate hconnective]
    simp [hopening, hclosing]

mutual

/-- The parameters in the tokens of a condition are those in the condition. The grammar of
conditions adds words and brackets around the terms, which refer to nothing. -/
theorem mem_parameters : ∀ {e : Expr} {x : String}, .parameter x ∈ e.tokens ↔ x ∈ e.parameters
  | .always, x => by simp [tokens, parameters]
  | .compare left relation right, x => by
    have hrelation : Token.parameter x ∉ relation.tokens := by
      cases relation <;> simp [Relation.tokens]
    simp [tokens, parameters, hrelation, Term.mem_parameters]
  | .isNull t, x => by simp [tokens, parameters, Term.mem_parameters]
  | .isIn t name, x => by simp [tokens, parameters, Term.mem_parameters]
  | .isInMoments t name, x => by simp [tokens, parameters, Term.mem_parameters]
  | .not e, x => by simp [tokens, parameters, @mem_parameters e]
  | .group j parts, x => by
    rw [tokens, parameters, mem_groupTokens j (by simp) (by simp) (by simp)]
    exact mem_parameters_parts

/-- A parameter stands in one of the expressions if it is among the parameters of them all. -/
theorem mem_parameters_parts : ∀ {es : List Expr} {x : String},
    (∃ ts ∈ tokensOf es, .parameter x ∈ ts) ↔ x ∈ parametersOf es
  | [], x => by simp [tokensOf, parametersOf]
  | e :: rest, x => by
    simp [tokensOf, parametersOf, @mem_parameters e, @mem_parameters_parts rest]

end

mutual

/-- A condition has no colon, so it introduces no name. Names are introduced by patterns alone, as
in `(c:Contact)`. -/
theorem colon_not_mem : ∀ e : Expr, .symbol ':' ∉ e.tokens
  | .always => by simp [tokens]
  | .compare left relation right => by
    have hrelation : .symbol ':' ∉ relation.tokens := by
      cases relation <;> simp [Relation.tokens]
    simp [tokens, hrelation, left.colon_not_mem, right.colon_not_mem]
  | .isNull t => by simp [tokens, t.colon_not_mem]
  | .isIn t name => by simp [tokens, t.colon_not_mem]
  | .isInMoments t name => by simp [tokens, t.colon_not_mem]
  | .not e => by simp [tokens, colon_not_mem e]
  | .group j parts => by
    rw [tokens, mem_groupTokens j (by simp) (by simp) (by simp)]
    rintro ⟨ts, hts, hmem⟩
    exact colon_not_mem_parts parts ts hts hmem

/-- None of the expressions has a colon in it. -/
theorem colon_not_mem_parts : ∀ es : List Expr, ∀ ts ∈ tokensOf es, .symbol ':' ∉ ts
  | [], _, hts => by cases hts
  | e :: rest, ts, hts => by
    rcases List.mem_cons.1 hts with rfl | hts
    · exact colon_not_mem e
    · exact colon_not_mem_parts rest ts hts

end

end Expr

end TenantSearch.Cypher
