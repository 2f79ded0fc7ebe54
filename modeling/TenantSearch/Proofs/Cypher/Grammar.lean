import TenantSearch.Cypher.Expr
import TenantSearch.Proofs.Cypher.Token

/-!
# `TenantSearch.Proofs.Cypher.Grammar`: how conditions are read

The reference grammar of conditions. `NOT` binds tighter than `AND`, `AND` tighter than `OR`,
and parentheses group. A chain of equal connectives is one group with all of its parts. The
comparisons between the connectives are read down to their terms, because terms have
parentheses and brackets of their own.

`Reads level ts r` says that the grammar reads the tokens `ts` at a level as `r`. It is a
relation, so nothing in its form keeps a text from having two readings or none. The theorems:

* `Denotes.unique`, `Compares.unique`, `Reads.unique`: unique decomposition. If two readings at
  a level start at the same place, and neither is followed by a token that could continue it,
  then they end at the same place and are equal.
* `IsReading.unique`: a text has at most one reading.

Readings are evaluated in the logic of three truth values that the store uses, over any
assignment of values to the comparisons.
-/

set_option autoImplicit false

namespace TenantSearch.Cypher

/-! ### Truth values -/

/-- A truth value of the store. -/
inductive Truth where
  | no
  | unknown
  | yes
deriving DecidableEq

namespace Truth

/-- The opposite. The opposite of what is unknown is unknown. -/
def not : Truth → Truth
  | no => yes
  | unknown => unknown
  | yes => no

/-- Both. One `no` decides. -/
def and : Truth → Truth → Truth
  | no, _ | _, no => no
  | unknown, _ | _, unknown => unknown
  | yes, yes => yes

/-- One of both. One `yes` decides. -/
def or : Truth → Truth → Truth
  | yes, _ | _, yes => yes
  | unknown, _ | _, unknown => unknown
  | no, no => no

/-- All of them under a conjunction, one of them under a disjunction. -/
def joined : Junction → List Truth → Truth
  | .conjunction, vs => vs.foldr and yes
  | .disjunction, vs => vs.foldr or no

/-- Joining one value leaves it as it is. -/
@[simp] theorem joined_single (j : Junction) (v : Truth) : joined j [v] = v := by
  cases j <;> cases v <;> rfl

end Truth

/-! ### Readings -/

/-- What is asked of the subject of a comparison. -/
inductive Test where
  | relation (relation : Relation) (right : Term)
  | isNull
  | isIn (list : String)
  | isInMoments (list : String)
deriving DecidableEq

/-- A comparison, which has a truth value of its own. -/
structure Atom where
  subject : Term
  test : Test
deriving DecidableEq

/-- What a condition is read as. -/
inductive Reading where
  | always
  | atom (a : Atom)
  | not (r : Reading)
  | group (junction : Junction) (parts : List Reading)

namespace Reading

mutual

/-- The truth value, when the comparisons have these. -/
def eval (σ : Atom → Truth) : Reading → Truth
  | always => .yes
  | atom a => σ a
  | not r => (eval σ r).not
  | group junction parts => .joined junction (evals σ parts)

/-- The truth values of several readings. -/
def evals (σ : Atom → Truth) : List Reading → List Truth
  | [] => []
  | r :: rest => eval σ r :: evals σ rest

end

/-- The readings of a list are evaluated one by one. -/
theorem evals_eq_map (σ : Atom → Truth) (rs : List Reading) : evals σ rs = rs.map (eval σ) := by
  induction rs with
  | nil => rfl
  | cons r rest ih => rw [evals, ih, List.map_cons]

/-- Readings in a chain. A chain of one is that one. -/
def chained (junction : Junction) : List Reading → Reading
  | [r] => r
  | rs => .group junction rs

end Reading

/-! ### The grammar -/

/-- The terms. -/
inductive Denotes : List Token → Term → Prop where
  | property (node name : String) :
    Denotes [.name node, .symbol '.', .name name] (.property node name)
  | parameter (name : String) : Denotes [.parameter name] (.parameter name)
  | item (name : String) (index : Nat) :
    Denotes [.parameter name, .symbol '[', .name (toString index), .symbol ']']
      (.item name index)
  | emptyText : Denotes [.emptyText] .emptyText
  | lower {ts : List Token} {t : Term} (inner : Denotes ts t) :
    Denotes (.name "toLower" :: .symbol '(' :: ts ++ [.symbol ')']) (.lower t)
  | moment {ts : List Token} {t : Term} (inner : Denotes ts t) :
    Denotes (.name "datetime" :: .symbol '(' :: ts ++ [.symbol ')']) (.moment t)

/-- How a relation is spelled. -/
def Relation.tokens : Relation → List Token
  | equal => [.symbol '=']
  | contains => [.keyword "CONTAINS"]
  | startsWith => [.keyword "STARTS", .keyword "WITH"]
  | atMost => [.atMost]
  | atLeast => [.atLeast]

/-- The tests, after their subject. -/
inductive Tests : List Token → Test → Prop where
  | relation {ts : List Token} {right : Term} (relation : Relation) (h : Denotes ts right) :
    Tests (relation.tokens ++ ts) (.relation relation right)
  | isNull : Tests [.keyword "IS", .keyword "NULL"] .isNull
  | isIn (list : String) : Tests [.keyword "IN", .parameter list] (.isIn list)
  | isInMoments (list each : String) :
    Tests
      [.keyword "IN", .symbol '[', .name each, .keyword "IN", .parameter list, .symbol '|',
        .name "datetime", .symbol '(', .name each, .symbol ')', .symbol ']']
      (.isInMoments list)

/-- The comparisons. -/
inductive Compares : List Token → Atom → Prop where
  | intro {ts us : List Token} {subject : Term} {test : Test} (hsubject : Denotes ts subject)
      (htest : Tests us test) :
    Compares (ts ++ us) ⟨subject, test⟩

/-- The levels of the grammar, each with the tighter ones. -/
inductive Level where
  | atom
  | negation
  | chain (junction : Junction)

/-- The keyword between the parts of a chain. -/
def connective : Junction → Token
  | .conjunction => .keyword "AND"
  | .disjunction => .keyword "OR"

/-- The level of the parts of a chain. -/
def Level.ofParts : Junction → Level
  | .conjunction => .negation
  | .disjunction => .chain .conjunction

/-- The conditions. -/
inductive Reads : Level → List Token → Reading → Prop where
  | always : Reads .atom [.keyword "TRUE"] .always
  | comparison {ts : List Token} {a : Atom} (h : Compares ts a) : Reads .atom ts (.atom a)
  | parentheses {ts : List Token} {r : Reading} (inner : Reads (.chain .disjunction) ts r) :
    Reads .atom (.symbol '(' :: ts ++ [.symbol ')']) r
  | plain {ts : List Token} {r : Reading} (inner : Reads .atom ts r) : Reads .negation ts r
  | not {ts : List Token} {r : Reading} (inner : Reads .negation ts r) :
    Reads .negation (.keyword "NOT" :: ts) (.not r)
  | chain (junction : Junction) (parts : List (List Token × Reading)) (ne : parts ≠ [])
      (inner : ∀ p ∈ parts, Reads (.ofParts junction) p.1 p.2) :
    Reads (.chain junction) ([connective junction].intercalate (parts.map Prod.fst))
      (.chained junction (parts.map Prod.snd))

/-- The whole text is read as a condition. -/
def IsReading (text : String) (r : Reading) : Prop :=
  Reads (.chain .disjunction) (tokens text) r

/-! ### Unique decomposition -/

/-- No item of a list is picked where the tokens begin. -/
def NoIndex (rest : List Token) : Prop := rest.head? ≠ some (.symbol '[')

/-- A text begins with one term only, so long as no index follows it. An index would make an item of
a parameter. -/
theorem Denotes.unique {ts ts' : List Token} {t t' : Term} (h : Denotes ts t)
    (h' : Denotes ts' t') {rest rest' : List Token} (heq : ts ++ rest = ts' ++ rest')
    (hrest : NoIndex rest) (hrest' : NoIndex rest') : ts = ts' ∧ t = t' := by
  unfold NoIndex at hrest hrest'
  -- By the form of the term. The first token gives the form away, but for a parameter and an item.
  induction h generalizing ts' t' rest rest' with
  | property node name => cases h' <;> simp_all
  | parameter name => cases h' <;> simp_all
  | item name index =>
    cases h' with
    | item name' index' =>
      simp only [List.cons_append, List.nil_append, List.cons.injEq, Token.parameter.injEq,
        Token.name.injEq] at heq
      obtain ⟨rfl, -, hindex, -⟩ := heq
      rw [toString_injective hindex]
      exact ⟨rfl, rfl⟩
    | parameter name' =>
      -- A parameter alone would be followed by the index.
      simp only [List.cons_append, List.nil_append, List.cons.injEq] at heq
      rw [← heq.2] at hrest'
      exact absurd rfl hrest'
    | _ => simp at heq
  | emptyText => cases h' <;> simp_all
  | lower inner ih =>
    cases h' with
    | lower inner' =>
      obtain ⟨rfl, rfl⟩ := ih inner' (by simpa using heq) (by simp) (by simp)
      exact ⟨rfl, rfl⟩
    | _ => simp at heq
  | moment inner ih =>
    cases h' with
    | moment inner' =>
      obtain ⟨rfl, rfl⟩ := ih inner' (by simpa using heq) (by simp) (by simp)
      exact ⟨rfl, rfl⟩
    | _ => simp at heq

/-- The spelling of a relation shows where it ends and which relation it is. -/
theorem Relation.tokens_unique {relation relation' : Relation} {rest rest' : List Token}
    (heq : relation.tokens ++ rest = relation'.tokens ++ rest') :
    relation = relation' ∧ rest = rest' := by
  cases relation <;> cases relation' <;> simp_all [Relation.tokens]

/-- A text begins with one test only. The relations are told apart by their tokens, and what follows
them by `Denotes.unique`. -/
theorem Tests.unique {ts ts' : List Token} {test test' : Test} (h : Tests ts test)
    (h' : Tests ts' test') {rest rest' : List Token} (heq : ts ++ rest = ts' ++ rest')
    (hrest : NoIndex rest) (hrest' : NoIndex rest') : ts = ts' ∧ test = test' := by
  cases h with
  | relation relation hright =>
    cases h' with
    | relation relation' hright' =>
      rw [List.append_assoc, List.append_assoc] at heq
      obtain ⟨rfl, htail⟩ := Relation.tokens_unique heq
      obtain ⟨rfl, rfl⟩ := hright.unique hright' htail hrest hrest'
      exact ⟨rfl, rfl⟩
    | _ => cases relation <;> simp [Relation.tokens] at heq
  | isNull =>
    cases h' with
    | relation relation' _ => cases relation' <;> simp [Relation.tokens] at heq
    | isNull => exact ⟨rfl, rfl⟩
    | _ => simp at heq
  | isIn list =>
    cases h' with
    | relation relation' _ => cases relation' <;> simp [Relation.tokens] at heq
    | isIn list' => simp_all
    | _ => simp at heq
  | isInMoments list each =>
    cases h' with
    | relation relation' _ => cases relation' <;> simp [Relation.tokens] at heq
    | isInMoments list' each' => simp_all
    | _ => simp at heq

/-- A test does not pick an item of its subject. -/
theorem Tests.noIndex {ts : List Token} {test : Test} (h : Tests ts test) (rest : List Token) :
    NoIndex (ts ++ rest) := by
  cases h with
  | relation relation _ => cases relation <;> simp [NoIndex, Relation.tokens]
  | _ => simp [NoIndex]

/-- A text begins with one comparison only: one subject, and then one test. What is compared ends
where the test begins, since no test begins with an index. -/
theorem Compares.unique {ts ts' : List Token} {a a' : Atom} (h : Compares ts a)
    (h' : Compares ts' a') {rest rest' : List Token} (heq : ts ++ rest = ts' ++ rest')
    (hrest : NoIndex rest) (hrest' : NoIndex rest') : ts = ts' ∧ a = a' := by
  obtain ⟨hsubject, htest⟩ := h
  obtain ⟨hsubject', htest'⟩ := h'
  rw [List.append_assoc, List.append_assoc] at heq
  -- A test does not begin with an index, so the subject ends where it seems to.
  obtain ⟨rfl, rfl⟩ := hsubject.unique hsubject' heq (htest.noIndex rest) (htest'.noIndex rest')
  obtain ⟨rfl, rfl⟩ := htest.unique htest' (List.append_cancel_left heq) hrest hrest'
  exact ⟨rfl, rfl⟩

/-- Whether a term may begin with the token. -/
def Token.startsTerm : Token → Bool
  | name _ | parameter _ | emptyText => true
  | _ => false

/-- A term begins with a token that starts terms, whatever follows it. -/
theorem Denotes.startsTerm {ts : List Token} {t : Term} (h : Denotes ts t)
    (rest : List Token) : ∃ k more, ts ++ rest = k :: more ∧ k.startsTerm = true := by
  cases h <;> exact ⟨_, _, rfl, rfl⟩

/-- A comparison begins with a term. -/
theorem Compares.ne_cons {ts : List Token} {a : Atom} (h : Compares ts a) {k : Token}
    (hk : k.startsTerm = false) (rest more : List Token) : ts ++ rest ≠ k :: more := by
  intro heq
  obtain ⟨hsubject, _⟩ := h
  rw [List.append_assoc] at heq
  obtain ⟨first, others, hfirst, hstarts⟩ := hsubject.startsTerm _
  rw [hfirst, List.cons.injEq] at heq
  rw [heq.1, hk] at hstarts
  exact absurd hstarts (by decide)

/-- No reading at the level goes on where the tokens begin. -/
def Level.Ends : Level → List Token → Prop
  | atom, rest | negation, rest => NoIndex rest
  | chain .conjunction, rest => NoIndex rest ∧ rest.head? ≠ some (connective .conjunction)
  | chain .disjunction, rest =>
    NoIndex rest ∧ rest.head? ≠ some (connective .conjunction) ∧
      rest.head? ≠ some (connective .disjunction)

/-- A closing parenthesis ends every reading. -/
theorem Level.ends_parenthesis (level : Level) (rest : List Token) :
    level.Ends (.symbol ')' :: rest) := by
  cases level with
  | atom => simp [Level.Ends, NoIndex]
  | negation => simp [Level.Ends, NoIndex]
  | chain junction => cases junction <;> simp [Level.Ends, NoIndex, connective]

/-- The connective of a chain ends the part before it. -/
theorem Level.ends_connective (junction : Junction) (rest : List Token) :
    (Level.ofParts junction).Ends (connective junction :: rest) := by
  cases junction <;> simp [Level.ofParts, Level.Ends, NoIndex, connective]

/-- What ends a chain ends its last part, and is not its connective. -/
theorem Level.Ends.ofParts {junction : Junction} {rest : List Token}
    (h : (Level.chain junction).Ends rest) :
    (Level.ofParts junction).Ends rest ∧ rest.head? ≠ some (connective junction) := by
  cases junction with
  | conjunction => exact h
  | disjunction => exact ⟨⟨h.1, h.2.1⟩, h.2.2⟩

/-- An atom does not begin with `NOT`. -/
theorem Reads.ne_not {ts : List Token} {r : Reading} (h : Reads .atom ts r)
    (rest more : List Token) : ts ++ rest ≠ .keyword "NOT" :: more := by
  intro heq
  cases h with
  | always => simp at heq
  | comparison h => exact h.ne_cons rfl _ _ heq
  | parentheses _ => simp at heq

/-- A reading at the level that begins like `ts` is `r` on `ts`. -/
def Decomposes (level : Level) (ts : List Token) (r : Reading) : Prop :=
  ∀ {ts' : List Token} {r' : Reading} {rest rest' : List Token}, Reads level ts' r' →
    ts ++ rest = ts' ++ rest' → level.Ends rest → level.Ends rest' → ts = ts' ∧ r = r'

/-- Two chains that begin alike have the same parts. The induction follows the first chain, and
each step splits one part off both. -/
theorem parts_unique {junction : Junction} {rest rest' : List Token}
    (hrest : (Level.chain junction).Ends rest) (hrest' : (Level.chain junction).Ends rest') :
    ∀ (parts parts' : List (List Token × Reading)), parts ≠ [] → parts' ≠ [] →
      (∀ p ∈ parts, Decomposes (.ofParts junction) p.1 p.2) →
      (∀ p ∈ parts', Reads (.ofParts junction) p.1 p.2) →
      [connective junction].intercalate (parts.map Prod.fst) ++ rest
        = [connective junction].intercalate (parts'.map Prod.fst) ++ rest' →
      parts = parts'
  | [], _, ne, _, _, _, _ => absurd rfl ne
  | _ :: _, [], _, ne', _, _, _ => absurd rfl ne'
  | [p], [p'], _, _, hp, hp', heq => by
    simp only [List.map_cons, List.map_nil, List.intercalate_singleton] at heq
    obtain ⟨hts, hr⟩ := hp p (by simp) (hp' p' (by simp)) heq hrest.ofParts.1 hrest'.ofParts.1
    rw [Prod.ext hts hr]
  | [p], p' :: q' :: more', _, _, hp, hp', heq => by
    -- The first chain ends where the second goes on with its connective.
    simp only [List.map_cons, List.map_nil, List.intercalate_singleton,
      List.intercalate_cons_cons, List.append_assoc, List.singleton_append] at heq
    obtain ⟨hts, -⟩ := hp p (by simp) (hp' p' (by simp)) heq hrest.ofParts.1
      (Level.ends_connective _ _)
    rw [hts] at heq
    have htail := List.append_cancel_left heq
    exact absurd (by rw [htail]; rfl) hrest.ofParts.2
  -- The same with the chains exchanged.
  | p :: q :: more, [p'], _, _, hp, hp', heq => by
    simp only [List.map_cons, List.map_nil, List.intercalate_singleton,
      List.intercalate_cons_cons, List.append_assoc, List.singleton_append] at heq
    obtain ⟨hts, -⟩ := hp p (by simp) (hp' p' (by simp)) heq (Level.ends_connective _ _)
      hrest'.ofParts.1
    rw [hts] at heq
    have htail := List.append_cancel_left heq
    exact absurd (by rw [← htail]; rfl) hrest'.ofParts.2
  | p :: q :: more, p' :: q' :: more', _, _, hp, hp', heq => by
    simp only [List.map_cons, List.intercalate_cons_cons, List.append_assoc,
      List.singleton_append] at heq
    obtain ⟨hts, hr⟩ := hp p (by simp) (hp' p' (by simp)) heq (Level.ends_connective _ _)
      (Level.ends_connective _ _)
    rw [hts] at heq
    -- The first parts agree. Without them and the connective there are two shorter chains.
    have htail := (List.cons.inj (List.append_cancel_left heq)).2
    rw [Prod.ext hts hr]
    congr 1
    exact parts_unique hrest hrest' (q :: more) (q' :: more') (by simp) (by simp)
      (fun x hx => hp x (by simp [hx])) (fun x hx => hp' x (by simp [hx])) htail

/-- Unique decomposition. Whatever text follows, the tokens of a reading end at one place and have
one reading. The levels of the grammar settle what binds more tightly, so the induction is on the
reading and at each level looks at the first token. -/
theorem Reads.unique {level : Level} {ts : List Token} {r : Reading} (h : Reads level ts r) :
    Decomposes level ts r := by
  induction h with
  | always =>
    intro ts' r' rest rest' h' heq _ _
    cases h' with
    | always => exact ⟨rfl, rfl⟩
    | comparison h' => exact absurd heq.symm (h'.ne_cons rfl _ _)
    | parentheses _ => simp at heq
  | comparison h =>
    intro ts' r' rest rest' h' heq hrest hrest'
    cases h' with
    | comparison h' =>
      obtain ⟨rfl, rfl⟩ := h.unique h' heq hrest hrest'
      exact ⟨rfl, rfl⟩
    | _ => exact absurd heq (h.ne_cons rfl _ _)
  | parentheses inner ih =>
    intro ts' r' rest rest' h' heq _ _
    cases h' with
    | always => simp at heq
    -- A comparison begins with a term, and a parenthesis begins none.
    | comparison h' => exact absurd heq.symm (h'.ne_cons rfl _ _)
    | parentheses inner' =>
      simp only [List.cons_append, List.append_assoc, List.cons.injEq, true_and] at heq
      obtain ⟨rfl, rfl⟩ := ih inner' heq (Level.ends_parenthesis _ _) (Level.ends_parenthesis _ _)
      exact ⟨rfl, rfl⟩
  | plain inner ih =>
    intro ts' r' rest rest' h' heq hrest hrest'
    cases h' with
    | plain inner' => exact ih inner' heq hrest hrest'
    | not inner' => exact absurd heq (inner.ne_not _ _)
  | not inner ih =>
    intro ts' r' rest rest' h' heq hrest hrest'
    cases h' with
    | plain inner' => exact absurd heq.symm (inner'.ne_not _ _)
    | not inner' =>
      obtain ⟨rfl, rfl⟩ := ih inner' (List.cons.inj heq).2 hrest hrest'
      exact ⟨rfl, rfl⟩
  | chain junction parts ne inner ih =>
    intro ts' r' rest rest' h' heq hrest hrest'
    cases h' with
    | chain _ parts' ne' inner' =>
      -- The other chain has the same connective, because the level names it.
      obtain rfl := parts_unique hrest hrest' parts parts' ne ne' ih inner' heq
      exact ⟨rfl, rfl⟩

/-- A text has at most one reading. -/
theorem IsReading.unique {text : String} {r r' : Reading} (h : IsReading text r)
    (h' : IsReading text r') : r = r' := by
  have hends : (Level.chain .disjunction).Ends [] := by simp [Level.Ends, NoIndex]
  exact (Reads.unique h h' rfl hends hends).2

end TenantSearch.Cypher
