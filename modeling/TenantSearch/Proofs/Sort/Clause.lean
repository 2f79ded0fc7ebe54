import TenantSearch.Proofs.Cypher.Use
import TenantSearch.Proofs.Filter.Names
import TenantSearch.Proofs.Outcome
import TenantSearch.Sort.Joined

/-!
# `TenantSearch.Proofs.Sort.Clause`: what an order refers to

A key of an order reads a property of a node. What stands in for a missing value is a text of
the tables, so a condition on these texts is needed: a `Constant` ends by itself and refers to
nothing. The sources of an order are `Sound` when their nodes are names and their defaults are
constants.

* `Order.sound_of_compile?`, `Order.sound_of_compileJoined?`: which keys an order has.
* `Order.clause_tokens`: the tokens of the clause of an order.
* `Order.mem_uses`, `Order.parameter_not_mem`: the clause reads properties of the nodes of its
  keys, and has no parameters.
-/

set_option autoImplicit false

namespace TenantSearch.Sort

open TenantSearch.Cypher

/-! ### Keys -/

/-- A text that is read on its own and refers to nothing. -/
structure Constant (text : String) : Prop where
  delimited : Delimited text (tokens text)
  uses : ∀ u : Use, ¬ u.In (tokens text)
  parameters : ∀ x, .parameter x ∉ tokens text
  colon : .symbol ':' ∉ tokens text

namespace Key

/-- What the key sorts by, where it is not missing. -/
def subject (k : Key) (node : String) : Term :=
  if k.lowercase then .lower (.property (k.node.getD node) k.property.physical)
  else .property (k.node.getD node) k.property.physical

/-- What the key sorts by. -/
def totalTokens (k : Key) (node : String) : List Token :=
  match k.nullDefault with
  | some d =>
    .name "coalesce" :: .symbol '(' :: (k.subject node).tokens
      ++ .symbol ',' :: (tokens d ++ [.symbol ')'])
  | none => (k.subject node).tokens

/-- The tokens of the key. -/
def tokens (k : Key) (node : String) : List Token :=
  k.totalTokens node ++ [.keyword k.direction.word]

/-- Whether the names in the key are names, and its default is a constant. -/
structure Sound (k : Key) (node : String) : Prop where
  node : IsName (k.node.getD node)
  property : IsName k.property.physical
  nullDefault : ∀ d ∈ k.nullDefault, Constant d

variable {k : Key} {node : String}

/-- The text of a key is its subject, wrapped where a default stands in, and its direction. -/
theorem text_eq (k : Key) (node : String) :
    k.text node =
      (match k.nullDefault with
        | some d => "coalesce(" ++ (k.subject node).text ++ ", " ++ d ++ ")"
        | none => (k.subject node).text) ++ " " ++ k.direction.word := by
  unfold text subject
  cases k.lowercase <;> rfl

/-- The subject of a sound key is spelled by its tokens, as both of its names are names. -/
theorem Sound.spelled_subject (h : k.Sound node) :
    Spelled (k.subject node).text (k.subject node).tokens := by
  apply Term.spelled
  unfold subject
  split <;> exact ⟨h.node, h.property⟩

/-- A sound key is spelled by its tokens. The default is a text that is not looked into: as a
constant it ends by itself, so it runs into none of its neighbours. -/
theorem Sound.spelled (h : k.Sound node) : Spelled (k.text node) (k.tokens node) := by
  have hword : Spelled (" " ++ k.direction.word) [.keyword k.direction.word] := by
    cases k.direction
    · exact spelled_of_run [] (.word "ASC".toList) fun _ => rfl
    · exact spelled_of_run [] (.word "DESC".toList) fun _ => rfl
  have hsep : Separated (" " ++ k.direction.word) := separated_append (by decide) _
  rw [text_eq, String.append_assoc, tokens, totalTokens]
  cases hdefault : k.nullDefault with
  | none => exact h.spelled_subject.append hword hsep
  | some d =>
    -- The call is put together from the left, and the direction comes behind it.
    have hopening : Delimited "coalesce(" [.name "coalesce", .symbol '('] := fun _ => rfl
    have hcomma : Delimited ", " [.symbol ','] := fun _ => rfl
    have hclosing : Delimited ")" [.symbol ')'] := fun _ => rfl
    have hsubject := (hopening.append_spelled h.spelled_subject).append_delimited hcomma (by decide)
    have hcall := (hsubject.append (h.nullDefault d hdefault).delimited).append hclosing
    have hkey := hcall.spelled.append hword hsep
    simpa using hkey

/-- The subject reads a property of the node of the key, folded or not. -/
theorem mem_uses_subject {u : Use} (h : u.In (k.subject node).tokens) :
    u = .property (k.node.getD node) := by
  have huses := Term.mem_uses h
  unfold subject at huses
  split at huses <;> simpa [Term.uses] using huses

/-- A key reads the property and does nothing else with names. The word for the direction belongs to
no use, and neither does a default. -/
theorem Sound.mem_uses (hsound : k.Sound node) {u : Use} (h : u.In (k.tokens node)) :
    u = .property (k.node.getD node) := by
  have hword : (Token.keyword k.direction.word).opens = false := by
    cases k.direction <;> rfl
  have htotal : u.In (k.totalTokens node) := Use.in_concat hword rfl h
  unfold totalTokens at htotal
  cases hdefault : k.nullDefault with
  | none =>
    rw [hdefault] at htotal
    exact mem_uses_subject htotal
  | some d =>
    rw [hdefault] at htotal
    rcases Use.in_append rfl htotal with hsubject | hd
    · -- The name of the function is none that a use begins with.
      rcases List.infix_cons_iff.1 hsubject with hbegin | hrest
      · cases u <;> simp [Use.tokens] at hbegin
      · exact mem_uses_subject (Use.in_cons rfl hrest)
    · have hin := Use.in_concat rfl rfl (Use.in_cons rfl hd)
      exact absurd hin ((hsound.nullDefault d hdefault).uses u)

/-- A key introduces no node. -/
theorem Sound.colon_not_mem (hsound : k.Sound node) : .symbol ':' ∉ k.tokens node := by
  have hsubject := (k.subject node).colon_not_mem
  rw [tokens, totalTokens]
  cases hdefault : k.nullDefault with
  | none => simp [hsubject]
  | some d =>
    -- The default is a constant, and the call around it has no colon.
    have hd := (hsound.nullDefault d hdefault).colon
    simp [hsubject, hd]

/-- A key has no parameters. All that it says comes from the tables and the rules. So the parameters
of a statement are those of its condition, its tenant and its page. -/
theorem Sound.parameter_not_mem (hsound : k.Sound node) (x : String) :
    .parameter x ∉ k.tokens node := by
  have hsubject : .parameter x ∉ (k.subject node).tokens := by
    rw [Term.mem_parameters]
    unfold subject
    split <;> simp [Term.parameters]
  rw [tokens, totalTokens]
  cases hdefault : k.nullDefault with
  | none => simp [hsubject]
  | some d =>
    have hd := (hsound.nullDefault d hdefault).parameters x
    simp [hsubject, hd]

end Key

/-! ### Clauses -/

namespace Order

/-- The tokens of the clause of an order. -/
def tokens (o : Order) (node : String) : List Token :=
  if o.keys.isEmpty then []
  else
    .keyword "ORDER" :: .keyword "BY" ::
      [.symbol ','].intercalate (o.keys.map fun k => k.tokens node)

variable {o : Order} {node : String}

/-- The clause of an order is spelled by its tokens, from the separating blank to the direction of
the last key. -/
theorem clause_tokens (h : ∀ k ∈ o.keys, k.Sound node) :
    Clause (o.clause node) (o.tokens node) := by
  unfold clause tokens
  -- An order without keys has no clause.
  by_cases hempty : o.keys.isEmpty = true
  · rw [if_pos hempty, if_pos hempty]
    exact .inl ⟨rfl, rfl⟩
  · rw [if_neg hempty, if_neg hempty]
    have hopening : Delimited " ORDER BY " [.keyword "ORDER", .keyword "BY"] := fun _ => rfl
    have hcomma : Delimited ", " [.symbol ','] := fun _ => rfl
    have hkeys : List.Forall₂ Spelled (o.keys.map fun k => k.text node)
        (o.keys.map fun k => k.tokens node) := by
      rw [List.forall₂_map_left_iff, List.forall₂_map_right_iff, List.forall₂_same]
      exact fun k hk => (h k hk).spelled
    have hall := spelled_intercalate hcomma (by decide) hkeys (by simpa using hempty)
    exact .inr ⟨separated_append (by decide) _, hopening.append_spelled hall⟩

/-- What an order uses, one of its keys does. -/
theorem mem_uses (hsound : ∀ k ∈ o.keys, k.Sound node) {u : Use} (h : u.In (o.tokens node)) :
    ∃ k ∈ o.keys, u = .property (k.node.getD node) := by
  unfold tokens at h
  split at h
  · exact absurd h u.not_in_nil
  -- No use runs over a comma.
  · obtain ⟨ts, hts, hu⟩ := Use.in_intercalate rfl rfl (Use.in_cons rfl (Use.in_cons rfl h))
    obtain ⟨k, hk, rfl⟩ := List.mem_map.1 hts
    exact ⟨k, hk, (hsound k hk).mem_uses hu⟩

/-- What is no part of the clause itself and no token of a key does not occur. Parameters and colons
are both ruled out by this. -/
theorem not_mem_tokens {s : Token} (hkeyword : ∀ word, s ≠ .keyword word)
    (hcomma : s ≠ .symbol ',') (h : ∀ k ∈ o.keys, s ∉ k.tokens node) :
    s ∉ o.tokens node := by
  unfold tokens
  split
  · simp
  · intro hmem
    have hkeys : s ∈ [.symbol ','].intercalate (o.keys.map fun k => k.tokens node) := by
      simpa [hkeyword] using hmem
    obtain ⟨ts, hts, hs⟩ := (mem_intercalate hcomma).1 hkeys
    obtain ⟨k, hk, rfl⟩ := List.mem_map.1 hts
    exact h k hk hs

/-- An order has no parameters. -/
theorem parameter_not_mem (hsound : ∀ k ∈ o.keys, k.Sound node) (x : String) :
    .parameter x ∉ o.tokens node :=
  not_mem_tokens (by simp) (by simp) fun k hk => (hsound k hk).parameter_not_mem x

/-- An order introduces no node. -/
theorem colon_not_mem (hsound : ∀ k ∈ o.keys, k.Sound node) : .symbol ':' ∉ o.tokens node :=
  not_mem_tokens (by simp) (by simp) fun k hk => (hsound k hk).colon_not_mem

end Order

/-! ### Orders of rules -/

/-- A key of a single entity has a property of the table, and neither a node nor a default of its
own. -/
theorem Rule.ok_of_key {r : Rule} {entity : Entity} {logical : String} {k : Key}
    (h : r.key entity logical = .ok k) :
    k.property ∈ entity.properties ∧ k.node = none ∧ k.nullDefault = none := by
  obtain ⟨p, hp, h⟩ := ok_of_bind h
  cases h
  exact ⟨(Entity.logical_of_property? (Filter.ok_of_resolve hp)).2, rfl, rfl⟩

/-- Each key of an order for one entity sorts the node of the order by a property of the
entity. -/
theorem Order.sound_of_compile? {entity : Entity} {rules : List Rule} {o : Order} {node : String}
    (hnode : IsName node) (h : Order.compile? entity rules = .ok o) :
    ∀ k ∈ o.keys, k.Sound node ∧ k.node = none := by
  obtain ⟨keys, hkeys, h⟩ := ok_of_bind h
  cases h
  intro k hk
  obtain ⟨r, -, hr⟩ := ok_of_mapM hkeys k hk
  obtain ⟨hproperty, hown, hdefault⟩ := Rule.ok_of_key hr
  refine ⟨⟨?_, Filter.isName_physical hproperty, ?_⟩, hown⟩
  · rwa [hown, Option.getD_none]
  · simp [hdefault]

/-- A name selects one of the sources, so what is known of all sources holds of the selected one.
The selection goes through the sources that fit, and keeps the one with the longest prefix. -/
theorem mem_of_select? {sources : List Source} {name : String} {found : Source × String}
    (h : select? sources name = some found) : found.1 ∈ sources := by
  have hfitting : ∀ s ∈ sources.filterMap (fun s => (s.rest? name).map (s, ·)), s.1 ∈ sources := by
    intro s hs
    obtain ⟨t, ht, hrest⟩ := List.mem_filterMap.1 hs
    obtain ⟨rest, -, rfl⟩ := Option.map_eq_some_iff.1 hrest
    exact ht
  -- With sources that fit, the first of them starts the fold.
  simp only [select?] at h
  split at h
  · cases h
  · rename_i first rest heq
    rw [heq] at hfitting
    cases h
    -- The choice between two sources is one of them, so the fold stays among the sources.
    refine List.foldlRecOn (motive := fun s => s.1 ∈ sources) rest Source.longer
      (hfitting first List.mem_cons_self) ?_
    intro earlier hearlier later hlater
    unfold Source.longer
    split
    · exact hfitting later (List.mem_cons_of_mem _ hlater)
    · exact hearlier

/-- A default that counts was given by one of the sources, which need not be the selected one. -/
theorem mem_of_default? {sources : List Source} {node logical : String} {d : NullDefault}
    (h : default? sources node logical = some d) : ∃ s ∈ sources, d ∈ s.defaults := by
  unfold default? at h
  obtain ⟨found, hfound, rfl⟩ := Option.map_eq_some_iff.1 h
  have hmem := List.mem_of_find?_eq_some hfound
  rw [List.mem_reverse, List.mem_flatMap] at hmem
  obtain ⟨s, hs, hdefaults⟩ := hmem
  obtain ⟨e, he, rfl⟩ := List.mem_map.1 hdefaults
  exact ⟨s, hs, he⟩

/-- Whether the node of the source is a name, and its defaults are constants. -/
structure Source.Sound (s : Source) : Prop where
  node : IsName s.node
  defaults : ∀ d ∈ s.defaults, ∀ direction, Constant (d.toward direction)

/-- Each key of an order over several sources sorts the node of one of them. A statement is closed
only if that node has been introduced, so it has to be known which nodes can occur. -/
theorem Order.sound_of_compileJoined? {sources : List Source} {rules : List Rule} {o : Order}
    (node : String) (hsound : ∀ s ∈ sources, s.Sound)
    (h : Order.compileJoined? sources rules = .ok o) :
    ∀ k ∈ o.keys, k.Sound node ∧ ∃ s ∈ sources, k.node = some s.node := by
  obtain ⟨keys, hkeys, h⟩ := ok_of_bind h
  cases h
  intro k hk
  obtain ⟨r, -, hr⟩ := ok_of_mapM hkeys k hk
  unfold Rule.joinedKey at hr
  split at hr
  · cases hr
  · rename_i source logical hselect
    have hsource : source ∈ sources := mem_of_select? hselect
    obtain ⟨own, hown, hr⟩ := ok_of_bind hr
    cases hr
    -- The node is the selected source's, the property its entity's, and the default may be another
    -- source's.
    refine ⟨⟨(hsound source hsource).node, ?_, ?_⟩, source, hsource, rfl⟩
    · exact Filter.isName_physical (Rule.ok_of_key hown).1
    · intro d hd
      obtain ⟨n, hn, rfl⟩ := Option.map_eq_some_iff.1 hd
      obtain ⟨s, hs, hmem⟩ := mem_of_default? hn
      exact (hsound s hs).defaults n hmem r.direction

end TenantSearch.Sort
