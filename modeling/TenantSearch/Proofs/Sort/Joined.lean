import Mathlib.Data.List.Induction
import TenantSearch.Proofs.Outcome
import TenantSearch.Sort.Joined

/-!
# `TenantSearch.Proofs.Sort.Joined`: what a rule over several sources becomes

The stems of the sources may be empty, they may be equal, and one may begin another. So several
sources can fit a name, and several defaults can be given for one property of a node. The
program chooses by a fold and by a search from the end. Here the choices are described by the
lists alone.

* `select?_eq_some_iff`: a name selects the source with the longest stem, and the last of these.
* `default?_eq_some_iff`: the last default that is given for a property of a node counts.
* `Rule.joinedKey_eq_ok_iff`, `Rule.joinedKey_eq_error_iff`: which key a rule becomes, and with
  which error it fails.
* `Order.compileJoined?_resolved`: the order has one key for each rule, or it fails with the
  error of the first rule that fails. Its clause lists the keys, each with its own node.
-/

set_option autoImplicit false

namespace TenantSearch.Text

/-- A text begins with `start` exactly when it is `start` and what follows. So what follows is
settled by the text and its beginning. -/
theorem after?_eq_some_iff {start s rest : String} :
    after? start s = some rest ↔ s = start ++ rest := by
  unfold after?
  rw [Option.map_eq_some_iff]
  constructor
  · rintro ⟨chars, hchars, rfl⟩
    rw [List.isPrefixOf?_eq_some_iff_append_eq] at hchars
    rw [← String.toList_inj, String.toList_append, String.toList_ofList, hchars]
  · rintro rfl
    refine ⟨rest.toList, ?_, String.ofList_toList⟩
    rw [List.isPrefixOf?_eq_some_iff_append_eq, String.toList_append]

end TenantSearch.Text

namespace TenantSearch.Sort

variable {sources : List Source}

/-! ### The source of a name -/

/-- Whether the name begins with the stem of the source and an underscore. -/
def Source.Fits (s : Source) (name : String) : Prop := ∃ rest, name = s.stem ++ "_" ++ rest

/-- Whether the name selects the source and leaves the rest: no source that fits has a longer
stem, and none behind it has one as long. -/
structure Selects (sources : List Source) (name : String) (s : Source) (rest : String) : Prop where
  name_eq : name = s.stem ++ "_" ++ rest
  last_longest : ∃ before after, sources = before ++ s :: after ∧
    (∀ t ∈ before, t.Fits name → t.stem.length ≤ s.stem.length) ∧
    ∀ t ∈ after, t.Fits name → t.stem.length < s.stem.length

/-- A name has a rest exactly when it begins with the stem and an underscore. The rest may be empty,
and it may have further underscores. -/
theorem Source.rest?_eq_some_iff (s : Source) (name rest : String) :
    s.rest? name = some rest ↔ name = s.stem ++ "_" ++ rest :=
  Text.after?_eq_some_iff

/-- A name has no rest exactly when the source does not fit it. -/
theorem Source.rest?_eq_none_iff (s : Source) (name : String) :
    s.rest? name = none ↔ ¬ s.Fits name := by
  unfold Fits
  simp only [← rest?_eq_some_iff, ← Option.ne_none_iff_exists', ne_eq, not_not]

/-- The choice among the sources, with one more source behind them. The fold looks at the sources
from the first to the last, so the proofs add them at the end. -/
theorem select?_concat (sources : List Source) (t : Source) (name : String) :
    select? (sources ++ [t]) name =
      match t.rest? name, select? sources name with
      | none, chosen => chosen
      | some rest, none => some (t, rest)
      | some rest, some chosen => some (Source.longer chosen (t, rest)) := by
  unfold select?
  rw [List.filterMap_append]
  generalize sources.filterMap (fun s => (s.rest? name).map (s, ·)) = fitting
  cases hrest : t.rest? name with
  | none => simp [hrest]
  | some rest =>
    cases fitting with
    | nil => simp [hrest]
    | cons first others => simp [hrest, List.foldl_append]

/-- A name selects no source exactly when none fits. -/
theorem select?_eq_none_iff (sources : List Source) (name : String) :
    select? sources name = none ↔ ∀ s ∈ sources, ¬ s.Fits name := by
  induction sources using List.reverseRecOn with
  | nil => simp [select?]
  | append_singleton sources t ih =>
    rw [select?_concat, List.forall_mem_append, ← ih, List.forall_mem_singleton,
      ← t.rest?_eq_none_iff name]
    cases t.rest? name <;> cases select? sources name <;> simp

/-- A source behind all others is selected if none that fits has a longer stem. -/
theorem Selects.last {t : Source} {name rest : String} (hname : name = t.stem ++ "_" ++ rest)
    (h : ∀ s ∈ sources, s.Fits name → s.stem.length ≤ t.stem.length) :
    Selects (sources ++ [t]) name t rest where
  name_eq := hname
  last_longest := ⟨sources, [], rfl, h, by simp⟩

/-- A source stays selected if the one behind all others does not fit or has a shorter stem. -/
theorem Selects.concat {s t : Source} {name rest : String} (h : Selects sources name s rest)
    (ht : t.Fits name → t.stem.length < s.stem.length) :
    Selects (sources ++ [t]) name s rest where
  name_eq := h.name_eq
  last_longest := by
    obtain ⟨before, after, rfl, hbefore, hafter⟩ := h.last_longest
    refine ⟨before, after ++ [t], by simp, hbefore, ?_⟩
    rw [List.forall_mem_append, List.forall_mem_singleton]
    exact ⟨hafter, ht⟩

/-- The stem of the selected source is the longest of those that fit. -/
theorem Selects.length_le {s t : Source} {name rest : String} (h : Selects sources name s rest)
    (ht : t ∈ sources) (hfits : t.Fits name) : t.stem.length ≤ s.stem.length := by
  obtain ⟨before, after, rfl, hbefore, hafter⟩ := h.last_longest
  rcases List.mem_append.1 ht with hmem | hmem
  · exact hbefore t hmem hfits
  · rcases List.mem_cons.1 hmem with rfl | hmem
    · exact Nat.le_refl _
    · exact Nat.le_of_lt (hafter t hmem hfits)

/-- What the fold chooses is the last of the sources with the longest stem. A new source takes the
place of the choice unless that has a longer stem, and of two as long ones the later remains. -/
theorem selects_of_select? {s : Source} {name rest : String}
    (h : select? sources name = some (s, rest)) : Selects sources name s rest := by
  induction sources using List.reverseRecOn generalizing s rest with
  | nil => simp [select?] at h
  | append_singleton sources t ih =>
    rw [select?_concat] at h
    cases hrest : t.rest? name with
    | none =>
      -- A source that does not fit changes nothing.
      rw [hrest] at h
      exact (ih h).concat fun hfits => absurd hfits ((t.rest?_eq_none_iff name).1 hrest)
    | some own =>
      have hown := (t.rest?_eq_some_iff name own).1 hrest
      -- The new source fits, so it is compared with what was chosen before it.
      cases hselect : select? sources name with
      | none =>
        rw [hrest, hselect] at h
        cases h
        refine Selects.last hown fun u hu hfits => ?_
        exact absurd hfits ((select?_eq_none_iff sources name).1 hselect u hu)
      | some chosen =>
        obtain ⟨best, left⟩ := chosen
        have hbest := ih hselect
        rw [hrest, hselect] at h
        simp only [Source.longer, Option.some.injEq] at h
        split at h
        · rename_i hle
          cases h
          exact Selects.last hown fun u hu hfits => Nat.le_trans (hbest.length_le hu hfits) hle
        · rename_i hlt
          cases h
          exact hbest.concat fun _ => Nat.lt_of_not_le hlt

/-- A name selects one source at most. Of sources with prefixes of the same length the last one
counts, which leaves one. -/
theorem Selects.unique {s s' : Source} {name rest rest' : String}
    (h : Selects sources name s rest) (h' : Selects sources name s' rest') :
    s = s' ∧ rest = rest' := by
  have hsource : s = s' := by
    obtain ⟨before, after, hsplit, hbefore, hafter⟩ := h.last_longest
    obtain ⟨before', after', hsplit', hbefore', hafter'⟩ := h'.last_longest
    -- One of the two would stand before the other, and have a stem both longer and not longer.
    rcases List.append_eq_append_iff.1 (hsplit.symm.trans hsplit') with
      ⟨between, rfl, htail⟩ | ⟨between, rfl, htail⟩
    · cases between with
      | nil => exact (List.cons.inj htail).1
      | cons u between =>
        obtain ⟨rfl, rfl⟩ := List.cons.inj htail
        have hle := hbefore' s (by simp) ⟨rest, h.name_eq⟩
        have hlt := hafter s' (by simp) ⟨rest', h'.name_eq⟩
        omega
    · cases between with
      | nil => exact (List.cons.inj htail).1.symm
      | cons u between =>
        obtain ⟨rfl, rfl⟩ := List.cons.inj htail
        have hle := hbefore s' (by simp) ⟨rest', h'.name_eq⟩
        have hlt := hafter' s (by simp) ⟨rest, h.name_eq⟩
        omega
  subst hsource
  have hrest := (s.rest?_eq_some_iff name rest).2 h.name_eq
  have hrest' := (s.rest?_eq_some_iff name rest').2 h'.name_eq
  exact ⟨rfl, Option.some.inj (hrest.symm.trans hrest')⟩

/-- A name selects the source with the longest stem, and the last of these. The other direction
follows from uniqueness: some source fits, so the fold chooses one. -/
theorem select?_eq_some_iff (sources : List Source) (name : String) (s : Source)
    (rest : String) : select? sources name = some (s, rest) ↔ Selects sources name s rest := by
  refine ⟨selects_of_select?, fun h => ?_⟩
  cases hselect : select? sources name with
  | none =>
    -- The fold chooses nothing only if no source fits, and this one does.
    obtain ⟨before, after, rfl, -⟩ := h.last_longest
    have hnone := (select?_eq_none_iff _ name).1 hselect s (by simp)
    exact absurd ⟨rest, h.name_eq⟩ hnone
  | some chosen =>
    obtain ⟨other, left⟩ := chosen
    obtain ⟨rfl, rfl⟩ := (selects_of_select? hselect).unique h
    rfl

/-! ### The default of a property -/

/-- The defaults of all sources in order, each with the node that it is for. -/
def givenDefaults (sources : List Source) : List (String × NullDefault) :=
  sources.flatMap fun s => s.defaults.map (s.node, ·)

/-- Whether the default is the last one given for the property of the node. -/
def LastDefault (sources : List Source) (node logical : String) (d : NullDefault) : Prop :=
  d.property = logical ∧ ∃ before after, givenDefaults sources = before ++ (node, d) :: after ∧
    ∀ e ∈ after, ¬ (e.1 = node ∧ e.2.property = logical)

/-- The last default that is given for a property of a node counts. The program looks for the first
one from the end, so the two lists are turned around. -/
theorem default?_eq_some_iff (sources : List Source) (node logical : String) (d : NullDefault) :
    default? sources node logical = some d ↔ LastDefault sources node logical d := by
  unfold default? LastDefault
  rw [show (sources.flatMap fun s => s.defaults.map (s.node, ·)) = givenDefaults sources from rfl,
    Option.map_eq_some_iff]
  simp only [List.find?_eq_some_iff_append, Bool.not_eq_true', Bool.eq_false_iff, ne_eq,
    Bool.and_eq_true, decide_eq_true_eq]
  -- What comes earlier from the end comes later from the start.
  constructor
  · rintro ⟨⟨node', d'⟩, ⟨⟨hnode, hlogical⟩, later, earlier, hreverse, hlater⟩, rfl⟩
    obtain rfl : node' = node := hnode
    refine ⟨hlogical, earlier.reverse, later.reverse, ?_, ?_⟩
    · rw [List.reverse_eq_append_iff] at hreverse
      simpa using hreverse
    · simpa using hlater
  · rintro ⟨hlogical, before, after, hsplit, hafter⟩
    refine ⟨(node, d), ⟨⟨rfl, hlogical⟩, after.reverse, before.reverse, ?_, ?_⟩, rfl⟩
    · rw [hsplit]
      simp
    · simpa using hafter

/-- There is no default exactly when no source of the node gives one for the property. Defaults of
another node do not count, even for a property of the same name. -/
theorem default?_eq_none_iff (sources : List Source) (node logical : String) :
    default? sources node logical = none ↔
      ∀ s ∈ sources, s.node = node → ∀ d ∈ s.defaults, d.property ≠ logical := by
  unfold default?
  simp only [Option.map_eq_none_iff, List.find?_eq_none, List.mem_reverse, List.mem_flatMap,
    List.mem_map, Bool.and_eq_true, decide_eq_true_eq]
  constructor
  · rintro h s hs rfl d hd hlogical
    exact h (s.node, d) ⟨s, hs, d, hd, rfl⟩ ⟨rfl, hlogical⟩
  · rintro h _ ⟨s, hs, d, hd, rfl⟩ ⟨hnode, hlogical⟩
    exact h s hs hnode d hd hlogical

/-! ### The key of a rule -/

/-- What a rule that selects the source becomes. The rest of the name is a property of that
source, and no other source is looked at. -/
structure Rule.Becomes (r : Rule) (sources : List Source) (s : Source) (k : Key) : Prop where
  selects : Selects sources r.property s k.property.logical
  property : k.property ∈ s.entity.properties
  node : k.node = some s.node
  direction : k.direction = r.direction
  lowercase : k.lowercase = true ↔ r.caseSensitive ≠ some true ∧ k.property.isText = true
  /-- The last default for the property of the node, from whatever source it comes. -/
  nullDefault :
    (∃ d, LastDefault sources s.node k.property.logical d ∧
      k.nullDefault = some (d.toward r.direction)) ∨
    ((∀ t ∈ sources, t.node = s.node → ∀ d ∈ t.defaults, d.property ≠ k.property.logical) ∧
      k.nullDefault = none)

/-- How a rule fails. -/
inductive Rule.Fails (r : Rule) (sources : List Source) : CompileError → Prop where
  /-- No source fits. -/
  | nowhere (h : ∀ s ∈ sources, ¬ s.Fits r.property) :
      Fails r sources (.unknownProperty "sort" r.property)
  /-- The selected source has no property of this name. -/
  | unknown {s : Source} {rest : String} (selects : Selects sources r.property s rest)
      (h : ∀ p ∈ s.entity.properties, p.logical ≠ rest) :
      Fails r sources (.unknownProperty s.entity.label rest)

/-- The key of a rule for a property of a source. -/
def Rule.keyOf (r : Rule) (sources : List Source) (s : Source) (p : Property)
    (logical : String) : Key where
  node := some s.node
  property := p
  direction := r.direction
  lowercase := !r.caseSensitive.getD false && p.isText
  nullDefault := (default? sources s.node logical).map (·.toward r.direction)

section

variable {r : Rule} {s : Source} {logical : String}

/-- A rule that selects a source becomes a key when that source has the property, and fails with the
label of its entity when not. -/
theorem Rule.joinedKey_of_select? (h : select? sources r.property = some (s, logical)) :
    r.joinedKey sources =
      match s.entity.property? logical with
      | some p => .ok (r.keyOf sources s p logical)
      | none => .error (.unknownProperty s.entity.label logical) := by
  unfold joinedKey
  rw [h]
  simp only [Rule.key, Entity.resolve]
  cases s.entity.property? logical <;> rfl

/-- A rule that selects no source fails with its whole name, as there is no entity to blame. -/
theorem Rule.joinedKey_of_nowhere (h : select? sources r.property = none) :
    r.joinedKey sources = .error (.unknownProperty "sort" r.property) := by
  unfold joinedKey
  rw [h]

/-- A rule that does not say that case matters leaves it to the property. -/
theorem Rule.lowercase_iff (r : Rule) (p : Property) :
    (!r.caseSensitive.getD false && p.isText) = true ↔
      r.caseSensitive ≠ some true ∧ p.isText = true := by
  cases r.caseSensitive with
  | none => simp
  | some sensitive => cases sensitive <;> simp

/-- The key of a rule is what the rule becomes. Its property is found under the rest of the name, in
the selected source. -/
theorem Rule.becomes_keyOf {p : Property} (hselect : select? sources r.property = some (s, logical))
    (hproperty : s.entity.property? logical = some p) :
    r.Becomes sources s (r.keyOf sources s p logical) := by
  obtain ⟨rfl, hmem⟩ := Entity.logical_of_property? hproperty
  exact
    { selects := selects_of_select? hselect
      property := hmem
      node := rfl
      direction := rfl
      lowercase := r.lowercase_iff p
      nullDefault := by
        cases hdefault : default? sources s.node p.logical with
        | some d =>
          left
          refine ⟨d, (default?_eq_some_iff ..).1 hdefault, ?_⟩
          rw [keyOf, hdefault]
          rfl
        | none =>
          right
          refine ⟨(default?_eq_none_iff ..).1 hdefault, ?_⟩
          rw [keyOf, hdefault]
          rfl }

/-- What a rule becomes is determined: each field of the key is fixed by the rule and the sources.
-/
theorem Rule.Becomes.eq_keyOf {k : Key} (h : r.Becomes sources s k) :
    k = r.keyOf sources s k.property k.property.logical := by
  have hlowercase : k.lowercase = (!r.caseSensitive.getD false && k.property.isText) := by
    rw [Bool.eq_iff_iff, r.lowercase_iff]
    exact h.lowercase
  have hnullDefault : k.nullDefault =
      (default? sources s.node k.property.logical).map (·.toward r.direction) := by
    rcases h.nullDefault with ⟨d, hd, hnull⟩ | ⟨hnone, hnull⟩
    · rw [(default?_eq_some_iff ..).2 hd, hnull]
      rfl
    · rw [(default?_eq_none_iff ..).2 hnone, hnull]
      rfl
  -- The other fields are given outright.
  obtain ⟨node, property, direction, lowercase, nullDefault⟩ := k
  obtain rfl : node = some s.node := h.node
  obtain rfl : direction = r.direction := h.direction
  rw [keyOf, ← hlowercase, ← hnullDefault]

end

/-- A rule becomes exactly one key, or none. The relation on the right says which key, and it does
not follow the search of the program. -/
theorem Rule.joinedKey_eq_ok_iff (r : Rule) (sources : List Source) (k : Key) :
    r.joinedKey sources = .ok k ↔ ∃ s, r.Becomes sources s k := by
  constructor
  · intro h
    cases hselect : select? sources r.property with
    | none =>
      rw [joinedKey_of_nowhere hselect] at h
      cases h
    | some chosen =>
      -- The source is settled by the name, and the property by the source.
      obtain ⟨s, logical⟩ := chosen
      rw [joinedKey_of_select? hselect] at h
      split at h
      · rename_i p hp
        cases h
        exact ⟨s, becomes_keyOf hselect hp⟩
      · cases h
  · rintro ⟨s, h⟩
    rw [joinedKey_of_select? ((select?_eq_some_iff ..).2 h.selects),
      Entity.property?_logical h.property]
    exact congrArg Except.ok h.eq_keyOf.symm

/-- A rule fails in two ways, and each has an error of its own. That another source has the property
does not help the one that is selected. -/
theorem Rule.joinedKey_eq_error_iff (r : Rule) (sources : List Source) (e : CompileError) :
    r.joinedKey sources = .error e ↔ r.Fails sources e := by
  have hunknown : ∀ (s : Source) (rest : String), s.entity.property? rest = none ↔
      ∀ p ∈ s.entity.properties, p.logical ≠ rest := by
    intro s rest
    unfold Entity.property?
    simp
  constructor
  · intro h
    cases hselect : select? sources r.property with
    | none =>
      rw [joinedKey_of_nowhere hselect] at h
      cases h
      exact .nowhere ((select?_eq_none_iff ..).1 hselect)
    | some chosen =>
      obtain ⟨s, logical⟩ := chosen
      rw [joinedKey_of_select? hselect] at h
      split at h
      · cases h
      · rename_i hnone
        cases h
        exact .unknown (selects_of_select? hselect) ((hunknown ..).1 hnone)
  · intro h
    cases h with
    | nowhere h => exact joinedKey_of_nowhere ((select?_eq_none_iff ..).2 h)
    | unknown selects h =>
      rw [joinedKey_of_select? ((select?_eq_some_iff ..).2 selects), (hunknown ..).2 h]

/-! ### The order of several rules -/

/-- The line of a key for a node: its property, in lower case or as it is, with what stands in
for a missing value, and the direction. -/
def Key.line (k : Key) (node : String) : String :=
  let read := node ++ "." ++ k.property.physical
  let folded := if k.lowercase then "toLower(" ++ read ++ ")" else read
  k.nullDefault.elim folded (fun d => "coalesce(" ++ folded ++ ", " ++ d ++ ")")
    ++ (if k.direction = .ascending then " ASC" else " DESC")

/-- A key with a node of its own is written for that node, whatever the node of the order. -/
theorem Key.text_of_node {k : Key} {own : String} (h : k.node = some own) (outer : String) :
    k.text outer = k.line own := by
  obtain ⟨node, property, direction, lowercase, nullDefault⟩ := k
  obtain rfl : node = some own := h
  unfold text line
  cases direction <;> cases nullDefault <;> simp [Direction.word, String.append_assoc]

/-- The rules are compiled one after the other, and nothing is done with the keys but to keep them.
-/
theorem Order.compileJoined?_eq (sources : List Source) (rules : List Rule) :
    Order.compileJoined? sources rules =
      (rules.mapM fun r : Rule => r.joinedKey sources).map fun keys => { keys } := by
  unfold compileJoined?
  cases rules.mapM fun r : Rule => r.joinedKey sources <;> rfl

/-- An order has one key for each rule, in the order of the rules. One rule without a key fails the
whole order. -/
theorem Order.compileJoined?_eq_ok_iff (sources : List Source) (rules : List Rule) (o : Order) :
    Order.compileJoined? sources rules = .ok o ↔
      List.Forall₂ (fun r k => ∃ s, Rule.Becomes r sources s k) rules o.keys := by
  simp only [← Rule.joinedKey_eq_ok_iff]
  rw [compileJoined?_eq, ← mapM_eq_ok_iff]
  constructor
  · intro h
    obtain ⟨keys, hkeys, rfl⟩ := ok_of_map h
    exact hkeys
  · intro h
    rw [h]
    rfl

/-- An order fails with the error of the first rule that fails. The rules before it become keys. -/
theorem Order.compileJoined?_eq_error_iff (sources : List Source) (rules : List Rule)
    (e : CompileError) :
    Order.compileJoined? sources rules = .error e ↔
      ∃ before r after, rules = before ++ r :: after ∧
        (∀ b ∈ before, ∃ k s, Rule.Becomes b sources s k) ∧ Rule.Fails r sources e := by
  simp only [← Rule.joinedKey_eq_ok_iff, ← Rule.joinedKey_eq_error_iff]
  rw [compileJoined?_eq, ← mapM_eq_error_iff]
  cases rules.mapM fun r : Rule => r.joinedKey sources <;> simp [Except.map]

/-- The clause of an order whose keys have nodes of their own lists the keys, each with its node.
The node of the order goes unused. -/
theorem Order.clause_of_nodes {o : Order} (h : ∀ k ∈ o.keys, k.node.isSome) (outer : String) :
    ∃ lines, List.Forall₂ (fun k line => ∃ own, k.node = some own ∧ line = Key.line k own)
        o.keys lines ∧
      o.clause outer = if o.keys = [] then "" else " ORDER BY " ++ ", ".intercalate lines := by
  refine ⟨o.keys.map fun k => k.text outer, ?_, ?_⟩
  · rw [List.forall₂_map_right_iff, List.forall₂_same]
    intro k hk
    obtain ⟨own, hown⟩ := Option.isSome_iff_exists.1 (h k hk)
    exact ⟨own, hown, Key.text_of_node hown outer⟩
  · unfold clause
    simp only [List.isEmpty_iff]

/-- An order over several sources has one key for each rule, in the order of the rules, or it
fails with the error of the first rule that fails. Its clause lists the keys in that order. -/
theorem Order.compileJoined?_resolved (sources : List Source) (rules : List Rule) :
    (∀ o, Order.compileJoined? sources rules = .ok o ↔
      List.Forall₂ (fun r k => ∃ s, Rule.Becomes r sources s k) rules o.keys) ∧
    (∀ e, Order.compileJoined? sources rules = .error e ↔
      ∃ before r after, rules = before ++ r :: after ∧
        (∀ b ∈ before, ∃ k s, Rule.Becomes b sources s k) ∧ Rule.Fails r sources e) ∧
    ∀ o, Order.compileJoined? sources rules = .ok o → ∀ outer, ∃ lines,
      List.Forall₂ (fun k line => ∃ own, k.node = some own ∧ line = Key.line k own) o.keys lines ∧
      o.clause outer = if o.keys = [] then "" else " ORDER BY " ++ ", ".intercalate lines := by
  refine ⟨compileJoined?_eq_ok_iff sources rules, compileJoined?_eq_error_iff sources rules, ?_⟩
  intro o h outer
  refine Order.clause_of_nodes (fun k hk => ?_) outer
  -- Every key comes from a rule, and it has the node of the source of that rule.
  obtain ⟨r, -, s, hbecomes⟩ := exists_of_forall₂ ((compileJoined?_eq_ok_iff ..).1 h) hk
  rw [hbecomes.node]
  rfl

/-- Two sources of one node with equal stems, and a stem that goes on where theirs ends. The
second source gives the default that counts for both. -/
theorem Order.resolved_of_overlap :
    let first : Source :=
      { stem := "CONTRACT", node := "ct", entity := .contract
        defaults := [⟨"ENDED_AT", "0", "1"⟩, ⟨"ENDED_AT", "2", "3"⟩] }
    let second : Source :=
      { stem := "CONTRACT", node := "ct", entity := .contract
        defaults := [⟨"ENDED_AT", "date('2100-01-01')", "date('1900-01-01')"⟩] }
    let longer : Source := { stem := "CONTRACT_INVOICE", node := "i", entity := .invoice }
    let sources := [longer, first, second]
    let rules : List Rule :=
      [{ property := "CONTRACT_ENDED_AT", direction := .descending },
       { property := "CONTRACT_INVOICE_NUMBER" }]
    ∃ o, Order.compileJoined? sources rules = .ok o ∧
      List.Forall₂ (fun r k => ∃ s, Rule.Becomes r sources s k) rules o.keys ∧
      o.clause "" =
        " ORDER BY coalesce(ct.endedAt, date('1900-01-01')) DESC, toLower(i.number) ASC" := by
  intro first second longer sources rules
  let o : Order :=
    { keys :=
        [{ node := some "ct", property := Entity.plain "ENDED_AT" "endedAt"
           direction := .descending, lowercase := false
           nullDefault := some "date('1900-01-01')" },
         { node := some "i", property := Entity.text "NUMBER" "number"
           direction := .ascending, lowercase := true }] }
  have ho : Order.compileJoined? sources rules = .ok o := by decide
  obtain ⟨hok, -, -⟩ := Order.compileJoined?_resolved sources rules
  exact ⟨o, ho, (hok o).1 ho, by decide⟩

end TenantSearch.Sort
