import TenantSearch.Proofs.Cypher.Written

/-!
# `TenantSearch.Proofs.Cypher.Unit`: conditions that consist of units

A part of a condition may be taken as a unit that has a truth value of its own, whatever the
comparisons in it are. `Reading.Weighs` gives the value of a condition that consists of such
units. Units are told apart by their place, so equal units may have different values.

A part that could be a unit may also be looked into, so the relation could give several values.
It does not, because the units are listed from left to right and each has a comparison in it.

* `Reading.Weighs.unique`: the units determine the value.
* `Reading.Weighs.eq_eval`: it is the value of the condition, if the units have their own.
-/

set_option autoImplicit false

namespace TenantSearch.Cypher

namespace Reading

mutual

/-- The comparisons in a condition, from left to right. -/
def atoms : Reading → List Atom
  | always => []
  | atom a => [a]
  | not r => atoms r
  | group _ parts => atomsOf parts

/-- The comparisons in several conditions. -/
def atomsOf : List Reading → List Atom
  | [] => []
  | r :: rest => atoms r ++ atomsOf rest

end

/-- The comparisons of a list are those of each reading. -/
theorem atomsOf_eq_flatMap (rs : List Reading) : atomsOf rs = rs.flatMap atoms := by
  induction rs with
  | nil => rfl
  | cons r rest ih => rw [atomsOf, ih, List.flatMap_cons]

/-- A condition with its units, each with its truth value, and its own value. -/
structure Weighed where
  reading : Reading
  units : List (Reading × Truth)
  value : Truth

/-- The condition consists of the units from left to right, and has the value when the units
have theirs. -/
inductive Weighs : Reading → List (Reading × Truth) → Truth → Prop where
  | unit (r : Reading) (v : Truth) : Weighs r [(r, v)] v
  | always : Weighs .always [] .yes
  | not {r : Reading} {us : List (Reading × Truth)} {v : Truth} (inner : Weighs r us v) :
    Weighs (.not r) us v.not
  | group (junction : Junction) (parts : List Weighed)
      (inner : ∀ p ∈ parts, Weighs p.reading p.units p.value) :
    Weighs (.group junction (parts.map Weighed.reading)) (parts.flatMap Weighed.units)
      (.joined junction (parts.map Weighed.value))

/-- Whether a comparison is in each of the units. -/
def Grounded (us : List (Reading × Truth)) : Prop := ∀ u ∈ us, u.1.atoms ≠ []

namespace Weighs

variable {r : Reading} {us : List (Reading × Truth)} {v : Truth}

/-- A condition without units has no comparisons. Only the constant that always holds has none, and
what is made of it. -/
theorem atoms_eq_nil (h : Weighs r [] v) : r.atoms = [] := by
  generalize hus : ([] : List (Reading × Truth)) = us at h
  induction h with
  | unit r v => cases hus
  | always => rfl
  | not _ ih => exact ih hus
  | group junction parts _ ih =>
    rw [atoms, atomsOf_eq_flatMap, List.flatMap_map, List.flatMap_eq_nil_iff]
    intro p hp
    exact ih p hp (List.flatMap_eq_nil_iff.1 hus.symm p hp).symm

/-- A unit is not larger than the condition. So a condition can be its own unit, but never a proper
part of one of its units. -/
theorem sizeOf_le (h : Weighs r us v) {u : Reading × Truth} (hu : u ∈ us) :
    sizeOf u.1 ≤ sizeOf r := by
  induction h with
  | unit r v =>
    obtain rfl := List.mem_singleton.1 hu
    exact Nat.le_refl _
  | always => cases hu
  | not _ ih =>
    have hinner := ih hu
    rw [Reading.not.sizeOf_spec]
    omega
  | group junction parts _ ih =>
    obtain ⟨p, hp, hu⟩ := List.mem_flatMap.1 hu
    have hpart := ih p hp hu
    have hlist := List.sizeOf_lt_of_mem (List.mem_map_of_mem (f := Weighed.reading) hp)
    rw [Reading.group.sizeOf_spec]
    omega

/-- A condition that is one of its units is the only one. Two ways to take a condition apart agree
therefore where one of them stops at the top. -/
theorem eq_unit_of_mem (h : Weighs r us v) {w : Truth} (hmem : (r, w) ∈ us) :
    us = [(r, w)] ∧ v = w := by
  -- Any other condition is larger than its parts, and so larger than its units.
  cases h with
  | unit r v =>
    cases List.mem_singleton.1 hmem
    exact ⟨rfl, rfl⟩
  | always => cases hmem
  | not inner =>
    have hle := inner.sizeOf_le hmem
    rw [Reading.not.sizeOf_spec] at hle
    omega
  | group junction parts inner =>
    obtain ⟨p, hp, hmem⟩ := List.mem_flatMap.1 hmem
    have hle := (inner p hp).sizeOf_le hmem
    have hlist := List.sizeOf_lt_of_mem (List.mem_map_of_mem (f := Weighed.reading) hp)
    rw [Reading.group.sizeOf_spec] at hle
    omega

/-- The first of the units, when it is the condition itself. -/
theorem unit_unique (h : Weighs r us v) {w : Truth} {rest rest' : List (Reading × Truth)}
    (heq : us ++ rest = (r, w) :: rest') (hatoms : r.atoms ≠ []) : us = [(r, w)] ∧ v = w := by
  cases us with
  | nil => exact absurd h.atoms_eq_nil hatoms
  | cons first more =>
    obtain ⟨rfl, -⟩ := List.cons.inj heq
    exact h.eq_unit_of_mem List.mem_cons_self

/-- The first units of a list that `r` consists of are `us`, and its value is `v`. -/
def Decides (r : Reading) (us : List (Reading × Truth)) (v : Truth) : Prop :=
  ∀ {us' : List (Reading × Truth)} {v' : Truth} {rest rest' : List (Reading × Truth)},
    Weighs r us' v' → us ++ rest = us' ++ rest' → Grounded us → Grounded us' → us = us' ∧ v = v'

/-- Parts of one group with the units in the same order. The induction follows the parts, and
each step takes the units of one part off both lists. -/
theorem parts_unique {rest rest' : List (Reading × Truth)} :
    ∀ (parts parts' : List Weighed), parts.map Weighed.reading = parts'.map Weighed.reading →
      (∀ p ∈ parts, Decides p.reading p.units p.value) →
      (∀ p ∈ parts', Weighs p.reading p.units p.value) →
      parts.flatMap Weighed.units ++ rest = parts'.flatMap Weighed.units ++ rest' →
      Grounded (parts.flatMap Weighed.units) → Grounded (parts'.flatMap Weighed.units) →
      parts = parts'
  | [], [], _, _, _, _, _, _ => rfl
  | [], _ :: _, hreadings, _, _, _, _, _ => by simp at hreadings
  | _ :: _, [], hreadings, _, _, _, _, _ => by simp at hreadings
  | ⟨r, us, v⟩ :: more, ⟨r', us', v'⟩ :: more', hreadings, hdecides, hweighs, heq, hus, hus' => by
    obtain ⟨rfl, hmore⟩ := List.cons.inj hreadings
    simp only [List.flatMap_cons, List.append_assoc] at heq
    rw [List.flatMap_cons, Grounded, List.forall_mem_append] at hus hus'
    have hfirst : Weighs r us' v' := hweighs _ List.mem_cons_self
    obtain ⟨rfl, rfl⟩ := hdecides _ List.mem_cons_self hfirst heq hus.1 hus'.1
    congr 1
    exact parts_unique more more' hmore (fun p hp => hdecides p (List.mem_cons_of_mem _ hp))
      (fun p hp => hweighs p (List.mem_cons_of_mem _ hp)) (List.append_cancel_left heq)
      hus.2 hus'.2

/-- Weighing is decided by the reading: the units come in one order, with one value in all. A unit
is told from what it is made of by its comparisons. -/
theorem decides (h : Weighs r us v) : Decides r us v := by
  -- By how the first weighing came about. The second may stop at a unit where the first goes on,
  -- and only there the two could differ.
  induction h with
  | unit r v =>
    intro us' v' rest rest' h' heq hus _
    obtain ⟨rfl, rfl⟩ := h'.unit_unique heq.symm (hus _ List.mem_cons_self)
    exact ⟨rfl, rfl⟩
  | always =>
    intro us' v' rest rest' h' heq _ hus'
    cases h' with
    | unit _ v' => exact absurd rfl (hus' _ List.mem_cons_self)
    | always => exact ⟨rfl, rfl⟩
  | not inner ih =>
    intro us' v' rest rest' h' heq hus hus'
    cases h' with
    | unit _ v' => exact (Weighs.not inner).unit_unique heq (hus' _ List.mem_cons_self)
    | not inner' =>
      obtain ⟨rfl, rfl⟩ := ih inner' heq hus hus'
      exact ⟨rfl, rfl⟩
  | group junction parts inner ih =>
    intro us' v' rest rest' h' heq hus hus'
    generalize hr : Reading.group junction (parts.map Weighed.reading) = r at h'
    cases h' with
    | unit _ v' =>
      subst hr
      exact (Weighs.group junction parts inner).unit_unique heq (hus' _ List.mem_cons_self)
    | always => cases hr
    | not _ => cases hr
    | group junction' parts' inner' =>
      obtain ⟨rfl, hreadings⟩ := Reading.group.inj hr
      obtain rfl := parts_unique parts parts' hreadings ih inner' heq hus hus'
      exact ⟨rfl, rfl⟩

/-- The units determine the value, if there is a comparison in each. -/
theorem unique (h : Weighs r us v) (hus : Grounded us) {v' : Truth} (h' : Weighs r us v') :
    v = v' := by
  have heq : us ++ [] = us ++ [] := rfl
  exact (h.decides h' heq hus hus).2

/-- A condition whose units have their own values has its own. Weighing is evaluation, once the
units are weighed as they evaluate. -/
theorem eq_eval (h : Weighs r us v) {σ : Atom → Truth} (hus : ∀ u ∈ us, u.2 = u.1.eval σ) :
    v = r.eval σ := by
  induction h with
  | unit r v => exact hus _ List.mem_cons_self
  | always => rfl
  | not _ ih => rw [eval, ih hus]
  | group junction parts _ ih =>
    have hparts : parts.map Weighed.value = (parts.map Weighed.reading).map (eval σ) := by
      rw [List.map_map]
      refine List.map_congr_left fun p hp => ?_
      exact ih p hp fun u hu => hus u (List.mem_flatMap.2 ⟨p, hp, hu⟩)
    rw [eval, evals_eq_map, hparts]

end Weighs

/-- Several conditions as units. The unit at place `k`, counted from `n`, has the value `τ k`. -/
def units (τ : Nat → Truth) (n : Nat) (rs : List Reading) : List (Reading × Truth) :=
  (rs.zipIdx n).map fun (r, k) => (r, τ k)

/-- Units that follow others take the places behind theirs. -/
theorem units_append (τ : Nat → Truth) (n : Nat) (rs ss : List Reading) :
    units τ n (rs ++ ss) = units τ n rs ++ units τ (n + rs.length) ss := by
  rw [units, List.zipIdx_append, List.map_append]
  rfl

/-- Units with a comparison in each are grounded. -/
theorem grounded_units {rs : List Reading} (h : ∀ r ∈ rs, r.atoms ≠ []) (τ : Nat → Truth)
    (n : Nat) : Grounded (units τ n rs) := by
  intro u hu
  obtain ⟨⟨r, k⟩, hr, rfl⟩ := List.mem_map.1 hu
  exact h r (List.fst_mem_of_mem_zipIdx hr)

end Reading

/-! ### Groups -/

/-- The value of a group whose parts have these values. A group without parts has the value
`ofEmpty`. -/
def groupTruth (ofEmpty : Junction → Truth) (junction : Junction) : List Truth → Truth
  | [] => ofEmpty junction
  | vs => .joined junction vs

/-- A group of one is worth what that one is. -/
@[simp] theorem groupTruth_single (ofEmpty : Junction → Truth) (junction : Junction) (v : Truth) :
    groupTruth ofEmpty junction [v] = v := Truth.joined_single junction v

/-- A group consists of the units of its parts. Without parts it always holds. A group of one is
read as its part, so it is no group in the reading. -/
theorem Reading.Weighs.groupReading (junction : Junction) (parts : List Weighed)
    (h : ∀ p ∈ parts, Weighs p.reading p.units p.value) :
    Weighs (groupReading junction (parts.map Weighed.reading)) (parts.flatMap Weighed.units)
      (groupTruth (fun _ => .yes) junction (parts.map Weighed.value)) := by
  match parts with
  | [] => exact .always
  | [p] =>
    have hpart := h p List.mem_cons_self
    simpa [TenantSearch.Cypher.groupReading] using hpart
  | p :: q :: rest => exact .group junction (p :: q :: rest) h

end TenantSearch.Cypher
