import Mathlib.Algebra.BigOperators.Group.List.Basic
import Mathlib.Algebra.Ring.Nat
import Mathlib.Data.List.AList

/-!
# Hash maps as association lists

A hash map is its list of entries with pairwise distinct keys.  Besides the
lookup laws of `AList`, programs that count what a map holds need the total of a
weight over its entries, and how an insertion or a removal changes it.
-/

namespace UcoStack

/-- A map from `κ` to `ν` without duplicate keys. -/
abbrev HashMap (κ ν : Type) : Type := AList (fun _ : κ => ν)

namespace HashMap

variable {κ ν : Type}

/-- The values of a map, in entry order. -/
def values (map : HashMap κ ν) : List ν := map.entries.map fun entry => entry.2

/-- The total of `weight` over the values of a map. -/
def total (weight : ν → Nat) (map : HashMap κ ν) : Nat := (map.values.map weight).sum

@[simp] theorem total_empty (weight : ν → Nat) : total weight (∅ : HashMap κ ν) = 0 :=
  rfl

variable [DecidableEq κ]

instance (priority := high) [DecidableEq ν] : DecidableEq (HashMap κ ν) :=
  fun left right => decidable_of_iff (left.entries = right.entries) AList.ext_iff.symm

theorem eq_empty_of_lookup {map : HashMap κ ν} (missing : ∀ key, map.lookup key = none) :
    map = ∅ := by
  apply AList.ext
  cases stored : map.entries with
  | nil => rfl
  | cons entry rest =>
      have found : map.lookup entry.1 = some entry.2 :=
        AList.mem_lookup_iff.mpr (stored ▸ List.mem_cons_self)
      rw [missing] at found
      cases found

section Related

variable {other : Type} {R : ν → other → Prop} {left : HashMap κ ν} {right : HashMap κ other}

/-- Related entries under the same key keep two maps related. -/
theorem lookup_insert_rel (related : ∀ key, Option.Rel R (left.lookup key) (right.lookup key))
    {value : ν} {value' : other} (same : R value value') (inserted key : κ) :
    Option.Rel R ((left.insert inserted value).lookup key)
      ((right.insert inserted value').lookup key) := by
  by_cases here : key = inserted
  · subst here
    rw [AList.lookup_insert, AList.lookup_insert]
    exact .some same
  · rw [AList.lookup_insert_ne here, AList.lookup_insert_ne here]
    exact related key

theorem mem_iff_of_rel {key : κ} (related : Option.Rel R (left.lookup key) (right.lookup key)) :
    key ∈ left ↔ key ∈ right := by
  rw [← AList.lookup_isSome, ← AList.lookup_isSome]
  generalize left.lookup key = found at related ⊢
  generalize right.lookup key = found' at related ⊢
  cases related with
  | some _ => exact Iff.rfl
  | none => exact Iff.rfl

end Related

/-- Every stored entry splits the total into its own weight and the rest. -/
theorem total_erase_add (weight : ν → Nat) {map : HashMap κ ν} {key : κ} {value : ν}
    (found : map.lookup key = some value) :
    total weight (map.erase key) + weight value = total weight map := by
  obtain ⟨entries, nodup⟩ := map
  have member : (⟨key, value⟩ : Sigma fun _ : κ => ν) ∈ entries :=
    AList.mem_lookup_iff.mp found
  obtain ⟨_, before, after, absent, split, erased⟩ :=
    List.exists_of_kerase (List.mem_keys_of_mem member)
  have same := List.NodupKeys.eq_of_mk_mem nodup member
    (split ▸ List.mem_append_right before List.mem_cons_self)
  subst same
  change (((List.kerase key entries).map fun entry => entry.2).map weight).sum + weight value =
    ((entries.map fun entry => entry.2).map weight).sum
  rw [erased, split]
  simp only [List.map_append, List.map_cons, List.sum_append, List.sum_cons]
  omega

theorem erase_of_lookup_none {map : HashMap κ ν} {key : κ}
    (missing : map.lookup key = none) : map.erase key = map := by
  apply AList.ext
  exact List.kerase_of_notMem_keys (AList.lookup_eq_none.mp missing)

theorem total_insert (weight : ν → Nat) (map : HashMap κ ν) (key : κ) (value : ν) :
    total weight (map.insert key value) = weight value + total weight (map.erase key) := by
  unfold total values
  rw [AList.entries_insert, List.map_cons, List.map_cons, List.sum_cons]
  rfl

/-- Replacing one entry changes the total by its own weight. -/
theorem total_replace (weight : ν → Nat) {map : HashMap κ ν}
    {key : κ} {value : ν} (found : map.lookup key = some value) (replaced : ν) :
    total weight (map.insert key replaced) + weight value =
      total weight map + weight replaced := by
  rw [total_insert, ← total_erase_add weight found]
  omega

theorem total_insert_fresh (weight : ν → Nat) {map : HashMap κ ν}
    {key : κ} (missing : map.lookup key = none) (value : ν) :
    total weight (map.insert key value) = total weight map + weight value := by
  rw [total_insert, erase_of_lookup_none missing, Nat.add_comm]

theorem total_eq_zero_iff (weight : ν → Nat) (map : HashMap κ ν) :
    total weight map = 0 ↔ ∀ key value, map.lookup key = some value → weight value = 0 := by
  constructor
  · intro zero key value found
    have split := total_erase_add weight found
    omega
  · intro weightless
    refine List.sum_eq_zero_iff_forall_eq_nat.mpr fun number member => ?_
    obtain ⟨value, stored, rfl⟩ := List.mem_map.mp member
    obtain ⟨entry, inMap, rfl⟩ := List.mem_map.mp stored
    exact weightless entry.1 entry.2 (AList.mem_lookup_iff.mpr inMap)

/-- The map has exactly these bindings, under distinct keys. -/
structure Binds (map : HashMap κ ν) (bindings : List (κ × ν)) : Prop where
  keys : (bindings.map Prod.fst).Nodup
  lookup : ∀ key value, map.lookup key = some value ↔ (key, value) ∈ bindings

namespace Binds

variable {map : HashMap κ ν} {bindings : List (κ × ν)}

theorem empty : Binds (∅ : HashMap κ ν) [] where
  keys := List.nodup_nil
  lookup := fun key value => by simp

theorem isSome_iff (binds : Binds map bindings) (key : κ) :
    (map.lookup key).isSome ↔ key ∈ bindings.map Prod.fst := by
  rw [Option.isSome_iff_exists, List.mem_map]
  constructor
  · rintro ⟨value, found⟩
    exact ⟨(key, value), (binds.lookup key value).mp found, rfl⟩
  · rintro ⟨⟨other, value⟩, member, rfl⟩
    exact ⟨value, (binds.lookup other value).mpr member⟩

theorem lookup_eq_none (binds : Binds map bindings) {key : κ} :
    map.lookup key = none ↔ key ∉ bindings.map Prod.fst := by
  rw [← binds.isSome_iff, Option.not_isSome_iff_eq_none]

theorem insert (binds : Binds map bindings) {key : κ} (fresh : key ∉ bindings.map Prod.fst)
    (value : ν) : Binds (map.insert key value) (bindings ++ [(key, value)]) where
  keys := by
    rw [List.map_append]
    refine List.nodup_append.mpr ⟨binds.keys, List.nodup_singleton key, ?_⟩
    rintro _ member _ last rfl
    cases List.mem_singleton.mp last
    exact fresh member
  lookup := fun other found => by
    rw [List.mem_append, List.mem_singleton]
    by_cases same : other = key
    · subst same
      rw [AList.lookup_insert, Option.some.injEq]
      constructor
      · rintro rfl
        exact .inr rfl
      · rintro (earlier | last)
        · exact absurd (List.mem_map_of_mem earlier) fresh
        · exact (Prod.mk.inj last).2.symm
    · rw [AList.lookup_insert_ne same, binds.lookup]
      exact ⟨.inl, fun either => either.resolve_right fun last => same (Prod.mk.inj last).1⟩

end Binds

section Gathering

variable {M : Type} [AddCommMonoid M] (f : κ → ν → M)

/-- The sum of what the entries of a map give. -/
def gather (map : HashMap κ ν) : M := (map.entries.map fun entry => f entry.1 entry.2).sum

omit [DecidableEq κ] in
@[simp] theorem gather_empty : gather f (∅ : HashMap κ ν) = 0 := rfl

theorem gather_erase_add {map : HashMap κ ν} {key : κ} {value : ν}
    (found : map.lookup key = some value) :
    gather f (map.erase key) + f key value = gather f map := by
  obtain ⟨entries, nodup⟩ := map
  have member : (⟨key, value⟩ : Sigma fun _ : κ => ν) ∈ entries :=
    AList.mem_lookup_iff.mp found
  obtain ⟨_, before, after, absent, split, erased⟩ :=
    List.exists_of_kerase (List.mem_keys_of_mem member)
  have same := List.NodupKeys.eq_of_mk_mem nodup member
    (split ▸ List.mem_append_right before List.mem_cons_self)
  subst same
  change ((List.kerase key entries).map fun entry => f entry.1 entry.2).sum + f key value =
    (entries.map fun entry => f entry.1 entry.2).sum
  rw [erased, split, List.map_append, List.map_append, List.map_cons, List.sum_append,
    List.sum_append, List.sum_cons, add_assoc]
  exact congrArg (_ + ·) (add_comm _ _)

theorem gather_insert (map : HashMap κ ν) (key : κ) (value : ν) :
    gather f (map.insert key value) = f key value + gather f (map.erase key) := by
  unfold gather
  rw [AList.entries_insert, List.map_cons, List.sum_cons]
  rfl

/-- Replacing one entry changes the sum by what that entry gives. -/
theorem gather_replace {map : HashMap κ ν} {key : κ} {value : ν}
    (found : map.lookup key = some value) (replaced : ν) :
    gather f (map.insert key replaced) + f key value = gather f map + f key replaced := by
  rw [gather_insert, ← gather_erase_add f found, add_comm (f key replaced), add_right_comm]

theorem gather_eq_zero {map : HashMap κ ν}
    (nothing : ∀ key value, map.lookup key = some value → f key value = 0) :
    gather f map = 0 := by
  apply List.sum_eq_zero
  intro part member
  obtain ⟨entry, stored, rfl⟩ := List.mem_map.mp member
  exact nothing entry.1 entry.2 (AList.mem_lookup_iff.mpr stored)

end Gathering

end HashMap

end UcoStack
