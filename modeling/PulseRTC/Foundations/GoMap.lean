import Mathlib.Data.Finmap

/-!
# Finite maps

A Go map is Mathlib's `Finmap`: finite, unordered, equal when its lookups are. The lemmas here
read a map after one write, one delete or a loop that deletes, at any key, and collect the keys
that hold a value. A loop over a map meets its values in any order: `values` is a multiset.
-/

namespace PulseRTC.Foundations

open Finmap

/-- A finite map with values of one type. -/
abbrev GoMap (κ ν : Type*) := Finmap fun _ : κ => ν

namespace GoMap

variable {κ ν : Type*} [DecidableEq κ]

theorem lookup_insert_eq (m : GoMap κ ν) (k j : κ) (v : ν) :
    (m.insert k v).lookup j = if j = k then some v else m.lookup j := by
  split_ifs with h
  · rw [h, lookup_insert]
  · exact lookup_insert_of_ne m h

theorem lookup_erase_eq (m : GoMap κ ν) (k j : κ) :
    (m.erase k).lookup j = if j = k then none else m.lookup j := by
  split_ifs with h
  · rw [h, lookup_erase]
  · exact lookup_erase_ne h

variable {m : GoMap κ ν} {v : ν}

theorem lookup_insert_eq_some {k j : κ} {v w : ν} :
    (m.insert k v).lookup j = some w ↔ j = k ∧ v = w ∨ j ≠ k ∧ m.lookup j = some w := by
  rw [lookup_insert_eq]
  split_ifs with h <;> simp [h]

theorem lookup_erase_eq_some {k j : κ} :
    (m.erase k).lookup j = some v ↔ j ≠ k ∧ m.lookup j = some v := by
  rw [lookup_erase_eq]
  split_ifs with h <;> simp [h]

/-- One of several maps, after a write to the one that `p` holds of. -/
theorem lookup_ite_insert (p : Prop) [Decidable p] (m : GoMap κ ν) (k j : κ) (v : ν) :
    (if p then m.insert k v else m).lookup j = if p ∧ j = k then some v else m.lookup j := by
  by_cases h : p <;> simp [h, lookup_insert_eq]

theorem lookup_ite_erase (p : Prop) [Decidable p] (m : GoMap κ ν) (k j : κ) :
    (if p then m.erase k else m).lookup j = if p ∧ j = k then none else m.lookup j := by
  by_cases h : p <;> simp [h, lookup_erase_eq]

/-- The entries whose value satisfies `p`, as a loop with a delete leaves them. -/
def keep (p : ν → Bool) (m : GoMap κ ν) : GoMap κ ν where
  entries := m.entries.filter fun e => p e.2
  nodupKeys := by
    refine Multiset.nodup_keys.1 (Multiset.nodup_of_le ?_ m.nodupKeys.nodup_keys)
    exact Multiset.map_le_map (Multiset.filter_le _ _)

theorem lookup_keep (p : ν → Bool) (m : GoMap κ ν) (k : κ) :
    (keep p m).lookup k = (m.lookup k).filter p := by
  ext v
  simp [keep, lookup_eq_some_iff, Option.filter_eq_some_iff]

/-- The entries that satisfy `p`. -/
def restrict (p : κ → ν → Bool) (m : GoMap κ ν) : GoMap κ ν where
  entries := m.entries.filter fun e => p e.1 e.2
  nodupKeys := by
    refine Multiset.nodup_keys.1 (Multiset.nodup_of_le ?_ m.nodupKeys.nodup_keys)
    exact Multiset.map_le_map (Multiset.filter_le _ _)

/-- Every value is changed, as by a loop that writes through the map's pointers. -/
def mapValues (f : ν → ν) (m : GoMap κ ν) : GoMap κ ν where
  entries := m.entries.map fun e => ⟨e.1, f e.2⟩
  nodupKeys := by
    refine Multiset.nodup_keys.1 ?_
    have hkeys : (m.entries.map fun e => (⟨e.1, f e.2⟩ : Sigma fun _ : κ => ν)).keys =
        m.entries.keys := by
      simp only [Multiset.keys, Multiset.map_map]
      rfl
    rw [hkeys]
    exact m.nodupKeys.nodup_keys

def values (m : GoMap κ ν) : Multiset ν := m.entries.map fun e => e.2

theorem mem_values : v ∈ values m ↔ ∃ k, m.lookup k = some v := by
  simp only [values, Multiset.mem_map, lookup_eq_some_iff]
  constructor
  · rintro ⟨⟨k, v⟩, hmem, rfl⟩
    exact ⟨k, hmem⟩
  · rintro ⟨k, hmem⟩
    exact ⟨⟨k, v⟩, hmem, rfl⟩

theorem exists_lookup {l : List ν} (hl : (l : Multiset ν) = values m)
    (hv : v ∈ l) : ∃ k, m.lookup k = some v := by
  rwa [← Multiset.mem_coe, hl, mem_values] at hv

/-- No value twice, if it tells its key. -/
theorem nodup_values (hkey : ∀ k k' v, m.lookup k = some v → m.lookup k' = some v → k = k') :
    (values m).Nodup := by
  refine Multiset.Nodup.map_on ?_ m.nodup_entries
  rintro ⟨k, v⟩ hmem ⟨k', v'⟩ hmem' (rfl : v = v')
  obtain rfl := hkey k k' v (lookup_eq_some_iff.2 hmem) (lookup_eq_some_iff.2 hmem')
  rfl

omit [DecidableEq κ] in
theorem card_values (m : GoMap κ ν) : Multiset.card (values m) = m.keys.card := by
  simp [values, keys, Multiset.keys]

variable [DecidableEq ν]

/-- The keys that hold the value `v`. -/
def keysOf (m : GoMap κ ν) (v : ν) : Finset κ := m.keys.filter fun k => m.lookup k = some v

@[simp] theorem mem_keysOf {k : κ} : k ∈ keysOf m v ↔ m.lookup k = some v := by
  simp only [keysOf, Finset.mem_filter, mem_keys, mem_iff, and_iff_right_iff_imp]
  exact fun h => ⟨v, h⟩

end GoMap

end PulseRTC.Foundations
