import Mathlib.Data.List.Nodup
import Mathlib.Data.Int.Notation

/-!
# Keys that expire

A key-value store whose entries carry the instant of their expiry, as a cache server keeps them.
The store is a list of entries with distinct keys, newest first, so that it can be both looked up
and scanned. An entry is live up to and including its expiry.

* `set`, `expire`, `del` write; `find` reads an entry whatever its age; `get` reads a live value.
-/

namespace PulseRTC.Foundations

open List

structure Entry (κ ν : Type*) where
  key : κ
  value : ν
  expiresAt : ℤ
  deriving DecidableEq

structure Expiring (κ ν : Type*) where
  entries : List (Entry κ ν)
  nodup : (entries.map Entry.key).Nodup

namespace Expiring

variable {κ ν : Type*} {m : Expiring κ ν} {now : ℤ} {e e' : Entry κ ν}

/-- The store without entries. -/
def empty : Expiring κ ν where
  entries := []
  nodup := by simp

/-- The live entries, as a scan returns them. -/
def live (m : Expiring κ ν) (now : ℤ) : List (Entry κ ν) :=
  m.entries.filter fun e => now ≤ e.expiresAt

theorem mem_live : e ∈ m.live now ↔ e ∈ m.entries ∧ now ≤ e.expiresAt := by
  simp [live]

theorem eq_of_key_eq (he : e ∈ m.entries) (he' : e' ∈ m.entries) (hk : e.key = e'.key) : e = e' :=
  inj_on_of_nodup_map m.nodup he he' hk

variable [DecidableEq κ]

/-- Delete a key. -/
def del (m : Expiring κ ν) (k : κ) : Expiring κ ν where
  entries := m.entries.filter fun e => e.key ≠ k
  nodup := m.nodup.sublist (List.filter_sublist.map _)

/-- Write a key, with a new expiry. -/
def set (m : Expiring κ ν) (k : κ) (v : ν) (expiresAt : ℤ) : Expiring κ ν where
  entries := ⟨k, v, expiresAt⟩ :: (m.del k).entries
  nodup := by
    rw [List.map_cons, List.nodup_cons]
    refine ⟨?_, (m.del k).nodup⟩
    simp [del]

/-- Move the expiry of a key that is there. -/
def expire (m : Expiring κ ν) (k : κ) (expiresAt : ℤ) : Expiring κ ν where
  entries := m.entries.map fun e => if e.key = k then { e with expiresAt := expiresAt } else e
  nodup := by
    have hkeys : (m.entries.map fun e =>
        if e.key = k then { e with expiresAt := expiresAt } else e).map Entry.key =
        m.entries.map Entry.key := by
      rw [List.map_map]
      refine List.map_congr_left fun e _ => ?_
      simp only [Function.comp_apply]
      split <;> rfl
    rw [hkeys]
    exact m.nodup

/-- The entry under a key, live or not. -/
def find (m : Expiring κ ν) (k : κ) : Option (Entry κ ν) := m.entries.find? fun e => e.key = k

/-- The live value under a key. -/
def get (m : Expiring κ ν) (now : ℤ) (k : κ) : Option ν :=
  ((m.find k).filter fun e => now ≤ e.expiresAt).map Entry.value

theorem find_of_mem (he : e ∈ m.entries) : m.find e.key = some e := by
  unfold find
  cases h : m.entries.find? fun e' => e'.key = e.key with
  | none => simpa using find?_eq_none.1 h e he
  | some e' =>
    have hk : e'.key = e.key := by simpa using find?_some h
    rw [eq_of_key_eq (mem_of_find?_eq_some h) he hk]

theorem get_of_mem_live (he : e ∈ m.live now) : m.get now e.key = some e.value := by
  obtain ⟨hmem, hlive⟩ := mem_live.1 he
  simp [get, find_of_mem hmem, hlive]

theorem filterMap_get_live (m : Expiring κ ν) (now : ℤ) :
    ((m.live now).map Entry.key).filterMap (m.get now) = (m.live now).map Entry.value := by
  rw [filterMap_map, ← filterMap_eq_map]
  refine filterMap_congr fun e he => ?_
  simpa using get_of_mem_live he

theorem find_del_of_ne {k k' : κ} (h : k' ≠ k) : (m.del k).find k' = m.find k' := by
  simp only [find, del, find?_filter]
  congr 1
  funext e
  by_cases hk : e.key = k' <;> simp [hk, h]

theorem find_set (m : Expiring κ ν) (k k' : κ) (v : ν) (t : ℤ) :
    (m.set k v t).find k' = if k' = k then some ⟨k, v, t⟩ else m.find k' := by
  split_ifs with h
  · simp [find, set, h]
  · have hcons : (m.set k v t).find k' = (m.del k).find k' := by simp [find, set, Ne.symm h]
    rw [hcons, find_del_of_ne h]

/-- Reading back a write. -/
theorem get_set (m : Expiring κ ν) (k : κ) (v : ν) (t now : ℤ) :
    (m.set k v t).get now k = if now ≤ t then some v else none := by
  rw [get, find_set, if_pos rfl]
  split_ifs with h
  · simp [h]
  · simpa using h

theorem mem_del {k : κ} : e ∈ (m.del k).entries ↔ e ∈ m.entries ∧ e.key ≠ k := by
  simp [del]

theorem mem_set {k : κ} {v : ν} {t : ℤ} :
    e ∈ (m.set k v t).entries ↔ e = ⟨k, v, t⟩ ∨ e ∈ m.entries ∧ e.key ≠ k := by
  simp [set, mem_del]

/-- Moving the expiry of a key just written to where it is changes nothing. -/
theorem expire_set (m : Expiring κ ν) (k : κ) (v : ν) (t : ℤ) :
    (m.set k v t).expire k t = m.set k v t := by
  have hent : ((m.set k v t).expire k t).entries = (m.set k v t).entries := by
    refine (map_congr_left fun e he => ?_).trans (map_id _)
    rcases mem_set.1 he with rfl | ⟨-, hk⟩
    · exact if_pos rfl
    · exact if_neg hk
  cases h : (m.set k v t).expire k t
  cases h' : m.set k v t
  simp_all

end Expiring

end PulseRTC.Foundations
