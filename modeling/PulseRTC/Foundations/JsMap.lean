import Mathlib.Data.List.AList

/-!
# Maps in insertion order

A JavaScript `Map` is Mathlib's `AList`: its entries in order, with no key twice. Writing to a key
that is there keeps its place, and a new key comes last (`set`). The lemmas read a map after one
write, one delete, a change of its values or a loop that deletes, at any key.
-/

namespace PulseRTC.Foundations

open Option

/-- A map in insertion order, with values of one type. -/
abbrev JsMap (κ ν : Type*) := AList fun _ : κ => ν

namespace JsMap

variable {κ ν : Type*} [DecidableEq κ]

omit [DecidableEq κ] in
theorem keys_map (f : κ → ν → ν) (l : List (Σ _ : κ, ν)) :
    (l.map fun e => (⟨e.1, f e.1 e.2⟩ : Σ _ : κ, ν)).keys = l.keys := by
  simp [List.keys, Function.comp_def]

/-- The map with all its values changed. -/
def map (f : κ → ν → ν) (m : JsMap κ ν) : JsMap κ ν where
  entries := m.entries.map fun e => ⟨e.1, f e.1 e.2⟩
  nodupKeys := by
    rw [List.NodupKeys, keys_map]
    exact m.nodupKeys

theorem lookup_map (f : κ → ν → ν) (m : JsMap κ ν) (k : κ) :
    (map f m).lookup k = (m.lookup k).map (f k) :=
  List.dlookup_map₂ (f := f) k

/-- `m.set(k, v)`. -/
def set (k : κ) (v : ν) (m : JsMap κ ν) : JsMap κ ν :=
  if k ∈ m then map (fun j w => if j = k then v else w) m else m ∪ AList.singleton k v

theorem lookup_set (k : κ) (v : ν) (m : JsMap κ ν) (j : κ) :
    (set k v m).lookup j = if j = k then some v else m.lookup j := by
  unfold set
  by_cases hk : k ∈ m
  · rw [if_pos hk, lookup_map]
    by_cases hj : j = k
    · obtain ⟨w, hw⟩ := isSome_iff_exists.1 (AList.lookup_isSome.2 hk)
      rw [if_pos hj, hj, hw, map_some, if_pos rfl]
    · simp only [if_neg hj, map_id']
  · rw [if_neg hk]
    by_cases hj : j = k
    · rw [if_pos hj, hj, AList.lookup_union_right hk]
      exact List.dlookup_cons_eq (β := fun _ : κ => ν) [] k v
    · rw [if_neg hj]
      by_cases hjm : j ∈ m
      · exact AList.lookup_union_left hjm
      · rw [AList.lookup_union_right hjm, AList.lookup_eq_none.2 hjm, AList.lookup_eq_none]
        simpa [AList.mem_keys] using hj

variable {m : JsMap κ ν}

@[simp] theorem mem_set {k j : κ} {v : ν} : j ∈ set k v m ↔ j = k ∨ j ∈ m := by
  rw [← AList.lookup_isSome, lookup_set, ← AList.lookup_isSome]
  split_ifs with h <;> simp [h]

/-- A loop of writes. -/
theorem mem_foldl_set {α : Type*} (key : α → κ) (val : JsMap κ ν → α → ν) (l : List α) {j : κ} :
    j ∈ l.foldl (fun m a => set (key a) (val m a) m) m ↔ j ∈ l.map key ∨ j ∈ m := by
  induction l generalizing m with
  | nil => simp
  | cons a l ih =>
    rw [List.foldl_cons, ih, mem_set, List.map_cons, List.mem_cons]
    tauto

theorem lookup_delete (k : κ) (m : JsMap κ ν) (j : κ) :
    (m.erase k).lookup j = if j = k then none else m.lookup j := by
  split_ifs with h
  · rw [h, AList.lookup_erase]
  · exact AList.lookup_erase_ne h

/-- The entries whose key satisfies `p`, as a loop with a delete leaves them. -/
def keep (p : κ → Bool) (m : JsMap κ ν) : JsMap κ ν where
  entries := m.entries.filter fun e => p e.1
  nodupKeys := m.nodupKeys.sublist List.filter_sublist

theorem lookup_keep (p : κ → Bool) (m : JsMap κ ν) (k : κ) :
    (keep p m).lookup k = if p k then m.lookup k else none := by
  ext v
  rw [← mem_def, AList.mem_lookup_iff]
  split_ifs with h
  · rw [← mem_def, AList.mem_lookup_iff]
    simp [keep, h]
  · simp [keep, h]

@[simp] theorem mem_keep {p : κ → Bool} {k : κ} : k ∈ keep p m ↔ p k ∧ k ∈ m := by
  rw [← AList.lookup_isSome, lookup_keep, ← AList.lookup_isSome]
  split_ifs with h <;> simp [h]

end JsMap

end PulseRTC.Foundations
