import Mathlib.Data.List.Nodup

/-!
# Lists

What the proofs use of lists, and of results, that the library does not have.

* `exists_split`: the list around an index, for steps that erase or replace one entry.
* `find?_key_eq_none` and `find?_key_eq_some`: searches by a key that no two entries share.
-/

namespace PulseRTC.Foundations

open List

variable {α β κ : Type*} {l : List α}

/-- An element of a list at its place. -/
theorem exists_split {k : ℕ} {x : α} (h : l[k]? = some x) :
    ∃ l₁ l₂, l = l₁ ++ x :: l₂ ∧ l.eraseIdx k = l₁ ++ l₂ ∧ ∀ y, l.set k y = l₁ ++ y :: l₂ := by
  obtain ⟨hk, rfl⟩ := List.getElem?_eq_some_iff.1 h
  refine ⟨l.take k, l.drop (k + 1), ?_, eraseIdx_eq_take_drop_succ l k, fun y => ?_⟩
  · rw [← drop_eq_getElem_cons hk, take_append_drop]
  · rw [set_eq_take_append_cons_drop, if_pos hk]

/-- At most one entry satisfies what no two entries satisfy together. -/
theorem countP_le_one {p : α → Prop} [DecidablePred p]
    (h : l.Pairwise fun a b => ¬ (p a ∧ p b)) : l.countP p ≤ 1 := by
  induction h with
  | nil => exact Nat.zero_le 1
  | @cons a l ha _ ih =>
    by_cases hp : p a
    · have hzero : l.countP p = 0 := by
        rw [countP_eq_zero]
        intro b hb
        have hno := fun hpb => ha b hb ⟨hp, hpb⟩
        simpa using hno
      rw [countP_cons, hzero]
      split_ifs <;> omega
    · rwa [countP_cons_of_neg (by simpa using hp)]

/-- A list without repetitions tells of each of its members once. -/
theorem filterMap_of_nodup [DecidableEq α] (h : l.Nodup) (a : α) (b : β) :
    l.filterMap (fun x => if x = a then some b else none) = if a ∈ l then [b] else [] := by
  induction l with
  | nil => rfl
  | cons x l ih =>
    obtain ⟨hx, hl⟩ := nodup_cons.1 h
    by_cases ha : x = a
    · subst ha
      simp [ih hl, hx]
    · simp [ih hl, ha, Ne.symm ha]

section

variable [DecidableEq κ] {f : α → κ}

theorem find?_key_eq_none {k : κ} (h : k ∉ l.map f) : l.find? (f · = k) = none := by
  rw [find?_eq_none]
  intro x hx heq
  exact h (mem_map.2 ⟨x, hx, by simpa using heq⟩)

theorem find?_key_eq_some (hnodup : (l.map f).Nodup) {x : α} (hx : x ∈ l) {k : κ}
    (hk : f x = k) : l.find? (f · = k) = some x := by
  have hsome : (l.find? (f · = k)).isSome := find?_isSome.2 ⟨x, hx, by simpa using hk⟩
  obtain ⟨y, hy⟩ := Option.isSome_iff_exists.1 hsome
  have hkey : f y = k := by simpa using find?_some hy
  rw [← hk] at hkey
  rw [hy, inj_on_of_nodup_map hnodup (mem_of_find?_eq_some hy) hx hkey]

end

theorem eq_ok_of_mem {ε : Type*} {x : Except ε α} {a : α} (h : a ∈ x.toOption) : x = .ok a := by
  cases x with
  | error _ => cases h
  | ok _ => cases h; rfl

end PulseRTC.Foundations
