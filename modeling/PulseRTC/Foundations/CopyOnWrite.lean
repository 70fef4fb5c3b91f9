import Mathlib.Order.Basic

/-!
# Copy-on-write cells

An atomic pointer to a list that is never changed in place. A writer loads the pointer, makes a
changed copy and swaps the pointer, which fails if another writer has swapped it in between; then
it starts again. Every swap stores a new pointer, so pointers are version numbers here. Version
zero is the nil pointer.

A value that was loaded earlier may be out of date, but it can be told from the current one
(`Cell.Coherent`), so a swap that succeeds changes the list as it is (`Cell.swap_eq_some`).
-/

namespace PulseRTC.Foundations

/-- What an atomic pointer points to. A loaded value is a copy of the cell. -/
structure Cell (α : Type*) where
  version : ℕ := 0
  list : List α := []
  deriving DecidableEq

namespace Cell

variable {α : Type*}

/-- `CompareAndSwap`: the list is replaced if the cell is still what was loaded as `cur`. -/
def swap (c cur : Cell α) (next : List α) : Option (Cell α) :=
  if c.version = cur.version then some ⟨c.version + 1, next⟩ else none

/-- `cur` was loaded from the cell at some time. -/
def Coherent (c cur : Cell α) : Prop :=
  cur.version ≤ c.version ∧ (cur.version = c.version → cur = c)

theorem Coherent.refl (c : Cell α) : c.Coherent c := ⟨Nat.le_refl _, fun _ => rfl⟩

variable {c c' cur old : Cell α} {next : List α}

/-- What was loaded before a swap is out of date after it. -/
theorem Coherent.swap (h : c.Coherent cur) (hswap : c.swap old next = some c') :
    c'.Coherent cur := by
  unfold Cell.swap at hswap
  split_ifs at hswap
  cases hswap
  refine ⟨Nat.le_succ_of_le h.1, fun heq => ?_⟩
  exact absurd heq (Nat.ne_of_lt (Nat.lt_succ_of_le h.1))

/-- A swap that succeeds has found the cell as it was loaded. -/
theorem swap_eq_some (h : c.Coherent cur) (hswap : c.swap cur next = some c') :
    cur = c ∧ c'.list = next := by
  unfold Cell.swap at hswap
  split_ifs at hswap with heq
  cases hswap
  exact ⟨h.2 heq.symm, rfl⟩

/-- The pointer is not nil after a swap. -/
theorem swap_version (hswap : c.swap cur next = some c') : c'.version ≠ 0 := by
  unfold Cell.swap at hswap
  split_ifs at hswap
  cases hswap
  exact Nat.succ_ne_zero _

end Cell

end PulseRTC.Foundations
