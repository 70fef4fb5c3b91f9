import Mathlib.Data.List.GetD
import Mathlib.Data.List.TakeDrop

/-!
# Slices with checked bounds

A program that works on a slice by indices, as it runs: every read and every write names its
place, and one outside the length of the slice is a run-time panic, here the error `OutOfRange`.
The bound is the length, not the capacity, so a program without an error stays within the bytes it
was given.

The lemmas say what an access yields that is within bounds.
-/

namespace PulseRTC.Foundations.Slices

universe u

variable {α : Type u}

/-- An access outside a slice. -/
inductive OutOfRange
  | index (i length : ℕ)
  | slice (low high length : ℕ)
  deriving DecidableEq

/-- `b[i]`. -/
def get (b : List α) (i : ℕ) : Except OutOfRange α :=
  match b[i]? with
  | some x => .ok x
  | none => .error (.index i b.length)

/-- `b[low:high]`. -/
def slice (b : List α) (low high : ℕ) : Except OutOfRange (List α) :=
  if low ≤ high ∧ high ≤ b.length then .ok ((b.drop low).take (high - low))
  else .error (.slice low high b.length)

/-- `b[i] = x`. -/
def put (b : List α) (i : ℕ) (x : α) : Except OutOfRange (List α) :=
  if i < b.length then .ok (b.set i x) else .error (.index i b.length)

/-- `copy(b[low:high], src)`: as many elements as both have. -/
def copyTo (b : List α) (low high : ℕ) (src : List α) : Except OutOfRange (List α) :=
  if low ≤ high ∧ high ≤ b.length then
    .ok (b.take low ++ src.take (high - low) ++ b.drop (low + min src.length (high - low)))
  else .error (.slice low high b.length)

@[simp] theorem ok_bind {α β : Type u} (x : α) (f : α → Except OutOfRange β) :
    (Except.ok x >>= f) = f x := rfl

variable {b : List α} {i : ℕ} {low high : ℕ}

theorem get_eq_ok (h : i < b.length) (d : α) : get b i = .ok (b.getD i d) := by
  unfold get
  rw [List.getElem?_eq_getElem h, List.getD_eq_getElem b d h]

theorem slice_eq_ok (h : low ≤ high) (h' : high ≤ b.length) :
    slice b low high = .ok ((b.drop low).take (high - low)) :=
  if_pos ⟨h, h'⟩

/-- `b[low:]`. -/
theorem slice_length_eq_ok {low : ℕ} (h : low ≤ b.length) :
    slice b low b.length = .ok (b.drop low) := by
  rw [slice_eq_ok h (Nat.le_refl _), List.take_of_length_le (by simp)]

theorem put_append (pre post : List α) (h : pre.length = i) (x y : α) :
    put (pre ++ y :: post) i x = .ok (pre ++ x :: post) := by
  subst h
  unfold put
  rw [if_pos (by simp), List.set_append_right _ _ (Nat.le_refl _), Nat.sub_self, List.set_cons_zero]

/-- A copy into a slice that has room for all elements overwrites as many as there are. -/
theorem copyTo_append {pre mid post src : List α} (h : mid.length = src.length)
    (hpre : pre.length = low) (hlow : low + src.length ≤ high)
    (hhigh : high ≤ (pre ++ (mid ++ post)).length) :
    copyTo (pre ++ (mid ++ post)) low high src = .ok (pre ++ (src ++ post)) := by
  subst hpre
  have hroom : src.length ≤ high - pre.length := by omega
  unfold copyTo
  rw [if_pos ⟨by omega, hhigh⟩, Nat.min_eq_left hroom, List.take_of_length_le hroom]
  simp [← h]

end PulseRTC.Foundations.Slices
