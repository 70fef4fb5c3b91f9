import Mathlib.Data.List.Basic

/-!
# Strings with a length byte

A wire format that writes a byte string as one byte of length and then the string. The length is
written modulo 256, so that only strings of at most 255 bytes are read back (`read_write`), and
what is read is never longer (`length_of_read`).
-/

namespace PulseRTC.Foundations

/-- Byte strings. -/
abbrev Bytes := List UInt8

namespace Prefixed

/-- The length byte, then the string. -/
def write (s : Bytes) : Bytes := UInt8.ofNat s.length :: s

/-- The string after the length byte, and the rest. -/
def read : Bytes → Option (Bytes × Bytes)
  | [] => none
  | n :: r => if n.toNat ≤ r.length then some (r.take n.toNat, r.drop n.toNat) else none

theorem read_write {s : Bytes} (h : s.length ≤ 255) (r : Bytes) :
    read (write s ++ r) = some (s, r) := by
  have hn : (UInt8.ofNat s.length).toNat = s.length := by
    rw [UInt8.toNat_ofNat']
    omega
  simp [read, write, hn]

theorem length_of_read {p s r : Bytes} (h : read p = some (s, r)) : s.length ≤ 255 := by
  cases p with
  | nil => cases h
  | cons n p =>
    simp only [read] at h
    split_ifs at h with hle
    obtain ⟨rfl, -⟩ := Prod.mk.inj (Option.some.inj h)
    have hn : n.toNat < 256 := n.toNat_lt
    have htake : (p.take n.toNat).length ≤ n.toNat := List.length_take_le _ _
    omega

/-- What is read is what was written. -/
theorem write_of_read {p s r : Bytes} (h : read p = some (s, r)) : write s ++ r = p := by
  cases p with
  | nil => cases h
  | cons n p =>
    simp only [read] at h
    split_ifs at h with hle
    cases h
    have hlen : (p.take n.toNat).length = n.toNat := List.length_take_of_le hle
    simp [write, hlen]

end Prefixed

end PulseRTC.Foundations
