import Mathlib.Data.Rat.Floor
import PulseRTC.Sdk.Participants

/-!
# Reconnect delays

Server and client each compute how long to wait before a reconnect: the server in nanoseconds and
in whole ones, the client in milliseconds. Floating-point numbers are exact rationals here.

* `backoff_agrees`: both compute the same delay, and where it lies.
-/

namespace PulseRTC.Sdk

/-- `nextReconnectDelay` of the client, in milliseconds. -/
def nextReconnectDelay (attempt : ℤ) (hints : ReconnectHints) (rnd : ℚ) : ℚ :=
  let n := max 0 attempt
  let base := min (hints.initialDelayMs * 2 ^ n.toNat) hints.maxDelayMs
  base + if hints.jitter > 0 then rnd * base * hints.jitter else 0

end PulseRTC.Sdk

namespace PulseRTC.Signaling

/-- `ReconnectHints`; durations are in nanoseconds. -/
structure ReconnectHints where
  initialDelay : ℤ
  maxDelay : ℤ
  jitterFrac : ℚ
  deriving DecidableEq

/-- The conversion of a number to a `time.Duration`, which cuts it off towards zero. -/
def duration (x : ℚ) : ℤ := if 0 ≤ x then ⌊x⌋ else ⌈x⌉

/-- `nextReconnectDelay` of the server; `rnd` is what the source of random numbers returns, if there
is one. -/
def nextReconnectDelay (n : ℤ) (h : ReconnectHints) (rnd : Option ℚ) : ℤ :=
  let initial := if h.initialDelay ≤ 0 then 500000000 else h.initialDelay
  let max := if h.maxDelay ≤ 0 then 10000000000 else h.maxDelay
  let n := if n < 0 then 0 else n
  let base : ℚ := initial * 2 ^ n.toNat
  let base := if base > max then (max : ℚ) else base
  match rnd with
  | none => duration base
  | some r => duration (if h.jitterFrac > 0 then base + r * base * h.jitterFrac else base)

namespace ReconnectHints

/-- The same hints in milliseconds. -/
def inMilliseconds (h : ReconnectHints) : Sdk.ReconnectHints :=
  ⟨h.initialDelay / 10 ^ 6, h.maxDelay / 10 ^ 6, h.jitterFrac⟩

/-- The delay without jitter. -/
def base (h : ReconnectHints) (n : ℕ) : ℤ := min (h.initialDelay * 2 ^ n) h.maxDelay

variable {h : ReconnectHints} {n : ℕ} {r : ℚ}

theorem base_pos (hinit : 0 < h.initialDelay) (hmax : 0 < h.maxDelay) : 0 < h.base n :=
  lt_min (by positivity) hmax

theorem base_mono (hinit : 0 < h.initialDelay) {m : ℕ} (hmn : m ≤ n) : h.base m ≤ h.base n := by
  have hpow : (2 : ℤ) ^ m ≤ 2 ^ n := pow_le_pow_right₀ (by simp) hmn
  exact min_le_min_right _ (mul_le_mul_of_nonneg_left hpow hinit.le)

/-- Once the power has passed the maximum, so has the product. -/
theorem base_eq_max (hinit : 0 < h.initialDelay) (hn : h.maxDelay.toNat ≤ n) :
    h.base n = h.maxDelay := by
  have hpow : (n : ℤ) < 2 ^ n := by exact_mod_cast n.lt_two_pow_self
  have hmul : (2 : ℤ) ^ n ≤ h.initialDelay * 2 ^ n := le_mul_of_one_le_left (by positivity) hinit
  exact min_eq_right (by omega)

theorem client_eq (hj : 0 ≤ h.jitterFrac) :
    10 ^ 6 * Sdk.nextReconnectDelay n h.inMilliseconds r = h.base n * (1 + r * h.jitterFrac) := by
  have hbase : min (h.initialDelay / 10 ^ 6 * 2 ^ n : ℚ) (h.maxDelay / 10 ^ 6 : ℚ) =
      (h.base n / 10 ^ 6 : ℚ) := by
    rw [div_mul_eq_mul_div, min_div_div_right (by positivity), base]
    push_cast
    rfl
  have hjitter (b : ℚ) : (if h.jitterFrac > 0 then r * b * h.jitterFrac else 0) =
      r * b * h.jitterFrac := by
    split_ifs with hpos
    · rfl
    · rw [le_antisymm (not_lt.1 hpos) hj, mul_zero]
  simp only [Sdk.nextReconnectDelay, inMilliseconds, max_eq_right (Int.natCast_nonneg n),
    Int.toNat_natCast, hbase, hjitter]
  ring

theorem server_eq (hinit : 0 < h.initialDelay) (hmax : 0 < h.maxDelay) (hj : 0 ≤ h.jitterFrac) :
    nextReconnectDelay n h (some r) = duration (h.base n * (1 + r * h.jitterFrac)) := by
  have hbase : (if (h.initialDelay : ℚ) * 2 ^ n > h.maxDelay then (h.maxDelay : ℚ)
      else h.initialDelay * 2 ^ n) = h.base n := by
    rw [base]
    push_cast
    rw [min_comm, min_def_lt]
  have hjitter (b : ℚ) : (if h.jitterFrac > 0 then b + r * b * h.jitterFrac else b) =
      b * (1 + r * h.jitterFrac) := by
    split_ifs with hpos
    · ring
    · rw [le_antisymm (not_lt.1 hpos) hj, mul_zero, add_zero, mul_one]
  simp only [nextReconnectDelay, if_neg hinit.not_ge, if_neg hmax.not_ge,
    if_neg (Int.natCast_nonneg n).not_gt, Int.toNat_natCast, hbase, hjitter]

end ReconnectHints

open ReconnectHints in
/-- **Server and client agree on the reconnect delay**: it is the same up to its fraction of a
nanosecond, it lies between the delay without jitter and that with the whole of it, and a
`time.Duration` holds it; the delay without jitter grows and reaches the maximum. -/
theorem backoff_agrees {h : ReconnectHints} (hinit : 0 < h.initialDelay) (hmax : 0 < h.maxDelay)
    (hlim : h.maxDelay ≤ 2 ^ 61) (hj : h.jitterFrac ∈ Set.Icc 0 1) :
    (∀ (n : ℕ), ∀ r ∈ Set.Ico (0 : ℚ) 1,
      let server := nextReconnectDelay n h (some r)
      let client := 10 ^ 6 * Sdk.nextReconnectDelay n h.inMilliseconds r
      server = ⌊client⌋ ∧ server < 2 ^ 63 ∧
        (server : ℚ) ∈ Set.Icc (h.base n : ℚ) (h.base n * (1 + h.jitterFrac)) ∧
        client ∈ Set.Icc (h.base n : ℚ) (h.base n * (1 + h.jitterFrac))) ∧
      (∀ m n, m ≤ n → h.base m ≤ h.base n) ∧ ∃ N, ∀ n ≥ N, h.base n = h.maxDelay := by
  refine ⟨fun n r hr => ?_, fun m n => base_mono hinit, h.maxDelay.toNat,
    fun n => base_eq_max hinit⟩
  have hpos : (0 : ℚ) < h.base n := by exact_mod_cast base_pos hinit hmax
  have hle : (h.base n : ℚ) ≤ 2 ^ 61 := by exact_mod_cast (min_le_right _ _).trans hlim
  have hlow : (h.base n : ℚ) ≤ h.base n * (1 + r * h.jitterFrac) :=
    le_mul_of_one_le_right hpos.le (by linarith [mul_nonneg hr.1 hj.1])
  have hhigh : (h.base n : ℚ) * (1 + r * h.jitterFrac) ≤ h.base n * (1 + h.jitterFrac) := by
    gcongr
    exact mul_le_of_le_one_left hj.1 hr.2.le
  have hfloor : duration (h.base n * (1 + r * h.jitterFrac)) =
      ⌊(h.base n : ℚ) * (1 + r * h.jitterFrac)⌋ := if_pos (hpos.le.trans hlow)
  have hcut := Int.floor_le ((h.base n : ℚ) * (1 + r * h.jitterFrac))
  dsimp only
  rw [client_eq hj.1, server_eq hinit hmax hj.1, hfloor]
  refine ⟨rfl, ?_, ⟨by exact_mod_cast Int.le_floor.2 hlow, hcut.trans hhigh⟩, hlow, hhigh⟩
  rw [Int.floor_lt]
  have hdouble : (h.base n : ℚ) * (1 + h.jitterFrac) ≤ 2 ^ 61 * 2 :=
    mul_le_mul hle (by linarith [hj.2]) (by linarith [hj.1]) (by positivity)
  push_cast
  linarith

/-- The fourth attempt with the default hints. -/
theorem backoff_agrees_default :
    let h : ReconnectHints := ⟨500000000, 10000000000, 1 / 5⟩
    nextReconnectDelay 3 h (some (1 / 2)) =
        ⌊10 ^ 6 * Sdk.nextReconnectDelay 3 h.inMilliseconds (1 / 2)⌋ ∧
      (∀ m n, m ≤ n → h.base m ≤ h.base n) ∧ ∃ N, ∀ n ≥ N, h.base n = h.maxDelay := by
  intro h
  obtain ⟨hdelay, hbase⟩ := backoff_agrees (h := h) (by simp [h]) (by simp [h]) (by norm_num [h])
    ⟨by norm_num [h], by norm_num [h]⟩
  exact ⟨(hdelay 3 (1 / 2) ⟨by norm_num, by norm_num⟩).1, hbase⟩

end PulseRTC.Signaling
