import PulseRTC.Quality.Engine

/-!
# What hysteresis does to a sequence of verdicts

The stabilizer remembers one candidate and how often it came. `feed_stable_iff` says what it does in
terms of everything it was told: the status changes to another one exactly when the last verdicts,
as many as are needed for this change, are all the new status. The invariant is `Counts`.
-/

namespace PulseRTC.Quality

open Foundations List

namespace Stabilizer

/-- How often a verdict has come in a row. -/
def count (s : Stabilizer) (t : Status) : ℤ := if s.candidate = some t then s.streak else 0

theorem observe_stable (s : Stabilizer) :
    s.observe s.stable = ({ s with candidate := some s.stable, streak := 0 }, false) := by
  rw [observe, if_pos rfl]

theorem observe_of_ne {s : Stabilizer} {raw : Status} (h : raw ≠ s.stable) :
    s.observe raw =
      if s.need raw ≤ s.count raw + 1 then
        ({ s with stable := raw, candidate := some raw, streak := 0 }, true)
      else ({ s with candidate := some raw, streak := s.count raw + 1 }, false) := by
  rw [observe, if_neg h, count]
  by_cases hc : s.candidate = some raw
  · simp only [if_pos hc]
    rw [← hc]
    rfl
  · simp only [if_neg hc, zero_add]
    rfl

/-- The answer says whether the status has changed. -/
theorem observe_snd (s : Stabilizer) (raw : Status) :
    (s.observe raw).2 = true ↔ (s.observe raw).1.stable ≠ s.stable := by
  by_cases h : raw = s.stable
  · subst h
    simp [observe_stable]
  · rw [observe_of_ne h]
    split_ifs <;> simp [h]

end Stabilizer

/-! ## Sequences of verdicts -/

/-- The stabilizer after a sequence of verdicts. -/
def feed (cfg : Config) (raws : List Status) : Stabilizer :=
  raws.foldl (fun s raw => (s.observe raw).1) (newStabilizer cfg)

theorem feed_concat (cfg : Config) (raws : List Status) (raw : Status) :
    feed cfg (raws ++ [raw]) = ((feed cfg raws).observe raw).1 :=
  foldl_append

/-- How many verdicts a change takes: more are needed for a recovery, from one known status to a
better one. -/
def Config.needed (c : Config) (stable t : Status) : ℤ :=
  if stable ≠ .unknown ∧ t ≠ .unknown ∧ rank t < rank stable then c.recoverSamples
  else c.degradeSamples

/-- The end of a sequence with one more verdict. -/
theorem replicate_suffix_concat {raws : List Status} {raw t : Status} {n : ℕ} :
    List.replicate (n + 1) t <:+ raws ++ [raw] ↔ raw = t ∧ List.replicate n t <:+ raws := by
  rw [replicate_succ', suffix_concat_iff]
  constructor
  · rintro (h | ⟨l, hl, hsuf⟩)
    · exact absurd h (append_ne_nil_of_right_ne_nil _ (cons_ne_nil _ _))
    · obtain ⟨rfl, ht⟩ := append_inj' hl rfl
      exact ⟨(singleton_inj.1 ht).symm, hsuf⟩
  · rintro ⟨rfl, hsuf⟩
    exact .inr ⟨_, rfl, hsuf⟩

/-- The stabilizer counts the verdicts at the end of the sequence. -/
structure Counts (cfg : Config) (raws : List Status) (s : Stabilizer) : Prop where
  degrade : s.degrade = cfg.degradeSamples
  recover : s.recover = cfg.recoverSamples
  streak_nonneg : 0 ≤ s.streak
  suffix_iff : ∀ t ≠ s.stable, ∀ n : ℕ, List.replicate n t <:+ raws ↔ (n : ℤ) ≤ s.count t

namespace Counts

variable {cfg : Config} {raws : List Status} {s : Stabilizer}

theorem need_eq (h : Counts cfg raws s) (t : Status) : s.need t = cfg.needed s.stable t := by
  have hknown (a : Status) : 0 ≤ rank a ↔ a ≠ .unknown := by cases a <;> decide
  simp only [Stabilizer.need, Config.needed, h.degrade, h.recover, hknown]

theorem count_nonneg (h : Counts cfg raws s) (t : Status) : 0 ≤ s.count t := by
  unfold Stabilizer.count
  split_ifs
  · exact h.streak_nonneg
  · exact le_rfl

/-- The verdict that just came has come once more, and no other one at the end. -/
theorem suffix_concat_iff (h : Counts cfg raws s) {raw t : Status} (ht : t ≠ s.stable) (n : ℕ) :
    List.replicate n t <:+ raws ++ [raw] ↔ (n : ℤ) ≤ if raw = t then s.count t + 1 else 0 := by
  have hnonneg := h.count_nonneg t
  cases n with
  | zero =>
    rw [replicate_zero]
    refine iff_of_true nil_suffix ?_
    split_ifs <;> simp only [Nat.cast_zero] <;> omega
  | succ n =>
    rw [replicate_suffix_concat, h.suffix_iff t ht]
    split_ifs with hraw
    · rw [and_iff_right hraw]
      push_cast
      omega
    · refine iff_of_false (fun hand => hraw hand.1) ?_
      push_cast
      omega

theorem observe (h : Counts cfg raws s) (raw : Status) :
    Counts cfg (raws ++ [raw]) (s.observe raw).1 := by
  have hnonneg := h.count_nonneg raw
  by_cases hraw : raw = s.stable
  · subst hraw
    rw [Stabilizer.observe_stable]
    refine ⟨h.degrade, h.recover, le_rfl, fun t ht n => ?_⟩
    rw [h.suffix_concat_iff ht, if_neg (Ne.symm ht)]
    simp [Stabilizer.count]
  · rw [Stabilizer.observe_of_ne hraw]
    split_ifs
    · -- Of any status but the new one there is none at the end.
      refine ⟨h.degrade, h.recover, le_rfl, fun t ht n => ?_⟩
      have hcount : Stabilizer.count { s with stable := raw, candidate := some raw, streak := 0 } t
          = 0 := by simp [Stabilizer.count]
      rw [hcount]
      cases n with
      | zero => simp
      | succ n =>
        refine iff_of_false (fun hsuf => ht (replicate_suffix_concat.1 hsuf).1.symm) ?_
        push_cast
        omega
    · refine ⟨h.degrade, h.recover, by simp only; omega, fun t ht n => ?_⟩
      rw [h.suffix_concat_iff ht]
      by_cases hrt : raw = t
      · subst hrt
        simp [Stabilizer.count]
      · simp [Stabilizer.count, hrt]

end Counts

theorem counts_feed (cfg : Config) (raws : List Status) : Counts cfg raws (feed cfg raws) := by
  induction raws using reverseRecOn with
  | nil =>
    refine ⟨rfl, rfl, le_rfl, fun t _ n => ?_⟩
    rw [suffix_nil, replicate_eq_nil_iff]
    simp [feed, newStabilizer, Stabilizer.count]
  | append_singleton raws raw ih =>
    rw [feed_concat]
    exact ih.observe raw

/-- **What the hysteresis does.** The status is unknown at first. It changes to another one exactly
when the last verdicts are all that status, as many as the change needs, and `observe` says so. -/
theorem feed_stable_iff (cfg : Config) (hd : 1 ≤ cfg.degradeSamples) (hr : 1 ≤ cfg.recoverSamples) :
    (feed cfg []).stable = .unknown ∧ ∀ raws raw,
      (((feed cfg raws).observe raw).2 = true ↔
        (feed cfg (raws ++ [raw])).stable ≠ (feed cfg raws).stable) ∧
      ∀ t, t ≠ (feed cfg raws).stable ∧ (feed cfg (raws ++ [raw])).stable = t ↔
        t ≠ (feed cfg raws).stable ∧
          List.replicate (cfg.needed (feed cfg raws).stable t).toNat t <:+ raws ++ [raw] := by
  refine ⟨rfl, fun raws raw => ⟨?_, fun t => and_congr_right fun ht => ?_⟩⟩
  · rw [feed_concat]
    exact Stabilizer.observe_snd _ _
  · have hcounts := counts_feed cfg raws
    have hneed : 1 ≤ cfg.needed (feed cfg raws).stable t := by
      unfold Config.needed
      split_ifs <;> assumption
    rw [hcounts.suffix_concat_iff ht, Int.toNat_of_nonneg (by omega), feed_concat]
    by_cases hraw : raw = (feed cfg raws).stable
    · rw [hraw, Stabilizer.observe_stable, if_neg (Ne.symm ht)]
      refine iff_of_false (Ne.symm ht) ?_
      omega
    · rw [Stabilizer.observe_of_ne hraw, hcounts.need_eq]
      by_cases hrt : raw = t
      · subst hrt
        rw [if_pos rfl]
        split_ifs with hle
        · exact iff_of_true rfl hle
        · exact iff_of_false (Ne.symm ht) hle
      · rw [if_neg hrt]
        refine iff_of_false ?_ (by omega)
        split_ifs
        · exact hrt
        · exact Ne.symm ht

/-- With the default configuration three verdicts make a stream good. -/
theorem feed_stable_default :
    (feed defaultConfig [.good, .good, .good]).stable = .good :=
  ((feed_stable_iff defaultConfig (by decide) (by decide)).2 [.good, .good] .good).2 .good |>.2
    ⟨by decide, by decide⟩ |>.2

/-! ## Flapping -/

/-- How often `observe` reports a change. -/
def Stabilizer.changes (s : Stabilizer) : List Status → ℕ
  | [] => 0
  | raw :: raws => (s.observe raw).2.toNat + (s.observe raw).1.changes raws

namespace Stabilizer

variable {s : Stabilizer} {k : ℤ} (hd : k ≤ s.degrade) (hr : k ≤ s.recover) (hs : 0 ≤ s.streak)
include hd hr hs

/-- A verdict adds one to the streak at most, and a change uses the streak up. -/
theorem observe_spends (raw : Status) :
    let out := s.observe raw
    out.1.degrade = s.degrade ∧ out.1.recover = s.recover ∧ 0 ≤ out.1.streak ∧
      k * out.2.toNat + out.1.streak ≤ s.streak + 1 := by
  have hcount : 0 ≤ s.count raw ∧ s.count raw ≤ s.streak := by
    unfold count
    split_ifs <;> simp [hs]
  have hneed : k ≤ s.need raw := by
    unfold need
    split_ifs <;> assumption
  by_cases h : raw = s.stable
  · subst h
    rw [observe_stable]
    exact ⟨rfl, rfl, le_rfl, by simp only [Bool.toNat_false]; omega⟩
  · rw [observe_of_ne h]
    split_ifs with hle
    · exact ⟨rfl, rfl, le_rfl, by simp only [Bool.toNat_true]; omega⟩
    · exact ⟨rfl, rfl, by simp only; omega, by simp only [Bool.toNat_false]; omega⟩

theorem changes_le (raws : List Status) : k * s.changes raws ≤ s.streak + raws.length := by
  induction raws generalizing s with
  | nil => simpa [changes] using hs
  | cons raw raws ih =>
    obtain ⟨hdegrade, hrecover, hstreak, hspends⟩ := observe_spends hd hr hs raw
    have hrest := ih (hdegrade ▸ hd) (hrecover ▸ hr) hstreak
    rw [changes, length_cons, Nat.cast_add, Int.mul_add]
    omega

end Stabilizer

/-- **The status does not flap.** Every change costs as many verdicts as the smaller of the two
thresholds, whatever the verdicts are. -/
theorem mul_changes_le (cfg : Config) (raws : List Status) :
    min cfg.degradeSamples cfg.recoverSamples * (newStabilizer cfg).changes raws ≤ raws.length := by
  have hle := Stabilizer.changes_le (s := newStabilizer cfg) (min_le_left _ _)
    (min_le_right _ _) le_rfl raws
  rwa [newStabilizer, zero_add] at hle

end PulseRTC.Quality
