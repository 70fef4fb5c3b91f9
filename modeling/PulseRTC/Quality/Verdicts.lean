import Mathlib.Algebra.Order.BigOperators.Group.List
import PulseRTC.Quality.Scoring

/-!
# What a verdict depends on

The rules of a kind are one for each of its metrics (`Metric.of`), and the loop over them adds up
penalties and keeps the worst band (`foldl_add`). What follows are laws of `analyze`.

* `verdict_monotone`: with ordered thresholds, worse metrics give no better verdict.
* `disabled_ignored_iff`: a metric whose thresholds are both zero costs no points but has a band
  nevertheless. Its value is ignored only if nothing depends on the band.
-/

namespace PulseRTC.Quality

open Foundations List

/-! ## Metrics -/

/-- The metrics with thresholds. -/
inductive Metric
  | loss
  | jitter
  | rtt
  | bitrate
  | fps
  | frameDrop
  deriving DecidableEq

namespace Metric

/-- The value of a metric. -/
def get (d : Derived) : Metric → Option ℚ
  | loss => d.lossPct
  | jitter => d.jitterMs
  | rtt => d.rttMs
  | bitrate => d.bitrateBps
  | fps => d.fps
  | frameDrop => d.frameDropPct

/-- The rates with another value of a metric. -/
def set (d : Derived) (v : Option ℚ) : Metric → Derived
  | loss => { d with lossPct := v }
  | jitter => { d with jitterMs := v }
  | rtt => { d with rttMs := v }
  | bitrate => { d with bitrateBps := v }
  | fps => { d with fps := v }
  | frameDrop => { d with frameDropPct := v }

/-- The first threshold. -/
def warn (t : MediaThresholds) : Metric → ℚ
  | loss => t.lossWarn
  | jitter => t.jitterWarn
  | rtt => t.rttWarn
  | bitrate => t.bitrateWarn
  | fps => t.fpsWarn
  | frameDrop => t.frameDropWarn

/-- The second threshold. -/
def poor (t : MediaThresholds) : Metric → ℚ
  | loss => t.lossPoor
  | jitter => t.jitterPoor
  | rtt => t.rttPoor
  | bitrate => t.bitratePoor
  | fps => t.fpsPoor
  | frameDrop => t.frameDropPoor

/-- The problem that a metric out of its range is. -/
def problem : Metric → Problem
  | loss => .highPacketLoss
  | jitter => .highJitter
  | rtt => .highRTT
  | bitrate => .lowBitrate
  | fps => .lowFPS
  | frameDrop => .highFrameDrop

/-- What a poor value costs; the round trip of a connection costs more. -/
def weight (k : Kind) : Metric → ℚ
  | loss => penLoss
  | jitter => penJitter
  | rtt => if k = .connection then penRTT + 10 else penRTT
  | bitrate => penBitrate
  | fps => penFPS
  | frameDrop => penFrameDrop

/-- The name of the metric in an analysis. -/
def metricKey : Metric → String
  | loss => "packetLossPct"
  | jitter => "jitterMs"
  | rtt => "rttMs"
  | bitrate => "bitrateBps"
  | fps => "fps"
  | frameDrop => "frameDropPct"

/-- Whether small values are bad. -/
def lowerWorse : Metric → Bool
  | bitrate | fps => true
  | _ => false

/-- The metrics of a kind, in the order of its rules. -/
def of : Kind → List Metric
  | .audio => [loss, jitter, rtt, bitrate]
  | .video => [loss, jitter, rtt, bitrate, fps, frameDrop]
  | .connection => [rtt, loss, jitter]

/-- The rule for a metric. -/
def rule (k : Kind) (t : MediaThresholds) (d : Derived) (m : Metric) : Rule :=
  ⟨m.problem, m.get d, m.warn t, m.poor t, m.weight k, m.lowerWorse, m.metricKey⟩

theorem get_set (d : Derived) (v : Option ℚ) (m n : Metric) :
    n.get (m.set d v) = if n = m then v else n.get d := by
  cases m <;> cases n <;> rfl

theorem problem_injective : Function.Injective problem := by
  intro m n h
  cases m <;> cases n <;> first | rfl | cases h

theorem weight_nonneg (k : Kind) (m : Metric) : 0 ≤ m.weight k := by
  cases m <;> simp only [weight]
  case rtt => split_ifs <;> norm_num [penRTT]
  all_goals norm_num [penLoss, penJitter, penBitrate, penFPS, penFrameDrop]

end Metric

/-- The verdicts that need no rules. -/
def settled (k : Kind) (d : Derived) : Option Analysis :=
  if !d.hasData then some { status := .unknown }
  else if !d.enabled then some { status := .unknown, problems := [.trackDisabled] }
  else if k = .connection ∧ d.connState ≠ "" ∧ d.connState ≠ "connected" then
    some { status := .poor, score := 0, problems := [.connectionUnstable] }
  else if k = .connection ∧ (d.iceState = "disconnected" ∨ d.iceState = "failed") then
    some { status := .poor, score := 10, problems := [.connectionUnstable] }
  else none

theorem settled_set (k : Kind) (d : Derived) (v : Option ℚ) (m : Metric) :
    settled k (m.set d v) = settled k d := by
  cases m <;> rfl

theorem analyze_eq (k : Kind) (d : Derived) (cfg : Config) :
    analyze k d cfg = (settled k d).getD
      (evalRules ((Metric.of k).map (Metric.rule k (cfg.thresholds k) d)) d cfg) := by
  unfold analyze settled
  cases k <;> simp only [analyzeConnection, reduceCtorEq, false_and, true_and, if_false] <;>
    split_ifs <;> rfl

/-! ## The loop over the rules -/

/-- The band that the value of a rule is in. -/
def Rule.band (r : Rule) : ℕ :=
  r.value.elim 0 fun v =>
    if r.lowerWorse then bandLow v r.warn r.poor else Quality.band v r.warn r.poor

/-- What the value of a rule costs. -/
def Rule.cost (r : Rule) : ℚ :=
  r.value.elim 0 fun v =>
    if r.lowerWorse then penaltyLow v r.warn r.poor r.pen else penalty v r.warn r.poor r.pen

theorem foldl_add (rules : List Rule) (a : Tally) :
    (rules.foldl Tally.add a).score = a.score - (rules.map Rule.cost).sum ∧
      (rules.foldl Tally.add a).problems =
        a.problems ++ (rules.filter fun r => 1 ≤ r.band).map Rule.problem ∧
      (rules.foldl Tally.add a).worstBand = (rules.map Rule.band).foldl max a.worstBand := by
  induction rules generalizing a with
  | nil => simp
  | cons r rules ih =>
    obtain ⟨hscore, hproblems, hband⟩ := ih (a.add r)
    rw [foldl_cons, hscore, hproblems, hband]
    unfold Tally.add
    cases hv : r.value with
    | none => simp [Rule.cost, Rule.band, hv]
    | some v =>
      refine ⟨?_, ?_, ?_⟩
      · simp only [map_cons, sum_cons, Rule.cost, hv, Option.elim_some]
        ring
      · simp only [Rule.band, hv, Option.elim_some, filter_cons, decide_eq_true_eq]
        split_ifs <;> simp
      · simp only [map_cons, foldl_cons, Rule.band, hv, Option.elim_some]

/-- What the metrics cost together. -/
def penalties (k : Kind) (t : MediaThresholds) (d : Derived) : ℚ :=
  ((Metric.of k).map fun m => (m.rule k t d).cost).sum

/-- The worst band of all metrics. -/
def worstBand (k : Kind) (t : MediaThresholds) (d : Derived) : ℕ :=
  ((Metric.of k).map fun m => (m.rule k t d).band).foldl max 0

section

variable {k : Kind} {d : Derived} {cfg : Config}

theorem score_analyze (h : settled k d = none) :
    (analyze k d cfg).score = clampScore (100 - penalties k (cfg.thresholds k) d) := by
  rw [analyze_eq, h, penalties, ← Function.comp_def Rule.cost, ← map_map]
  exact congrArg clampScore (foldl_add _ {}).1

theorem problems_analyze (h : settled k d = none) :
    (analyze k d cfg).problems =
      ((Metric.of k).filter fun m => 1 ≤ (m.rule k (cfg.thresholds k) d).band).map
        Metric.problem := by
  rw [analyze_eq, h]
  refine (foldl_add _ {}).2.1.trans ?_
  rw [nil_append, filter_map, map_map]
  rfl

theorem status_analyze (h : settled k d = none) :
    (analyze k d cfg).status = worst (cfg.statusFromScore (analyze k d cfg).score)
      (statusFromBand (worstBand k (cfg.thresholds k) d)) := by
  rw [analyze_eq, h, worstBand, ← Function.comp_def Rule.band, ← map_map]
  exact congrArg (fun b => worst _ (statusFromBand b)) (foldl_add _ {}).2.2

theorem mem_problems_analyze (h : settled k d = none) {p : Problem} :
    p ∈ (analyze k d cfg).problems ↔
      ∃ m ∈ Metric.of k, 1 ≤ (m.rule k (cfg.thresholds k) d).band ∧ m.problem = p := by
  rw [problems_analyze h]
  simp only [mem_map, mem_filter, decide_eq_true_eq, and_assoc]

end

theorem clampScore_mem (s : ℚ) : 0 ≤ clampScore s ∧ clampScore s ≤ 100 := by
  have hlow : (0 : ℚ) ≤ max 0 (min 100 s) := le_max_left _ _
  have hhigh : max 0 (min 100 s) ≤ 100 := max_le (by norm_num) (min_le_left _ _)
  unfold clampScore
  refine ⟨Int.floor_nonneg.2 (by linarith), Int.lt_add_one_iff.1 (Int.floor_lt.2 ?_)⟩
  push_cast
  linarith

theorem clampScore_mono {s s' : ℚ} (h : s' ≤ s) : clampScore s' ≤ clampScore s := by
  refine Int.floor_le_floor (add_le_add_left ?_ _)
  exact max_le_max le_rfl (min_le_min le_rfl h)

/-! ## Worse metrics -/

theorem rank_worst (a b : Status) : rank (worst a b) = max (rank a) (rank b) := by
  cases a <;> cases b <;> rfl

theorem rank_statusFromScore (c : Config) {s s' : ℤ} (h : s' ≤ s) :
    rank (c.statusFromScore s) ≤ rank (c.statusFromScore s') := by
  unfold Config.statusFromScore
  split_ifs <;> simp only [rank] <;> omega

theorem rank_statusFromBand {b b' : ℕ} (h : b ≤ b') (hb' : b' ≤ 2) :
    rank (statusFromBand b) ≤ rank (statusFromBand b') := by
  unfold statusFromBand
  split_ifs <;> simp only [rank] <;> omega

theorem band_mono {v v' warn poor : ℚ} (h : v ≤ v') : band v warn poor ≤ band v' warn poor := by
  unfold band
  split_ifs <;> first | omega | linarith

theorem bandLow_mono {v v' warn poor : ℚ} (h : v' ≤ v) :
    bandLow v warn poor ≤ bandLow v' warn poor := by
  unfold bandLow
  split_ifs <;> first | omega | linarith

/-- A penalty grows from zero at `a` to `m` at `b`. -/
def ramp (a b m x : ℚ) : ℚ := if x ≤ a then 0 else if b ≤ x then m else m * (x - a) / (b - a)

theorem ramp_mono {a b m x y : ℚ} (hab : a < b) (hm : 0 ≤ m) (hxy : x ≤ y) :
    ramp a b m x ≤ ramp a b m y := by
  have hpos : 0 < b - a := by linarith
  unfold ramp
  split_ifs with hx hy hy' hy hb hy
  · exact le_rfl
  · exact hm
  · exact div_nonneg (mul_nonneg hm (by linarith)) hpos.le
  · linarith
  · exact le_rfl
  · linarith
  · linarith
  · rw [div_le_iff₀ hpos]
    exact mul_le_mul_of_nonneg_left (by linarith) hm
  · gcongr

theorem penalty_eq {v warn poor pen : ℚ} (h : 0 < warn) :
    penalty v warn poor pen = ramp warn poor pen v := by
  rw [penalty, if_neg fun hand => hand.1.not_gt h, ramp]

theorem penaltyLow_eq {v warn poor pen : ℚ} (h : 0 < poor) :
    penaltyLow v warn poor pen = ramp (-warn) (-poor) pen (-v) := by
  rw [penaltyLow, if_neg fun hand => hand.2.not_gt h, ramp]
  simp only [neg_le_neg_iff, neg_sub_neg]

namespace Metric

/-- The thresholds are positive, and the second one is worse. -/
def Ordered (t : MediaThresholds) (m : Metric) : Prop :=
  if m.lowerWorse then 0 < m.poor t ∧ m.poor t < m.warn t else 0 < m.warn t ∧ m.warn t < m.poor t

/-- The second value is at least as bad. -/
def Worse (m : Metric) (v v' : ℚ) : Prop := if m.lowerWorse then v' ≤ v else v ≤ v'

variable {m : Metric} {k : Kind} {t : MediaThresholds} {d d' : Derived}

theorem band_rule (m : Metric) : (m.rule k t d).band = (m.get d).elim 0 fun v =>
    if m.lowerWorse then bandLow v (m.warn t) (m.poor t) else band v (m.warn t) (m.poor t) :=
  rfl

theorem cost_rule (m : Metric) : (m.rule k t d).cost = (m.get d).elim 0 fun v =>
    if m.lowerWorse then penaltyLow v (m.warn t) (m.poor t) (m.weight k)
    else penalty v (m.warn t) (m.poor t) (m.weight k) :=
  rfl

theorem band_le_two (m : Metric) : (m.rule k t d).band ≤ 2 := by
  unfold Rule.band
  cases (m.rule k t d).value with
  | none => exact Nat.zero_le 2
  | some v =>
    simp only [Option.elim_some, bandLow, Quality.band]
    split_ifs <;> decide

theorem band_mono (h : Option.Rel m.Worse (m.get d) (m.get d')) :
    (m.rule k t d).band ≤ (m.rule k t d').band := by
  rw [band_rule, band_rule]
  generalize m.get d = value, m.get d' = value' at h ⊢
  cases h with
  | none => exact le_rfl
  | @some v v' hv =>
    simp only [Option.elim_some]
    unfold Worse at hv
    by_cases hm : m.lowerWorse
    · rw [if_pos hm] at hv ⊢
      rw [if_pos hm]
      exact bandLow_mono hv
    · rw [if_neg hm] at hv ⊢
      rw [if_neg hm]
      exact Quality.band_mono hv

theorem cost_mono (ht : m.Ordered t) (h : Option.Rel m.Worse (m.get d) (m.get d')) :
    (m.rule k t d).cost ≤ (m.rule k t d').cost := by
  rw [cost_rule, cost_rule]
  generalize m.get d = value, m.get d' = value' at h ⊢
  cases h with
  | none => exact le_rfl
  | @some v v' hv =>
    simp only [Option.elim_some]
    unfold Ordered at ht
    unfold Worse at hv
    by_cases hm : m.lowerWorse
    · rw [if_pos hm] at ht hv ⊢
      rw [if_pos hm, penaltyLow_eq ht.1, penaltyLow_eq ht.1]
      exact ramp_mono (neg_lt_neg ht.2) (m.weight_nonneg k) (neg_le_neg hv)
    · rw [if_neg hm] at ht hv ⊢
      rw [if_neg hm, penalty_eq ht.1, penalty_eq ht.1]
      exact ramp_mono ht.2 (m.weight_nonneg k) hv

end Metric

/-- The same is reported, with each metric of the second at least as bad. -/
structure WorseMetrics (d d' : Derived) : Prop where
  hasData : d'.hasData = d.hasData
  enabled : d'.enabled = d.enabled
  dtSeconds : d'.dtSeconds = d.dtSeconds
  width : d'.width = d.width
  height : d'.height = d.height
  connState : d'.connState = d.connState
  iceState : d'.iceState = d.iceState
  metric : ∀ m : Metric, Option.Rel m.Worse (m.get d) (m.get d')

theorem WorseMetrics.settled_eq {d d' : Derived} (h : WorseMetrics d d') (k : Kind) :
    settled k d' = settled k d := by
  unfold settled
  rw [h.hasData, h.enabled, h.connState, h.iceState]

theorem score_settled {k : Kind} {d : Derived} {a : Analysis} (h : settled k d = some a) :
    0 ≤ a.score ∧ a.score ≤ 100 := by
  unfold settled at h
  split_ifs at h <;> cases h <;> decide

theorem worstBand_le_iff {k : Kind} {t : MediaThresholds} {d : Derived} {b : ℕ} :
    worstBand k t d ≤ b ↔ ∀ m ∈ Metric.of k, (m.rule k t d).band ≤ b := by
  have hmax : worstBand k t d ≤ b ↔
      ∀ x ∈ 0 :: (Metric.of k).map fun m => (m.rule k t d).band, x ≤ b :=
    List.max_le_iff (cons_ne_nil _ _)
  rw [hmax, forall_mem_cons, forall_mem_map, and_iff_right (Nat.zero_le b)]

/-- **Worse metrics never give a better verdict**, and a score is between 0 and 100. -/
theorem verdict_monotone (k : Kind) (cfg : Config) {d d' : Derived}
    (ht : ∀ m ∈ Metric.of k, m.Ordered (cfg.thresholds k)) (h : WorseMetrics d d') :
    (analyze k d' cfg).score ≤ (analyze k d cfg).score ∧
      rank (analyze k d cfg).status ≤ rank (analyze k d' cfg).status ∧
      (analyze k d cfg).problems ⊆ (analyze k d' cfg).problems ∧
      0 ≤ (analyze k d cfg).score ∧ (analyze k d cfg).score ≤ 100 := by
  have hset := h.settled_eq k
  cases hs : settled k d with
  | some a =>
    rw [analyze_eq, analyze_eq, hset, hs]
    exact ⟨le_rfl, le_rfl, List.Subset.refl _, score_settled hs⟩
  | none =>
    have hs' := hset.trans hs
    have hband (m : Metric) : (m.rule k (cfg.thresholds k) d).band ≤
        (m.rule k (cfg.thresholds k) d').band := Metric.band_mono (h.metric m)
    have hscore : (analyze k d' cfg).score ≤ (analyze k d cfg).score := by
      rw [score_analyze hs, score_analyze hs']
      refine clampScore_mono (sub_le_sub_left ?_ _)
      exact sum_le_sum fun m hm => Metric.cost_mono (ht m hm) (h.metric m)
    have hworst : worstBand k (cfg.thresholds k) d ≤ worstBand k (cfg.thresholds k) d' :=
      worstBand_le_iff.2 fun m hm => (hband m).trans (worstBand_le_iff.1 le_rfl m hm)
    refine ⟨hscore, ?_, fun p hp => ?_, ?_⟩
    · rw [status_analyze hs, status_analyze hs', rank_worst, rank_worst]
      exact max_le_max (rank_statusFromScore cfg hscore)
        (rank_statusFromBand hworst (worstBand_le_iff.2 fun m _ => m.band_le_two))
    · obtain ⟨m, hm, hone, rfl⟩ := (mem_problems_analyze hs).1 hp
      exact (mem_problems_analyze hs').2 ⟨m, hm, hone.trans (hband m), rfl⟩
    · rw [score_analyze hs]
      exact clampScore_mem _

/-- A round trip of 300 instead of 100 ms over a connection with the default thresholds. -/
theorem verdict_monotone_rtt :
    (analyze .connection { hasData := true, enabled := true, rttMs := some 300 }
        defaultConfig).score ≤
      (analyze .connection { hasData := true, enabled := true, rttMs := some 100 }
        defaultConfig).score := by
  have hworse : WorseMetrics { hasData := true, enabled := true, rttMs := some 100 }
      { hasData := true, enabled := true, rttMs := some 300 } := by
    refine ⟨rfl, rfl, rfl, rfl, rfl, rfl, rfl, fun m => ?_⟩
    cases m
    case rtt => exact .some (by norm_num [Metric.Worse, Metric.lowerWorse])
    all_goals exact .none
  refine (verdict_monotone .connection defaultConfig ?_ hworse).1
  norm_num [Metric.of, Metric.Ordered, Metric.lowerWorse, Metric.warn, Metric.poor,
    Config.thresholds, defaultConfig]

/-! ## Disabled metrics -/

namespace Metric

/-- A value that counts as poor although both thresholds are zero. -/
def Fires (m : Metric) (v : Option ℚ) : Prop := if m.lowerWorse then v = some 0 else v ≠ none

variable {m : Metric} {k : Kind} {t : MediaThresholds} {d : Derived}

theorem cost_of_disabled (hw : m.warn t = 0) (hp : m.poor t = 0) : (m.rule k t d).cost = 0 := by
  rw [cost_rule, hw, hp]
  cases m.get d with
  | none => rfl
  | some v => simp [penalty, penaltyLow]

open Classical in
theorem band_of_disabled (hw : m.warn t = 0) (hp : m.poor t = 0) (hv : ∀ x ∈ m.get d, 0 ≤ x) :
    (m.rule k t d).band = if m.Fires (m.get d) then 2 else 0 := by
  rw [band_rule, hw, hp, Fires]
  generalize m.get d = value at hv ⊢
  cases value with
  | none => simp
  | some v =>
    have hv := hv v rfl
    by_cases hm : m.lowerWorse
    · have hzero : v ≤ 0 ↔ v = 0 := ⟨fun h => le_antisymm h hv, le_of_eq⟩
      simp only [Option.elim_some, hm, if_true, bandLow, hzero, Option.some.injEq]
      split_ifs <;> rfl
    · simp [hm, band, hv]

end Metric

/-- The same is reported. -/
def SameVerdict (a b : Analysis) : Prop :=
  a.status = b.status ∧ a.score = b.score ∧ a.problems = b.problems

instance (a b : Analysis) : Decidable (SameVerdict a b) := inferInstanceAs (Decidable (_ ∧ _))

theorem sameVerdict_of_rules {k : Kind} {cfg : Config} {d d' : Derived}
    (hs : settled k d = none) (hs' : settled k d' = none)
    (h : ∀ m ∈ Metric.of k,
      (m.rule k (cfg.thresholds k) d).band = (m.rule k (cfg.thresholds k) d').band ∧
      (m.rule k (cfg.thresholds k) d).cost = (m.rule k (cfg.thresholds k) d').cost) :
    SameVerdict (analyze k d cfg) (analyze k d' cfg) := by
  have hscore : (analyze k d cfg).score = (analyze k d' cfg).score := by
    rw [score_analyze hs, score_analyze hs', penalties,
      map_congr_left fun m hm => (h m hm).2, penalties]
  refine ⟨?_, hscore, ?_⟩
  · rw [status_analyze hs, status_analyze hs', hscore, worstBand,
      map_congr_left fun m hm => (h m hm).1, worstBand]
  · rw [problems_analyze hs, problems_analyze hs', filter_congr fun m hm => by rw [(h m hm).1]]

/-- **When a disabled metric is ignored.** Both of its thresholds are zero. Either the verdict needs
no metrics, or this one is not evaluated for the kind, or neither of the two values counts as poor,
or both do. -/
theorem disabled_ignored_iff (k : Kind) (cfg : Config) (d : Derived) (m : Metric) (v v' : Option ℚ)
    (hw : m.warn (cfg.thresholds k) = 0) (hp : m.poor (cfg.thresholds k) = 0)
    (hv : ∀ x ∈ v, 0 ≤ x) (hv' : ∀ x ∈ v', 0 ≤ x) :
    SameVerdict (analyze k (m.set d v) cfg) (analyze k (m.set d v') cfg) ↔
      settled k d ≠ none ∨ m ∉ Metric.of k ∨ (m.Fires v ↔ m.Fires v') := by
  classical
  have hset (v : Option ℚ) : settled k (m.set d v) = settled k d := settled_set k d v m
  have hget (v : Option ℚ) : m.get (m.set d v) = v := by rw [Metric.get_set, if_pos rfl]
  have hband (v : Option ℚ) (hv : ∀ x ∈ v, 0 ≤ x) :
      (m.rule k (cfg.thresholds k) (m.set d v)).band = if m.Fires v then 2 else 0 := by
    rw [Metric.band_of_disabled hw hp ((hget v).symm ▸ hv), hget]
  cases hs : settled k d with
  | some a =>
    rw [analyze_eq, analyze_eq, hset, hset, hs]
    simp [SameVerdict]
  | none =>
    have hs₁ := (hset v).trans hs
    have hs₂ := (hset v').trans hs
    refine ⟨fun h => ?_, fun h => sameVerdict_of_rules hs₁ hs₂ fun n hn => ?_⟩
    · by_cases hm : m ∈ Metric.of k
      · -- The metric is among the problems if its value counts as poor.
        have hfires (v : Option ℚ) (hv : ∀ x ∈ v, 0 ≤ x) :
            m.problem ∈ (analyze k (m.set d v) cfg).problems ↔ m.Fires v := by
          rw [mem_problems_analyze ((hset v).trans hs)]
          constructor
          · rintro ⟨n, -, hone, hn⟩
            cases Metric.problem_injective hn
            rw [hband v hv] at hone
            by_contra hnot
            rw [if_neg hnot] at hone
            exact absurd hone (by decide)
          · intro hf
            exact ⟨m, hm, by rw [hband v hv, if_pos hf]; decide, rfl⟩
        rw [← hfires v hv, ← hfires v' hv', h.2.2]
        simp
      · exact .inr (.inl hm)
    · by_cases hnm : n = m
      · subst hnm
        have hiff := (h.resolve_left (by simp)).resolve_left (not_not_intro hn)
        rw [hband v hv, hband v' hv', Metric.cost_of_disabled hw hp, Metric.cost_of_disabled hw hp]
        simp only [hiff, and_self]
      · have hsame : n.get (m.set d v) = n.get (m.set d v') := by
          rw [Metric.get_set, Metric.get_set, if_neg hnm, if_neg hnm]
        simp only [Metric.band_rule, Metric.cost_rule, hsame, and_self]

/-- No metric of audio or video is to be evaluated. -/
def unjudged : Config := { defaultConfig with audio := {}, video := {} }

/-- Frame drops of video that are not to be evaluated: none and some of them are both poor. -/
theorem disabled_ignored_frames :
    SameVerdict
      (analyze .video { hasData := true, enabled := true, frameDropPct := some 0 } unjudged)
      (analyze .video { hasData := true, enabled := true, frameDropPct := some 50 } unjudged) :=
  (disabled_ignored_iff .video unjudged { hasData := true, enabled := true } .frameDrop (some 0)
    (some 50) rfl rfl (by simp) (by simp)).2
      (.inr (.inr (by simp [Metric.Fires, Metric.lowerWorse])))

/-- A stream that loses nothing is poor for it, one that does not report its loss is good. -/
theorem disabled_not_ignored :
    ¬ SameVerdict
      (analyze .audio { hasData := true, enabled := true, lossPct := some 0 } unjudged)
      (analyze .audio { hasData := true, enabled := true } unjudged) := by
  decide +kernel

end PulseRTC.Quality
