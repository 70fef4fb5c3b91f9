import Mathlib.Algebra.Order.Field.Basic
import Mathlib.Tactic.Linarith
import PulseRTC.Cluster.Node

/-!
# Samples and rates

The QoE engine gets samples of cumulative counters and derives the rates of an interval from two
consecutive ones (`derive`). A counter that is missing or went backwards gives no rate. Numbers are
rational, and the clock of a reporter has 64 bits. The rates mean something unless the clock jumps
by more than its sign can tell (`meaningful_iff`).
-/

namespace PulseRTC.Quality

open Cluster Option

/-- `Direction`; that of a connection is the empty string. -/
inductive Direction
  | outbound
  | inbound
  | unset
  deriving DecidableEq

/-- What a stream carries. -/
inductive Kind
  | audio
  | video
  | connection
  deriving DecidableEq

/-- Who reports a sample. -/
inductive Source
  | browser
  | server
  deriving DecidableEq

/-- The key that the samples of a stream are filed under. -/
structure StreamKey where
  participant : ParticipantId
  direction : Direction := .unset
  kind : Kind
  trackID : String := ""
  deriving DecidableEq

/-- A report on a stream, with cumulative counters. -/
structure Sample where
  key : StreamKey
  source : Source := .browser
  atMillis : Int64
  packetsSent : Option ℚ := none
  packetsReceived : Option ℚ := none
  packetsLost : Option ℚ := none
  bytesSent : Option ℚ := none
  bytesReceived : Option ℚ := none
  framesDecoded : Option ℚ := none
  framesDropped : Option ℚ := none
  jitterMs : Option ℚ := none
  rttMs : Option ℚ := none
  fps : Option ℚ := none
  width : Option ℚ := none
  height : Option ℚ := none
  enabled : Option Bool := none
  connState : String := ""
  iceState : String := ""
  deriving DecidableEq

/-- What two consecutive samples say of the interval between them. -/
structure Derived where
  hasData : Bool := false
  enabled : Bool := false
  dtSeconds : ℚ := 0
  lossPct : Option ℚ := none
  bitrateBps : Option ℚ := none
  jitterMs : Option ℚ := none
  rttMs : Option ℚ := none
  fps : Option ℚ := none
  frameDropPct : Option ℚ := none
  width : Option ℚ := none
  height : Option ℚ := none
  connState : String := ""
  iceState : String := ""
  deriving DecidableEq

/-- The growth of a counter, if it did not go backwards. -/
def deltaNonNeg (prev cur : Option ℚ) : Option ℚ :=
  prev.bind fun pv => cur.bind fun cv => if cv < pv then none else some (cv - pv)

/-- The part of a total, in percent; none of nothing. Packet loss and dropped frames are such
parts. -/
def percentage (part rest : Option ℚ) : Option ℚ :=
  part.bind fun p => rest.map fun q => if 0 < p + q then p / (p + q) * 100 else 0

/-- The rates of the interval between two samples. -/
def rates (prev cur : Sample) (d : Derived) : Derived :=
  let dt : ℚ := (cur.atMillis - prev.atMillis).toInt / 1000
  { d with
    dtSeconds := dt
    bitrateBps := ((deltaNonNeg prev.bytesReceived cur.bytesReceived).or
      (deltaNonNeg prev.bytesSent cur.bytesSent)).map fun s => s * 8 / dt
    lossPct := percentage (deltaNonNeg prev.packetsLost cur.packetsLost)
      (deltaNonNeg prev.packetsReceived cur.packetsReceived)
    frameDropPct := percentage (deltaNonNeg prev.framesDropped cur.framesDropped)
      (deltaNonNeg prev.framesDecoded cur.framesDecoded) }

/-- `derive`, with the sample before this one, if there is one. -/
def derive (prev : Option Sample) (cur : Sample) : Derived :=
  let d : Derived :=
    { connState := cur.connState
      iceState := cur.iceState
      enabled := cur.enabled.getD true
      jitterMs := cur.jitterMs
      rttMs := cur.rttMs
      fps := cur.fps
      width := cur.width
      height := cur.height }
  let d := match prev with
    | some prev => if prev.atMillis < cur.atMillis then rates prev cur d else d
    | none => d
  { d with
    hasData := d.lossPct.isSome || d.bitrateBps.isSome || d.jitterMs.isSome || d.rttMs.isSome ||
      d.fps.isSome || d.connState != "" }

theorem deltaNonNeg_none (prev : Option ℚ) : deltaNonNeg prev none = none := by
  cases prev <;> rfl

theorem percentage_none (part : Option ℚ) : percentage part none = none := by
  cases part <;> rfl

theorem lossPct_of_received_none (prev : Option Sample) {cur : Sample}
    (h : cur.packetsReceived = none) : (derive prev cur).lossPct = none := by
  unfold derive
  cases prev with
  | none => rfl
  | some prev =>
    dsimp only
    split_ifs
    · show percentage _ (deltaNonNeg _ cur.packetsReceived) = none
      rw [h, deltaNonNeg_none, percentage_none]
    · rfl

/-! ## Rates that mean something -/

/-- The counters of a sample. -/
inductive Counter
  | packetsSent
  | packetsReceived
  | packetsLost
  | bytesSent
  | bytesReceived
  | framesDecoded
  | framesDropped
  deriving DecidableEq

/-- The value of a counter. -/
def Counter.get (s : Sample) : Counter → Option ℚ
  | packetsSent => s.packetsSent
  | packetsReceived => s.packetsReceived
  | packetsLost => s.packetsLost
  | bytesSent => s.bytesSent
  | bytesReceived => s.bytesReceived
  | framesDecoded => s.framesDecoded
  | framesDropped => s.framesDropped

/-- The sample without this counter. -/
def Counter.clear (s : Sample) : Counter → Sample
  | packetsSent => { s with packetsSent := none }
  | packetsReceived => { s with packetsReceived := none }
  | packetsLost => { s with packetsLost := none }
  | bytesSent => { s with bytesSent := none }
  | bytesReceived => { s with bytesReceived := none }
  | framesDecoded => { s with framesDecoded := none }
  | framesDropped => { s with framesDropped := none }

/-- What the rates of an interval should be. A counter that went backwards is as good as absent. -/
structure Meaningful (prev cur : Sample) : Prop where
  dtSeconds : prev.atMillis < cur.atMillis → 0 < (derive (some prev) cur).dtSeconds
  bitrateBps : ∀ x ∈ (derive (some prev) cur).bitrateBps, 0 ≤ x
  lossPct : ∀ x ∈ (derive (some prev) cur).lossPct, 0 ≤ x ∧ x ≤ 100
  frameDropPct : ∀ x ∈ (derive (some prev) cur).frameDropPct, 0 ≤ x ∧ x ≤ 100
  backwards : ∀ c : Counter, ∀ pv ∈ c.get prev, ∀ cv ∈ c.get cur, cv < pv →
    derive (some prev) cur = derive (some prev) (c.clear cur)

theorem deltaNonNeg_nonneg {prev cur : Option ℚ} {x : ℚ} (h : x ∈ deltaNonNeg prev cur) :
    0 ≤ x := by
  simp only [deltaNonNeg, mem_def, bind_eq_some_iff] at h
  obtain ⟨pv, -, cv, -, h⟩ := h
  split_ifs at h with hlt
  cases h
  linarith

theorem deltaNonNeg_of_lt {pv cv : ℚ} (h : cv < pv) : deltaNonNeg (some pv) (some cv) = none := by
  simp [deltaNonNeg, h]

theorem percentage_mem {part rest : Option ℚ} (hpart : ∀ p ∈ part, 0 ≤ p)
    (hrest : ∀ q ∈ rest, 0 ≤ q) : ∀ x ∈ percentage part rest, 0 ≤ x ∧ x ≤ 100 := by
  intro x hx
  simp only [percentage, mem_def, bind_eq_some_iff, map_eq_some_iff] at hx
  obtain ⟨p, hp, q, hq, rfl⟩ := hx
  have hp := hpart p hp
  have hq := hrest q hq
  split_ifs with htotal
  · have hone : p / (p + q) ≤ 1 := (div_le_one htotal).2 (by linarith)
    have hzero : 0 ≤ p / (p + q) := div_nonneg hp htotal.le
    constructor <;> linarith
  · norm_num

section

variable {prev cur : Sample}

theorem derive_of_not_lt (h : ¬ prev.atMillis < cur.atMillis) :
    derive (some prev) cur = derive none cur := by
  simp only [derive, if_neg h]

/-- A counter that went backwards is as good as absent. -/
theorem derive_clear (c : Counter) {pv cv : ℚ} (hp : c.get prev = some pv)
    (hc : c.get cur = some cv) (h : cv < pv) :
    derive (some prev) cur = derive (some prev) (c.clear cur) := by
  have hnone := deltaNonNeg_of_lt h
  by_cases hlt : prev.atMillis < cur.atMillis
  · have hclear : prev.atMillis < (c.clear cur).atMillis := by cases c <;> exact hlt
    simp only [derive, if_pos hlt, if_pos hclear]
    cases c <;> simp only [Counter.get] at hp hc <;>
      simp only [rates, Counter.clear, hp, hc, hnone, deltaNonNeg_none]
  · have hclear : ¬ prev.atMillis < (c.clear cur).atMillis := by cases c <;> exact hlt
    simp only [derive, if_neg hlt, if_neg hclear]
    cases c <;> rfl

/-- The difference of two instants as 64 bits give it. -/
theorem toInt_sub_atMillis (h : prev.atMillis < cur.atMillis) :
    (cur.atMillis - prev.atMillis).toInt =
      if cur.atMillis.toInt - prev.atMillis.toInt < 2 ^ 63
      then cur.atMillis.toInt - prev.atMillis.toInt
      else cur.atMillis.toInt - prev.atMillis.toInt - 2 ^ 64 := by
  have hpos := Int64.lt_iff_toInt_lt.1 h
  have hlow := prev.atMillis.le_toInt
  have hhigh := cur.atMillis.toInt_lt
  rw [Int64.toInt_sub, Int.bmod_def]
  split_ifs <;> omega

/-- **When rates mean something.** They do unless the clock of the reporter goes forward by at least
half of its range: then the interval is negative. -/
theorem meaningful_iff (prev cur : Sample) :
    Meaningful prev cur ↔
      ¬ (prev.atMillis < cur.atMillis ∧ 2 ^ 63 ≤ cur.atMillis.toInt - prev.atMillis.toInt) := by
  have hdt (hlt : prev.atMillis < cur.atMillis) : (derive (some prev) cur).dtSeconds =
      ((cur.atMillis - prev.atMillis).toInt : ℚ) / 1000 := by
    simp only [derive, rates, if_pos hlt]
  constructor
  · rintro h ⟨hlt, hjump⟩
    have hneg : (cur.atMillis - prev.atMillis).toInt < 0 := by
      have hlow := prev.atMillis.le_toInt
      have hhigh := cur.atMillis.toInt_lt
      rw [toInt_sub_atMillis hlt]
      split_ifs <;> omega
    have hpos := h.dtSeconds hlt
    rw [hdt hlt] at hpos
    have hneg : ((cur.atMillis - prev.atMillis).toInt : ℚ) < 0 := by exact_mod_cast hneg
    linarith
  · intro hno
    by_cases hlt : prev.atMillis < cur.atMillis
    · have hpos : (0 : ℚ) < ((cur.atMillis - prev.atMillis).toInt : ℚ) / 1000 := by
        have hint : 0 < (cur.atMillis - prev.atMillis).toInt := by
          have horder := Int64.lt_iff_toInt_lt.1 hlt
          have hshort := not_and.1 hno hlt
          rw [toInt_sub_atMillis hlt]
          split_ifs <;> omega
        have hint : (0 : ℚ) < (cur.atMillis - prev.atMillis).toInt := by exact_mod_cast hint
        linarith
      refine ⟨fun _ => hdt hlt ▸ hpos, fun x hx => ?_, ?_, ?_,
        fun c pv hp cv hc h => derive_clear c hp hc h⟩
      · simp only [derive, rates, if_pos hlt, mem_def, map_eq_some_iff, or_eq_some_iff] at hx
        obtain ⟨s, hs, rfl⟩ := hx
        have hs : 0 ≤ s := hs.elim deltaNonNeg_nonneg fun hs => deltaNonNeg_nonneg hs.2
        exact div_nonneg (by linarith) hpos.le
      all_goals
        simp only [derive, rates, if_pos hlt]
        exact percentage_mem (fun _ => deltaNonNeg_nonneg) fun _ => deltaNonNeg_nonneg
    · have hsame := derive_of_not_lt hlt
      refine ⟨fun h => absurd h hlt, ?_, ?_, ?_, fun c pv hp cv hc h => derive_clear c hp hc h⟩ <;>
        rw [hsame] <;> intro x hx <;> cases hx

/-- A reporter whose clock starts at the least and jumps to the greatest instant: the interval is
one millisecond, backwards, and the bitrate is negative. -/
theorem not_meaningful_of_jump :
    ¬ Meaningful
      { key := { participant := "p", kind := .audio }, atMillis := Int64.minValue
        bytesReceived := some 0 }
      { key := { participant := "p", kind := .audio }, atMillis := Int64.maxValue
        bytesReceived := some 1 } := by
  intro h
  have hnonneg := h.bitrateBps (-8000) (by decide +kernel)
  norm_num at hnonneg

end

end PulseRTC.Quality
