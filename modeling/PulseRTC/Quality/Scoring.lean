import Mathlib.Data.Rat.Floor
import PulseRTC.Foundations.GoMap
import PulseRTC.Quality.Samples

/-!
# Scores and verdicts

Every metric of a stream that was reported is compared with two thresholds. It costs points between
the first and the second one, and the status of the stream is the worse of what is left of the score
and of the worst band that a metric is in (`evalRules`). A disabled track has no verdict, and a
connection that is not connected has the worst one (`analyze`).

The scores are exact: rounding happens where the source rounds, and nowhere else.
-/

namespace PulseRTC.Quality

open Foundations

/-! ## Statuses -/

/-- The verdict on a stream. -/
inductive Status
  | unknown
  | good
  | warning
  | poor
  deriving DecidableEq

/-- The order of the verdicts; `unknown` is below all others. -/
def rank : Status → ℤ
  | .good => 0
  | .warning => 1
  | .poor => 2
  | .unknown => -1

/-- The worse of two verdicts, of which an unknown one does not count. -/
def worst (a b : Status) : Status :=
  if rank a < 0 then b
  else if rank b < 0 then a
  else if rank b ≤ rank a then a
  else b

/-- The problem codes. -/
inductive Problem
  | highPacketLoss
  | highJitter
  | highRTT
  | lowBitrate
  | lowFPS
  | highFrameDrop
  | connectionUnstable
  | trackDisabled
  deriving DecidableEq

/-- The code, as it stands in an event. -/
def Problem.text : Problem → String
  | .highPacketLoss => "HIGH_PACKET_LOSS"
  | .highJitter => "HIGH_JITTER"
  | .highRTT => "HIGH_RTT"
  | .lowBitrate => "LOW_BITRATE"
  | .lowFPS => "LOW_FPS"
  | .highFrameDrop => "HIGH_FRAME_DROP"
  | .connectionUnstable => "CONNECTION_UNSTABLE"
  | .trackDisabled => "TRACK_DISABLED"

/-! ## Configuration -/

/-- Two thresholds for each metric. -/
structure MediaThresholds where
  lossWarn : ℚ := 0
  lossPoor : ℚ := 0
  jitterWarn : ℚ := 0
  jitterPoor : ℚ := 0
  rttWarn : ℚ := 0
  rttPoor : ℚ := 0
  bitrateWarn : ℚ := 0
  bitratePoor : ℚ := 0
  fpsWarn : ℚ := 0
  fpsPoor : ℚ := 0
  frameDropWarn : ℚ := 0
  frameDropPoor : ℚ := 0

/-- The configuration of the engine. -/
structure Config where
  windowSamples : ℤ
  historySize : ℤ
  degradeSamples : ℤ
  recoverSamples : ℤ
  goodScore : ℤ
  warningScore : ℤ
  audio : MediaThresholds
  video : MediaThresholds
  connection : MediaThresholds

/-- `DefaultConfig`. -/
def defaultConfig : Config where
  windowSamples := 5
  historySize := 60
  degradeSamples := 3
  recoverSamples := 5
  goodScore := 80
  warningScore := 55
  audio :=
    { lossWarn := 2, lossPoor := 5, jitterWarn := 30, jitterPoor := 60, rttWarn := 200
      rttPoor := 400, bitrateWarn := 16000, bitratePoor := 8000 }
  video :=
    { lossWarn := 2, lossPoor := 5, jitterWarn := 40, jitterPoor := 80, rttWarn := 250
      rttPoor := 450, bitrateWarn := 150000, bitratePoor := 60000, fpsWarn := 15, fpsPoor := 8
      frameDropWarn := 5, frameDropPoor := 15 }
  connection :=
    { lossWarn := 3, lossPoor := 7, jitterWarn := 40, jitterPoor := 80, rttWarn := 200
      rttPoor := 400 }

/-- The thresholds for a kind. -/
def Config.thresholds (c : Config) : Kind → MediaThresholds
  | .audio => c.audio
  | .video => c.video
  | .connection => c.connection

/-! ## Scores -/

/-- The weights of the metrics. -/
def penLoss : ℚ := 45
def penJitter : ℚ := 25
def penRTT : ℚ := 25
def penBitrate : ℚ := 30
def penFPS : ℚ := 30
def penFrameDrop : ℚ := 25

/-- The band of a metric that gets worse as it grows. -/
def band (v warn poor : ℚ) : ℕ := if poor ≤ v then 2 else if warn ≤ v then 1 else 0

/-- The band of a metric that gets worse as it falls. -/
def bandLow (v warn poor : ℚ) : ℕ := if v ≤ poor then 2 else if v ≤ warn then 1 else 0

/-- What a metric costs that gets worse as it grows. -/
def penalty (v warn poor pen : ℚ) : ℚ :=
  if warn ≤ 0 ∧ poor ≤ 0 then 0
  else if v ≤ warn then 0
  else if poor ≤ v then pen
  else pen * (v - warn) / (poor - warn)

/-- What a metric costs that gets worse as it falls. -/
def penaltyLow (v warn poor pen : ℚ) : ℚ :=
  if warn ≤ 0 ∧ poor ≤ 0 then 0
  else if warn ≤ v then 0
  else if v ≤ poor then pen
  else pen * (warn - v) / (warn - poor)

/-- The score, rounded and between 0 and 100. -/
def clampScore (s : ℚ) : ℤ := ⌊max 0 (min 100 s) + 1 / 2⌋

/-- The verdict on a score. -/
def Config.statusFromScore (c : Config) (score : ℤ) : Status :=
  if c.goodScore ≤ score then .good else if c.warningScore ≤ score then .warning else .poor

/-- The verdict on a band. -/
def statusFromBand (b : ℕ) : Status := if b = 2 then .poor else if b = 1 then .warning else .good

/-- `round2`; the conversion to an integer cuts the fraction off. -/
def round2 (v : ℚ) : ℚ :=
  let x := v * 100 + 1 / 2
  (x.num.tdiv x.den : ℤ) / 100

/-! ## Analyses -/

/-- The result of `analyze`. -/
structure Analysis where
  status : Status
  score : ℤ := 0
  problems : List Problem := []
  metrics : GoMap String ℚ := ∅
  deriving DecidableEq

/-- How one metric is judged. -/
structure Rule where
  problem : Problem
  value : Option ℚ
  warn : ℚ
  poor : ℚ
  pen : ℚ
  lowerWorse : Bool
  metricKey : String

/-- The rules of a media stream. -/
def mediaRules (k : Kind) (d : Derived) (t : MediaThresholds) : List Rule :=
  [⟨.highPacketLoss, d.lossPct, t.lossWarn, t.lossPoor, penLoss, false, "packetLossPct"⟩,
    ⟨.highJitter, d.jitterMs, t.jitterWarn, t.jitterPoor, penJitter, false, "jitterMs"⟩,
    ⟨.highRTT, d.rttMs, t.rttWarn, t.rttPoor, penRTT, false, "rttMs"⟩,
    ⟨.lowBitrate, d.bitrateBps, t.bitrateWarn, t.bitratePoor, penBitrate, true, "bitrateBps"⟩] ++
  if k = .video then
    [⟨.lowFPS, d.fps, t.fpsWarn, t.fpsPoor, penFPS, true, "fps"⟩,
      ⟨.highFrameDrop, d.frameDropPct, t.frameDropWarn, t.frameDropPoor, penFrameDrop, false,
        "frameDropPct"⟩]
  else []

/-- What the loop of `evalRules` has of the rules so far. -/
structure Tally where
  score : ℚ := 100
  problems : List Problem := []
  worstBand : ℕ := 0
  metrics : GoMap String ℚ := ∅

/-- One turn of the loop. -/
def Tally.add (a : Tally) (r : Rule) : Tally :=
  match r.value with
  | none => a
  | some v =>
    let b := if r.lowerWorse then bandLow v r.warn r.poor else band v r.warn r.poor
    let pen := if r.lowerWorse then penaltyLow v r.warn r.poor r.pen
      else penalty v r.warn r.poor r.pen
    { score := a.score - pen
      problems := if 1 ≤ b then a.problems ++ [r.problem] else a.problems
      worstBand := max a.worstBand b
      metrics := a.metrics.insert r.metricKey (round2 v) }

/-- The verdict by rules. -/
def evalRules (rules : List Rule) (d : Derived) (cfg : Config) : Analysis :=
  let a := rules.foldl Tally.add {}
  let s := clampScore a.score
  { status := worst (cfg.statusFromScore s) (statusFromBand a.worstBand)
    score := s
    problems := a.problems
    metrics := match d.width, d.height with
      | some width, some height => (a.metrics.insert "width" width).insert "height" height
      | _, _ => a.metrics }

/-- The verdict on a connection. -/
def analyzeConnection (d : Derived) (cfg : Config) : Analysis :=
  let t := cfg.connection
  if d.connState ≠ "" ∧ d.connState ≠ "connected" then
    { status := .poor, score := 0, problems := [.connectionUnstable] }
  else if d.iceState = "disconnected" ∨ d.iceState = "failed" then
    { status := .poor, score := 10, problems := [.connectionUnstable] }
  else
    evalRules
      [⟨.highRTT, d.rttMs, t.rttWarn, t.rttPoor, penRTT + 10, false, "rttMs"⟩,
        ⟨.highPacketLoss, d.lossPct, t.lossWarn, t.lossPoor, penLoss, false, "packetLossPct"⟩,
        ⟨.highJitter, d.jitterMs, t.jitterWarn, t.jitterPoor, penJitter, false, "jitterMs"⟩]
      d cfg

/-- The verdict on the rates of a stream. -/
def analyze (k : Kind) (d : Derived) (cfg : Config) : Analysis :=
  if !d.hasData then { status := .unknown }
  else if !d.enabled then { status := .unknown, problems := [.trackDisabled] }
  else match k with
  | .connection => analyzeConnection d cfg
  | k => evalRules (mediaRules k d (cfg.thresholds k)) d cfg

end PulseRTC.Quality
