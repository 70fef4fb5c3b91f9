import PulseRTC.Quality.Samples

/-!
# Quality reports

A `quality_report` of a browser has a list of samples, and `handleQualityReport` feeds those with a
kind and a direction that it knows to the QoE engine. Every number may be missing; a value of the
wrong type makes the whole report invalid. The participant of a sample is the one whose connection
it came on.
-/

namespace PulseRTC.Signaling

open Cluster Quality

/-- A value of a JSON object, or of a JavaScript one, as far as reports have them. -/
inductive Value
  | null
  | bool (b : Bool)
  | number (x : ℚ)
  | string (s : String)
  deriving DecidableEq

/-- An object, by its keys; a key that is not there, or `undefined`, has no value. -/
abbrev Object := String → Option Value

/-! ## Decoding -/

/-- The value of a Go string; null leaves it empty. -/
def string : Option Value → String
  | some (.string s) => s
  | _ => ""

/-- The value of an `int64`. -/
def int64 : Option Value → Int64
  | some (.number x) => .ofInt x.num
  | _ => 0

/-- The value of a pointer to a `float64`. -/
def float : Option Value → Option ℚ
  | some (.number x) => some x
  | _ => none

/-- The value of a pointer to a `bool`. -/
def bool : Option Value → Option Bool
  | some (.bool b) => some b
  | _ => none

/-- The value can be read into a Go string. -/
def isString : Option Value → Bool
  | none | some .null | some (.string _) => true
  | _ => false

/-- The value can be read into an `int64`. -/
def isInt64 : Option Value → Bool
  | none | some .null => true
  | some (.number x) =>
    x.den = 1 ∧ Int64.minValue.toInt ≤ x.num ∧ x.num ≤ Int64.maxValue.toInt
  | _ => false

/-- The value can be read into a `float64`. -/
def isFloat : Option Value → Bool
  | none | some .null | some (.number _) => true
  | _ => false

/-- The value can be read into a `bool`. -/
def isBool : Option Value → Bool
  | none | some .null | some (.bool _) => true
  | _ => false

structure QualitySample where
  publicationID : String
  kind : String
  direction : String
  tMs : Int64
  packetsSent : Option ℚ
  packetsReceived : Option ℚ
  packetsLost : Option ℚ
  bytesSent : Option ℚ
  bytesReceived : Option ℚ
  framesDecoded : Option ℚ
  framesDropped : Option ℚ
  jitterMs : Option ℚ
  rttMs : Option ℚ
  fps : Option ℚ
  width : Option ℚ
  height : Option ℚ
  enabled : Option Bool
  connState : String
  iceState : String
  deriving DecidableEq

/-- No value of a sample has the wrong type. -/
def wellTyped (o : Object) : Bool :=
  (["publicationId", "kind", "direction", "connState", "iceState"].all fun k => isString (o k)) &&
  isInt64 (o "tMs") && isBool (o "enabled") &&
  ["packetsSent", "packetsReceived", "packetsLost", "bytesSent", "bytesReceived", "framesDecoded",
    "framesDropped", "jitterMs", "rttMs", "fps", "width", "height"].all fun k => isFloat (o k)

/-- A sample of a report, as `json.Unmarshal` reads it. -/
def QualitySample.decode (o : Object) : QualitySample where
  publicationID := string (o "publicationId")
  kind := string (o "kind")
  direction := string (o "direction")
  tMs := int64 (o "tMs")
  packetsSent := float (o "packetsSent")
  packetsReceived := float (o "packetsReceived")
  packetsLost := float (o "packetsLost")
  bytesSent := float (o "bytesSent")
  bytesReceived := float (o "bytesReceived")
  framesDecoded := float (o "framesDecoded")
  framesDropped := float (o "framesDropped")
  jitterMs := float (o "jitterMs")
  rttMs := float (o "rttMs")
  fps := float (o "fps")
  width := float (o "width")
  height := float (o "height")
  enabled := bool (o "enabled")
  connState := string (o "connState")
  iceState := string (o "iceState")

/-! ## The handler -/

def validKind : String → Option Kind
  | "audio" => some .audio
  | "video" => some .video
  | "connection" => some .connection
  | _ => none

def validDirection : String → Option Direction
  | "inbound" => some .inbound
  | "outbound" => some .outbound
  | _ => none

/-- The sample that the handler makes of one of a report, if it knows its kind and direction. -/
def QualitySample.sample (id : ParticipantId) (sm : QualitySample) : Option Sample :=
  (validKind sm.kind).bind fun kind =>
    (if kind = .connection then some .unset else validDirection sm.direction).map fun dir =>
      { key :=
          { participant := id, direction := dir, kind := kind
            trackID := if kind = .connection then "" else sm.publicationID }
        source := .browser
        atMillis := sm.tMs
        packetsSent := sm.packetsSent
        packetsReceived := sm.packetsReceived
        packetsLost := sm.packetsLost
        bytesSent := sm.bytesSent
        bytesReceived := sm.bytesReceived
        framesDecoded := sm.framesDecoded
        framesDropped := sm.framesDropped
        jitterMs := sm.jitterMs
        rttMs := sm.rttMs
        fps := sm.fps
        width := sm.width
        height := sm.height
        enabled := sm.enabled
        connState := sm.connState
        iceState := sm.iceState }

/-- `handleQualityReport`, for the client `id` in the room `roomID`: the samples that it feeds to
the engine, in this order, or the error that it replies with. -/
def handleQualityReport (roomID : RoomId) (id : ParticipantId) (samples : List Object) :
    Except String (List Sample) :=
  if roomID = "" then .error "join a room before sending quality_report"
  else if samples.all wellTyped then
    .ok (samples.filterMap fun o => (QualitySample.decode o).sample id)
  else .error "invalid quality_report: not valid JSON"

theorem eq_of_string {v : Option Value} {s : String} (h : string v = s) (hs : s ≠ "") :
    v = some (.string s) := by
  unfold string at h
  split at h
  · rw [h]
  · exact absurd h.symm hs

/-- A direction that is read as `outbound` is `outbound`. -/
theorem outbound_of_valid {v : Option Value} (h : validDirection (string v) = some .outbound) :
    v = some (.string "outbound") := by
  unfold validDirection at h
  split at h <;> cases h
  next hs => exact eq_of_string hs (by decide)

/-- Where the outbound samples come from that the handler feeds to the engine. -/
theorem exists_of_outbound {roomID : RoomId} {id : ParticipantId} {samples : List Object}
    {fed : List Sample} (h : handleQualityReport roomID id samples = .ok fed) {x : Sample}
    (hx : x ∈ fed) (hout : x.key.direction = .outbound) :
    ∃ o ∈ samples, o "direction" = some (.string "outbound") ∧
      x.packetsReceived = float (o "packetsReceived") := by
  unfold handleQualityReport at h
  split_ifs at h
  cases h
  obtain ⟨o, ho, hx⟩ := List.mem_filterMap.1 hx
  obtain ⟨kind, -, hx⟩ := Option.bind_eq_some_iff.1 hx
  obtain ⟨dir, hdir, rfl⟩ := Option.map_eq_some_iff.1 hx
  obtain rfl : dir = .outbound := hout
  refine ⟨o, ho, ?_, rfl⟩
  split_ifs at hdir
  · cases hdir
  · exact outbound_of_valid hdir

end PulseRTC.Signaling
