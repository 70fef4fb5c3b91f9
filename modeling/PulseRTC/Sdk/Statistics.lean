import Mathlib.Data.Rat.Floor
import PulseRTC.Foundations.Lists
import PulseRTC.Sdk.Publishing
import PulseRTC.Signaling.Reports

/-!
# The statistics that a client reports

`collectOnce` turns the statistics of the peer connection into the samples of a `quality_report`. An
outbound stream has the packets that were sent, and from the report of the other side, if it is
linked to one, the packets that were lost there. The engine computes the loss from the packets that
were lost and those that were received, and says that the browser fills in the latter from the
report of the other side. It does not: `uplink_loss_missing`.
-/

namespace PulseRTC.Sdk

open PulseRTC.Signaling PulseRTC.Quality List

/-- An object with the values of these keys, and `undefined` under all others. -/
def object (l : List (String × Option Value)) : Object := fun k => (l.lookup k).join

/-- Whether a value counts as true. -/
def truthy : Option Value → Bool
  | none | some .null | some (.bool false) => false
  | some (.number x) => x != 0
  | some (.string s) => s != ""
  | some (.bool true) => true

def s2ms : Option Value → Option Value
  | some (.number x) => some (.number (x * 1000))
  | _ => none

/-- `v ?? ""`. -/
def orEmpty : Option Value → Option Value
  | none | some .null => some (.string "")
  | v => v

/-- `byId.get`, for the entries of a report; a later entry with the same id replaces an earlier
one. -/
def byId (report : List Object) (id : Option Value) : Option Object :=
  report.reverse.find? fun s => s "id" = id

/-- The entry of the other side that an entry is linked to. -/
def remoteOf (report : List Object) (s : Object) : Option Object :=
  if truthy (s "remoteId") then byId report (s "remoteId") else none

/-- What the loop of `collectOnce` makes of an entry. -/
def collectEntry (report : List Object) (localPubId : Option Value → Option String) (now : ℤ)
    (s : Object) : Option Object :=
  if s "type" = some (.string "outbound-rtp") ∧ truthy (s "isRemote") = false then
    let remote := remoteOf report s
    some (object
      [("publicationId", some (.string ((localPubId (s "kind")).getD ""))), ("kind", s "kind"),
        ("direction", some (.string "outbound")), ("tMs", some (.number now)),
        ("packetsSent", s "packetsSent"), ("bytesSent", s "bytesSent"),
        ("packetsLost", remote.bind (· "packetsLost")),
        ("rttMs", s2ms (remote.bind (· "roundTripTime"))),
        ("jitterMs", s2ms (remote.bind (· "jitter")))])
  else if s "type" = some (.string "inbound-rtp") then
    some (object [("publicationId", orEmpty (s "trackIdentifier")), ("kind", s "kind"),
        ("direction", some (.string "inbound")), ("tMs", some (.number now)),
        ("packetsReceived", s "packetsReceived"), ("packetsLost", s "packetsLost"),
        ("bytesReceived", s "bytesReceived"), ("framesDecoded", s "framesDecoded"),
        ("framesDropped", s "framesDropped"), ("jitterMs", s2ms (s "jitter")),
        ("fps", s "framesPerSecond"), ("width", s "frameWidth"), ("height", s "frameHeight")])
  else if s "type" = some (.string "candidate-pair") ∧ (truthy (s "selected") = true ∨
      truthy (s "nominated") = true ∧ s "state" = some (.string "succeeded")) then
    some (object [("kind", some (.string "connection")), ("tMs", some (.number now)),
        ("rttMs", s2ms (s "currentRoundTripTime"))])
  else none

/-- `collectOnce`, at the instant `now`. -/
def collectOnce (report : List Object) (localPubId : Option Value → Option String) (now : ℚ) :
    List Object :=
  let now : ℤ := ⌊now + 1 / 2⌋
  let samples := report.filterMap (collectEntry report localPubId now)
  if ∃ x ∈ samples, x "kind" = some (.string "connection") then samples
  else samples ++ [object [("kind", some (.string "connection")), ("tMs", some (.number now))]]

/-- The kind, as it stands in a message. -/
def Kind.text : Kind → String
  | .audio => "audio"
  | .video => "video"

/-- `localPubId`: the first publication of the kind. -/
def LocalParticipant.localPubId (p : LocalParticipant) (kind : Option Value) : Option String :=
  (p.publications.entries.find? fun e => some (.string e.2.kind.text) = kind).map Sigma.fst

/-- An outbound sample does not say how many packets were received. -/
theorem received_of_entry {report : List Object} {localPubId : Option Value → Option String}
    {now : ℤ} {s o : Object} (h : collectEntry report localPubId now s = some o)
    (hout : o "direction" = some (.string "outbound")) : o "packetsReceived" = none := by
  unfold collectEntry at h
  dsimp only at h
  split_ifs at h <;> cases h
  · simp [object, lookup_cons]
  · simp [object, lookup_cons] at hout
  · simp [object, lookup_cons]

theorem received_of_outbound {report : List Object} {localPubId : Option Value → Option String}
    {now : ℚ} {o : Object} (ho : o ∈ collectOnce report localPubId now)
    (hout : o "direction" = some (.string "outbound")) : o "packetsReceived" = none := by
  have hentry (ho : o ∈ report.filterMap (collectEntry report localPubId ⌊now + 1 / 2⌋)) :
      o "packetsReceived" = none := by
    obtain ⟨s, -, hs⟩ := mem_filterMap.1 ho
    exact received_of_entry hs hout
  unfold collectOnce at ho
  dsimp only at ho
  split_ifs at ho
  · exact hentry ho
  · obtain ho | ho := mem_append.1 ho
    · exact hentry ho
    · obtain rfl := mem_singleton.1 ho
      simp [object, lookup_cons]

/-- **The loss of an outbound stream never reaches the engine**: whatever the statistics are, and
whatever the sample before was, no loss is derived from an outbound sample. -/
theorem uplink_loss_missing {report : List Object} {localPubId : Option Value → Option String}
    {now : ℚ} {roomID id : String} {fed : List Sample}
    (h : handleQualityReport roomID id (collectOnce report localPubId now) = .ok fed)
    {x : Sample} (hx : x ∈ fed) (hout : x.key.direction = .outbound) (prev : Option Sample) :
    (derive prev x).lossPct = none := by
  obtain ⟨o, ho, hdirection, hreceived⟩ := exists_of_outbound h hx hout
  refine lossPct_of_received_none prev ?_
  rw [hreceived, received_of_outbound ho hdirection]
  rfl

/-- The statistics of a microphone: what was sent, and what the other side has lost. -/
def microphone (packetsSent packetsLost : ℚ) : List Object :=
  [object [("id", some (.string "out")), ("type", some (.string "outbound-rtp")),
      ("kind", some (.string "audio")), ("packetsSent", some (.number packetsSent)),
      ("bytesSent", some (.number (packetsSent * 100))), ("remoteId", some (.string "remote"))],
    object [("id", some (.string "remote")), ("type", some (.string "remote-inbound-rtp")),
      ("kind", some (.string "audio")), ("packetsLost", some (.number packetsLost))]]

/-- The samples that the engine gets of it. -/
def microphoneSamples (packetsSent packetsLost now : ℚ) : Except String (List Sample) :=
  handleQualityReport "room" "alice"
    (collectOnce (microphone packetsSent packetsLost) (fun _ => some "pub") now)

/-- The microphone has an outbound sample. -/
theorem uplink_loss_missing_microphone :
    ∃ fed ∈ (microphoneSamples 200 10 2000).toOption, ∃ x ∈ fed,
      x.key.direction = .outbound ∧ ∀ prev, (derive prev x).lossPct = none := by
  have hreach : ∃ fed ∈ (microphoneSamples 200 10 2000).toOption, ∃ x ∈ fed,
      x.key.direction = .outbound := by decide +kernel
  obtain ⟨fed, hfed, x, hx, hout⟩ := hreach
  exact ⟨fed, hfed, x, hx, hout, uplink_loss_missing (Foundations.eq_ok_of_mem hfed) hx hout⟩

/-- A hundred packets are sent and ten are lost, and no loss is derived. -/
theorem uplink_loss_unreported :
    ∃ old ∈ (microphoneSamples 100 0 1000).toOption, ∃ x ∈ old,
    ∃ new ∈ (microphoneSamples 200 10 2000).toOption, ∃ y ∈ new,
      x.key = y.key ∧ y.key.direction = .outbound ∧ x.atMillis < y.atMillis ∧
      deltaNonNeg x.packetsSent y.packetsSent = some 100 ∧
      deltaNonNeg x.packetsLost y.packetsLost = some 10 ∧
      (derive (some x) y).lossPct = none := by
  decide +kernel

end PulseRTC.Sdk
