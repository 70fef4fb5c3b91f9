import PulseRTC.Foundations.GoMap
import PulseRTC.Cluster.Node

/-!
# Messages between nodes

The envelope that nodes exchange, its validation, the duplicate detection of a node and the
handler that dispatches an accepted message to the node's local component.

The handler marks a request id as seen before it dispatches, and answers a duplicate with success:
`handle_fresh` and `handle_duplicate` are the two outcomes for an accepted message.
-/

namespace PulseRTC.Cluster

open Foundations

/-- The types of media session control. -/
inductive MediaType
  | sessionOpen
  | sessionAccept
  | sessionReject
  | sessionClose
  | subscribe
  | subscribeAck
  | unsubscribe
  | trackEnded
  deriving DecidableEq

/-- The types of a message; `other` is any text that is not a known type. -/
inductive MessageType
  | participantMessage
  | participantDisconnect
  | participantControl
  | roomEvent
  | media (t : MediaType)
  | other (text : String)
  deriving DecidableEq

/-- `knownMessageTypes`. -/
def MessageType.known : MessageType → Bool
  | .other _ => false
  | _ => true

def MessageType.participantScoped : MessageType → Bool
  | .participantMessage | .participantDisconnect | .participantControl => true
  | _ => false

/-- `ClusterMessage`; the timestamp is in milliseconds. -/
structure ClusterMessage where
  type : MessageType
  requestID : String
  sourceNodeID : NodeId
  targetNodeID : NodeId := ""
  timestamp : ℤ
  roomID : RoomId := ""
  participantID : ParticipantId := ""
  payload : List UInt8 := []
  deriving DecidableEq

/-- The message with its target set. -/
def ClusterMessage.to (m : ClusterMessage) (n : NodeId) : ClusterMessage :=
  { m with targetNodeID := n }

/-! ## Validation -/

/-- `unicode.IsSpace`. -/
def isSpace (c : Char) : Bool :=
  c.toNat ∈ [0x09, 0x0a, 0x0b, 0x0c, 0x0d, 0x20, 0x85, 0xa0, 0x1680, 0x2028, 0x2029, 0x202f,
    0x205f, 0x3000] || (0x2000 ≤ c.toNat && c.toNat ≤ 0x200a)

/-- `strings.TrimSpace(s) == ""`. -/
def blank (s : String) : Bool := s.toList.all isSpace

/-- An error with a code and a text. -/
def plainError (code : ErrorCode) (message : String) : Error := { code := code, message := message }

/-- `ClusterMessage.Validate`; `none` is a valid envelope. -/
def ClusterMessage.validate (m : ClusterMessage) (now maxAge : Time) (maxSize : ℤ) :
    Option Error :=
  if !m.type.known then some (plainError .clusterMessageInvalid "unknown message type")
  else if blank m.requestID then
    some (plainError .clusterMessageInvalid "requestId is required")
  else if blank m.sourceNodeID then
    some (plainError .clusterMessageInvalid "sourceNodeId is required")
  else if blank m.targetNodeID then
    some (plainError .clusterMessageInvalid "targetNodeId is required")
  else if maxSize > 0 ∧ m.payload.length > maxSize then
    some (plainError .clusterMessageTooLarge "payload exceeds limit")
  else if m.timestamp ≤ 0 then
    some (plainError .clusterMessageInvalid "timestamp is required")
  else if maxAge > 0 ∧ (now - m.timestamp * 1000000 > maxAge ∨
      m.timestamp * 1000000 - now > maxAge + 30 * second) then
    some (plainError .clusterMessageExpired "message timestamp outside the accepted window")
  else none

def isNotFound : Option Error → Bool
  | some e => e.code == .participantNotFound
  | none => false

/-- No validation error is `PARTICIPANT_NOT_FOUND`. -/
theorem validate_not_isNotFound (m : ClusterMessage) (now maxAge : Time) (maxSize : ℤ) :
    isNotFound (m.validate now maxAge maxSize) = false := by
  unfold ClusterMessage.validate
  split_ifs <;> rfl

/-! ## Duplicates -/

/-- `dedupCache.markSeen`: the entries after the call, and whether the id was there. -/
def markSeen (ttl now : Time) (seen : GoMap String Time) (requestID : String) :
    GoMap String Time × Bool :=
  match seen.lookup requestID with
  | some exp =>
    if now < exp then (seen, true) else (seen.insert requestID (now + ttl), false)
  | none => (seen.insert requestID (now + ttl), false)

/-- The id is in the cache and not expired. -/
def isDuplicate (now : Time) (seen : GoMap String Time) (requestID : String) : Bool :=
  match seen.lookup requestID with
  | some exp => now < exp
  | none => false

theorem markSeen_eq (ttl now : Time) (seen : GoMap String Time) (requestID : String) :
    markSeen ttl now seen requestID =
      if isDuplicate now seen requestID then (seen, true)
      else (seen.insert requestID (now + ttl), false) := by
  unfold markSeen isDuplicate
  cases seen.lookup requestID with
  | none => rfl
  | some exp => by_cases h : now < exp <;> simp [h]

/-! ## The handler of a node -/

/-- `LocalDelivery`: what the signaling layer answers to a routed message. -/
structure LocalDelivery where
  deliverToParticipant : ClusterMessage → Option Error
  deliverRoomEvent : ClusterMessage → Option Error

/-- `clusterDelivery`, for the participants connected to the node. -/
def clusterDelivery (connected : ParticipantId → Bool) : LocalDelivery where
  deliverToParticipant m :=
    if connected m.participantID then none
    else some { code := .participantNotFound, message := "participant is not on this node",
                participantID := m.participantID }
  deliverRoomEvent _ := none

/-- A node as its handler sees it: its limits, the lifetime of its seen ids, the local delivery
and the media control, each nil when not configured. -/
structure Handler where
  maxAge : Time := 30 * second
  maxSize : ℤ := 64 * 1024
  dedupTTL : Time := 30 * second
  delivery : Option LocalDelivery := none
  media : Option (ClusterMessage → Option Error) := none

/-- The dispatch of a message that is no duplicate. -/
def Handler.dispatch (h : Handler) (m : ClusterMessage) : Option Error :=
  match m.type with
  | .media _ =>
    match h.media with
    | none => some (plainError .mediaNodeUnavailable "cross-node media disabled")
    | some media => media m
  | .participantMessage | .participantControl | .participantDisconnect =>
    match h.delivery with
    | none => some (plainError .participantNotFound "node has no local delivery target")
    | some d => d.deliverToParticipant m
  | .roomEvent =>
    match h.delivery with
    | none => some (plainError .participantNotFound "node has no local delivery target")
    | some d => d.deliverRoomEvent m
  | .other _ =>
    match h.delivery with
    | none => some (plainError .participantNotFound "node has no local delivery target")
    | some _ => some (plainError .clusterMessageInvalid "unhandled message type")

/-- The call of `DeliverToParticipant` that the dispatch makes, with its result. -/
def Handler.calls (h : Handler) (m : ClusterMessage) : List (ClusterMessage × Option Error) :=
  if m.type.participantScoped then
    match h.delivery with
    | none => []
    | some d => [(m, d.deliverToParticipant m)]
  else []

/-- What `Handle` leaves behind: the seen ids, the calls of `DeliverToParticipant`, the result. -/
structure Handled where
  seen : GoMap String Time
  calls : List (ClusterMessage × Option Error)
  result : Option Error

/-- `clusterMessageHandler.Handle` on the node `self`. -/
def Handler.handle (h : Handler) (self : NodeId) (now : Time) (seen : GoMap String Time)
    (m : ClusterMessage) : Handled :=
  match m.validate now h.maxAge h.maxSize with
  | some e => ⟨seen, [], some e⟩
  | none =>
    if m.targetNodeID ≠ self then
      ⟨seen, [], some { code := .clusterTargetMismatch,
                        message := "message addressed to a different node",
                        nodeID := m.targetNodeID }⟩
    else
      match markSeen h.dedupTTL now seen m.requestID with
      | (seen', true) => ⟨seen', [], none⟩
      | (seen', false) => ⟨seen', h.calls m, h.dispatch m⟩

variable {h : Handler} {self : NodeId} {now : Time} {seen : GoMap String Time} {m : ClusterMessage}

/-- An accepted message whose id the node has not seen is marked and dispatched. -/
theorem handle_fresh (hv : (m.to self).validate now h.maxAge h.maxSize = none)
    (hd : isDuplicate now seen m.requestID = false) :
    h.handle self now seen (m.to self) =
      ⟨seen.insert m.requestID (now + h.dedupTTL), h.calls (m.to self),
        h.dispatch (m.to self)⟩ := by
  have hmark : markSeen h.dedupTTL now seen (m.to self).requestID =
      (seen.insert m.requestID (now + h.dedupTTL), false) := by
    rw [markSeen_eq, ClusterMessage.to, hd]
    rfl
  simp [Handler.handle, hv, hmark, show (m.to self).targetNodeID = self from rfl]

/-- An accepted duplicate is answered with success and not dispatched. -/
theorem handle_duplicate (hv : (m.to self).validate now h.maxAge h.maxSize = none)
    (hd : isDuplicate now seen m.requestID = true) :
    h.handle self now seen (m.to self) = ⟨seen, [], none⟩ := by
  have hmark : markSeen h.dedupTTL now seen (m.to self).requestID = (seen, true) := by
    rw [markSeen_eq, ClusterMessage.to, hd]
    rfl
  simp [Handler.handle, hv, hmark, show (m.to self).targetNodeID = self from rfl]

theorem handle_invalid {e : Error} (hv : (m.to self).validate now h.maxAge h.maxSize = some e) :
    h.handle self now seen (m.to self) = ⟨seen, [], some e⟩ := by
  simp [Handler.handle, hv]

end PulseRTC.Cluster
