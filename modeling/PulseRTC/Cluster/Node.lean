import Mathlib.Data.Rat.Defs
import Mathlib.Data.Finset.Insert

/-!
# Nodes of the cluster

The data shared by every part of the cluster: identifiers, instants, the lifecycle phase of a
node, its registry record and the errors a cluster call returns. Instants and durations are
integers (nanoseconds); a registry record carries the fields the modelled code reads.
-/

namespace PulseRTC.Cluster

/-- Node identifiers. -/
abbrev NodeId := String

/-- Room identifiers. -/
abbrev RoomId := String

/-- Participant identifiers. -/
abbrev ParticipantId := String

/-- Instants and durations, in nanoseconds. -/
abbrev Time := ℤ

def second : Time := 1000000000

/-- `NodeState`: the lifecycle phase of a node. -/
inductive NodeState
  | starting
  | ready
  | active
  | shuttingDown
  | offline
  deriving DecidableEq

def NodeState.acceptsSessions : NodeState → Bool
  | .ready | .active => true
  | .starting | .shuttingDown | .offline => false

/-- `NodeInfo`: the registry record of a node. `Register` refuses a record without an id. -/
structure NodeInfo where
  id : NodeId
  state : NodeState
  lastSeen : Time
  named : id ≠ "" := by decide
  deriving DecidableEq

/-- The codes of `Error` that the modelled calls return. -/
inductive ErrorCode
  | roomOnOtherNode
  | nodeShuttingDown
  | clusterStateUnavailable
  | badRequest
  | clusterNodeNotFound
  | clusterNodeUnavailable
  | clusterMessageInvalid
  | clusterMessageTooLarge
  | clusterMessageExpired
  | clusterTargetMismatch
  | clusterUnauthorized
  | participantNotFound
  | mediaNodeUnavailable
  | noCapacity
  | participantStale
  | ownershipConflict
  | alreadyRecovered
  | recoveryDisabled
  deriving DecidableEq

/-- `Error`: a cluster failure with its code, text and the ids a caller acts on. -/
structure Error where
  code : ErrorCode
  message : String
  nodeID : NodeId := ""
  roomID : RoomId := ""
  participantID : ParticipantId := ""
  deriving DecidableEq

end PulseRTC.Cluster
