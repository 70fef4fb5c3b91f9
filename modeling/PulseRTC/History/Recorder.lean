import PulseRTC.Cluster.Node
import PulseRTC.Foundations.GoMap

/-!
# The call-history recorder

`Recorder` keeps the summary of each room that is open, with one record for each logical
participant, whatever the number of connections it uses. A summary is opened by the first join,
and is finalized and released when the room is torn down. A record says whether its participant is
connected, and accounts the time since the last checkpoint to the quality in effect.

What the rest of the server sees is `isOpen` and `connected`; each operation has one lemma for
each of them.
-/

namespace PulseRTC.History

open Foundations Cluster Option Finmap

/-- The quality labels. -/
inductive Status
  | good
  | warning
  | poor
  deriving DecidableEq

/-- `ParticipantSummary`. A zero time is `none`. -/
structure ParticipantSummary where
  participantID : String
  name : String
  firstJoinedAt : Time
  lastLeftAt : Option Time := none
  reconnects : ℕ := 0
  qualityGoodDur : Time := 0
  qualityWarningDur : Time := 0
  qualityPoorDur : Time := 0
  degradationCount : ℕ := 0
  degradations : GoMap String ℕ := ∅
  recoveries : ℕ := 0
  lastStatus : Status := .good
  connected : Bool := false
  qualityStatus : Status := .good
  qualitySince : Option Time := none
  deriving DecidableEq

structure RoomSummary where
  roomID : RoomId
  startedAt : Time
  endedAt : Option Time := none
  participantsPeak : ℤ := 0
  reconnects : ℕ := 0
  negotiationsTotal : ℤ := 0
  negotiationFailures : ℤ := 0
  participants : GoMap String ParticipantSummary := ∅
  activeCount : ℤ := 0
  negBaseStart : ℤ
  negBaseFail : ℤ

/-- `Recorder`: the open summaries, those it has emitted, and its counters. -/
structure Recorder where
  rooms : GoMap RoomId RoomSummary := ∅
  emitted : List RoomSummary := []
  summaries : ℕ := 0
  reconnects : ℕ := 0
  qualityDegraded : ℕ := 0
  qualityRecovered : ℕ := 0

/-! ## One record -/

namespace ParticipantSummary

def accrueQuality (p : ParticipantSummary) (now : Time) : ParticipantSummary :=
  match p.qualitySince with
  | none => { p with qualitySince := some now }
  | some since =>
    let d := max 0 (now - since)
    match p.qualityStatus with
    | .warning =>
      { p with qualityWarningDur := p.qualityWarningDur + d, qualitySince := some now }
    | .poor => { p with qualityPoorDur := p.qualityPoorDur + d, qualitySince := some now }
    | .good => { p with qualityGoodDur := p.qualityGoodDur + d, qualitySince := some now }

/-- The record of a participant that was not known. -/
def fresh (now : Time) (logicalID name : String) : ParticipantSummary where
  participantID := logicalID
  name := name
  firstJoinedAt := now
  qualitySince := some now
  connected := true

/-- The record of a known participant after another join. -/
def rejoin (p : ParticipantSummary) (now : Time) (name : String) (reconnect : Bool) :
    ParticipantSummary :=
  { p with
    name := if name ≠ "" ∧ p.name = "" then name else p.name
    reconnects := if reconnect = true ∨ p.connected = false then p.reconnects + 1 else p.reconnects
    lastLeftAt := none
    qualitySince := some now
    connected := true }

/-- The record of a participant that has left. -/
def leave (p : ParticipantSummary) (now : Time) : ParticipantSummary :=
  { p.accrueQuality now with connected := false, lastLeftAt := some now }

/-- What `RoomClosed` makes of a record. -/
def finalize (p : ParticipantSummary) (now : Time) : ParticipantSummary :=
  let p := if p.connected then { p.accrueQuality now with connected := false } else p
  { p with lastLeftAt := p.lastLeftAt.or (some now) }

end ParticipantSummary

/-! ## The operations -/

namespace Recorder

variable (r : Recorder)

/-- `EnsureRoom`, with the negotiation counters `started` and `failed`. -/
def ensureRoom (now : Time) (started failed : ℤ) (roomID : RoomId) : Recorder :=
  if roomID = "" then r
  else match r.rooms.lookup roomID with
  | some _ => r
  | none =>
    { r with
      rooms := r.rooms.insert roomID
        { roomID := roomID, startedAt := now, negBaseStart := started, negBaseFail := failed } }

def participantJoined (now : Time) (roomID : RoomId) (logicalID name : String)
    (reconnect : Bool) : Recorder :=
  if roomID = "" ∨ logicalID = "" then r
  else match r.rooms.lookup roomID with
  | none => r
  | some rs =>
    let known := rs.participants.lookup logicalID
    let wasConnected := known.any fun p => p.connected
    let again := known.any fun p => reconnect || !p.connected
    let record := match known with
      | none => .fresh now logicalID name
      | some p => p.rejoin now name reconnect
    let active := if wasConnected then rs.activeCount else rs.activeCount + 1
    { r with
      rooms := r.rooms.insert roomID
        { rs with
          participants := rs.participants.insert logicalID record
          reconnects := if again then rs.reconnects + 1 else rs.reconnects
          activeCount := active
          participantsPeak :=
            if wasConnected then rs.participantsPeak else max rs.participantsPeak active }
      reconnects := if again then r.reconnects + 1 else r.reconnects }

def participantLeft (now : Time) (roomID : RoomId) (logicalID : String) : Recorder :=
  if roomID = "" ∨ logicalID = "" then r
  else match r.rooms.lookup roomID with
  | none => r
  | some rs =>
    match rs.participants.lookup logicalID with
    | none => r
    | some p =>
      if p.connected = false then r
      else
        { r with
          rooms := r.rooms.insert roomID
            { rs with
              participants := rs.participants.insert logicalID (p.leave now)
              activeCount := rs.activeCount - 1 } }

/-- `RoomClosed`, with the negotiation counters `started` and `failed`. -/
def roomClosed (now : Time) (started failed : ℤ) (roomID : RoomId) : Recorder :=
  if roomID = "" then r
  else match r.rooms.lookup roomID with
  | none => r
  | some rs =>
    { r with
      rooms := r.rooms.erase roomID
      emitted := r.emitted ++
        [{ rs with
            endedAt := some now
            negotiationsTotal := max 0 (started - rs.negBaseStart)
            negotiationFailures := max 0 (failed - rs.negBaseFail)
            participants := GoMap.mapValues (fun p => p.finalize now) rs.participants }]
      summaries := r.summaries + 1 }

/-! ## What the server sees -/

/-- The room has a summary. -/
def isOpen (roomID : RoomId) : Bool := (r.rooms.lookup roomID).isSome

/-- The participant is marked connected in the summary of the room. -/
def connected (roomID : RoomId) (logicalID : String) : Bool :=
  (r.rooms.lookup roomID).any fun rs =>
    (rs.participants.lookup logicalID).any fun p => p.connected

variable {r} {now : Time} {started failed : ℤ} {roomID : RoomId} {logicalID name : String}
  {reconnect : Bool}

theorem isOpen_of_connected (h : r.connected roomID logicalID = true) :
    r.isOpen roomID = true := by
  unfold connected at h
  unfold isOpen
  cases hlookup : r.rooms.lookup roomID with
  | none => simp [hlookup] at h
  | some rs => rfl

theorem isOpen_ensureRoom (hroom : roomID ≠ "") :
    (r.ensureRoom now started failed roomID).isOpen roomID = true := by
  unfold ensureRoom isOpen
  rw [if_neg hroom]
  split
  · next rs hlookup => rw [hlookup, isSome_some]
  · rw [lookup_insert, isSome_some]

/-- A summary that is opened has no records, and one that is open stays as it is. -/
theorem connected_ensureRoom :
    (r.ensureRoom now started failed roomID).connected roomID logicalID =
      r.connected roomID logicalID := by
  unfold ensureRoom
  split_ifs
  · rfl
  · split
    · rfl
    · next hlookup =>
      rw [connected, connected, lookup_insert, hlookup]
      rfl

theorem isOpen_participantJoined :
    (r.participantJoined now roomID logicalID name reconnect).isOpen roomID =
      r.isOpen roomID := by
  unfold participantJoined
  split_ifs
  · rfl
  · split
    · rfl
    · next rs hlookup => simp [isOpen, hlookup]

theorem connected_participantJoined (hroom : roomID ≠ "") (hid : logicalID ≠ "")
    (hopen : r.isOpen roomID = true) (l : String) :
    (r.participantJoined now roomID logicalID name reconnect).connected roomID l =
      (decide (l = logicalID) || r.connected roomID l) := by
  obtain ⟨rs, hlookup⟩ := isSome_iff_exists.1 hopen
  unfold participantJoined
  rw [if_neg (not_or.2 ⟨hroom, hid⟩), hlookup]
  simp only [connected, lookup_insert, hlookup, any_some, GoMap.lookup_insert_eq]
  by_cases hl : l = logicalID
  · rw [if_pos hl, decide_eq_true hl, Bool.true_or, any_some]
    cases rs.participants.lookup logicalID <;> rfl
  · rw [if_neg hl, decide_eq_false hl, Bool.false_or]

theorem isOpen_participantLeft :
    (r.participantLeft now roomID logicalID).isOpen roomID = r.isOpen roomID := by
  unfold participantLeft
  split_ifs
  · rfl
  · split
    · rfl
    · next rs hlookup =>
      split
      · rfl
      · split_ifs
        · rfl
        · simp [isOpen, hlookup]

/-- After a leave the participant is not connected, and the others are as before. -/
theorem connected_participantLeft (hroom : roomID ≠ "") (hid : logicalID ≠ "") (l : String) :
    (r.participantLeft now roomID logicalID).connected roomID l =
      (!decide (l = logicalID) && r.connected roomID l) := by
  -- where the operation does nothing, the participant was not connected before
  have hsame (hnot : r.connected roomID logicalID = false) :
      r.connected roomID l = (!decide (l = logicalID) && r.connected roomID l) := by
    by_cases hl : l = logicalID
    · rw [hl, hnot, Bool.and_false]
    · rw [decide_eq_false hl, Bool.not_false, Bool.true_and]
  unfold participantLeft
  rw [if_neg (not_or.2 ⟨hroom, hid⟩)]
  split
  · next hlookup => exact hsame (by rw [connected, hlookup, any_none])
  · next rs hlookup =>
    split
    · next hknown =>
      exact hsame (by rw [connected, hlookup, any_some, hknown, any_none])
    · next p hknown =>
      split_ifs with hconn
      · exact hsame (by rw [connected, hlookup, any_some, hknown, any_some, hconn])
      · simp only [connected, lookup_insert, hlookup, any_some, GoMap.lookup_insert_eq]
        by_cases hl : l = logicalID
        · rw [if_pos hl, decide_eq_true hl, any_some, Bool.not_true, Bool.false_and]
          rfl
        · rw [if_neg hl, decide_eq_false hl, Bool.not_false, Bool.true_and]

theorem isOpen_roomClosed (hroom : roomID ≠ "") :
    (r.roomClosed now started failed roomID).isOpen roomID = false := by
  unfold roomClosed isOpen
  rw [if_neg hroom]
  split
  · next hlookup => rw [hlookup, isSome_none]
  · rw [lookup_erase, isSome_none]

end Recorder

end PulseRTC.History
