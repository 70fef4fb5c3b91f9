import Mathlib.Data.Rat.Defs
import PulseRTC.Foundations.JsMap

/-!
# The client's view of the room

The browser SDK keeps the remote participants of its room and their publications in a
`ParticipantStore`, which the messages of the server bring up to date. `room_joined` carries the
full membership and, with session recovery, a snapshot of the publications, and the store is
reconciled with it; the other messages each tell of one change.

A media track may arrive before its publication is known. It then waits in `pendingTracks`.

* `reconcile` is one turn of the loop of `applyRoomJoined`, and `publish` the creation or update of
  one publication that it shares with `applyPublicationEvent`.
-/

namespace PulseRTC.Sdk

open Foundations

/-! ## Protocol -/

/-- The kind of a track. -/
inductive Kind
  | audio
  | video
  deriving DecidableEq

inductive MediaSource
  | camera
  | microphone
  | screen
  deriving DecidableEq

def defaultSource : Kind → MediaSource
  | .audio => .microphone
  | .video => .camera

/-- A `MediaStreamTrack`. -/
structure Track where
  id : String
  kind : Kind
  deriving DecidableEq

structure SnapshotTrack where
  publicationId : String
  kind : Kind
  source : Option MediaSource := none
  muted : Bool
  deriving DecidableEq

structure SnapshotParticipant where
  participantId : String
  name : Option String := none
  tracks : List SnapshotTrack
  deriving DecidableEq

structure ReconnectHints where
  initialDelayMs : ℚ
  maxDelayMs : ℚ
  jitter : ℚ
  deriving DecidableEq

/-- `RoomJoinedMsg`; of the snapshot the participants. -/
structure RoomJoined where
  roomId : String
  participants : List (String × Option String) := []
  sessionId : Option String := none
  generation : Option ℕ := none
  reconnected : Bool := false
  reconnect : Option ReconnectHints := none
  snapshot : Option (List SnapshotParticipant) := none
  deriving DecidableEq

/-- The types of a `PublicationEventMsg`. -/
inductive PublicationEventType
  | added
  | removed
  | muted
  deriving DecidableEq

/-- `PublicationEventMsg`. -/
structure PublicationEvent where
  type : PublicationEventType
  publicationId : String
  participantId : String
  kind : Kind
  source : Option MediaSource := none
  muted : Bool := false
  deriving DecidableEq

/-- `SubscriptionEventMsg`. -/
structure SubscriptionEvent where
  added : Bool
  publicationId : String
  participantId : String
  deriving DecidableEq

/-! ## The store -/

/-- `RemotePublication`; its id is its key. -/
structure RemotePublication where
  kind : Kind
  source : MediaSource
  muted : Bool := false
  track : Option Track := none
  subscribed : Bool := false
  deriving DecidableEq

/-- `RemoteParticipant`; its identity is its key. -/
structure RemoteParticipant where
  name : Option String := none
  publications : JsMap String RemotePublication := ∅
  deriving DecidableEq

structure ParticipantStore where
  remote : JsMap String RemoteParticipant := ∅
  localIdentity : Option String := none
  pendingTracks : JsMap String (List Track) := ∅
  deriving DecidableEq

namespace ParticipantStore

def applyWelcome (s : ParticipantStore) (participantId : String) : ParticipantStore :=
  { s with localIdentity := some participantId }

/-- Whether a string that may be absent is truthy. -/
def truthy : Option String → Bool
  | some name => name ≠ ""
  | none => false

def ensure (s : ParticipantStore) (identity : String) (name : Option String := none) :
    ParticipantStore :=
  match s.remote.lookup identity with
  | none => { s with remote := s.remote.set identity { name := name } }
  | some rp =>
    if truthy name && !truthy rp.name then
      { s with remote := s.remote.set identity { rp with name := name } }
    else s

/-- The participant, as `ensure` returns it. -/
def participant (s : ParticipantStore) (identity : String) : RemoteParticipant :=
  (s.remote.lookup identity).getD {}

def bufferTrack (s : ParticipantStore) (streamId : String) (track : Track) : ParticipantStore :=
  { s with
    pendingTracks :=
      s.pendingTracks.set streamId ((s.pendingTracks.lookup streamId).getD [] ++ [track]) }

def takeBufferedTrack (s : ParticipantStore) (streamId : String) (kind : Kind) :
    Option Track × ParticipantStore :=
  let list := (s.pendingTracks.lookup streamId).getD []
  match list.find? (·.kind = kind) with
  | none => (none, s)
  | some t =>
    let rest := list.eraseP (·.kind = kind)
    (some t, { s with
      pendingTracks :=
        if rest = [] then s.pendingTracks.erase streamId
        else s.pendingTracks.set streamId rest })

/-- Write a publication of a participant. -/
def setPublication (s : ParticipantStore) (identity publicationId : String)
    (pub : RemotePublication) : ParticipantStore :=
  let rp := s.participant identity
  { s with
    remote := s.remote.set identity
      { rp with publications := rp.publications.set publicationId pub } }

/-- Create a publication, or note whether it is muted. -/
def publish (s : ParticipantStore) (identity publicationId : String) (kind : Kind)
    (source : Option MediaSource) (muted : Bool) : ParticipantStore :=
  match (s.participant identity).publications.lookup publicationId with
  | some pub => s.setPublication identity publicationId { pub with muted := muted }
  | none =>
    let (track, s) := s.takeBufferedTrack identity kind
    s.setPublication identity publicationId
      { kind := kind, source := source.getD (defaultSource kind), muted := muted, track := track }

/-- What `room_joined` says of a participant. -/
structure Desired where
  name : Option String
  tracks : Option (List SnapshotTrack) := none
  deriving DecidableEq

/-- `desired`, from the two lists of the message. -/
def desired (m : RoomJoined) : JsMap String Desired :=
  (m.snapshot.getD []).foldl
    (fun d p => d.set p.participantId
      { name := p.name.or ((d.lookup p.participantId).bind Desired.name), tracks := some p.tracks })
    (m.participants.foldl (fun d p => d.set p.1 { name := p.2 }) ∅)

/-- One turn of the second loop of `applyRoomJoined`. -/
def reconcile (s : ParticipantStore) (id : String) (info : Desired) : ParticipantStore :=
  let s := s.ensure id info.name
  match info.tracks with
  | none => s
  | some tracks =>
    let rp := s.participant id
    let s := { s with
      remote := s.remote.set id
        { rp with
          publications := rp.publications.keep fun p => p ∈ tracks.map (·.publicationId) } }
    tracks.foldl (fun s t => s.publish id t.publicationId t.kind t.source t.muted) s

/-- The store that `applyRoomJoined` leaves. -/
def applyRoomJoined (s : ParticipantStore) (m : RoomJoined) : ParticipantStore :=
  (desired m).entries.foldl (fun s e => s.reconcile e.1 e.2)
    { s with remote := s.remote.keep fun id => id ∈ desired m }

/-- The `removed` participants of `applyRoomJoined`. -/
def removedBy (s : ParticipantStore) (m : RoomJoined) : List (String × RemoteParticipant) :=
  (s.remote.entries.filter fun e => e.1 ∉ desired m).map fun e => (e.1, e.2)

/-- The `added` participants of `applyRoomJoined`. -/
def addedBy (s : ParticipantStore) (m : RoomJoined) : List String :=
  (desired m).keys.filter fun id => id ∉ s.remote

def clearTracks (s : ParticipantStore) : ParticipantStore :=
  { s with
    remote := s.remote.map fun _ rp =>
      { rp with
        publications :=
          rp.publications.map fun _ pub => { pub with track := none, subscribed := false } }
    pendingTracks := ∅ }

def clear (_ : ParticipantStore) : ParticipantStore := {}

/-- `applyParticipantLeft`, which returns the participant if it is there. -/
def applyParticipantLeft (s : ParticipantStore) (id : String) : ParticipantStore :=
  { s with remote := s.remote.erase id }

/-- What `applyPublicationEvent` returns. -/
structure Applied where
  participant : String
  publicationId : String
  publication : RemotePublication
  removed : Bool
  deriving DecidableEq

def applyPublicationEvent (s : ParticipantStore) (m : PublicationEvent) :
    ParticipantStore × Option Applied :=
  if s.localIdentity = some m.participantId then (s, none)
  else
    let s := s.ensure m.participantId
    let rp := s.participant m.participantId
    match m.type with
    | .removed =>
      match rp.publications.lookup m.publicationId with
      | none => (s, none)
      | some pub =>
        ({ s with
          remote := s.remote.set m.participantId
            { rp with publications := rp.publications.erase m.publicationId } },
          some ⟨m.participantId, m.publicationId, pub, true⟩)
    | .added | .muted =>
      let s := s.publish m.participantId m.publicationId m.kind m.source m.muted
      (s, ((s.participant m.participantId).publications.lookup m.publicationId).map fun pub =>
        ⟨m.participantId, m.publicationId, pub, false⟩)

def applySubscriptionEvent (s : ParticipantStore) (m : SubscriptionEvent) : ParticipantStore :=
  match (s.remote.lookup m.participantId).bind (·.publications.lookup m.publicationId) with
  | none => s
  | some pub => s.setPublication m.participantId m.publicationId { pub with subscribed := m.added }

def freePublication (rp : RemoteParticipant) (kind : Kind) : Option (String × RemotePublication) :=
  (rp.publications.entries.find? fun e => e.2.kind = kind ∧ e.2.track = none).map
    fun e => (e.1, e.2)

/-- The publication that `attachTrack` finds for a track of a participant: the one of the id that
the browser has carried along, or a free one of the kind. -/
def findPublication (rp : RemoteParticipant) (track : Track) (trackId : String) :
    Option (String × RemotePublication) :=
  match rp.publications.lookup trackId with
  | some pub => if pub.track = none then some (trackId, pub) else freePublication rp track.kind
  | none => freePublication rp track.kind

def attachTrack (s : ParticipantStore) (streamId : String) (track : Track) (trackId : String) :
    ParticipantStore × Option Applied :=
  match s.remote.lookup streamId with
  | none => (s.bufferTrack streamId track, none)
  | some rp =>
    match findPublication rp track trackId with
    | none => (s.bufferTrack streamId track, none)
    | some (id, pub) =>
      let pub := { pub with track := some track }
      (s.setPublication streamId id pub, some ⟨streamId, id, pub, false⟩)

/-! ## Who is in the store -/

variable {s : ParticipantStore} {id j : String}

@[simp] theorem mem_ensure {name : Option String} :
    j ∈ (s.ensure id name).remote ↔ j = id ∨ j ∈ s.remote := by
  unfold ensure
  split
  · exact JsMap.mem_set
  · rename_i rp hrp
    have hmem : id ∈ s.remote := AList.lookup_isSome.1 (by simp [hrp])
    split_ifs
    · exact JsMap.mem_set
    · constructor
      · exact .inr
      · rintro (rfl | hj)
        exacts [hmem, hj]

theorem takeBufferedTrack_remote (s : ParticipantStore) (streamId : String) (kind : Kind) :
    (s.takeBufferedTrack streamId kind).2.remote = s.remote := by
  unfold takeBufferedTrack
  dsimp only
  split <;> rfl

@[simp] theorem mem_setPublication {p : String} {pub : RemotePublication} :
    j ∈ (s.setPublication id p pub).remote ↔ j = id ∨ j ∈ s.remote :=
  JsMap.mem_set

@[simp] theorem mem_publish {p : String} {kind : Kind} {source : Option MediaSource}
    {muted : Bool} : j ∈ (s.publish id p kind source muted).remote ↔ j = id ∨ j ∈ s.remote := by
  unfold publish
  split
  · exact mem_setPublication
  · rw [mem_setPublication, takeBufferedTrack_remote]

theorem mem_foldl_publish (tracks : List SnapshotTrack) (hid : id ∈ s.remote) :
    j ∈ (tracks.foldl (fun s t => s.publish id t.publicationId t.kind t.source t.muted) s).remote ↔
      j ∈ s.remote := by
  induction tracks generalizing s with
  | nil => rfl
  | cons t tracks ih =>
    rw [List.foldl_cons, ih (mem_publish.2 (.inl rfl)), mem_publish]
    constructor
    · rintro (rfl | hj)
      exacts [hid, hj]
    · exact .inr

@[simp] theorem mem_reconcile {info : Desired} :
    j ∈ (s.reconcile id info).remote ↔ j = id ∨ j ∈ s.remote := by
  unfold reconcile
  dsimp only
  split
  · exact mem_ensure
  · rw [mem_foldl_publish _ (JsMap.mem_set.2 (.inl rfl)), JsMap.mem_set, mem_ensure]
    tauto

theorem mem_foldl_reconcile (l : List (Σ _ : String, Desired)) :
    j ∈ (l.foldl (fun s e => s.reconcile e.1 e.2) s).remote ↔ j ∈ l.keys ∨ j ∈ s.remote := by
  induction l generalizing s with
  | nil => simp
  | cons e l ih =>
    rw [List.foldl_cons, ih, mem_reconcile, List.keys_cons, List.mem_cons]
    tauto

/-- **After `room_joined`, exactly the listed participants are in the store.** -/
theorem mem_applyRoomJoined {m : RoomJoined} :
    j ∈ (s.applyRoomJoined m).remote ↔ j ∈ desired m := by
  unfold applyRoomJoined
  rw [mem_foldl_reconcile, JsMap.mem_keep]
  simp only [decide_eq_true_eq]
  show j ∈ desired m ∨ j ∈ desired m ∧ j ∈ s.remote ↔ j ∈ desired m
  tauto

theorem mem_applySubscriptionEvent {m : SubscriptionEvent} :
    j ∈ (s.applySubscriptionEvent m).remote ↔ j ∈ s.remote := by
  unfold applySubscriptionEvent
  split
  · rfl
  · rename_i pub hpub
    obtain ⟨rp, hrp, -⟩ := Option.bind_eq_some_iff.1 hpub
    have hmem : m.participantId ∈ s.remote := AList.lookup_isSome.1 (by simp [hrp])
    rw [mem_setPublication]
    constructor
    · rintro (rfl | hj)
      exacts [hmem, hj]
    · exact .inr

/-- A publication event of somebody else brings its participant into the store. -/
theorem mem_applyPublicationEvent {m : PublicationEvent}
    (hlocal : s.localIdentity ≠ some m.participantId) :
    j ∈ (s.applyPublicationEvent m).1.remote ↔ j = m.participantId ∨ j ∈ s.remote := by
  unfold applyPublicationEvent
  rw [if_neg hlocal]
  dsimp only
  split
  · split
    · exact mem_ensure
    · rw [JsMap.mem_set, mem_ensure]
      tauto
  all_goals
    rw [mem_publish, mem_ensure]
    tauto

/-! ## The local identity -/

@[simp] theorem localIdentity_ensure (name : Option String) :
    (s.ensure id name).localIdentity = s.localIdentity := by
  unfold ensure
  split
  · rfl
  · split_ifs <;> rfl

@[simp] theorem localIdentity_publish (p : String) (kind : Kind) (source : Option MediaSource)
    (muted : Bool) : (s.publish id p kind source muted).localIdentity = s.localIdentity := by
  unfold publish
  split
  · rfl
  · unfold takeBufferedTrack
    dsimp only
    split <;> rfl

theorem localIdentity_reconcile (info : Desired) :
    (s.reconcile id info).localIdentity = s.localIdentity := by
  unfold reconcile
  dsimp only
  split
  · exact localIdentity_ensure _
  · next tracks _ =>
    have hfold (l : List SnapshotTrack) (s : ParticipantStore) :
        (l.foldl (fun s t =>
          s.publish id t.publicationId t.kind t.source t.muted) s).localIdentity =
          s.localIdentity := by
      induction l generalizing s with
      | nil => rfl
      | cons t l ih => rw [List.foldl_cons, ih, localIdentity_publish]
    rw [hfold]
    exact localIdentity_ensure _

theorem localIdentity_applyRoomJoined (m : RoomJoined) :
    (s.applyRoomJoined m).localIdentity = s.localIdentity := by
  have hfold (l : List (Σ _ : String, Desired)) (s : ParticipantStore) :
      (l.foldl (fun s e => s.reconcile e.1 e.2) s).localIdentity = s.localIdentity := by
    induction l generalizing s with
    | nil => rfl
    | cons e l ih => rw [List.foldl_cons, ih, localIdentity_reconcile]
  exact hfold _ _

theorem localIdentity_applySubscriptionEvent (m : SubscriptionEvent) :
    (s.applySubscriptionEvent m).localIdentity = s.localIdentity := by
  unfold applySubscriptionEvent
  split <;> rfl

theorem localIdentity_applyPublicationEvent (m : PublicationEvent) :
    (s.applyPublicationEvent m).1.localIdentity = s.localIdentity := by
  unfold applyPublicationEvent
  split_ifs
  · rfl
  · dsimp only
    split
    · split
      all_goals exact localIdentity_ensure _
    all_goals rw [localIdentity_publish, localIdentity_ensure]

theorem localIdentity_attachTrack (streamId : String) (track : Track) (trackId : String) :
    (s.attachTrack streamId track trackId).1.localIdentity = s.localIdentity := by
  unfold attachTrack
  split
  · rfl
  · split <;> rfl

end ParticipantStore

end PulseRTC.Sdk
