import PulseRTC.Foundations.GoMap
import PulseRTC.Cluster.Node

/-!
# The session registry

A `Session` is a participant's logical presence in a room; it outlives the connection that backs
it. The registry binds sessions to the physical ids of connections and knows, for an identity in a
room, which physical id is the current one. The map of the source holds pointers, and `Open` changes
a session through its pointer, so the sessions here are objects with a reference (`objects`), and
the map holds references. Generations have 64 bits.
-/

namespace PulseRTC.Signaling

open Foundations Cluster Option

inductive SessionState
  | connecting
  | connected
  | recovering
  | reconnected
  | closed
  deriving DecidableEq

structure TrackIntent where
  trackID : String
  kind : String
  muted : Bool
  deriving DecidableEq

structure SubIntent where
  publicationID : String
  enabled : Bool
  deriving DecidableEq

/-- `Session`. The zero time is `none`. -/
structure Session where
  sessionID : String
  logicalID : String
  participantID : ParticipantId
  roomID : RoomId
  nodeID : NodeId
  generation : ℕ
  state : SessionState
  createdAt : Time
  recoveryStartedAt : Option Time := none
  reconnectedAt : Option Time := none
  publish : GoMap String TrackIntent := ∅
  subscribe : GoMap String SubIntent := ∅
  deriving DecidableEq

structure ResumeInfo where
  sessionID : String
  generation : ℕ := 0
  deriving DecidableEq

/-- The codes of a `SessionError` and of a session event. -/
inductive SessionCode
  | staleSession
  | sessionReplaced
  deriving DecidableEq

structure SessionError where
  code : SessionCode
  message : String
  deriving DecidableEq

def sessionKey (logicalID : String) (roomID : RoomId) : String := logicalID ++ "\x00" ++ roomID

/-- `SessionRegistry`: every session object that was created, the references by physical id, and
the physical id that is current for a key. -/
structure SessionRegistry where
  objects : List Session
  byPhys : GoMap ParticipantId ℕ
  primary : GoMap String ParticipantId
  lt_length : ∀ phys ref, byPhys.lookup phys = some ref → ref < objects.length

structure OpenResult where
  session : Session
  kick : ParticipantId := ""
  reconnected : Bool := false
  recoveryDur : Time := 0
  deriving DecidableEq

namespace SessionRegistry

/-- `newSessionRegistry`. -/
def empty : SessionRegistry where
  objects := []
  byPhys := ∅
  primary := ∅
  lt_length := by simp

variable (r : SessionRegistry)

/-- The session bound to a physical id, with its reference. -/
def find (phys : ParticipantId) : Option (ℕ × Session) :=
  (r.byPhys.lookup phys).bind fun ref => (r.objects[ref]?).map fun sess => (ref, sess)

/-- The object behind a reference is replaced. -/
def update (ref : ℕ) (sess : Session) : SessionRegistry where
  objects := r.objects.set ref sess
  byPhys := r.byPhys
  primary := r.primary
  lt_length phys ref' h := by
    rw [List.length_set]
    exact r.lt_length phys ref' h

/-- A new object is bound to a physical id. -/
def create (phys : ParticipantId) (sess : Session) : SessionRegistry where
  objects := r.objects ++ [sess]
  byPhys := r.byPhys.insert phys r.objects.length
  primary := r.primary
  lt_length j ref h := by
    rw [GoMap.lookup_insert_eq] at h
    rw [List.length_append, List.length_singleton]
    split_ifs at h
    · have heq : r.objects.length = ref := Option.some.inj h
      omega
    · have hlt := r.lt_length j ref h
      omega

/-- The object bound to the physical id `old`, if any, is bound to `new` instead. -/
def rebind (old new : ParticipantId) : SessionRegistry :=
  match h : r.byPhys.lookup old with
  | none => r
  | some ref =>
    { r with
      byPhys := (r.byPhys.erase old).insert new ref
      lt_length := fun j ref' hj => by
        rw [GoMap.lookup_insert_eq, GoMap.lookup_erase_eq] at hj
        split_ifs at hj
        · obtain rfl : ref = ref' := Option.some.inj hj
          exact r.lt_length old ref h
        · exact r.lt_length j ref' hj }

/-- Nothing is bound to the physical id any more. -/
def unbind (phys : ParticipantId) : SessionRegistry where
  objects := r.objects
  byPhys := r.byPhys.erase phys
  primary := r.primary
  lt_length j ref h := by
    rw [GoMap.lookup_erase_eq] at h
    split_ifs at h
    exact r.lt_length j ref h

/-- The key has no current physical id any more, if this was it. -/
def clearPrimary (key : String) (phys : ParticipantId) : SessionRegistry :=
  if (r.primary.lookup key).getD "" = phys then { r with primary := r.primary.erase key } else r

/-- The physical id is current for the key. -/
def setPrimary (key : String) (phys : ParticipantId) : SessionRegistry :=
  { r with primary := r.primary.insert key phys }

/-! ## `Open` -/

/-- The checks of `Open` on a resume: the physical id it takes the session over from, and that
session. -/
def checkResume (key : String) (resume : ResumeInfo) :
    Except SessionError (ParticipantId × ℕ × Session) :=
  match (r.primary.lookup key).bind fun phys => (r.find phys).map fun found => (phys, found) with
  | none => .error ⟨.staleSession, "no such session to resume"⟩
  | some (phys, ref, prev) =>
    if prev.sessionID ≠ resume.sessionID then
      .error ⟨.staleSession, "no such session to resume"⟩
    else if resume.generation ≠ 0 ∧ resume.generation < prev.generation then
      .error ⟨.staleSession, "session generation is stale"⟩
    else .ok (phys, ref, prev)

/-- What a resume makes of the session. -/
def reconnect (prev : Session) (now : Time) (phys : ParticipantId) (node : NodeId) : Session :=
  { prev with
    generation := (prev.generation + 1) % 2 ^ 64
    participantID := phys
    nodeID := node
    state := .connected
    reconnectedAt := some now
    recoveryStartedAt := none }

/-- A fresh session; its id is made of the first characters of a new UUID. -/
def fresh (now : Time) (uuid logicalID : String) (roomID : RoomId) (phys : ParticipantId)
    (node : NodeId) : Session where
  sessionID := "sess-" ++ String.ofList (uuid.toList.take 12)
  logicalID := logicalID
  participantID := phys
  roomID := roomID
  nodeID := node
  generation := 1
  state := .connected
  createdAt := now

/-- `Open`, at the instant `now` and with the UUID `uuid`. -/
def openSession (now : Time) (uuid logicalID : String) (roomID : RoomId) (phys : ParticipantId)
    (node : NodeId) (resume : Option ResumeInfo) :
    SessionRegistry × Except SessionError OpenResult :=
  let key := sessionKey logicalID roomID
  match resume with
  | none =>
    let sess := fresh now uuid logicalID roomID phys node
    ((r.create phys sess).setPrimary key phys, .ok { session := sess })
  | some resume =>
    match r.checkResume key resume with
    | .error err => (r, .error err)
    | .ok (prevPhys, ref, prev) =>
      let sess := reconnect prev now phys node
      (((r.update ref sess).rebind prevPhys phys).setPrimary key phys, .ok
          { session := sess
            kick := if prev.state = .connected ∧ prevPhys ≠ phys then prevPhys else ""
            reconnected := true
            recoveryDur := (prev.recoveryStartedAt.map fun t => now - t).getD 0 })

/-! ## The end of a session -/

/-- `MarkRecovering`, which does not look at the identity and the room. -/
def markRecovering (now : Time) (phys : ParticipantId) : SessionRegistry × Bool :=
  match r.find phys with
  | none => (r, false)
  | some (ref, cur) =>
    if cur.state = .closed then (r, false)
    else (r.update ref { cur with state := .recovering, recoveryStartedAt := some now }, true)

/-- A session is closed: it loses its physical id, which is no longer current for the key. -/
def drop (key : String) (phys : ParticipantId) (ref : ℕ) (cur : Session) : SessionRegistry :=
  ((r.update ref { cur with state := .closed }).unbind phys).clearPrimary key phys

def close (logicalID : String) (roomID : RoomId) (phys : ParticipantId) : SessionRegistry :=
  match r.find phys with
  | none => r
  | some (ref, cur) => r.drop (sessionKey logicalID roomID) phys ref cur

/-- The session has been recovering since before `cutoff`. The zero time is before any other. -/
def Expired (cutoff : Time) (sess : Session) : Prop :=
  sess.state = .recovering ∧ ∀ since ∈ sess.recoveryStartedAt, since < cutoff

instance (cutoff : Time) (sess : Session) : Decidable (Expired cutoff sess) :=
  inferInstanceAs (Decidable (_ ∧ _))

/-- The loop of `SweepExpired` over the physical ids, in the order in which it meets them, with the
sessions it closes. -/
def sweep (cutoff : Time) : SessionRegistry → List ParticipantId → SessionRegistry × List ℕ
  | r, [] => (r, [])
  | r, phys :: order =>
    match r.find phys with
    | none => sweep cutoff r order
    | some (ref, s) =>
      if Expired cutoff s then
        let out := sweep cutoff (r.drop (sessionKey s.logicalID s.roomID) phys ref s) order
        (out.1, ref :: out.2)
      else sweep cutoff r order

/-- `SweepExpired`; what it returns is the number of sessions it closes. -/
def sweepExpired (timeout now : Time) (order : List ParticipantId) : SessionRegistry × List ℕ :=
  if timeout ≤ 0 then (r, []) else sweep (now - timeout) r order

/-! ## Intents -/

/-- `withSession`: the current session of an identity in a room is changed through its pointer. -/
def withSession (logicalID : String) (roomID : RoomId) (fn : Session → Session) :
    SessionRegistry :=
  match (r.primary.lookup (sessionKey logicalID roomID)).bind r.find with
  | none => r
  | some (ref, s) => r.update ref (fn s)

def updatePublishIntent (logicalID : String) (roomID : RoomId) (ti : TrackIntent) :
    SessionRegistry :=
  r.withSession logicalID roomID fun s =>
    if ti.trackID = "" then s else { s with publish := s.publish.insert ti.trackID ti }

def removePublishIntent (logicalID : String) (roomID : RoomId) (trackID : String) :
    SessionRegistry :=
  r.withSession logicalID roomID fun s => { s with publish := s.publish.erase trackID }

def updateSubIntent (logicalID : String) (roomID : RoomId) (si : SubIntent) : SessionRegistry :=
  r.withSession logicalID roomID fun s =>
    if si.publicationID = "" then s
    else if si.enabled then { s with subscribe := s.subscribe.insert si.publicationID si }
    else { s with subscribe := s.subscribe.erase si.publicationID }

/-- The resume, if any, is refused. -/
def Stale (logicalID : String) (roomID : RoomId) (resume : Option ResumeInfo) : Prop :=
  ∃ info ∈ resume, ∃ err, r.checkResume (sessionKey logicalID roomID) info = .error err

/-- The same sessions, bound to the same physical ids, and the same current ones. -/
structure Same (r' : SessionRegistry) : Prop where
  find : ∀ phys, r'.find phys = r.find phys
  primary : r'.primary = r.primary

theorem Same.refl : r.Same r := ⟨fun _ => rfl, rfl⟩

variable {r} {now : Time} {uuid logicalID : String} {roomID : RoomId} {phys : ParticipantId}
  {node : NodeId} {resume : Option ResumeInfo}

variable {ref : ℕ} {key : String} {info : ResumeInfo} {prevPhys : ParticipantId} {prev : Session}

/-- A physical id is bound to objects that exist. -/
theorem find_lt {sess : Session} (h : r.find phys = some (ref, sess)) :
    ref < r.objects.length ∧ r.byPhys.lookup phys = some ref ∧ r.objects[ref]? = some sess := by
  obtain ⟨ref', hlook, hmap⟩ := bind_eq_some_iff.1 h
  obtain ⟨sess', hget, heq⟩ := map_eq_some_iff.1 hmap
  obtain ⟨rfl, rfl⟩ := Prod.mk.inj heq
  exact ⟨r.lt_length phys ref' hlook, hlook, hget⟩

theorem find_create (sess : Session) :
    (r.create phys sess).find phys = some (r.objects.length, sess) := by
  simp [find, create]

@[simp] theorem find_setPrimary (key : String) (p q : ParticipantId) :
    (r.setPrimary key p).find q = r.find q := rfl

theorem rebind_eq {old : ParticipantId} (new : ParticipantId) (h : r.byPhys.lookup old = some ref) :
    (r.rebind old new).objects = r.objects ∧ (r.rebind old new).primary = r.primary ∧
      (r.rebind old new).byPhys = (r.byPhys.erase old).insert new ref := by
  unfold rebind
  split
  · next hnone => simp [h] at hnone
  · next ref' hsome =>
    obtain rfl : ref = ref' := mem_unique h hsome
    exact ⟨rfl, rfl, rfl⟩

theorem find_rebind {old new : ParticipantId} (h : r.byPhys.lookup old = some ref) :
    (r.rebind old new).find new = (r.objects[ref]?).map fun sess => (ref, sess) := by
  obtain ⟨hobjects, -, hbyPhys⟩ := rebind_eq new h
  rw [find, hbyPhys, hobjects, Finmap.lookup_insert, bind_some]

/-- The session a resume takes over is bound to the current physical id. -/
theorem checkResume_ok (h : r.checkResume key info = .ok (prevPhys, ref, prev)) :
    r.primary.lookup key = some prevPhys ∧ r.find prevPhys = some (ref, prev) := by
  unfold checkResume at h
  split at h
  · simp at h
  · next found hfound =>
    split_ifs at h
    cases h
    obtain ⟨phys, hprim, hmap⟩ := bind_eq_some_iff.1 hfound
    obtain ⟨found, hfind, heq⟩ := map_eq_some_iff.1 hmap
    cases heq
    exact ⟨hprim, hfind⟩

/-- A resume that takes a session over names it, with a generation that is not stale. -/
theorem checkResume_fenced (h : r.checkResume key info = .ok (prevPhys, ref, prev)) :
    prev.sessionID = info.sessionID ∧
      (info.generation ≠ 0 → prev.generation ≤ info.generation) := by
  unfold checkResume at h
  split at h
  · simp at h
  · split_ifs at h with hid hgen
    cases h
    refine ⟨not_not.1 hid, fun hne => ?_⟩
    by_contra hlt
    exact hgen ⟨hne, not_le.1 hlt⟩

/-- A refused resume leaves the registry as it was. -/
theorem openSession_error {err : SessionError} {r' : SessionRegistry}
    (h : r.openSession now uuid logicalID roomID phys node resume = (r', .error err)) :
    r' = r ∧ r.Stale logicalID roomID resume := by
  cases resume with
  | none => simp [openSession] at h
  | some info =>
    unfold openSession at h
    dsimp only at h
    cases hc : r.checkResume (sessionKey logicalID roomID) info with
    | error err' =>
      rw [hc] at h
      exact ⟨(Prod.mk.inj h).1.symm, info, rfl, err', hc⟩
    | ok found =>
      rw [hc] at h
      simp at h

/-- The session that an accepted resume leaves under the new physical id. -/
theorem find_resumed (sess : Session) (h : r.checkResume key info = .ok (prevPhys, ref, prev)) :
    ((r.update ref sess).rebind prevPhys phys).find phys = some (ref, sess) := by
  obtain ⟨-, hfind⟩ := checkResume_ok h
  obtain ⟨hlt, hlook, -⟩ := find_lt hfind
  have hlook' : (r.update ref sess).byPhys.lookup prevPhys = some ref := hlook
  rw [find_rebind hlook']
  simp [update, hlt]

/-- An accepted call changes the registry, and its resume, if any, is not stale. -/
theorem openSession_ok {res : OpenResult} {r' : SessionRegistry}
    (h : r.openSession now uuid logicalID roomID phys node resume = (r', .ok res)) :
    ¬ r.Same r' ∧ ¬ r.Stale logicalID roomID resume := by
  cases resume with
  | none =>
    obtain ⟨rfl, -⟩ := Prod.mk.inj h
    refine ⟨fun hsame => ?_, by simp [Stale]⟩
    have hfind := hsame.find phys
    rw [find_setPrimary, find_create] at hfind
    have hlt := (find_lt hfind.symm).1
    omega
  | some info =>
    unfold openSession at h
    dsimp only at h
    cases hc : r.checkResume (sessionKey logicalID roomID) info with
    | error err =>
      rw [hc] at h
      simp at h
    | ok found =>
      obtain ⟨prevPhys, ref, prev⟩ := found
      rw [hc] at h
      obtain ⟨rfl, -⟩ := Prod.mk.inj h
      refine ⟨fun hsame => ?_, by simp [Stale, hc]⟩
      have hfind := hsame.find phys
      rw [find_setPrimary, find_resumed _ hc] at hfind
      have hold := (find_lt (checkResume_ok hc).2).2.2
      have hnew := (find_lt hfind.symm).2.2
      -- The object has one content before the call, and a resume changes its generation.
      have heq : prev = reconnect prev now phys node := mem_unique hold hnew
      have hgen := congrArg Session.generation heq
      simp only [reconnect] at hgen
      omega

end SessionRegistry

end PulseRTC.Signaling
