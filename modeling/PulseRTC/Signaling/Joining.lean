import PulseRTC.Cluster.Claiming
import PulseRTC.Cluster.Messages
import PulseRTC.Foundations.Directory
import PulseRTC.Signaling.Sessions

/-!
# A refused join

`handleJoin` as one call on the whole server: it authorizes the client, claims the room, opens or
resumes the session, adds the client to the room and to the clients index, and attaches it to the
SFU. Any of these but the middle ones can refuse the join, and each comes after stores that the
ones before it have changed. The owners are kept in memory or in Redis, on a node that is or is not
part of a cluster; the commands of the claim may fail, with or without having been executed.

* `Untouched`: what a refused join should leave as it was.
* `refused_untouched_iff`: when it does. The claim comes before the check of the resume and is not
  taken back when that fails.
-/

namespace PulseRTC.Signaling.Joining

open Foundations Cluster Recovery Claiming

/-! ## Clients and messages -/

/-- `auth.Permissions`. -/
structure Permissions where
  join : Bool := false
  publish : Bool := false
  subscribe : Bool := false
  deriving DecidableEq

/-- `auth.Identity`. -/
structure Identity where
  subject : String
  name : String := ""
  room : RoomId := ""
  permissions : Permissions := {}
  deriving DecidableEq

/-- The codes of `AuthorizeJoin`. -/
inductive AuthCode
  | joinDenied
  | roomAccessDenied
  deriving DecidableEq

/-- `auth.Error`. -/
structure AuthError where
  code : AuthCode
  message : String
  deriving DecidableEq

/-- `Identity.RoomAllowed`: a blank room is a wildcard. -/
def Identity.roomAllowed (i : Identity) (room : RoomId) : Bool := blank i.room || i.room == room

def authorizeJoin (i : Identity) (room : RoomId) : Option AuthError :=
  if !i.permissions.join then
    some ⟨.joinDenied, "join is not permitted for this identity"⟩
  else if !i.roomAllowed room then
    some ⟨.roomAccessDenied, "token does not grant access to this room"⟩
  else none

structure Client where
  id : ParticipantId
  identity : Identity
  deriving DecidableEq

/-- A join message. -/
structure Join where
  roomID : RoomId
  resume : Option ResumeInfo := none
  deriving DecidableEq

/-- The types of a `SessionEvent`. -/
inductive SessionEventType
  | stale
  | replaced
  | reconnected
  deriving DecidableEq

/-- The messages that `handleJoin` sends. -/
inductive Outbound
  | error (message : String)
  | secError (err : AuthError)
  | clusterError (err : Error)
  | sessionEvent (type : SessionEventType) (reason : Option SessionCode) (roomID : RoomId)
      (sessionID : String)
  | roomJoined (roomID : RoomId) (participants : Finset ParticipantId) (sessionID : String)
      (generation : ℕ) (ownerNodeID : NodeId) (reconnected : Bool)
  | participantJoined (participantID : ParticipantId) (name : String)
  deriving DecidableEq

/-- The message is a `room_joined`. -/
@[simp] def Outbound.isRoomJoined : Outbound → Bool
  | .roomJoined .. => true
  | _ => false

/-- The connection of a client: its room (`""` before a join), its session, what others have caused
to be sent to it, and whether its socket is to be closed. -/
structure Conn where
  room : RoomId := ""
  sessionID : String := ""
  generation : ℕ := 0
  attached : Bool := false
  sent : List Outbound := []
  closing : Bool := false
  deriving DecidableEq

/-! ## The server -/

/-- The ownership records, in memory or in Redis. -/
inductive Owners
  | memory (l : InMemoryRoomLocator)
  | redis (w : World)

def Owners.owner : Owners → RoomId → Option NodeId
  | .memory l, room => l.getOwner room
  | .redis w, room => w.owner room

/-- What a join meets. -/
structure Env where
  /-- How the Redis commands of `ClaimRoom` and that of `ReleaseRoom` end. -/
  answer : Cmd → Answer := fun _ => .ok
  release : Answer := .ok
  /-- With the owners in memory: the owner that the peers report, and what the router answers. -/
  peer : Option NodeId := none
  route : Except Error NodeId := .ok ""
  /-- Whether the SFU can create the peer connection. -/
  attach : Bool := true
  now : Time := 0
  uuid : String := ""

/-- The server of the node `node`. `enabled` is whether it is part of a cluster, `recovery` whether
session recovery is on. -/
structure Server where
  node : Caller
  enabled : Bool := false
  recovery : Bool := true
  owners : Owners := .memory {}
  rooms : Directory RoomId ParticipantId := .empty
  sfu : Directory RoomId ParticipantId := .empty
  sessions : SessionRegistry := .empty
  clients : Finset ParticipantId := ∅
  conns : ParticipantId → Conn := fun _ => {}

/-! ## Claims -/

/-- What `ClaimRoom` makes of an owner it has found. -/
def found (m : Caller) (room : RoomId) (owner : NodeId) : Except Error RoomResolution :=
  if owner = m.id then .ok ⟨room, owner, true⟩ else .error (roomRemoteError room owner)

/-- `ClaimRoom` with the owners in memory. -/
def claimInMemory (m : Caller) (enabled : Bool) (env : Env) (room : RoomId)
    (l : InMemoryRoomLocator) : InMemoryRoomLocator × Except Error RoomResolution :=
  if enabled && !m.state.acceptsSessions then
    (l, if l.getOwner room = some m.id then .ok ⟨room, m.id, true⟩
      else .error (roomError .nodeShuttingDown "node is not accepting new rooms" room m.id))
  else
    match (l.getOwner room).or (if enabled then env.peer else none) with
    | some owner => (l, found m room owner)
    | none =>
      match if enabled then env.route else .ok "" with
      | .error err => (l, .error err)
      | .ok target =>
        if target ≠ "" ∧ target ≠ m.id then (l, .error (roomRemoteError room target))
        else ((l.claimOwner room m.id).1, afterClaim m room (l.claimOwner room m.id).2.1)

/-- `ClaimRoom` with the owners in Redis, on a node that is not part of a cluster. -/
def claimAlone (m : Caller) (env : Env) (room : RoomId) (w : World) :
    World × Except Error RoomResolution :=
  match getOwner w (env.answer .owner) room with
  | some owner => (w, found m room owner)
  | none =>
    let out := claimOwner m (.calm env.answer) room w
    (out.1, afterClaim m room out.2)

namespace Server

def claimRoom (s : Server) (env : Env) (room : RoomId) : Owners × Except Error RoomResolution :=
  match s.owners with
  | .memory l =>
    let out := claimInMemory s.node s.enabled env room l
    (.memory out.1, out.2)
  | .redis w =>
    let out := if s.enabled then Claiming.claimRoom s.node (.calm env.answer) room w
      else claimAlone s.node env room w
    (.redis out.1, out.2)

def releaseRoom (s : Server) (env : Env) (room : RoomId) : Server :=
  { s with
    owners := match s.owners with
      | .memory l => .memory (l.releaseOwner room s.node.id).1
      | .redis w =>
        .redis (if env.release.applied then
          { w with rooms := (w.rooms.releaseOwner room s.node.id).1 } else w) }

/-! ## The call -/

/-- The connection of a client changes. -/
def onConn (s : Server) (id : ParticipantId) (f : Conn → Conn) : Server :=
  { s with conns := Function.update s.conns id (f (s.conns id)) }

/-- `replaceSession`: the old connection, if it is in the clients index, is told and then closed. -/
def replaceSession (s : Server) (phys : ParticipantId) (room : RoomId) : Server :=
  if phys ∈ s.clients then
    s.onConn phys fun conn =>
      { conn with
        sent := conn.sent ++ [.sessionEvent .replaced (some .sessionReplaced) room ""]
        closing := true }
  else s

/-- `Broadcast` of `participant_joined` to the members of the room object `r`. -/
def broadcastJoined (s : Server) (c : Client) (r : ℕ) : Server :=
  { s with
    conns := fun id =>
      if id ∈ s.rooms.members r ∧ id ≠ c.id then
        { s.conns id with
          sent := (s.conns id).sent ++ [.participantJoined c.id c.identity.name] }
      else s.conns id }

/-- The end of an accepted join. -/
def welcome (s : Server) (c : Client) (room : RoomId) (r : ℕ) (existing : Finset ParticipantId)
    (res : Option OpenResult) : Server × List Outbound :=
  ((s.onConn c.id fun conn => { conn with attached := true }).broadcastJoined c r,
    match res with
    | none => [.roomJoined room existing "" 0 "" false]
    | some res =>
      .roomJoined room existing res.session.sessionID res.session.generation s.node.id
          res.reconnected ::
        if res.reconnected then
          [.sessionEvent .reconnected none room res.session.sessionID] else [])

/-- `handleJoin` from `rooms.GetOrCreate` on. -/
def enter (s : Server) (c : Client) (room : RoomId) (env : Env) (res : Option OpenResult) :
    Server × List Outbound :=
  let got := s.rooms.getOrCreate room
  let made := s.sfu.getOrCreate room
  let s₁ := { s with
    rooms := got.1.add got.2 c.id
    sfu := made.1
    clients := insert c.id s.clients }.onConn c.id fun conn => { conn with room := room }
  if env.attach then
    { s₁ with sfu := made.1.add made.2 c.id }.welcome c room got.2 (got.1.members got.2) res
  else
    let s₂ := { s₁ with rooms := s₁.rooms.remove got.2 c.id }.onConn c.id fun conn =>
      { conn with room := "" }
    (if s₂.rooms.members got.2 = ∅ then s₂.releaseRoom env room else s₂,
      [.error "could not attach to the media server"])

/-- `handleJoin` from the opening of the session on. -/
def begin (s : Server) (c : Client) (join : Join) (env : Env) : Server × List Outbound :=
  if s.recovery then
    let out := s.sessions.openSession env.now env.uuid c.identity.subject join.roomID c.id s.node.id
      join.resume
    let s₁ := { s with sessions := out.1 }
    match out.2 with
    | .error err => (s₁, [.sessionEvent .stale (some err.code) join.roomID ""])
    | .ok res =>
      let s₂ := s₁.onConn c.id fun conn =>
        { conn with sessionID := res.session.sessionID, generation := res.session.generation }
      (if res.kick ≠ "" then s₂.replaceSession res.kick join.roomID else s₂).enter c join.roomID
        env (some res)
  else s.enter c join.roomID env none

/-- `handleJoin`, with the replies to the client. -/
def handleJoin (s : Server) (c : Client) (join : Join) (env : Env) : Server × List Outbound :=
  if join.roomID = "" then (s, [.error "join requires a non-empty roomId"])
  else if (s.conns c.id).room ≠ "" then
    (s, [.error "already joined a room; open a new connection to join another"])
  else
    match authorizeJoin c.identity join.roomID with
    | some err => (s, [.secError err])
    | none =>
      let out := s.claimRoom env join.roomID
      match out.2 with
      | .error err => ({ s with owners := out.1 }, [.clusterError err])
      | .ok _ => { s with owners := out.1 }.begin c join env

end Server

/-! ## Traces -/

/-- A join of `c` to `room` has left no trace: the rooms and their members, the owner of the room,
the SFU's rooms, the sessions, the clients index and the connections of the others are as before,
and the client is in no room. -/
structure Untouched (s s' : Server) (c : Client) (room : RoomId) : Prop where
  rooms : ∀ k, (s'.rooms.get k).map s'.rooms.members = (s.rooms.get k).map s.rooms.members
  owner : s'.owners.owner room = s.owners.owner room
  sfu : ∀ k, (s'.sfu.get k).isSome = (s.sfu.get k).isSome
  sessions : s.sessions.Same s'.sessions
  clients : s'.clients = s.clients
  conns : ∀ id ≠ c.id, s'.conns id = s.conns id
  room : (s'.conns c.id).room = ""

/-- No reply is a `room_joined`. -/
def Refused (replies : List Outbound) : Prop := ∀ reply ∈ replies, reply.isRoomJoined = false

instance (replies : List Outbound) : Decidable (Refused replies) :=
  inferInstanceAs (Decidable (∀ _, _))

namespace Server

/-- The room has no owner, and `ClaimRoom` takes it: in a cluster, the node accepts sessions, no
peer knows an owner and the router leaves the room to the node; with the owners in Redis, the
`SET NX` is executed. -/
def Claims (s : Server) (env : Env) (room : RoomId) : Prop :=
  match s.owners with
  | .memory l => l.getOwner room = none ∧
      (s.enabled = true → s.node.state.acceptsSessions = true ∧ env.peer = none ∧
        ∃ target, env.route = .ok target ∧ (target = "" ∨ target = s.node.id))
  | .redis w =>
    if s.enabled then Claiming.Claims s.node (.calm env.answer) room w
    else w.owner room = none ∧ (env.answer .setNX).applied = true

/-- What a join has to meet to leave no trace when it is refused: `ClaimRoom` does not take the room
for a join that it refuses itself or that the session registry refuses after it, and the SFU does
not fail a join that gets to it. -/
structure Harmless (s : Server) (c : Client) (join : Join) (env : Env) : Prop where
  unclaimed : (s.claimRoom env join.roomID).2.isOk = false ∨
    s.sessions.Stale c.identity.subject join.roomID join.resume → ¬ s.Claims env join.roomID
  attached : (s.claimRoom env join.roomID).2.isOk = true →
    ¬ s.sessions.Stale c.identity.subject join.roomID join.resume → env.attach = true

section Claim

variable {s : Server} {env : Env} {room : RoomId} {m : Caller} {enabled : Bool}
  {l : InMemoryRoomLocator} {w : World}

theorem claimInMemory_owner :
    (claimInMemory m enabled env room l).1.getOwner room = l.getOwner room ↔
      ¬ (l.getOwner room = none ∧
        (enabled = true → m.state.acceptsSessions = true ∧ env.peer = none ∧
          ∃ target, env.route = .ok target ∧ (target = "" ∨ target = m.id))) := by
  cases ho : l.getOwner room with
  | some owner =>
    refine iff_of_true ?_ (by simp)
    unfold claimInMemory
    split_ifs <;> simp [ho]
  | none =>
    have hclaim : (l.claimOwner room m.id).1.getOwner room = some m.id := by
      unfold InMemoryRoomLocator.getOwner at ho
      simp [InMemoryRoomLocator.claimOwner, InMemoryRoomLocator.getOwner, ho]
    cases enabled with
    | false => simp [claimInMemory, ho, hclaim]
    | true =>
      by_cases hacc : m.state.acceptsSessions = true
      swap
      · simp [claimInMemory, hacc, ho]
      cases hpeer : env.peer with
      | some owner => simp [claimInMemory, hacc, ho, hpeer]
      | none =>
        cases hroute : env.route with
        | error err => simp [claimInMemory, hacc, ho, hpeer, hroute]
        | ok target =>
          by_cases hother : target ≠ "" ∧ target ≠ m.id
          · simp [claimInMemory, hacc, ho, hpeer, hroute, hother]
          · have hself : target = "" ∨ target = m.id := by tauto
            simp [claimInMemory, hacc, ho, hpeer, hroute, hother, hclaim, hself]

theorem claimAlone_owner :
    (claimAlone m env room w).1.owner room = w.owner room ↔
      ¬ (w.owner room = none ∧ (env.answer .setNX).applied = true) := by
  unfold claimAlone
  split
  next owner hget =>
    refine iff_of_true rfl fun h => ?_
    simp [getOwner, h.1] at hget
  next => exact claimOwner_calm

/-- `ClaimRoom` changes the record of the room exactly if it takes the room. -/
theorem claimRoom_owner :
    (s.claimRoom env room).1.owner room = s.owners.owner room ↔ ¬ s.Claims env room := by
  unfold claimRoom Claims
  cases s.owners with
  | memory l => exact claimInMemory_owner
  | redis w =>
    cases s.enabled with
    | false => exact claimAlone_owner
    | true => exact claimRoom_calm

theorem Claims.free (h : s.Claims env room) : s.owners.owner room = none := by
  unfold Claims at h
  cases ho : s.owners with
  | memory l =>
    rw [ho] at h
    exact h.1
  | redis w =>
    rw [ho] at h
    cases he : s.enabled with
    | false =>
      rw [he] at h
      exact h.1
    | true =>
      rw [he] at h
      exact Claiming.Claims.free h

end Claim

section Call

variable {s : Server} {c : Client} {join : Join} {env : Env} {room : RoomId}

/-- Only the owners have changed. -/
theorem untouched_owners_iff (owners : Owners) (hout : (s.conns c.id).room = "") :
    Untouched s { s with owners := owners } c room ↔
      owners.owner room = s.owners.owner room := by
  refine ⟨fun h => h.owner, fun h => ?_⟩
  exact ⟨fun _ => rfl, h, fun _ => rfl, .refl _, rfl, fun _ _ => rfl, hout⟩

theorem untouched_refl (hout : (s.conns c.id).room = "") : Untouched s s c room :=
  (untouched_owners_iff s.owners hout).2 rfl

/-- From `rooms.GetOrCreate` on the sessions stay as they are. -/
theorem enter_sessions (res : Option OpenResult) :
    (s.enter c room env res).1.sessions = s.sessions := by
  unfold enter
  dsimp only
  split_ifs <;> rfl

/-- From `rooms.GetOrCreate` on only the SFU refuses. -/
theorem refused_enter (res : Option OpenResult) :
    Refused (s.enter c room env res).2 ↔ env.attach = false := by
  cases hattach : env.attach with
  | false => simp [enter, hattach, Refused]
  | true => cases res <;> simp [enter, hattach, welcome, Refused]

theorem replaceSession_sessions (phys : ParticipantId) :
    (s.replaceSession phys room).sessions = s.sessions := by
  unfold replaceSession
  split_ifs <;> rfl

/-- A stale resume is refused, and nothing else happens. -/
theorem begin_of_stale (hrec : s.recovery = true) {err : SessionError} {reg : SessionRegistry}
    (h : s.sessions.openSession env.now env.uuid c.identity.subject join.roomID c.id s.node.id
      join.resume = (reg, .error err)) :
    s.begin c join env = (s, [.sessionEvent .stale (some err.code) join.roomID ""]) := by
  obtain ⟨rfl, -⟩ := SessionRegistry.openSession_error h
  unfold begin
  rw [if_pos hrec]
  simp only [h]

/-- A session that was opened stays, whatever becomes of the join. -/
theorem begin_of_opened (hrec : s.recovery = true) {res : OpenResult} {reg : SessionRegistry}
    (h : s.sessions.openSession env.now env.uuid c.identity.subject join.roomID c.id s.node.id
      join.resume = (reg, .ok res)) :
    (s.begin c join env).1.sessions = reg ∧
      (Refused (s.begin c join env).2 ↔ env.attach = false) := by
  unfold begin
  simp only [hrec, if_true, h]
  refine ⟨?_, refused_enter _⟩
  rw [enter_sessions]
  split_ifs
  · rw [replaceSession_sessions]
    rfl
  · rfl

/-- The call after the claim: it leaves no trace exactly if the claim has left none and the resume
is stale, or if the SFU accepts the client. -/
theorem begin_untouched_iff (owners : Owners) (hrec : s.recovery = true)
    (hout : (s.conns c.id).room = "") :
    (Refused ({ s with owners := owners }.begin c join env).2 →
        Untouched s ({ s with owners := owners }.begin c join env).1 c room) ↔
      (s.sessions.Stale c.identity.subject join.roomID join.resume →
        owners.owner room = s.owners.owner room) ∧
      (¬ s.sessions.Stale c.identity.subject join.roomID join.resume → env.attach = true) := by
  rcases hopen : s.sessions.openSession env.now env.uuid c.identity.subject join.roomID c.id
    s.node.id join.resume with ⟨reg, err | opened⟩
  · have hstale := (SessionRegistry.openSession_error hopen).2
    have href : Refused [.sessionEvent .stale (some err.code) join.roomID ""] := by
      simp [Refused]
    rw [begin_of_stale (s := { s with owners := owners }) hrec hopen]
    simp only [href, hstale, true_imp_iff, not_true_eq_false, false_imp_iff, and_true,
      untouched_owners_iff _ hout]
  · -- The session stays open, so the join leaves a trace unless the SFU accepts it.
    obtain ⟨hchanged, hlive⟩ := SessionRegistry.openSession_ok hopen
    obtain ⟨hreg, href⟩ := begin_of_opened (s := { s with owners := owners }) hrec hopen
    simp only [href, hlive, false_imp_iff, true_and, not_false_eq_true, true_imp_iff]
    constructor
    · intro h
      by_contra hattach
      have hsame := (h (Bool.eq_false_iff.2 hattach)).sessions
      rw [hreg] at hsame
      exact hchanged hsame
    · intro hattach hnot
      cases hattach.symm.trans hnot

/-- The call once the client is authorized. -/
theorem handleJoin_authorized (hroom : join.roomID ≠ "") (hout : (s.conns c.id).room = "")
    (hauth : authorizeJoin c.identity join.roomID = none) :
    s.handleJoin c join env =
      match (s.claimRoom env join.roomID).2 with
      | .error err =>
        ({ s with owners := (s.claimRoom env join.roomID).1 }, [.clusterError err])
      | .ok _ => { s with owners := (s.claimRoom env join.roomID).1 }.begin c join env := by
  simp [handleJoin, hroom, hout, hauth]

end Call

end Server

/-- **A refused join leaves no trace**, for a client that has not joined, exactly if it is refused
before the claim or is harmless. -/
theorem refused_untouched_iff (s : Server) (c : Client) (join : Join) (env : Env)
    (hrec : s.recovery = true) (hout : (s.conns c.id).room = "") :
    (Refused (s.handleJoin c join env).2 → Untouched s (s.handleJoin c join env).1 c join.roomID) ↔
      join.roomID = "" ∨ (authorizeJoin c.identity join.roomID).isSome = true ∨
        s.Harmless c join env := by
  by_cases hroom : join.roomID = ""
  · have hstate : (s.handleJoin c join env).1 = s := by simp [Server.handleJoin, hroom]
    rw [hstate]
    exact iff_of_true (fun _ => Server.untouched_refl hout) (.inl hroom)
  cases hauth : authorizeJoin c.identity join.roomID with
  | some err =>
    have hstate : (s.handleJoin c join env).1 = s := by
      simp [Server.handleJoin, hroom, hout, hauth]
    rw [hstate]
    exact iff_of_true (fun _ => Server.untouched_refl hout) (.inr (.inl rfl))
  | none =>
    simp only [hroom, Option.isSome_none, Bool.false_eq_true, false_or]
    rw [Server.handleJoin_authorized hroom hout hauth]
    cases hclaim : (s.claimRoom env join.roomID).2 with
    | error err =>
      have href : Refused [.clusterError err] := by simp [Refused]
      have hfail : (s.claimRoom env join.roomID).2.isOk = false := by rw [hclaim]; rfl
      simp only [href, true_imp_iff, Server.untouched_owners_iff _ hout, Server.claimRoom_owner]
      exact ⟨fun h => ⟨fun _ => h, fun hok => by simp [hfail] at hok⟩,
        fun h => h.unclaimed (.inl hfail)⟩
    | ok res =>
      have hok : (s.claimRoom env join.roomID).2.isOk = true := by rw [hclaim]; rfl
      rw [Server.begin_untouched_iff _ hrec hout, Server.claimRoom_owner]
      exact ⟨fun h => ⟨fun hor => h.1 (hor.resolve_left (by simp [hok])), fun _ => h.2⟩,
        fun h => ⟨fun hstale => h.unclaimed (.inr hstale), h.attached hok⟩⟩

/-- The server of the node `n`, outside a cluster and with nothing in it. -/
def idle : Server := { node := { id := "n", router := routing } }

/-- A client that may join any room. -/
def guest (id : ParticipantId) : Client :=
  ⟨id, { subject := "user", permissions := { join := true } }⟩

/-- The server after `p` has joined the room `r`. -/
def hosting : Server := (idle.handleJoin (guest "p") { roomID := "r" } {}).1

def lateResume : Join := { roomID := "r", resume := some { sessionID := "sess-old" } }

/-- In a room that the node already owns, a stale resume leaves no trace. -/
theorem refused_untouched_iff_hosting :
    Untouched hosting (hosting.handleJoin (guest "q") lateResume {}).1 (guest "q") "r" := by
  have hstale : hosting.sessions.Stale "user" "r" lateResume.resume :=
    ⟨_, rfl, ⟨.staleSession, "no such session to resume"⟩, by decide +kernel⟩
  have howner : hosting.owners.owner "r" = some "n" := by decide +kernel
  have href : Refused (hosting.handleJoin (guest "q") lateResume {}).2 := by decide +kernel
  refine (refused_untouched_iff hosting (guest "q") lateResume {} rfl rfl).2
    (.inr (.inr ⟨fun _ hclaims => ?_, fun _ hlive => absurd hstale hlive⟩)) href
  have hfree := hclaims.free
  cases howner.symm.trans hfree

/-- **A stale resume leaves the room claimed**: the node has no room and no owner is recorded; the
join is refused, and the node owns the room. -/
theorem stale_resume_claims :
    (idle.handleJoin (guest "p") lateResume {}).2 =
        [.sessionEvent .stale (some .staleSession) "r" ""] ∧
      idle.owners.owner "r" = none ∧
      (idle.handleJoin (guest "p") lateResume {}).1.owners.owner "r" = some "n" := by
  decide +kernel

end PulseRTC.Signaling.Joining
