import PulseRTC.Sdk.Connection

/-!
# What a step does to the session

Whether a room wants to be connected, which calls are pending and what its listeners hear is one
half of it. This module is about the other half: the frames on its sockets, its peer connections,
its store and its local participants. Together with the connection state these are its `Session`.

The first half shows in the second one only at a few places. A failed `connect()` makes the room
disconnected, and a lost socket may close the media (`Loses`). So what a message does to the session
is one of the cases of `Handles`, and what anything else does to it is one of the cases of `Reacts`:
`step_session`.
-/

namespace PulseRTC.Sdk

open Foundations Function Option

/-! ## The wire -/

/-- The frames that were sent on each socket, and where the next ones go. -/
structure Wire where
  sent : ℕ → List Frame
  isOpen : ℕ → Bool
  created : ℕ
  ws : Option ℕ
  queue : List Frame

namespace Wire

/-- Send a frame on the current socket, or queue it. -/
def send (w : Wire) (frame : Frame) : Wire :=
  match w.ws with
  | some n =>
    if w.isOpen n then { w with sent := Function.update w.sent n (w.sent n ++ [frame]) }
    else { w with queue := w.queue ++ [frame] }
  | none => { w with queue := w.queue ++ [frame] }

variable {w : Wire} {frame : Frame}

theorem send_of_open {n : ℕ} (hws : w.ws = some n) (hopen : w.isOpen n = true) :
    w.send frame = { w with sent := update w.sent n (w.sent n ++ [frame]) } := by
  simp only [send, hws, hopen, if_true]

theorem send_of_not_open {n : ℕ} (hws : w.ws = some n) (hopen : w.isOpen n = false) :
    w.send frame = { w with queue := w.queue ++ [frame] } := by
  simp only [send, hws, hopen, Bool.false_eq_true, if_false]

theorem send_of_none (hws : w.ws = none) :
    w.send frame = { w with queue := w.queue ++ [frame] } := by
  simp only [send, hws]

def sendAll (w : Wire) (frames : List Frame) : Wire := frames.foldl send w

/-- A new socket. -/
def connect (w : Wire) : Wire where
  sent := Function.update w.sent w.created []
  isOpen := Function.update w.isOpen w.created false
  created := w.created + 1
  ws := some w.created
  queue := w.queue

/-- A socket opens, and gets what is queued. -/
def onopen (w : Wire) (n : ℕ) : Wire :=
  { w with
    sent := Function.update w.sent n (w.sent n ++ w.queue)
    isOpen := Function.update w.isOpen n true
    queue := [] }

/-- A socket is not open any more. -/
def shut (w : Wire) (n : ℕ) : Wire := { w with isOpen := Function.update w.isOpen n false }

/-- The current socket is closed, and what is queued is dropped. -/
def close (w : Wire) : Wire :=
  match w.ws with
  | none => { w with queue := [] }
  | some n => { w.shut n with queue := [] }

end Wire

namespace Signaling

/-- The wire of a `Signaling`. -/
def wire (s : Signaling) : Wire where
  sent n := (s.sockets n).sent
  isOpen n := (s.sockets n).readyState = .open
  created := s.created
  ws := s.ws
  queue := s.queue

variable (s : Signaling)

/-- Changes of one socket. -/
theorem wire_onSocket (n : ℕ) (f : Socket → Socket) :
    (s.onSocket n f).wire =
      { s.wire with
        sent := update s.wire.sent n (f (s.sockets n)).sent
        isOpen := update s.wire.isOpen n ((f (s.sockets n)).readyState = .open) } := by
  unfold wire onSocket
  congr 1
  all_goals
    funext k
    by_cases hk : k = n
    · subst hk
      simp
    · simp [hk]

theorem wire_onSocket_same {n : ℕ} {f : Socket → Socket} (hsent : ∀ x, (f x).sent = x.sent)
    (hready : ∀ x, (f x).readyState = x.readyState) : (s.onSocket n f).wire = s.wire := by
  rw [wire_onSocket, hsent, hready]
  have h₁ : update s.wire.sent n (s.sockets n).sent = s.wire.sent :=
    update_eq_self n _
  have h₂ : update s.wire.isOpen n ((s.sockets n).readyState = .open) = s.wire.isOpen :=
    update_eq_self n _
  rw [h₁, h₂]

theorem wire_transmit (n : ℕ) (frame : Frame) :
    (s.transmit n frame).wire =
      { s.wire with sent := update s.wire.sent n (s.wire.sent n ++ [frame]) } := by
  unfold transmit
  rw [wire_onSocket]
  have h : update s.wire.isOpen n ((s.sockets n).readyState = .open) = s.wire.isOpen :=
    update_eq_self n _
  dsimp only
  rw [h]
  rfl

theorem wire_send (frame : Frame) : (s.send frame).wire = s.wire.send frame := by
  cases hws : s.ws with
  | none =>
    rw [Wire.send_of_none hws]
    simp only [send, hws, wire]
  | some n =>
    by_cases hopen : (s.sockets n).readyState = .open
    · rw [Wire.send_of_open hws (by simpa [wire] using hopen)]
      simp only [send, hws, hopen, if_true]
      exact s.wire_transmit n frame
    · rw [Wire.send_of_not_open hws (by simpa [wire] using hopen)]
      simp only [send, hws, hopen, if_false, wire]

theorem wire_connect : s.connect.wire = s.wire.connect := by
  unfold connect Wire.connect wire
  congr 1
  all_goals
    funext k
    by_cases hk : k = s.created
    · subst hk
      simp
    · simp [hk]

/-- The queue goes out in one piece. -/
theorem wire_flush (n : ℕ) (frames : List Frame) :
    (frames.foldl (fun s frame => s.transmit n frame) s).wire =
      { s.wire with sent := update s.wire.sent n (s.wire.sent n ++ frames) } := by
  induction frames generalizing s with
  | nil => simp
  | cons frame frames ih =>
    rw [List.foldl_cons, ih, wire_transmit]
    simp

theorem wire_onopen (n : ℕ) : (s.onopen n).wire = s.wire.onopen n := by
  unfold onopen
  dsimp only
  rw [wire_flush]
  have hwire : ({ s.onSocket n (fun x => { x with readyState := .open }) with queue := [] } :
      Signaling).wire =
      { s.wire with isOpen := update s.wire.isOpen n true, queue := [] } := by
    show { (s.onSocket n (fun x => { x with readyState := .open })).wire with queue := [] } = _
    rw [wire_onSocket]
    have hsent : update s.wire.sent n (s.sockets n).sent = s.wire.sent :=
      update_eq_self n _
    simp [hsent]
  rw [hwire]
  rfl

/-- A socket stops being open. -/
theorem wire_shut {n : ℕ} {f : Socket → Socket} (hsent : ∀ x, (f x).sent = x.sent)
    (hready : ∀ x, (f x).readyState ≠ .open) : (s.onSocket n f).wire = s.wire.shut n := by
  rw [wire_onSocket, hsent]
  have hupdate : update s.wire.sent n (s.sockets n).sent = s.wire.sent :=
    update_eq_self n _
  simp [hupdate, hready, Wire.shut]

theorem wire_close : s.close.wire = s.wire.close := by
  cases hws : s.ws with
  | none =>
    simp only [close, Wire.close, hws, show s.wire.ws = none from hws]
    rfl
  | some n =>
    simp only [close, Wire.close, hws, show s.wire.ws = some n from hws]
    rw [wire_shut]
    · simp only [Wire.shut, wire, hws]
    · intro x
      unfold closeSocket
      split <;> rfl
    · intro x hx
      unfold closeSocket at hx
      split at hx <;> simp_all

end Signaling

/-! ## Sessions -/

/-- The session of a room. -/
structure Session where
  state : ConnectionState
  wire : Wire
  neg : Negotiator
  store : ParticipantStore
  locals : ℕ → LocalParticipant
  self : ℕ
  pending : List (ℕ × ServerMessage)
  captured : List Track

namespace Session

/-- What `disconnect` and `teardown` leave. -/
def down (s : Session) : Session where
  state := .disconnected
  wire := s.wire.close
  neg := s.neg.close
  store := {}
  locals := Function.update s.locals (s.self + 1) {}
  self := s.self + 1
  pending := []
  captured := s.captured

/-- The current local participant. -/
def me (s : Session) : LocalParticipant := s.locals s.self

/-- Change the local participant `i`, and what it has done to the peer connections. -/
def setLocal (s : Session) (i : ℕ) (x : LocalParticipant × Negotiator) : Session :=
  { s with locals := Function.update s.locals i x.1, neg := x.2 }

/-- What the report of a close does: nothing but maybe to end the connecting, or it closes the
media. -/
inductive Loses (s : Session) : Session → Prop
  | fades {st : ConnectionState} (hst : st = s.state ∨ st = .disconnected) :
    Loses s { s with state := st }
  | closes :
    Loses s { s with state := .reconnecting, neg := s.neg.close, store := s.store.clearTracks }

end Session

namespace Room

def session (r : Room) : Session where
  state := r.state
  wire := r.sig.wire
  neg := r.neg
  store := r.store
  locals := r.locals
  self := r.self
  pending := r.pending
  captured := r.captured

section Functions

variable (r : Room)

theorem session_setState (s : ConnectionState) :
    (r.setState s).session = { r.session with state := s } := by
  unfold setState
  split_ifs with h
  · rw [← h]
    rfl
  · rfl

theorem session_settleConnect (err : Option SdkError) :
    (r.settleConnect err).session = r.session := by
  unfold settleConnect
  split <;> rfl

theorem session_failConnect (err : SdkError) :
    (r.failConnect err).session = { r.session with state := .disconnected } := by
  unfold failConnect
  rw [session_setState, ← r.session_settleConnect (some err)]
  rfl

/-- An error fails the pending `connect()`, or is only reported. -/
theorem session_onFatal (err : SdkError) :
    ∃ st, (st = r.state ∨ st = .disconnected) ∧
      (r.onFatal err).session = { r.session with state := st } := by
  unfold onFatal
  split_ifs
  · exact ⟨_, .inr rfl, r.session_failConnect err⟩
  · exact ⟨_, .inl rfl, rfl⟩

theorem session_closeMedia :
    r.closeMedia.session =
      { r.session with neg := r.session.neg.close, store := r.session.store.clearTracks } := rfl

theorem session_onClose (code : ℕ) : r.session.Loses (r.onClose code).session := by
  unfold onClose
  split_ifs
  · exact .fades (.inl rfl)
  · rw [session_failConnect]
    exact .fades (.inr rfl)
  · have hclose : (r.setState .reconnecting).closeMedia.arm.session =
        { r.session with
          state := .reconnecting, neg := r.neg.close, store := r.store.clearTracks } := by
      show (r.setState .reconnecting).closeMedia.session = _
      rw [session_closeMedia, session_setState]
      rfl
    rw [hclose]
    exact .closes

theorem session_report (code : ℕ) : r.session.Loses (r.report code).session := by
  unfold report
  split_ifs
  · exact .fades (.inl rfl)
  · have h := session_onClose { r with sig := { r.sig with closeReported := true } } code
    exact h

theorem session_closeSignaling :
    ({ r.session with wire := r.sig.wire.close } : Session).Loses r.closeSignaling.session := by
  have h := session_report { r with sig := r.sig.close } 1000
  have hwire : ({ r with sig := r.sig.close } : Room).session =
      { r.session with wire := r.sig.wire.close } := by
    rw [← r.sig.wire_close]
    rfl
  exact hwire ▸ h

/-- A room that does not want to be connected takes no notice of the close. -/
theorem closeSignaling_of_not_want (h : r.wantConnected = false) :
    r.closeSignaling.session = { r.session with wire := r.sig.wire.close } := by
  rw [← r.sig.wire_close]
  unfold closeSignaling report onClose
  split_ifs with hreported hwant
  · rfl
  · rfl
  all_goals exact absurd h (by simpa using hwant)

theorem session_resetSession :
    r.resetSession.session =
      { r.session with
        self := r.session.self + 1
        locals := update r.session.locals (r.session.self + 1) {}
        store := {}
        pending := [] } := rfl

theorem session_shutDown (err : SdkError) (reason : DisconnectReason) :
    (r.shutDown err reason).session = r.session.down := by
  have hclose := closeSignaling_of_not_want
    { r with wantConnected := false, reconnector := r.reconnector.reset, qoe := false } rfl
  unfold shutDown
  dsimp only
  show (setState _ _).session = _
  rw [session_setState, session_resetSession, session_settleConnect, session_closeMedia, hclose]
  rfl

theorem session_send (frame : Frame) :
    (r.send frame).session = { r.session with wire := r.session.wire.send frame } := by
  show { r.session with wire := (r.sig.send frame).wire } = _
  rw [r.sig.wire_send]
  rfl

theorem session_sendAll (frames : List Frame) :
    (r.sendAll frames).session = { r.session with wire := r.session.wire.sendAll frames } := by
  unfold sendAll Wire.sendAll
  induction frames generalizing r with
  | nil => rfl
  | cons frame frames ih => rw [List.foldl_cons, ih, session_send, List.foldl_cons]

theorem session_tick : r.tick.session = r.session := by
  unfold tick
  split <;> rfl

theorem session_startQoE : r.startQoE.session = r.session := by
  unfold startQoE
  split_ifs
  · exact session_tick _
  · rfl

theorem session_dial :
    ({ r with sig := r.sig.connect } : Room).session =
      { r.session with wire := r.session.wire.connect } := by
  show { r.session with wire := r.sig.connect.wire } = _
  rw [r.sig.wire_connect]
  rfl

theorem session_onopen (n : ℕ) :
    ({ r with sig := r.sig.onopen n } : Room).session =
      { r.session with wire := r.session.wire.onopen n } := by
  show { r.session with wire := (r.sig.onopen n).wire } = _
  rw [r.sig.wire_onopen]
  rfl

theorem session_closed (n : ℕ) :
    ({ r with
      sig := r.sig.onSocket n fun x =>
        { x with readyState := .closed, awaiting := false } } : Room).session =
      { r.session with wire := r.session.wire.shut n } := by
  have hwire : (r.sig.onSocket n fun x =>
      { x with readyState := .closed, awaiting := false }).wire = r.session.wire.shut n :=
    r.sig.wire_shut (fun _ => rfl) fun _ => by simp
  rw [← hwire]
  rfl

/-- A reply that is noted is not on the wire. -/
theorem session_take (n : ℕ) (m : ServerMessage) (rest : List (ℕ × ServerMessage)) :
    (r.take n m rest).session = { r.session with pending := rest } := by
  have hwire : (r.take n m rest).sig.wire = r.sig.wire := by
    unfold take
    dsimp only
    split_ifs
    · exact r.sig.wire_onSocket_same (fun _ => rfl) fun _ => rfl
    · rfl
  unfold session
  rw [hwire]
  rfl

end Functions

end Room

/-! ## What the steps do -/

/-- The message is a `welcome`. -/
def ServerMessage.isWelcome : ServerMessage → Bool
  | .welcome .. => true
  | _ => false

/-- The step may send a frame of a peer connection. -/
def Act.speaks : Act → Bool
  | .iceCandidate .. | .offered .. | .settle (some _) _ => true
  | _ => false

namespace Room

/-- What a message that came on the socket `n` does to the session of a room. -/
inductive Handles (r : Room) (n : ℕ) (fails : Bool) : ServerMessage → Session → Prop
  | idle {m : ServerMessage} {st : ConnectionState} (hm : m.isWelcome = false)
    (hst : st = r.state ∨ st = .disconnected) : Handles r n fails m { r.session with state := st }
  | welcome {id : String} {name : Option String} {st : ConnectionState}
    (hst : st = r.state ∨ st = .disconnected) :
    Handles r n fails (.welcome id name)
      { ((({ r with store := r.store.applyWelcome id } : Room).greet id name).createPc n
          fails).session with state := st }
  | joined {m : RoomJoined} (hm : m.reconnected = false) :
    Handles r n fails (.roomJoined m)
      { r.session with store := r.store.applyRoomJoined m, state := .connected }
  | rejoined {m : RoomJoined} (hm : m.reconnected = true) :
    Handles r n fails (.roomJoined m)
      { r.session.setLocal r.self ((r.me.addTracks r.neg).1, (r.me.addTracks r.neg).2.1) with
        store := r.store.applyRoomJoined m, state := .connected }
  | store {m : ServerMessage} {store : ParticipantStore} (hm : m.isWelcome = false)
    (h : store.localIdentity = r.store.localIdentity) :
    Handles r n fails m { r.session with store := store }
  | own {m : PublicationEvent} (h : m.participantId = r.me.identity) :
    Handles r n fails (.publication m) (r.onOwnPublication n m).session
  | denied :
    Handles r n fails .publishDenied (r.session.setLocal r.self (r.me.onPublishDenied r.neg))
  | stale {roomId : String} :
    Handles r n fails (.session .stale)
      { r.session with wire := r.session.wire.send ⟨.join roomId none, r.sig.ws.toList⟩ }
  | down {m : ServerMessage} (hm : m.isWelcome = false) : Handles r n fails m r.session.down
  | redirected {code message nodeId : Option String} {s : Session}
    (h : ({ r.session with wire := r.session.wire.close } : Session).Loses s) :
    Handles r n fails (.error code message nodeId) { s with state := .reconnecting }

variable {r r' : Room}

theorem session_republish :
    r.republish.session = r.session.setLocal r.session.self
      ((r.session.me.addTracks r.session.neg).1, (r.session.me.addTracks r.session.neg).2.1) := by
  have hme : r.session.me = r.me := rfl
  have hneg : r.session.neg = r.neg := rfl
  unfold republish
  rw [hme, hneg]
  split
  · next hstream =>
    have hnone : r.me.addTracks r.neg = (r.me, r.neg, false) := by
      simp [LocalParticipant.addTracks, LocalParticipant.addTrack, hstream]
    have hself : update r.session.locals r.session.self r.me = r.session.locals :=
      update_eq_self _ _
    rw [hnone, Session.setLocal, hself]
    rfl
  · rfl

variable {n : ℕ} {fails : Bool}

/-- What `room_joined` does. -/
theorem handles_roomJoined (m : RoomJoined) :
    Handles r n fails (.roomJoined m) (r.onRoomJoined m).session := by
  have hsettle : (((r.enter m).setState .connected).settleConnect none).session =
      { r.session with store := r.store.applyRoomJoined m, state := .connected } := by
    rw [session_settleConnect, session_setState]
    rfl
  unfold onRoomJoined
  dsimp only
  rw [session_startQoE]
  split_ifs with hm
  · rw [session_republish, hsettle]
    exact .rejoined hm
  · rw [hsettle]
    exact .joined (by simpa using hm)

/-- What `welcome` does. -/
theorem handles_welcome (id : String) (name : Option String) :
    Handles r n fails (.welcome id name) (r.onWelcome n id name fails).session := by
  have hstate : ((({ r with store := r.store.applyWelcome id } : Room).greet id name).createPc n
      fails).state = r.state := by
    unfold greet createPc
    split_ifs <;> rfl
  unfold onWelcome
  dsimp only
  split_ifs
  · obtain ⟨st, hst, hfatal⟩ := session_onFatal
      ((({ r with store := r.store.applyWelcome id } : Room).greet id name).createPc n fails)
      (.other "peer connection")
    rw [hfatal]
    exact .welcome (hstate ▸ hst)
  · exact .welcome (.inl hstate)

theorem handles_error (code message nodeId : Option String) :
    Handles r n fails (.error code message nodeId)
      (r.handleError code message nodeId).session := by
  unfold handleError
  dsimp only
  split_ifs
  · rw [session_failConnect]
    exact .idle rfl (.inr rfl)
  · exact session_shutDown r _ _ ▸ .down rfl
  · exact session_shutDown { r with nodeRedirects := r.nodeRedirects + 1 } _ _ ▸ .down rfl
  · have hclose := session_closeSignaling { r with nodeRedirects := r.nodeRedirects + 1 }
    show Handles r n fails _ (setState _ _).session
    rw [session_setState]
    exact .redirected hclose
  · exact .idle rfl (.inl rfl)

/-- **What a message does to the session.** -/
theorem handles_onMessage (m : ServerMessage) :
    Handles r n fails m (r.onMessage n m fails).session := by
  cases m with
  | welcome id name => exact handles_welcome id name
  | roomJoined m => exact handles_roomJoined m
  | participantJoined id name => exact .store rfl (ParticipantStore.localIdentity_ensure name)
  | participantLeft id =>
    unfold onMessage
    dsimp only
    split_ifs
    · exact .store rfl rfl
    · exact .idle rfl (.inl rfl)
  | publication m =>
    show Handles r n fails _ (r.onPublication n m).session
    unfold onPublication
    split_ifs with hown
    · exact .own hown
    · exact .store rfl (ParticipantStore.localIdentity_applyPublicationEvent m)
  | subscription m => exact .store rfl (ParticipantStore.localIdentity_applySubscriptionEvent m)
  | publishDenied => exact .denied
  | roomClosed => exact session_shutDown r _ _ ▸ .down rfl
  | session type =>
    cases type with
    | stale =>
      have hsend := session_send { r with resume := none } ⟨.join r.roomId none, r.sig.ws.toList⟩
      exact hsend ▸ .stale
    | replaced => exact session_shutDown r _ _ ▸ .down rfl
    | recovery | reconnected | recoveryFailed => exact .idle rfl (.inl rfl)
  | error code message nodeId => exact handles_error code message nodeId
  | _ => exact .idle rfl (.inl rfl)

/-- What everything but a message does to the session of a room. -/
inductive Reacts (r : Room) : Act → Session → Prop
  | idle {a : Act} {st : ConnectionState} (hst : st = r.state ∨ st = .disconnected) :
    Reacts r a { r.session with state := st }
  | connect {roomId : String} :
    Reacts r (.connect roomId)
      { r.session with state := .connecting, wire := r.session.wire.connect }
  | down {a : Act} : Reacts r a r.session.down
  | opened {n : ℕ} {roomId : String} {resume : Option Resume} :
    Reacts r (.open n) { r.session with
      wire := (r.session.wire.onopen n).send ⟨.join roomId resume, r.sig.ws.toList⟩ }
  | message {n : ℕ} {m : ServerMessage} (hws : r.sig.ws = some n) :
    Reacts r (.message n m) { r.session with pending := r.pending ++ [(n, m)] }
  | closed {n code : ℕ} {s : Session}
    (h : ({ r.session with wire := r.session.wire.shut n } : Session).Loses s) :
    Reacts r (.close n code) s
  | timer : Reacts r .timer { r.session with wire := r.session.wire.connect }
  | spoken {a : Act} {pc : ℕ} {frame : Frame} {st : ConnectionState} (ha : a.speaks = true)
    (hlive : r.IsLive pc) (hjoin : frame.msg.isJoin = false)
    (hsessions : frame.sessions = r.sessionOf pc) (hst : st = r.state ∨ st = .disconnected) :
    Reacts r a { r.session with wire := r.session.wire.send frame, state := st }
  | enabled {i : ℕ} :
    Reacts r (.enable i) (r.session.setLocal i ({ r.locals i with denied := false }, r.neg))
  | userMedia {k i : ℕ} {stream : Stream} (hi : r.captures[k]? = some i)
    (hnodup : stream.tracks.Nodup) (hfresh : ∀ t ∈ stream.tracks, t ∉ r.captured) :
    Reacts r (.userMedia k (some stream))
      { r.session.setLocal i ((r.locals i).onUserMedia r.neg stream) with
        captured := r.captured ++ stream.tracks }
  | setKind {i : ℕ} {kind : Kind} {enabled : Bool} :
    Reacts r (.setKind i kind enabled)
      { r.session.setLocal i (((r.locals i).setKind kind enabled).1, r.neg) with
        wire := r.session.wire.sendAll ((r.locals i).setKind kind enabled).2 }
  | displayMedia {k i : ℕ} {video : Track} {audio : Option Track} (hi : r.displays[k]? = some i)
    (hnodup : (video :: audio.toList).Nodup)
    (hfresh : ∀ t ∈ video :: audio.toList, t ∉ r.captured) :
    Reacts r (.displayMedia k (some (video, audio)))
      { r.session.setLocal i ((r.locals i).onDisplayMedia r.neg video audio) with
        wire := r.session.wire.sendAll (LocalParticipant.declares video audio r.sig.ws.toList)
        captured := r.captured ++ video :: audio.toList }
  | stopScreen {i : ℕ} :
    Reacts r (.stopScreen i)
      { r.session.setLocal i ((r.locals i).teardownScreen r.neg) with
        wire := r.session.wire.sendAll
          (((r.locals i).screen.map LocalParticipant.Screen.unpublishes).getD []) }
  | store {a : Act} {store : ParticipantStore}
    (h : store.localIdentity = r.store.localIdentity) :
    Reacts r a { r.session with store := store }
  | collected {k session : ℕ} (h : r.reports[k]? = some session) :
    Reacts r (.collected k)
      { r.session with wire := r.session.wire.send ⟨.qualityReport, r.reportSessions session⟩ }

theorem capture_eq_some {tracks : List Track} (h : r.capture tracks = some r') :
    (tracks.Nodup ∧ ∀ t ∈ tracks, t ∉ r.captured) ∧
      r' = { r with captured := r.captured ++ tracks } := by
  unfold capture at h
  split_ifs at h with hfresh
  exact ⟨hfresh, (some.inj h).symm⟩

/-- What the end of a handler does, after it may have sent an answer. -/
theorem reacts_settle {t : Room} {answer : Option String} (h : r.sendAnswer answer = some t)
    (err : Option String) :
    Reacts r (.settle answer err)
      ({ (match err with
          | some message => t.onFatal (.other message)
          | none => t) with busy := false, handling := none } : Room).session := by
  have hend : ∃ st, (st = t.state ∨ st = .disconnected) ∧
      ({ (match err with
          | some message => t.onFatal (.other message)
          | none => t) with busy := false, handling := none } : Room).session =
        { t.session with state := st } := by
    cases err with
    | none => exact ⟨_, .inl rfl, rfl⟩
    | some message => exact t.session_onFatal (.other message)
  obtain ⟨st, hst, hend⟩ := hend
  rw [hend]
  cases answer with
  | none =>
    cases h
    exact .idle hst
  | some sdp =>
    unfold sendAnswer at h
    dsimp only at h
    split at h
    · split_ifs at h with hlive
      cases h
      rw [session_send]
      exact .spoken rfl hlive rfl rfl hst
    · cases h

/-- **What a reaction does to the session.** -/
theorem reacts_react {a : Act} (h : r.react a = some r') : Reacts r a r'.session := by
  cases a with
  | connect roomId =>
    cases h
    show Reacts r _ ({ setState _ _ with sig := (setState _ _).sig.connect } : Room).session
    rw [session_dial, session_setState]
    exact .connect
  | disconnect =>
    cases h
    exact session_shutDown r _ _ ▸ .down
  | «open» n =>
    unfold react at h
    dsimp only at h
    split_ifs at h
    cases h
    have hws : (r.sig.onopen n).ws = r.sig.ws := congrArg Wire.ws (r.sig.wire_onopen n)
    unfold sendJoin
    rw [session_send, session_onopen]
    dsimp only
    rw [hws]
    exact .opened
  | message n m =>
    unfold react at h
    dsimp only at h
    split_ifs at h with hopen hws <;> cases h
    · exact .message hws
    · exact .idle (.inl rfl)
  | close n code =>
    unfold react at h
    dsimp only at h
    split_ifs at h <;> cases h
    · exact .closed (r.session_closed n ▸ session_report _ code)
    · rw [session_closed]
      exact .closed (.fades (.inl rfl))
  | timer =>
    unfold react at h
    dsimp only at h
    split_ifs at h
    cases h
    have hdial := session_dial { r with reconnector := { r.reconnector with armed := false } }
    exact hdial ▸ .timer
  | handle fails => cases h
  | settle answer err =>
    unfold react at h
    dsimp only at h
    split_ifs at h
    obtain ⟨t, ht, rfl⟩ := map_eq_some_iff.1 h
    exact reacts_settle ht err
  | republished err =>
    unfold react at h
    dsimp only at h
    split_ifs at h
    cases h
    cases err with
    | none => exact .idle (.inl rfl)
    | some message =>
      obtain ⟨st, hst, hfatal⟩ :=
        session_onFatal { r with republishing := r.republishing - 1 } (.other message)
      exact hfatal ▸ .idle hst
  | enable i =>
    unfold react at h
    dsimp only at h
    split_ifs at h
    cases h
    exact .enabled
  | userMedia k stream =>
    obtain ⟨i, hi, h⟩ := bind_eq_some_iff.1 h
    cases stream with
    | none => exact some.inj h ▸ .idle (.inl rfl)
    | some stream =>
      obtain ⟨t, ht, rfl⟩ := map_eq_some_iff.1 h
      obtain ⟨⟨hnodup, hfresh⟩, rfl⟩ := capture_eq_some ht
      exact .userMedia hi hnodup hfresh
  | setKind i kind enabled =>
    cases h
    rw [session_sendAll]
    exact .setKind
  | startScreen i | negotiationNeeded pc =>
    unfold react at h
    dsimp only at h
    split_ifs at h
    cases h
    exact .idle (.inl rfl)
  | displayMedia k capture =>
    obtain ⟨i, hi, h⟩ := bind_eq_some_iff.1 h
    cases capture with
    | none => exact some.inj h ▸ .idle (.inl rfl)
    | some capture =>
      obtain ⟨t, ht, rfl⟩ := map_eq_some_iff.1 h
      obtain ⟨⟨hnodup, hfresh⟩, rfl⟩ := capture_eq_some ht
      show Reacts r _ ((sendAll _ _).session.setLocal i
        (((sendAll _ _).session.locals i).onDisplayMedia (sendAll _ _).session.neg _ _))
      rw [session_sendAll]
      exact .displayMedia hi hnodup hfresh
  | stopScreen i =>
    cases h
    rw [session_sendAll]
    exact .stopScreen
  | iceCandidate pc candidate =>
    unfold react at h
    dsimp only at h
    split_ifs at h with hlive
    cases h
    rw [session_send]
    exact .spoken rfl hlive rfl rfl (.inl rfl)
  | offered k sdp =>
    obtain ⟨pc, -, h⟩ := bind_eq_some_iff.1 h
    split_ifs at h with hlive
    cases h
    rw [session_send]
    exact .spoken rfl hlive rfl rfl (.inl rfl)
  | track pc track streamId =>
    unfold react at h
    dsimp only at h
    split_ifs at h
    cases h
    have hstore := ParticipantStore.localIdentity_attachTrack (s := r.store) streamId track track.id
    split <;> exact .store hstore
  | tick =>
    unfold react at h
    dsimp only at h
    split_ifs at h
    cases h
    exact r.session_tick ▸ .idle (.inl rfl)
  | collected k =>
    obtain ⟨session, hk, rfl⟩ := map_eq_some_iff.1 h
    rw [session_send]
    exact .collected hk

/-- **What a step does to the session**: it handles a message, or reacts to something else. -/
theorem step_session {a : Act} (h : r.step a = some r') :
    (∃ fails n m rest, a = .handle fails ∧ r.pending = (n, m) :: rest ∧
      Handles (r.take n m rest) n fails m r'.session) ∨
    a.isTurn = false ∧ Reacts r a r'.session := by
  cases ha : a.isTurn with
  | false => exact .inr ⟨rfl, reacts_react (react_of_step h ha).2⟩
  | true =>
    cases a with
    | handle fails =>
      obtain ⟨n, m, rest, hpending, rfl⟩ := turn_of_step h
      exact .inl ⟨fails, n, m, rest, rfl, hpending, handles_onMessage m⟩
    | _ => cases ha

end Room

end PulseRTC.Sdk
