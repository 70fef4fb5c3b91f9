import PulseRTC.Foundations.Runs
import PulseRTC.Sdk.Publishing

/-!
# The room of the client

The SDK's `Room` as a state machine. What it reacts to are the calls of the user, the callbacks of
its sockets, of the reconnect timer and of its peer connections, and the promises that settle; each
runs to its end before the next one (`Act`, `step`). The listeners of its events are the user's:
here they do not call back into the room before they return.

Server messages pass through `pending`: `pump` handles them one by one, and stops while a handler
is asynchronous (`busy`). In the model each turn of `pump` is a step, `Act.handle`, and everything
else waits until `pump` has stopped (`Room.Quiescent`).

* `Signaling` has all sockets ever created, with the frames sent on each. Frames that are sent while
  no socket is open are queued, and flushed by the next one that opens, before its join.
* Old `LocalParticipant`s stay, as the user may still hold them; `self` is the number of the
  current one.
-/

namespace PulseRTC.Sdk

open Foundations

/-! ## Signaling -/

/-- The `readyState` of a `WebSocket`. -/
inductive ReadyState
  | connecting
  | open
  | closing
  | closed
  deriving DecidableEq

/-- A socket, the frames sent on it, and whether a join was sent on it of which no reply has been
handled. -/
structure Socket where
  readyState : ReadyState := .connecting
  sent : List Frame := []
  awaiting : Bool := false
  deriving DecidableEq

/-- `Signaling`, with the sockets that its factory has made. -/
structure Signaling where
  sockets : ℕ → Socket := fun _ => {}
  created : ℕ := 0
  ws : Option ℕ := none
  queue : List Frame := []
  closedByOwner : Bool := false
  closeReported : Bool := false

namespace Signaling

/-- Change one socket. -/
def onSocket (s : Signaling) (n : ℕ) (f : Socket → Socket) : Signaling :=
  { s with sockets := Function.update s.sockets n (f (s.sockets n)) }

/-- `ws.send` on an open socket. -/
def transmit (s : Signaling) (n : ℕ) (frame : Frame) : Signaling :=
  s.onSocket n fun x =>
    { x with sent := x.sent ++ [frame], awaiting := x.awaiting || frame.msg.isJoin }

/-- The current socket is open. -/
def IsOpen (s : Signaling) : Prop := ∃ n ∈ s.ws, (s.sockets n).readyState = .open

def send (s : Signaling) (frame : Frame) : Signaling :=
  match s.ws with
  | some n =>
    if (s.sockets n).readyState = .open then s.transmit n frame
    else { s with queue := s.queue ++ [frame] }
  | none => { s with queue := s.queue ++ [frame] }

/-- `connect`, up to the callbacks. -/
def connect (s : Signaling) : Signaling :=
  { s with
    closedByOwner := false
    closeReported := false
    ws := some s.created
    sockets := Function.update s.sockets s.created {}
    created := s.created + 1 }

/-- What `onopen` of the socket `n` does before the `onOpen` of the room. -/
def onopen (s : Signaling) (n : ℕ) : Signaling :=
  let s := s.onSocket n fun x => { x with readyState := .open }
  s.queue.foldl (fun s frame => s.transmit n frame) { s with queue := [] }

/-- `ws.close`, which does nothing on a socket that is closing or closed. -/
def closeSocket (x : Socket) : Socket :=
  match x.readyState with
  | .connecting | .open => { x with readyState := .closing, awaiting := false }
  | .closing | .closed => x

/-- `close`, before it reports. -/
def close (s : Signaling) : Signaling :=
  let s := { s with closedByOwner := true, queue := [] }
  match s.ws with
  | none => s
  | some n => s.onSocket n closeSocket

end Signaling

/-! ## The room -/

inductive ConnectionState
  | connecting
  | connected
  | reconnecting
  | disconnected
  deriving DecidableEq

inductive DisconnectReason
  | client
  | roomClosed
  | replaced
  | tokenExpired
  | error
  deriving DecidableEq

/-- The reason, as it stands in an error. -/
def DisconnectReason.text : DisconnectReason → String
  | .client => "client"
  | .roomClosed => "room_closed"
  | .replaced => "replaced"
  | .tokenExpired => "token_expired"
  | .error => "error"

/-- The errors that a room reports. -/
inductive SdkError
  | connection (message : String)
  | token (message code : String)
  | roomOnOtherNode (nodeId : String)
  | other (message : String)
  deriving DecidableEq

/-- `RoomEvent`, with what the listeners get. -/
inductive Event
  | connectionStateChanged (state : ConnectionState)
  | participantConnected (id : String)
  | participantDisconnected (id : String)
  | trackSubscribed (track : Track) (publicationId id : String)
  | trackUnsubscribed (publicationId id : String)
  | trackMuted (publicationId id : String)
  | qualityChanged (id status : String)
  | subscribeDenied (publicationId : Option String)
  | error (err : SdkError)
  | disconnected (reason : DisconnectReason)
  deriving DecidableEq

/-- The types of a `SessionEventMsg`. -/
inductive SessionEventType
  | recovery
  | reconnected
  | stale
  | replaced
  | recoveryFailed
  deriving DecidableEq

inductive ServerMessage
  | welcome (participantId : String) (name : Option String)
  | roomJoined (m : RoomJoined)
  | participantJoined (participantId : String) (name : Option String)
  | participantLeft (participantId : String)
  /-- `sfu_offer`, `sfu_answer` or `sfu_ice_candidate`. -/
  | signal
  | publication (m : PublicationEvent)
  | subscription (m : SubscriptionEvent)
  | quality (participantId status : String)
  | publishDenied
  | subscribeDenied (publicationId : Option String)
  | roomClosed
  | session (type : SessionEventType)
  | error (code message nodeId : Option String)
  /-- A standalone `room.snapshot`, or a type that is not known. -/
  | ignored
  deriving DecidableEq

def ServerMessage.isReply : ServerMessage → Bool
  | .roomJoined _ | .session .stale | .session .replaced | .error .. | .roomClosed => true
  | _ => false

structure Reconnector where
  hints : ReconnectHints := ⟨500, 10000, 1 / 5⟩
  attempt : ℕ := 0
  armed : Bool := false
  deriving DecidableEq

def Reconnector.arm (r : Reconnector) : Reconnector :=
  { r with attempt := r.attempt + 1, armed := true }

def Reconnector.reset (r : Reconnector) : Reconnector := { r with attempt := 0, armed := false }

/-- `Room`. The calls of `connect` are numbered, and `results` says how they ended. -/
structure Room where
  qoeEnabled : Bool := true
  sig : Signaling := {}
  neg : Negotiator := {}
  store : ParticipantStore := {}
  reconnector : Reconnector := {}
  qoe : Bool := false
  state : ConnectionState := .disconnected
  locals : ℕ → LocalParticipant := fun _ => {}
  self : ℕ := 0
  roomId : String := ""
  nodeRedirects : ℕ := 0
  resume : Option Resume := none
  connecting : Option ℕ := none
  wantConnected : Bool := false
  busy : Bool := false
  pending : List (ℕ × ServerMessage) := []
  /-- The peer connection of the handler in flight. -/
  handling : Option ℕ := none
  /-- The local participants that wait for `getUserMedia` and `getDisplayMedia`. -/
  captures : List ℕ := []
  displays : List ℕ := []
  /-- The tracks that they have returned. -/
  captured : List Track := []
  /-- The peer connections of the offers, and the sessions of the reports, that are in flight. -/
  offers : List ℕ := []
  reports : List ℕ := []
  /-- The calls of `_republish` that have not settled. -/
  republishing : ℕ := 0
  calls : ℕ := 0
  results : List (ℕ × Option SdkError) := []
  events : List Event := []

def tokenErrorCodes : List String :=
  ["INVALID_TOKEN", "EXPIRED_TOKEN", "INVALID_ISSUER", "INVALID_AUDIENCE", "ROOM_ACCESS_DENIED",
    "JOIN_NOT_ALLOWED", "UNAUTHENTICATED"]

def maxNodeRedirects : ℕ := 5

namespace Room

/-- `_local`. -/
def me (r : Room) : LocalParticipant := r.locals r.self

def emit (r : Room) (e : Event) : Room := { r with events := r.events ++ [e] }

def setState (r : Room) (s : ConnectionState) : Room :=
  if r.state = s then r else ({ r with state := s }).emit (.connectionStateChanged s)

/-- Settle the pending `connect()`, if there is one. -/
def settleConnect (r : Room) (err : Option SdkError) : Room :=
  match r.connecting with
  | none => r
  | some call => { r with connecting := none, results := r.results ++ [(call, err)] }

def failConnect (r : Room) (err : SdkError) : Room :=
  ({ r.settleConnect (some err) with wantConnected := false }).setState .disconnected

def closeMedia (r : Room) : Room :=
  { r with neg := r.neg.close, store := r.store.clearTracks }

def arm (r : Room) : Room := { r with reconnector := r.reconnector.arm }

/-- `onClose`, with the code of the close. -/
def onClose (r : Room) (code : ℕ) : Room :=
  if !r.wantConnected then r
  else if r.connecting.isSome then
    r.failConnect (.connection ("socket closed (" ++ toString code ++ ")"))
  else (r.setState .reconnecting).closeMedia.arm

/-- `Signaling.report`. -/
def report (r : Room) (code : ℕ) : Room :=
  if r.sig.closeReported then r
  else ({ r with sig := { r.sig with closeReported := true } }).onClose code

/-- `sig.close`. -/
def closeSignaling (r : Room) : Room := ({ r with sig := r.sig.close }).report 1000

def resetSession (r : Room) : Room :=
  { r with
    self := r.self + 1
    locals := Function.update r.locals (r.self + 1) {}
    store := r.store.clear
    resume := none
    nodeRedirects := 0
    pending := [] }

/-- What `disconnect` and `teardown` have in common. -/
def shutDown (r : Room) (err : SdkError) (reason : DisconnectReason) : Room :=
  let r := { r with wantConnected := false, reconnector := r.reconnector.reset, qoe := false }
  let r := r.closeSignaling.closeMedia
  let r := (r.settleConnect (some err)).resetSession
  (r.setState .disconnected).emit (.disconnected reason)

def disconnect (r : Room) : Room := r.shutDown (.connection "disconnected") .client

def teardown (r : Room) (reason : DisconnectReason) : Room :=
  r.shutDown (.connection ("disconnected (" ++ reason.text ++ ")")) reason

def send (r : Room) (frame : Frame) : Room := { r with sig := r.sig.send frame }

def sendJoin (r : Room) : Room := r.send ⟨.join r.roomId r.resume, r.sig.ws.toList⟩

def onFatal (r : Room) (err : SdkError) : Room :=
  if r.connecting.isSome then r.failConnect err else r.emit (.error err)

/-- What a failed `connect()` is rejected with. -/
def connectError (code message nodeId : Option String) : SdkError :=
  match code with
  | some c =>
    if c ∈ tokenErrorCodes then .token (message.getD c) c
    else if c = "ROOM_ON_OTHER_NODE" then .roomOnOtherNode (nodeId.getD "?")
    else .connection (message.getD c)
  | none => .connection (message.getD "connection error")

def handleError (r : Room) (code message nodeId : Option String) : Room :=
  if r.connecting.isSome then r.failConnect (connectError code message nodeId)
  else if code = some "EXPIRED_TOKEN" then r.teardown .tokenExpired
  else if code = some "ROOM_ON_OTHER_NODE" then
    let r := { r with nodeRedirects := r.nodeRedirects + 1 }
    if maxNodeRedirects < r.nodeRedirects then r.teardown .error
    else (r.closeSignaling.setState .reconnecting).arm
  else r.emit (.error (.connection ((message.or code).getD "server error")))

/-- Change the local participant `i`, and what it has done to the peer connections. -/
def setLocal (r : Room) (i : ℕ) (x : LocalParticipant × Negotiator) : Room :=
  { r with locals := Function.update r.locals i x.1, neg := x.2 }

/-- What `welcome` does to the local participant: the first one of a session makes it, and a later
one resets it. -/
def greet (r : Room) (participantId : String) (name : Option String) : Room :=
  if r.me.identity = "" then
    let p : LocalParticipant := { identity := participantId, name := name, wired := true }
    { r with self := r.self + 1, locals := Function.update r.locals (r.self + 1) p }
  else
    let (p, neg) := r.me.resetForReconnect r.neg
    r.setLocal r.self ({ p with wired := true }, neg)

/-- `neg.create`. -/
def createPc (r : Room) (n : ℕ) (fails : Bool) : Room := { r with neg := r.neg.create n fails }

/-- The handler of `welcome`, which came on the socket `n`; `fails` if there is no peer
connection to be had. -/
def onWelcome (r : Room) (n : ℕ) (participantId : String) (name : Option String) (fails : Bool) :
    Room :=
  let r := { r with store := r.store.applyWelcome participantId }
  let r := (r.greet participantId name).createPc n fails
  if fails then r.onFatal (.other "peer connection") else r

/-- The events of `room_joined`: who has left, with the tracks it had, and who is new. -/
def membershipEvents (s : ParticipantStore) (m : RoomJoined) : List Event :=
  (s.removedBy m).flatMap (fun rp =>
    (rp.2.publications.entries.filter fun e => e.2.track.isSome).map
        (fun e => .trackUnsubscribed e.1 rp.1) ++ [.participantDisconnected rp.1]) ++
    (s.addedBy m).map .participantConnected

/-- `_republish`: whether it throws or waits, its promise has still to settle. -/
def republish (r : Room) : Room :=
  match r.me.stream with
  | none => r
  | some _ =>
    let (p, neg, _) := r.me.addTracks r.neg
    { r.setLocal r.self (p, neg) with republishing := r.republishing + 1 }

/-- One turn of the timer of the `QoEReporter`. -/
def tick (r : Room) : Room :=
  match r.neg.pc.bind (r.neg.pcs[·]?) with
  | none => r
  | some pc => { r with reports := r.reports ++ [pc.session] }

/-- `startQoE`, if it is enabled. -/
def startQoE (r : Room) : Room := if r.qoeEnabled then ({ r with qoe := true }).tick else r

/-- The resume token that `room_joined` carries, if any. -/
def resumeOf (m : RoomJoined) (old : Option Resume) : Option Resume :=
  if ParticipantStore.truthy m.sessionId then
    m.sessionId.map fun sessionId => ⟨sessionId, m.generation.getD 0⟩
  else old

/-- What `room_joined` brings up to date. -/
def enter (r : Room) (m : RoomJoined) : Room :=
  { r with
    roomId := m.roomId
    nodeRedirects := 0
    reconnector := { r.reconnector with hints := m.reconnect.getD r.reconnector.hints }.reset
    resume := resumeOf m r.resume
    events := r.events ++ membershipEvents r.store m
    store := r.store.applyRoomJoined m }

/-- The handler of `room_joined`. -/
def onRoomJoined (r : Room) (m : RoomJoined) : Room :=
  let r := ((r.enter m).setState .connected).settleConnect none
  (if m.reconnected then r.republish else r).startQoE

/-- The handler of a publication event of the local participant, on the socket `n`. -/
def onOwnPublication (r : Room) (n : ℕ) (m : PublicationEvent) : Room :=
  match m.type with
  | .added =>
    let p :=
      if m.source = some .screen then r.me.onScreenPublicationAdded m.publicationId m.kind n
      else r.me.onPublicationAdded m.kind m.publicationId n
    r.setLocal r.self (p, r.neg)
  | .removed => r.setLocal r.self (r.me.onPublicationRemoved m.publicationId r.neg)
  | .muted => r.setLocal r.self (r.me.onPublicationMuted m.publicationId m.muted, r.neg)

def publicationEvents (m : PublicationEvent) : Option ParticipantStore.Applied → List Event
  | none => []
  | some a =>
    if a.removed then [.trackUnsubscribed a.publicationId a.participant]
    else if m.type = .muted then [.trackMuted a.publicationId a.participant]
    else (a.publication.track.map fun t =>
      .trackSubscribed t a.publicationId a.participant).toList

/-- The handler of publication events, on the socket `n`. -/
def onPublication (r : Room) (n : ℕ) (m : PublicationEvent) : Room :=
  if m.participantId = r.me.identity then r.onOwnPublication n m
  else
    { r with
      events := r.events ++ publicationEvents m (r.store.applyPublicationEvent m).2
      store := (r.store.applyPublicationEvent m).1 }

/-- `onMessage`, for a message that came on the socket `n`. -/
def onMessage (r : Room) (n : ℕ) (m : ServerMessage) (fails : Bool) : Room :=
  match m with
  | .welcome participantId name => r.onWelcome n participantId name fails
  | .roomJoined m => r.onRoomJoined m
  | .participantJoined id name =>
    ({ r with store := r.store.ensure id name }).emit (.participantConnected id)
  | .participantLeft id =>
    if id ∈ r.store.remote then
      ({ r with store := r.store.applyParticipantLeft id }).emit (.participantDisconnected id)
    else r
  | .signal => { r with busy := true, handling := r.neg.pc }
  | .publication m => r.onPublication n m
  | .subscription m => { r with store := r.store.applySubscriptionEvent m }
  | .quality id status => r.emit (.qualityChanged id status)
  | .publishDenied => r.setLocal r.self (r.me.onPublishDenied r.neg)
  | .subscribeDenied id => r.emit (.subscribeDenied id)
  | .roomClosed => r.teardown .roomClosed
  | .session .stale => ({ r with resume := none }).sendJoin
  | .session .recoveryFailed => { r with resume := none }
  | .session .replaced => r.teardown .replaced
  | .session .recovery | .session .reconnected | .ignored => r
  | .error code message nodeId => r.handleError code message nodeId

/-- A message leaves `pending`, and if it is a reply, the wait for one ends. -/
def take (r : Room) (n : ℕ) (m : ServerMessage) (rest : List (ℕ × ServerMessage)) : Room :=
  { r with
    pending := rest
    sig := if m.isReply then r.sig.onSocket n fun x => { x with awaiting := false } else r.sig }

/-- The connection that the frames of a peer connection speak of. -/
def sessionOf (r : Room) (pc : ℕ) : List ℕ := (r.neg.pcs[pc]?).toList.map PeerConnection.session

/-- The peer connection is there and not closed. -/
def IsLive (r : Room) (pc : ℕ) : Prop := ∃ x ∈ r.neg.pcs[pc]?, x.closed = false

instance (r : Room) (pc : ℕ) : Decidable (r.IsLive pc) := inferInstanceAs (Decidable (∃ _, _))

/-- No event is being processed: `pump` waits for a handler, or has nothing to do. -/
def Quiescent (r : Room) : Prop := r.busy = true ∨ r.pending = []

instance (r : Room) : Decidable r.Quiescent := inferInstanceAs (Decidable (_ ∨ _))

def sendAll (r : Room) (frames : List Frame) : Room := frames.foldl send r

end Room

/-! ## Steps -/

/-- What a room reacts to. -/
inductive Act
  | connect (roomId : String)
  | disconnect
  /-- The callbacks of the socket `n`. -/
  | open (n : ℕ)
  | message (n : ℕ) (m : ServerMessage)
  | close (n : ℕ) (code : ℕ)
  /-- The reconnect timer. -/
  | timer
  /-- A turn of `pump`. -/
  | handle (fails : Bool)
  /-- The handler in flight settles, maybe after it has sent an answer. -/
  | settle (answer : Option String) (err : Option String)
  /-- A call of `_republish` settles. -/
  | republished (err : Option String)
  /-- `enableCameraAndMicrophone`, and what `getUserMedia` returns to the `k`-th call in flight. -/
  | enable (i : ℕ)
  | userMedia (k : ℕ) (stream : Option Stream)
  /-- `setMicrophoneEnabled` and `setCameraEnabled`. -/
  | setKind (i : ℕ) (kind : Kind) (enabled : Bool)
  /-- `startScreenShare`, and what `getDisplayMedia` returns to the `k`-th call in flight. -/
  | startScreen (i : ℕ)
  | displayMedia (k : ℕ) (capture : Option (Track × Option Track))
  /-- `stopScreenShare`, by the user or by the end of the track. -/
  | stopScreen (i : ℕ)
  /-- The callbacks of a peer connection; an offer is sent once `setLocalDescription` is done. -/
  | iceCandidate (pc : ℕ) (candidate : String)
  | negotiationNeeded (pc : ℕ)
  | offered (k : ℕ) (sdp : String)
  | track (pc : ℕ) (track : Track) (streamId : String)
  /-- The timer of the quality reports, and the `k`-th of them in flight. -/
  | tick
  | collected (k : ℕ)
  deriving DecidableEq

namespace Room

/-- The answer of the handler in flight, which comes only from a peer connection that is open. -/
def sendAnswer (r : Room) : Option String → Option Room
  | none => some r
  | some sdp =>
    match r.handling with
    | some pc => if r.IsLive pc then some (r.send ⟨.sfuAnswer sdp, r.sessionOf pc⟩) else none
    | none => none

/-- A capture returns tracks that were not there before. -/
def capture (r : Room) (tracks : List Track) : Option Room :=
  if tracks.Nodup ∧ ∀ t ∈ tracks, t ∉ r.captured then
    some { r with captured := r.captured ++ tracks }
  else none

/-- What a `quality_report` speaks of: the statistics of a peer connection, and the publications of
the local participant. -/
def reportSessions (r : Room) (session : ℕ) : List ℕ :=
  session :: r.me.publications.entries.map fun e => e.2.session

/-- The reactions, in a room in which no event is being processed. -/
def react (r : Room) : Act → Option Room
  | .connect roomId =>
    let r := { r with roomId := roomId, wantConnected := true }
    let r := r.setState .connecting
    some { r with connecting := some r.calls, calls := r.calls + 1, sig := r.sig.connect }
  | .disconnect => some r.disconnect
  | .open n =>
    if n < r.sig.created ∧ (r.sig.sockets n).readyState = .connecting then
      some ({ r with sig := r.sig.onopen n }).sendJoin
    else none
  | .message n m =>
    if n < r.sig.created ∧ (r.sig.sockets n).readyState = .open then
      some (if r.sig.ws = some n then { r with pending := r.pending ++ [(n, m)] } else r)
    else none
  | .close n code =>
    if n < r.sig.created ∧ (r.sig.sockets n).readyState ≠ .closed then
      let r := { r with
        sig := r.sig.onSocket n fun x => { x with readyState := .closed, awaiting := false } }
      some (if r.sig.ws = some n then r.report code else r)
    else none
  | .timer =>
    if r.reconnector.armed then
      some { r with reconnector := { r.reconnector with armed := false }, sig := r.sig.connect }
    else none
  | .handle _ => none
  | .settle answer err =>
    if r.busy then
      (r.sendAnswer answer).map fun r =>
        let r := match err with
          | some message => r.onFatal (.other message)
          | none => r
        { r with busy := false, handling := none }
    else none
  | .republished err =>
    if 0 < r.republishing then
      let r := { r with republishing := r.republishing - 1 }
      some (match err with
        | some message => r.onFatal (.other message)
        | none => r)
    else none
  | .enable i =>
    if (r.locals i).wired then
      some { r with
        locals := Function.update r.locals i { r.locals i with denied := false }
        captures := r.captures ++ [i] }
    else none
  | .userMedia k stream =>
    (r.captures[k]?).bind fun i =>
      let r := { r with captures := r.captures.eraseIdx k }
      match stream with
      | none => some r
      | some stream =>
        (r.capture stream.tracks).map fun r =>
          r.setLocal i ((r.locals i).onUserMedia r.neg stream)
  | .setKind i kind enabled =>
    let (p, frames) := (r.locals i).setKind kind enabled
    some (({ r with locals := Function.update r.locals i p }).sendAll frames)
  | .startScreen i =>
    if (r.locals i).wired ∧ (r.locals i).screen = none then
      some { r with displays := r.displays ++ [i] }
    else none
  | .displayMedia k capture =>
    (r.displays[k]?).bind fun i =>
      let r := { r with displays := r.displays.eraseIdx k }
      match capture with
      | none => some r
      | some (video, audio) =>
        (r.capture (video :: audio.toList)).map fun r =>
          let r := r.sendAll (LocalParticipant.declares video audio r.sig.ws.toList)
          r.setLocal i ((r.locals i).onDisplayMedia r.neg video audio)
  | .stopScreen i =>
    let frames := ((r.locals i).screen.map LocalParticipant.Screen.unpublishes).getD []
    some ((r.setLocal i ((r.locals i).teardownScreen r.neg)).sendAll frames)
  | .iceCandidate pc candidate =>
    if r.IsLive pc then some (r.send ⟨.sfuIceCandidate candidate, r.sessionOf pc⟩) else none
  | .negotiationNeeded pc =>
    if r.IsLive pc then some { r with offers := r.offers ++ [pc] } else none
  | .offered k sdp =>
    (r.offers[k]?).bind fun pc =>
      if r.IsLive pc then
        some (({ r with offers := r.offers.eraseIdx k }).send ⟨.sfuOffer sdp, r.sessionOf pc⟩)
      else none
  | .track pc track streamId =>
    if r.IsLive pc then
      let (store, applied) := r.store.attachTrack streamId track track.id
      let r := { r with store := store }
      some (match applied with
        | some a => r.emit (.trackSubscribed track a.publicationId a.participant)
        | none => r)
    else none
  | .tick => if r.qoe then some r.tick else none
  | .collected k =>
    (r.reports[k]?).map fun session =>
      let r := { r with reports := r.reports.eraseIdx k }
      r.send ⟨.qualityReport, r.reportSessions session⟩

/-- One step: a turn of `pump` while it has something to do, and a reaction otherwise. -/
def step (r : Room) (a : Act) : Option Room :=
  match a with
  | .handle fails =>
    if r.busy then none
    else match r.pending with
    | [] => none
    | (n, m) :: rest => some ((r.take n m rest).onMessage n m fails)
  | a => if r.Quiescent then r.react a else none

def new (qoeEnabled : Bool) : Room := { qoeEnabled := qoeEnabled }

end Room

end PulseRTC.Sdk
