import PulseRTC.Foundations.Lists
import PulseRTC.Media.Transport

/-!
# The media bridge

Two nodes whose SFUs mirror each other's publications. A node opens a media session to the other
one when it first subscribes to a publication there; a session carries the mirrors of both
directions. `mediaBridge` indexes a session twice, by its id and by the other node, and a session
that the other node opens takes over the entry by node.

* `beginSubscribe`, `proceed` and `finish` are `SubscribeRemote` between the points where it waits.

Nothing times out: sessions stay, and every message is delivered once, in any order.
-/

namespace PulseRTC.Media.Bridge

open Foundations

/-- The track parameters in a `media.subscribe.ack`. -/
structure TrackParams where
  participantID : String
  kind : String
  mimeType : String
  clockRate : UInt32
  channels : UInt16
  payloadType : UInt8
  ssrc : UInt32
  deriving DecidableEq

/-- `RemotePublicationInfo`; the two nodes are `true` and `false`. -/
structure RemotePublicationInfo where
  roomID : String
  publicationID : Bytes
  originNodeID : Bool
  params : TrackParams
  deriving DecidableEq

/-- An error of a media call. -/
structure Error where
  code : Code
  message : String
  deriving DecidableEq

/-! ## Sessions -/

/-- `MediaSession`. A track is in `tracks` exactly as long as it is `ACTIVE`. -/
structure MediaSession where
  roomID : String
  authenticated : Bool := false
  forwarders : Finset Bytes := ∅
  tracks : GoMap Bytes RemotePublicationInfo := ∅

namespace MediaSession

def addForwarder (m : MediaSession) (pub : Bytes) : MediaSession :=
  { m with forwarders := insert pub m.forwarders }

def removeForwarder (m : MediaSession) (pub : Bytes) : MediaSession :=
  { m with forwarders := m.forwarders.erase pub }

def addTrack (m : MediaSession) (info : RemotePublicationInfo) : MediaSession :=
  { m with tracks := m.tracks.insert info.publicationID info }

def removeTrack (m : MediaSession) (pub : Bytes) : MediaSession :=
  { m with tracks := m.tracks.erase pub }

/-- The connection is authenticated. -/
def authenticate (m : MediaSession) : MediaSession := { m with authenticated := true }

end MediaSession

/-! ## One node -/

/-- The control messages. -/
inductive Msg
  | sessionOpen (sid : SessionId) (roomID : String)
  | sessionAccept (sid : SessionId)
  | subscribe (sid : SessionId) (roomID : String) (pub : Bytes)
  /-- Accepted with the parameters of the track, or refused with a reason. -/
  | subscribeAck (sid : SessionId) (pub : Bytes) (answer : Except Code TrackParams)
  | unsubscribe (sid : SessionId) (pub : Bytes)
  | trackEnded (sid : SessionId) (pub : Bytes)
  deriving DecidableEq

/-- Where a `SubscribeRemote` call waits. -/
inductive Phase
  /-- In `EnsureSession`, for the session; the call that opened it also waits to be accepted. -/
  | connecting (opener : Bool)
  /-- For the answer to its `media.subscribe`. -/
  | subscribing (answer : Option (Except Code TrackParams))
  deriving DecidableEq

/-- A `SubscribeRemote` call in progress. -/
structure Call where
  id : ℕ
  roomID : String
  pub : Bytes
  sid : SessionId
  phase : Phase
  deriving DecidableEq

/-- A completed operation on a publication of the other node. -/
inductive Op
  | subscribed (result : Except Error RemotePublicationInfo)
  | unsubscribed
  deriving DecidableEq

/-- `mediaBridge` on one of two nodes, with the publications of its SFU. `last` and `ended` record
the last completed operation on a publication of the other node, and the own publications whose
`PublicationEnded` has completed. -/
structure Node where
  byNode : Option SessionId := none
  bySID : GoMap SessionId MediaSession := ∅
  pendingAccept : Finset SessionId := ∅
  pendingSubAck : GoMap (SessionId × Bytes) ℕ := ∅
  calls : List Call := []
  nextCall : ℕ := 0
  publications : GoMap Bytes (String × TrackParams) := ∅
  last : Bytes → Option Op := fun _ => none
  ended : Finset Bytes := ∅

/-- What the registry and `Dial` say about the other node. -/
inductive Registered
  | noMediaAddr
  | notReady
  | badMediaAddr
  | ready
  deriving DecidableEq

namespace Node

/-- A change of the session `sid`, if there is one. -/
def onSession (n : Node) (sid : SessionId) (f : MediaSession → MediaSession) : Node :=
  match n.bySID.lookup sid with
  | none => n
  | some m => { n with bySID := n.bySID.insert sid (f m) }

/-- An operation on a publication of the other node is completed. -/
def complete (n : Node) (pub : Bytes) (op : Op) : Node :=
  { n with last := Function.update n.last pub (some op) }

/-- `EnsureSession` up to where it waits: the session, whether this call opened it, and what it
sends. -/
def ensureSession (n : Node) (roomID : String) (fresh : SessionId) (other : Registered) :
    Except Error (Node × SessionId × Bool × List Msg) :=
  match n.byNode with
  | some sid => .ok (n, sid, false, [])
  | none =>
    match other with
    | .noMediaAddr => .error ⟨.mediaNodeUnavailable, "remote node has no media address"⟩
    | .notReady => .error ⟨.mediaNodeUnavailable, "remote node not ready"⟩
    | .badMediaAddr => .error ⟨.mediaNodeUnavailable, "bad media address"⟩
    | .ready =>
      .ok ({ n with
          byNode := some fresh
          bySID := n.bySID.insert fresh { roomID := roomID }
          pendingAccept := insert fresh n.pendingAccept },
        fresh, true, [.sessionOpen fresh roomID])

/-- `SubscribeRemote` until it waits for the session. -/
def beginSubscribe (n : Node) (roomID : String) (pub : Bytes) (fresh : SessionId)
    (other : Registered) : Node × List Msg :=
  match n.ensureSession roomID fresh other with
  | .error e => (n.complete pub (.subscribed (.error e)), [])
  | .ok (n', sid, opener, msgs) =>
    let call : Call := ⟨n'.nextCall, roomID, pub, sid, .connecting opener⟩
    ({ n' with calls := n'.calls ++ [call], nextCall := n'.nextCall + 1 }, msgs)

/-- A call whose session is up goes on: it finds a track of the publication, or asks for one. -/
def proceed (n : Node) (k : ℕ) : Option (Node × List Msg) :=
  match n.calls[k]? with
  | none => none
  | some c =>
    match c.phase, n.bySID.lookup c.sid with
    | .connecting opener, some m =>
      if m.authenticated ∧ (opener → c.sid ∉ n.pendingAccept) then
        match m.tracks.lookup c.pub with
        | some info =>
          let n' := { n with calls := n.calls.eraseIdx k }
          some (n'.complete c.pub (.subscribed (.ok info)), [])
        | none =>
          some ({ n with
              calls := n.calls.set k { c with phase := .subscribing none }
              pendingSubAck := n.pendingSubAck.insert (c.sid, c.pub) c.id },
            [.subscribe c.sid c.roomID c.pub])
      else none
    | _, _ => none

/-- A call that has its answer ends; `herr` is what `AddRemotePublication` returns. -/
def finish (n : Node) (other : Bool) (k : ℕ) (herr : Option Error) : Option Node :=
  match n.calls[k]? with
  | none => none
  | some c =>
    match c.phase with
    | .subscribing (some answer) =>
      let n' := { n with
        calls := n.calls.eraseIdx k
        pendingSubAck := n.pendingSubAck.erase (c.sid, c.pub) }
      match answer, herr with
      | .error reason, _ =>
        some (n'.complete c.pub (.subscribed (.error ⟨.remoteTrackNotFound, reason.text⟩)))
      | .ok _, some e => some (n'.complete c.pub (.subscribed (.error e)))
      | .ok params, none =>
        let info : RemotePublicationInfo := ⟨c.roomID, c.pub, other, params⟩
        some ((n'.onSession c.sid (·.addTrack info)).complete c.pub (.subscribed (.ok info)))
    | _ => none

def unsubscribeRemote (n : Node) (pub : Bytes) : Node × List Msg :=
  match n.byNode with
  | none => (n.complete pub .unsubscribed, [])
  | some sid =>
    ((n.onSession sid (·.removeTrack pub)).complete pub .unsubscribed, [.unsubscribe sid pub])

/-- `PublicationEnded` of a publication is completed. -/
def markEnded (n : Node) (pub : Bytes) : Node := { n with ended := insert pub n.ended }

/-- `PublicationEnded`: the loop over `byNode` sees the session with the other node. -/
def publicationEnded (n : Node) (pub : Bytes) : Node × List Msg :=
  match n.byNode with
  | none => (n.markEnded pub, [])
  | some sid =>
    if (n.bySID.lookup sid).any fun m => pub ∈ m.forwarders then
      ((n.markEnded pub).onSession sid (·.removeForwarder pub), [.trackEnded sid pub])
    else (n.markEnded pub, [])

/-- The SFU has one publication more. -/
def publish (n : Node) (roomID : String) (pub : Bytes) (params : TrackParams) : Node :=
  { n with publications := n.publications.insert pub (roomID, params) }

/-- The SFU has one publication less. -/
def unpublish (n : Node) (pub : Bytes) : Node :=
  { n with publications := n.publications.erase pub }

/-- `AttachForwarder` of the SFU. -/
def attachForwarder (n : Node) (roomID : String) (pub : Bytes) : Option TrackParams :=
  match n.publications.lookup pub with
  | some (room, params) => if room = roomID then some params else none
  | none => none

/-- `onSessionOpen`: a session of a new id takes over the entry by node. -/
def onSessionOpen (n : Node) (sid : SessionId) (roomID : String) : Node × List Msg :=
  match n.bySID.lookup sid with
  | none =>
    ({ n with byNode := some sid, bySID := n.bySID.insert sid { roomID := roomID } },
      [.sessionAccept sid])
  | some _ => (n, [.sessionAccept sid])

def resolveAccept (n : Node) (sid : SessionId) : Node :=
  { n with pendingAccept := n.pendingAccept.erase sid }

def onSubscribe (n : Node) (sid : SessionId) (roomID : String) (pub : Bytes) : Node × List Msg :=
  match n.bySID.lookup sid with
  | none => (n, [.subscribeAck sid pub (.error .mediaSessionNotFound)])
  | some _ =>
    match n.attachForwarder roomID pub with
    | none => (n, [.subscribeAck sid pub (.error .remoteTrackNotFound)])
    | some params =>
      (n.onSession sid (·.addForwarder pub), [.subscribeAck sid pub (.ok params)])

/-- The call that waits on the channel gets its answer; it reads no second one. -/
def answer (sid : SessionId) (pub : Bytes) (id : ℕ) (a : Except Code TrackParams) :
    List Call → List Call
  | [] => []
  | c :: cs =>
    if c.sid = sid ∧ c.pub = pub ∧ c.id = id then
      match c.phase with
      | .subscribing none => { c with phase := .subscribing (some a) } :: cs
      | _ => c :: cs
    else c :: answer sid pub id a cs

def resolveSubAck (n : Node) (sid : SessionId) (pub : Bytes) (a : Except Code TrackParams) :
    Node :=
  match n.bySID.lookup sid with
  | none => n
  | some _ =>
    match n.pendingSubAck.lookup (sid, pub) with
    | none => n
    | some id => { n with calls := answer sid pub id a n.calls }

/-- `handleControl`, with `onUnsubscribe` and `onTrackEnded`. -/
def handleControl (n : Node) : Msg → Node × List Msg
  | .sessionOpen sid roomID => n.onSessionOpen sid roomID
  | .sessionAccept sid => (n.resolveAccept sid, [])
  | .subscribe sid roomID pub => n.onSubscribe sid roomID pub
  | .subscribeAck sid pub a => (n.resolveSubAck sid pub a, [])
  | .unsubscribe sid pub => (n.onSession sid (·.removeForwarder pub), [])
  | .trackEnded sid pub => (n.onSession sid (·.removeTrack pub), [])

end Node

/-! ## Two nodes -/

/-- The nodes, and the messages in flight with their receivers. -/
structure System where
  nodes : Bool → Node := fun _ => {}
  flight : List (Bool × Msg) := []

/-- A step of the system. -/
inductive Move
  | publish (i : Bool) (roomID : String) (pub : Bytes) (params : TrackParams)
  | unpublish (i : Bool) (pub : Bytes)
  /-- `SubscribeRemote` is called; `fresh` is the id of a session it may open. -/
  | subscribe (i : Bool) (roomID : String) (pub : Bytes) (fresh : SessionId) (other : Registered)
  | proceed (i : Bool) (k : ℕ)
  | finish (i : Bool) (k : ℕ) (herr : Option Error)
  | unsubscribe (i : Bool) (pub : Bytes)
  | publicationEnded (i : Bool) (pub : Bytes)
  /-- A `HELLO` of the other node arrives, so both ends of the session exist. -/
  | authenticate (i : Bool) (sid : SessionId)
  | deliver (k : ℕ)

/-- The node `i` makes a step and sends messages to the other one. -/
def System.moved (s : System) (i : Bool) (out : Node × List Msg) : System where
  nodes := Function.update s.nodes i out.1
  flight := s.flight ++ out.2.map fun m => (!i, m)

/-- One step: publication ids and session ids are not used twice, and `PublicationEnded` is called
for a publication that is gone. -/
def step (s : System) : Move → Option System
  | .publish i roomID pub params =>
    if (s.nodes i).publications.lookup pub = none ∧ pub ∉ (s.nodes i).ended then
      some (s.moved i ((s.nodes i).publish roomID pub params, []))
    else none
  | .unpublish i pub => some (s.moved i ((s.nodes i).unpublish pub, []))
  | .subscribe i roomID pub fresh other =>
    if ∀ j, (s.nodes j).bySID.lookup fresh = none then
      some (s.moved i ((s.nodes i).beginSubscribe roomID pub fresh other))
    else none
  | .proceed i k => ((s.nodes i).proceed k).map (s.moved i)
  | .finish i k herr => ((s.nodes i).finish (!i) k herr).map fun n => s.moved i (n, [])
  | .unsubscribe i pub => some (s.moved i ((s.nodes i).unsubscribeRemote pub))
  | .publicationEnded i pub =>
    if (s.nodes i).publications.lookup pub = none then
      some (s.moved i ((s.nodes i).publicationEnded pub))
    else none
  | .authenticate i sid =>
    if ∀ j, (s.nodes j).bySID.lookup sid ≠ none then
      some (s.moved i ((s.nodes i).onSession sid (·.authenticate), []))
    else none
  | .deliver k =>
    match s.flight[k]? with
    | none => none
    | some (i, m) =>
      let t := { s with flight := s.flight.eraseIdx k }
      some (t.moved i ((s.nodes i).handleControl m))

@[simp] theorem moved_nodes_self (s : System) (i : Bool) (out : Node × List Msg) :
    (s.moved i out).nodes i = out.1 := by
  simp [System.moved]

@[simp] theorem moved_nodes_not (s : System) (i : Bool) (out : Node × List Msg) :
    (s.moved i out).nodes (!i) = s.nodes !i := by
  simp [System.moved]

theorem moved_true_false (s : System) (out : Node × List Msg) :
    (s.moved true out).nodes false = s.nodes false :=
  moved_nodes_not s true out

theorem moved_false_true (s : System) (out : Node × List Msg) :
    (s.moved false out).nodes true = s.nodes true :=
  moved_nodes_not s false out

/-- An answer changes at most one call, which has waited for it. -/
theorem Node.answer_eq (sid : SessionId) (pub : Bytes) (id : ℕ) (a : Except Code TrackParams)
    (cs : List Call) : Node.answer sid pub id a cs = cs ∨
      ∃ l₁ c l₂, cs = l₁ ++ c :: l₂ ∧ c.pub = pub ∧ c.phase = .subscribing none ∧
        Node.answer sid pub id a cs = l₁ ++ { c with phase := .subscribing (some a) } :: l₂ := by
  induction cs with
  | nil => exact .inl rfl
  | cons c cs ih =>
    unfold answer
    split_ifs with hid
    · split
      next hphase => exact .inr ⟨[], c, cs, rfl, hid.2.1, hphase, rfl⟩
      next => exact .inl rfl
    · rcases ih with heq | ⟨l₁, d, l₂, rfl, hpub, hphase, heq⟩
      · exact .inl (congrArg (c :: ·) heq)
      · exact .inr ⟨c :: l₁, d, l₂, rfl, hpub, hphase, congrArg (c :: ·) heq⟩

/-- Two session ids. -/
def sessionA : SessionId := ⟨List.replicate 16 1, by simp⟩

def sessionB : SessionId := ⟨List.replicate 16 2, by simp⟩

/-- Parameters of a track. -/
def camera : TrackParams := ⟨"bob", "video", "video/VP8", 90000, 0, 96, 1⟩

/-! ## Changing one session -/

namespace Node

/-- The session that the calls of this node use. -/
def current (n : Node) : Option MediaSession := n.byNode.bind fun sid => n.bySID.lookup sid

theorem onSession_eq (n : Node) (sid : SessionId) (f : MediaSession → MediaSession) :
    ∃ b, n.onSession sid f = { n with bySID := b } ∧
      ∀ j, b.lookup j = if j = sid then (n.bySID.lookup sid).map f else n.bySID.lookup j := by
  unfold onSession
  cases h : n.bySID.lookup sid with
  | none =>
    refine ⟨n.bySID, rfl, fun j => ?_⟩
    split_ifs with hj
    · rw [hj, h]
      rfl
    · rfl
  | some m =>
    exact ⟨n.bySID.insert sid (f m), rfl, fun j => GoMap.lookup_insert_eq n.bySID sid j (f m)⟩

section

variable (n : Node) (sid : SessionId) (f : MediaSession → MediaSession)

theorem onSession_lookup (j : SessionId) : (n.onSession sid f).bySID.lookup j =
    if j = sid then (n.bySID.lookup sid).map f else n.bySID.lookup j := by
  obtain ⟨b, hb, hlookup⟩ := n.onSession_eq sid f
  rw [hb]
  exact hlookup j

@[simp] theorem onSession_byNode : (n.onSession sid f).byNode = n.byNode := by
  obtain ⟨b, hb, -⟩ := n.onSession_eq sid f
  rw [hb]

@[simp] theorem onSession_calls : (n.onSession sid f).calls = n.calls := by
  obtain ⟨b, hb, -⟩ := n.onSession_eq sid f
  rw [hb]

@[simp] theorem onSession_last : (n.onSession sid f).last = n.last := by
  obtain ⟨b, hb, -⟩ := n.onSession_eq sid f
  rw [hb]

@[simp] theorem onSession_publications : (n.onSession sid f).publications = n.publications := by
  obtain ⟨b, hb, -⟩ := n.onSession_eq sid f
  rw [hb]

@[simp] theorem onSession_ended : (n.onSession sid f).ended = n.ended := by
  obtain ⟨b, hb, -⟩ := n.onSession_eq sid f
  rw [hb]

theorem onSession_current : (n.onSession sid f).current =
    if n.byNode = some sid then n.current.map f else n.current := by
  unfold current
  rw [onSession_byNode]
  cases n.byNode with
  | none => rfl
  | some j =>
    simp only [Option.bind_some, onSession_lookup, Option.some.injEq]
    split_ifs with hj
    · rw [hj]
    · rfl

end

/-- Every `media.session.open` is answered. -/
theorem onSessionOpen_sent (n : Node) (sid : SessionId) (roomID : String) :
    (n.onSessionOpen sid roomID).2 = [.sessionAccept sid] := by
  unfold onSessionOpen
  split <;> rfl

end Node

end PulseRTC.Media.Bridge
