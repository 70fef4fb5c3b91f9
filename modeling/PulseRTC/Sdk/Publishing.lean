import PulseRTC.Sdk.Participants

/-!
# The local participant

What the client publishes: the camera and the microphone, whose stream it keeps across
reconnects, and the screen, which is a lane of its own. A track is published by adding it to the
peer connection; the `publication_added` echo of the server then names the publication and settles
the promise that waits for it. An echo that comes before its track waits in `pendingPubs`.

Sockets are numbered in the order in which they are created. A peer connection belongs to the
session of the socket whose `welcome` has made it, and a publication to that of the socket on which
it was announced; these numbers are notes of the model, as is the list of the sessions that a frame
speaks of.

* A call that throws keeps what it has done before, and says so with a `Bool`.
-/

namespace PulseRTC.Sdk

open Foundations

/-! ## Frames -/

/-- The session that a join resumes. -/
structure Resume where
  sessionId : String
  generation : ℕ
  deriving DecidableEq

inductive ClientMessage
  | join (roomId : String) (resume : Option Resume)
  | sfuOffer (sdp : String)
  | sfuAnswer (sdp : String)
  | sfuIceCandidate (candidate : String)
  | unpublish (publicationId : String)
  | publish (trackId : String) (kind : Kind) (source : MediaSource)
  | setMute (publicationId : String) (muted : Bool) (kind : Kind)
  | qualityReport
  deriving DecidableEq

def ClientMessage.isJoin : ClientMessage → Bool
  | .join .. => true
  | _ => false

/-- A message, and the sessions whose publications, candidates or descriptions it carries. -/
structure Frame where
  msg : ClientMessage
  sessions : List ℕ
  deriving DecidableEq

/-! ## Peer connections -/

/-- An `RTCPeerConnection`; each sender has its track until that is removed. -/
structure PeerConnection where
  session : ℕ
  closed : Bool := false
  senders : List (Option Track) := []
  deriving DecidableEq

/-- An `RTCRtpSender`: its peer connection and its place there. -/
structure Sender where
  pc : ℕ
  index : ℕ
  deriving DecidableEq

/-- `Negotiator`: all peer connections, and the number of its own. -/
structure Negotiator where
  pcs : List PeerConnection := []
  pc : Option ℕ := none
  deriving DecidableEq

namespace Negotiator

/-- Close a peer connection. -/
def closePc (n : Negotiator) (i : ℕ) : Negotiator :=
  { n with pcs := n.pcs.modify i fun pc => { pc with closed := true } }

/-- `this._pc?.close()`. -/
def closeOwn (n : Negotiator) : Negotiator :=
  match n.pc with
  | none => n
  | some i => n.closePc i

/-- `create`, for the `welcome` of a socket. If the factory throws, the closed one stays. -/
def create (n : Negotiator) (session : ℕ) (fails : Bool) : Negotiator :=
  let n := n.closeOwn
  if fails then n
  else { pcs := n.pcs ++ [{ session := session }], pc := some n.pcs.length }

def close (n : Negotiator) : Negotiator := { n.closeOwn with pc := none }

/-- The peer connection, if it is there and open. -/
def live (n : Negotiator) : Option (ℕ × PeerConnection) :=
  n.pc.bind fun i => (n.pcs[i]?).bind fun pc => if pc.closed then none else some (i, pc)

/-- `addLocalTrack`; it throws without a live peer connection, and for a track that has a sender. -/
def addLocalTrack (n : Negotiator) (track : Track) : Option (Sender × Negotiator) :=
  n.live.bind fun (i, pc) =>
    if some track ∈ pc.senders then none
    else some (⟨i, pc.senders.length⟩,
      { n with pcs := n.pcs.set i { pc with senders := pc.senders ++ [some track] } })

/-- `removeLocalTrack`, where a caller ignores what it throws. -/
def removeLocalTrack (n : Negotiator) (sender : Sender) : Negotiator :=
  match n.live with
  | none => n
  | some (i, pc) =>
    if sender.pc = i then
      { n with pcs := n.pcs.set i { pc with senders := pc.senders.set sender.index none } }
    else n

end Negotiator

/-! ## The participant -/

/-- A `MediaStream`, by its first tracks. -/
structure Stream where
  audio : Option Track := none
  video : Option Track := none
  deriving DecidableEq

def Stream.first (s : Stream) : Kind → Option Track
  | .audio => s.audio
  | .video => s.video

def Stream.tracks (s : Stream) : List Track := s.audio.toList ++ s.video.toList

/-- `LocalPublication`; its id is its key. -/
structure LocalPublication where
  kind : Kind
  source : MediaSource
  track : Track
  muted : Bool := false
  session : ℕ
  deriving DecidableEq

/-- An echo that waits for its track: the publication, and the socket that has announced it. -/
structure Echo where
  publicationId : String
  session : ℕ
  deriving DecidableEq

/-- The lane of a screen share. -/
structure Screen where
  video : Track
  audio : Option Track
  videoSender : Option Sender := none
  audioSender : Option Sender := none
  videoPub : Option Echo := none
  audioPub : Option Echo := none
  waiter : Option ℕ := none
  deriving DecidableEq

/-- `LocalParticipant`. Promises are numbered, and `settled` says which were resolved or
rejected. -/
structure LocalParticipant where
  identity : String := ""
  name : Option String := none
  publications : JsMap String LocalPublication := ∅
  wired : Bool := false
  stream : Option Stream := none
  senders : Kind → Option Sender := fun _ => none
  waiters : Kind → Option ℕ := fun _ => none
  pendingPubs : Kind → Option Echo := fun _ => none
  denied : Bool := false
  screen : Option Screen := none
  pendingScreenPubs : Kind → Option Echo := fun _ => none
  promises : ℕ := 0
  settled : List (ℕ × Bool) := []

namespace LocalParticipant

/-- Settle a promise, if there is one. -/
def settle (p : LocalParticipant) (waiter : Option ℕ) (ok : Bool) : LocalParticipant :=
  match waiter with
  | none => p
  | some w => { p with settled := p.settled ++ [(w, ok)] }

def flushPub (p : LocalParticipant) (kind : Kind) : LocalParticipant :=
  match p.pendingPubs kind, p.stream.bind (·.first kind) with
  | some echo, some track =>
    let p := p.settle (p.waiters kind) true
    { p with
      publications := p.publications.set echo.publicationId
        { kind := kind, source := defaultSource kind, track := track, session := echo.session }
      pendingPubs := Function.update p.pendingPubs kind none
      waiters := Function.update p.waiters kind none }
  | _, _ => p

def waitFor (p : LocalParticipant) (kind : Kind) : LocalParticipant :=
  { p with waiters := Function.update p.waiters kind (some p.promises), promises := p.promises + 1 }

/-- `_onPublicationAdded`, for an echo on the socket `session`. -/
def onPublicationAdded (p : LocalParticipant) (kind : Kind) (publicationId : String)
    (session : ℕ) : LocalParticipant :=
  flushPub { p with
    pendingPubs := Function.update p.pendingPubs kind (some ⟨publicationId, session⟩) } kind

/-- The part of `flushScreenPub` for the video track. -/
def flushScreenVideo (p : LocalParticipant) (sc : Screen) : LocalParticipant × Screen :=
  match p.pendingScreenPubs .video, sc.videoPub with
  | some echo, none =>
    let p := p.settle sc.waiter true
    ({ p with
      publications := p.publications.set echo.publicationId
        { kind := .video, source := .screen, track := sc.video, session := echo.session }
      pendingScreenPubs := Function.update p.pendingScreenPubs .video none },
      { sc with videoPub := some echo, waiter := none })
  | _, _ => (p, sc)

/-- The part of `flushScreenPub` for the audio track. -/
def flushScreenAudio (p : LocalParticipant) (sc : Screen) : LocalParticipant :=
  match p.pendingScreenPubs .audio, sc.audio, sc.audioPub with
  | some echo, some track, none =>
    { p with
      publications := p.publications.set echo.publicationId
        { kind := .audio, source := .screen, track := track, session := echo.session }
      pendingScreenPubs := Function.update p.pendingScreenPubs .audio none
      screen := some { sc with audioPub := some echo } }
  | _, _, _ => { p with screen := some sc }

def flushScreenPub (p : LocalParticipant) : LocalParticipant :=
  match p.screen with
  | none => p
  | some sc => (p.flushScreenVideo sc).1.flushScreenAudio (p.flushScreenVideo sc).2

def onScreenPublicationAdded (p : LocalParticipant) (publicationId : String) (kind : Kind)
    (session : ℕ) : LocalParticipant :=
  flushScreenPub { p with
    pendingScreenPubs := Function.update p.pendingScreenPubs kind (some ⟨publicationId, session⟩) }

def onPublicationMuted (p : LocalParticipant) (publicationId : String) (muted : Bool) :
    LocalParticipant :=
  match p.publications.lookup publicationId with
  | none => p
  | some pub =>
    { p with publications := p.publications.set publicationId { pub with muted := muted } }

/-- The frames with which `_teardownScreen` takes the publications of a screen back. -/
def Screen.unpublishes (sc : Screen) : List Frame :=
  (sc.videoPub.toList ++ sc.audioPub.toList).map fun echo =>
    ⟨.unpublish echo.publicationId, [echo.session]⟩

/-- `_teardownScreen`, without its frames. -/
def teardownScreen (p : LocalParticipant) (n : Negotiator) : LocalParticipant × Negotiator :=
  match p.screen with
  | none => ({ p with pendingScreenPubs := fun _ => none }, n)
  | some sc =>
    let p := p.settle sc.waiter false
    ({ p with
      pendingScreenPubs := fun _ => none
      screen := none
      publications := (sc.videoPub.toList ++ sc.audioPub.toList).foldl
        (fun m echo => m.erase echo.publicationId) p.publications },
      (sc.videoSender.toList ++ sc.audioSender.toList).foldl Negotiator.removeLocalTrack n)

def resetForReconnect (p : LocalParticipant) (n : Negotiator) : LocalParticipant × Negotiator :=
  teardownScreen
    { p with
      publications := ∅
      senders := fun _ => none
      waiters := fun _ => none
      pendingPubs := fun _ => none
      denied := false } n

def onPublicationRemoved (p : LocalParticipant) (publicationId : String) (n : Negotiator) :
    LocalParticipant × Negotiator :=
  let p := { p with publications := p.publications.erase publicationId }
  match p.screen with
  | none => (p, n)
  | some sc =>
    if publicationId ∈ (sc.videoPub.toList ++ sc.audioPub.toList).map (·.publicationId) then
      p.teardownScreen n
    else (p, n)

def onPublishDenied (p : LocalParticipant) (n : Negotiator) : LocalParticipant × Negotiator :=
  let p := (p.settle (p.waiters .audio) false).settle (p.waiters .video) false
  let p := { p with denied := true, waiters := fun _ => none }
  match p.screen.bind Screen.waiter with
  | none => (p, n)
  | some _ => p.teardownScreen n

/-- Publish one track of the stream; `true` if `addLocalTrack` throws. -/
def addTrack (kind : Kind) (p : LocalParticipant) (n : Negotiator) :
    LocalParticipant × Negotiator × Bool :=
  match p.stream.bind (·.first kind) with
  | none => (p, n, false)
  | some track =>
    match n.addLocalTrack track with
    | none => (p, n, true)
    | some (sender, n) =>
      (flushPub (waitFor { p with senders := Function.update p.senders kind (some sender) } kind)
        kind, n, false)

/-- Publish the tracks of the stream, the audio track first; `true` if one throws. -/
def addTracks (p : LocalParticipant) (n : Negotiator) : LocalParticipant × Negotiator × Bool :=
  let (p, n, threw) := p.addTrack .audio n
  if threw then (p, n, true) else p.addTrack .video n

/-- What `enableCameraAndMicrophone` does with the stream that `getUserMedia` has returned. -/
def onUserMedia (p : LocalParticipant) (n : Negotiator) (stream : Stream) :
    LocalParticipant × Negotiator :=
  let (p, n, threw) := addTracks { p with stream := some stream } n
  if !threw && p.denied then p.onPublishDenied n else (p, n)

/-- `setKind`: the publications of the kind that are not of a screen, and the frames. -/
def setKind (p : LocalParticipant) (kind : Kind) (enabled : Bool) :
    LocalParticipant × List Frame :=
  match p.stream.bind (·.first kind) with
  | none => (p, [])
  | some _ =>
    ({ p with
      publications := p.publications.map fun _ pub =>
        if pub.kind = kind ∧ pub.source ≠ .screen then { pub with muted := !enabled } else pub },
      (p.publications.entries.filter fun e => e.2.kind = kind ∧ e.2.source ≠ .screen).map
        fun e => ⟨.setMute e.1 (!enabled) kind, [e.2.session]⟩)

/-- The frames with which `startScreenShare` declares its tracks, on the socket `session`. -/
def declares (video : Track) (audio : Option Track) (session : List ℕ) : List Frame :=
  ⟨.publish video.id .video .screen, session⟩ ::
    audio.toList.map fun t => ⟨.publish t.id .audio .screen, session⟩

/-- What `startScreenShare` does with the capture that `getDisplayMedia` has returned, after the
frames. -/
def onDisplayMedia (p : LocalParticipant) (n : Negotiator) (video : Track) (audio : Option Track) :
    LocalParticipant × Negotiator :=
  let sc : Screen := { video := video, audio := audio }
  match n.addLocalTrack video with
  | none => teardownScreen { p with screen := some sc } n
  | some (videoSender, n) =>
    let sc := { sc with videoSender := some videoSender }
    let added := audio.map n.addLocalTrack
    match added with
    | some none => teardownScreen { p with screen := some sc } n
    | some (some (audioSender, n)) =>
      (flushScreenPub { p with
        screen := some { sc with audioSender := some audioSender, waiter := some p.promises }
        promises := p.promises + 1 }, n)
    | none =>
      (flushScreenPub { p with
        screen := some { sc with waiter := some p.promises }
        promises := p.promises + 1 }, n)

/-! ## What stays -/

/-- Nothing that a participant does changes its identity, and only a capture changes its stream. -/
structure Same (p q : LocalParticipant) : Prop where
  identity : q.identity = p.identity
  stream : q.stream = p.stream

protected theorem Same.refl (p : LocalParticipant) : Same p p := ⟨rfl, rfl⟩

theorem Same.trans {p q u : LocalParticipant} (h : Same p q) (h' : Same q u) : Same p u :=
  ⟨h'.identity.trans h.identity, h'.stream.trans h.stream⟩

theorem Same.of_eq {p q u : LocalParticipant} (h : Same q u) (hid : q.identity = p.identity)
    (hstream : q.stream = p.stream) : Same p u :=
  ⟨h.identity.trans hid, h.stream.trans hstream⟩

variable (p : LocalParticipant) (n : Negotiator)

theorem same_settle (waiter : Option ℕ) (ok : Bool) : Same p (p.settle waiter ok) := by
  unfold settle
  split <;> exact ⟨rfl, rfl⟩

theorem same_flushPub (kind : Kind) : Same p (p.flushPub kind) := by
  unfold flushPub
  split
  · have h := p.same_settle (p.waiters kind) true
    exact ⟨h.identity, h.stream⟩
  · exact .refl p

theorem same_onPublicationAdded (kind : Kind) (publicationId : String) (session : ℕ) :
    Same p (p.onPublicationAdded kind publicationId session) :=
  (same_flushPub _ kind).of_eq rfl rfl

theorem same_flushScreenVideo (sc : Screen) : Same p (p.flushScreenVideo sc).1 := by
  have h := p.same_settle sc.waiter true
  unfold flushScreenVideo
  split
  · exact ⟨h.identity, h.stream⟩
  · exact .refl p

theorem same_flushScreenAudio (sc : Screen) : Same p (p.flushScreenAudio sc) := by
  unfold flushScreenAudio
  split <;> exact ⟨rfl, rfl⟩

theorem same_flushScreenPub : Same p p.flushScreenPub := by
  unfold flushScreenPub
  split
  · exact .refl p
  · exact (p.same_flushScreenVideo _).trans (same_flushScreenAudio _ _)

theorem same_onScreenPublicationAdded (publicationId : String) (kind : Kind) (session : ℕ) :
    Same p (p.onScreenPublicationAdded publicationId kind session) :=
  (same_flushScreenPub _).of_eq rfl rfl

theorem same_onPublicationMuted (publicationId : String) (muted : Bool) :
    Same p (p.onPublicationMuted publicationId muted) := by
  unfold onPublicationMuted
  split <;> exact ⟨rfl, rfl⟩

theorem same_teardownScreen : Same p (p.teardownScreen n).1 := by
  unfold teardownScreen
  split
  · exact ⟨rfl, rfl⟩
  · next sc _ =>
    have h := p.same_settle sc.waiter false
    exact ⟨h.identity, h.stream⟩

theorem same_resetForReconnect : Same p (p.resetForReconnect n).1 :=
  (same_teardownScreen _ n).of_eq rfl rfl

theorem same_onPublicationRemoved (publicationId : String) :
    Same p (p.onPublicationRemoved publicationId n).1 := by
  unfold onPublicationRemoved
  dsimp only
  split
  · exact ⟨rfl, rfl⟩
  · split_ifs
    · exact (same_teardownScreen _ n).of_eq rfl rfl
    · exact ⟨rfl, rfl⟩

theorem same_onPublishDenied : Same p (p.onPublishDenied n).1 := by
  have h := (p.same_settle (p.waiters .audio) false).trans (same_settle _ (p.waiters .video) false)
  unfold onPublishDenied
  dsimp only
  split
  · exact ⟨h.identity, h.stream⟩
  · exact (same_teardownScreen _ n).of_eq h.identity h.stream

theorem same_addTrack (kind : Kind) : Same p (p.addTrack kind n).1 := by
  unfold addTrack
  split
  · exact .refl p
  · split
    · exact .refl p
    · exact (same_flushPub _ kind).of_eq rfl rfl

theorem same_addTracks : Same p (p.addTracks n).1 := by
  have h := p.same_addTrack n .audio
  unfold addTracks
  dsimp only
  split_ifs
  · exact h
  · exact h.trans (same_addTrack _ _ .video)

theorem same_onUserMedia (stream : Stream) :
    Same { p with stream := some stream } (p.onUserMedia n stream).1 := by
  have h := same_addTracks { p with stream := some stream } n
  unfold onUserMedia
  dsimp only
  split_ifs
  · exact h.trans (same_onPublishDenied _ _)
  · exact h

theorem same_setKind (kind : Kind) (enabled : Bool) : Same p (p.setKind kind enabled).1 := by
  unfold setKind
  split <;> exact ⟨rfl, rfl⟩

theorem same_onDisplayMedia (video : Track) (audio : Option Track) :
    Same p (p.onDisplayMedia n video audio).1 := by
  unfold onDisplayMedia
  dsimp only
  split
  · exact (same_teardownScreen _ _).of_eq rfl rfl
  · split
    · exact (same_teardownScreen _ _).of_eq rfl rfl
    all_goals
      dsimp only
      exact (same_flushScreenPub _).of_eq rfl rfl

end LocalParticipant

end PulseRTC.Sdk
