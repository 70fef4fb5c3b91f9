import PulseRTC.Sdk.Room

/-!
# The state of the connection

What a room knows of its connection is little: its state, whether it wants to be connected, whether
a `connect()` is pending, whether the close of its socket was reported, whether the reconnect timer
is armed, and how its current socket stands. This is its `Link`, and `link_onClose`, `link_shutDown`
and their like say what the functions of the room do to it. `step_moves` lists what a step can do.

A rejoin that is answered with an error for which `handleError` has no case leaves the room
reconnecting for ever: `reconnecting_proceeds`, `reconnecting_stuck`.
-/

namespace PulseRTC.Sdk

open Foundations List Option

/-! ## Links -/

/-- How a socket stands, and whether a join on it waits for a reply. -/
abbrev Status := ReadyState × Bool

/-- The status after `ws.close`. -/
def Status.closing : Status → Status
  | (.connecting, _) | (.open, _) => (.closing, false)
  | (st, w) => (st, w)

/-- The socket delivers messages, now or once it has opened. -/
@[simp] def Status.live (st : Status) : Bool := st.1 = .connecting || st.1 = .open

theorem not_live_of_closing {o : Option Status} :
    ∀ st ∈ o.map Status.closing, st.live = false := by
  rintro st hst
  obtain ⟨⟨x, w⟩, -, rfl⟩ := map_eq_some_iff.1 hst
  cases x <;> rfl

/-- The status after a join was sent, if the socket is open. -/
@[simp] def Status.join : Status → Status
  | (.open, _) => (.open, true)
  | (st, w) => (st, w)

/-- The connection of a room. -/
structure Link where
  state : ConnectionState
  want : Bool
  connecting : Bool
  reported : Bool
  armed : Bool
  socket : Option Status
  deriving DecidableEq

namespace Link

/-- `failConnect`. -/
def fail (l : Link) : Link :=
  { l with state := .disconnected, want := false, connecting := false }

def onClose (l : Link) : Link :=
  if !l.want then l
  else if l.connecting then l.fail
  else { l with state := .reconnecting, armed := true }

def report (l : Link) : Link := if l.reported then l else ({ l with reported := true }).onClose

/-- `sig.close`. -/
def close (l : Link) : Link := ({ l with socket := l.socket.map Status.closing }).report

/-- `disconnect` and `teardown`. -/
def down (l : Link) : Link where
  state := .disconnected
  want := false
  connecting := false
  reported := true
  armed := false
  socket := l.socket.map Status.closing

/-- `sendJoin`. -/
def join (l : Link) : Link := { l with socket := l.socket.map Status.join }

/-- A reply was handled. -/
def answered (l : Link) : Link := { l with socket := l.socket.map fun st => (st.1, false) }

/-- `onFatal`. -/
def fatal (l : Link) : Link := if l.connecting then l.fail else l

/-- `room_joined`. -/
def joined (l : Link) : Link := { l with state := .connected, connecting := false, armed := false }

/-- A new socket. -/
def dial (l : Link) : Link := { l with reported := false, socket := some (.connecting, false) }

end Link

/-- The step is a turn of `pump`. -/
def Act.isTurn : Act → Bool
  | .handle _ => true
  | _ => false

def Act.isConnect : Act → Bool
  | .connect _ => true
  | _ => false

/-- The room is on another node. -/
def ServerMessage.isRedirect : ServerMessage → Bool
  | .error code _ _ => code = some "ROOM_ON_OTHER_NODE"
  | _ => false

/-- The status of the current socket. -/
def Signaling.status (s : Signaling) : Option Status :=
  s.ws.map fun n => ((s.sockets n).readyState, (s.sockets n).awaiting)

namespace Room

def link (r : Room) : Link :=
  ⟨r.state, r.wantConnected, r.connecting.isSome, r.sig.closeReported, r.reconnector.armed,
    r.sig.status⟩

/-! ## What the functions of a room do to its link -/

variable {frames : List Frame} {rest : List (ℕ × ServerMessage)}

section Functions

variable (r : Room)

@[simp] theorem link_emit (e : Event) : (r.emit e).link = r.link := rfl

@[simp] theorem link_setState (s : ConnectionState) :
    (r.setState s).link = { r.link with state := s } := by
  unfold setState
  split_ifs with h
  · rw [← h]
    rfl
  · rfl

@[simp] theorem link_settleConnect (err : Option SdkError) :
    (r.settleConnect err).link = { r.link with connecting := false } := by
  unfold settleConnect
  split
  · next h => simp [link, h]
  · rfl

@[simp] theorem link_failConnect (err : SdkError) : (r.failConnect err).link = r.link.fail := by
  unfold failConnect
  rw [link_setState]
  have h := r.link_settleConnect (some err)
  simp only [link, Link.mk.injEq] at h
  simp [link, Link.fail, h]

@[simp] theorem link_closeMedia : r.closeMedia.link = r.link := rfl

@[simp] theorem link_arm : r.arm.link = { r.link with armed := true } := rfl

@[simp] theorem link_onClose (code : ℕ) : (r.onClose code).link = r.link.onClose := by
  unfold onClose Link.onClose
  rw [show r.link.want = r.wantConnected from rfl,
    show r.link.connecting = r.connecting.isSome from rfl]
  split_ifs
  · rfl
  · exact r.link_failConnect _
  · rw [link_arm, link_closeMedia, link_setState]
    rfl

@[simp] theorem link_report (code : ℕ) : (r.report code).link = r.link.report := by
  unfold report Link.report
  rw [show r.link.reported = r.sig.closeReported from rfl]
  split_ifs
  · rfl
  · rw [link_onClose]
    rfl

theorem status_onSocket (s : Signaling) (n : ℕ) (f : Socket → Socket) :
    (s.onSocket n f).status = if s.ws = some n then
      some ((f (s.sockets n)).readyState, (f (s.sockets n)).awaiting) else s.status := by
  unfold Signaling.status Signaling.onSocket
  cases hws : s.ws with
  | none => simp
  | some k =>
    by_cases hk : k = n
    · simp [hk]
    · simp [hk]

theorem status_close (s : Signaling) : s.close.status = s.status.map Status.closing := by
  unfold Signaling.close
  dsimp only
  split
  · next hws => simp [Signaling.status, hws]
  · next n hws =>
    rw [status_onSocket]
    simp only [Signaling.status, hws]
    unfold Signaling.closeSocket Status.closing
    cases hst : (s.sockets n).readyState <;> simp [hst]

@[simp] theorem link_closeSignaling : r.closeSignaling.link = r.link.close := by
  unfold closeSignaling
  rw [link_report]
  have hclose : ({ r with sig := r.sig.close } : Room).link =
      { r.link with socket := r.link.socket.map Status.closing } := by
    simp only [link, status_close]
    unfold Signaling.close
    dsimp only
    split <;> rfl
  rw [hclose]
  rfl

@[simp] theorem link_resetSession : r.resetSession.link = r.link := rfl

/-- A room that does not want to be connected takes no notice of the close. -/
theorem Link.close_of_not_want {l : Link} (h : l.want = false) :
    l.close = { l with reported := true, socket := l.socket.map Status.closing } := by
  unfold Link.close Link.report Link.onClose
  split_ifs with hr hw hc
  · rw [← hr]
  · rfl
  · simp [h] at hw
  · simp [h] at hw

/-- A room that is sent to another node is reconnecting, whether it wants to be connected or not. -/
theorem Link.redirect_eq {l : Link} (h : l.connecting = false) :
    ({ { l.close with state := .reconnecting } with armed := true } : Link) =
      { l with
        state := .reconnecting, armed := true, reported := true
        socket := l.socket.map Status.closing } := by
  unfold Link.close Link.report Link.onClose
  rw [h]
  split_ifs with hr hw hc
  · rw [← hr]
  · rfl
  · exact absurd hc (by decide)
  · rfl

@[simp] theorem link_shutDown (err : SdkError) (reason : DisconnectReason) :
    (r.shutDown err reason).link = r.link.down := by
  unfold shutDown
  rw [link_emit, link_setState, link_resetSession, link_settleConnect, link_closeMedia,
    link_closeSignaling, Link.close_of_not_want rfl]
  rfl

@[simp] theorem link_disconnect : r.disconnect.link = r.link.down := r.link_shutDown _ _

@[simp] theorem link_teardown (reason : DisconnectReason) :
    (r.teardown reason).link = r.link.down :=
  r.link_shutDown _ _

variable {frame : Frame}

theorem status_transmit (s : Signaling) (n : ℕ) (h : frame.msg.isJoin = false) :
    (s.transmit n frame).status = s.status := by
  unfold Signaling.transmit
  rw [status_onSocket]
  split_ifs with hws
  · simp [Signaling.status, hws, h]
  · rfl

theorem status_send (s : Signaling) (h : frame.msg.isJoin = false) :
    (s.send frame).status = s.status := by
  unfold Signaling.send
  split
  · split_ifs
    · exact status_transmit s _ h
    · rfl
  · rfl

theorem send_flags (s : Signaling) (frame : Frame) :
    (s.send frame).closeReported = s.closeReported ∧ (s.send frame).ws = s.ws := by
  unfold Signaling.send
  split
  · split_ifs <;> exact ⟨rfl, rfl⟩
  · exact ⟨rfl, rfl⟩

theorem link_send (h : frame.msg.isJoin = false) :
    (r.send frame).link = r.link := by
  simp only [link, send, status_send r.sig h, (send_flags r.sig frame).1]

theorem status_join (s : Signaling) (h : frame.msg.isJoin = true) :
    (s.send frame).status = s.status.map Status.join := by
  unfold Signaling.send
  split
  · next n hws =>
    split_ifs with hopen
    · unfold Signaling.transmit
      rw [status_onSocket]
      simp [Signaling.status, hws, hopen, h]
    · simp only [Signaling.status, hws, map_some, some.injEq]
      unfold Status.join
      split
      · next heq => exact absurd (congrArg Prod.fst heq) hopen
      · next heq => exact heq
  · next hws => simp [Signaling.status, hws]

@[simp] theorem link_sendJoin : r.sendJoin.link = r.link.join := by
  have hstatus : (r.sig.send ⟨.join r.roomId r.resume, r.sig.ws.toList⟩).status =
      r.sig.status.map Status.join := status_join r.sig rfl
  unfold sendJoin
  simp only [link, send, hstatus, send_flags]
  rfl

theorem link_sendAll (h : ∀ frame ∈ frames, frame.msg.isJoin = false) :
    (r.sendAll frames).link = r.link := by
  unfold sendAll
  induction frames generalizing r with
  | nil => rfl
  | cons frame frames ih =>
    rw [foldl_cons, ih (r.send frame) fun f hf => h f (mem_cons_of_mem _ hf),
      r.link_send (h frame mem_cons_self)]

@[simp] theorem link_onFatal (err : SdkError) : (r.onFatal err).link = r.link.fatal := by
  unfold onFatal Link.fatal
  rw [show r.link.connecting = r.connecting.isSome from rfl]
  split_ifs
  · exact r.link_failConnect err
  · rfl

@[simp] theorem link_republish : r.republish.link = r.link := by
  unfold republish
  split <;> rfl

@[simp] theorem link_tick : r.tick.link = r.link := by
  unfold tick
  split <;> rfl

@[simp] theorem link_startQoE : r.startQoE.link = r.link := by
  unfold startQoE
  split_ifs
  · exact link_tick _
  · rfl

@[simp] theorem link_onRoomJoined (m : RoomJoined) : (r.onRoomJoined m).link = r.link.joined := by
  unfold onRoomJoined
  rw [link_startQoE]
  have hlink : (((r.enter m).setState .connected).settleConnect none).link = r.link.joined := by
    rw [link_settleConnect, link_setState]
    rfl
  split_ifs
  · rw [link_republish, hlink]
  · exact hlink

@[simp] theorem link_greet (participantId : String) (name : Option String) :
    (r.greet participantId name).link = r.link := by
  unfold greet
  split_ifs <;> rfl

theorem link_onWelcome (n : ℕ) (participantId : String) (name : Option String) (fails : Bool) :
    (r.onWelcome n participantId name fails).link = if fails then r.link.fatal else r.link := by
  unfold onWelcome
  have hlink : ((({ r with store := r.store.applyWelcome participantId } : Room).greet
      participantId name).createPc n fails).link = r.link := link_greet _ _ _
  split_ifs
  · rw [link_onFatal, hlink]
  · exact hlink

@[simp] theorem link_onOwnPublication (n : ℕ) (m : PublicationEvent) :
    (r.onOwnPublication n m).link = r.link := by
  unfold onOwnPublication
  split <;> rfl

@[simp] theorem link_onPublication (n : ℕ) (m : PublicationEvent) :
    (r.onPublication n m).link = r.link := by
  unfold onPublication
  split_ifs
  · exact r.link_onOwnPublication n m
  · rfl

theorem link_take (n : ℕ) (m : ServerMessage) (rest : List (ℕ × ServerMessage)) :
    (r.take n m rest).link =
      if m.isReply ∧ r.sig.ws = some n then r.link.answered else r.link := by
  by_cases hreply : m.isReply = true
  · have htake : (r.take n m rest).link =
        { r.link with
          socket := (r.sig.onSocket n fun x => { x with awaiting := false }).status } := by
      simp only [take, hreply]
      rfl
    rw [htake, status_onSocket]
    by_cases hws : r.sig.ws = some n
    · rw [if_pos hws, if_pos ⟨hreply, hws⟩]
      simp [link, Link.answered, Signaling.status, hws]
    · rw [if_neg hws, if_neg fun h => hws h.2]
      rfl
  · simp [link, take, hreply]

theorem status_flush (s : Signaling) (n : ℕ) (frames : List Frame) :
    (frames.foldl (fun s frame => s.transmit n frame) s).ws = s.ws ∧
      (frames.foldl (fun s frame => s.transmit n frame) s).closeReported = s.closeReported ∧
      ∀ k, ((frames.foldl (fun s frame => s.transmit n frame) s).sockets k).readyState =
          (s.sockets k).readyState ∧
        (k ≠ n → (frames.foldl (fun s frame => s.transmit n frame) s).sockets k = s.sockets k) := by
  induction frames generalizing s with
  | nil => exact ⟨rfl, rfl, fun _ => ⟨rfl, fun _ => rfl⟩⟩
  | cons frame frames ih =>
    obtain ⟨hws, hrep, hsock⟩ := ih (s.transmit n frame)
    refine ⟨hws, hrep, fun k => ?_⟩
    have hst : ((s.transmit n frame).sockets k).readyState = (s.sockets k).readyState := by
      by_cases hk : k = n
      all_goals simp [Signaling.transmit, Signaling.onSocket, hk]
    refine ⟨(hsock k).1.trans hst, fun hk => ((hsock k).2 hk).trans ?_⟩
    exact Function.update_of_ne hk _ _

theorem link_onopen (n : ℕ) :
    ∃ w, ({ r with sig := r.sig.onopen n } : Room).link =
      if r.sig.ws = some n then { r.link with socket := some (.open, w) } else r.link := by
  obtain ⟨hws, hrep, hsock⟩ := status_flush
    { r.sig.onSocket n (fun x => { x with readyState := .open }) with queue := [] } n r.sig.queue
  refine ⟨((r.sig.onopen n).sockets n).awaiting, ?_⟩
  have hlink : ({ r with sig := r.sig.onopen n } : Room).link =
      { r.link with socket := (r.sig.onopen n).status } := by
    simp only [link, Link.mk.injEq, and_true, true_and]
    exact hrep
  rw [hlink]
  split_ifs with hn
  · have hopen : ((r.sig.onopen n).sockets n).readyState = .open :=
      (hsock n).1.trans (by simp [Signaling.onSocket])
    have hws' : (r.sig.onopen n).ws = some n := hws.trans hn
    rw [Signaling.status, hws', map_some, hopen]
  · have hstatus : (r.sig.onopen n).status = r.sig.status := by
      have hws' : (r.sig.onopen n).ws = r.sig.ws := hws
      unfold Signaling.status
      rw [hws']
      cases hcur : r.sig.ws with
      | none => rfl
      | some k =>
        have hk : k ≠ n := fun h => hn (h ▸ hcur)
        have hsame : (r.sig.onopen n).sockets k = r.sig.sockets k :=
          ((hsock k).2 hk).trans (Function.update_of_ne hk _ _)
        rw [map_some, map_some, hsame]
    rw [hstatus]
    rfl

end Functions

/-! ## What a step does to the link -/

/-- The message that a turn of `pump` handles, and the socket it came on. -/
def next (r : Room) : Act → Option (ℕ × ServerMessage)
  | .handle _ => r.pending.head?
  | _ => none

/-- A handler fails, or the server answers with an error. -/
def fails (r : Room) : Act → Bool
  | .handle fails => r.pending.head?.any fun x =>
    match x.2 with
    | .welcome .. => fails
    | .error .. => true
    | _ => false
  | .settle _ err | .republished err => err.isSome
  | _ => false

/-- The close of the current socket is reported: it is lost, or the room is sent to another
node. -/
def closes (r : Room) : Act → Bool
  | .close n _ => r.sig.ws = some n ∧ r.sig.closeReported = false
  | .handle _ => r.pending.head?.any fun x => x.2.isRedirect
  | _ => false

/-- What a step can make of the link of a room, with the messages that wait then. What becomes of
the socket is left open where the room does not look at it any more. -/
inductive Moves (r : Room) (a : Act) (pending : List (ℕ × ServerMessage)) : Link → Prop
  | quiet : Moves r a pending r.link
  /-- A socket that is not the current one opens. -/
  | join : Moves r a pending r.link.join
  | connect (ha : a.isConnect = true) :
    Moves r a pending ({ r.link with state := .connecting, want := true, connecting := true }).dial
  | down (socket : Option Status) (hsocket : ∀ st ∈ socket, st.live = false)
    (hpending : pending = []) : Moves r a pending { r.link.down with socket := socket }
  | opened (w : Bool) (h : r.link.socket = some (.connecting, w)) :
    Moves r a pending { r.link with socket := some (.open, true) }
  | closed (h : r.link.socket.isSome) (hcloses : r.link.reported = false → r.closes a = true) :
    Moves r a pending ({ r.link with socket := some (.closed, false) }).report
  | timer (h : r.link.armed = true) : Moves r a pending ({ r.link with armed := false }).dial
  | failed (socket : Option Status) (h : r.link.connecting = true) (hfails : r.fails a = true) :
    Moves r a pending { r.link.fail with socket := socket }
  | joined {n : ℕ} {m : RoomJoined} (socket : Option Status)
    (h : r.next a = some (n, .roomJoined m)) :
    Moves r a pending { r.link.joined with socket := socket }
  | stale {n : ℕ} (h : r.next a = some (n, .session .stale)) :
    Moves r a pending (if r.sig.ws = some n then r.link.answered else r.link).join
  | redirected {n : ℕ} {message nodeId : Option String} (socket : Option Status)
    (h : r.next a = some (n, .error (some "ROOM_ON_OTHER_NODE") message nodeId))
    (hconn : r.link.connecting = false) (hsocket : ∀ st ∈ socket, st.live = false) :
    Moves r a pending { r.link with
      state := .reconnecting, armed := true, reported := true, socket := socket }
  | unanswered {n : ℕ} {code message nodeId : Option String}
    (h : r.next a = some (n, .error code message nodeId)) (hconn : r.link.connecting = false)
    (hexpired : code ≠ some "EXPIRED_TOKEN") (hother : code ≠ some "ROOM_ON_OTHER_NODE") :
    Moves r a pending (if r.sig.ws = some n then r.link.answered else r.link)

variable {r r' : Room} {a : Act} {pending : List (ℕ × ServerMessage)}

/-- The error that a handler throws fails the pending `connect()`, or is only reported. -/
theorem Moves.fatal {l : Link} (h : l = r.link.fatal) (hfails : r.fails a = true) :
    Moves r a pending l := by
  subst h
  unfold Link.fatal
  split_ifs with hconn
  · exact .failed r.link.socket hconn hfails
  · exact .quiet

theorem pending_shutDown (err : SdkError) (reason : DisconnectReason) :
    (r.shutDown err reason).pending = [] := by
  have hstate (t : Room) : (t.setState .disconnected).pending = t.pending := by
    unfold setState
    split_ifs <;> rfl
  exact hstate _

variable {n : ℕ} {fails : Bool}

/-- What a step does with an error. -/
theorem moves_error {code message nodeId : Option String}
    (hnext : r.next (.handle fails) = some (n, .error code message nodeId)) :
    Moves r (.handle fails)
      ((r.take n (.error code message nodeId) rest).handleError code message nodeId).pending
      ((r.take n (.error code message nodeId) rest).handleError code message nodeId).link := by
  have htake := r.link_take n (.error code message nodeId) rest
  rw [show (ServerMessage.error code message nodeId).isReply = true from rfl] at htake
  simp only [true_and] at htake
  generalize r.take n (.error code message nodeId) rest = t at htake
  have hconn : t.connecting.isSome = r.link.connecting := by
    have := congrArg Link.connecting htake
    split_ifs at this <;> exact this
  have hnot (h : ¬ t.connecting.isSome = true) : r.link.connecting = false := by
    rw [← hconn]
    simpa using h
  unfold handleError
  dsimp only
  split_ifs with h₁ h₂ h₃ h₄
  · rw [link_failConnect]
    have hl : t.link.fail = { r.link.fail with socket := t.link.socket } := by
      rw [htake]
      split_ifs <;> rfl
    rw [hl]
    refine .failed _ (hconn ▸ h₁) ?_
    unfold Room.fails
    rw [show r.pending.head? = _ from hnext]
    rfl
  · rw [link_teardown]
    exact .down _ not_live_of_closing (pending_shutDown ..)
  · rw [link_teardown]
    exact .down _ not_live_of_closing (pending_shutDown ..)
  · rw [link_arm, link_setState, link_closeSignaling]
    subst h₃
    have hlink : ({ { t.link.close with state := .reconnecting } with armed := true } : Link) =
        { r.link with
          state := .reconnecting, armed := true, reported := true
          socket := t.link.socket.map Status.closing } := by
      rw [Link.redirect_eq (hconn.trans (hnot h₁)), htake]
      split_ifs <;> rfl
    exact hlink ▸ .redirected _ hnext (hnot h₁) not_live_of_closing
  · rw [link_emit, htake]
    exact .unanswered hnext (hnot h₁) h₂ h₃

/-- What a turn of `pump` does to the link. -/
theorem handle_moves {m : ServerMessage} (hpending : r.pending = (n, m) :: rest) :
    Moves r (.handle fails) ((r.take n m rest).onMessage n m fails).pending
      ((r.take n m rest).onMessage n m fails).link := by
  have hnext : r.next (.handle fails) = some (n, m) := by simp [next, hpending]
  have htake := r.link_take n m rest
  unfold onMessage
  cases m with
  | welcome id name =>
    rw [link_onWelcome, htake]
    simp only [ServerMessage.isReply, Bool.false_eq_true, false_and, if_false]
    split_ifs with hfails
    · refine .fatal rfl ?_
      unfold Room.fails
      rw [show r.pending.head? = _ from hnext]
      exact hfails
    · exact .quiet
  | roomJoined m =>
    have hl : (r.take n (.roomJoined m) rest).link.joined =
        { r.link.joined with socket := (r.take n (.roomJoined m) rest).link.socket } := by
      rw [htake]
      split_ifs <;> rfl
    rw [link_onRoomJoined]
    exact .joined _ hnext
  | participantLeft id =>
    dsimp only
    split_ifs
    · exact htake ▸ .quiet
    · exact htake ▸ .quiet
  | publication m =>
    rw [link_onPublication]
    exact htake ▸ .quiet
  | session type =>
    cases type with
    | stale =>
      have hl : ({ r.take n (.session .stale) rest with resume := none } : Room).link =
          if r.sig.ws = some n then r.link.answered else r.link := by
        refine htake.trans ?_
        simp [ServerMessage.isReply]
      rw [link_sendJoin, hl]
      exact .stale hnext
    | replaced =>
      rw [link_teardown]
      exact .down _ not_live_of_closing (pending_shutDown ..)
    | recovery | reconnected | recoveryFailed => exact htake ▸ .quiet
  | roomClosed =>
    rw [link_teardown]
    exact .down _ not_live_of_closing (pending_shutDown ..)
  | error code message nodeId => exact moves_error hnext
  | _ => exact htake ▸ .quiet

theorem status_connect (s : Signaling) : s.connect.status = some (.connecting, false) := by
  simp [Signaling.status, Signaling.connect]

theorem link_connect (s : ConnectionState) :
    ({ r.setState s with
      connecting := some (r.setState s).calls, calls := (r.setState s).calls + 1,
      sig := (r.setState s).sig.connect } : Room).link =
      ({ r.link with state := s, connecting := true }).dial := by
  have hlink := r.link_setState s
  simp only [link, Link.mk.injEq] at hlink
  simp only [link, Link.dial, status_connect, Link.mk.injEq]
  exact ⟨hlink.1, hlink.2.1, rfl, rfl, hlink.2.2.2.2.1, trivial⟩

/-- The opening of a socket: the current one waits for a reply then. -/
theorem open_moves (hst : (r.sig.sockets n).readyState = .connecting) :
    Moves r a pending ({ r with sig := r.sig.onopen n } : Room).sendJoin.link := by
  obtain ⟨w, hopen⟩ := r.link_onopen n
  rw [link_sendJoin, hopen]
  split_ifs with hws
  · exact .opened (r.sig.sockets n).awaiting (by simp [link, Signaling.status, hws, hst])
  · exact .join

theorem link_closed (n : ℕ) :
    ({ r with
      sig := r.sig.onSocket n fun x =>
        { x with readyState := .closed, awaiting := false } } : Room).link =
      if r.sig.ws = some n then { r.link with socket := some (.closed, false) } else r.link := by
  unfold link
  rw [status_onSocket]
  split_ifs <;> rfl

theorem react_close {code : ℕ} (h : r.react (.close n code) = some r') (hws : r.sig.ws = some n) :
    r'.link = ({ r.link with socket := some (.closed, false) }).report := by
  unfold react at h
  dsimp only at h
  split_ifs at h with hn hcur
  · cases h
    rw [link_report, link_closed, if_pos hws]
  · exact absurd hws hcur

theorem sendAnswer_link {answer : Option String} (h : r.sendAnswer answer = some r') :
    r'.link = r.link := by
  unfold sendAnswer at h
  split at h
  · exact some.inj h ▸ rfl
  · split at h
    · split_ifs at h
      cases h
      exact link_send _ rfl
    · cases h

theorem capture_link {tracks : List Track} (h : r.capture tracks = some r') :
    r'.link = r.link := by
  unfold capture at h
  split_ifs at h
  exact some.inj h ▸ rfl

/-- Changes that leave the link alone, and then frames that are no joins. -/
theorem quiet_sendAll {t : Room} (ht : t.link = r.link)
    (h : ∀ frame ∈ frames, frame.msg.isJoin = false) :
    Moves r a pending (t.sendAll frames).link := by
  rw [link_sendAll t h, ht]
  exact .quiet

theorem quiet_send {t : Room} {frame : Frame} (ht : t.link = r.link)
    (h : frame.msg.isJoin = false) : Moves r a pending (t.send frame).link := by
  rw [link_send t h, ht]
  exact .quiet

theorem setKind_no_join (p : LocalParticipant) (kind : Kind) (enabled : Bool) :
    ∀ frame ∈ (p.setKind kind enabled).2, frame.msg.isJoin = false := by
  intro frame hframe
  unfold LocalParticipant.setKind at hframe
  split at hframe
  · cases hframe
  · obtain ⟨e, -, rfl⟩ := mem_map.1 hframe
    rfl

theorem declares_no_join (video : Track) (audio : Option Track) (session : List ℕ) :
    ∀ frame ∈ LocalParticipant.declares video audio session, frame.msg.isJoin = false := by
  intro frame hframe
  obtain rfl | hframe := mem_cons.1 hframe
  · rfl
  · obtain ⟨t, -, rfl⟩ := mem_map.1 hframe
    rfl

theorem unpublishes_no_join (screen : Option Screen) :
    ∀ frame ∈ (screen.map LocalParticipant.Screen.unpublishes).getD [],
      frame.msg.isJoin = false := by
  intro frame hframe
  cases screen with
  | none => cases hframe
  | some sc =>
    obtain ⟨echo, -, rfl⟩ := mem_map.1 hframe
    rfl

/-- What a reaction does to the link. -/
theorem react_moves (h : r.react a = some r') : Moves r a r'.pending r'.link := by
  cases a with
  | connect roomId =>
    cases h
    rw [link_connect]
    exact .connect rfl
  | disconnect =>
    cases h
    rw [link_disconnect]
    exact .down _ not_live_of_closing (pending_shutDown ..)
  | «open» n =>
    unfold react at h
    dsimp only at h
    split_ifs at h with hn
    cases h
    exact open_moves hn.2
  | message n m =>
    unfold react at h
    dsimp only at h
    split_ifs at h <;> (obtain rfl := some.inj h; exact .quiet)
  | close n code =>
    by_cases hws : r.sig.ws = some n
    · rw [react_close h hws]
      exact .closed (by simp [link, Signaling.status, hws]) fun hrep =>
        decide_eq_true ⟨hws, hrep⟩
    · unfold react at h
      dsimp only at h
      split_ifs at h with hn hcur
      · exact absurd hcur hws
      · cases h
        rw [link_closed, if_neg hws]
        exact .quiet
  | timer =>
    unfold react at h
    dsimp only at h
    split_ifs at h with harmed
    cases h
    have hl : ({ r with
        reconnector := { r.reconnector with armed := false }, sig := r.sig.connect } : Room).link =
        ({ r.link with armed := false }).dial := by
      simp only [link, status_connect]
      rfl
    rw [hl]
    exact .timer harmed
  | handle fails => cases h
  | settle answer err =>
    unfold react at h
    dsimp only at h
    split_ifs at h
    obtain ⟨t, ht, rfl⟩ := map_eq_some_iff.1 h
    have hlink := sendAnswer_link ht
    cases err with
    | none => exact hlink ▸ .quiet
    | some message => exact .fatal (hlink ▸ t.link_onFatal (.other message)) rfl
  | republished err =>
    unfold react at h
    dsimp only at h
    split_ifs at h
    cases h
    cases err with
    | none => exact .quiet
    | some message => exact .fatal (link_onFatal _ _) rfl
  | enable i | startScreen i | negotiationNeeded pc =>
    unfold react at h
    dsimp only at h
    split_ifs at h
    cases h
    exact .quiet
  | userMedia k stream =>
    obtain ⟨i, -, h⟩ := bind_eq_some_iff.1 h
    cases stream with
    | none => exact some.inj h ▸ .quiet
    | some stream =>
      obtain ⟨t, ht, rfl⟩ := map_eq_some_iff.1 h
      exact capture_link ht ▸ .quiet
  | setKind i kind enabled =>
    cases h
    exact quiet_sendAll rfl (setKind_no_join _ _ _)
  | displayMedia k capture =>
    obtain ⟨i, -, h⟩ := bind_eq_some_iff.1 h
    cases capture with
    | none => exact some.inj h ▸ .quiet
    | some capture =>
      obtain ⟨t, ht, rfl⟩ := map_eq_some_iff.1 h
      have hlink := capture_link ht
      exact quiet_sendAll hlink (declares_no_join _ _ _)
  | stopScreen i =>
    cases h
    exact quiet_sendAll rfl (unpublishes_no_join _)
  | iceCandidate pc candidate =>
    unfold react at h
    dsimp only at h
    split_ifs at h
    cases h
    exact quiet_send rfl rfl
  | offered k sdp =>
    obtain ⟨pc, -, h⟩ := bind_eq_some_iff.1 h
    split_ifs at h
    cases h
    exact quiet_send rfl rfl
  | track pc track streamId =>
    unfold react at h
    dsimp only at h
    split_ifs at h
    cases h
    split <;> exact .quiet
  | tick =>
    unfold react at h
    dsimp only at h
    split_ifs at h
    cases h
    exact r.link_tick ▸ .quiet
  | collected k =>
    obtain ⟨session, -, rfl⟩ := map_eq_some_iff.1 h
    exact quiet_send rfl rfl

/-- All steps but the turns of `pump` are reactions of a room at rest. -/
theorem react_of_step (h : r.step a = some r') (ha : a.isTurn = false) :
    r.Quiescent ∧ r.react a = some r' := by
  unfold step at h
  split at h
  · cases ha
  · split_ifs at h with hq
    exact ⟨hq, h⟩

/-- A turn of `pump` handles the first message that waits. -/
theorem turn_of_step (h : r.step (.handle fails) = some r') :
    ∃ n m rest, r.pending = (n, m) :: rest ∧ r' = (r.take n m rest).onMessage n m fails := by
  unfold step at h
  dsimp only at h
  split_ifs at h
  split at h
  · cases h
  · next n m rest hpending => exact ⟨n, m, rest, hpending, (some.inj h).symm⟩

/-- **What a step does to the link.** -/
theorem step_moves (h : r.step a = some r') : Moves r a r'.pending r'.link := by
  cases a with
  | handle fails =>
    obtain ⟨n, m, rest, hpending, rfl⟩ := turn_of_step h
    exact handle_moves hpending
  | _ => exact react_moves (react_of_step h rfl).2

end Room

/-! ## Reconnecting -/

namespace Link

/-- A link that is reconnecting goes on: the timer is armed, or the socket, which is not lost, opens
or waits for the reply to its join. -/
def Proceeds (l : Link) : Prop :=
  l.state = .reconnecting → l.want = true ∧
    (l.armed = true ∨ l.reported = false ∧ ∃ st ∈ l.socket, st.1 = .connecting ∨ st = (.open, true))

variable {l : Link}

theorem join_pending (h : ∃ st ∈ l.socket, st.1 = .connecting ∨ st = (.open, true)) :
    ∃ st ∈ l.join.socket, st.1 = .connecting ∨ st = (.open, true) := by
  obtain ⟨st, hst, hpend⟩ := h
  obtain ⟨st₁, w⟩ := st
  obtain rfl | heq := hpend
  · simp [join, mem_def.1 hst]
  · cases heq
    simp [join, mem_def.1 hst]

theorem Proceeds.join (h : l.Proceeds) : l.join.Proceeds := by
  intro hs
  obtain ⟨hwant, hgo⟩ := h hs
  exact ⟨hwant, hgo.imp id (And.imp id join_pending)⟩

/-- A reply that is followed by another join. -/
theorem Proceeds.rejoin (h : l.Proceeds) : l.answered.join.Proceeds := by
  intro hs
  obtain ⟨hwant, hgo⟩ := h hs
  refine ⟨hwant, hgo.imp id (And.imp id ?_)⟩
  rintro ⟨⟨st, w⟩, hst, rfl | heq⟩
  · exact ⟨(.connecting, false), by simp [Link.join, answered, mem_def.1 hst], .inl rfl⟩
  · cases heq
    exact ⟨(.open, true), by simp [Link.join, answered, mem_def.1 hst], .inr rfl⟩

/-- The report of a close. -/
theorem Proceeds.report {socket : Option Status} (h : l.Proceeds) :
    ({ l with socket := socket } : Link).report.Proceeds := by
  intro hs
  unfold Link.report onClose at hs ⊢
  split_ifs at hs ⊢ with hrep hwant hconn
  · obtain ⟨hw, harmed | ⟨hnot, -⟩⟩ := h hs
    · exact ⟨hw, .inl harmed⟩
    · exact absurd (hnot.symm.trans hrep) Bool.false_ne_true
  · exact absurd (h hs).1 (by simpa using hwant)
  · cases hs
  · exact ⟨by simpa using hwant, .inl rfl⟩

end Link

def ServerMessage.errorCode : ServerMessage → Option (Option String)
  | .error code _ _ => some code
  | _ => none

namespace Room

variable {r r' : Room} {a : Act}

/-- An error that is handled while the room is reconnecting, and has come on its current socket, is
one that `handleError` knows; and a room is sent to another node only while it wants to be
connected. -/
def ErrorsKnown (r : Room) (a : Act) : Prop :=
  ∀ x ∈ r.next a, ∀ code ∈ x.2.errorCode,
    (r.state = .reconnecting → r.sig.ws = some x.1 →
      code = some "EXPIRED_TOKEN" ∨ code = some "ROOM_ON_OTHER_NODE") ∧
    (code = some "ROOM_ON_OTHER_NODE" → r.wantConnected = true)

instance (r : Room) (a : Act) : Decidable (r.ErrorsKnown a) := inferInstanceAs (Decidable (∀ _, _))

theorem Moves.proceeds {l : Link} (h : Moves r a r'.pending l) (hr : r.link.Proceeds)
    (hG : r.ErrorsKnown a) : l.Proceeds := by
  cases h with
  | quiet => exact hr
  | join => exact hr.join
  | connect | down | failed | joined =>
    intro hs
    cases hs
  | opened =>
    intro hs
    obtain ⟨hwant, hgo⟩ := hr hs
    exact ⟨hwant, hgo.imp id (And.imp id fun _ => ⟨_, rfl, .inr rfl⟩)⟩
  | closed => exact hr.report
  | timer =>
    intro hs
    exact ⟨(hr hs).1, .inr ⟨rfl, _, rfl, .inl rfl⟩⟩
  | stale =>
    split_ifs
    · exact hr.rejoin
    · exact hr.join
  | redirected socket hnext =>
    intro hs
    exact ⟨(hG _ hnext _ rfl).2 rfl, .inl rfl⟩
  | unanswered hnext hconn hexpired hother =>
    split_ifs with hws
    · intro hs
      rcases (hG _ hnext _ rfl).1 hs hws with h | h
      · exact absurd h hexpired
      · exact absurd h hother
    · exact hr

/-- **Reconnecting is no dead end**, in every run in which the errors that answer a rejoin are ones
that `handleError` knows. -/
theorem reconnecting_proceeds {qoeEnabled : Bool} {as : List Act}
    (hG : Along step ErrorsKnown (new qoeEnabled) as)
    (hrun : run step (new qoeEnabled) as = some r) (hs : r.state = .reconnecting) :
    r.reconnector.armed = true ∨
      (∃ n ∈ r.sig.ws, (r.sig.sockets n).readyState = .connecting) ∨
      ∃ n ∈ r.sig.ws, (r.sig.sockets n).readyState = .open ∧
        (r.sig.sockets n).awaiting = true := by
  have hgo : r.link.Proceeds :=
    run_invariant (I := fun r => r.link.Proceeds)
      (fun _ _ _ hI hG hstep => (step_moves hstep).proceeds hI hG) (fun h => by cases h) hG hrun
  obtain ⟨-, harmed | ⟨-, st, hst, hpend⟩⟩ := hgo hs
  · exact .inl harmed
  · obtain ⟨n, hn, rfl⟩ := map_eq_some_iff.1 hst
    refine .inr (hpend.imp (fun h => ⟨n, hn, h⟩) fun h => ⟨n, hn, ?_⟩)
    exact Prod.mk.inj h

/-- A room whose socket was lost, and whose rejoin has just been sent. -/
theorem reconnecting_proceeds_rejoin :
    ∃ r ∈ run step (new true)
      [.connect "room", .open 0, .message 0 (.welcome "alice" none), .handle false,
        .message 0 (.roomJoined { roomId := "room" }), .handle false, .close 0 1006, .timer,
        .open 1],
      r.state = .reconnecting ∧ (r.reconnector.armed = true ∨
        (∃ n ∈ r.sig.ws, (r.sig.sockets n).readyState = .connecting) ∨
        ∃ n ∈ r.sig.ws, (r.sig.sockets n).readyState = .open ∧
          (r.sig.sockets n).awaiting = true) := by
  refine exists_mem_and (by decide +kernel) fun r hrun hs => ?_
  exact reconnecting_proceeds (by decide +kernel) hrun hs

/-- The server answers a rejoin with an error for which `handleError` has no case: nothing is left
that would end the reconnecting. -/
theorem reconnecting_stuck :
    ∃ r ∈ run step (new true)
      [.connect "room", .open 0, .message 0 (.welcome "alice" none), .handle false,
        .message 0 (.roomJoined { roomId := "room" }), .handle false, .close 0 1006, .timer,
        .open 1, .message 1 (.error none (some "could not resolve room ownership") none),
        .handle false],
      r.Quiescent ∧ r.state = .reconnecting ∧ r.reconnector.armed = false ∧
        r.sig.ws = some 1 ∧ (r.sig.sockets 1).readyState = .open ∧
        (r.sig.sockets 1).awaiting = false := by
  decide +kernel

end Room

end PulseRTC.Sdk
