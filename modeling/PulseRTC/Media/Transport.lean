import PulseRTC.Foundations.GoMap
import PulseRTC.Foundations.Runs
import PulseRTC.Media.Wire

/-!
# The media transport

One `udpMediaTransport`: a table of connections by session id, and what it does with a datagram, a
call or a tick. A connection learns its peer's address from an authenticated `HELLO` and accepts
media only from there. Frames go out through a bounded queue, to the address the connection has
when the frame is written.

* `step` is one call, one datagram, one tick of `heartbeatLoop` or one round of `sendLoop`; its
  second part is what the step writes to the socket and hands to the handlers.
* `step_conn`: what one step can do to a connection, and `step_effect`: where a step can send, and
  what it needs to deliver. The later modules use only these.

HMAC-SHA256 is a parameter of the configuration. An address is what `matchesSource` compares: an IP
in one fixed form and a port.
-/

namespace PulseRTC.Media

open Foundations Option

/-- `net.UDPAddr`. -/
structure UDPAddr where
  ip : Bytes
  port : ℕ
  deriving DecidableEq

/-- A transport's configuration, with the keyed hash it authenticates with. -/
structure Config where
  selfID : Bytes
  secret : Bytes
  hmac : Bytes → Bytes → Digest
  sendQueue : ℤ := 0
  maxPacketSize : ℤ := 0

/-- The capacity of a send queue. -/
def Config.depth (cfg : Config) : ℕ :=
  if cfg.sendQueue ≤ 0 then 1024 else cfg.sendQueue.toNat

theorem Config.depth_pos (cfg : Config) : 0 < cfg.depth := by
  unfold Config.depth
  split_ifs with h
  · decide
  · omega

def Config.helloMAC (cfg : Config) (sessionID : SessionId) (src dst : Bytes) : Digest :=
  cfg.hmac cfg.secret (macInput sessionID src dst)

/-! ## Connections -/

/-- `udpMediaConn`; `queue` is `sendCh`. -/
structure Conn where
  remoteNodeID : Bytes
  remoteAddr : Option UDPAddr
  srcOK : Bool := false
  authOK : Bool := false
  queue : List Bytes := []
  deriving DecidableEq

namespace Conn

def matchesSource (c : Conn) (src : UDPAddr) : Bool := c.srcOK && c.remoteAddr == some src

/-- `confirmSource` and `markAuthenticated`. -/
def confirm (c : Conn) (src : UDPAddr) : Conn :=
  { c with remoteAddr := some src, srcOK := true, authOK := true }

/-- `enqueue`: a full queue drops the frame. -/
def enqueue (cfg : Config) (c : Conn) (frame : Bytes) : Conn :=
  if c.queue.length < cfg.depth then { c with queue := c.queue ++ [frame] } else c

/-- The frame of `sendHello`. -/
def helloFrame (cfg : Config) (sid : SessionId) (c : Conn) : Bytes :=
  encodeFrame frameHello sid
    (helloPayload cfg.selfID c.remoteNodeID (cfg.helloMAC sid cfg.selfID c.remoteNodeID))

def sendHello (cfg : Config) (sid : SessionId) (c : Conn) : Conn :=
  c.enqueue cfg (c.helloFrame cfg sid)

/-- Everything but the queue is as before. -/
def SameButQueue (c c' : Conn) : Prop := c' = { c with queue := c'.queue }

theorem SameButQueue.refl (c : Conn) : c.SameButQueue c := by
  cases c
  rfl

theorem sameButQueue_enqueue (cfg : Config) (c : Conn) (frame : Bytes) :
    c.SameButQueue (c.enqueue cfg frame) := by
  unfold enqueue
  split_ifs
  · rfl
  · exact .refl c

theorem sameButQueue_sendHello (cfg : Config) (sid : SessionId) (c : Conn) :
    c.SameButQueue (c.sendHello cfg sid) :=
  sameButQueue_enqueue cfg c _

end Conn

/-- `udpMediaTransport`: the connections by session. -/
structure State where
  conns : GoMap SessionId Conn := ∅
  closed : Bool := false

/-- The connection of a session replaced. -/
def State.setConn (s : State) (sid : SessionId) (c : Conn) : State :=
  { s with conns := s.conns.insert sid c }

theorem State.lookup_setConn (s : State) (sid i : SessionId) (c : Conn) :
    (s.setConn sid c).conns.lookup i = if i = sid then some c else s.conns.lookup i :=
  GoMap.lookup_insert_eq s.conns sid i c

/-! ## What the transport does -/

/-- The codes of the media errors. -/
inductive Code
  | mediaNodeUnavailable
  | mediaTransportClosed
  | mediaSessionInvalid
  | mediaSessionNotFound
  | mediaPacketTooLarge
  | remoteTrackNotFound
  deriving DecidableEq

/-- A code as it is written. -/
def Code.text : Code → String
  | .mediaNodeUnavailable => "MEDIA_NODE_UNAVAILABLE"
  | .mediaTransportClosed => "MEDIA_TRANSPORT_CLOSED"
  | .mediaSessionInvalid => "MEDIA_SESSION_INVALID"
  | .mediaSessionNotFound => "MEDIA_SESSION_NOT_FOUND"
  | .mediaPacketTooLarge => "MEDIA_PACKET_TOO_LARGE"
  | .remoteTrackNotFound => "REMOTE_TRACK_NOT_FOUND"

/-- The read buffer of `readLoop`. -/
def readBuffer : ℕ := 2048

/-- An effect of a step. -/
inductive Output
  /-- A frame of a session is written to the socket. -/
  | sent (sid : SessionId) (dst : UDPAddr) (frame : Bytes)
  /-- The RTP or RTCP handler of the session's connection, with this remote node, is called. -/
  | delivered (sid : SessionId) (remoteNodeID : Bytes) (rtcp : Bool) (key packet : Bytes)
  /-- The lost handler of the session's connection is called. -/
  | lost (sid : SessionId)
  /-- The call returns an error. -/
  | refused (code : Code) (message : String)
  deriving DecidableEq

/-- `udpMediaConn.Close`: a best-effort `BYE`, and the connection leaves the table. -/
def closeConn (s : State) (sid : SessionId) (c : Conn) : State × List Output :=
  ({ s with conns := s.conns.erase sid },
    match c.authOK, c.remoteAddr with
    | true, some addr => [.sent sid addr (encodeFrame frameBye sid [])]
    | _, _ => [])

def handleHello (cfg : Config) (s : State) (f : ParsedFrame) (src : UDPAddr) :
    State × List Output :=
  match parseHello f.payload with
  | none => (s, [])
  | some m =>
    if m.mac ≠ (cfg.helloMAC f.sessionID m.src m.dst).1 ∨ m.dst ≠ cfg.selfID then (s, [])
    else
      match s.conns.lookup f.sessionID with
      | none => (s, [])
      | some c =>
        if c.remoteNodeID ≠ m.src then (s, [])
        else (s.setConn f.sessionID ((c.confirm src).sendHello cfg f.sessionID), [])

/-- The keyed packet of a media frame goes to its handler. -/
def deliver (s : State) (f : ParsedFrame) (c : Conn) (rtcp : Bool) : State × List Output :=
  match decodeKeyed f.payload with
  | some (key, packet) => (s, [.delivered f.sessionID c.remoteNodeID rtcp key packet])
  | none => (s, [])

def handleDatagram (cfg : Config) (s : State) (b : Bytes) (src : UDPAddr) : State × List Output :=
  match decodeFrame b with
  | none => (s, [])
  | some f =>
    if f.kind = frameHello then handleHello cfg s f src
    else
      match s.conns.lookup f.sessionID with
      | none => (s, [])
      | some c =>
        if !c.authOK then (s, [])
        else if !c.matchesSource src then (s, [])
        else if f.kind = frameBye then
          ((closeConn s f.sessionID c).1, .lost f.sessionID :: (closeConn s f.sessionID c).2)
        else if f.kind = frameRTP then deliver s f c false
        else if f.kind = frameRTCP then deliver s f c true
        else (s, [])

/-- `Dial`; `none` is an address that does not resolve. -/
def dial (cfg : Config) (s : State) (sid : SessionId) (nodeID : Bytes) (addr : Option UDPAddr) :
    State × List Output :=
  match addr with
  | none => (s, [.refused .mediaNodeUnavailable "bad media address"])
  | some addr =>
    if s.closed then (s, [.refused .mediaTransportClosed "transport closed"])
    else
      match s.conns.lookup sid with
      | some _ => (s, [])
      | none =>
        (s.setConn sid (Conn.sendHello cfg sid { remoteNodeID := nodeID, remoteAddr := some addr }),
          [])

/-- `acceptSession`; `none` is an address not known yet. -/
def acceptSession (s : State) (sid : SessionId) (nodeID : Bytes) (addr : Option UDPAddr) :
    State × List Output :=
  if s.closed then (s, [.refused .mediaTransportClosed "transport closed"])
  else
    match s.conns.lookup sid with
    | some _ => (s, [])
    | none => (s.setConn sid { remoteNodeID := nodeID, remoteAddr := addr }, [])

/-- `SendRTP` and `SendRTCP` on the connection of a session. -/
def sendKeyed (cfg : Config) (s : State) (sid : SessionId) (rtcp : Bool) (key packet : Bytes) :
    State × List Output :=
  match s.conns.lookup sid with
  | none => (s, [.refused .mediaTransportClosed "media connection closed"])
  | some c =>
    if !c.authOK then (s, [.refused .mediaSessionInvalid "media session not established"])
    else if cfg.maxPacketSize > 0 ∧ packet.length > cfg.maxPacketSize then
      (s, [.refused .mediaPacketTooLarge "media packet exceeds MTU budget"])
    else
      let kind := if rtcp then frameRTCP else frameRTP
      (s.setConn sid (c.enqueue cfg (encodeFrame kind sid (encodeKeyed key packet))), [])

/-- A tick of `heartbeatLoop`; `idle` is whether nothing came in for the session timeout. -/
def tick (cfg : Config) (s : State) (sid : SessionId) (idle : Bool) : State × List Output :=
  match s.conns.lookup sid with
  | none => (s, [])
  | some c =>
    if idle then ((closeConn s sid c).1, .lost sid :: (closeConn s sid c).2)
    else if c.authOK then
      (s.setConn sid (c.enqueue cfg (encodeFrame frameHeartbeat sid [])), [])
    else (s.setConn sid (c.sendHello cfg sid), [])

/-- A round of `sendLoop`. -/
def sendLoop (s : State) (sid : SessionId) : State × List Output :=
  match s.conns.lookup sid with
  | none => (s, [])
  | some c =>
    match c.queue with
    | [] => (s, [])
    | frame :: rest =>
      (s.setConn sid { c with queue := rest },
        match c.remoteAddr with
        | some addr => [.sent sid addr frame]
        | none => [])

/-- A call on the transport, a datagram, a tick or a round of a loop. -/
inductive Act
  | dial (sid : SessionId) (nodeID : Bytes) (addr : Option UDPAddr)
  | acceptSession (sid : SessionId) (nodeID : Bytes) (addr : Option UDPAddr)
  | datagram (b : Bytes) (src : UDPAddr)
  | send (sid : SessionId) (rtcp : Bool) (key packet : Bytes)
  | tick (sid : SessionId) (idle : Bool)
  | sendLoop (sid : SessionId)
  /-- `Close` of a connection. -/
  | closeConn (sid : SessionId)
  /-- `Close` of the transport; it then closes the connections one by one. -/
  | close
  deriving DecidableEq

/-- One step of the transport. -/
def step (cfg : Config) (s : State) : Act → State × List Output
  | .dial sid nodeID addr => dial cfg s sid nodeID addr
  | .acceptSession sid nodeID addr => acceptSession s sid nodeID addr
  | .datagram b src => handleDatagram cfg s b src
  | .send sid rtcp key packet => sendKeyed cfg s sid rtcp key packet
  | .tick sid idle => tick cfg s sid idle
  | .sendLoop sid => sendLoop s sid
  | .closeConn sid =>
    match s.conns.lookup sid with
    | none => (s, [])
    | some c => closeConn s sid c
  | .close => ({ s with closed := true }, [])

/-! ## What a step can do -/

/-- The datagram is a well-formed `HELLO` of session `sid` from `peer` to this node, with the right
MAC. -/
def Welcome (cfg : Config) (sid : SessionId) (peer b : Bytes) : Prop :=
  ∃ f, decodeFrame b = some f ∧ f.kind = frameHello ∧ f.sessionID = sid ∧
    parseHello f.payload = some ⟨peer, cfg.selfID, (cfg.helloMAC sid peer cfg.selfID).1⟩

instance (cfg : Config) (sid : SessionId) (peer b : Bytes) : Decidable (Welcome cfg sid peer b) :=
  match h : decodeFrame b with
  | none => isFalse (by simp [Welcome, h])
  | some f =>
    decidable_of_iff (f.kind = frameHello ∧ f.sessionID = sid ∧
      parseHello f.payload = some ⟨peer, cfg.selfID, (cfg.helloMAC sid peer cfg.selfID).1⟩)
      (by simp [Welcome, h])

variable {cfg : Config} {sid i : SessionId} {b : Bytes} {c cᵢ : Conn} {s : State} {a : Act}
  {o : Output}

/-- A datagram is a `HELLO` of one session. -/
theorem Welcome.session_unique {sid' : SessionId} {peer peer' : Bytes} (h : Welcome cfg sid peer b)
    (h' : Welcome cfg sid' peer' b) : sid = sid' := by
  obtain ⟨f, hf, -, rfl, -⟩ := h
  obtain ⟨f', hf', -, rfl, -⟩ := h'
  rw [mem_unique hf hf']

/-- The ids in an accepted `HELLO` fit their length bytes. -/
theorem Welcome.length_le {peer : Bytes} (h : Welcome cfg sid peer b) :
    peer.length ≤ 255 ∧ cfg.selfID.length ≤ 255 := by
  obtain ⟨f, -, -, -, hp⟩ := h
  exact parseHello_eq_some hp

/-- The `HELLO` of a node with the same secret is welcome, if the ids fit their length bytes. -/
theorem welcome_helloFrame (cfg cfg' : Config) (hsecret : cfg'.secret = cfg.secret)
    (hhmac : cfg'.hmac = cfg.hmac) (hdst : c.remoteNodeID = cfg.selfID)
    (hself : cfg.selfID.length ≤ 255) (hpeer : cfg'.selfID.length ≤ 255) :
    Welcome cfg sid cfg'.selfID (c.helloFrame cfg' sid) := by
  refine ⟨_, decodeFrame_encodeFrame _ _ _, rfl, rfl, ?_⟩
  have hmac : cfg'.helloMAC sid cfg'.selfID cfg.selfID =
      cfg.helloMAC sid cfg'.selfID cfg.selfID := by
    rw [Config.helloMAC, Config.helloMAC, hsecret, hhmac]
  have hfits : (helloPayload cfg'.selfID cfg.selfID
      (cfg'.helloMAC sid cfg'.selfID cfg.selfID)).length < 65536 := by
    rw [length_helloPayload]
    omega
  dsimp only
  rw [hdst, Nat.mod_eq_of_lt hfits, List.take_length, parseHello_helloPayload hpeer hself, hmac]

/-- What a `HELLO` does: it is refused, or it is welcome to the connection of its session, which
takes over its source address. -/
theorem handleHello_cases (cfg : Config) (s : State) (f : ParsedFrame) (src : UDPAddr)
    (hb : decodeFrame b = some f) (hk : f.kind = frameHello) :
    (handleHello cfg s f src = (s, []) ∧ ∀ sid c, s.conns.lookup sid = some c →
      ¬ Welcome cfg sid c.remoteNodeID b) ∨
    ∃ c, s.conns.lookup f.sessionID = some c ∧ Welcome cfg f.sessionID c.remoteNodeID b ∧
      handleHello cfg s f src =
        (s.setConn f.sessionID ((c.confirm src).sendHello cfg f.sessionID), []) := by
  have hwelcome : ∀ sid peer, Welcome cfg sid peer b → f.sessionID = sid ∧
      parseHello f.payload = some ⟨peer, cfg.selfID, (cfg.helloMAC sid peer cfg.selfID).1⟩ := by
    rintro sid peer ⟨f', hf', -, hsid, hp⟩
    obtain rfl := mem_unique hb hf'
    exact ⟨hsid, hp⟩
  unfold handleHello
  cases hp : parseHello f.payload with
  | none =>
    refine .inl ⟨rfl, fun sid c _ hw => ?_⟩
    have hm := (hwelcome sid c.remoteNodeID hw).2
    simp [hp] at hm
  | some m =>
    simp only
    split_ifs with hmac
    · refine .inl ⟨rfl, fun sid c _ hw => ?_⟩
      obtain ⟨rfl, hm⟩ := hwelcome sid c.remoteNodeID hw
      obtain rfl := mem_unique hp hm
      simp at hmac
    · cases hc : s.conns.lookup f.sessionID with
      | none =>
        refine .inl ⟨rfl, fun sid c hsid hw => ?_⟩
        obtain ⟨rfl, -⟩ := hwelcome sid c.remoteNodeID hw
        simp [hc] at hsid
      | some c =>
        simp only
        split_ifs with hsrc
        · refine .inl ⟨rfl, fun sid c' hsid hw => ?_⟩
          obtain ⟨rfl, hm⟩ := hwelcome sid c'.remoteNodeID hw
          obtain rfl := mem_unique hp hm
          obtain rfl := mem_unique hc hsid
          exact hsrc rfl
        · push Not at hmac hsrc
          refine .inr ⟨c, rfl, ⟨f, hb, hk, rfl, ?_⟩, rfl⟩
          rw [hp, hsrc, ← hmac.2, ← hmac.1]

/-- What a datagram does: it is a `HELLO` that the connection of its session accepts; or it is none
and leaves the connections alone, delivering at most media from the confirmed address of an
authenticated connection; or it is a `BYE`. -/
theorem handleDatagram_cases (cfg : Config) (s : State) (b : Bytes) (src : UDPAddr) :
    (∃ sid c, s.conns.lookup sid = some c ∧ Welcome cfg sid c.remoteNodeID b ∧
      handleDatagram cfg s b src =
        (s.setConn sid ((c.confirm src).sendHello cfg sid), [])) ∨
    (∀ sid c, s.conns.lookup sid = some c → ¬ Welcome cfg sid c.remoteNodeID b) ∧
      ((handleDatagram cfg s b src).1 = s ∧ (∀ o ∈ (handleDatagram cfg s b src).2,
          ∃ sid c rtcp key packet, s.conns.lookup sid = some c ∧ c.authOK = true ∧
            c.remoteAddr = some src ∧ o = .delivered sid c.remoteNodeID rtcp key packet) ∨
        ∃ sid c, s.conns.lookup sid = some c ∧ handleDatagram cfg s b src =
          ((closeConn s sid c).1, .lost sid :: (closeConn s sid c).2)) := by
  have hother : ¬ (∃ f, decodeFrame b = some f ∧ f.kind = frameHello) →
      ∀ sid c, s.conns.lookup sid = some c → ¬ Welcome cfg sid c.remoteNodeID b := by
    rintro hno sid c - ⟨f, hf, hk, -⟩
    exact hno ⟨f, hf, hk⟩
  unfold handleDatagram
  cases hf : decodeFrame b with
  | none => exact .inr ⟨hother (by simp [hf]), .inl ⟨rfl, by simp⟩⟩
  | some f =>
    by_cases hk : f.kind = frameHello
    · simp only [if_pos hk]
      rcases handleHello_cases cfg s f src hf hk with ⟨heq, hun⟩ | ⟨c, hc, hw, heq⟩
      · exact .inr ⟨hun, .inl ⟨by rw [heq], by simp [heq]⟩⟩
      · exact .inl ⟨f.sessionID, c, hc, hw, heq⟩
    · refine .inr ⟨hother (by simpa [hf] using hk), ?_⟩
      simp only [if_neg hk]
      cases hc : s.conns.lookup f.sessionID with
      | none => exact .inl ⟨rfl, by simp⟩
      | some c =>
        by_cases hauth : c.authOK = true
        swap
        · exact .inl (by simp [hauth])
        by_cases hmatch : c.matchesSource src = true
        swap
        · exact .inl (by simp [hmatch])
        have hsrc : c.remoteAddr = some src := by
          simp only [Conn.matchesSource, Bool.and_eq_true, beq_iff_eq] at hmatch
          exact hmatch.2
        have hdeliver : ∀ rtcp, (deliver s f c rtcp).1 = s ∧ ∀ o ∈ (deliver s f c rtcp).2,
            ∃ sid c rtcp key packet, s.conns.lookup sid = some c ∧ c.authOK = true ∧
              c.remoteAddr = some src ∧ o = .delivered sid c.remoteNodeID rtcp key packet := by
          intro rtcp
          unfold deliver
          cases decodeKeyed f.payload with
          | none => exact ⟨rfl, by simp⟩
          | some kp =>
            refine ⟨rfl, fun o ho => ?_⟩
            exact ⟨_, c, rtcp, kp.1, kp.2, hc, hauth, hsrc, List.mem_singleton.1 ho⟩
        simp only [hauth, hmatch, Bool.not_true, Bool.false_eq_true, if_false]
        split_ifs
        · exact .inr ⟨f.sessionID, c, hc, rfl⟩
        · exact .inl (hdeliver false)
        · exact .inl (hdeliver true)
        · exact .inl ⟨rfl, by simp⟩

/-- What happens to the connection of a session in one step. -/
inductive Fate (cfg : Config) (s : State) (a : Act) (sid : SessionId) (c' : Conn) : Prop
  /-- Only its queue changes, and the step is not a `HELLO` that it accepts. -/
  | kept (c : Conn) (old : s.conns.lookup sid = some c) (same : c.SameButQueue c')
      (unwelcome : ∀ b src, a = .datagram b src → ¬ Welcome cfg sid c.remoteNodeID b)
  /-- It is new. -/
  | opened (fresh : s.conns.lookup sid = none) (auth : c'.authOK = false)
      (call : (∃ addr, a = .dial sid c'.remoteNodeID (some addr) ∧ c'.remoteAddr = some addr) ∨
        a = .acceptSession sid c'.remoteNodeID c'.remoteAddr)
  /-- It accepts a `HELLO` and takes over its source address. -/
  | welcomed (c : Conn) (b : Bytes) (src : UDPAddr) (old : s.conns.lookup sid = some c)
      (hello : a = .datagram b src) (welcome : Welcome cfg sid c.remoteNodeID b)
      (new : (c.confirm src).SameButQueue c')

variable {c' : Conn} {src : UDPAddr}

/-- A step that changes at most the queue of one connection. -/
theorem fate_setConn (hc : s.conns.lookup sid = some c) (hsame : c.SameButQueue c')
    (hun : ∀ b src, a ≠ .datagram b src) (h : (s.setConn sid c').conns.lookup i = some cᵢ) :
    Fate cfg s a i cᵢ := by
  rw [State.lookup_setConn] at h
  split_ifs at h with hi
  · subst hi
    cases h
    exact .kept c hc hsame fun b src ha => absurd ha (hun b src)
  · exact .kept cᵢ h (.refl cᵢ) fun b src ha => absurd ha (hun b src)

/-- A step that leaves the connections alone or closes one. -/
theorem fate_of_le {s' : State} (hle : ∀ c, s'.conns.lookup i = some c → s.conns.lookup i = some c)
    (hun : ∀ b src c, a = .datagram b src → s.conns.lookup i = some c →
      ¬ Welcome cfg i c.remoteNodeID b)
    (h : s'.conns.lookup i = some cᵢ) : Fate cfg s a i cᵢ :=
  .kept cᵢ (hle cᵢ h) (.refl cᵢ) fun b src ha => hun b src cᵢ ha (hle cᵢ h)

theorem closeConn_le (h : (closeConn s sid c).1.conns.lookup i = some c') :
    s.conns.lookup i = some c' := by
  exact (GoMap.lookup_erase_eq_some.1 h).2

theorem fate_datagram (h : (handleDatagram cfg s b src).1.conns.lookup i = some cᵢ) :
    Fate cfg s (.datagram b src) i cᵢ := by
  rcases handleDatagram_cases cfg s b src with ⟨sid, c, hc, hw, heq⟩ | ⟨hun, hrest⟩
  · rw [heq, State.lookup_setConn] at h
    split_ifs at h with hi
    · subst hi
      cases h
      exact .welcomed c b src hc rfl hw (Conn.sameButQueue_sendHello cfg _ _)
    · refine .kept cᵢ h (.refl cᵢ) fun b' src' ha => ?_
      obtain ⟨rfl, -⟩ := Act.datagram.inj ha
      exact fun hw' => hi (hw'.session_unique hw)
  · refine fate_of_le (fun c' hc' => ?_) (fun b' src' c ha hc => ?_) h
    · rcases hrest with ⟨heq, -⟩ | ⟨sid, c, -, heq⟩
      · rwa [heq] at hc'
      · rw [heq] at hc'
        exact closeConn_le (c := c) hc'
    · obtain ⟨rfl, -⟩ := Act.datagram.inj ha
      exact hun i c hc

/-- A call that opens a connection. -/
theorem fate_open (hfresh : s.conns.lookup sid = none) (hauth : c.authOK = false)
    (hcall : (∃ addr, a = .dial sid c.remoteNodeID (some addr) ∧ c.remoteAddr = some addr) ∨
      a = .acceptSession sid c.remoteNodeID c.remoteAddr)
    (h : (s.setConn sid c).conns.lookup i = some cᵢ) : Fate cfg s a i cᵢ := by
  rw [State.lookup_setConn] at h
  split_ifs at h with hi
  · subst hi
    cases h
    exact .opened hfresh hauth hcall
  · refine .kept cᵢ h (.refl cᵢ) fun b src ha => ?_
    rcases hcall with ⟨addr, rfl, -⟩ | rfl <;> cases ha

/-- **What one step can do to a connection.** -/
theorem step_conn (h : (step cfg s a).1.conns.lookup i = some cᵢ) : Fate cfg s a i cᵢ := by
  -- a step other than a datagram that leaves the table alone
  have hsame : (∀ b src, a ≠ .datagram b src) → s.conns.lookup i = some cᵢ → Fate cfg s a i cᵢ :=
    fun hne h => fate_of_le (fun _ h => h) (fun b src _ ha => absurd ha (hne b src)) h
  cases a with
  | datagram b src => exact fate_datagram h
  | close => exact hsame (by simp) h
  | dial sid nodeID addr =>
    cases addr with
    | none => exact hsame (by simp) h
    | some addr =>
      simp only [step, dial] at h
      split_ifs at h with hclosed
      · exact hsame (by simp) h
      · split at h
        · exact hsame (by simp) h
        · next hc =>
          have hq := Conn.sameButQueue_sendHello cfg sid
            { remoteNodeID := nodeID, remoteAddr := some addr }
          refine fate_open hc ?_ (.inl ⟨addr, ?_, ?_⟩) h <;> rw [hq]
  | acceptSession sid nodeID addr =>
    simp only [step, acceptSession] at h
    split_ifs at h with hclosed
    · exact hsame (by simp) h
    · split at h
      · exact hsame (by simp) h
      · next hc => exact fate_open hc rfl (.inr rfl) h
  | send sid rtcp key packet =>
    simp only [step, sendKeyed] at h
    split at h
    · exact hsame (by simp) h
    · next c hc =>
      split_ifs at h
      · exact hsame (by simp) h
      · exact hsame (by simp) h
      all_goals exact fate_setConn hc (Conn.sameButQueue_enqueue cfg c _) (by simp) h
  | tick sid idle =>
    simp only [step, tick] at h
    split at h
    · exact hsame (by simp) h
    · next c hc =>
      split_ifs at h
      · exact hsame (by simp) (closeConn_le (c := c) h)
      · exact fate_setConn hc (Conn.sameButQueue_enqueue cfg c _) (by simp) h
      · exact fate_setConn hc (Conn.sameButQueue_sendHello cfg sid c) (by simp) h
  | sendLoop sid =>
    simp only [step, sendLoop] at h
    split at h
    · exact hsame (by simp) h
    · next c hc =>
      split at h
      · exact hsame (by simp) h
      · next frame rest hq =>
        have hrest : c.SameButQueue { c with queue := rest } := rfl
        exact fate_setConn hc hrest (by simp) h
  | closeConn sid =>
    simp only [step] at h
    split at h
    · exact hsame (by simp) h
    · exact hsame (by simp) (closeConn_le h)

/-- What a step can put out. -/
inductive Effect (s : State) (a : Act) : Output → Prop
  | refused (code : Code) (message : String) : Effect s a (.refused code message)
  | lost (sid : SessionId) : Effect s a (.lost sid)
  /-- A frame goes to the address of its connection. -/
  | sent (sid : SessionId) (c : Conn) (dst : UDPAddr) (frame : Bytes)
      (conn : s.conns.lookup sid = some c) (addr : c.remoteAddr = some dst) :
      Effect s a (.sent sid dst frame)
  /-- Media is delivered for a datagram from the confirmed address of an authenticated
  connection. -/
  | delivered (b : Bytes) (src : UDPAddr) (sid : SessionId) (c : Conn) (rtcp : Bool)
      (key packet : Bytes) (datagram : a = .datagram b src) (conn : s.conns.lookup sid = some c)
      (auth : c.authOK = true) (addr : c.remoteAddr = some src) :
      Effect s a (.delivered sid c.remoteNodeID rtcp key packet)

/-- `Close` sends to the address of the connection. -/
theorem effect_closeConn (hc : s.conns.lookup sid = some c) (h : o ∈ (closeConn s sid c).2) :
    Effect s a o := by
  unfold closeConn at h
  dsimp only at h
  split at h
  next addr _ ha =>
    rw [List.mem_singleton] at h
    exact h ▸ .sent sid c addr _ hc ha
  next => cases h

theorem effect_lost (hc : s.conns.lookup sid = some c)
    (h : o ∈ Output.lost sid :: (closeConn s sid c).2) :
    Effect s a o := by
  rcases List.mem_cons.1 h with rfl | h
  · exact .lost sid
  · exact effect_closeConn hc h

theorem effect_datagram (h : o ∈ (handleDatagram cfg s b src).2) :
    Effect s (.datagram b src) o := by
  rcases handleDatagram_cases cfg s b src with ⟨sid, c, -, -, heq⟩ | ⟨-, hrest⟩
  · simp [heq] at h
  · rcases hrest with ⟨-, hout⟩ | ⟨sid, c, hc, heq⟩
    · obtain ⟨sid, c, rtcp, key, packet, hc, hauth, hsrc, rfl⟩ := hout o h
      exact .delivered b src sid c rtcp key packet rfl hc hauth hsrc
    · rw [heq] at h
      exact effect_lost hc h

/-- **What one step can put out.** -/
theorem step_effect (h : o ∈ (step cfg s a).2) : Effect s a o := by
  cases a with
  | datagram b src => exact effect_datagram h
  | close => cases h
  | dial sid nodeID addr =>
    simp only [step, dial] at h
    (repeat' split at h) <;> simp at h <;> exact h ▸ .refused _ _
  | acceptSession sid nodeID addr =>
    simp only [step, acceptSession] at h
    split_ifs at h
    · rw [List.mem_singleton] at h
      exact h ▸ .refused _ _
    · split at h <;> cases h
  | send sid rtcp key packet =>
    simp only [step, sendKeyed] at h
    (repeat' split at h) <;> simp at h <;> exact h ▸ .refused _ _
  | tick sid idle =>
    simp only [step, tick] at h
    split at h
    · cases h
    · next c hc =>
      split_ifs at h
      · exact effect_lost hc h
      · cases h
      · cases h
  | sendLoop sid =>
    simp only [step, sendLoop] at h
    split at h
    · cases h
    · next c hc =>
      split at h
      next => cases h
      next frame rest hq =>
        split at h
        next addr ha =>
          rw [List.mem_singleton] at h
          exact h ▸ .sent sid c addr frame hc ha
        next => cases h
  | closeConn sid =>
    simp only [step] at h
    split at h
    · cases h
    · next c hc => exact effect_closeConn hc h

end PulseRTC.Media
