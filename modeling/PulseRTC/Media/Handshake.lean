import PulseRTC.Media.Authentication

/-!
# The media handshake

Two transports that hold a connection of one session to each other, and the datagrams between
them. Every `HELLO` that is accepted is answered with a `HELLO`, so a single `Dial` starts an
exchange that never ends.

* `step` is one step of either endpoint, or the delivery of a datagram. Initiations are the `Dial`
  calls and the ticks that find the connection unauthenticated.
* `handshake_bounded_iff`: the number of `HELLO` frames is bounded by a multiple of the number of
  initiations only if one of the two node ids is too long for the wire format.
-/

namespace PulseRTC.Media.Handshake

open Foundations List

/-! ## Two endpoints -/

/-- Two endpoints of a session, with one secret. -/
structure Pair where
  id : Bool → Bytes
  addr : Bool → UDPAddr
  secret : Bytes
  hmac : Bytes → Bytes → Digest
  sendQueue : ℤ := 0
  maxPacketSize : ℤ := 0
  sid : SessionId

/-- The configuration of an endpoint. -/
def Pair.cfg (p : Pair) (e : Bool) : Config where
  selfID := p.id e
  secret := p.secret
  hmac := p.hmac
  sendQueue := p.sendQueue
  maxPacketSize := p.maxPacketSize

/-- What an endpoint does on its own. -/
inductive Local
  | dial
  /-- `acceptSession`, with or without the address of the peer. -/
  | accept (known : Bool)
  | tick (idle : Bool)
  | send (rtcp : Bool) (key packet : Bytes)
  | sendLoop
  | close
  deriving DecidableEq

/-- The step of the transport of `e`: both calls name the other endpoint. -/
def Pair.act (p : Pair) (e : Bool) : Local → Act
  | .dial => .dial p.sid (p.id !e) (some (p.addr !e))
  | .accept known => .acceptSession p.sid (p.id !e) (if known then some (p.addr !e) else none)
  | .tick idle => .tick p.sid idle
  | .send rtcp key packet => .send p.sid rtcp key packet
  | .sendLoop => .sendLoop p.sid
  | .close => .closeConn p.sid

/-- A frame is a `HELLO`. -/
def isHello (frame : Bytes) : Bool := frame.getD 2 frameBye == frameHello

@[simp] theorem isHello_encodeFrame (kind : UInt8) (sid : SessionId) (payload : Bytes) :
    isHello (encodeFrame kind sid payload) = (kind == frameHello) := rfl

/-- The frames a step writes to the socket. -/
def written (out : List Output) : List Bytes :=
  out.filterMap fun
    | .sent _ _ frame => some frame
    | _ => none

@[simp] theorem written_nil : written [] = [] := rfl

@[simp] theorem written_refused (code : Code) (message : String) :
    written [.refused code message] = [] := rfl

@[simp] theorem written_sent (sid : SessionId) (dst : UDPAddr) (frame : Bytes) :
    written [.sent sid dst frame] = [frame] := rfl

@[simp] theorem written_lost (sid : SessionId) (out : List Output) :
    written (.lost sid :: out) = written out := rfl

/-- A `Dial`, or a tick that finds the connection unauthenticated. -/
def initiates (p : Pair) (s : State) : Local → Bool
  | .dial => true
  | .tick idle => !idle && (s.conns.lookup p.sid).any fun c => !c.authOK
  | _ => false

/-- The endpoints, the datagrams in flight with their receivers, and the two counts. -/
structure System where
  ends : Bool → State := fun _ => {}
  flight : List (Bool × Bytes) := []
  hellos : ℕ := 0
  initiations : ℕ := 0

/-- A step of an endpoint, or the delivery of a datagram. -/
inductive Move
  | act (e : Bool) (l : Local)
  | deliver (i : ℕ)
  deriving DecidableEq

/-- The endpoint `e` makes a step; what it writes goes to the other endpoint. -/
def System.moved (s : System) (e : Bool) (out : State × List Output) : System where
  ends := Function.update s.ends e out.1
  flight := s.flight ++ (written out.2).map fun frame => (!e, frame)
  hellos := s.hellos + (written out.2).countP isHello
  initiations := s.initiations

def step (p : Pair) (s : System) : Move → Option System
  | .act e l =>
    let t := s.moved e (Media.step (p.cfg e) (s.ends e) (p.act e l))
    some { t with initiations := t.initiations + if initiates p (s.ends e) l then 1 else 0 }
  | .deliver i =>
    match s.flight[i]? with
    | none => none
    | some (e, b) =>
      let t := { s with flight := s.flight.eraseIdx i }
      some (t.moved e (handleDatagram (p.cfg e) (s.ends e) (b.take readBuffer) (p.addr !e)))

@[simp] theorem moved_initiations (s : System) (e : Bool) (out : State × List Output) :
    (s.moved e out).initiations = s.initiations := rfl

@[simp] theorem moved_hellos (s : System) (e : Bool) (out : State × List Output) :
    (s.moved e out).hellos = s.hellos + (written out.2).countP isHello := rfl

@[simp] theorem moved_ends (s : System) (e e' : Bool) (out : State × List Output) :
    (s.moved e out).ends e' = if e' = e then out.1 else s.ends e' :=
  Function.update_apply s.ends e out.1 e'

/-! ## Ids that fit the wire format -/

section Short

variable {p : Pair}

/-- The `HELLO` of the endpoint `e`. -/
def Pair.hello (p : Pair) (e : Bool) : Bytes :=
  Conn.helloFrame (p.cfg e) p.sid { remoteNodeID := p.id !e, remoteAddr := none }

variable {e : Bool} {c : Conn}

theorem Pair.helloFrame_eq (hid : c.remoteNodeID = p.id !e) :
    c.helloFrame (p.cfg e) p.sid = p.hello e := by
  rw [Pair.hello, Conn.helloFrame, Conn.helloFrame, hid]

/-- With an empty queue `sendHello` queues the `HELLO`. -/
theorem Pair.sendHello_empty (hid : c.remoteNodeID = p.id !e) (hq : c.queue = []) :
    c.sendHello (p.cfg e) p.sid = { c with queue := [p.hello e] } := by
  have hroom : c.queue.length < (p.cfg e).depth := by
    rw [hq]
    exact (p.cfg e).depth_pos
  rw [Conn.sendHello, Conn.enqueue, if_pos hroom, Pair.helloFrame_eq hid, hq, nil_append]

/-- The endpoint `e` has a `HELLO` to send, and nothing else is on its way. -/
structure Turn (p : Pair) (e : Bool) (s : System) : Prop where
  sender : ∃ c, (s.ends e).conns.lookup p.sid = some c ∧ c.remoteNodeID = p.id (!e) ∧
    c.remoteAddr = some (p.addr !e) ∧ c.queue = [p.hello e]
  receiver : ∃ c, (s.ends !e).conns.lookup p.sid = some c ∧ c.remoteNodeID = p.id e ∧ c.queue = []
  flight : s.flight = []

/-- A `Dial` at one endpoint, when the other one has accepted the session. -/
theorem turn_dial : ∃ s, run (step p) {} [.act false (.accept false), .act true .dial] = some s ∧
    Turn p true s ∧ s.initiations = 1 ∧ s.hellos = 0 := by
  let c : Conn := { remoteNodeID := p.id false, remoteAddr := some (p.addr false) }
  have hsend : c.sendHello (p.cfg true) p.sid = { c with queue := [p.hello true] } :=
    Pair.sendHello_empty rfl rfl
  refine ⟨_, rfl, ⟨⟨{ c with queue := [p.hello true] }, ?_, rfl, rfl, rfl⟩,
    ⟨{ remoteNodeID := p.id true, remoteAddr := none }, ?_, rfl, rfl⟩, rfl⟩, rfl, rfl⟩
  · rw [← hsend]
    exact (State.lookup_setConn {} p.sid p.sid _).trans (if_pos rfl)
  · exact (State.lookup_setConn {} p.sid p.sid _).trans (if_pos rfl)

variable (hlen : ∀ e, (p.id e).length ≤ 255)

include hlen

/-- The `HELLO` of the endpoint `e` is accepted and answered by the other one. -/
theorem handleDatagram_hello {s : State} (hc : s.conns.lookup p.sid = some c)
    (hid : c.remoteNodeID = p.id e) :
    handleDatagram (p.cfg !e) s ((p.hello e).take readBuffer) (p.addr e) =
      (s.setConn p.sid ((c.confirm (p.addr e)).sendHello (p.cfg !e) p.sid), []) := by
  have h₁ := hlen e
  have h₂ := hlen (!e)
  have hshort : (p.hello e).length ≤ readBuffer := by
    rw [Pair.hello, Conn.helloFrame, length_encodeFrame, length_helloPayload]
    simp only [Pair.cfg, readBuffer]
    omega
  have hw : Welcome (p.cfg !e) p.sid c.remoteNodeID (p.hello e) := by
    rw [hid]
    exact welcome_helloFrame (p.cfg !e) (p.cfg e) rfl rfl rfl h₂ h₁
  rw [take_of_length_le hshort]
  rcases handleDatagram_cases (p.cfg !e) s (p.hello e) (p.addr e)
    with ⟨sid, c', hc', hw', heq⟩ | ⟨hun, -⟩
  · obtain rfl := hw.session_unique hw'
    obtain rfl := Option.mem_unique hc hc'
    exact heq
  · exact absurd hw (hun p.sid c hc)

/-- The `HELLO` is sent and received, and now the other endpoint has one to send. -/
theorem Turn.exchange {s : System} (h : Turn p e s) :
    ∃ s', run (step p) s [.act e .sendLoop, .deliver 0] = some s' ∧ Turn p (!e) s' ∧
      s'.hellos = s.hellos + 1 ∧ s'.initiations = s.initiations := by
  obtain ⟨⟨c, hc, hid, haddr, hq⟩, ⟨d, hd, hid', hq'⟩, hflight⟩ := h
  have hne : (!e) ≠ e := Bool.not_ne_self e
  have hloop : Media.step (p.cfg e) (s.ends e) (p.act e .sendLoop) =
      ((s.ends e).setConn p.sid { c with queue := [] }, [.sent p.sid (p.addr !e) (p.hello e)]) := by
    simp only [Pair.act, Media.step, sendLoop, hc, hq, haddr]
  let t : System := s.moved e ((s.ends e).setConn p.sid { c with queue := [] },
    [.sent p.sid (p.addr !e) (p.hello e)])
  have hstep : step p s (.act e .sendLoop) = some t := by
    simp only [step, hloop]
    rfl
  have htf : t.flight = [(!e, p.hello e)] := by
    simp [t, System.moved, written, hflight]
  have hd' : (t.ends !e).conns.lookup p.sid = some d := by
    rw [moved_ends, if_neg hne, hd]
  let d' : Conn := { d.confirm (p.addr e) with queue := [p.hello !e] }
  have hanswer : (d.confirm (p.addr e)).sendHello (p.cfg !e) p.sid = d' :=
    Pair.sendHello_empty (hid'.trans (congrArg p.id (Bool.not_not e).symm)) hq'
  have hreceive : handleDatagram (p.cfg !e) (t.ends !e) ((p.hello e).take readBuffer) (p.addr e) =
      ((t.ends !e).setConn p.sid d', []) := by
    rw [handleDatagram_hello hlen hd' hid', hanswer]
  have hdeliver : step p t (.deliver 0) =
      some (System.moved { t with flight := [] } (!e) ((t.ends !e).setConn p.sid d', [])) := by
    simp only [step, htf, getElem?_cons_zero, Bool.not_not, hreceive, eraseIdx_cons_zero]
  refine ⟨_, (run_cons_eq_some _).2 ⟨t, hstep, (run_cons_eq_some _).2 ⟨_, hdeliver, rfl⟩⟩,
    ⟨⟨d', ?_, ?_, ?_, rfl⟩, ⟨{ c with queue := [] }, ?_, hid, rfl⟩, rfl⟩, rfl, rfl⟩
  · rw [moved_ends, if_pos rfl, State.lookup_setConn, if_pos rfl]
  · rw [Bool.not_not]
    exact hid'
  · rw [Bool.not_not]
    rfl
  · rw [Bool.not_not, moved_ends, if_neg hne.symm]
    rw [moved_ends, if_pos rfl, State.lookup_setConn, if_pos rfl]

/-- After one `Dial` the exchange goes on for ever. -/
theorem exchange_endless (k : ℕ) : ∃ as s e, run (step p) {} as = some s ∧ Turn p e s ∧
    s.hellos = k ∧ s.initiations = 1 := by
  induction k with
  | zero =>
    obtain ⟨s, hs, hturn, hinit, hhello⟩ := turn_dial (p := p)
    exact ⟨_, s, true, hs, hturn, hhello, hinit⟩
  | succ k ih =>
    obtain ⟨as, s, e, hs, hturn, rfl, hinit⟩ := ih
    obtain ⟨s', hs', hturn', hhello', hinit'⟩ := hturn.exchange hlen
    refine ⟨_, s', !e, (run_append_eq_some _).2 ⟨s, hs, hs'⟩, hturn', hhello', ?_⟩
    rw [hinit', hinit]

/-- No multiple of the number of initiations bounds the exchange. -/
theorem not_bounded_of_short :
    ¬ ∃ c, ∀ as s, run (step p) {} as = some s → s.hellos ≤ c * s.initiations := by
  rintro ⟨c, hc⟩
  obtain ⟨as, s, -, hs, -, hhello, hinit⟩ := exchange_endless hlen (c + 1)
  have h := hc as s hs
  rw [hhello, hinit] at h
  omega

end Short

/-! ## Ids that do not -/

section Long

variable {p : Pair}

/-- The `HELLO` frames in the queue of the session's connection. -/
def queued (p : Pair) (s : State) : ℕ :=
  (s.conns.lookup p.sid).elim 0 fun c => c.queue.countP isHello

theorem queued_setConn (s : State) (c : Conn) :
    queued p (s.setConn p.sid c) = c.queue.countP isHello := by
  rw [queued, State.lookup_setConn, if_pos rfl]
  rfl

variable {s : State} {c : Conn}

theorem queued_of_lookup (hc : s.conns.lookup p.sid = some c) :
    queued p s = c.queue.countP isHello := by
  rw [queued, hc]
  rfl

theorem countP_enqueue_le (cfg : Config) (c : Conn) (frame : Bytes) :
    (c.enqueue cfg frame).queue.countP isHello ≤
      c.queue.countP isHello + if isHello frame then 1 else 0 := by
  unfold Conn.enqueue
  split_ifs <;> simp_all

/-- `Close` sends no `HELLO` and drops what is queued. -/
theorem hellos_closeConn (s : State) (sid : SessionId) (c : Conn) :
    (written (closeConn s sid c).2).countP isHello + queued p (closeConn s sid c).1 ≤
      queued p s := by
  have hsent : (written (closeConn s sid c).2).countP isHello = 0 := by
    unfold closeConn
    dsimp only
    split <;> rfl
  rw [hsent, Nat.zero_add, queued, queued, closeConn, GoMap.lookup_erase_eq]
  split_ifs
  · exact Nat.zero_le _
  · exact le_rfl

/-- A frame other than a `HELLO` is queued. -/
theorem hellos_enqueue (hc : s.conns.lookup p.sid = some c) (cfg : Config) {frame : Bytes}
    (hframe : isHello frame = false) :
    queued p (s.setConn p.sid (c.enqueue cfg frame)) ≤ queued p s := by
  have hle := countP_enqueue_le cfg c frame
  rw [if_neg (by rw [hframe]; decide), Nat.add_zero] at hle
  rw [queued_setConn, queued_of_lookup hc]
  exact hle

/-- `sendHello` queues at most one. -/
theorem hellos_sendHello (s : State) (c : Conn) (cfg : Config) :
    queued p (s.setConn p.sid (c.sendHello cfg p.sid)) ≤ c.queue.countP isHello + 1 := by
  rw [queued_setConn]
  exact countP_enqueue_le cfg c _

/-- `Dial` makes at most one. -/
theorem hellos_dial (s : State) (cfg : Config) (node : Bytes) (addr : UDPAddr) :
    (written (dial cfg s p.sid node (some addr)).2).countP isHello +
      queued p (dial cfg s p.sid node (some addr)).1 ≤ queued p s + 1 := by
  unfold dial
  dsimp only
  by_cases hclosed : s.closed = true
  · simp [hclosed]
  rw [if_neg hclosed]
  cases hc : s.conns.lookup p.sid with
  | some c => simp
  | none =>
    have hle := hellos_sendHello (p := p) s { remoteNodeID := node, remoteAddr := some addr } cfg
    simp only [written_nil, countP_nil] at hle ⊢
    omega

/-- A tick makes one only on an unauthenticated connection. -/
theorem hellos_tick (s : State) (cfg : Config) (idle : Bool) :
    (written (tick cfg s p.sid idle).2).countP isHello + queued p (tick cfg s p.sid idle).1 ≤
      queued p s + if initiates p s (.tick idle) then 1 else 0 := by
  unfold tick
  cases hc : s.conns.lookup p.sid with
  | none => simp
  | some c =>
    cases idle with
    | true => exact (hellos_closeConn s p.sid c).trans (Nat.le_add_right _ _)
    | false =>
      by_cases hauth : c.authOK = true
      · have hle := hellos_enqueue hc cfg (isHello_encodeFrame frameHeartbeat p.sid [])
        simpa [hauth, initiates, hc] using hle
      · have hle := hellos_sendHello (p := p) s c cfg
        rw [← queued_of_lookup hc] at hle
        simpa [hauth, initiates, hc] using hle

/-- Media is no `HELLO`. -/
theorem hellos_sendKeyed (s : State) (cfg : Config) (rtcp : Bool) (key packet : Bytes) :
    (written (sendKeyed cfg s p.sid rtcp key packet).2).countP isHello +
      queued p (sendKeyed cfg s p.sid rtcp key packet).1 ≤ queued p s := by
  unfold sendKeyed
  cases hc : s.conns.lookup p.sid with
  | none => simp
  | some c =>
    have hframe : isHello (encodeFrame (if rtcp then frameRTCP else frameRTP) p.sid
        (encodeKeyed key packet)) = false := by
      cases rtcp <;> rfl
    have hle := hellos_enqueue hc cfg hframe
    dsimp only
    by_cases hauth : c.authOK = true
    swap
    · simp [hauth]
    by_cases hsize : cfg.maxPacketSize > 0 ∧ packet.length > cfg.maxPacketSize
    · simp [hauth, hsize]
    · rw [if_neg (by simp [hauth]), if_neg hsize]
      simpa using hle

/-- What `sendLoop` writes has been queued. -/
theorem hellos_sendLoop (s : State) :
    (written (sendLoop s p.sid).2).countP isHello + queued p (sendLoop s p.sid).1 ≤
      queued p s := by
  unfold sendLoop
  cases hc : s.conns.lookup p.sid with
  | none => simp
  | some c =>
    dsimp only
    cases hq : c.queue with
    | nil => simp
    | cons frame rest =>
      have hqueued := queued_of_lookup hc
      rw [hq, countP_cons] at hqueued
      rw [queued_setConn]
      dsimp only
      cases c.remoteAddr with
      | none =>
        rw [written_nil, countP_nil]
        omega
      | some addr =>
        rw [written_sent, countP_singleton]
        omega

/-- What an endpoint does on its own makes a `HELLO` only if it is an initiation. -/
theorem hellos_act (e : Bool) (s : State) (l : Local) :
    (written (Media.step (p.cfg e) s (p.act e l)).2).countP isHello +
        queued p (Media.step (p.cfg e) s (p.act e l)).1 ≤
      queued p s + if initiates p s l then 1 else 0 := by
  cases l with
  | dial => exact hellos_dial s (p.cfg e) _ _
  | accept known =>
    simp only [Pair.act, Media.step, acceptSession]
    by_cases hclosed : s.closed = true
    · simp [hclosed]
    · rw [if_neg hclosed]
      cases hc : s.conns.lookup p.sid with
      | some c => simp
      | none => simp [queued_setConn]
  | tick idle => exact hellos_tick s (p.cfg e) idle
  | send rtcp key packet => exact hellos_sendKeyed s (p.cfg e) rtcp key packet
  | sendLoop => exact hellos_sendLoop s
  | close =>
    simp only [Pair.act, Media.step]
    cases hc : s.conns.lookup p.sid with
    | none => simp
    | some c => exact (hellos_closeConn s p.sid c).trans (Nat.le_add_right _ _)

/-- A datagram that no connection accepts as a `HELLO` makes none. -/
theorem hellos_datagram {cfg : Config} {b : Bytes} {src : UDPAddr}
    (hun : ∀ sid c, s.conns.lookup sid = some c → ¬ Welcome cfg sid c.remoteNodeID b) :
    (written (handleDatagram cfg s b src).2).countP isHello +
      queued p (handleDatagram cfg s b src).1 ≤ queued p s := by
  rcases handleDatagram_cases cfg s b src with ⟨sid, c, hc, hw, -⟩ | ⟨-, ⟨hs, hout⟩ | hbye⟩
  · exact absurd hw (hun sid c hc)
  · have hsent : written (handleDatagram cfg s b src).2 = [] := by
      refine filterMap_eq_nil_iff.2 fun o ho => ?_
      obtain ⟨sid, c, rtcp, key, packet, -, -, -, rfl⟩ := hout o ho
      rfl
    rw [hsent, hs, countP_nil, Nat.zero_add]
  · obtain ⟨sid, c, -, heq⟩ := hbye
    rw [heq]
    exact hellos_closeConn s sid c

/-- The connections name the other endpoint, and every `HELLO` made so far has its initiation. -/
structure Counted (p : Pair) (s : System) : Prop where
  named : ∀ e sid c, (s.ends e).conns.lookup sid = some c → c.remoteNodeID = p.id !e
  count : s.hellos + queued p (s.ends true) + queued p (s.ends false) ≤ s.initiations

/-- A connection keeps the name of its peer, and `Dial` and `acceptSession` name the other
endpoint. -/
theorem step_named {e : Bool} {a : Act} {sid : SessionId}
    (hs : ∀ i c, s.conns.lookup i = some c → c.remoteNodeID = p.id !e)
    (ha : (∃ l, a = p.act e l) ∨ ∃ b src, a = .datagram b src)
    (h : (Media.step (p.cfg e) s a).1.conns.lookup sid = some c) : c.remoteNodeID = p.id !e := by
  cases step_conn h with
  | kept c₀ old same _ =>
    rw [same]
    exact hs sid c₀ old
  | opened fresh auth call =>
    rcases ha with ⟨l, rfl⟩ | ⟨b, src, rfl⟩
    · cases l <;> simp_all [Pair.act]
    · simp at call
  | welcomed c₀ b src old hello welcome new =>
    rw [new]
    exact hs sid c₀ old

/-- What the step of one endpoint keeps. -/
theorem Counted.moved {s : System} (h : Counted p s) {e : Bool} {out : State × List Output}
    {n : ℕ} (hnamed : ∀ sid c, out.1.conns.lookup sid = some c → c.remoteNodeID = p.id !e)
    (hcount : (written out.2).countP isHello + queued p out.1 ≤ queued p (s.ends e) + n) :
    Counted p { s.moved e out with initiations := s.initiations + n } := by
  have hold := h.count
  refine ⟨fun e' sid c hc => ?_, ?_⟩
  · simp only [moved_ends] at hc
    split_ifs at hc with he
    · exact he ▸ hnamed sid c hc
    · exact h.named e' sid c hc
  · cases e <;> simp only [moved_hellos, moved_ends] <;> simp <;> omega

theorem step_counted (hlong : ∃ e, 255 < (p.id e).length) {s s' : System} {m : Move}
    (h : Counted p s) (hstep : step p s m = some s') : Counted p s' := by
  cases m with
  | act e l =>
    cases hstep
    exact h.moved (fun sid c hc => step_named (h.named e) (.inl ⟨l, rfl⟩) hc)
      (hellos_act e (s.ends e) l)
  | deliver i =>
    simp only [step] at hstep
    split at hstep
    next => cases hstep
    next e b hi =>
      cases hstep
      have hun : ∀ sid c, (s.ends e).conns.lookup sid = some c →
          ¬ Welcome (p.cfg e) sid c.remoteNodeID (b.take readBuffer) := by
        intro sid c hc hw
        have hlen := hw.length_le
        rw [h.named e sid c hc] at hlen
        obtain ⟨e', he'⟩ := hlong
        cases e <;> cases e' <;> simp_all [Pair.cfg] <;> omega
      have h' : Counted p { s with flight := s.flight.eraseIdx i } := ⟨h.named, h.count⟩
      exact h'.moved (n := 0)
        (fun sid c hc => step_named (h.named e) (.inr ⟨_, _, rfl⟩) hc) (hellos_datagram hun)

/-- If an id does not fit its length byte, no `HELLO` is ever accepted, and there is at most one
for each initiation. -/
theorem bounded_of_long (hlong : ∃ e, 255 < (p.id e).length) {as : List Move} {s : System}
    (h : run (step p) {} as = some s) : s.hellos ≤ s.initiations := by
  have hinit : Counted p {} := ⟨fun _ _ _ hc => by simp at hc, le_rfl⟩
  have hcount := (run_invariant_always (fun _ _ _ hs ha => step_counted hlong hs ha) hinit h).count
  omega

end Long

/-- **The handshake is bounded only where it cannot succeed**: the `HELLO` frames of all runs are
bounded by a multiple of the initiations exactly if one of the two node ids is longer than the 255
bytes that its length byte can say. -/
theorem handshake_bounded_iff (p : Pair) :
    (∃ c, ∀ as s, run (step p) {} as = some s → s.hellos ≤ c * s.initiations) ↔
      ∃ e, 255 < (p.id e).length := by
  constructor
  · intro h
    by_contra hshort
    push Not at hshort
    exact not_bounded_of_short hshort h
  · intro hlong
    refine ⟨1, fun as s hs => ?_⟩
    rw [Nat.one_mul]
    exact bounded_of_long hlong hs

/-- The nodes `a` and `b`. -/
def nodesAB : Pair where
  id e := if e then [97] else [98]
  addr e := if e then ⟨[10, 0, 0, 1], 7000⟩ else ⟨[10, 0, 0, 2], 7000⟩
  secret := [7]
  hmac := cutMac
  sid := session

/-- Between the nodes `a` and `b` no number of `HELLO` frames for each initiation is enough. -/
theorem handshake_endless :
    ¬ ∃ c, ∀ as s, run (step nodesAB) {} as = some s → s.hellos ≤ c * s.initiations :=
  not_bounded_of_short (by decide)

end PulseRTC.Media.Handshake
