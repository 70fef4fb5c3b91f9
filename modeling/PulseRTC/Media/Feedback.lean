import PulseRTC.Media.Delivery
import PulseRTC.Media.Pairing

/-!
# Keyframe feedback

A subscriber of a mirrored track asks for a keyframe with an RTCP packet. The packet travels over
the session of the two nodes under the publication's id, and the publishing node hands it to
`DeliverRTCPToPublisher` together with a room. That room is the one the session was opened for, the
room of the first `SubscribeRemote` call, though the session is shared by all rooms of the two
nodes.

* `Shared`: both nodes have the session of the first call, with its room.
* `feedback_iff`: the feedback of all mirrors reaches their rooms exactly if all calls were for the
  room of the first one, and the ids fit a media frame.
-/

namespace PulseRTC.Media.Bridge

open Foundations List Option

/-! ## The way of a packet -/

/-- `SendRTCP` queues the frame. -/
def Sends (cfg : Config) (t : State) (sid : SessionId) (key packet frame : Bytes) : Prop :=
  ∃ c, t.conns.lookup sid = some c ∧
    (sendKeyed cfg t sid true key packet).1.conns.lookup sid =
      some { c with queue := c.queue ++ [frame] }

/-- The transport accepts media of the session from the address. -/
def Accepts (t : State) (sid : SessionId) (src : UDPAddr) : Prop :=
  ∃ c, t.conns.lookup sid = some c ∧ c.authOK = true ∧ c.matchesSource src = true

/-- The `OnRTCP` handler of `wireConn`: the calls of `DeliverRTCPToPublisher`, with room,
publication and packet. -/
def Node.onRTCP (n : Node) (sid : SessionId) (key packet : Bytes) : List (String × Bytes × Bytes) :=
  match n.bySID.lookup sid with
  | none => []
  | some m => if (m.tracks.lookup key).isSome then [] else [(m.roomID, key, packet)]

/-- What a node does with the RTCP packet in a datagram. -/
def Node.feedback (n : Node) (cfg : Config) (t : State) (datagram : Bytes) (src : UDPAddr) :
    List (String × Bytes × Bytes) :=
  (handleDatagram cfg t (datagram.take readBuffer) src).2.flatMap fun
    | .delivered sid _ true key packet => n.onRTCP sid key packet
    | _ => []

def rtcpFrame (sid : SessionId) (key packet : Bytes) : Bytes :=
  encodeFrame frameRTCP sid (encodeKeyed key packet)

variable {sid : SessionId} {room : Option String} {s : System}

theorem Sends.eq_rtcpFrame {cfg : Config} {t : State} {key packet frame : Bytes}
    (h : Sends cfg t sid key packet frame) : frame = rtcpFrame sid key packet := by
  obtain ⟨c, hc, hsend⟩ := h
  exact sendKeyed_enqueued hc hsend

theorem feedback_rtcpFrame (n : Node) (cfg : Config) {t : State} {src : UDPAddr}
    {key packet : Bytes} (hacc : Accepts t sid src)
    (hlen : (rtcpFrame sid key packet).length ≤ readBuffer) :
    n.feedback cfg t (rtcpFrame sid key packet) src = n.onRTCP sid (key.take 255) packet := by
  obtain ⟨c, hc, hauth, hmatch⟩ := hacc
  have hpayload : (encodeKeyed key packet).length < 65536 := by
    rw [rtcpFrame, length_encodeFrame, readBuffer] at hlen
    omega
  have hdatagram : handleDatagram cfg t (rtcpFrame sid key packet) src =
      (t, [.delivered sid c.remoteNodeID true (key.take 255) packet]) :=
    handleDatagram_mediaFrame cfg hc hauth hmatch true key packet hpayload
  rw [Node.feedback, take_of_length_le hlen, hdatagram]
  simp

theorem length_rtcpFrame_nil_le (sid : SessionId) (key : Bytes) :
    (rtcpFrame sid key []).length ≤ readBuffer := by
  rw [rtcpFrame, length_encodeFrame, encodeKeyed, Prefixed.write, readBuffer]
  simp only [append_nil, length_cons, length_take]
  omega

/-- There are transports between which an empty packet travels. -/
theorem exists_path (sid : SessionId) (key : Bytes) :
    ∃ cfg t src, Sends cfg t sid key [] (rtcpFrame sid key []) ∧ Accepts t sid src := by
  let cfg : Config :=
    { selfID := [], secret := [], hmac := fun _ _ => ⟨replicate 32 0, length_replicate⟩ }
  let src : UDPAddr := ⟨[], 0⟩
  let c : Conn := { remoteNodeID := [], remoteAddr := some src, srcOK := true, authOK := true }
  let t : State := State.setConn {} sid c
  have hc : t.conns.lookup sid = some c := by rw [State.lookup_setConn, if_pos rfl]
  refine ⟨cfg, t, src, ⟨c, hc, ?_⟩, c, hc, rfl, by simp [Conn.matchesSource, c]⟩
  have hroom : c.queue.length < cfg.depth := cfg.depth_pos
  have hsend : sendKeyed cfg t sid true key [] =
      (t.setConn sid (c.enqueue cfg (rtcpFrame sid key [])), []) := by
    simp only [sendKeyed, hc]
    rfl
  rw [hsend, State.lookup_setConn, if_pos rfl, Conn.enqueue, if_pos hroom]

/-! ## One node subscribes -/

/-- The room of the first `SubscribeRemote` call of the node `true` that finds the other node. -/
def firstRoom (as : List Move) : Option String :=
  as.findSome? fun
    | .subscribe true roomID _ _ .ready => some roomID
    | _ => none

/-- The move is not a `SubscribeRemote` call of the node `false`. -/
def OneSided : Move → Prop
  | .subscribe i _ _ _ _ => i = true
  | _ => True

instance (m : Move) : Decidable (OneSided m) := by
  unfold OneSided
  split <;> infer_instance

def Msg.opens : Msg → Bool
  | .sessionOpen _ _ => true
  | _ => false

/-- A step of a node that opens no session: the sessions stay, with their rooms, and a node without
calls and tracks gets none. -/
structure Node.Calm (n : Node) (out : Node × List Msg) : Prop where
  byNode : out.1.byNode = n.byNode
  sessions : ∀ sid m', out.1.bySID.lookup sid = some m' → ∃ m, n.bySID.lookup sid = some m ∧
    m'.roomID = m.roomID ∧ (n.calls = [] → ∀ p, m.tracks.lookup p = none →
      m'.tracks.lookup p = none)
  calls : n.calls = [] → out.1.calls = []
  sent : ∀ m ∈ out.2, m.opens = false

variable {out : Node × List Msg} {m : MediaSession} {k : ℕ} {i : Bool}

namespace Node

variable {n n' : Node}

variable {msgs : List Msg}

/-- The sessions are as before. -/
theorem calm_of_eq (hnode : n'.byNode = n.byNode) (hsid : n'.bySID = n.bySID)
    (hcalls : n.calls = [] → n'.calls = []) (hsent : ∀ m ∈ msgs, m.opens = false) :
    n.Calm (n', msgs) := by
  refine ⟨hnode, fun sid m hm => ⟨m, ?_, rfl, fun _ _ h => h⟩, hcalls, hsent⟩
  rwa [hsid] at hm

theorem Calm.onSession (h : n.Calm (n', msgs)) {sid : SessionId} {f : MediaSession → MediaSession}
    (hroom : ∀ m : MediaSession, (f m).roomID = m.roomID)
    (htrack : n.calls = [] → ∀ (m : MediaSession) p, m.tracks.lookup p = none →
      (f m).tracks.lookup p = none) :
    n.Calm (n'.onSession sid f, msgs) := by
  refine ⟨(n'.onSession_byNode sid f).trans h.byNode, fun j m' hm' => ?_, fun hc => ?_, h.sent⟩
  · rw [onSession_lookup] at hm'
    split_ifs at hm' with hj
    · obtain ⟨m₁, hm₁, rfl⟩ := map_eq_some_iff.1 hm'
      obtain ⟨m, hm, hr, ht⟩ := h.sessions sid m₁ hm₁
      refine ⟨m, hj ▸ hm, (hroom m₁).trans hr, fun hc p hp => ?_⟩
      exact htrack hc m₁ p (ht hc p hp)
    · exact h.sessions j m' hm'
  · rw [onSession_calls]
    exact h.calls hc

theorem calm_refl (hsent : ∀ m ∈ msgs, m.opens = false) : n.Calm (n, msgs) :=
  calm_of_eq rfl rfl id hsent

theorem Calm.complete (h : n.Calm (n', msgs)) (pub : Bytes) (op : Op) :
    n.Calm (n'.complete pub op, msgs) :=
  ⟨h.byNode, h.sessions, h.calls, h.sent⟩

theorem lookup_removeTrack {pub p : Bytes} (h : m.tracks.lookup p = none) :
    (m.removeTrack pub).tracks.lookup p = none := by
  rw [MediaSession.removeTrack, GoMap.lookup_erase_eq, h]
  split_ifs <;> rfl

theorem calm_proceed (h : n.proceed k = some out) : n.Calm out := by
  unfold proceed at h
  split at h
  next => cases h
  next c hc =>
    have hne : n.calls ≠ [] := ne_nil_of_mem (mem_of_getElem? hc)
    split at h
    next =>
      split_ifs at h
      split at h
      all_goals cases h
      · exact calm_of_eq rfl rfl (fun h => absurd h hne) (by simp)
      · exact calm_of_eq rfl rfl (fun h => absurd h hne) (by simp [Msg.opens])
    next => cases h

theorem calm_finish {other : Bool} {herr : Option Error}
    (h : n.finish other k herr = some n') : n.Calm (n', []) := by
  unfold finish at h
  split at h
  next => cases h
  next c hc =>
    have hne : n.calls ≠ [] := ne_nil_of_mem (mem_of_getElem? hc)
    split at h
    next =>
      split at h
      all_goals cases h
      · exact calm_of_eq rfl rfl (fun h => absurd h hne) (by simp)
      · exact calm_of_eq rfl rfl (fun h => absurd h hne) (by simp)
      next =>
        let n₀ : Node := { n with
          calls := n.calls.eraseIdx k
          pendingSubAck := n.pendingSubAck.erase (c.sid, c.pub) }
        have h₀ : n.Calm (n₀, []) := calm_of_eq rfl rfl (fun h => absurd h hne) (by simp)
        refine Calm.complete (Calm.onSession h₀ ?_ ?_) c.pub _
        · exact fun _ => rfl
        · exact fun h => absurd h hne
    next => cases h

theorem calm_unsubscribeRemote (pub : Bytes) : n.Calm (n.unsubscribeRemote pub) := by
  unfold unsubscribeRemote
  cases n.byNode with
  | none => exact (calm_refl (by simp)).complete pub _
  | some sid =>
    refine Calm.complete (Calm.onSession (calm_refl ?_) ?_ ?_) pub _
    · simp [Msg.opens]
    · exact fun _ => rfl
    · exact fun _ _ _ => lookup_removeTrack

theorem calm_publicationEnded (pub : Bytes) : n.Calm (n.publicationEnded pub) := by
  have h₀ : ∀ msgs : List Msg, (∀ m ∈ msgs, m.opens = false) → n.Calm (n.markEnded pub, msgs) :=
    fun msgs hsent => calm_of_eq rfl rfl id hsent
  unfold publicationEnded
  cases n.byNode with
  | none => exact h₀ [] (by simp)
  | some sid =>
    dsimp only
    split_ifs
    · exact (h₀ _ (by simp [Msg.opens])).onSession (fun _ => rfl) fun _ _ _ h => h
    · exact h₀ [] (by simp)

theorem calm_handleControl {m : Msg} (hm : m.opens = false) : n.Calm (n.handleControl m) := by
  cases m with
  | sessionOpen sid roomID => cases hm
  | sessionAccept sid => exact calm_of_eq rfl rfl id (by simp)
  | subscribe sid roomID pub =>
    simp only [handleControl, onSubscribe]
    cases n.bySID.lookup sid with
    | none => exact calm_refl (by simp [Msg.opens])
    | some m =>
      dsimp only
      cases n.attachForwarder roomID pub with
      | none => exact calm_refl (by simp [Msg.opens])
      | some params =>
        exact (calm_refl (by simp [Msg.opens])).onSession (fun _ => rfl) fun _ _ _ h => h
  | subscribeAck sid pub a =>
    simp only [handleControl, resolveSubAck]
    cases n.bySID.lookup sid with
    | none => exact calm_refl (by simp)
    | some m =>
      dsimp only
      cases n.pendingSubAck.lookup (sid, pub) with
      | none => exact calm_refl (by simp)
      | some id =>
        refine calm_of_eq rfl rfl (fun h => ?_) (by simp)
        rw [h]
        rfl
  | unsubscribe sid pub => exact (calm_refl (by simp)).onSession (fun _ => rfl) fun _ _ _ h => h
  | trackEnded sid pub =>
    exact (calm_refl (by simp)).onSession (fun _ => rfl) fun _ _ _ => lookup_removeTrack

end Node

/-! ## The room of the session -/

/-- The node `n` alone subscribes, the first time for `room`; the other node is `f`, and the
messages in flight are `l`. -/
structure Shared (room : Option String) (n f : Node) (l : List (Bool × Msg)) : Prop where
  idle : f.calls = []
  bare : ∀ sid m p, f.bySID.lookup sid = some m → m.tracks.lookup p = none
  near : ∀ sid m, n.bySID.lookup sid = some m → room = some m.roomID
  far : ∀ sid m, f.bySID.lookup sid = some m → room = some m.roomID
  opens : ∀ i sid roomID, (i, Msg.sessionOpen sid roomID) ∈ l → i = false ∧ room = some roomID
  /-- The session is opened once. -/
  once : (l.countP fun x => x.2.opens) + f.byNode.toList.length = n.byNode.toList.length
  first : n.byNode = none → room = none

/-- What holds in a run in which only the node `true` subscribes, the first time for `room`. -/
def System.Shared (room : Option String) (s : System) : Prop :=
  Single s ∧ Bridge.Shared room (s.nodes true) (s.nodes false) s.flight

namespace Shared

variable {room : Option String} {n f : Node} {l : List (Bool × Msg)}

variable {l' : List (Bool × Msg)}

/-- The messages in flight are fewer, or there are others, but as many openings as before. -/
theorem flight (h : Shared room n f l) (hmem : ∀ x ∈ l', x.2.opens = true → x ∈ l)
    (hcount : (l'.countP fun x => x.2.opens) = l.countP fun x => x.2.opens) :
    Shared room n f l' := by
  refine ⟨h.idle, h.bare, h.near, h.far, fun i sid roomID hx => ?_, hcount ▸ h.once, h.first⟩
  exact h.opens i sid roomID (hmem _ hx rfl)

/-- Messages are sent that open no session. -/
theorem sent (h : Shared room n f l) {msgs : List Msg} (hmsgs : ∀ m ∈ msgs, m.opens = false) :
    Shared room n f (l ++ msgs.map fun m => (i, m)) := by
  have hnone : ∀ x ∈ msgs.map fun m => (i, m), x.2.opens = false := by
    intro x hx
    obtain ⟨m, hm, rfl⟩ := mem_map.1 hx
    exact hmsgs m hm
  refine h.flight (fun x hx hopen => ?_) ?_
  · rcases mem_append.1 hx with hx | hx
    · exact hx
    · simp [hnone x hx] at hopen
  · have hzero : (msgs.map fun m => (i, m)).countP (fun x => x.2.opens) = 0 :=
      countP_eq_zero.2 fun x hx => by simp [hnone x hx]
    rw [countP_append, hzero, Nat.add_zero]

theorem calm_near (h : Shared room n f l) (hcalm : n.Calm out) : Shared room out.1 f l := by
  refine ⟨h.idle, h.bare, fun sid m' hm' => ?_, h.far, h.opens, ?_, ?_⟩
  · obtain ⟨m, hm, hroom, -⟩ := hcalm.sessions sid m' hm'
    rw [hroom]
    exact h.near sid m hm
  · rw [hcalm.byNode]
    exact h.once
  · rw [hcalm.byNode]
    exact h.first

theorem calm_far (h : Shared room n f l) (hcalm : f.Calm out) : Shared room n out.1 l := by
  refine ⟨hcalm.calls h.idle, fun sid m' p hm' => ?_, h.near, fun sid m' hm' => ?_, h.opens, ?_,
    h.first⟩
  · obtain ⟨m, hm, -, htrack⟩ := hcalm.sessions sid m' hm'
    exact htrack h.idle p (h.bare sid m p hm)
  · obtain ⟨m, hm, hroom, -⟩ := hcalm.sessions sid m' hm'
    rw [hroom]
    exact h.far sid m hm
  · rw [hcalm.byNode]
    exact h.once

variable {o : Option SessionId}

theorem lookup_eq_none (hn : n.Tidy o) (hnone : n.byNode = none) (sid : SessionId) :
    n.bySID.lookup sid = none := by
  cases hm : n.bySID.lookup sid with
  | none => rfl
  | some m =>
    have hnode := hn.only sid m hm
    rw [hnone] at hnode
    cases hnode

/-- `SubscribeRemote` of the node `n`: only the first call opens the session. -/
theorem subscribe (h : Shared room n f l) (hn : n.Tidy o) (roomID : String) (pub : Bytes)
    (fresh : SessionId) (other : Registered) :
    Shared (room.or (firstRoom [.subscribe true roomID pub fresh other]))
      (n.beginSubscribe roomID pub fresh other).1 f
      (l ++ (n.beginSubscribe roomID pub fresh other).2.map fun m => (false, m)) := by
  cases hnode : n.byNode with
  | some sid =>
    obtain ⟨m, hm⟩ := hn.held sid hnode
    have hroom := h.near sid m hm
    rw [hroom, some_or, ← hroom]
    simp only [Node.beginSubscribe, Node.ensureSession, hnode, map_nil, append_nil]
    exact ⟨h.idle, h.bare, h.near, h.far, h.opens, hnode ▸ h.once, nofun⟩
  | none =>
    obtain rfl := h.first hnode
    have hempty := lookup_eq_none hn hnode
    rw [none_or]
    cases other with
    | ready =>
      have hbefore := h.once
      simp only [hnode, toList_none, length_nil] at hbefore
      simp only [Node.beginSubscribe, Node.ensureSession, hnode, map_singleton]
      refine ⟨h.idle, h.bare, fun sid m hm => ?_, fun sid m hm => ?_, fun i sid r hx => ?_, ?_,
        nofun⟩
      · rw [GoMap.lookup_insert_eq, hempty] at hm
        split_ifs at hm
        rw [← some.inj hm]
        rfl
      · cases h.far sid m hm
      · rcases mem_append.1 hx with hx | hx
        · cases (h.opens i sid r hx).2
        · simp only [mem_singleton, Prod.mk.injEq, Msg.sessionOpen.injEq] at hx
          exact ⟨hx.1, by rw [hx.2.2]; rfl⟩
      · have hone : [(false, Msg.sessionOpen fresh roomID)].countP (fun x => x.2.opens) = 1 := rfl
        rw [countP_append, hone]
        simp only [toList_some, length_singleton]
        omega
    | _ =>
      have hcalm : ∀ op, n.Calm (n.complete pub op, []) := fun op =>
        (Node.calm_refl (by simp)).complete pub op
      simp only [Node.beginSubscribe, Node.ensureSession, hnode, map_nil, append_nil]
      exact h.calm_near (hcalm _)

/-- The other node handles the `media.session.open`. -/
theorem sessionOpen (h : Shared room n f l) (hf : f.Tidy o) {sid : SessionId} {roomID : String}
    (hnone : f.byNode = none) (hmem : (false, Msg.sessionOpen sid roomID) ∈ l)
    (hsub : ∀ x ∈ l', x ∈ l)
    (hcount : (l.countP fun x => x.2.opens) = (l'.countP fun x => x.2.opens) + 1) :
    Shared room n (f.onSessionOpen sid roomID).1 l' := by
  have hempty := lookup_eq_none hf hnone
  have hroom := (h.opens false sid roomID hmem).2
  -- the one session of this node
  have hnew : ∀ j m, (f.bySID.insert sid { roomID := roomID }).lookup j = some m →
      m = { roomID := roomID } := by
    intro j m hm
    rw [GoMap.lookup_insert_eq, hempty] at hm
    split_ifs at hm
    exact (some.inj hm).symm
  simp only [Node.onSessionOpen, hempty]
  refine ⟨h.idle, fun j m p hm => ?_, h.near, fun j m hm => ?_,
    fun i j r hx => h.opens i j r (hsub _ hx), ?_, h.first⟩
  · rw [hnew j m hm]
    rfl
  · rw [hnew j m hm]
    exact hroom
  · have honce := h.once
    rw [hcount, hnone] at honce
    exact honce

end Shared

theorem System.Shared.uncrossed (h : s.Shared room) (m : Move) : Uncrossed s m := by
  cases m with
  | deliver k =>
    unfold Uncrossed
    dsimp only
    split
    next i sid roomID hk =>
      have hmem := mem_of_getElem? hk
      obtain ⟨rfl, -⟩ := h.2.opens i sid roomID hmem
      have hpos : 0 < s.flight.countP fun x => x.2.opens :=
        countP_pos_iff.2 ⟨_, hmem, rfl⟩
      have honce := h.2.once
      have hle : (s.nodes true).byNode.toList.length ≤ 1 := by
        cases (s.nodes true).byNode <;> simp
      cases hnode : (s.nodes false).byNode with
      | none => rfl
      | some sid' =>
        simp only [hnode, toList_some, length_singleton] at honce
        omega
    next => trivial
  | _ => trivial

/-- A node makes a step that opens no session. -/
theorem System.Shared.calm (h : s.Shared room)
    (hsingle : Single (s.moved i out)) (hcalm : (s.nodes i).Calm out) :
    (s.moved i out).Shared room := by
  refine ⟨hsingle, ?_⟩
  cases i with
  | false =>
    rw [moved_nodes_self, moved_false_true]
    exact (h.2.calm_far hcalm).sent hcalm.sent
  | true =>
    rw [moved_nodes_self, moved_true_false]
    exact (h.2.calm_near hcalm).sent hcalm.sent

/-- A message is delivered. -/
theorem System.Shared.deliver (h : s.Shared room) {m : Msg} (hk : s.flight[k]? = some (i, m))
    (hsingle : Single (System.moved { s with flight := s.flight.eraseIdx k } i
      ((s.nodes i).handleControl m))) :
    (System.moved { s with flight := s.flight.eraseIdx k } i
      ((s.nodes i).handleControl m)).Shared room := by
  obtain ⟨l₁, l₂, hl, herase, -⟩ := exists_split hk
  have hsub : ∀ x ∈ s.flight.eraseIdx k, x ∈ s.flight := fun x => mem_of_mem_eraseIdx
  have hcount : (s.flight.countP fun x => x.2.opens) =
      ((s.flight.eraseIdx k).countP fun x => x.2.opens) + if m.opens then 1 else 0 := by
    rw [herase, hl, countP_append, countP_append, countP_cons, Nat.add_assoc]
  cases hm : m.opens with
  | false =>
    rw [hm] at hcount
    have ht : System.Shared room { s with flight := s.flight.eraseIdx k } :=
      ⟨⟨h.1.tidy, fun x hx => h.1.about x (hsub x hx)⟩,
        h.2.flight (fun x hx _ => hsub x hx) hcount.symm⟩
    exact ht.calm hsingle (Node.calm_handleControl hm)
  | true =>
    rw [hm] at hcount
    cases m with
    | sessionOpen sid roomID =>
      have hmem := mem_of_getElem? hk
      obtain ⟨rfl, -⟩ := h.2.opens i sid roomID hmem
      have hnone : (s.nodes false).byNode = none := by
        simpa [Uncrossed, hk] using h.uncrossed (.deliver k)
      refine ⟨hsingle, ?_⟩
      rw [moved_nodes_self, moved_false_true]
      refine (h.2.sessionOpen (h.1.tidy false) hnone hmem hsub hcount).sent ?_
      simp [Node.handleControl, Node.onSessionOpen_sent, Msg.opens]
    | _ => cases hm

theorem step_shared {s' : System} {m : Move} (h : s.Shared room) (hone : OneSided m)
    (hstep : step s m = some s') : s'.Shared (room.or (firstRoom [m])) := by
  have hsingle : Single s' := step_single h.1 (h.uncrossed m) hstep
  -- a move other than the first call leaves the room as it is
  have hsame : ∀ t : System, t.Shared room → firstRoom [m] = none →
      t.Shared (room.or (firstRoom [m])) := by
    intro t ht hnone
    rwa [hnone, or_none]
  cases m with
  | publish i roomID pub params =>
    simp only [step] at hstep
    split_ifs at hstep
    cases hstep
    exact hsame _ (h.calm hsingle (Node.calm_of_eq rfl rfl id (by simp))) rfl
  | unpublish i pub =>
    cases hstep
    exact hsame _ (h.calm hsingle (Node.calm_of_eq rfl rfl id (by simp))) rfl
  | subscribe i roomID pub fresh other =>
    obtain rfl : i = true := hone
    simp only [step] at hstep
    split_ifs at hstep
    cases hstep
    refine ⟨hsingle, ?_⟩
    rw [moved_nodes_self, moved_true_false]
    exact h.2.subscribe (h.1.tidy true) roomID pub fresh other
  | proceed i k =>
    obtain ⟨out, hout, rfl⟩ := map_eq_some_iff.1 hstep
    exact hsame _ (h.calm hsingle (Node.calm_proceed hout)) rfl
  | finish i k herr =>
    obtain ⟨n, hn, rfl⟩ := map_eq_some_iff.1 hstep
    exact hsame _ (h.calm hsingle (Node.calm_finish hn)) rfl
  | unsubscribe i pub =>
    cases hstep
    exact hsame _ (h.calm hsingle (Node.calm_unsubscribeRemote pub)) rfl
  | publicationEnded i pub =>
    simp only [step] at hstep
    split_ifs at hstep
    cases hstep
    exact hsame _ (h.calm hsingle (Node.calm_publicationEnded pub)) rfl
  | authenticate i sid =>
    simp only [step] at hstep
    split_ifs at hstep
    cases hstep
    refine hsame _ (h.calm hsingle (Node.Calm.onSession (Node.calm_refl (by simp)) ?_ ?_)) rfl
    · exact fun _ => rfl
    · exact fun _ _ _ h => h
  | deliver k =>
    simp only [step] at hstep
    split at hstep
    next => cases hstep
    next i m hk =>
      cases hstep
      exact hsame _ (h.deliver hk hsingle) rfl

/-- In a run in which the node `true` alone subscribes, both nodes have the room of its first
call. -/
theorem run_shared {as : List Move} (h : run step {} as = some s) (hone : ∀ m ∈ as, OneSided m) :
    s.Shared (firstRoom as) := by
  have hinit : System.Shared none {} := by
    refine ⟨single_init, rfl, ?_, ?_, ?_, nofun, rfl, fun _ => rfl⟩ <;> intro sid m <;> simp
  refine run_history (G := fun _ m => OneSided m) (J := fun as s => s.Shared (firstRoom as)) hinit
    (fun as s m s' _ hs hm hstep => ?_) (Along.of_forall fun m hm _ => hone m hm) h
  rw [firstRoom, findSome?_append]
  exact step_shared hs hm hstep

/-- **Feedback reaches the publisher only in the room of the first call**: in a run in which the
node `true` subscribes to publications of the other node, the RTCP packets of all its mirrors are
handed over with their own room and id exactly if all mirrors are for the room of the first
`SubscribeRemote` call and their ids have at most 255 bytes. -/
theorem feedback_iff {as : List Move} {s : System} (h : run step {} as = some s)
    (hone : ∀ m ∈ as, OneSided m) :
    (∀ sid m pub info, (s.nodes true).bySID.lookup sid = some m →
        m.tracks.lookup pub = some info → ∀ cfg t packet frame, Sends cfg t sid pub packet frame →
        frame.length ≤ readBuffer → ∀ cfg' t' src, Accepts t' sid src →
        (s.nodes false).feedback cfg' t' frame src = [(info.roomID, pub, packet)]) ↔
      ∀ sid m pub info, (s.nodes true).bySID.lookup sid = some m →
        m.tracks.lookup pub = some info → firstRoom as = some info.roomID ∧ pub.length ≤ 255 := by
  have hshared := run_shared h hone
  -- what becomes of a packet of a mirror
  have hpath : ∀ sid m pub info packet, (s.nodes true).bySID.lookup sid = some m →
      m.tracks.lookup pub = some info → ∃ r, firstRoom as = some r ∧
        (s.nodes false).onRTCP sid (pub.take 255) packet = [(r, pub.take 255, packet)] := by
    intro sid m pub info packet hm hinfo
    have hused := (hshared.1.tidy true).used sid m hm (.inr (.inr ⟨pub, info, hinfo⟩))
    obtain ⟨m', hm'⟩ := (hshared.1.tidy false).held sid hused
    refine ⟨m'.roomID, hshared.2.far sid m' hm', ?_⟩
    simp [Node.onRTCP, hm', hshared.2.bare sid m' _ hm']
  constructor
  · intro hall sid m pub info hm hinfo
    obtain ⟨cfg, t, src, hsend, hacc⟩ := exists_path sid pub
    have hlen := length_rtcpFrame_nil_le sid pub
    have hfeed := hall sid m pub info hm hinfo cfg t [] _ hsend hlen cfg t src hacc
    obtain ⟨r, hr, hrtcp⟩ := hpath sid m pub info [] hm hinfo
    rw [feedback_rtcpFrame _ cfg hacc hlen, hrtcp] at hfeed
    simp only [cons.injEq, Prod.mk.injEq, and_true] at hfeed
    refine ⟨hr.trans (congrArg some hfeed.1), ?_⟩
    rw [← hfeed.2]
    exact length_take_le 255 pub
  · intro hall sid m pub info hm hinfo cfg t packet frame hsend hlen cfg' t' src hacc
    obtain ⟨hroom, hpub⟩ := hall sid m pub info hm hinfo
    obtain ⟨r, hr, hrtcp⟩ := hpath sid m pub info packet hm hinfo
    obtain rfl := hsend.eq_rtcpFrame
    rw [feedback_rtcpFrame _ cfg' hacc hlen, hrtcp, take_of_length_le hpub, mem_unique hr hroom]

/-- The node `true` subscribes to two publications of the other node, the second in `room`. -/
def subscribedTwice (room : String) : List Move :=
  [Move.publish false "r" [1] camera, Move.publish false room [2] camera,
    Move.subscribe true "r" [1] sessionA .ready,
    Move.deliver 0,
    Move.deliver 0,
    Move.authenticate true sessionA,
    Move.proceed true 0,
    Move.deliver 0,
    Move.deliver 0,
    Move.finish true 0 none,
    Move.subscribe true room [2] sessionB .ready,
    Move.proceed true 0,
    Move.deliver 0,
    Move.deliver 0,
    Move.finish true 0 none]

theorem forall_tracks {n : Node} {P : RemotePublicationInfo → Bytes → Prop}
    (h : ∀ sid ∈ n.bySID.keys, ∀ m ∈ n.bySID.lookup sid, ∀ pub ∈ m.tracks.keys,
      ∀ info ∈ m.tracks.lookup pub, P info pub) {pub : Bytes} {info : RemotePublicationInfo}
    (hm : n.bySID.lookup sid = some m) (hinfo : m.tracks.lookup pub = some info) : P info pub := by
  refine h sid ?_ m hm pub ?_ info hinfo
  · rw [Finmap.mem_keys, Finmap.mem_iff]
    exact ⟨m, hm⟩
  · rw [Finmap.mem_keys, Finmap.mem_iff]
    exact ⟨info, hinfo⟩

/-- With both publications in one room the feedback of both arrives. -/
theorem feedback_iff_one_room : ∃ s ∈ run step {} (subscribedTwice "r"),
    ∀ sid m pub info, (s.nodes true).bySID.lookup sid = some m →
      m.tracks.lookup pub = some info → ∀ cfg t packet frame, Sends cfg t sid pub packet frame →
      frame.length ≤ readBuffer → ∀ cfg' t' src, Accepts t' sid src →
      (s.nodes false).feedback cfg' t' frame src = [(info.roomID, pub, packet)] := by
  have hone : ∀ m ∈ subscribedTwice "r", OneSided m := by decide
  have hrun : ∃ s ∈ run step {} (subscribedTwice "r"),
      ∀ sid ∈ (s.nodes true).bySID.keys, ∀ m ∈ (s.nodes true).bySID.lookup sid,
        ∀ pub ∈ m.tracks.keys, ∀ info ∈ m.tracks.lookup pub,
          firstRoom (subscribedTwice "r") = some info.roomID ∧ pub.length ≤ 255 := by
    decide +kernel
  obtain ⟨s, hs, htracks⟩ := hrun
  refine ⟨s, hs, (feedback_iff hs hone).2 fun sid m pub info hm hinfo => ?_⟩
  exact forall_tracks htracks hm hinfo

/-- A transport with the connection of the session. -/
def linked : State :=
  State.setConn {} sessionA
    { remoteNodeID := [97]
      remoteAddr := some ⟨[10, 0, 0, 1], 7000⟩
      srcOK := true
      authOK := true }

/-- The configuration of a transport. -/
def linkConfig : Config :=
  { selfID := [98], secret := [7], hmac := fun _ _ => ⟨List.replicate 32 0, by simp⟩ }

/-- With the publications in two rooms the feedback of the second mirror is handed over with the
room of the first. -/
theorem feedback_misrouted : ∃ s ∈ run step {} (subscribedTwice "q"),
    (∃ m ∈ (s.nodes true).bySID.lookup sessionA, ∃ info ∈ m.tracks.lookup [2], info.roomID = "q") ∧
    (∃ c ∈ (sendKeyed linkConfig linked sessionA true [2] [129, 206]).1.conns.lookup sessionA,
      ∃ frame ∈ c.queue, (s.nodes false).feedback linkConfig linked frame ⟨[10, 0, 0, 1], 7000⟩ =
        [("r", [2], [129, 206])]) := by
  decide +kernel

end PulseRTC.Media.Bridge
