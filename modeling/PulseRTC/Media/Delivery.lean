import PulseRTC.Media.Transport

/-!
# Media from one transport to the other

`SendRTP` and `SendRTCP` put a frame into the send queue if the packet is within the configured
size; the peer reads the datagram into a buffer of its own fixed size and hands the packet to its
handler. The limit of the sender, the length field of the frame and the buffer of the receiver are
set in three places.

* `decodeFrame_take`: a frame that is cut is refused, never taken for a shorter one.
* `media_arrives_iff`: so a packet arrives exactly if its frame fits the buffer.
-/

namespace PulseRTC.Media

open Foundations List

def mediaFrame (sid : SessionId) (rtcp : Bool) (key packet : Bytes) : Bytes :=
  encodeFrame (if rtcp then frameRTCP else frameRTP) sid (encodeKeyed key packet)

theorem length_mediaFrame (sid : SessionId) (rtcp : Bool) {key : Bytes} (packet : Bytes)
    (hkey : key.length ≤ 255) :
    (mediaFrame sid rtcp key packet).length = 22 + key.length + packet.length := by
  rw [mediaFrame, length_encodeFrame, encodeKeyed, Prefixed.write, take_of_length_le hkey,
    length_append, length_cons]
  omega

variable {sid : SessionId} {s : State} {c : Conn} {payload : Bytes}

/-- A call that queues a frame has queued that of its packet. -/
theorem sendKeyed_enqueued {cfg : Config} {rtcp : Bool}
    {key packet frame : Bytes} (hc : s.conns.lookup sid = some c)
    (hsend : (sendKeyed cfg s sid rtcp key packet).1.conns.lookup sid =
      some { c with queue := c.queue ++ [frame] }) :
    frame = mediaFrame sid rtcp key packet := by
  -- a call that is refused leaves the queue as it is
  have hsame : s.conns.lookup sid ≠ some { c with queue := c.queue ++ [frame] } := by
    rw [hc]
    intro heq
    have hq : c.queue = c.queue ++ [frame] := congrArg Conn.queue (Option.some.inj heq)
    simp at hq
  unfold sendKeyed at hsend
  simp only [hc] at hsend
  split_ifs at hsend
  · exact absurd hsend hsame
  · exact absurd hsend hsame
  all_goals
    rw [State.lookup_setConn, if_pos rfl] at hsend
    have hq := congrArg Conn.queue (Option.some.inj hsend)
    unfold Conn.enqueue at hq
    split_ifs at hq
    · rename_i hrtcp _
      rw [← (append_singleton_inj.1 hq).2, mediaFrame]
      simp only [hrtcp, if_true, if_false, Bool.false_eq_true]
    · simp at hq

/-- The transport accepts media of the session from the address. -/
theorem handleDatagram_mediaFrame (cfg : Config) {src : UDPAddr}
    (hc : s.conns.lookup sid = some c) (hauth : c.authOK = true)
    (hmatch : c.matchesSource src = true) (rtcp : Bool) (key packet : Bytes)
    (hlen : (encodeKeyed key packet).length < 65536) :
    handleDatagram cfg s (mediaFrame sid rtcp key packet) src =
      (s, [.delivered sid c.remoteNodeID rtcp (key.take 255) packet]) := by
  have hframe : decodeFrame (mediaFrame sid rtcp key packet) =
      some ⟨if rtcp then frameRTCP else frameRTP, sid, encodeKeyed key packet⟩ := by
    rw [mediaFrame, decodeFrame_encodeFrame, Nat.mod_eq_of_lt hlen, take_length]
  cases rtcp <;>
    simp [handleDatagram, hframe, hc, hauth, hmatch, deliver, decodeKeyed_encodeKeyed, frameRTCP,
      frameHello, frameBye, frameRTP]

/-! ## Cut frames -/

theorem getD_take {α : Type*} (l : List α) {i n : ℕ} (d : α) (h : i < n) :
    (l.take n).getD i d = l.getD i d := by
  rw [getD_eq_getElem?_getD, getD_eq_getElem?_getD, getElem?_take_of_lt h]

theorem uint16_encodeFrame (kind : UInt8) (sid : SessionId) (hlen : payload.length < 65536) :
    uint16 ((encodeFrame kind sid payload).getD 19 0) ((encodeFrame kind sid payload).getD 20 0) =
      payload.length := by
  have hsid := sid.2
  have hsplit : encodeFrame kind sid payload = ([mediaMagic, mediaVersion, kind] ++ sid.1) ++
      (UInt8.ofNat (payload.length / 256) :: UInt8.ofNat payload.length :: payload) := by
    simp [encodeFrame]
  have hpre : ([mediaMagic, mediaVersion, kind] ++ sid.1).length = 19 := by simp [hsid]
  rw [hsplit, getD_append_right _ _ _ _ (by omega), getD_append_right _ _ _ _ (by omega), hpre]
  exact (uint16_length payload.length).trans (Nat.mod_eq_of_lt hlen)

/-- A frame that is cut anywhere is refused. -/
theorem decodeFrame_take (kind : UInt8) (sid : SessionId) {n : ℕ}
    (hlen : payload.length < 65536) (hn : n < (encodeFrame kind sid payload).length) :
    decodeFrame ((encodeFrame kind sid payload).take n) = none := by
  have hcut : ((encodeFrame kind sid payload).take n).length = n := by
    rw [length_take]
    omega
  rw [length_encodeFrame] at hn
  rw [decodeFrame]
  split
  · rename_i hhead
    -- the header is whole, and says more than there is
    rw [hcut, mediaHeaderSize] at hhead
    refine if_neg fun hplen => ?_
    rw [hcut, mediaHeaderSize, getD_take _ _ (by omega), getD_take _ _ (by omega),
      uint16_encodeFrame kind sid hlen] at hplen
    omega
  · rfl

/-- A packet arrives if it is handed to the handler of its session, whole and under its key, and
nothing else is. -/
def Arrives (out : List Output) (sid : SessionId) (node : Bytes) (rtcp : Bool)
    (key packet : Bytes) : Prop :=
  out = [.delivered sid node rtcp key packet]

/-- A packet that was queued arrives at an authenticated peer exactly if its frame fits the buffer
that the peer reads into. -/
theorem media_arrives_iff (cfg cfg' : Config) (s s' : State) (sid : SessionId) (rtcp : Bool)
    (key packet frame : Bytes) (c d : Conn) (src : UDPAddr) (hkey : key.length ≤ 255)
    (hc : s.conns.lookup sid = some c)
    (hsend : sendKeyed cfg s sid rtcp key packet =
      (s.setConn sid { c with queue := c.queue ++ [frame] }, []))
    (hudp : frame.length < 65507) (hd : s'.conns.lookup sid = some d) (hauth : d.authOK = true)
    (hmatch : d.matchesSource src = true) :
    Arrives (handleDatagram cfg' s' (frame.take readBuffer) src).2 sid d.remoteNodeID rtcp key
        packet ↔ 22 + key.length + packet.length ≤ readBuffer := by
  have hqueued : (sendKeyed cfg s sid rtcp key packet).1.conns.lookup sid =
      some { c with queue := c.queue ++ [frame] } := by
    rw [hsend, State.lookup_setConn, if_pos rfl]
  obtain rfl := sendKeyed_enqueued hc hqueued
  have hpayload : (encodeKeyed key packet).length < 65536 := by
    rw [mediaFrame, length_encodeFrame] at hudp
    omega
  rw [← length_mediaFrame sid rtcp packet hkey]
  constructor
  · intro harrives
    by_contra hlong
    have hnone : decodeFrame ((mediaFrame sid rtcp key packet).take readBuffer) = none :=
      decodeFrame_take _ sid hpayload (Nat.lt_of_not_le hlong)
    rw [Arrives, handleDatagram, hnone] at harrives
    cases harrives
  · intro hfits
    rw [Arrives, take_of_length_le hfits,
      handleDatagram_mediaFrame cfg' hd hauth hmatch rtcp key packet hpayload,
      take_of_length_le hkey]

/-! ## Two nodes of a network with large frames -/

theorem length_jumboMac : (List.replicate 32 0 : Bytes).length = 32 := length_replicate

/-- A configuration with a `MaxPacketSize` of 9000. -/
def jumboConfig : Config :=
  { selfID := [97], secret := [7], maxPacketSize := 9000
    hmac := fun _ _ => ⟨List.replicate 32 0, length_jumboMac⟩ }

theorem length_jumboSession : (List.replicate 16 5 : Bytes).length = 16 := length_replicate

def jumboSession : SessionId := ⟨List.replicate 16 5, length_jumboSession⟩

/-- An authenticated connection. -/
def jumboConn : Conn :=
  { remoteNodeID := [98], remoteAddr := some ⟨[10], 7000⟩, srcOK := true, authOK := true }

def jumboState : State := State.setConn {} jumboSession jumboConn

theorem lookup_jumboState : jumboState.conns.lookup jumboSession = some jumboConn := by
  rw [jumboState, State.lookup_setConn, if_pos rfl]

/-- A packet within the limit is sent. -/
theorem sendKeyed_jumbo {packet : Bytes} (h : packet.length ≤ 9000) :
    sendKeyed jumboConfig jumboState jumboSession false [112] packet =
      (jumboState.setConn jumboSession { jumboConn with
        queue := jumboConn.queue ++ [mediaFrame jumboSession false [112] packet] }, []) := by
  have hsize : ¬ (jumboConfig.maxPacketSize > 0 ∧
      (packet.length : ℤ) > jumboConfig.maxPacketSize) := by
    rintro ⟨-, hlong⟩
    have : (packet.length : ℤ) > 9000 := hlong
    omega
  have hroom : jumboConn.queue.length < jumboConfig.depth := jumboConfig.depth_pos
  simp only [sendKeyed, lookup_jumboState, hsize, if_false, Conn.enqueue, hroom, if_true]
  rfl

/-- A packet of three bytes arrives. -/
theorem media_arrives_short :
    Arrives (handleDatagram jumboConfig jumboState
      ((mediaFrame jumboSession false [112] [1, 2, 3]).take readBuffer) ⟨[10], 7000⟩).2
      jumboSession [98] false [112] [1, 2, 3] :=
  (media_arrives_iff jumboConfig jumboConfig jumboState jumboState jumboSession false [112]
    [1, 2, 3] (mediaFrame jumboSession false [112] [1, 2, 3]) jumboConn jumboConn ⟨[10], 7000⟩
    (by decide) lookup_jumboState (sendKeyed_jumbo (by decide)) (by decide) lookup_jumboState rfl
    (by decide)).2 (by decide)

/-- A packet of 4000 bytes is accepted and queued by the sender, and no handler of the receiver is
called. -/
theorem jumbo_packet_lost :
    sendKeyed jumboConfig jumboState jumboSession false [112] (List.replicate 4000 0) =
        (jumboState.setConn jumboSession { jumboConn with
          queue := [mediaFrame jumboSession false [112] (replicate 4000 0)] }, []) ∧
      (mediaFrame jumboSession false [112] (replicate 4000 0)).length < 65507 ∧
      (handleDatagram jumboConfig jumboState
        ((mediaFrame jumboSession false [112] (replicate 4000 0)).take readBuffer)
        ⟨[10], 7000⟩).2 = [] := by
  have hlen : (mediaFrame jumboSession false [112] (replicate 4000 0)).length = 4023 := by
    rw [length_mediaFrame _ _ _ (by decide), length_replicate]
    rfl
  refine ⟨sendKeyed_jumbo (by rw [length_replicate]; omega), by omega, ?_⟩
  have hpayload : (encodeKeyed [112] (replicate 4000 0)).length < 65536 := by
    rw [mediaFrame, length_encodeFrame] at hlen
    omega
  have hnone : decodeFrame ((mediaFrame jumboSession false [112]
      (replicate 4000 0)).take readBuffer) = none :=
    decodeFrame_take _ jumboSession hpayload (by rw [← mediaFrame, hlen, readBuffer]; omega)
  rw [handleDatagram, hnone]

end PulseRTC.Media
