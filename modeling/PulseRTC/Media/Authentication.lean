import PulseRTC.Foundations.Answers
import PulseRTC.Media.Transport

/-!
# Who feeds a media session

A connection takes media from one address, the source of the last `HELLO` it accepted. Datagrams
have arbitrary bytes and come from arbitrary addresses.

* `media_only_from_peer`: media of a session is delivered only for a datagram from the address that
  the latest valid `HELLO` of its peer came from.
* `never_redirected`: an address from which no valid `HELLO` arrives is never taken over.
-/

namespace PulseRTC.Media

open Foundations List

/-- The transport as a step function on its state. -/
def next (cfg : Config) (s : State) (a : Act) : Option State := some (step cfg s a).1

/-! ## The latest `HELLO` -/

/-- The source of a step that is a valid `HELLO` of session `sid` from `peer`. -/
def welcomeSource (cfg : Config) (sid : SessionId) (peer : Bytes) : Act → Option UDPAddr
  | .datagram b src => if Welcome cfg sid peer b then some src else none
  | _ => none

/-- The source of the latest valid `HELLO` of session `sid` from `peer`. -/
def latestWelcome (cfg : Config) (sid : SessionId) (peer : Bytes) (as : List Act) :
    Option UDPAddr :=
  as.reverse.findSome? (welcomeSource cfg sid peer)

theorem latestWelcome_snoc (cfg : Config) (sid : SessionId) (peer : Bytes) (as : List Act)
    (a : Act) :
    latestWelcome cfg sid peer (as ++ [a]) =
      (welcomeSource cfg sid peer a).or (latestWelcome cfg sid peer as) := by
  simp only [latestWelcome, reverse_append, reverse_singleton, singleton_append, findSome?_cons]
  cases welcomeSource cfg sid peer a <;> rfl

theorem welcomeSource_eq_none {cfg : Config} {sid : SessionId} {peer : Bytes} {a : Act}
    (h : ∀ b src, a = .datagram b src → ¬ Welcome cfg sid peer b) :
    welcomeSource cfg sid peer a = none := by
  cases a with
  | datagram b src => exact if_neg (h b src rfl)
  | _ => rfl

/-- Every authenticated connection has the address of the latest `HELLO` of its peer. -/
def Confirmed (cfg : Config) (as : List Act) (s : State) : Prop :=
  ∀ sid c, s.conns.lookup sid = some c → c.authOK = true →
    ∃ src, c.remoteAddr = some src ∧ latestWelcome cfg sid c.remoteNodeID as = some src

theorem step_confirmed {cfg : Config} {as : List Act} {s s' : State} {a : Act}
    (h : Confirmed cfg as s) (hstep : next cfg s a = some s') : Confirmed cfg (as ++ [a]) s' := by
  cases hstep
  intro sid c' hc' hauth
  rw [latestWelcome_snoc]
  cases step_conn hc' with
  | kept c old same unwelcome =>
    rw [same] at hauth
    obtain ⟨src, haddr, hlatest⟩ := h sid c old hauth
    refine ⟨src, by rw [same]; exact haddr, ?_⟩
    rw [same, welcomeSource_eq_none unwelcome]
    exact hlatest
  | opened fresh auth call =>
    rw [auth] at hauth
    cases hauth
  | welcomed c b src old hello welcome new =>
    refine ⟨src, by rw [new]; rfl, ?_⟩
    have hsrc : welcomeSource cfg sid c'.remoteNodeID a = some src := by
      rw [new, hello]
      exact if_pos welcome
    rw [hsrc]
    rfl

/-- **Only an authenticated peer feeds media into a session**: when media of session `sid` is
delivered for a datagram from `src`, the latest valid `HELLO` that its connection's peer sent for
the session came from `src`. The MAC it carried covers session and ids: its input determines them,
for ids without a zero byte. -/
theorem media_only_from_peer (cfg : Config) :
    (∀ as s b src sid peer rtcp key packet, run (next cfg) {} as = some s →
      Output.delivered sid peer rtcp key packet ∈ (step cfg s (.datagram b src)).2 →
      latestWelcome cfg sid peer as = some src) ∧
    ∀ (s s' : SessionId) (src src' dst dst' : Bytes), 0 ∉ src → 0 ∉ src' → 0 ∉ dst → 0 ∉ dst' →
      macInput s src dst = macInput s' src' dst' → s = s' ∧ src = src' ∧ dst = dst' := by
  refine ⟨fun as s b src sid peer rtcp key packet hrun hout => ?_,
    fun s s' src src' dst dst' hsrc _ hdst _ heq => macInput_injective hsrc hdst heq⟩
  have hinit : Confirmed cfg [] {} := by
    intro sid c hc
    simp at hc
  have hconf : Confirmed cfg as s :=
    run_history_always hinit (fun _ _ _ _ _ hj hst => step_confirmed hj hst) hrun
  generalize ha : Act.datagram b src = a at hout
  cases step_effect hout with
  | delivered b' src' _ c _ _ _ datagram conn auth addr =>
    obtain ⟨rfl, rfl⟩ := Act.datagram.inj (ha.trans datagram)
    obtain ⟨src', haddr, hlatest⟩ := hconf sid c conn auth
    rw [hlatest, ← haddr, addr]

/-- A keyed function in place of HMAC-SHA256: key and message, cut to 32 bytes. -/
def cutMac (key message : Bytes) : Digest :=
  ⟨(key ++ message ++ List.replicate 32 0).take 32, by
    rw [List.length_take, List.length_append, List.length_replicate]
    omega⟩

/-- The node `b`. -/
def nodeB : Config := { selfID := [98], secret := [7], hmac := cutMac }

def session : SessionId := ⟨List.replicate 16 5, by simp⟩

/-- The `HELLO` that the node `a` sends to `b`. -/
def helloFromA : Bytes :=
  Conn.helloFrame { nodeB with selfID := [97] } session
    { remoteNodeID := [98], remoteAddr := none }

/-- The address of `a`. -/
def addrA : UDPAddr := ⟨[10, 0, 0, 1], 4000⟩

/-- An RTP frame of `a`. -/
def rtpFromA : Bytes := encodeFrame frameRTP session (encodeKeyed [112] [1, 2, 3])

/-- `b` accepts the session and hears the `HELLO`. -/
def opening : List Act :=
  [Act.acceptSession session [97] none, Act.datagram helloFromA addrA]

/-- After that the packet of `a` is delivered, and the latest `HELLO` came from its source. -/
theorem media_only_from_peer_opened :
    ∃ s ∈ run (next nodeB) {} opening,
      Output.delivered session [97] false [112] [1, 2, 3] ∈
          (step nodeB s (.datagram rtpFromA addrA)).2 ∧
        latestWelcome nodeB session [97] opening = some addrA := by
  refine exists_mem_and (by decide +kernel) fun s hs hout => ?_
  exact (media_only_from_peer nodeB).1 opening s rtpFromA addrA session [97] false [112] [1, 2, 3]
    hs hout

/-! ## An address that is never taken over -/

/-- The calls that open session `sid` do not name the address `y`. -/
def Addressed (sid : SessionId) (y : UDPAddr) : Act → Prop
  | .dial i _ addr | .acceptSession i _ addr => i = sid → addr ≠ some y
  | _ => True

/-- A datagram from `y` is no `HELLO` that the connection of session `sid` accepts. -/
def Unwelcome (cfg : Config) (sid : SessionId) (y : UDPAddr) (s : State) : Act → Prop
  | .datagram b src => src = y → ∀ c, s.conns.lookup sid = some c →
      ¬ Welcome cfg sid c.remoteNodeID b
  | _ => True

/-- The connection of session `sid` does not have the address `y`. -/
def Away (sid : SessionId) (y : UDPAddr) (s : State) : Prop :=
  ∀ c, s.conns.lookup sid = some c → c.remoteAddr ≠ some y

theorem step_away {cfg : Config} {sid : SessionId} {y : UDPAddr} {s : State} {a : Act}
    (h : Away sid y s) (haddr : Addressed sid y a) (hun : Unwelcome cfg sid y s a) :
    Away sid y (step cfg s a).1 := by
  intro c' hc'
  cases step_conn hc' with
  | kept c old same unwelcome =>
    rw [same]
    exact h c old
  | opened fresh auth call =>
    rcases call with ⟨addr, rfl, hremote⟩ | rfl
    · rw [hremote]
      exact haddr rfl
    · exact haddr rfl
  | welcomed c b src old hello welcome new =>
    rw [new]
    subst hello
    intro heq
    exact hun (Option.some.inj heq) c old welcome

/-- **A session is not redirected**: the calls that open session `sid` do not name `y`, and no
datagram from `y` is a `HELLO` that its connection accepts. Then the connection never has the
address `y`, and no frame of the session is sent to `y`. -/
theorem never_redirected (cfg : Config) (sid : SessionId) (y : UDPAddr) (as : List Act) (s : State)
    (hrun : run (next cfg) {} as = some s) (haddr : ∀ a ∈ as, Addressed sid y a)
    (hun : Along (next cfg) (Unwelcome cfg sid y) {} as) :
    (∀ c, s.conns.lookup sid = some c → c.remoteAddr ≠ some y) ∧
      ∀ out ∈ answers (step cfg) {} as, ∀ dst frame, Output.sent sid dst frame ∈ out → dst ≠ y := by
  have hinit : Away sid y {} := by
    intro c hc
    simp at hc
  generalize ({} : State) = s₀ at hrun hun hinit
  induction as generalizing s₀ with
  | nil =>
    cases hrun
    exact ⟨hinit, by simp [answers]⟩
  | cons a as ih =>
    obtain ⟨t, ht, hrest⟩ := (run_cons_eq_some (next cfg)).1 hrun
    cases ht
    have haway := step_away hinit (haddr a mem_cons_self) hun.1
    obtain ⟨hconn, hsent⟩ := ih (fun b hb => haddr b (mem_cons_of_mem _ hb)) _ hrest
      (hun.2 _ rfl) haway
    refine ⟨hconn, fun out hout dst frame hmem => ?_⟩
    rcases mem_cons.1 hout with rfl | hout
    · cases step_effect hmem with
      | sent _ c _ _ conn addr =>
        rintro rfl
        exact hinit c conn addr
    · exact hsent out hout dst frame hmem

/-- The address of an eavesdropper. -/
def addrY : UDPAddr := ⟨[10, 0, 0, 9], 6666⟩

/-- The eavesdropper sends an RTP frame it has seen: the session stays where it is. -/
theorem never_redirected_by_media :
    ∃ s ∈ run (next nodeB) {} (opening ++ [Act.datagram rtpFromA addrY]),
      ∀ c, s.conns.lookup session = some c → c.remoteAddr ≠ some addrY := by
  obtain ⟨s, hs⟩ : ∃ s, run (next nodeB) {} (opening ++ [Act.datagram rtpFromA addrY]) = some s :=
    ⟨_, rfl⟩
  refine ⟨s, hs, (never_redirected nodeB session addrY _ s hs ?_ ?_).1⟩
  · simp [opening, Addressed]
  · refine Along.of_forall ?_
    simp only [opening, cons_append, nil_append, mem_cons, not_mem_nil, or_false]
    rintro a (rfl | rfl | rfl) t
    · trivial
    · exact fun heq => absurd heq (by decide)
    · rintro - c - ⟨f, hf, hk, -⟩
      rw [rtpFromA, decodeFrame_encodeFrame] at hf
      cases hf
      exact absurd hk (by decide)

/-- **A replayed `HELLO` redirects the session**: the eavesdropper sends the `HELLO` of `a` once
more, from its own address. The connection takes the address over, and the next frames of the
session, media included, go there. -/
theorem redirected_by_replay :
    ∃ s ∈ run (next nodeB) {} (opening ++ [Act.sendLoop session, Act.datagram helloFromA addrY,
        Act.sendLoop session, Act.send session false [112] [4, 5]]),
      (∃ c ∈ s.conns.lookup session, c.remoteAddr = some addrY) ∧
        (step nodeB s (.sendLoop session)).2 =
          [.sent session addrY (encodeFrame frameRTP session (encodeKeyed [112] [4, 5]))] := by
  decide +kernel

end PulseRTC.Media
