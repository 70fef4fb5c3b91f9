import PulseRTC.Sdk.LocalMedia
import PulseRTC.Sdk.Session

/-!
# The frames on a socket

The first frame that a socket gets should be a join, and no frame should speak of the session of
another socket: of its publications, its candidates or its descriptions. The socket that opens gets
what was queued before the join, though, and what is sent between the opening of a socket and its
`welcome` comes from the peer connection and the publications of the last one.

* `Session.Sound` is the invariant: the sessions that the local participant and the messages in
  `pending` speak of lie between that of the open peer connection and the current socket.
* `frames_in_session` and `muted_before_join`.
-/

namespace PulseRTC.Sdk

open Foundations Function List Option

/-! ## The invariant -/

/-- The frames of the socket `n`: a join first, and all of them speak of this socket's session. -/
structure Starts (n : ℕ) (frames : List Frame) : Prop where
  join : ∀ frame ∈ frames.head?, frame.msg.isJoin = true ∧ frame.sessions = [n]
  sessions : ∀ frame ∈ frames, ∀ k ∈ frame.sessions, k = n

namespace Starts

variable {n : ℕ} {frames : List Frame} {frame : Frame}

theorem nil (n : ℕ) : Starts n [] := by
  constructor <;> simp

/-- One more join. -/
theorem snoc_join (h : Starts n frames) (hjoin : frame.msg.isJoin = true)
    (hsessions : frame.sessions = [n]) : Starts n (frames ++ [frame]) where
  join := by
    cases frames with
    | nil => simp [hjoin, hsessions]
    | cons f l => exact h.join
  sessions f hf := by
    obtain hf | rfl := mem_snoc.1 hf
    · exact h.sessions f hf
    · simp [hsessions]

/-- One more frame after the first. -/
theorem snoc (h : Starts n frames) (hne : frames ≠ [])
    (hsessions : ∀ k ∈ frame.sessions, k = n) : Starts n (frames ++ [frame]) where
  join := by
    cases frames with
    | nil => exact absurd rfl hne
    | cons f l => exact h.join
  sessions f hf := by
    obtain hf | rfl := mem_snoc.1 hf
    · exact h.sessions f hf
    · exact hsessions

end Starts

/-- The wire: the newest socket is the current one, and once it is open its join was sent. -/
structure Wire.Sound (w : Wire) : Prop where
  ws : ∀ n, w.ws = some n → n + 1 = w.created
  sent : ∀ n, Starts n (w.sent n)
  joined : ∀ n, w.ws = some n → w.isOpen n = true → w.sent n ≠ []

namespace Wire.Sound

variable {w : Wire} {n : ℕ} {frame : Frame}

theorem connect (h : w.Sound) : w.connect.Sound where
  ws k hk := by
    cases hk
    rfl
  sent k := by
    unfold Wire.connect
    dsimp only
    by_cases hk : k = w.created
    · subst hk
      rw [update_self]
      exact .nil _
    · rw [update_of_ne hk]
      exact h.sent k
  joined k hk hopen := by
    cases hk
    simp [Wire.connect] at hopen

theorem shut (h : w.Sound) (n : ℕ) : (w.shut n).Sound where
  ws := h.ws
  sent := h.sent
  joined k hk hopen := by
    by_cases hkn : k = n
    · subst hkn
      simp [Wire.shut] at hopen
    · refine h.joined k hk ?_
      simpa [Wire.shut, hkn] using hopen

theorem close (h : w.Sound) : w.close.Sound := by
  unfold Wire.close
  split
  · exact ⟨h.ws, h.sent, h.joined⟩
  · next n _ =>
    have hs := h.shut n
    exact ⟨hs.ws, hs.sent, hs.joined⟩

/-- A frame that speaks of the current session, if the current socket is open. -/
theorem send (h : w.Sound) (hsessions : ∀ n, w.ws = some n → w.isOpen n = true →
    ∀ k ∈ frame.sessions, k = n) : (w.send frame).Sound := by
  cases hws : w.ws with
  | none =>
    rw [Wire.send_of_none hws]
    exact ⟨h.ws, h.sent, h.joined⟩
  | some n =>
    cases hopen : w.isOpen n with
    | false =>
      rw [Wire.send_of_not_open hws hopen]
      exact ⟨h.ws, h.sent, h.joined⟩
    | true =>
      rw [send_of_open hws hopen]
      refine ⟨h.ws, fun k => ?_, fun k hk hk' => ?_⟩
      · dsimp only
        by_cases hk : k = n
        · subst hk
          rw [update_self]
          exact (h.sent k).snoc (h.joined k hws hopen) (hsessions k hws hopen)
        · rw [update_of_ne hk]
          exact h.sent k
      · obtain rfl : n = k := mem_unique hws hk
        simp

/-- A socket opens while nothing is queued, and a join is sent. -/
theorem onopen (h : w.Sound) (hqueue : w.queue = []) (hjoin : frame.msg.isJoin = true)
    (hsessions : frame.sessions = w.ws.toList) : ((w.onopen n).send frame).Sound := by
  have hsent : (w.onopen n).sent = w.sent := by simp [Wire.onopen, hqueue]
  cases hws : w.ws with
  | none =>
    have hws' : (w.onopen n).ws = none := hws
    rw [send_of_none hws']
    refine ⟨h.ws, fun k => ?_, fun k hk => ?_⟩
    · exact hsent ▸ h.sent k
    · cases hws'.symm.trans hk
  | some k =>
    have hws' : (w.onopen n).ws = some k := hws
    cases hopen : (w.onopen n).isOpen k with
    | false =>
      rw [send_of_not_open hws' hopen]
      refine ⟨h.ws, fun j => ?_, fun j hj hj' => ?_⟩
      · exact hsent ▸ h.sent j
      · obtain rfl : k = j := mem_unique hws hj
        cases hopen.symm.trans hj'
    | true =>
      rw [send_of_open hws' hopen, hsent]
      refine ⟨h.ws, fun j => ?_, fun j hj _ => ?_⟩
      · dsimp only
        by_cases hj : j = k
        · subst hj
          rw [update_self]
          exact (h.sent j).snoc_join hjoin (by simp [hsessions, hws])
        · rw [update_of_ne hj]
          exact h.sent j
      · obtain rfl : k = j := mem_unique hws hj
        simp

end Wire.Sound

namespace Wire

theorem send_rest (w : Wire) (frame : Frame) : (w.send frame).created = w.created ∧
    (w.send frame).ws = w.ws ∧ (w.send frame).isOpen = w.isOpen := by
  unfold send
  split
  · split_ifs <;> exact ⟨rfl, rfl, rfl⟩
  · exact ⟨rfl, rfl, rfl⟩

theorem created_send (w : Wire) (frame : Frame) : (w.send frame).created = w.created :=
  (w.send_rest frame).1

theorem created_sendAll (w : Wire) (frames : List Frame) :
    (w.sendAll frames).created = w.created := by
  unfold sendAll
  induction frames generalizing w with
  | nil => rfl
  | cons frame frames ih => rw [foldl_cons, ih, created_send]

theorem created_close (w : Wire) : w.close.created = w.created := by
  unfold close
  split <;> rfl

theorem Sound.sendAll {w : Wire} (h : w.Sound) {frames : List Frame}
    (hsessions : ∀ n, w.ws = some n → w.isOpen n = true →
      ∀ frame ∈ frames, ∀ k ∈ frame.sessions, k = n) : (w.sendAll frames).Sound := by
  unfold Wire.sendAll
  induction frames generalizing w with
  | nil => exact h
  | cons frame frames ih =>
    obtain ⟨-, hws, hopen⟩ := w.send_rest frame
    refine ih (h.send fun n hn hn' => hsessions n hn hn' frame mem_cons_self) ?_
    rw [hws, hopen]
    exact fun n hn hn' f hf => hsessions n hn hn' f (mem_cons_of_mem _ hf)

end Wire

variable {m : ServerMessage} {a : Act}

namespace Session

variable {s s' : Session} {n k : ℕ}

/-- The sessions between that of the open peer connection and the current socket. -/
def Range (s : Session) (k : ℕ) : Prop :=
  k < s.wire.created ∧ ∀ v, s.neg.session = some v → v ≤ k

/-- The invariant. -/
structure Sound (s : Session) : Prop where
  wire : s.wire.Sound
  only : s.neg.Only
  live : ∀ v, s.neg.session = some v → v < s.wire.created
  sorted : (s.pending.map Prod.fst).Pairwise (· ≤ ·)
  pending : ∀ x ∈ s.pending, s.Range x.1
  within : s.me.Within s.Range

namespace Sound

/-- The wire moves on, and the local participant does what it does. -/
theorem step (h : s.Sound) (hwire : s'.wire.Sound) (hcreated : s.wire.created ≤ s'.wire.created)
    (hneg : s.neg.Alike s'.neg) (hpending : s'.pending = s.pending)
    (hme : s'.me.Within s.Range) : s'.Sound := by
  have hrange (k : ℕ) (hk : s.Range k) : s'.Range k := by
    refine ⟨hk.1.trans_le hcreated, ?_⟩
    rw [hneg.session_eq]
    exact hk.2
  refine ⟨hwire, hneg.only h.only, ?_, hpending ▸ h.sorted, ?_, hme.mono hrange⟩
  · rw [hneg.session_eq]
    exact fun v hv => (h.live v hv).trans_le hcreated
  · rw [hpending]
    exact fun x hx => hrange _ (h.pending x hx)

theorem within_setLocal (h : s.Sound) (i : ℕ) (x : LocalParticipant × Negotiator)
    (hx : i = s.self → (s.locals i).Within s.Range → x.1.Within s.Range) :
    (s.setLocal i x).me.Within s.Range := by
  unfold setLocal me
  dsimp only
  by_cases hi : s.self = i
  · subst hi
    rw [update_self]
    exact hx rfl h.within
  · rw [update_of_ne hi]
    exact h.within

theorem setLocal (h : s.Sound) (i : ℕ) (x : LocalParticipant × Negotiator)
    (hneg : s.neg.Alike x.2)
    (hx : (s.locals i).Within s.Range → x.1.Within s.Range) : (s.setLocal i x).Sound :=
  h.step h.wire le_rfl hneg rfl (h.within_setLocal i x fun _ => hx)

theorem closeMedia (h : s.Sound) (hwire : s'.wire.Sound)
    (hcreated : s'.wire.created = s.wire.created) (hneg : s'.neg = s.neg.close)
    (hpending : s'.pending <:+ s.pending) (hme : s'.me.Within (· < s.wire.created)) :
    s'.Sound := by
  have hsession : s'.neg.session = none := by rw [hneg, Negotiator.session_close]
  have hrange (k : ℕ) (hk : k < s.wire.created) : s'.Range k := by
    refine ⟨hcreated ▸ hk, ?_⟩
    rw [hsession]
    nofun
  refine ⟨hwire, hneg ▸ h.only.close, ?_, ?_, ?_, hme.mono hrange⟩
  · rw [hsession]
    nofun
  · exact h.sorted.sublist (hpending.map Prod.fst).sublist
  · exact fun x hx => hrange _ (h.pending x (hpending.subset hx)).1

theorem loses (h : s.Sound) (hlose : s.Loses s') : s'.Sound := by
  cases hlose with
  | fades => exact h.step h.wire le_rfl (.refl _) rfl h.within
  | closes =>
    exact h.closeMedia h.wire rfl rfl suffix_rfl (h.within.mono fun _ hk => hk.1)

theorem down (h : s.Sound) : s.down.Sound := by
  refine h.closeMedia h.wire.close s.wire.created_close rfl (nil_suffix) ?_
  have hme : s.down.me = {} := update_self _ _ _
  rw [hme]
  exact .of_blank rfl rfl rfl rfl

/-- The first message that waits is taken. -/
theorem tail (h : s.Sound) {rest : List (ℕ × ServerMessage)} (hp : s.pending = (n, m) :: rest) :
    ({ s with pending := rest } : Session).Sound ∧ s.Range n ∧ ∀ x ∈ rest, n ≤ x.1 := by
  have hsorted := h.sorted
  rw [hp, map_cons, pairwise_cons] at hsorted
  refine ⟨⟨h.wire, h.only, h.live, hsorted.2, ?_, h.within⟩, ?_, ?_⟩
  · exact fun x hx => h.pending x (hp ▸ mem_cons_of_mem _ hx)
  · exact h.pending _ (hp ▸ mem_cons_self)
  · exact fun x hx => hsorted.1 _ (mem_map_of_mem hx)

/-- One more message waits. -/
theorem message (h : s.Sound) (hws : s.wire.ws = some n) (m : ServerMessage) :
    ({ s with pending := s.pending ++ [(n, m)] } : Session).Sound := by
  have hcreated := h.wire.ws n hws
  refine ⟨h.wire, h.only, h.live, ?_, ?_, h.within⟩
  · rw [map_append, pairwise_append]
    refine ⟨h.sorted, pairwise_singleton _ _, ?_⟩
    intro a ha b hb
    obtain ⟨x, hx, rfl⟩ := mem_map.1 ha
    obtain rfl : b = n := by simpa using hb
    have hlt : x.1 < s.wire.created := (h.pending x hx).1
    omega
  · intro x hx
    obtain hx | rfl := mem_snoc.1 hx
    · exact h.pending x hx
    · refine ⟨by show n < s.wire.created; omega, fun v hv => ?_⟩
      have hlt : v < s.wire.created := h.live v hv
      show v ≤ n
      omega

end Sound

end Session

/-! ## Steps in the session -/

/-- A socket opens. -/
def Act.opens : Act → Bool
  | .open _ => true
  | _ => false

/-- The report that is sent. -/
def Act.reported : Act → Option ℕ
  | .collected k => some k
  | _ => none

namespace Room

variable {r r' : Room}

instance (s : Signaling) : Decidable s.IsOpen := inferInstanceAs (Decidable (∃ _, _))

/-- The local participant that an operation of the user is called on. -/
def operates : Act → Option ℕ
  | .setKind i _ _ | .stopScreen i => some i
  | _ => none

/-- The step sends a frame about the peer connection or the publications of a session. -/
def talks (r : Room) : Act → Bool
  | .setKind i kind enabled => !((r.locals i).setKind kind enabled).2.isEmpty
  | .stopScreen i =>
    !(((r.locals i).screen.map LocalParticipant.Screen.unpublishes).getD []).isEmpty
  | .collected _ => true
  | a => a.speaks

theorem talks_of_speaks (h : a.speaks = true) : r.talks a = true := by
  cases a with
  | iceCandidate | offered => rfl
  | settle answer => exact h
  | _ => cases h

/-- Such frames are sent while the peer connection is of the session of the socket, if that is open;
they come from the current local participant, and reports from the current session. When a socket
opens, no frame is queued: what was queued before was dropped by `close`. -/
@[mk_iff] structure InSession (r : Room) (a : Act) : Prop where
  talks : r.talks a = true → r.sig.IsOpen → r.neg.session = r.sig.ws ∧
    (∀ i ∈ operates a, i = r.self) ∧ ∀ k ∈ a.reported, r.reports[k]? = r.sig.ws
  opens : a.opens = true → r.sig.queue = []

instance (r : Room) (a : Act) : Decidable (r.InSession a) :=
  decidable_of_iff' _ (inSession_iff r a)

theorem sound_own {n : ℕ} {m : PublicationEvent} (h : r.session.Sound) (hn : r.session.Range n) :
    (r.onOwnPublication n m).session.Sound := by
  unfold onOwnPublication
  split
  · dsimp only
    refine h.setLocal r.self (_, r.neg) (.refl r.neg) fun hme => ?_
    dsimp only
    split_ifs
    · exact hme.onScreenPublicationAdded _ _ hn
    · exact hme.onPublicationAdded _ _ hn
  · exact h.setLocal r.self (r.me.onPublicationRemoved m.publicationId r.neg)
      (r.me.alike_onPublicationRemoved r.neg m.publicationId) fun hme => hme.onPublicationRemoved _
  · exact h.setLocal r.self (r.me.onPublicationMuted m.publicationId m.muted, r.neg)
      (.refl r.neg) fun hme => hme.onPublicationMuted _ _

/-- What `welcome` does to the local participant: afterwards it speaks of no session. -/
theorem greet_blank (r : Room) (id : String) (name : Option String) :
    (r.greet id name).sig = r.sig ∧ (r.greet id name).pending = r.pending ∧
      r.neg.Alike (r.greet id name).neg ∧ ∀ S, (r.greet id name).me.Within S := by
  unfold greet
  split_ifs
  · refine ⟨rfl, rfl, .refl _, fun S => ?_⟩
    simp only [me, update_self]
    exact .of_blank rfl rfl rfl rfl
  · refine ⟨rfl, rfl, r.me.alike_resetForReconnect r.neg, fun S => ?_⟩
    simp only [me, setLocal, update_self]
    exact (LocalParticipant.Within.resetForReconnect _ r.neg).congr rfl rfl rfl rfl

variable {fails : Bool}

/-- After a `welcome` of the socket `n`, the peer connection is of its session. -/
theorem sound_welcome {n : ℕ} {id : String} {name : Option String}
    {st : ConnectionState} (h : r.session.Sound) (hn : r.session.Range n)
    (hrest : ∀ x ∈ r.pending, n ≤ x.1) :
    ({ ((({ r with store := r.store.applyWelcome id } : Room).greet id name).createPc n
      fails).session with state := st } : Session).Sound := by
  obtain ⟨hsig, hpending, hneg, hme⟩ :=
    greet_blank { r with store := r.store.applyWelcome id } id name
  generalize ({ r with store := r.store.applyWelcome id } : Room).greet id name = g at *
  have honly : g.neg.Only := hneg.only h.only
  have hwire : (g.createPc n fails).session.wire = r.session.wire := congrArg Signaling.wire hsig
  have hsession (v : ℕ) (hv : (g.neg.create n fails).session = some v) : v = n := by
    rw [Negotiator.session_create] at hv
    split_ifs at hv
    exact (some.inj hv).symm
  have hcreated : n < (g.createPc n fails).session.wire.created := hwire ▸ hn.1
  refine ⟨hwire ▸ h.wire, honly.create n fails, ?_, ?_, ?_, hme _⟩
  · exact fun v hv => hsession v hv ▸ hcreated
  · show (g.pending.map Prod.fst).Pairwise (· ≤ ·)
    exact hpending ▸ h.sorted
  · intro x hx
    have hx' : x ∈ r.pending := hpending ▸ hx
    exact ⟨hwire ▸ (h.pending x hx').1, fun v hv => hsession v hv ▸ hrest x hx'⟩

/-- What a message does to the frames. -/
theorem Handles.sound {n : ℕ} {s : Session}
    (h : Handles r n fails m s) (hr : r.session.Sound) (hn : r.session.Range n)
    (hrest : ∀ x ∈ r.pending, n ≤ x.1) :
    s.Sound := by
  cases h with
  | idle | joined | store => exact hr.step hr.wire le_rfl (.refl _) rfl hr.within
  | welcome => exact sound_welcome hr hn hrest
  | rejoined =>
    exact hr.step hr.wire le_rfl (r.me.alike_addTracks r.neg) rfl
      (hr.within_setLocal r.self ((r.me.addTracks r.neg).1, r.neg) fun _ hme => hme.addTracks)
  | own => exact sound_own hr hn
  | denied =>
    exact hr.setLocal r.self (r.me.onPublishDenied r.neg) (r.me.alike_onPublishDenied r.neg)
      fun hme => hme.onPublishDenied
  | stale =>
    refine hr.step (hr.wire.send fun k hws _ => ?_) (Wire.created_send _ _).ge (.refl _) rfl
      hr.within
    have hws' : r.sig.ws = some k := hws
    simp [hws']
  | down => exact hr.down
  | redirected hlose =>
    have hclosed : ({ r.session with wire := r.session.wire.close } : Session).Sound :=
      hr.step hr.wire.close (Wire.created_close _).ge (.refl _) rfl hr.within
    have hlost := hclosed.loses hlose
    exact hlost.step hlost.wire le_rfl (.refl _) rfl hlost.within

/-- While the peer connection is of the current socket, all that the room speaks of is of its
session. -/
theorem eq_of_range {n k : ℕ} (hr : r.session.Sound) (hws : r.session.wire.ws = some n)
    (hneg : r.neg.session = r.sig.ws) (hk : r.session.Range k) : k = n := by
  have hcreated : n + 1 = r.session.wire.created := hr.wire.ws n hws
  have hle : n ≤ k := hk.2 n (hneg.trans hws)
  have hlt := hk.1
  omega

/-- The frames of an open peer connection speak of its session. -/
theorem sessionOf_live {pc n : ℕ} (hr : r.session.Sound) (hlive : r.IsLive pc)
    (hneg : r.neg.session = some n) : r.sessionOf pc = [n] := by
  obtain ⟨x, hx, hopen⟩ := hlive
  have hpc : r.neg.pc = some pc := hr.only pc x hx hopen
  have hsome : r.neg.session = some x.session := by
    rw [Negotiator.session, Negotiator.live_of_open hpc hx hopen]
    rfl
  obtain rfl : x.session = n := mem_unique hsome hneg
  unfold sessionOf
  rw [mem_def.1 hx]
  rfl

/-- What anything else does to the frames. -/
theorem Reacts.sound {s : Session} (h : Reacts r a s) (hr : r.session.Sound)
    (hG : r.InSession a) : s.Sound := by
  cases h with
  | idle | store => exact hr.step hr.wire le_rfl (.refl _) rfl hr.within
  | connect | timer =>
    exact hr.step hr.wire.connect (Nat.le_succ _) (.refl _) rfl hr.within
  | down => exact hr.down
  | opened =>
    refine hr.step (hr.wire.onopen (hG.opens rfl) rfl rfl) ?_ (.refl _) rfl hr.within
    exact (Wire.created_send (r.session.wire.onopen _) _).ge
  | message hws => exact hr.message hws _
  | @closed n code s' hlose =>
    have hshut : ({ r.session with wire := r.session.wire.shut n } : Session).Sound :=
      hr.step (hr.wire.shut n) le_rfl (.refl _) rfl hr.within
    exact hshut.loses hlose
  | spoken ha hlive hjoin hsessions =>
    refine hr.step (hr.wire.send fun n hws hopen => ?_) (Wire.created_send _ _).ge (.refl _) rfl
      hr.within
    obtain ⟨hneg, -⟩ := hG.talks (talks_of_speaks ha) ⟨n, hws, of_decide_eq_true hopen⟩
    simp [hsessions, sessionOf_live hr hlive (hneg.trans hws)]
  | enabled =>
    exact hr.setLocal _ _ (.refl _) fun hme => hme.congr rfl rfl rfl rfl
  | @userMedia k i stream =>
    exact hr.step hr.wire le_rfl ((r.locals i).alike_onUserMedia r.neg stream) rfl
      (hr.within_setLocal i ((r.locals i).onUserMedia r.neg stream) fun _ hme =>
        hme.onUserMedia stream)
  | @setKind i kind enabled =>
    refine hr.step (hr.wire.sendAll fun n hws hopen frame hframe k hk => ?_)
      (Wire.created_sendAll _ _).ge (.refl _) rfl
      (hr.within_setLocal i (((r.locals i).setKind kind enabled).1, r.neg) fun _ hme =>
        hme.setKind kind enabled)
    have htalks : r.talks (.setKind i kind enabled) = true := by
      simp [talks, ne_nil_of_mem hframe]
    obtain ⟨hneg, hself, -⟩ := hG.talks htalks ⟨n, hws, of_decide_eq_true hopen⟩
    obtain rfl := hself i rfl
    exact eq_of_range hr hws hneg (hr.within.setKind_frames kind enabled frame hframe k hk)
  | @displayMedia k i video audio =>
    -- These frames are about the socket that they are sent on.
    refine hr.step (hr.wire.sendAll fun n hws _ frame hframe => ?_) (Wire.created_sendAll _ _).ge
      ((r.locals i).alike_onDisplayMedia r.neg video audio) rfl
      (hr.within_setLocal i ((r.locals i).onDisplayMedia r.neg video audio) fun _ hme =>
        hme.onDisplayMedia video audio)
    have hsessions : frame.sessions = r.sig.ws.toList := by
      obtain rfl | hframe := mem_cons.1 hframe
      · rfl
      · obtain ⟨t, -, rfl⟩ := mem_map.1 hframe
        rfl
    have hws' : r.sig.ws = some n := hws
    simp [hsessions, hws']
  | @stopScreen i =>
    refine hr.step (hr.wire.sendAll fun n hws hopen frame hframe k hk => ?_)
      (Wire.created_sendAll _ _).ge ((r.locals i).alike_teardownScreen r.neg) rfl
      (hr.within_setLocal i ((r.locals i).teardownScreen r.neg) fun _ hme => hme.teardownScreen)
    have htalks : r.talks (.stopScreen i) = true := by
      rw [talks, List.isEmpty_eq_false_iff.2 (ne_nil_of_mem hframe)]
      rfl
    obtain ⟨hneg, hself, -⟩ := hG.talks htalks ⟨n, hws, of_decide_eq_true hopen⟩
    obtain rfl := hself i rfl
    exact eq_of_range hr hws hneg (hr.within.unpublishes frame hframe k hk)
  | @collected k session hk =>
    refine hr.step (hr.wire.send fun n hws hopen j hj => ?_) (Wire.created_send _ _).ge (.refl _)
      rfl hr.within
    obtain ⟨hneg, -, hreported⟩ := hG.talks rfl ⟨n, hws, of_decide_eq_true hopen⟩
    obtain rfl | hj := mem_cons.1 hj
    · exact some.inj (hk.symm.trans ((hreported k rfl).trans hws))
    · obtain ⟨e, he, rfl⟩ := mem_map.1 hj
      exact eq_of_range hr hws hneg (hr.within.entry he)

/-- What a step does to the frames. -/
theorem step_sound (hr : r.session.Sound) (hG : r.InSession a)
    (h : r.step a = some r') : r'.session.Sound := by
  obtain ⟨fails, n, m, rest, rfl, hpending, hhandles⟩ | ⟨-, hreacts⟩ := step_session h
  · obtain ⟨hsound, hrange, hrest⟩ := hr.tail hpending
    rw [← r.session_take n m rest] at hsound
    refine hhandles.sound hsound ?_ hrest
    rw [session_take]
    exact hrange
  · exact hreacts.sound hr hG

/-- No socket was opened and no peer connection created. -/
theorem sound_new (qoeEnabled : Bool) : (new qoeEnabled).session.Sound := by
  have hws : (new qoeEnabled).session.wire.ws = none := rfl
  have hneg : (new qoeEnabled).session.neg.session = none := rfl
  have hpcs : (new qoeEnabled).session.neg.pcs = [] := rfl
  refine ⟨⟨fun n hn => ?_, fun n => .nil n, fun n hn => ?_⟩, fun i pc hpc => ?_,
    fun v hv => ?_, .nil, fun x hx => ?_, .of_blank rfl rfl rfl rfl⟩
  · rw [hws] at hn
    cases hn
  · rw [hws] at hn
    cases hn
  · rw [hpcs] at hpc
    cases hpc
  · rw [hneg] at hv
    cases hv
  · cases hx

/-- **Every socket starts with a join, and no frame speaks of another session**, in every run in
which frames are sent in the session that they are of. -/
theorem frames_in_session {qoeEnabled : Bool} {as : List Act}
    (hG : Along step InSession (new qoeEnabled) as)
    (hrun : run step (new qoeEnabled) as = some r) (n : ℕ) :
    (∀ frame ∈ (r.sig.sockets n).sent.head?, frame.msg.isJoin = true ∧ frame.sessions = [n]) ∧
    ∀ frame ∈ (r.sig.sockets n).sent, ∀ k ∈ frame.sessions, k = n := by
  have hsound := run_invariant (I := fun r => r.session.Sound)
    (fun _ _ _ hI hG hstep => step_sound hI hG hstep) (sound_new qoeEnabled) hG hrun
  exact ⟨(hsound.wire.sent n).join, (hsound.wire.sent n).sessions⟩

/-- A client connects and publishes its microphone. -/
def speaks : List Act :=
  [.connect "room", .open 0, .message 0 (.welcome "alice" none), .handle false,
    .message 0 (.roomJoined { roomId := "room" }), .handle false, .enable 1,
    .userMedia 0 (some { audio := some ⟨"mic", .audio⟩ }),
    .message 0 (.publication ⟨.added, "pub", "alice", .audio, none, false⟩), .handle false]

/-- It mutes its microphone, loses its socket, joins again and loses the next one. The frame that it
then queues is dropped, as it disconnects before it connects once more. -/
def losesTwice : List Act :=
  [.setKind 1 .audio false, .close 0 1006, .timer, .open 1, .close 1 1006, .setKind 1 .audio true,
    .disconnect, .connect "room", .open 2]

theorem frames_in_session_rejoin :
    ∃ r ∈ run step (new false) (speaks ++ losesTwice),
      ((r.sig.sockets 0).sent.length = 2 ∧ (r.sig.sockets 1).sent.length = 1 ∧
        (r.sig.sockets 2).sent.length = 1) ∧
      ∀ n, (∀ frame ∈ (r.sig.sockets n).sent.head?,
          frame.msg.isJoin = true ∧ frame.sessions = [n]) ∧
        ∀ frame ∈ (r.sig.sockets n).sent, ∀ k ∈ frame.sessions, k = n := by
  have hreach : ∃ r ∈ run step (new false) (speaks ++ losesTwice),
      (r.sig.sockets 0).sent.length = 2 ∧ (r.sig.sockets 1).sent.length = 1 ∧
        (r.sig.sockets 2).sent.length = 1 := by decide +kernel
  obtain ⟨r, hrun, hlength⟩ := hreach
  exact ⟨r, hrun, hlength, fun n => frames_in_session (by decide +kernel) hrun n⟩

/-- It loses its socket and mutes its microphone: the first frame on the next socket is about the
old publication. -/
theorem muted_before_join :
    ∃ r ∈ run step (new false)
        (speaks ++ [.close 0 1006, .setKind 1 .audio false, .timer, .open 1]),
      (r.sig.sockets 1).sent.head? = some ⟨.setMute "pub" true .audio, [0]⟩ := by
  decide +kernel

end Room

end PulseRTC.Sdk
