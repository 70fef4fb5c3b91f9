import PulseRTC.Media.Pairing

/-!
# One mirror

What there is of a publication of one node that the other node subscribes to: the track and the
calls of the subscribing node, the forwarder of the publishing node, the messages in flight.

* `Mirror` is that, `Event` how it changes, and `Event.keeps` its invariant.
* `Node.near` and `Node.far` are the two ends of a mirror, with a lemma for each function of the
  bridge that says how it changes them.
-/

namespace PulseRTC.Media.Bridge

open Foundations Option

/-! ## One mirror -/

namespace Phase

def granted : Phase → Bool
  | .subscribing (some (.ok _)) => true
  | _ => false

def refused : Phase → Bool
  | .subscribing (some (.error _)) => true
  | _ => false

end Phase

/-- The subscribing node: its track, whether its last operation was an unsubscription, the
`SubscribeRemote` calls that wait for the session and those that wait for an answer, and how many
of these have got one. -/
@[ext] structure Near where
  track : Bool
  unsubscribed : Bool
  connecting : ℕ
  waiting : ℕ
  granted : ℕ
  refused : ℕ

/-- One more call. -/
def Near.plus (m : Near) (ph : Phase) : Near :=
  { m with
    connecting := m.connecting + if ph.waits then 0 else 1
    waiting := m.waiting + if ph.waits then 1 else 0
    granted := m.granted + if ph.granted then 1 else 0
    refused := m.refused + if ph.refused then 1 else 0 }

/-- The publishing node. -/
@[ext] structure Far where
  forwarder : Bool
  live : Bool
  ended : Bool

/-- The messages in flight. -/
@[ext] structure Transit where
  requests : ℕ
  grants : ℕ
  refusals : ℕ
  unsubs : ℕ
  ends : ℕ

/-- A mirror of one publication. -/
structure Mirror where
  near : Near
  far : Far
  transit : Transit

/-- How a mirror changes, if `SubscribeRemote` overlaps neither with `UnsubscribeRemote` nor with
`PublicationEnded`. -/
inductive Event : Mirror → Mirror → Prop
  | stutter (m : Mirror) : Event m m
  /-- `SubscribeRemote` is called. -/
  | start (n : Near) (f : Far) (t : Transit) (alone : t.unsubs = 0) :
      Event ⟨n, f, t⟩ ⟨{ n with connecting := n.connecting + 1 }, f, t⟩
  /-- It returns at once. -/
  | failed (n : Near) (f : Far) (t : Transit) :
      Event ⟨n, f, t⟩ ⟨{ n with unsubscribed := false }, f, t⟩
  /-- It finds a track. -/
  | found (n : Near) (f : Far) (t : Transit) :
      Event ⟨{ n with connecting := n.connecting + 1 }, f, t⟩
        ⟨{ n with unsubscribed := false }, f, t⟩
  | request (n : Near) (f : Far) (t : Transit) :
      Event ⟨{ n with connecting := n.connecting + 1 }, f, t⟩
        ⟨{ n with waiting := n.waiting + 1 }, f, { t with requests := t.requests + 1 }⟩
  | grant (n : Near) (f : Far) (t : Transit) (live : f.live = true) :
      Event ⟨n, f, { t with requests := t.requests + 1 }⟩
        ⟨n, { f with forwarder := true }, { t with grants := t.grants + 1 }⟩
  | refuse (n : Near) (f : Far) (t : Transit) :
      Event ⟨n, f, { t with requests := t.requests + 1 }⟩
        ⟨n, f, { t with refusals := t.refusals + 1 }⟩
  /-- An answer reaches a call, or nobody. -/
  | granted (n : Near) (f : Far) (t : Transit) (k : ℕ) (one : k ≤ 1) :
      Event ⟨n, f, { t with grants := t.grants + 1 }⟩
        ⟨{ n with granted := n.granted + k }, f, t⟩
  | refused (n : Near) (f : Far) (t : Transit) (k : ℕ) (one : k ≤ 1) :
      Event ⟨n, f, { t with refusals := t.refusals + 1 }⟩
        ⟨{ n with refused := n.refused + k }, f, t⟩
  /-- A call with an answer ends, with or without a track. -/
  | finish (n : Near) (f : Far) (t : Transit) (track : Bool) :
      Event ⟨{ n with waiting := n.waiting + 1, granted := n.granted + 1 }, f, t⟩
        ⟨{ n with unsubscribed := false, track := track }, f, t⟩
  | giveUp (n : Near) (f : Far) (t : Transit) :
      Event ⟨{ n with waiting := n.waiting + 1, refused := n.refused + 1 }, f, t⟩
        ⟨{ n with unsubscribed := false }, f, t⟩
  | unsubscribe (n : Near) (f : Far) (t : Transit) (k : ℕ)
      (alone : n.connecting + n.waiting = 0) (sent : f.forwarder = true → 0 < k) :
      Event ⟨n, f, t⟩
        ⟨{ n with unsubscribed := true, track := false }, f, { t with unsubs := t.unsubs + k }⟩
  | detach (n : Near) (f : Far) (t : Transit) :
      Event ⟨n, f, { t with unsubs := t.unsubs + 1 }⟩ ⟨n, { f with forwarder := false }, t⟩
  | publish (n : Near) (f : Far) (t : Transit) (live : Bool)
      (fresh : live = true → f.ended = false) :
      Event ⟨n, f, t⟩ ⟨n, { f with live := live }, t⟩
  | close (n : Near) (f : Far) (t : Transit) (k : ℕ) (alone : n.connecting + n.waiting = 0)
      (gone : f.live = false) (sent : f.forwarder = true → 0 < k) :
      Event ⟨n, f, t⟩
        ⟨n, { f with forwarder := false, ended := true }, { t with ends := t.ends + k }⟩
  | closed (n : Near) (f : Far) (t : Transit) :
      Event ⟨n, f, { t with ends := t.ends + 1 }⟩ ⟨{ n with track := false }, f, t⟩

/-- What holds of a mirror throughout. -/
structure Mirror.Inv (m : Mirror) : Prop where
  /-- Every request and every answer has a call that waits for one. -/
  tokens : m.transit.requests + m.transit.grants + m.transit.refusals + m.near.granted +
    m.near.refused ≤ m.near.waiting
  /-- The node that has just unsubscribed has no track and no call. -/
  leaving : 0 < m.transit.unsubs →
    m.near.track = false ∧ m.near.connecting + m.near.waiting = 0
  stopped : m.near.unsubscribed = true → m.near.track = false ∧ (m.far.forwarder = true →
    0 < m.transit.unsubs ∨ 0 < m.near.connecting + m.near.waiting)
  /-- A track is fed, and so is one that is about to be made. -/
  fed : m.far.ended = false → m.near.track = true ∨ 0 < m.transit.grants + m.near.granted →
    m.far.forwarder = true
  finished : m.far.ended = true → m.far.live = false ∧ m.far.forwarder = false ∧
    m.transit.grants + m.near.granted = 0 ∧ (m.near.track = true → 0 < m.transit.ends)

/-- **Every event keeps the invariant.** -/
theorem Event.keeps {m m' : Mirror} (e : Event m m') (h : m.Inv) : m'.Inv := by
  cases e
  case stutter => exact h
  all_goals
    obtain ⟨htok, hleave, hstop, hfed, hend⟩ := h
    dsimp only at htok hleave hstop hfed hend
  case start n f t alone =>
    refine ⟨htok, fun hu => ?_, fun hun => ⟨(hstop hun).1, fun _ => .inr ?_⟩, hfed, hend⟩
    · dsimp only at hu
      omega
    · dsimp only
      omega
  case failed n f t => exact ⟨htok, hleave, nofun, hfed, hend⟩
  case found n f t =>
    refine ⟨htok, fun hu => ⟨(hleave hu).1, ?_⟩, nofun, hfed, hend⟩
    have hnone := (hleave hu).2
    dsimp only
    omega
  case request n f t =>
    refine ⟨?_, fun hu => ?_, fun hun => ⟨(hstop hun).1, fun _ => .inr ?_⟩, hfed, hend⟩
    · dsimp only
      omega
    · have hnone := (hleave hu).2
      omega
    · dsimp only
      omega
  case grant n f t live =>
    refine ⟨?_, hleave, fun hun => ⟨(hstop hun).1, fun _ => .inr ?_⟩, fun _ _ => rfl,
      fun hended => ?_⟩
    · dsimp only
      omega
    · dsimp only
      omega
    · cases live.symm.trans (hend hended).1
  case refuse n f t =>
    refine ⟨?_, hleave, hstop, hfed, hend⟩
    dsimp only
    omega
  case granted n f t k one =>
    refine ⟨?_, hleave, hstop, fun hended hor => hfed hended (hor.imp_right ?_), fun hended => ?_⟩
    · dsimp only
      omega
    · dsimp only
      omega
    · have hnone := (hend hended).2.2.1
      omega
  case refused n f t k one =>
    refine ⟨?_, hleave, hstop, hfed, hend⟩
    dsimp only
    omega
  case finish n f t track =>
    refine ⟨?_, fun hu => ?_, nofun, fun hended _ => hfed hended (.inr (by omega)),
      fun hended => ?_⟩
    · dsimp only
      omega
    · have hnone := (hleave hu).2
      omega
    · have hnone := (hend hended).2.2.1
      omega
  case giveUp n f t =>
    refine ⟨?_, fun hu => ?_, nofun, hfed, hend⟩
    · dsimp only
      omega
    · have hnone := (hleave hu).2
      omega
  case unsubscribe n f t k alone sent =>
    refine ⟨htok, fun _ => ⟨rfl, alone⟩, fun _ => ⟨rfl, fun hf => .inl ?_⟩,
      fun hended hor => hfed hended (.inr (hor.resolve_left nofun)), fun hended => ?_⟩
    · exact Nat.add_pos_right _ (sent hf)
    · obtain ⟨hlive, hf, hgrants, -⟩ := hend hended
      exact ⟨hlive, hf, hgrants, nofun⟩
  case detach n f t =>
    obtain ⟨htrack, hcalls⟩ := hleave (Nat.succ_pos _)
    refine ⟨htok, fun _ => ⟨htrack, hcalls⟩, fun hun => ⟨(hstop hun).1, nofun⟩,
      fun hended hor => ?_, fun hended => ⟨(hend hended).1, rfl, (hend hended).2.2⟩⟩
    -- the node has no track and no call, so there is nothing to feed
    rcases hor with htrack' | hgrants
    · cases htrack.symm.trans htrack'
    · dsimp only at hgrants
      omega
  case publish n f t live fresh =>
    refine ⟨htok, hleave, hstop, hfed, fun hended => ⟨?_, (hend hended).2⟩⟩
    refine Bool.eq_false_iff.2 fun hlive => ?_
    cases (fresh hlive).symm.trans hended
  case close n f t k alone gone sent =>
    have hgrants : t.grants + n.granted = 0 := by omega
    refine ⟨htok, hleave, fun hun => ⟨(hstop hun).1, nofun⟩, nofun,
      fun _ => ⟨gone, rfl, hgrants, fun htrack => ?_⟩⟩
    -- the forwarder is there to be closed, unless the publication was ended before
    cases hended : f.ended with
    | false => exact Nat.add_pos_right _ (sent (hfed hended (.inl htrack)))
    | true => exact Nat.add_pos_left ((hend hended).2.2.2 htrack) k
  case closed n f t =>
    refine ⟨htok, fun hu => ⟨rfl, (hleave hu).2⟩, fun hun => ⟨rfl, (hstop hun).2⟩,
      fun hended hor => hfed hended (.inr (hor.resolve_left nofun)), fun hended => ?_⟩
    obtain ⟨hlive, hf, hgrants, -⟩ := hend hended
    exact ⟨hlive, hf, hgrants, nofun⟩

/-! ## The mirrors of two nodes -/

namespace Node

variable (p : Bytes) (n : Node)

/-- What the node has of a publication of the other one. -/
def near : Near where
  track := n.current.any fun m => (m.tracks.lookup p).isSome
  unsubscribed := match n.last p with
    | some .unsubscribed => true
    | _ => false
  connecting := n.calls.countP fun c => c.pub = p && !c.phase.waits
  waiting := n.calls.countP fun c => c.pub = p && c.phase.waits
  granted := n.calls.countP fun c => c.pub = p && c.phase.granted
  refused := n.calls.countP fun c => c.pub = p && c.phase.refused

/-- What the node has of a publication of its own. -/
def far : Far where
  forwarder := n.current.any fun m => p ∈ m.forwarders
  live := (n.publications.lookup p).isSome
  ended := p ∈ n.ended

end Node

/-! ## What a node has of a publication -/

namespace Node

variable {n n' : Node} {p : Bytes}

theorem near_congr (hcur : n'.current = n.current) (hlast : n'.last p = n.last p)
    (hcalls : n'.calls = n.calls) : n'.near p = n.near p := by
  rw [near, near, hcur, hlast, hcalls]

theorem far_congr (hcur : n'.current = n.current)
    (hlive : n'.publications.lookup p = n.publications.lookup p)
    (hended : p ∈ n'.ended ↔ p ∈ n.ended) : n'.far p = n.far p := by
  rw [far, far, hcur, hlive, decide_eq_decide.2 hended]

variable {q : Bytes} {sid : SessionId} {k : ℕ}

theorem near_complete_of_ne (h : q ≠ p) (op : Op) :
    (n.complete q op).near p = n.near p :=
  near_congr rfl (Function.update_of_ne h.symm _ _) rfl

theorem near_complete_subscribed (r : Except Error RemotePublicationInfo) :
    (n.complete p (.subscribed r)).near p = { n.near p with unsubscribed := false } := by
  simp [near, complete, current]

theorem near_complete_unsubscribed :
    (n.complete p .unsubscribed).near p = { n.near p with unsubscribed := true } := by
  simp [near, complete, current]

variable {f : MediaSession → MediaSession} {m : MediaSession} {roomID : String}
  {out : Node × List Msg} {herr : Option Error} {other : Bool}

theorem near_onSession (hf : ∀ m : MediaSession, (f m).tracks.lookup p = m.tracks.lookup p) :
    (n.onSession sid f).near p = n.near p := by
  simp only [near, onSession_current, onSession_last, onSession_calls]
  split_ifs
  · simp [any_map, hf]
  · rfl

theorem far_onSession (hf : ∀ m : MediaSession, p ∈ (f m).forwarders ↔ p ∈ m.forwarders) :
    (n.onSession sid f).far p = n.far p := by
  simp only [far, onSession_current, onSession_publications, onSession_ended]
  split_ifs
  · simp [any_map, hf]
  · rfl

theorem near_removeTrack (h : n.byNode = some sid ∨ (n.near p).track = false) :
    (n.onSession sid (·.removeTrack p)).near p = { n.near p with track := false } := by
  simp only [near, onSession_current, onSession_last, onSession_calls, Near.mk.injEq, and_true]
  split_ifs with hsid
  · simp [any_map, MediaSession.removeTrack]
  · exact h.resolve_left hsid

theorem far_removeForwarder (h : n.byNode = some sid ∨ (n.far p).forwarder = false) :
    (n.onSession sid (·.removeForwarder p)).far p = { n.far p with forwarder := false } := by
  simp only [far, onSession_current, onSession_publications, onSession_ended, Far.mk.injEq,
    and_true]
  split_ifs with hsid
  · simp [any_map, MediaSession.removeForwarder]
  · exact h.resolve_left hsid

theorem far_addForwarder (hnode : n.byNode = some sid) (hm : n.bySID.lookup sid = some m) :
    (n.onSession sid (·.addForwarder p)).far p = { n.far p with forwarder := true } := by
  have hcur : n.current = some m := by rw [current, hnode, bind_some, hm]
  simp [far, onSession_current, hnode, hcur, MediaSession.addForwarder]

/-- A node without a session has no tracks and no forwarders; a new one has none either. -/
theorem near_opened (hnone : n.byNode = none)
    (hcur : n'.current = some { roomID := roomID }) (hlast : n'.last p = n.last p)
    (hcalls : n'.calls = n.calls) : n'.near p = n.near p := by
  have hold : n.current = none := by rw [current, hnone, bind_none]
  rw [near, near, hcur, hold, hlast, hcalls]
  rfl

theorem far_opened (hnone : n.byNode = none) (hcur : n'.current = some { roomID := roomID })
    (hlive : n'.publications = n.publications) (hended : n'.ended = n.ended) :
    n'.far p = n.far p := by
  have hold : n.current = none := by rw [current, hnone, bind_none]
  rw [far, far, hcur, hold, hlive, hended]
  rfl

theorem current_opened (hnode : n'.byNode = some sid)
    (hsid : n'.bySID = n.bySID.insert sid m) : n'.current = some m := by
  rw [current, hnode, bind_some, hsid, Finmap.lookup_insert]

/-! ### The calls -/

theorem near_split (n n' : Node) {l₁ l₂ : List Call} {c : Call} (hcur : n'.current = n.current)
    (hlast : n'.last p = n.last p) (hcalls : n.calls = l₁ ++ c :: l₂)
    (hcalls' : n'.calls = l₁ ++ l₂) :
    n.near p = if c.pub = p then (n'.near p).plus c.phase else n'.near p := by
  rw [near, near, hcur, hlast, hcalls, hcalls']
  split_ifs with hp
  · simp [Near.plus, hp, List.countP_cons, Nat.add_assoc]
    cases c.phase.waits <;> rfl
  · simp [hp]

theorem beginSubscribe_far (roomID : String) (q : Bytes) (fresh : SessionId) (other : Registered) :
    (n.beginSubscribe roomID q fresh other).1.far p = n.far p := by
  unfold beginSubscribe ensureSession
  cases hnode : n.byNode with
  | some sid => rfl
  | none =>
    cases other with
    | ready => exact far_opened hnode (current_opened (n := n) rfl rfl) rfl rfl
    | _ => rfl

/-- `SubscribeRemote` fails at once, or there is one more call. -/
theorem beginSubscribe_near (roomID : String) (q : Bytes) (fresh : SessionId)
    (other : Registered) : let n' := (n.beginSubscribe roomID q fresh other).1
    n'.near p = n.near p ∨ q = p ∧ (n'.near p = { n.near p with unsubscribed := false } ∨
      n'.near p = { n.near p with connecting := (n.near p).connecting + 1 }) := by
  -- one more call, on top of a node that has the same otherwise
  have hcall : ∀ n₁ : Node, n₁.near p = n.near p → ∀ sid opener,
      let n' : Node := { n₁ with
        calls := n₁.calls ++ [⟨n₁.nextCall, roomID, q, sid, .connecting opener⟩]
        nextCall := n₁.nextCall + 1 }
      n'.near p = n.near p ∨ q = p ∧ (n'.near p = { n.near p with unsubscribed := false } ∨
        n'.near p = { n.near p with connecting := (n.near p).connecting + 1 }) := by
    intro n₁ h₁ sid opener
    by_cases hq : q = p
    · refine .inr ⟨hq, .inr ?_⟩
      rw [← h₁]
      simp [near, current, hq, Phase.waits, Phase.granted, Phase.refused]
    · refine .inl ?_
      rw [← h₁]
      simp [near, current, hq]
  unfold beginSubscribe ensureSession
  cases hnode : n.byNode with
  | some sid => exact hcall n rfl sid false
  | none =>
    cases other with
    | ready =>
      let n₁ : Node := { n with
        byNode := some fresh
        bySID := n.bySID.insert fresh { roomID := roomID }
        pendingAccept := insert fresh n.pendingAccept }
      have h₁ : n₁.near p = n.near p :=
        near_opened hnode (current_opened (n := n) rfl rfl) rfl rfl
      exact hcall n₁ h₁ fresh true
    | _ =>
      by_cases hq : q = p
      · exact .inr ⟨hq, .inl (hq ▸ near_complete_subscribed _)⟩
      · exact .inl (near_complete_of_ne hq _)

theorem proceed_far (h : n.proceed k = some out) : out.1.far p = n.far p := by
  unfold proceed at h
  split at h
  next => cases h
  next c hc =>
    split at h
    next =>
      split_ifs at h
      split at h
      all_goals
        cases h
        rfl
    next => cases h

/-- A call returns the track it finds, or it asks for one and waits. -/
theorem proceed_near (h : n.proceed k = some out) : (out.2 = [] ∧ (out.1.near p = n.near p ∨
      ∃ m : Near, n.near p = { m with connecting := m.connecting + 1 } ∧
        out.1.near p = { m with unsubscribed := false })) ∨
    ∃ sid roomID q, out.2 = [.subscribe sid roomID q] ∧ (q ≠ p ∧ out.1.near p = n.near p ∨
      q = p ∧ ∃ m : Near, n.near p = { m with connecting := m.connecting + 1 } ∧
        out.1.near p = { m with waiting := m.waiting + 1 }) := by
  unfold proceed at h
  split at h
  next => cases h
  next c hc =>
    obtain ⟨l₁, l₂, hl, herase, hset⟩ := exists_split hc
    split at h
    next opener m hphase hm =>
      split_ifs at h
      split at h
      next info _ =>
        cases h
        refine .inl ⟨rfl, ?_⟩
        let n₀ : Node := { n with calls := n.calls.eraseIdx k }
        have hnear := near_split n n₀ (p := p) rfl rfl hl herase
        by_cases hq : c.pub = p
        · rw [if_pos hq, hphase] at hnear
          exact .inr ⟨n₀.near p, hnear, hq ▸ near_complete_subscribed _⟩
        · rw [if_neg hq] at hnear
          exact .inl ((near_complete_of_ne hq _).trans hnear.symm)
      next =>
        cases h
        refine .inr ⟨c.sid, c.roomID, c.pub, rfl, ?_⟩
        let n₀ : Node := { n with calls := l₁ ++ l₂ }
        have hnear := near_split n n₀ (p := p) rfl rfl hl rfl
        let n₁ : Node := { n with
          calls := n.calls.set k { c with phase := .subscribing none }
          pendingSubAck := n.pendingSubAck.insert (c.sid, c.pub) c.id }
        have hnear₁ := near_split n₁ n₀ (p := p) rfl rfl (hset _) rfl
        by_cases hq : c.pub = p
        · rw [if_pos hq] at hnear hnear₁
          rw [hphase] at hnear
          exact .inr ⟨hq, n₀.near p, hnear, hnear₁⟩
        · rw [if_neg hq] at hnear hnear₁
          exact .inl ⟨hq, hnear₁.trans hnear.symm⟩
    next => cases h

theorem finish_far (h : n.finish other k herr = some n') : n'.far p = n.far p := by
  unfold finish at h
  split at h
  next => cases h
  next c hc =>
    split at h
    next =>
      split at h
      all_goals cases h
      · rfl
      · rfl
      · exact far_onSession fun _ => Iff.rfl
    next => cases h

/-- A call with an answer ends. -/
theorem finish_near (h : n.finish other k herr = some n') : n'.near p = n.near p ∨
    (∃ (m : Near) (track : Bool),
      n.near p = { m with waiting := m.waiting + 1, granted := m.granted + 1 } ∧
        n'.near p = { m with unsubscribed := false, track := track }) ∨
    ∃ m : Near, n.near p = { m with waiting := m.waiting + 1, refused := m.refused + 1 } ∧
      n'.near p = { m with unsubscribed := false } := by
  unfold finish at h
  split at h
  next => cases h
  next c hc =>
    obtain ⟨l₁, l₂, hl, herase, -⟩ := exists_split hc
    split at h
    next answer hphase =>
      let n₀ : Node := { n with
        calls := n.calls.eraseIdx k
        pendingSubAck := n.pendingSubAck.erase (c.sid, c.pub) }
      have hnear := near_split n n₀ (p := p) rfl rfl hl herase
      by_cases hq : c.pub = p
      · rw [if_pos hq, hphase] at hnear
        split at h
        all_goals cases h
        · exact .inr (.inr ⟨n₀.near p, hnear, hq ▸ near_complete_subscribed _⟩)
        · exact .inr (.inl ⟨n₀.near p, (n₀.near p).track, hnear, hq ▸ near_complete_subscribed _⟩)
        next params =>
          let n₁ := n₀.onSession c.sid (·.addTrack ⟨c.roomID, c.pub, other, params⟩)
          have hlast :
              (n₁.complete c.pub (.subscribed (.ok ⟨c.roomID, c.pub, other, params⟩))).near p =
                { n₀.near p with unsubscribed := false, track := (n₁.near p).track } := by
            rw [hq, near_complete_subscribed]
            simp [n₁, near]
          exact .inr (.inl ⟨n₀.near p, (n₁.near p).track, hnear, hlast⟩)
      · rw [if_neg hq] at hnear
        refine .inl ?_
        split at h
        all_goals cases h
        · exact (near_complete_of_ne hq _).trans hnear.symm
        · exact (near_complete_of_ne hq _).trans hnear.symm
        · rw [near_complete_of_ne hq, near_onSession, hnear]
          intro m
          rw [MediaSession.addTrack, GoMap.lookup_insert_eq, if_neg (Ne.symm hq)]
    next => cases h

theorem unsubscribeRemote_far (q : Bytes) : (n.unsubscribeRemote q).1.far p = n.far p := by
  unfold unsubscribeRemote
  cases n.byNode with
  | none => rfl
  | some sid => exact far_onSession fun _ => Iff.rfl

theorem unsubscribeRemote_near_of_ne (hq : q ≠ p) :
    (n.unsubscribeRemote q).1.near p = n.near p := by
  unfold unsubscribeRemote
  cases n.byNode with
  | none => exact near_complete_of_ne hq _
  | some sid =>
    rw [near_complete_of_ne hq, near_onSession]
    intro m
    rw [MediaSession.removeTrack, GoMap.lookup_erase_eq, if_neg hq.symm]

theorem unsubscribeRemote_near :
    (n.unsubscribeRemote p).1.near p =
      { n.near p with unsubscribed := true, track := false } := by
  unfold unsubscribeRemote
  cases hnode : n.byNode with
  | none =>
    have hcur : n.current = none := by rw [current, hnode, bind_none]
    rw [near_complete_unsubscribed]
    simp [near, hcur]
  | some sid => rw [near_complete_unsubscribed, near_removeTrack (.inl hnode)]

theorem publicationEnded_near (q : Bytes) : (n.publicationEnded q).1.near p = n.near p := by
  unfold publicationEnded
  cases n.byNode with
  | none => rfl
  | some sid =>
    dsimp only
    split_ifs
    · exact near_onSession fun _ => rfl
    · rfl

theorem far_markEnded_of_ne (hq : q ≠ p) : (n.markEnded q).far p = n.far p := by
  refine far_congr rfl rfl ?_
  rw [markEnded, Finset.mem_insert, or_iff_right hq.symm]

theorem publicationEnded_far_of_ne (hq : q ≠ p) :
    (n.publicationEnded q).1.far p = n.far p := by
  unfold publicationEnded
  cases n.byNode with
  | none => exact far_markEnded_of_ne hq
  | some sid =>
    dsimp only
    split_ifs
    · rw [far_onSession, far_markEnded_of_ne hq]
      intro m
      rw [MediaSession.removeForwarder, Finset.mem_erase, and_iff_right hq.symm]
    · exact far_markEnded_of_ne hq

/-- `PublicationEnded` sends `media.track.ended` if the node of the session has a forwarder. -/
theorem publicationEnded_far :
    (n.publicationEnded p).1.far p = { n.far p with forwarder := false, ended := true } ∧
      ((n.publicationEnded p).2 = [] ∧ (n.far p).forwarder = false ∨
        ∃ sid, (n.publicationEnded p).2 = [.trackEnded sid p]) := by
  have hend : (n.markEnded p).far p = { n.far p with ended := true } := by
    simp [far, markEnded, current]
  unfold publicationEnded
  cases hnode : n.byNode with
  | none =>
    have hfwd : (n.far p).forwarder = false := by simp [far, current, hnode]
    refine ⟨?_, .inl ⟨rfl, hfwd⟩⟩
    rw [hend, ← hfwd]
  | some sid =>
    have hfwd : (n.far p).forwarder = (n.bySID.lookup sid).any fun m => p ∈ m.forwarders := by
      simp [far, current, hnode]
    dsimp only
    split_ifs with hany
    · refine ⟨?_, .inr ⟨sid, rfl⟩⟩
      have hnode' : (n.markEnded p).byNode = some sid := hnode
      rw [far_removeForwarder (.inl hnode'), hend]
    · rw [← hfwd, Bool.not_eq_true] at hany
      refine ⟨?_, .inl ⟨rfl, hany⟩⟩
      rw [hend, ← hany]

/-! ### The control messages -/

theorem onSessionOpen_near (hnone : n.byNode = none) (sid : SessionId) (roomID : String) :
    (n.onSessionOpen sid roomID).1.near p = n.near p := by
  unfold onSessionOpen
  cases n.bySID.lookup sid with
  | none => exact near_opened hnone (current_opened (n := n) rfl rfl) rfl rfl
  | some m => rfl

theorem onSessionOpen_far (hnone : n.byNode = none) (sid : SessionId) (roomID : String) :
    (n.onSessionOpen sid roomID).1.far p = n.far p := by
  unfold onSessionOpen
  cases n.bySID.lookup sid with
  | none => exact far_opened hnone (current_opened (n := n) rfl rfl) rfl rfl
  | some m => rfl

theorem onSubscribe_near (sid : SessionId) (roomID : String) (q : Bytes) :
    (n.onSubscribe sid roomID q).1.near p = n.near p := by
  unfold onSubscribe
  cases n.bySID.lookup sid with
  | none => rfl
  | some m =>
    dsimp only
    cases n.attachForwarder roomID q with
    | none => rfl
    | some params => exact near_onSession fun _ => rfl

/-- A request is refused, or granted with a forwarder of a live publication. -/
theorem onSubscribe_far {o : Option SessionId} (h : n.Tidy o) (sid : SessionId) (roomID : String)
    (q : Bytes) :
    (∃ reason, n.onSubscribe sid roomID q = (n, [.subscribeAck sid q (.error reason)])) ∨
    ∃ params, (n.onSubscribe sid roomID q).2 = [.subscribeAck sid q (.ok params)] ∧
      (q ≠ p ∧ (n.onSubscribe sid roomID q).1.far p = n.far p ∨ q = p ∧ (n.far p).live = true ∧
          (n.onSubscribe sid roomID q).1.far p = { n.far p with forwarder := true }) := by
  unfold onSubscribe
  cases hsid : n.bySID.lookup sid with
  | none => exact .inl ⟨_, rfl⟩
  | some m =>
    dsimp only
    cases hattach : n.attachForwarder roomID q with
    | none => exact .inl ⟨_, rfl⟩
    | some params =>
      refine .inr ⟨params, rfl, ?_⟩
      by_cases hq : q = p
      · subst hq
        refine .inr ⟨rfl, ?_, far_addForwarder (h.only sid m hsid) hsid⟩
        unfold attachForwarder at hattach
        cases hlive : n.publications.lookup q with
        | none => simp [hlive] at hattach
        | some r => simp [far, hlive]
      · refine .inl ⟨hq, far_onSession fun m => ?_⟩
        rw [MediaSession.addForwarder, Finset.mem_insert, or_iff_right (Ne.symm hq)]

theorem resolveSubAck_far (sid : SessionId) (q : Bytes) (a : Except Code TrackParams) :
    (n.resolveSubAck sid q a).far p = n.far p := by
  unfold resolveSubAck
  repeat' split
  all_goals rfl

/-- An answer reaches a call that waits for it, or nobody. -/
theorem resolveSubAck_near (sid : SessionId) (q : Bytes) (a : Except Code TrackParams) :
    (n.resolveSubAck sid q a).near p = n.near p ∨ q = p ∧
      (n.resolveSubAck sid q a).near p = { n.near p with
        granted := (n.near p).granted + if a.toBool then 1 else 0
        refused := (n.near p).refused + if a.toBool then 0 else 1 } := by
  unfold resolveSubAck
  cases n.bySID.lookup sid with
  | none => exact .inl rfl
  | some m =>
    dsimp only
    cases n.pendingSubAck.lookup (sid, q) with
    | none => exact .inl rfl
    | some id =>
      dsimp only
      rcases answer_eq sid q id a n.calls with heq | ⟨l₁, c, l₂, hl, hpub, hphase, heq⟩
      · rw [heq]
        exact .inl rfl
      · let n₀ : Node := { n with calls := l₁ ++ l₂ }
        let n₁ : Node := { n with calls := answer sid q id a n.calls }
        have hnear := near_split n n₀ (p := p) rfl rfl hl rfl
        have hnear₁ := near_split n₁ n₀ (p := p) rfl rfl heq rfl
        by_cases hq : q = p
        · have hcp : c.pub = p := hpub.trans hq
          rw [if_pos hcp] at hnear hnear₁
          rw [hphase] at hnear
          refine .inr ⟨hq, ?_⟩
          rw [hnear, hnear₁]
          cases a <;> rfl
        · have hcp : c.pub ≠ p := fun h => hq (hpub.symm.trans h)
          rw [if_neg hcp] at hnear hnear₁
          exact .inl (hnear₁.trans hnear.symm)

end Node

end PulseRTC.Media.Bridge
