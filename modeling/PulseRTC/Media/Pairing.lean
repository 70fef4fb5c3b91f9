import PulseRTC.Media.Bridge

/-!
# One session for two nodes

A media session is meant to be shared by everything that two nodes send each other. That is so as
long as the opening calls do not cross: if no node handles a `media.session.open` while it has a
session already, each node has at most one session, a session in use is the session of both nodes,
and all control messages are about the session of their sender (`Single`, kept by every step:
`step_single`).
-/

namespace PulseRTC.Media.Bridge

open Foundations List Option

/-- The call waits for an answer. -/
def Phase.waits : Phase → Bool
  | .subscribing _ => true
  | .connecting _ => false

def MediaSession.Used (m : MediaSession) : Prop :=
  m.authenticated = true ∨ (∃ p, p ∈ m.forwarders) ∨ ∃ p info, m.tracks.lookup p = some info

/-- A message about a session is about this one; answers are left out. -/
@[simp] def Msg.About (o : Option SessionId) : Msg → Prop
  | .sessionOpen sid _ => o = some sid
  | .subscribe sid _ _ => o = some sid
  | .unsubscribe sid _ => o = some sid
  | .trackEnded sid _ => o = some sid
  | .sessionAccept _ => True
  | .subscribeAck _ _ _ => True

theorem Msg.About.mono {m : Msg} {o o' : Option SessionId} (h : m.About o)
    (ho : o = none ∨ o' = o) : m.About o' := by
  rcases ho with rfl | rfl
  · cases m <;> simp_all [Msg.About]
  · exact h

/-- A node has one session at most; if it is in use, it is also the session of the other node. -/
structure Node.Tidy (n : Node) (other : Option SessionId) : Prop where
  only : ∀ sid m, n.bySID.lookup sid = some m → n.byNode = some sid
  held : ∀ sid, n.byNode = some sid → ∃ m, n.bySID.lookup sid = some m
  used : ∀ sid m, n.bySID.lookup sid = some m → m.Used → other = some sid
  calls : ∀ c ∈ n.calls, n.byNode = some c.sid ∧ (c.phase.waits = true → other = some c.sid)

/-- The nodes have one session at most. -/
structure Single (s : System) : Prop where
  tidy : ∀ i, (s.nodes i).Tidy (s.nodes !i).byNode
  about : ∀ x ∈ s.flight, x.2.About (s.nodes !x.1).byNode

/-- A `media.session.open` is handled only by a node without a session. -/
def Uncrossed (s : System) : Move → Prop
  | .deliver k =>
    match s.flight[k]? with
    | some (i, .sessionOpen _ _) => (s.nodes i).byNode = none
    | _ => True
  | _ => True

instance (s : System) (m : Move) : Decidable (Uncrossed s m) := by
  unfold Uncrossed
  repeat' split
  all_goals infer_instance

/-! ## The node that moves -/

variable {f : MediaSession → MediaSession} {sid : SessionId} {out : Node × List Msg}

namespace Node.Tidy

variable {n n' : Node} {o o' : Option SessionId}

/-- The other node gets a session. -/
theorem mono (h : n.Tidy o) (ho : o = none ∨ o' = o) : n.Tidy o' := by
  rcases ho with rfl | rfl
  · refine ⟨h.only, h.held, fun sid m hm hu => ?_, fun c hc => ⟨(h.calls c hc).1, fun hw => ?_⟩⟩
    · simpa using h.used sid m hm hu
    · simpa using (h.calls c hc).2 hw
  · exact h

/-- The sessions stay, and no call is new. -/
theorem congr (h : n.Tidy o) (hnode : n'.byNode = n.byNode) (hsid : n'.bySID = n.bySID)
    (hcalls : ∀ c ∈ n'.calls, c ∈ n.calls) : n'.Tidy o := by
  refine ⟨?_, ?_, ?_, ?_⟩
  · rw [hnode, hsid]
    exact h.only
  · rw [hnode, hsid]
    exact h.held
  · rw [hsid]
    exact h.used
  · rw [hnode]
    exact fun c hc => h.calls c (hcalls c hc)

theorem onSession (h : n.Tidy o)
    (hf : ∀ m, n.bySID.lookup sid = some m → (f m).Used → o = some sid) :
    (n.onSession sid f).Tidy o := by
  have hlookup : ∀ j m, (n.onSession sid f).bySID.lookup j = some m →
      j = sid ∧ (∃ m₀, n.bySID.lookup sid = some m₀ ∧ f m₀ = m) ∨
        n.bySID.lookup j = some m := by
    intro j m hm
    rw [Node.onSession_lookup] at hm
    split_ifs at hm with hj
    · exact .inl ⟨hj, map_eq_some_iff.1 hm⟩
    · exact .inr hm
  refine ⟨fun j m hm => ?_, fun j hj => ?_, fun j m hm hu => ?_, ?_⟩
  · rw [Node.onSession_byNode]
    rcases hlookup j m hm with ⟨rfl, m₀, hm₀, -⟩ | hm₀
    · exact h.only j m₀ hm₀
    · exact h.only j m hm₀
  · rw [Node.onSession_byNode] at hj
    obtain ⟨m, hm⟩ := h.held j hj
    rw [Node.onSession_lookup]
    split_ifs with hsid
    · rw [← hsid, hm]
      exact ⟨f m, rfl⟩
    · exact ⟨m, hm⟩
  · rcases hlookup j m hm with ⟨rfl, m₀, hm₀, rfl⟩ | hm₀
    · exact hf m₀ hm₀ hu
    · exact h.used j m hm₀ hu
  · rw [Node.onSession_byNode, Node.onSession_calls]
    exact h.calls

/-- Something is taken out of a session. -/
theorem onSession_of_used (h : n.Tidy o)
    (hf : ∀ m : MediaSession, (f m).Used → m.Used) : (n.onSession sid f).Tidy o :=
  h.onSession fun m hm hu => h.used sid m hm (hf m hu)

/-- A node without a session gets one. -/
theorem opened (h : n.Tidy o) (hnone : n.byNode = none) {roomID : String}
    (hnode : n'.byNode = some sid) (hsid : n'.bySID = n.bySID.insert sid { roomID := roomID })
    (hcalls : ∀ c ∈ n'.calls, c ∈ n.calls ∨ c.sid = sid ∧ c.phase.waits = false) : n'.Tidy o := by
  have hlookup : ∀ j m, n'.bySID.lookup j = some m → j = sid ∧ m = { roomID := roomID } := by
    intro j m hm
    rw [hsid, GoMap.lookup_insert_eq] at hm
    split_ifs at hm with hj
    · exact ⟨hj, (some.inj hm).symm⟩
    · have hold := h.only j m hm
      simp [hnone] at hold
  refine ⟨fun j m hm => ?_, fun j hj => ?_, fun j m hm hu => ?_, fun c hc => ?_⟩
  · rw [hnode, (hlookup j m hm).1]
  · obtain rfl : sid = j := mem_unique hnode hj
    rw [hsid]
    exact ⟨_, Finmap.lookup_insert n.bySID⟩
  · obtain ⟨rfl, rfl⟩ := hlookup j m hm
    simp [MediaSession.Used] at hu
  · rcases hcalls c hc with hc | ⟨rfl, hw⟩
    · have := (h.calls c hc).1
      simp [hnone] at this
    · exact ⟨hnode, by simp [hw]⟩

end Node.Tidy

namespace Node

variable {n : Node} {o : Option SessionId}

variable {pub : Bytes} {m : MediaSession}

theorem used_removeTrack (h : (m.removeTrack pub).Used) : m.Used := by
  rcases h with h | h | ⟨p, info, h⟩
  · exact .inl h
  · exact .inr (.inl h)
  · simp only [MediaSession.removeTrack, GoMap.lookup_erase_eq] at h
    split_ifs at h
    exact .inr (.inr ⟨p, info, h⟩)

theorem used_removeForwarder (h : (m.removeForwarder pub).Used) : m.Used := by
  rcases h with h | ⟨p, h⟩ | h
  · exact .inl h
  · exact .inr (.inl ⟨p, Finset.mem_of_mem_erase h⟩)
  · exact .inr (.inr h)

theorem mem_answer {id : ℕ} {a : Except Code TrackParams}
    {cs : List Call} {c : Call} (h : c ∈ answer sid pub id a cs) :
    ∃ c₀ ∈ cs, c.sid = c₀.sid ∧ c.phase.waits = c₀.phase.waits := by
  rcases answer_eq sid pub id a cs with heq | ⟨l₁, d, l₂, rfl, -, hphase, heq⟩
  · rw [heq] at h
    exact ⟨c, h, rfl, rfl⟩
  · rw [heq] at h
    rcases mem_append.1 h with h | h
    · exact ⟨c, mem_append_left _ h, rfl, rfl⟩
    · rcases mem_cons.1 h with rfl | h
      · refine ⟨d, mem_append_right _ mem_cons_self, rfl, ?_⟩
        rw [hphase]
        rfl
      · exact ⟨c, mem_append_right _ (mem_cons_of_mem d h), rfl, rfl⟩

/-- What a step of a node keeps: it is tidy, its session stays, and it sends messages about it. -/
structure Keeps (n : Node) (o : Option SessionId) (out : Node × List Msg) : Prop where
  tidy : out.1.Tidy o
  stays : n.byNode = none ∨ out.1.byNode = n.byNode
  about : ∀ m ∈ out.2, m.About out.1.byNode

theorem keeps_beginSubscribe (h : n.Tidy o) (roomID : String) (pub : Bytes) (fresh : SessionId)
    (other : Registered) : n.Keeps o (n.beginSubscribe roomID pub fresh other) := by
  have herror : ∀ e, n.Keeps o (n.complete pub (.subscribed (.error e)), []) := fun e =>
    ⟨h.congr rfl rfl fun _ hc => hc, .inr rfl, by simp⟩
  unfold beginSubscribe ensureSession
  cases hnode : n.byNode with
  | some sid =>
    refine ⟨⟨h.only, h.held, h.used, fun c hc => ?_⟩, .inr rfl, by simp⟩
    rcases mem_snoc.1 hc with hc | rfl
    · exact h.calls c hc
    · exact ⟨hnode, nofun⟩
  | none =>
    cases other with
    | noMediaAddr => exact herror _
    | notReady => exact herror _
    | badMediaAddr => exact herror _
    | ready =>
      refine ⟨h.opened hnode rfl rfl fun c hc => ?_, .inl hnode, by simp⟩
      rcases mem_snoc.1 hc with hc | rfl
      · exact .inl hc
      · exact .inr ⟨rfl, rfl⟩

theorem keeps_proceed (h : n.Tidy o) {k : ℕ} (hout : n.proceed k = some out) : n.Keeps o out := by
  unfold proceed at hout
  cases hc : n.calls[k]? with
  | none => simp [hc] at hout
  | some c =>
    obtain ⟨l₁, l₂, hl, herase, hset⟩ := exists_split hc
    have hmem : c ∈ n.calls := mem_of_getElem? hc
    simp only [hc] at hout
    split at hout
    next opener m hphase hm =>
      split_ifs at hout with hready
      split at hout
      next info hinfo =>
        cases hout
        exact ⟨h.congr rfl rfl fun _ hd => mem_of_mem_eraseIdx hd, .inr rfl, by simp⟩
      next =>
        cases hout
        have hpair : o = some c.sid := h.used c.sid m hm (.inl hready.1)
        refine ⟨⟨h.only, h.held, h.used, fun d hd => ?_⟩, .inr rfl, ?_⟩
        · rcases mem_or_eq_of_mem_set hd with hd | rfl
          · exact h.calls d hd
          · exact ⟨(h.calls c hmem).1, fun _ => hpair⟩
        · simpa using (h.calls c hmem).1
    next => cases hout

theorem keeps_finish (h : n.Tidy o) {other : Bool} {k : ℕ} {herr : Option Error} {n' : Node}
    (hout : n.finish other k herr = some n') : n.Keeps o (n', []) := by
  unfold finish at hout
  cases hc : n.calls[k]? with
  | none => simp [hc] at hout
  | some c =>
    have hmem : c ∈ n.calls := mem_of_getElem? hc
    simp only [hc] at hout
    split at hout
    next answer hphase =>
      let n₁ : Node := { n with
        calls := n.calls.eraseIdx k
        pendingSubAck := n.pendingSubAck.erase (c.sid, c.pub) }
      have h₁ : n₁.Tidy o := h.congr rfl rfl fun _ hd => mem_of_mem_eraseIdx hd
      have hpair : o = some c.sid := (h.calls c hmem).2 (by rw [hphase]; rfl)
      split at hout
      all_goals cases hout
      · exact ⟨h₁.congr rfl rfl fun _ hd => hd, .inr rfl, by simp⟩
      · exact ⟨h₁.congr rfl rfl fun _ hd => hd, .inr rfl, by simp⟩
      next params =>
        let info : RemotePublicationInfo := ⟨c.roomID, c.pub, other, params⟩
        have h₂ : (n₁.onSession c.sid (·.addTrack info)).Tidy o := h₁.onSession fun _ _ _ => hpair
        refine ⟨h₂.congr rfl rfl fun _ hd => hd, .inr ?_, by simp⟩
        exact n₁.onSession_byNode c.sid _
    next => cases hout

theorem keeps_onSession (h : n.Tidy o)
    (hf : ∀ m, n.bySID.lookup sid = some m → (f m).Used → o = some sid) :
    n.Keeps o (n.onSession sid f, []) :=
  ⟨h.onSession hf, .inr (n.onSession_byNode sid f), by simp⟩

theorem keeps_unsubscribeRemote (h : n.Tidy o) (pub : Bytes) :
    n.Keeps o (n.unsubscribeRemote pub) := by
  unfold unsubscribeRemote
  cases hnode : n.byNode with
  | none => exact ⟨h.congr rfl rfl fun _ hc => hc, .inr rfl, by simp⟩
  | some sid =>
    have h₁ : (n.onSession sid (·.removeTrack pub)).Tidy o :=
      h.onSession_of_used fun _ => used_removeTrack
    have hstay : (n.onSession sid (·.removeTrack pub)).byNode = some sid := by
      rw [onSession_byNode, hnode]
    refine ⟨h₁.congr rfl rfl fun _ hc => hc, .inr (hstay.trans hnode.symm), ?_⟩
    simpa [complete] using hnode

theorem keeps_publicationEnded (h : n.Tidy o) (pub : Bytes) :
    n.Keeps o (n.publicationEnded pub) := by
  have h₁ : (n.markEnded pub).Tidy o := h.congr rfl rfl fun _ hc => hc
  have hnone : n.Keeps o (n.markEnded pub, []) := ⟨h₁, .inr rfl, by simp⟩
  unfold publicationEnded
  cases hnode : n.byNode with
  | none => exact hnone
  | some sid =>
    dsimp only
    split_ifs
    · refine ⟨h₁.onSession_of_used fun _ => used_removeForwarder, .inr (onSession_byNode _ _ _), ?_⟩
      simpa [markEnded] using hnode
    · exact hnone

theorem keeps_handleControl (h : n.Tidy o) {m : Msg} (hm : m.About o)
    (hopen : ∀ sid roomID, m = .sessionOpen sid roomID → n.byNode = none) :
    n.Keeps o (n.handleControl m) := by
  have hsame : ∀ m : Msg, m.About n.byNode → n.Keeps o (n, [m]) := fun m hm =>
    ⟨h, .inr rfl, by simpa using hm⟩
  cases m with
  | sessionOpen sid roomID =>
    simp only [handleControl, onSessionOpen]
    cases hsid : n.bySID.lookup sid with
    | none =>
      have hnone := hopen sid roomID rfl
      exact ⟨h.opened hnone rfl rfl fun c hc => .inl hc, .inl hnone, by simp⟩
    | some m => exact hsame _ trivial
  | sessionAccept sid => exact ⟨h.congr rfl rfl fun _ hc => hc, .inr rfl, by simp [handleControl]⟩
  | subscribe sid roomID pub =>
    simp only [handleControl, onSubscribe]
    cases hsid : n.bySID.lookup sid with
    | none => exact hsame _ trivial
    | some m =>
      dsimp only
      cases n.attachForwarder roomID pub with
      | none => exact hsame _ trivial
      | some params =>
        have hk := keeps_onSession h (f := (·.addForwarder pub)) fun _ _ _ => hm
        exact ⟨hk.tidy, hk.stays, by simp⟩
  | subscribeAck sid pub a =>
    simp only [handleControl, resolveSubAck]
    have hid : n.Keeps o (n, []) := ⟨h, .inr rfl, by simp⟩
    cases n.bySID.lookup sid with
    | none => exact hid
    | some m =>
      dsimp only
      cases n.pendingSubAck.lookup (sid, pub) with
      | none => exact hid
      | some id =>
        refine ⟨⟨h.only, h.held, h.used, fun c hc => ?_⟩, .inr rfl, by simp⟩
        obtain ⟨c₀, hc₀, hsid, hwaits⟩ := mem_answer hc
        rw [hsid, hwaits]
        exact h.calls c₀ hc₀
  | unsubscribe sid pub =>
    exact keeps_onSession h fun m hm hu => h.used sid m hm (used_removeForwarder hu)
  | trackEnded sid pub =>
    exact keeps_onSession h fun m hm hu => h.used sid m hm (used_removeTrack hu)

end Node

/-! ## Both nodes -/

theorem Single.moved {s : System} (h : Single s) {i : Bool}
    (hk : (s.nodes i).Keeps (s.nodes !i).byNode out) : Single (s.moved i out) := by
  have hother : (s.nodes !i).Tidy out.1.byNode := by
    have hold := h.tidy (!i)
    rw [Bool.not_not] at hold
    exact hold.mono hk.stays
  have hnode : ∀ j, (s.nodes j).byNode = none ∨
      ((s.moved i out).nodes j).byNode = (s.nodes j).byNode := by
    intro j
    by_cases hj : j = i
    · subst hj
      rw [moved_nodes_self]
      exact hk.stays
    · obtain rfl : j = !i := Bool.eq_not.2 hj
      rw [moved_nodes_not]
      exact .inr rfl
  refine ⟨fun j => ?_, fun x hx => ?_⟩
  · by_cases hj : j = i
    · subst hj
      rw [moved_nodes_self, moved_nodes_not]
      exact hk.tidy
    · obtain rfl : j = !i := Bool.eq_not.2 hj
      rw [Bool.not_not, moved_nodes_self, moved_nodes_not]
      exact hother
  · rcases mem_append.1 hx with hx | hx
    · exact (h.about x hx).mono (hnode _)
    · obtain ⟨m, hm, rfl⟩ := mem_map.1 hx
      rw [Bool.not_not, moved_nodes_self]
      exact hk.about m hm

theorem step_single {s s' : System} {m : Move} (h : Single s) (hm : Uncrossed s m)
    (hstep : step s m = some s') : Single s' := by
  cases m with
  | publish i roomID pub params =>
    simp only [step] at hstep
    split_ifs at hstep
    cases hstep
    exact h.moved ⟨(h.tidy i).congr rfl rfl fun _ hc => hc, .inr rfl, by simp⟩
  | unpublish i pub =>
    cases hstep
    exact h.moved ⟨(h.tidy i).congr rfl rfl fun _ hc => hc, .inr rfl, by simp⟩
  | subscribe i roomID pub fresh other =>
    simp only [step] at hstep
    split_ifs at hstep
    cases hstep
    exact h.moved (Node.keeps_beginSubscribe (h.tidy i) roomID pub fresh other)
  | proceed i k =>
    obtain ⟨out, hout, rfl⟩ := map_eq_some_iff.1 hstep
    exact h.moved (Node.keeps_proceed (h.tidy i) hout)
  | finish i k herr =>
    obtain ⟨n, hn, rfl⟩ := map_eq_some_iff.1 hstep
    exact h.moved (Node.keeps_finish (h.tidy i) hn)
  | unsubscribe i pub =>
    cases hstep
    exact h.moved (Node.keeps_unsubscribeRemote (h.tidy i) pub)
  | publicationEnded i pub =>
    simp only [step] at hstep
    split_ifs at hstep
    cases hstep
    exact h.moved (Node.keeps_publicationEnded (h.tidy i) pub)
  | authenticate i sid =>
    simp only [step] at hstep
    split_ifs at hstep with hheld
    cases hstep
    obtain ⟨m, hm⟩ := ne_none_iff_exists'.1 (hheld (!i))
    have hpair := (h.tidy (!i)).only sid m hm
    exact h.moved (Node.keeps_onSession (h.tidy i) fun _ _ _ => hpair)
  | deliver k =>
    simp only [step] at hstep
    split at hstep
    next => cases hstep
    next i m hk =>
      cases hstep
      have ht : Single { s with flight := s.flight.eraseIdx k } :=
        ⟨h.tidy, fun x hx => h.about x (mem_of_mem_eraseIdx hx)⟩
      refine ht.moved (Node.keeps_handleControl (h.tidy i) (h.about _ (mem_of_getElem? hk)) ?_)
      rintro sid roomID rfl
      simpa [Uncrossed, hk] using hm

theorem single_init : Single {} := by
  refine ⟨fun i => ⟨fun sid m hm => ?_, nofun, fun sid m hm => ?_, nofun⟩, nofun⟩
  · simp at hm
  · simp at hm

end PulseRTC.Media.Bridge
