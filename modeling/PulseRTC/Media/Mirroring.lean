import PulseRTC.Media.Mirror

/-!
# The mirrors of two nodes

Publications that the nodes subscribe to and unsubscribe from, under every interleaving of the
calls and every order of delivery.

* `step_event`: a step of the two nodes is an event of every mirror, under conditions on overlaps.
* `mirror_stopped`: in a run of such steps an unsubscribed or ended publication leaves nothing
  behind.

If both nodes open a session at once, each of them goes on with the session it opened, while
`UnsubscribeRemote` and `PublicationEnded` look at the session of the other one.
-/

namespace PulseRTC.Media.Bridge

open Foundations List Option

/-! ## The messages -/

/-- The messages about a publication `p` that the node `i` subscribes to. -/
def transit (i : Bool) (p : Bytes) (l : List (Bool × Msg)) : Transit where
  requests := l.countP fun
    | (j, .subscribe _ _ q) => j = !i && q = p
    | _ => false
  grants := l.countP fun
    | (j, .subscribeAck _ q (.ok _)) => j = i && q = p
    | _ => false
  refusals := l.countP fun
    | (j, .subscribeAck _ q (.error _)) => j = i && q = p
    | _ => false
  unsubs := l.countP fun
    | (j, .unsubscribe _ q) => j = !i && q = p
    | _ => false
  ends := l.countP fun
    | (j, .trackEnded _ q) => j = i && q = p
    | _ => false

/-- The mirror on the node `i` of the publication `p` of the other node. -/
def System.mirror (s : System) (i : Bool) (p : Bytes) : Mirror where
  near := (s.nodes i).near p
  far := (s.nodes !i).far p
  transit := transit i p s.flight

theorem mirror_moved_self (s : System) (i : Bool) (p : Bytes) (out : Node × List Msg) :
    (s.moved i out).mirror i p = ⟨out.1.near p, (s.nodes !i).far p,
      transit i p (s.flight ++ out.2.map fun m => (!i, m))⟩ := by
  rw [System.mirror, moved_nodes_self, moved_nodes_not]
  rfl

theorem mirror_moved_not (s : System) (i : Bool) (p : Bytes) (out : Node × List Msg) :
    (s.moved (!i) out).mirror i p = ⟨(s.nodes i).near p, out.1.far p,
      transit i p (s.flight ++ out.2.map fun m => (i, m))⟩ := by
  have hself := moved_nodes_not s (!i) out
  rw [Bool.not_not] at hself
  rw [System.mirror, moved_nodes_self, hself, System.moved, Bool.not_not]

/-- The message is about the publication `p` that the node `i` subscribes to. -/
def Concerns (i : Bool) (p : Bytes) : Bool × Msg → Prop
  | (j, .subscribe _ _ q) => j = (!i) ∧ q = p
  | (j, .unsubscribe _ q) => j = (!i) ∧ q = p
  | (j, .subscribeAck _ q _) => j = i ∧ q = p
  | (j, .trackEnded _ q) => j = i ∧ q = p
  | (_, .sessionOpen _ _) => False
  | (_, .sessionAccept _) => False

section Transit

variable {i : Bool} {p : Bytes} (l : List (Bool × Msg))

theorem transit_snoc (x : Bool × Msg) :
    transit i p (l ++ [x]) =
      { requests := (transit i p l).requests + (transit i p [x]).requests
        grants := (transit i p l).grants + (transit i p [x]).grants
        refusals := (transit i p l).refusals + (transit i p [x]).refusals
        unsubs := (transit i p l).unsubs + (transit i p [x]).unsubs
        ends := (transit i p l).ends + (transit i p [x]).ends } := by
  simp only [transit, countP_append]

section One

variable (j : Bool) (sid : SessionId) (q : Bytes)

theorem transit_one_subscribe (roomID : String) :
    transit i p [(j, .subscribe sid roomID q)] =
      ⟨if j = (!i) ∧ q = p then 1 else 0, 0, 0, 0, 0⟩ := by
  refine Transit.ext ?_ rfl rfl rfl rfl
  simp only [transit, countP_singleton, Bool.and_eq_true, decide_eq_true_eq]

theorem transit_one_grant (params : TrackParams) :
    transit i p [(j, .subscribeAck sid q (.ok params))] =
      ⟨0, if j = i ∧ q = p then 1 else 0, 0, 0, 0⟩ := by
  refine Transit.ext rfl ?_ rfl rfl rfl
  simp only [transit, countP_singleton, Bool.and_eq_true, decide_eq_true_eq]

theorem transit_one_refusal (reason : Code) :
    transit i p [(j, .subscribeAck sid q (.error reason))] =
      ⟨0, 0, if j = i ∧ q = p then 1 else 0, 0, 0⟩ := by
  refine Transit.ext rfl rfl ?_ rfl rfl
  simp only [transit, countP_singleton, Bool.and_eq_true, decide_eq_true_eq]

theorem transit_one_unsubscribe :
    transit i p [(j, .unsubscribe sid q)] =
      ⟨0, 0, 0, if j = (!i) ∧ q = p then 1 else 0, 0⟩ := by
  refine Transit.ext rfl rfl rfl ?_ rfl
  simp only [transit, countP_singleton, Bool.and_eq_true, decide_eq_true_eq]

theorem transit_one_trackEnded :
    transit i p [(j, .trackEnded sid q)] = ⟨0, 0, 0, 0, if j = i ∧ q = p then 1 else 0⟩ := by
  refine Transit.ext rfl rfl rfl rfl ?_
  simp only [transit, countP_singleton, Bool.and_eq_true, decide_eq_true_eq]

end One

theorem transit_of_not {x : Bool × Msg} (h : ¬ Concerns i p x) :
    transit i p (l ++ [x]) = transit i p l := by
  have hnone : transit i p [x] = ⟨0, 0, 0, 0, 0⟩ := by
    obtain ⟨j, m⟩ := x
    cases m with
    | sessionOpen sid roomID => rfl
    | sessionAccept sid => rfl
    | subscribe sid roomID q =>
      dsimp only [Concerns] at h
      rw [transit_one_subscribe, if_neg h]
    | subscribeAck sid q a =>
      dsimp only [Concerns] at h
      cases a with
      | ok params => rw [transit_one_grant, if_neg h]
      | error reason => rw [transit_one_refusal, if_neg h]
    | unsubscribe sid q =>
      dsimp only [Concerns] at h
      rw [transit_one_unsubscribe, if_neg h]
    | trackEnded sid q =>
      dsimp only [Concerns] at h
      rw [transit_one_trackEnded, if_neg h]
  rw [transit_snoc, hnone]
  rfl

/-- Messages about something else are sent. -/
theorem transit_sent {msgs : List Msg} {d : Bool} (h : ∀ m ∈ msgs, ¬ Concerns i p (d, m)) :
    transit i p (l ++ msgs.map fun m => (d, m)) = transit i p l := by
  induction msgs generalizing l with
  | nil => rw [map_nil, append_nil]
  | cons m msgs ih =>
    rw [map_cons, ← singleton_append, ← append_assoc,
      ih _ fun m' hm' => h m' (mem_cons_of_mem _ hm')]
    exact transit_of_not l (h m mem_cons_self)

theorem transit_subscribe (sid : SessionId) (roomID : String) :
    transit i p (l ++ [(!i, .subscribe sid roomID p)]) =
      { transit i p l with requests := (transit i p l).requests + 1 } := by
  rw [transit_snoc, transit_one_subscribe, if_pos ⟨rfl, rfl⟩]
  rfl

theorem transit_grant (sid : SessionId) (params : TrackParams) :
    transit i p (l ++ [(i, .subscribeAck sid p (.ok params))]) =
      { transit i p l with grants := (transit i p l).grants + 1 } := by
  rw [transit_snoc, transit_one_grant, if_pos ⟨rfl, rfl⟩]
  rfl

theorem transit_refusal (sid : SessionId) (reason : Code) :
    transit i p (l ++ [(i, .subscribeAck sid p (.error reason))]) =
      { transit i p l with refusals := (transit i p l).refusals + 1 } := by
  rw [transit_snoc, transit_one_refusal, if_pos ⟨rfl, rfl⟩]
  rfl

theorem transit_unsubscribe (sid : SessionId) :
    transit i p (l ++ [(!i, .unsubscribe sid p)]) =
      { transit i p l with unsubs := (transit i p l).unsubs + 1 } := by
  rw [transit_snoc, transit_one_unsubscribe, if_pos ⟨rfl, rfl⟩]
  rfl

theorem transit_trackEnded (sid : SessionId) :
    transit i p (l ++ [(i, .trackEnded sid p)]) =
      { transit i p l with ends := (transit i p l).ends + 1 } := by
  rw [transit_snoc, transit_one_trackEnded, if_pos ⟨rfl, rfl⟩]
  rfl

/-- The order of the messages does not matter. -/
theorem transit_middle (l₁ l₂ : List (Bool × Msg)) (x : Bool × Msg) :
    transit i p (l₁ ++ x :: l₂) = transit i p (l₁ ++ l₂ ++ [x]) := by
  have hcount : ∀ f : Bool × Msg → Bool,
      (l₁ ++ x :: l₂).countP f = (l₁ ++ l₂ ++ [x]).countP f := by
    intro f
    refine List.Perm.countP_eq f ?_
    rw [append_assoc]
    exact (perm_append_singleton x l₂).symm.append_left l₁
  simp only [transit, hcount]

end Transit

/-! ## Steps are events -/

/-- `SubscribeRemote` overlaps neither with `UnsubscribeRemote` nor with `PublicationEnded` of the
same publication. -/
def Apart (s : System) : Move → Prop
  | .subscribe i _ pub _ _ => (transit i pub s.flight).unsubs = 0
  | .unsubscribe i pub => ∀ c ∈ (s.nodes i).calls, c.pub ≠ pub
  | .publicationEnded i pub => ∀ c ∈ (s.nodes !i).calls, c.pub ≠ pub
  | _ => True

instance (s : System) : DecidablePred (Apart s)
  | .subscribe i _ pub _ _ => inferInstanceAs (Decidable ((transit i pub s.flight).unsubs = 0))
  | .unsubscribe _ _ => inferInstanceAs (Decidable (∀ _, _))
  | .publicationEnded _ _ => inferInstanceAs (Decidable (∀ _, _))
  | .publish .. | .unpublish .. | .proceed .. | .finish .. | .authenticate .. | .deliver .. =>
    .isTrue trivial

variable {p : Bytes} {s : System}

variable {n : Node}

theorem Node.near_calls (h : ∀ c ∈ n.calls, c.pub ≠ p) :
    (n.near p).connecting + (n.near p).waiting = 0 := by
  have hzero : ∀ f : Call → Bool, n.calls.countP (fun c => c.pub = p && f c) = 0 := by
    intro f
    refine countP_eq_zero.2 fun c hc => ?_
    simp [h c hc]
  simp only [Node.near, hzero]

theorem Single.of_forwarder (hs : Single s) {j : Bool} (h : ((s.nodes j).far p).forwarder = true) :
    ∃ sid, (s.nodes j).byNode = some sid ∧ (s.nodes !j).byNode = some sid := by
  obtain ⟨m, hm, hp⟩ := (any_eq_true _ _).1 h
  obtain ⟨sid, hnode, hsid⟩ := bind_eq_some_iff.1 hm
  exact ⟨sid, hnode, (hs.tidy j).used sid m hsid (.inr (.inl ⟨p, of_decide_eq_true hp⟩))⟩

theorem Single.of_track (hs : Single s) {j : Bool} (h : ((s.nodes j).near p).track = true) :
    ∃ sid, (s.nodes j).byNode = some sid ∧ (s.nodes !j).byNode = some sid := by
  obtain ⟨m, hm, hp⟩ := (any_eq_true _ _).1 h
  obtain ⟨sid, hnode, hsid⟩ := bind_eq_some_iff.1 hm
  obtain ⟨info, hinfo⟩ := isSome_iff_exists.1 hp
  exact ⟨sid, hnode, (hs.tidy j).used sid m hsid (.inr (.inr ⟨p, info, hinfo⟩))⟩

section Events

variable {s : System} {i : Bool} {p : Bytes}

variable {j : Bool} {q : Bytes}

/-- A node lists a publication, or does so no longer. -/
theorem event_live (q : Bytes) (live : Bool) (hnear : n.near p = (s.nodes j).near p)
    (hself : n.far q = { (s.nodes j).far q with live := live })
    (hother : p ≠ q → n.far p = (s.nodes j).far p)
    (hfresh : live = true → ((s.nodes j).far q).ended = false) :
    Event (s.mirror i p) ((s.moved j (n, [])).mirror i p) := by
  by_cases hj : j = i
  · subst hj
    rw [mirror_moved_self, map_nil, append_nil, hnear]
    exact .stutter _
  · obtain rfl : j = !i := Bool.eq_not.2 hj
    rw [mirror_moved_not, map_nil, append_nil]
    by_cases hq : p = q
    · subst hq
      rw [hself]
      exact .publish _ _ _ live hfresh
    · rw [hother hq]
      exact .stutter _

variable {roomID : String} {k : ℕ} {m : Msg}

theorem event_publish {params : TrackParams} (hended : q ∉ (s.nodes j).ended) :
    Event (s.mirror i p) ((s.moved j ((s.nodes j).publish roomID q params, [])).mirror i p) := by
  refine event_live q true rfl ?_ ?_ ?_
  · refine Far.ext rfl ?_ rfl
    simp [Node.far, Node.publish]
  · exact fun hne => Node.far_congr rfl (Finmap.lookup_insert_of_ne _ hne) Iff.rfl
  · intro _
    simpa [Node.far] using hended

theorem event_unpublish :
    Event (s.mirror i p) ((s.moved j ((s.nodes j).unpublish q, [])).mirror i p) := by
  refine event_live q false rfl ?_ ?_ ?_
  · refine Far.ext rfl ?_ rfl
    simp [Node.far, Node.unpublish]
  · exact fun hne => Node.far_congr rfl (Finmap.lookup_erase_ne hne) Iff.rfl
  · exact fun h => absurd h Bool.false_ne_true

theorem event_subscribe {fresh : SessionId} {other : Registered}
    (hapart : (transit j q s.flight).unsubs = 0) : Event (s.mirror i p)
      ((s.moved j ((s.nodes j).beginSubscribe roomID q fresh other)).mirror i p) := by
  have hsent : ∀ d, transit i p (s.flight ++
      ((s.nodes j).beginSubscribe roomID q fresh other).2.map fun m => (d, m)) =
      transit i p s.flight := by
    intro d
    unfold Node.beginSubscribe Node.ensureSession
    cases (s.nodes j).byNode with
    | some sid => simp
    | none =>
      cases other with
      | ready => exact transit_of_not _ id
      | _ => simp
  by_cases hj : j = i
  · subst hj
    rw [mirror_moved_self, hsent]
    rcases Node.beginSubscribe_near (n := s.nodes j) (p := p) roomID q fresh other with
      hnear | ⟨rfl, hnear | hnear⟩
    · rw [hnear]
      exact .stutter _
    · rw [hnear]
      exact .failed _ _ _
    · rw [hnear]
      exact .start _ _ _ hapart
  · obtain rfl : j = !i := Bool.eq_not.2 hj
    rw [mirror_moved_not, hsent, Node.beginSubscribe_far]
    exact .stutter _

theorem event_proceed {out : Node × List Msg} (hout : (s.nodes j).proceed k = some out) :
    Event (s.mirror i p) ((s.moved j out).mirror i p) := by
  have hnear := Node.proceed_near (p := p) hout
  by_cases hj : j = i
  · subst hj
    rw [mirror_moved_self]
    rcases hnear with ⟨hsent, hnear | ⟨m, hold, hnew⟩⟩ | ⟨sid, roomID, q, hsent, hnear⟩
    · rw [hsent, hnear, map_nil, append_nil]
      exact .stutter _
    · rw [hsent, hnew, map_nil, append_nil, System.mirror, hold]
      exact .found _ _ _
    · rw [hsent, map_singleton]
      rcases hnear with ⟨hq, hnear⟩ | ⟨rfl, m, hold, hnew⟩
      · have hno : ¬ Concerns j p (!j, .subscribe sid roomID q) := fun h => hq h.2
        rw [hnear, transit_of_not _ hno]
        exact .stutter _
      · rw [hnew, transit_subscribe, System.mirror, hold]
        exact .request _ _ _
  · obtain rfl : j = !i := Bool.eq_not.2 hj
    have hsent : transit i p (s.flight ++ out.2.map fun m => (i, m)) = transit i p s.flight := by
      rcases hnear with ⟨hsent, -⟩ | ⟨sid, roomID, q, hsent, -⟩
      · rw [hsent, map_nil, append_nil]
      · rw [hsent, map_singleton]
        exact transit_of_not _ fun h => Bool.not_ne_self i h.1.symm
    rw [mirror_moved_not, hsent, Node.proceed_far hout]
    exact .stutter _

theorem event_finish {herr : Option Error} {n' : Node}
    (hout : (s.nodes j).finish (!j) k herr = some n') :
    Event (s.mirror i p) ((s.moved j (n', [])).mirror i p) := by
  by_cases hj : j = i
  · subst hj
    rw [mirror_moved_self, map_nil, append_nil]
    rcases Node.finish_near (p := p) hout with hnear | ⟨m, track, hold, hnew⟩ | ⟨m, hold, hnew⟩
    · rw [hnear]
      exact .stutter _
    · rw [hnew, System.mirror, hold]
      exact .finish _ _ _ track
    · rw [hnew, System.mirror, hold]
      exact .giveUp _ _ _
  · obtain rfl : j = !i := Bool.eq_not.2 hj
    rw [mirror_moved_not, map_nil, append_nil, Node.finish_far hout]
    exact .stutter _

theorem event_unsubscribe (hs : Single s) (hapart : ∀ c ∈ (s.nodes j).calls, c.pub ≠ q) :
    Event (s.mirror i p) ((s.moved j ((s.nodes j).unsubscribeRemote q)).mirror i p) := by
  have hsent : ((s.nodes j).byNode = none ∧ ((s.nodes j).unsubscribeRemote q).2 = []) ∨
      ∃ sid, ((s.nodes j).unsubscribeRemote q).2 = [.unsubscribe sid q] := by
    unfold Node.unsubscribeRemote
    cases (s.nodes j).byNode with
    | none => exact .inl ⟨rfl, rfl⟩
    | some sid => exact .inr ⟨sid, rfl⟩
  have hmsg : ∀ m ∈ ((s.nodes j).unsubscribeRemote q).2, ∃ sid, m = .unsubscribe sid q := by
    intro m hm
    rcases hsent with ⟨-, hsent⟩ | ⟨sid, hsent⟩
    · simp [hsent] at hm
    · exact ⟨sid, by simpa [hsent] using hm⟩
  by_cases hj : j = i
  · subst hj
    rw [mirror_moved_self]
    by_cases hq : q = p
    · subst hq
      have halone := Node.near_calls hapart
      rw [Node.unsubscribeRemote_near]
      rcases hsent with ⟨hnone, hsent⟩ | ⟨sid, hsent⟩
      · rw [hsent, map_nil, append_nil]
        refine .unsubscribe _ _ _ 0 halone fun hfwd => ?_
        obtain ⟨sid, -, hsid⟩ := hs.of_forwarder hfwd
        rw [Bool.not_not, hnone] at hsid
        cases hsid
      · rw [hsent, map_singleton, transit_unsubscribe]
        exact .unsubscribe _ _ _ 1 halone fun _ => Nat.one_pos
    · rw [transit_sent, Node.unsubscribeRemote_near_of_ne hq]
      · exact .stutter _
      · intro m hm h
        obtain ⟨sid, rfl⟩ := hmsg m hm
        exact hq h.2
  · obtain rfl : j = !i := Bool.eq_not.2 hj
    rw [mirror_moved_not, transit_sent, Node.unsubscribeRemote_far]
    · exact .stutter _
    · intro m hm h
      obtain ⟨sid, rfl⟩ := hmsg m hm
      exact Bool.not_ne_self i h.1.symm

theorem event_publicationEnded (hgone : (s.nodes j).publications.lookup q = none)
    (hapart : ∀ c ∈ (s.nodes !j).calls, c.pub ≠ q) :
    Event (s.mirror i p) ((s.moved j ((s.nodes j).publicationEnded q)).mirror i p) := by
  obtain ⟨hfar, hsent⟩ := Node.publicationEnded_far (n := s.nodes j) (p := q)
  have hmsg : ∀ m ∈ ((s.nodes j).publicationEnded q).2, ∃ sid, m = .trackEnded sid q := by
    intro m hm
    rcases hsent with ⟨hsent, -⟩ | ⟨sid, hsent⟩
    · simp [hsent] at hm
    · exact ⟨sid, by simpa [hsent] using hm⟩
  by_cases hj : j = i
  · subst hj
    rw [mirror_moved_self, transit_sent, Node.publicationEnded_near]
    · exact .stutter _
    · intro m hm h
      obtain ⟨sid, rfl⟩ := hmsg m hm
      exact Bool.not_ne_self j h.1
  · obtain rfl : j = !i := Bool.eq_not.2 hj
    rw [Bool.not_not] at hapart
    rw [mirror_moved_not]
    by_cases hq : q = p
    · subst hq
      have halone := Node.near_calls hapart
      have hlive : ((s.nodes !i).far q).live = false := by simp [Node.far, hgone]
      rw [hfar]
      rcases hsent with ⟨hsent, hfwd⟩ | ⟨sid, hsent⟩
      · rw [hsent, map_nil, append_nil]
        exact .close _ _ _ 0 halone hlive (by simp [hfwd])
      · rw [hsent, map_singleton, transit_trackEnded]
        exact .close _ _ _ 1 halone hlive fun _ => Nat.one_pos
    · rw [transit_sent, Node.publicationEnded_far_of_ne hq]
      · exact .stutter _
      · intro m hm h
        obtain ⟨sid, rfl⟩ := hmsg m hm
        exact hq h.2

theorem event_authenticate {sid : SessionId} :
    Event (s.mirror i p)
      ((s.moved j ((s.nodes j).onSession sid (·.authenticate), [])).mirror i p) := by
  by_cases hj : j = i
  · subst hj
    have hnear : ((s.nodes j).onSession sid (·.authenticate)).near p = (s.nodes j).near p :=
      Node.near_onSession fun _ => rfl
    rw [mirror_moved_self, hnear, map_nil, append_nil]
    exact .stutter _
  · obtain rfl : j = !i := Bool.eq_not.2 hj
    have hfar : ((s.nodes !i).onSession sid (·.authenticate)).far p = (s.nodes !i).far p :=
      Node.far_onSession fun _ => Iff.rfl
    rw [mirror_moved_not, hfar, map_nil, append_nil]
    exact .stutter _

/-! ### Messages -/

section Messages

variable (l : List (Bool × Msg)) (near : Near) (far : Far)

/-- An answer reaches the subscribing node. -/
theorem event_subscribeAck (n : Node) (sid : SessionId) (q : Bytes) (a : Except Code TrackParams) :
    Event ⟨n.near p, far, transit i p (l ++ [(i, .subscribeAck sid q a)])⟩
      ⟨(n.resolveSubAck sid q a).near p, far, transit i p l⟩ := by
  have hnear := Node.resolveSubAck_near (n := n) (p := p) sid q a
  by_cases hq : q = p
  · subst hq
    cases a with
    | ok params =>
      rw [transit_grant]
      rcases hnear with hnear | ⟨-, hnear⟩
      · rw [hnear]
        exact .granted _ _ _ 0 (Nat.zero_le 1)
      · rw [hnear]
        exact .granted _ _ _ 1 le_rfl
    | error reason =>
      rw [transit_refusal]
      rcases hnear with hnear | ⟨-, hnear⟩
      · rw [hnear]
        exact .refused _ _ _ 0 (Nat.zero_le 1)
      · rw [hnear]
        exact .refused _ _ _ 1 le_rfl
  · have hno : ¬ Concerns i p (i, .subscribeAck sid q a) := fun h => hq h.2
    rw [transit_of_not _ hno]
    rcases hnear with hnear | ⟨hqp, -⟩
    · rw [hnear]
      exact .stutter _
    · exact absurd hqp hq

/-- The end of a publication reaches the subscribing node; its track is in the session that the
message is about. -/
theorem event_trackEnded (n : Node) (sid : SessionId) (q : Bytes)
    (hgone : n.byNode = some sid ∨ (n.near q).track = false) :
    Event ⟨n.near p, far, transit i p (l ++ [(i, .trackEnded sid q)])⟩
      ⟨(n.onSession sid (·.removeTrack q)).near p, far, transit i p l⟩ := by
  by_cases hq : q = p
  · subst hq
    rw [transit_trackEnded, Node.near_removeTrack hgone]
    exact .closed _ _ _
  · have hno : ¬ Concerns i p (i, .trackEnded sid q) := fun h => hq h.2
    have hnear : (n.onSession sid (·.removeTrack q)).near p = n.near p := by
      refine Node.near_onSession fun m => ?_
      rw [MediaSession.removeTrack, GoMap.lookup_erase_eq, if_neg (Ne.symm hq)]
    rw [transit_of_not _ hno, hnear]
    exact .stutter _

/-- A request reaches the publishing node. -/
theorem event_onSubscribe {o : Option SessionId} (hn : n.Tidy o) (sid : SessionId)
    (roomID : String) (q : Bytes) :
    Event ⟨near, n.far p, transit i p (l ++ [(!i, .subscribe sid roomID q)])⟩
      ⟨near, (n.onSubscribe sid roomID q).1.far p,
        transit i p (l ++ (n.onSubscribe sid roomID q).2.map fun m => (i, m))⟩ := by
  have hfar := Node.onSubscribe_far (p := p) hn sid roomID q
  by_cases hq : q = p
  · subst hq
    rw [transit_subscribe]
    rcases hfar with ⟨reason, heq⟩ | ⟨params, hsent, ⟨hne, -⟩ | ⟨-, hlive, hfar⟩⟩
    · rw [heq, map_singleton, transit_refusal]
      exact .refuse _ _ _
    · exact absurd rfl hne
    · rw [hsent, hfar, map_singleton, transit_grant]
      exact .grant _ _ _ hlive
  · have hno : ¬ Concerns i p (!i, .subscribe sid roomID q) := fun h => hq h.2
    have hno' : ∀ a, ¬ Concerns i p (i, .subscribeAck sid q a) := fun a h => hq h.2
    rw [transit_of_not _ hno]
    rcases hfar with ⟨reason, heq⟩ | ⟨params, hsent, ⟨-, hfar⟩ | ⟨hqp, -⟩⟩
    · rw [heq, map_singleton, transit_of_not _ (hno' _)]
      exact .stutter _
    · rw [hsent, hfar, map_singleton, transit_of_not _ (hno' _)]
      exact .stutter _
    · exact absurd hqp hq

/-- An unsubscription reaches the publishing node; its forwarder is in the session that the
message is about. -/
theorem event_onUnsubscribe (n : Node) (sid : SessionId) (q : Bytes)
    (hgone : n.byNode = some sid ∨ (n.far q).forwarder = false) :
    Event ⟨near, n.far p, transit i p (l ++ [(!i, .unsubscribe sid q)])⟩
      ⟨near, (n.onSession sid (·.removeForwarder q)).far p, transit i p l⟩ := by
  by_cases hq : q = p
  · subst hq
    rw [transit_unsubscribe, Node.far_removeForwarder hgone]
    exact .detach _ _ _
  · have hno : ¬ Concerns i p (!i, .unsubscribe sid q) := fun h => hq h.2
    have hfar : (n.onSession sid (·.removeForwarder q)).far p = n.far p := by
      refine Node.far_onSession fun m => ?_
      rw [MediaSession.removeForwarder, Finset.mem_erase, and_iff_right (Ne.symm hq)]
    rw [transit_of_not _ hno, hfar]
    exact .stutter _

end Messages

/-- A message reaches the subscribing node. -/
theorem event_deliver_near (hs : Single s) {l : List (Bool × Msg)}
    (hmem : (i, m) ∈ s.flight) (hflight : transit i p s.flight = transit i p (l ++ [(i, m)]))
    (hopen : ∀ sid roomID, m = .sessionOpen sid roomID → (s.nodes i).byNode = none) :
    Event (s.mirror i p)
      ((System.moved { s with flight := l } i ((s.nodes i).handleControl m)).mirror i p) := by
  have hself := Bool.not_ne_self i
  rw [mirror_moved_self, System.mirror, hflight]
  dsimp only
  cases m with
  | sessionOpen sid roomID =>
    have hnear := Node.onSessionOpen_near (p := p) (hopen sid roomID rfl) sid roomID
    simp only [Node.handleControl]
    rw [hnear, Node.onSessionOpen_sent, map_singleton, transit_of_not _ id, transit_of_not _ id]
    exact .stutter _
  | sessionAccept sid =>
    simp only [Node.handleControl, map_nil, append_nil]
    rw [transit_of_not _ id]
    exact .stutter _
  | subscribe sid roomID q =>
    have hsent : ∃ a, ((s.nodes i).onSubscribe sid roomID q).2 = [.subscribeAck sid q a] := by
      rcases Node.onSubscribe_far (p := q) (hs.tidy i) sid roomID q with
        ⟨reason, heq⟩ | ⟨params, heq, -⟩
      · exact ⟨_, by rw [heq]⟩
      · exact ⟨_, heq⟩
    obtain ⟨a, ha⟩ := hsent
    have hno : ¬ Concerns i p (i, .subscribe sid roomID q) := fun h => hself h.1.symm
    have hno' : ¬ Concerns i p (!i, .subscribeAck sid q a) := fun h => hself h.1
    simp only [Node.handleControl]
    rw [Node.onSubscribe_near, ha, map_singleton, transit_of_not _ hno, transit_of_not _ hno']
    exact .stutter _
  | subscribeAck sid q a =>
    simp only [Node.handleControl, map_nil, append_nil]
    exact event_subscribeAck _ _ _ _ _ _
  | unsubscribe sid q =>
    have hno : ¬ Concerns i p (i, .unsubscribe sid q) := fun h => hself h.1.symm
    have hnear : ((s.nodes i).onSession sid (·.removeForwarder q)).near p = (s.nodes i).near p :=
      Node.near_onSession fun _ => rfl
    simp only [Node.handleControl, map_nil, append_nil]
    rw [transit_of_not _ hno, hnear]
    exact .stutter _
  | trackEnded sid q =>
    simp only [Node.handleControl, map_nil, append_nil]
    refine event_trackEnded _ _ _ _ _ ?_
    cases htrack : ((s.nodes i).near q).track with
    | false => exact .inr rfl
    | true =>
      obtain ⟨sid', hnode, hother⟩ := hs.of_track htrack
      have habout : (s.nodes !i).byNode = some sid := hs.about _ hmem
      rw [habout] at hother
      exact .inl (hnode.trans hother.symm)

/-- A message reaches the publishing node. -/
theorem event_deliver_far (hs : Single s) {l : List (Bool × Msg)}
    (hmem : (!i, m) ∈ s.flight) (hflight : transit i p s.flight = transit i p (l ++ [(!i, m)]))
    (hopen : ∀ sid roomID, m = .sessionOpen sid roomID → (s.nodes !i).byNode = none) :
    Event (s.mirror i p)
      ((System.moved { s with flight := l } (!i) ((s.nodes !i).handleControl m)).mirror i p) := by
  have hself := Bool.not_ne_self i
  rw [mirror_moved_not, System.mirror, hflight]
  dsimp only
  cases m with
  | sessionOpen sid roomID =>
    have hfar := Node.onSessionOpen_far (p := p) (hopen sid roomID rfl) sid roomID
    simp only [Node.handleControl]
    rw [hfar, Node.onSessionOpen_sent, map_singleton, transit_of_not _ id, transit_of_not _ id]
    exact .stutter _
  | sessionAccept sid =>
    simp only [Node.handleControl, map_nil, append_nil]
    rw [transit_of_not _ id]
    exact .stutter _
  | subscribe sid roomID q => exact event_onSubscribe _ _ (hs.tidy !i) sid roomID q
  | subscribeAck sid q a =>
    have hno : ¬ Concerns i p (!i, .subscribeAck sid q a) := fun h => hself h.1
    simp only [Node.handleControl, map_nil, append_nil]
    rw [transit_of_not _ hno, Node.resolveSubAck_far]
    exact .stutter _
  | unsubscribe sid q =>
    simp only [Node.handleControl, map_nil, append_nil]
    refine event_onUnsubscribe _ _ _ _ _ ?_
    cases hfwd : ((s.nodes !i).far q).forwarder with
    | false => exact .inr rfl
    | true =>
      obtain ⟨sid', hnode, hother⟩ := hs.of_forwarder hfwd
      have habout : (s.nodes !!i).byNode = some sid := hs.about _ hmem
      rw [habout] at hother
      exact .inl (hnode.trans hother.symm)
  | trackEnded sid q =>
    have hno : ¬ Concerns i p (!i, .trackEnded sid q) := fun h => hself h.1
    have hfar : ((s.nodes !i).onSession sid (·.removeTrack q)).far p = (s.nodes !i).far p :=
      Node.far_onSession fun _ => Iff.rfl
    simp only [Node.handleControl, map_nil, append_nil]
    rw [transit_of_not _ hno, hfar]
    exact .stutter _

end Events

/-- **A step of the two nodes is an event of every mirror.** -/
theorem step_event {s' : System} {m : Move} (hs : Single s) (hopen : Uncrossed s m)
    (hapart : Apart s m) (hstep : step s m = some s') (i : Bool) (p : Bytes) :
    Event (s.mirror i p) (s'.mirror i p) := by
  cases m with
  | publish j roomID q params =>
    simp only [step] at hstep
    split_ifs at hstep with hfresh
    cases hstep
    exact event_publish hfresh.2
  | unpublish j q =>
    cases hstep
    exact event_unpublish
  | subscribe j roomID q fresh other =>
    simp only [step] at hstep
    split_ifs at hstep
    cases hstep
    exact event_subscribe hapart
  | proceed j k =>
    obtain ⟨out, hout, rfl⟩ := map_eq_some_iff.1 hstep
    exact event_proceed hout
  | finish j k herr =>
    obtain ⟨n, hn, rfl⟩ := map_eq_some_iff.1 hstep
    exact event_finish hn
  | unsubscribe j q =>
    cases hstep
    exact event_unsubscribe hs hapart
  | publicationEnded j q =>
    simp only [step] at hstep
    split_ifs at hstep with hgone
    cases hstep
    exact event_publicationEnded hgone hapart
  | authenticate j sid =>
    simp only [step] at hstep
    split_ifs at hstep
    cases hstep
    exact event_authenticate
  | deliver k =>
    simp only [step] at hstep
    split at hstep
    next => cases hstep
    next j m hk =>
      cases hstep
      obtain ⟨l₁, l₂, hl, herase, -⟩ := exists_split hk
      have hmem := mem_of_getElem? hk
      have hflight : transit i p s.flight = transit i p (s.flight.eraseIdx k ++ [(j, m)]) := by
        rw [herase, ← transit_middle, hl]
      have hnone : ∀ sid roomID, m = .sessionOpen sid roomID → (s.nodes j).byNode = none := by
        rintro sid roomID rfl
        simpa [Uncrossed, hk] using hopen
      by_cases hj : j = i
      · subst hj
        exact event_deliver_near hs hmem hflight hnone
      · obtain rfl : j = !i := Bool.eq_not.2 hj
        exact event_deliver_far hs hmem hflight hnone

/-! ## Runs -/

theorem mirror_init (i : Bool) (p : Bytes) : (System.mirror {} i p).Inv := by
  have hempty : System.mirror {} i p =
      ⟨⟨false, false, 0, 0, 0, 0⟩, ⟨false, false, false⟩, ⟨0, 0, 0, 0, 0⟩⟩ := by
    simp [System.mirror, Node.near, Node.far, Node.current, transit]
  rw [hempty]
  constructor <;> simp

/-- What a run with no crossing and no overlap keeps. -/
theorem run_mirror {as : List Move} (h : run step {} as = some s)
    (hcond : Along step (fun s m => Uncrossed s m ∧ Apart s m) {} as) :
    Single s ∧ ∀ i p, (s.mirror i p).Inv := by
  refine run_invariant (I := fun s => Single s ∧ ∀ i p, (s.mirror i p).Inv)
    (fun s m s' hI hG hstep => ?_) ⟨single_init, mirror_init⟩ hcond h
  refine ⟨step_single hI.1 hG.1 hstep, fun i p => ?_⟩
  exact (step_event hI.1 hG.1 hG.2 hstep i p).keeps (hI.2 i p)

/-- **Unsubscribing stops the mirror**, in every run in which no node handles a
`media.session.open` while it has a session, and `SubscribeRemote` overlaps neither with
`UnsubscribeRemote` nor with `PublicationEnded` of the same publication: if the last operation of
the node `i` was `UnsubscribeRemote`, or the other node has completed `PublicationEnded`, and
nothing is on its way, then no session of `i` has a track and none of the other node a forwarder. -/
theorem mirror_stopped {as : List Move} {s : System} (h : run step {} as = some s)
    (hcond : Along step (fun s m => Uncrossed s m ∧ Apart s m) {} as) {i : Bool} {pub : Bytes}
    (hlast : (s.nodes i).last pub = some .unsubscribed ∨ pub ∈ (s.nodes !i).ended)
    (hcalls : ∀ c ∈ (s.nodes i).calls, c.pub ≠ pub) (hquiet : s.flight = []) :
    (∀ sid m, (s.nodes i).bySID.lookup sid = some m → m.tracks.lookup pub = none) ∧
      ∀ sid m, (s.nodes !i).bySID.lookup sid = some m → pub ∉ m.forwarders := by
  obtain ⟨hsingle, hinv⟩ := run_mirror h hcond
  have hstopped : ((s.nodes i).near pub).track = false ∧
      ((s.nodes !i).far pub).forwarder = false := by
    have hm := hinv i pub
    have hnone : s.mirror i pub =
        ⟨(s.nodes i).near pub, (s.nodes !i).far pub, transit i pub []⟩ := by
      rw [System.mirror, hquiet]
    rw [hnone] at hm
    have hidle := Node.near_calls hcalls
    rcases hlast with hun | hend
    · have hun' : ((s.nodes i).near pub).unsubscribed = true := by simp [Node.near, hun]
      obtain ⟨htrack, hfwd⟩ := hm.stopped hun'
      refine ⟨htrack, Bool.eq_false_iff.2 fun hf => ?_⟩
      rcases hfwd hf with hlt | hlt
      · exact absurd hlt (lt_irrefl 0)
      · dsimp only at hlt
        omega
    · have hend' : ((s.nodes !i).far pub).ended = true := by simp [Node.far, hend]
      obtain ⟨-, hfwd, -, htrack⟩ := hm.finished hend'
      refine ⟨Bool.eq_false_iff.2 fun ht => ?_, hfwd⟩
      exact absurd (htrack ht) (lt_irrefl 0)
  refine ⟨fun sid m hm => ?_, fun sid m hm hp => ?_⟩
  · have hcur : (s.nodes i).current = some m := by
      rw [Node.current, (hsingle.tidy i).only sid m hm, bind_some, hm]
    simpa [Node.near, hcur] using hstopped.1
  · have hcur : (s.nodes !i).current = some m := by
      rw [Node.current, (hsingle.tidy !i).only sid m hm, bind_some, hm]
    simp [Node.far, hcur, hp] at hstopped

/-- The node `true` subscribes to a publication of the other node and unsubscribes again. -/
def mirrored : List Move :=
  [Move.publish false "r" [1] camera, Move.subscribe true "r" [1] sessionA .ready, Move.deliver 0,
    Move.deliver 0,
    Move.authenticate true sessionA,
    Move.proceed true 0,
    Move.deliver 0,
    Move.deliver 0,
    Move.finish true 0 none,
    Move.unsubscribe true [1],
    Move.deliver 0]

theorem mirror_stopped_alone : ∃ s ∈ run step {} mirrored,
    (∀ sid m, (s.nodes true).bySID.lookup sid = some m → m.tracks.lookup [1] = none) ∧
      ∀ sid m, (s.nodes false).bySID.lookup sid = some m → [1] ∉ m.forwarders := by
  have hcond : Along step (fun s m => Uncrossed s m ∧ Apart s m) {} mirrored := by decide +kernel
  have hrun : ∃ s ∈ run step {} mirrored, (s.nodes true).last [1] = some .unsubscribed ∧
      (∀ c ∈ (s.nodes true).calls, c.pub ≠ [1]) ∧ s.flight = [] := by decide +kernel
  obtain ⟨s, hs, hlast, hcalls, hquiet⟩ := hrun
  exact ⟨s, hs, mirror_stopped hs hcond (.inl hlast) hcalls hquiet⟩

/-- Both nodes subscribe to a publication of the other one, and their openings cross: each handles
the `media.session.open` of the other with a session of its own. Then the node `true` goes on with
the session it opened, and unsubscribes. -/
def crossed : List Move :=
  [Move.publish false "r" [1] camera, Move.publish true "r" [2] camera,
    Move.subscribe true "r" [1] sessionA .ready,
    Move.subscribe false "r" [2] sessionB .ready,
    Move.deliver 0,
    Move.deliver 0,
    Move.deliver 0,
    Move.deliver 0,
    Move.authenticate true sessionA,
    Move.proceed true 0,
    Move.deliver 0,
    Move.deliver 0,
    Move.finish true 0 none,
    Move.unsubscribe true [1],
    Move.deliver 0]

/-- The track and the forwarder are still there, in the session that the node no longer finds. -/
theorem mirror_survives : ∃ s ∈ run step {} crossed,
    (s.nodes true).last [1] = some .unsubscribed ∧ (∀ c ∈ (s.nodes true).calls, c.pub ≠ [1]) ∧
      s.flight = [] ∧
      ((s.nodes true).bySID.lookup sessionA).any (fun m => (m.tracks.lookup [1]).isSome) ∧
      ((s.nodes false).bySID.lookup sessionA).any (fun m => [1] ∈ m.forwarders) := by
  decide +kernel

end PulseRTC.Media.Bridge
