import Mathlib.Data.Finset.Basic
import PulseRTC.Foundations.Runs
import PulseRTC.Cluster.Node

/-!
# Membership views

The clients of one room, on one node. A join captures the members, adds the client, enqueues
`room_joined` with the captured list to it and broadcasts `participant_joined` to the others; a
leave broadcasts `participant_left` and then removes the client. Each client folds the messages
enqueued to it into its view of the room.

The list is captured before the joiner becomes a target of broadcasts and enqueued after, so what
happens in between is not in it.

* `views_converge`: in the runs that keep broadcasts and captures apart (`Apart`), whenever no join
  or leave is in progress every connected client sees exactly the other members.
-/

namespace PulseRTC.Signaling.Membership

open Foundations Cluster Function

/-- The messages about membership. -/
inductive Message
  | roomJoined (participants : Finset ParticipantId)
  | participantJoined (id : ParticipantId)
  | participantLeft (id : ParticipantId)
  deriving DecidableEq

/-- The view of a client after one more message. -/
def see (view : Finset ParticipantId) : Message → Finset ParticipantId
  | .roomJoined participants => participants
  | .participantJoined id => insert id view
  | .participantLeft id => view.erase id

/-- The view of a client: the messages enqueued to it, in order. -/
def viewOf (inbox : List Message) : Finset ParticipantId := inbox.foldl see ∅

theorem viewOf_concat (inbox : List Message) (msg : Message) :
    viewOf (inbox ++ [msg]) = see (viewOf inbox) msg := by
  simp [viewOf]

/-- The place of a client in `handleJoin` and `disconnect`. -/
inductive Phase
  /-- Not joined yet; next is `ParticipantIDs`. -/
  | idle
  /-- Next is `Add`. -/
  | captured (existing : Finset ParticipantId)
  /-- Next is the enqueueing of `room_joined`. -/
  | added (existing : Finset ParticipantId)
  /-- Next is the broadcast of `participant_joined`. -/
  | welcomed
  /-- In the room; next is the broadcast of `participant_left`. -/
  | joined
  /-- Next is `RemoveParticipant`. -/
  | leaving
  | gone
  deriving DecidableEq

/-- A connection: its place, the messages enqueued to it, and whether `Send` has closed it because
its buffer was full. -/
structure Client where
  phase : Phase := .idle
  inbox : List Message := []
  closed : Bool := false
  deriving DecidableEq

/-- The room and the clients. -/
structure State where
  participants : Finset ParticipantId := ∅
  clients : ParticipantId → Client := fun _ => {}

def Client.send (c : Client) (msg : Message) : Client :=
  if c.closed then c else { c with inbox := c.inbox ++ [msg] }

/-- The client `id` moves to another place. -/
def State.move (s : State) (id : ParticipantId) (phase : Phase) : State :=
  { s with clients := Function.update s.clients id { s.clients id with phase := phase } }

@[simp] def State.sendTo (s : State) (id : ParticipantId) (msg : Message) : State :=
  { s with clients := Function.update s.clients id ((s.clients id).send msg) }

/-- `Room.Broadcast`. -/
def State.broadcast (s : State) (msg : Message) (exceptID : ParticipantId) : State :=
  { s with clients := fun id =>
      if id ∈ s.participants ∧ id ≠ exceptID then (s.clients id).send msg else s.clients id }

/-- A client takes its next step, or its buffer runs full. -/
inductive Act
  | step (id : ParticipantId)
  | overflow (id : ParticipantId)
  deriving DecidableEq

def step (s : State) : Act → Option State
  | .step id =>
    match (s.clients id).phase with
    | .idle => some (s.move id (.captured s.participants))
    | .captured existing =>
      some ({ s with participants := insert id s.participants }.move id (.added existing))
    | .added existing =>
      some ((s.sendTo id (.roomJoined existing)).move id .welcomed)
    | .welcomed => some ((s.broadcast (.participantJoined id) id).move id .joined)
    | .joined => some ((s.broadcast (.participantLeft id) id).move id .leaving)
    | .leaving =>
      some ({ s with participants := s.participants.erase id }.move id .gone)
    | .gone => none
  | .overflow id =>
    some { s with clients := Function.update s.clients id { s.clients id with closed := true } }

/-- No join or leave is in progress. -/
def Quiescent (s : State) : Prop :=
  ∀ id, (s.clients id).phase = .idle ∨ (s.clients id).phase = .joined ∨
    (s.clients id).phase = .gone

/-- The list a joining client has captured and not been sent yet. -/
def Phase.pending : Phase → Option (Finset ParticipantId)
  | .captured existing | .added existing => some existing
  | _ => none

/-- The condition on the steps. `participant_joined` is broadcast when every list still to be sent
has the client in it, `participant_left` when none has, and no list is captured while a client
that has broadcast its leave is still a member. -/
def Apart (s : State) : Act → Prop
  | .step id =>
    match (s.clients id).phase with
    | .idle => ∀ other, (s.clients other).phase ≠ .leaving
    | .welcomed => ∀ other existing, (s.clients other).phase.pending = some existing →
        id ∈ existing
    | .joined => ∀ other existing, (s.clients other).phase.pending = some existing →
        id ∉ existing
    | _ => True
  | .overflow _ => True

/-! ## The invariant -/

/-- What a list or a view has to say about a client in a given place: it has a client that has
broadcast its join and not its leave, and does not have one that is not a member or has broadcast
its leave. -/
def Phase.agrees : Phase → Prop → Prop
  | .idle, p | .captured _, p | .leaving, p | .gone, p => ¬ p
  | .added _, _ | .welcomed, _ => True
  | .joined, p => p

/-- The client is a member of the room. -/
@[simp] def Phase.member : Phase → Prop
  | .added _ | .welcomed | .joined | .leaving => True
  | .idle | .captured _ | .gone => False

/-- The client has been sent `room_joined`. -/
@[simp] def Phase.informed : Phase → Prop
  | .welcomed | .joined | .leaving => True
  | _ => False

/-- A set of ids that agrees with the places of all clients other than `me`, and does not have
`me`. -/
def Accurate (s : State) (me : ParticipantId) (ids : Finset ParticipantId) : Prop :=
  me ∉ ids ∧ ∀ other, other ≠ me → (s.clients other).phase.agrees (other ∈ ids)

/-- The invariant of the runs that keep broadcasts and captures apart. -/
structure Inv (s : State) : Prop where
  member : ∀ id, id ∈ s.participants ↔ (s.clients id).phase.member
  pending : ∀ id existing, (s.clients id).phase.pending = some existing →
    Accurate s id existing
  view : ∀ id, (s.clients id).phase.informed → (s.clients id).closed = false →
    Accurate s id (viewOf (s.clients id).inbox)

theorem inv_init : Inv {} where
  member _ := by simp
  pending _ _ h := by simp [Phase.pending] at h
  view _ h := by simp at h

variable {s s' : State} {id : ParticipantId} {ids : Finset ParticipantId}

/-- A set stays accurate when one client moves to a place that the set agrees with. -/
theorem Accurate.of_move {me : ParticipantId} (h : Accurate s me ids)
    (hother : ∀ other, other ≠ id → (s'.clients other).phase = (s.clients other).phase)
    (hid : id ≠ me → (s'.clients id).phase.agrees (id ∈ ids)) : Accurate s' me ids := by
  refine ⟨h.1, ?_⟩
  intro other hne
  by_cases ho : other = id
  · subst ho
    exact hid hne
  · rw [hother other ho]
    exact h.2 other hne

@[simp] theorem move_self (s : State) (id : ParticipantId) (phase : Phase) :
    (s.move id phase).clients id = { s.clients id with phase := phase } := by
  simp [State.move]

theorem move_of_ne (s : State) {other : ParticipantId} (phase : Phase) (h : other ≠ id) :
    (s.move id phase).clients other = s.clients other := by
  simp [State.move, h]

@[simp] theorem move_participants (s : State) (id : ParticipantId) (phase : Phase) :
    (s.move id phase).participants = s.participants := rfl

@[simp] theorem send_phase (c : Client) (msg : Message) : (c.send msg).phase = c.phase := by
  unfold Client.send
  split <;> rfl

@[simp] theorem send_closed (c : Client) (msg : Message) : (c.send msg).closed = c.closed := by
  unfold Client.send
  split <;> simp_all

theorem viewOf_send {c : Client} (msg : Message) (h : c.closed = false) :
    viewOf (c.send msg).inbox = see (viewOf c.inbox) msg := by
  simp [Client.send, h, viewOf_concat]

@[simp] theorem broadcast_self (s : State) (msg : Message) (id : ParticipantId) :
    (s.broadcast msg id).clients id = s.clients id := by
  simp [State.broadcast]

theorem broadcast_phase (s : State) (msg : Message) (id other : ParticipantId) :
    ((s.broadcast msg id).clients other).phase = (s.clients other).phase := by
  simp only [State.broadcast]
  split <;> simp

theorem broadcast_closed (s : State) (msg : Message) (id other : ParticipantId) :
    ((s.broadcast msg id).clients other).closed = (s.clients other).closed := by
  simp only [State.broadcast]
  split <;> simp

theorem informed_member {p : Phase} (h : p.informed) : p.member := by
  cases p <;> trivial

/-! ## The steps keep the invariant -/

/-- What a step of the client `id` has to give: the other clients keep their places and lists, and
the lists and views of the others agree with the new place of `id`. -/
structure Moves (s s' : State) (id : ParticipantId) : Prop where
  phase : ∀ other, other ≠ id → (s'.clients other).phase = (s.clients other).phase
  parts : ∀ other, other ≠ id → (other ∈ s'.participants ↔ other ∈ s.participants)
  member : id ∈ s'.participants ↔ (s'.clients id).phase.member
  pending : ∀ other, other ≠ id → ∀ existing, (s.clients other).phase.pending = some existing →
    (s'.clients id).phase.agrees (id ∈ existing)
  view : ∀ other, other ≠ id → (s.clients other).phase.informed →
    (s'.clients other).closed = false → (s.clients other).closed = false ∧
      (∀ third, third ≠ id → (third ∈ viewOf (s'.clients other).inbox ↔
        third ∈ viewOf (s.clients other).inbox)) ∧
      (s'.clients id).phase.agrees (id ∈ viewOf (s'.clients other).inbox)
  own_pending : ∀ existing, (s'.clients id).phase.pending = some existing → Accurate s' id existing
  own_view : (s'.clients id).phase.informed → (s'.clients id).closed = false →
    Accurate s' id (viewOf (s'.clients id).inbox)

theorem Moves.inv (hm : Moves s s' id) (h : Inv s) :
    Inv s' := by
  constructor
  case member =>
    intro other
    by_cases ho : other = id
    · subst ho
      exact hm.member
    · rw [hm.phase other ho, hm.parts other ho]
      exact h.member other
  case pending =>
    intro other existing he
    by_cases ho : other = id
    · subst ho
      exact hm.own_pending existing he
    · rw [hm.phase other ho] at he
      exact (h.pending other existing he).of_move hm.phase
        fun _ => hm.pending other ho existing he
  case view =>
    intro other hinf hcl
    by_cases ho : other = id
    · subst ho
      exact hm.own_view hinf hcl
    · rw [hm.phase other ho] at hinf
      obtain ⟨hcl₀, hsame, hagree⟩ := hm.view other ho hinf hcl
      obtain ⟨hself, hothers⟩ := h.view other hinf hcl₀
      refine ⟨fun hmem => hself ((hsame other ho).1 hmem), ?_⟩
      intro third ht
      by_cases hthird : third = id
      · subst hthird
        exact hagree
      · rw [hm.phase third hthird, hsame third hthird]
        exact hothers third ht

/-- The accuracy of the moving client's own list or view does not depend on its place. -/
theorem Accurate.own (h : Accurate s id ids)
    (hother : ∀ other, other ≠ id → (s'.clients other).phase = (s.clients other).phase) :
    Accurate s' id ids :=
  h.of_move hother fun hne => absurd rfl hne

/-- A step that sends nothing to the other clients, to a place that agrees with no less. -/
theorem moves_of_quiet (h : Inv s)
    (hother : ∀ other, other ≠ id → s'.clients other = s.clients other)
    (hparts : ∀ other, other ≠ id → (other ∈ s'.participants ↔ other ∈ s.participants))
    (hmember : id ∈ s'.participants ↔ (s'.clients id).phase.member)
    (hagree : ∀ p, (s.clients id).phase.agrees p → (s'.clients id).phase.agrees p)
    (hpending : ∀ existing, (s'.clients id).phase.pending = some existing → Accurate s' id existing)
    (hview : (s'.clients id).phase.informed → (s'.clients id).closed = false →
      Accurate s' id (viewOf (s'.clients id).inbox)) :
    Moves s s' id where
  phase other ho := by rw [hother other ho]
  parts := hparts
  member := hmember
  pending other ho existing he := hagree _ ((h.pending other existing he).2 id ho.symm)
  view other ho hinf hcl := by
    rw [hother other ho] at hcl ⊢
    exact ⟨hcl, fun _ _ => Iff.rfl, hagree _ ((h.view other hinf hcl).2 id ho.symm)⟩
  own_pending := hpending
  own_view := hview

/-- A capture: the list is the members, none of whom has broadcast its leave. -/
theorem capture_moves (h : Inv s) (hp : (s.clients id).phase = .idle)
    (hapart : ∀ other, (s.clients other).phase ≠ .leaving) :
    Moves s (s.move id (.captured s.participants)) id := by
  have hself : id ∉ s.participants := fun hm => by simpa [hp] using (h.member id).1 hm
  have hagree : ∀ p, (s.clients id).phase.agrees p →
      ((s.move id (.captured s.participants)).clients id).phase.agrees p := by
    intro p h
    rw [hp] at h
    rw [move_self]
    exact h
  refine moves_of_quiet h (fun other ho => move_of_ne s _ ho) (fun _ _ => Iff.rfl)
    (by simp [hself]) hagree ?_ (by simp)
  intro existing he
  simp only [move_self, Phase.pending, Option.some.injEq] at he
  subst he
  refine ⟨hself, ?_⟩
  intro third ht
  rw [move_of_ne s _ ht]
  have hmem := h.member third
  have hlv := hapart third
  cases hph : (s.clients third).phase <;> simp_all [Phase.agrees, Phase.member]

variable {existing : Finset ParticipantId} {a : Act}

/-- `Add`: any list or view may or may not have the new member. -/
theorem add_moves (h : Inv s) (hp : (s.clients id).phase = .captured existing) :
    Moves s ({ s with participants := insert id s.participants }.move id (.added existing)) id := by
  refine moves_of_quiet h (fun other ho => move_of_ne _ _ ho) (fun other ho => by simp [ho])
    (by simp) (fun p _ => by rw [move_self]; trivial) ?_ (by simp)
  intro existing' he
  simp only [move_self, Phase.pending, Option.some.injEq] at he
  subst he
  exact (h.pending id existing (by rw [hp]; rfl)).own fun other ho => by rw [move_of_ne _ _ ho]

/-- `room_joined`: the list becomes the view. -/
theorem welcome_moves (h : Inv s) (hp : (s.clients id).phase = .added existing) :
    Moves s ((s.sendTo id (.roomJoined existing)).move id .welcomed) id := by
  have hother : ∀ other, other ≠ id →
      ((s.sendTo id (.roomJoined existing)).move id .welcomed).clients other = s.clients other :=
    fun other ho => by simp [move_of_ne _ _ ho, ho]
  have hmem := h.member id
  rw [hp] at hmem
  refine moves_of_quiet h hother (fun _ _ => Iff.rfl)
    (by simpa using hmem) (fun p _ => by rw [move_self]; trivial)
    (by simp [Phase.pending]) ?_
  intro _ hcl
  have hcl₀ : (s.clients id).closed = false := by simpa using hcl
  have hview : viewOf (((s.sendTo id (.roomJoined existing)).move id .welcomed).clients id).inbox =
      existing := by
    simp [viewOf_send _ hcl₀, see]
  rw [hview]
  exact (h.pending id existing (by rw [hp]; rfl)).own fun other ho => by rw [hother other ho]

/-- `RemoveParticipant`, after the leave has been broadcast. -/
theorem remove_moves (h : Inv s) (hp : (s.clients id).phase = .leaving) :
    Moves s ({ s with participants := s.participants.erase id }.move id .gone) id := by
  have hagree : ∀ p, (s.clients id).phase.agrees p → Phase.gone.agrees p := by
    intro p h
    rw [hp] at h
    exact h
  exact moves_of_quiet h (fun other ho => move_of_ne _ _ ho) (fun other ho => by simp [ho])
    (by simp) (fun p h => by rw [move_self]; exact hagree p h)
    (by simp [Phase.pending]) (by simp)

/-- A broadcast by an informed member, which the lists still to be sent agree with. -/
theorem broadcast_moves (msg : Message) (phase : Phase) (h : Inv s)
    (hinf : (s.clients id).phase.informed) (hmember : phase.member) (hnone : phase.pending = none)
    (hsee : ∀ view, (∀ third, third ≠ id → (third ∈ see view msg ↔ third ∈ view)) ∧
      phase.agrees (id ∈ see view msg))
    (hpending : ∀ other existing, (s.clients other).phase.pending = some existing →
      phase.agrees (id ∈ existing)) :
    Moves s ((s.broadcast msg id).move id phase) id := by
  have hphase : ∀ other, other ≠ id →
      (((s.broadcast msg id).move id phase).clients other).phase = (s.clients other).phase :=
    fun other ho => by rw [move_of_ne _ _ ho, broadcast_phase]
  constructor
  case phase => exact hphase
  case parts => exact fun _ _ => Iff.rfl
  case member =>
    rw [move_self]
    exact iff_of_true ((h.member id).2 (informed_member hinf)) hmember
  case pending =>
    intro other ho existing he
    rw [move_self]
    exact hpending other existing he
  case view =>
    intro other ho hinf' hcl
    rw [move_of_ne _ _ ho, broadcast_closed] at hcl
    have hmem : other ∈ s.participants := (h.member other).2 (informed_member hinf')
    have hinbox : viewOf (((s.broadcast msg id).move id phase).clients other).inbox =
        see (viewOf (s.clients other).inbox) msg := by
      rw [move_of_ne _ _ ho, State.broadcast]
      simp [hmem, ho, viewOf_send msg hcl]
    rw [hinbox, move_self]
    exact ⟨hcl, hsee _⟩
  case own_pending =>
    intro existing he
    simp [hnone] at he
  case own_view =>
    intro _ hcl
    rw [move_self, broadcast_self] at hcl ⊢
    exact (h.view id hinf hcl).own hphase

/-- `participant_joined`: every view gets the client, and every list still to be sent has it. -/
theorem announce_moves (h : Inv s) (hp : (s.clients id).phase = .welcomed)
    (hapart : ∀ other existing, (s.clients other).phase.pending = some existing → id ∈ existing) :
    Moves s ((s.broadcast (.participantJoined id) id).move id .joined) id := by
  refine broadcast_moves (.participantJoined id) .joined h ?_ trivial rfl ?_ hapart
  · rw [hp]
    trivial
  · intro view
    refine ⟨fun third ht => ?_, Finset.mem_insert_self id view⟩
    simp [see, ht]

/-- `participant_left`: every view loses the client, and no list still to be sent has it. -/
theorem leave_moves (h : Inv s) (hp : (s.clients id).phase = .joined)
    (hapart : ∀ other existing, (s.clients other).phase.pending = some existing → id ∉ existing) :
    Moves s ((s.broadcast (.participantLeft id) id).move id .leaving) id := by
  refine broadcast_moves (.participantLeft id) .leaving h ?_ trivial rfl ?_ hapart
  · rw [hp]
    trivial
  · intro view
    refine ⟨fun third ht => ?_, Finset.notMem_erase id view⟩
    simp [see, ht]

/-- A full buffer closes a connection and changes nobody's place. -/
theorem overflow_inv (h : Inv s) (id : ParticipantId) :
    Inv { s with
      clients := update s.clients id { s.clients id with closed := true } } := by
  have hphase : ∀ other, (update s.clients id { s.clients id with closed := true }
      other).phase = (s.clients other).phase := fun other => by
    by_cases ho : other = id
    · subst ho
      simp
    · simp [ho]
  constructor
  case member =>
    intro other
    rw [hphase]
    exact h.member other
  case pending =>
    intro other existing he
    rw [hphase] at he
    exact (h.pending other existing he).own fun third _ => hphase third
  case view =>
    intro other hinf hcl
    by_cases ho : other = id
    · subst ho
      simp at hcl
    · rw [hphase] at hinf
      simp only [update_of_ne ho] at hcl ⊢
      exact (h.view other hinf hcl).own fun third _ => hphase third

theorem step_inv (h : Inv s) (hapart : Apart s a) (hstep : step s a = some s') : Inv s' := by
  cases a with
  | step id =>
    unfold step at hstep
    unfold Apart at hapart
    cases hp : (s.clients id).phase <;>
      simp only [hp, Option.some.injEq, reduceCtorEq] at hstep hapart <;> subst hstep
    case idle => exact (capture_moves h hp hapart).inv h
    case captured => exact (add_moves h hp).inv h
    case added => exact (welcome_moves h hp).inv h
    case welcomed => exact (announce_moves h hp hapart).inv h
    case joined => exact (leave_moves h hp hapart).inv h
    case leaving => exact (remove_moves h hp).inv h
  | overflow id =>
    cases hstep
    exact overflow_inv h id

/-- In a quiescent state a view that agrees with all places is the other members. -/
theorem Accurate.eq_erase (h : Accurate s id ids) (hinv : Inv s) (hq : Quiescent s) :
    ids = s.participants.erase id := by
  ext other
  by_cases ho : other = id
  · subst ho
    simp [h.1]
  · have hagree := h.2 other ho
    have hmem := hinv.member other
    rw [Finset.mem_erase, and_iff_right ho, hmem]
    rcases hq other with hp | hp | hp <;> rw [hp] at hagree ⊢
    · exact iff_of_false hagree not_false
    · exact iff_of_true hagree trivial
    · exact iff_of_false hagree not_false

/-- **Views converge in the runs that keep broadcasts and captures apart**: whenever no join or
leave is in progress, a client that is connected sees exactly the other members. -/
theorem views_converge (as : List Act) (s : State) (hrun : run step {} as = some s)
    (hapart : Along step Apart {} as) (hq : Quiescent s) (id : ParticipantId)
    (hjoined : (s.clients id).phase = .joined) (hopen : (s.clients id).closed = false) :
    viewOf (s.clients id).inbox = s.participants.erase id := by
  have hinv : Inv s :=
    run_invariant (fun _ _ _ h hg hst => step_inv h hg hst) inv_init hapart hrun
  exact (hinv.view id (by rw [hjoined]; trivial) hopen).eq_erase hinv hq

/-! ## Runs of finitely many clients -/

/-- The client an action is about. -/
def Act.client : Act → ParticipantId
  | .step id | .overflow id => id

/-- The place of a client. -/
def State.phase (s : State) (id : ParticipantId) : Phase := (s.clients id).phase

theorem movesOne : MovesOne step Act.client State.phase := by
  intro s a s' h other ho
  unfold State.phase
  cases a with
  | step id =>
    change other ≠ id at ho
    unfold step at h
    cases hp : (s.clients id).phase <;>
      simp only [hp, Option.some.injEq, reduceCtorEq] at h <;> subst h <;>
      rw [move_of_ne _ _ ho]
    case added => simp [update_of_ne ho]
    case welcomed | joined => rw [broadcast_phase]
  | overflow id =>
    change other ≠ id at ho
    cases h
    simp only [update_of_ne ho]

/-- `Apart`, looked up for the clients in `ids` only. -/
def apartWithin (ids : Finset ParticipantId) (s : State) : Act → Bool
  | .step id =>
    match (s.clients id).phase with
    | .idle => decide (∀ other ∈ ids, (s.clients other).phase ≠ .leaving)
    | .welcomed =>
      decide (∀ other ∈ ids, ∀ existing ∈ (s.clients other).phase.pending, id ∈ existing)
    | .joined =>
      decide (∀ other ∈ ids, ∀ existing ∈ (s.clients other).phase.pending, id ∉ existing)
    | _ => true
  | .overflow _ => true

theorem apart_of_within (hs : Within State.phase .idle ids s)
    (h : apartWithin ids s a = true) : Apart s a := by
  -- a client outside `ids` is idle: it is not leaving and has captured no list
  have hout : ∀ other existing, (s.clients other).phase.pending = some existing → other ∈ ids := by
    intro other existing he
    by_contra ho
    have hidle : (s.clients other).phase = .idle := hs other ho
    simp [hidle, Phase.pending] at he
  cases a with
  | overflow id => trivial
  | step id =>
    unfold apartWithin at h
    unfold Apart
    cases hp : (s.clients id).phase <;> simp only [hp, decide_eq_true_eq] at h ⊢
    case idle =>
      intro other hleaving
      by_cases ho : other ∈ ids
      · exact h other ho hleaving
      · have hidle : (s.clients other).phase = .idle := hs other ho
        simp [hidle] at hleaving
    case welcomed | joined =>
      intro other existing he
      exact h other (hout other existing he) existing he

theorem quiescent_of_within {as : List Act} (has : ∀ a ∈ as, a.client ∈ ids)
    (hrun : run step {} as = some s)
    (h : ∀ id ∈ ids, (s.clients id).phase = .joined ∨ (s.clients id).phase = .gone) :
    Quiescent s := by
  have hwithin : Within State.phase .idle ids s :=
    movesOne.run_within (fun _ _ => rfl) has hrun
  intro id
  by_cases hid : id ∈ ids
  · exact .inr (h id hid)
  · exact .inl (hwithin id hid)

/-- The steps of `handleJoin`. -/
def join (id : ParticipantId) : List Act := List.replicate 4 (Act.step id)

/-- The steps of `disconnect`. -/
def leave (id : ParticipantId) : List Act := List.replicate 2 (Act.step id)

/-- Three clients join and the first leaves, one after the other. -/
def turnRun : List Act := join "a" ++ join "b" ++ join "c" ++ leave "a"

/-- The view of `b` is the other member that is left. -/
theorem views_converge_in_turn :
    ∃ s ∈ run step {} turnRun,
      viewOf (s.clients "b").inbox = s.participants.erase "b" ∧ s.participants = {"b", "c"} := by
  obtain ⟨s, hs, hparts, hb, hopen, hq⟩ :
      ∃ s ∈ run step {} turnRun,
        s.participants = {"b", "c"} ∧ (s.clients "b").phase = .joined ∧
        (s.clients "b").closed = false ∧
        ∀ id ∈ ({"a", "b", "c"} : Finset ParticipantId),
          (s.clients id).phase = .joined ∨ (s.clients id).phase = .gone := by
    decide +kernel
  have hlooked : Along step (fun s a => a.client ∈ ({"a", "b", "c"} : Finset ParticipantId) ∧
      apartWithin {"a", "b", "c"} s a = true) {} turnRun := by
    decide +kernel
  have hapart : Along step Apart {} turnRun :=
    movesOne.along (fun _ _ hw h => apart_of_within hw h) (fun _ _ => rfl) hlooked
  have hquiet : Quiescent s := quiescent_of_within (by decide) hs hq
  exact ⟨s, hs, views_converge turnRun s hs hapart hquiet "b" hb hopen, hparts⟩

/-! ## A leave between the capture and the welcome -/

/-- `a` captures the list while `b` is in the room; `b` leaves before `a` is in it. -/
def ghostRun : List Act :=
  join "b" ++ [Act.step "a"] ++ leave "b" ++ List.replicate 3 (Act.step "a")

/-- **A ghost member**: all joins and leaves are over, `a` is the only member, and its view still
has the client that left while it was joining. -/
theorem ghost_member :
    ∃ s ∈ run step {} ghostRun, Quiescent s ∧ (s.clients "a").phase = .joined ∧
      (s.clients "a").closed = false ∧ s.participants = {"a"} ∧
      viewOf (s.clients "a").inbox = {"b"} := by
  obtain ⟨s, hs, hq, hrest⟩ :
      ∃ s ∈ run step {} ghostRun,
        (∀ id ∈ ({"a", "b"} : Finset ParticipantId),
          (s.clients id).phase = .joined ∨ (s.clients id).phase = .gone) ∧
        (s.clients "a").phase = .joined ∧ (s.clients "a").closed = false ∧
        s.participants = {"a"} ∧ viewOf (s.clients "a").inbox = {"b"} := by
    decide +kernel
  exact ⟨s, hs, quiescent_of_within (by decide) hs hq, hrest⟩

end PulseRTC.Signaling.Membership
