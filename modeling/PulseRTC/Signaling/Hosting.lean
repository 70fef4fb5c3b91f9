import PulseRTC.Foundations.Directory
import PulseRTC.Foundations.Runs
import PulseRTC.Cluster.RoomLocator

/-!
# Hosting a room

The clients of one cluster node, joining and leaving rooms. A join claims the room, looks its
`room.Room` up or creates it, adds the client to it, looks the SFU's room up or creates it, and
adds the client there; a leave undoes these in turn and gives the claim back once the room is gone.
Each of these takes the lock of its own map, so the calls of different clients interleave.

* `joined_hosted`: in the runs where no call takes away what another client has just looked up or
  claimed (`Spared`), a client that has joined is a member of its room, and the node owns that room.
-/

namespace PulseRTC.Signaling.Hosting

open Foundations Cluster Option

/-- The room manager, the SFU's rooms and the owners. -/
structure Stores where
  locator : InMemoryRoomLocator := {}
  rooms : Directory RoomId ParticipantId := .empty
  sfu : Directory RoomId ParticipantId := .empty

/-- The place of a client in `handleJoin` and `disconnect`. A place keeps the rooms the client has
looked up: `r` of the manager, `sr` of the SFU. -/
inductive Phase
  /-- In no room; next is `ClaimRoom`. -/
  | idle
  /-- Next is `rooms.GetOrCreate`. -/
  | claimed (room : RoomId)
  /-- Next is `r.Add`. -/
  | entering (room : RoomId) (r : ℕ)
  /-- Next is `sfu.Room`. -/
  | added (room : RoomId) (r : ℕ)
  /-- Next is `JoinWithPermissions`. -/
  | attaching (room : RoomId) (r sr : ℕ)
  /-- The join has completed; next is `sfu.GetRoom` of `disconnect`. -/
  | joined (room : RoomId)
  /-- The SFU refused the client; next is `r.Remove`. -/
  | refused (room : RoomId) (r : ℕ)
  /-- Next is `r.Size`. -/
  | undone (room : RoomId) (r : ℕ)
  /-- Next is `ReleaseRoom`, in `handleJoin`. -/
  | emptied (room : RoomId)
  /-- Next is the removal from the SFU's room. -/
  | leaving (room : RoomId) (sr : ℕ)
  /-- Next is `removeRoomIfEmpty`. -/
  | left (room : RoomId)
  /-- Next is `rooms.RemoveParticipant`. -/
  | detached (room : RoomId)
  /-- Next is `rooms.Get`. -/
  | removed (room : RoomId)
  /-- Next is `ReleaseRoom`, in `disconnect`. -/
  | vacated (room : RoomId)
  | gone
  deriving DecidableEq

/-- What a join meets: whether the client is authorized, the cluster state healthy, the node
accepting sessions, and whether the router leaves a new room to this node. -/
structure Env where
  authorized : Bool := true
  healthy : Bool := true
  accepts : Bool := true
  routed : Bool := true
  deriving DecidableEq

/-- `Cluster.ClaimRoom` of the node `node`; the answer is whether the join may proceed. -/
def claimRoom (node : NodeId) (l : InMemoryRoomLocator) (room : RoomId) (env : Env) :
    InMemoryRoomLocator × Bool :=
  if env.healthy = false then (l, false)
  else if env.accepts = false then (l, decide (l.getOwner room = some node))
  else
    match l.getOwner room with
    | some owner => (l, decide (owner = node))
    | none =>
      if env.routed = false then (l, false)
      else ((l.claimOwner room node).1, decide ((l.claimOwner room node).2.1 = node))

/-- `handleJoin` up to the claim. -/
def handleJoin (node : NodeId) (st : Stores) (room : RoomId) (env : Env) : Stores × Phase :=
  if room = "" then (st, .idle)
  else if env.authorized = false then (st, .idle)
  else
    match claimRoom node st.locator room env with
    | (l, true) => ({ st with locator := l }, .claimed room)
    | (l, false) => ({ st with locator := l }, .idle)

/-- The next call of the client `id`. `attach` is whether the SFU can create its connection. -/
def call (node : NodeId) (st : Stores) (id : ParticipantId) (attach : Bool) :
    Phase → Option (Stores × Phase)
  | .idle | .gone => none
  | .claimed room =>
    some ({ st with rooms := (st.rooms.getOrCreate room).1 },
      .entering room (st.rooms.getOrCreate room).2)
  | .entering room r => some ({ st with rooms := st.rooms.add r id }, .added room r)
  | .added room r =>
    some ({ st with sfu := (st.sfu.getOrCreate room).1 },
      .attaching room r (st.sfu.getOrCreate room).2)
  | .attaching room r sr =>
    if attach then some ({ st with sfu := st.sfu.add sr id }, .joined room)
    else some (st, .refused room r)
  | .refused room r => some ({ st with rooms := st.rooms.remove r id }, .undone room r)
  | .undone room r => some (st, if st.rooms.members r = ∅ then .emptied room else .idle)
  | .emptied room => some ({ st with locator := (st.locator.releaseOwner room node).1 }, .idle)
  | .joined room =>
    match st.sfu.get room with
    | none => some (st, .detached room)
    | some sr => some (st, .leaving room sr)
  | .leaving room sr =>
    if id ∈ st.sfu.members sr then some ({ st with sfu := st.sfu.remove sr id }, .left room)
    else some (st, .detached room)
  | .left room => some ({ st with sfu := st.sfu.dropIfEmpty room }, .detached room)
  | .detached room => some ({ st with rooms := st.rooms.removeFrom room id }, .removed room)
  | .removed room =>
    match st.rooms.get room with
    | some _ => some (st, .gone)
    | none => some (st, .vacated room)
  | .vacated room => some ({ st with locator := (st.locator.releaseOwner room node).1 }, .gone)

/-- The node and its clients. -/
structure State where
  stores : Stores := {}
  clients : ParticipantId → Phase := fun _ => .idle

/-- A client starts a join, or makes its next call. -/
inductive Act
  | join (id : ParticipantId) (room : RoomId) (env : Env := {})
  | step (id : ParticipantId) (attach : Bool := true)
  deriving DecidableEq

/-- The outcome of a call of the client `id`. -/
def State.set (s : State) (id : ParticipantId) (out : Stores × Phase) : State :=
  ⟨out.1, Function.update s.clients id out.2⟩

def step (node : NodeId) (s : State) : Act → Option State
  | .join id room env =>
    if s.clients id = .idle then some (s.set id (handleJoin node s.stores room env)) else none
  | .step id attach => (call node s.stores id attach (s.clients id)).map (s.set id)

/-! ## The condition -/

@[simp] def Phase.room : Phase → Option RoomId
  | .claimed room | .entering room _ | .added room _ | .attaching room _ _ | .joined room =>
    some room
  | _ => none

/-- The next call of the client `id`, at the first place, leaves alone what a client at the second
place relies on: `removeRoomIfEmpty` the room a client is attaching to, `RemoveParticipant` the
room a client is about to be added to, `ReleaseRoom` the room of any client. -/
def Spares (st : Stores) (id : ParticipantId) : Phase → Phase → Prop
  | .left room, .attaching room' _ sr => room' = room → (st.sfu.members sr).Nonempty
  | .detached room, .entering room' r =>
    room' = room → ∃ member ∈ st.rooms.members r, member ≠ id
  | .emptied room, other | .vacated room, other => other.room ≠ some room
  | _, _ => True

/-- The condition on the steps. -/
def Spared (s : State) : Act → Prop
  | .join _ _ _ => True
  | .step id _ => ∀ other, other ≠ id → Spares s.stores id (s.clients id) (s.clients other)

/-! ## The invariant -/

/-- The room a client is a member of, from `r.Add` to the end of the join. -/
@[simp] def Phase.member : Phase → Option RoomId
  | .added room _ | .attaching room _ _ | .joined room => some room
  | _ => none

/-- What the client `id` relies on at a given place. -/
structure Holds (node : NodeId) (st : Stores) (id : ParticipantId) (p : Phase) : Prop where
  owner : ∀ room, p.room = some room → st.locator.getOwner room = some node
  entering : ∀ room r, p = .entering room r → st.rooms.get room = some r
  member : ∀ room, p.member = some room → st.rooms.Hosts room id
  attaching : ∀ room r sr, p = .attaching room r sr → st.sfu.get room = some sr
  attached : ∀ room, p = .joined room → st.sfu.Hosts room id

/-- Every client has what it relies on. -/
def Inv (node : NodeId) (s : State) : Prop := ∀ id, Holds node s.stores id (s.clients id)

variable {env : Env} {s : State} {a : Act}

section Locator

variable {l : InMemoryRoomLocator} {room room' : RoomId} {node : NodeId}

/-- `ClaimRoom` changes nothing, and then succeeds only in a room of the node, or claims a room
that has no owner. -/
theorem claimRoom_cases (node : NodeId) (l : InMemoryRoomLocator) (room : RoomId) (env : Env) :
    ((claimRoom node l room env).1 = l ∧
      ((claimRoom node l room env).2 = true → l.getOwner room = some node)) ∨
    (l.getOwner room = none ∧
      (claimRoom node l room env).1 = { l with owners := l.owners.insert room node }) := by
  by_cases hh : env.healthy = false
  · exact .inl (by simp [claimRoom, hh])
  by_cases ha : env.accepts = false
  · exact .inl (by simp [claimRoom, hh, ha])
  cases ho : l.getOwner room with
  | some owner => exact .inl (by simp [claimRoom, hh, ha, ho])
  | none =>
    by_cases hr : env.routed = false
    · exact .inl (by simp [claimRoom, hh, ha, ho, hr])
    · have hl : l.owners.lookup room = none := ho
      exact .inr (by simp [claimRoom, hh, ha, ho, hr, InMemoryRoomLocator.claimOwner, hl])

theorem claimRoom_owner (h : (claimRoom node l room env).2 = true) :
    (claimRoom node l room env).1.getOwner room = some node := by
  rcases claimRoom_cases node l room env with ⟨hl, hown⟩ | ⟨-, hl⟩ <;> rw [hl]
  · exact hown h
  · simp [InMemoryRoomLocator.getOwner]

theorem claimRoom_keeps (h : l.getOwner room' = some node) :
    (claimRoom node l room env).1.getOwner room' = some node := by
  rcases claimRoom_cases node l room env with ⟨hl, -⟩ | ⟨hnone, hl⟩ <;> rw [hl]
  · exact h
  · have hne : room' ≠ room := by
      rintro rfl
      simp [hnone] at h
    simpa [InMemoryRoomLocator.getOwner, hne] using h

theorem releaseOwner_keeps (h : l.getOwner room' = some node) (hne : room' ≠ room) :
    (l.releaseOwner room node).1.getOwner room' = some node := by
  unfold InMemoryRoomLocator.releaseOwner
  split_ifs
  · simpa [InMemoryRoomLocator.removeOwner, InMemoryRoomLocator.getOwner, hne] using h
  · exact h

end Locator

section Calls

variable {node : NodeId} {st st' : Stores} {id other : ParticipantId} {attach : Bool}
  {p p' q : Phase}

/-- A client at a place that relies on nothing. -/
theorem Holds.of_none (hroom : p.room = none) : Holds node st id p := by
  cases p <;> simp at hroom <;> constructor <;> simp

/-- A join changes the locator only, and only by a claim. -/
theorem handleJoin_cases (node : NodeId) (st : Stores) (room : RoomId) (env : Env) :
    handleJoin node st room env = (st, .idle) ∨
    handleJoin node st room env =
      ({ st with locator := (claimRoom node st.locator room env).1 },
        if (claimRoom node st.locator room env).2 then .claimed room else .idle) := by
  by_cases hroom : room = ""
  · exact .inl (by simp [handleJoin, hroom])
  by_cases hauth : env.authorized = false
  · exact .inl (by simp [handleJoin, hroom, hauth])
  right
  rcases hclaim : claimRoom node st.locator room env with ⟨l, ok⟩
  cases ok <;> simp [handleJoin, hroom, hauth, hclaim]

/-- A join leaves what the other clients rely on alone. -/
theorem handleJoin_keeps {room : RoomId} (h : Holds node st other q) :
    Holds node (handleJoin node st room env).1 other q := by
  rcases handleJoin_cases node st room env with heq | heq <;> rw [heq]
  · exact h
  · exact ⟨fun room' hq => claimRoom_keeps (h.owner room' hq), h.entering, h.member, h.attaching,
      h.attached⟩

theorem handleJoin_holds {room : RoomId} :
    Holds node (handleJoin node st room env).1 id (handleJoin node st room env).2 := by
  rcases handleJoin_cases node st room env with heq | heq <;> rw [heq]
  · exact .of_none rfl
  · split_ifs with hclaim
    · have hown := claimRoom_owner hclaim
      constructor <;> simp [hown]
    · exact .of_none rfl

/-- A call leaves what the other clients rely on alone. -/
theorem call_keeps (hcall : call node st id attach p = some (st', p')) (hne : other ≠ id)
    (hspares : Spares st id p q) (h : Holds node st other q) : Holds node st' other q := by
  cases p <;> simp only [call, some.injEq, Prod.mk.injEq, reduceCtorEq] at hcall
  case claimed room =>
    obtain ⟨rfl, -⟩ := hcall
    exact ⟨h.owner, fun room' r hq => Directory.get_getOrCreate (h.entering room' r hq),
      fun room' hq => (h.member room' hq).getOrCreate, h.attaching, h.attached⟩
  case entering room r =>
    obtain ⟨rfl, -⟩ := hcall
    exact ⟨h.owner, h.entering, fun room' hq => (h.member room' hq).add, h.attaching, h.attached⟩
  case added room r =>
    obtain ⟨rfl, -⟩ := hcall
    exact ⟨h.owner, h.entering, h.member,
      fun room' r' sr hq => Directory.get_getOrCreate (h.attaching room' r' sr hq),
      fun room' hq => (h.attached room' hq).getOrCreate⟩
  case attaching room r sr =>
    split_ifs at hcall <;> obtain ⟨rfl, -⟩ := Prod.mk.inj (some.inj hcall)
    · exact ⟨h.owner, h.entering, h.member, h.attaching, fun room' hq => (h.attached room' hq).add⟩
    · exact h
  case refused room r =>
    obtain ⟨rfl, -⟩ := hcall
    exact ⟨h.owner, h.entering, fun room' hq => (h.member room' hq).remove hne, h.attaching,
      h.attached⟩
  case undone room r =>
    obtain ⟨rfl, -⟩ := hcall
    exact h
  case emptied room | vacated room =>
    obtain ⟨rfl, -⟩ := hcall
    refine ⟨fun room' hq => releaseOwner_keeps (h.owner room' hq) ?_, h.entering, h.member,
      h.attaching, h.attached⟩
    rintro rfl
    exact hspares hq
  case joined room =>
    split at hcall <;> obtain ⟨rfl, -⟩ := Prod.mk.inj (some.inj hcall) <;> exact h
  case leaving room sr =>
    split_ifs at hcall <;> obtain ⟨rfl, -⟩ := Prod.mk.inj (some.inj hcall)
    · exact ⟨h.owner, h.entering, h.member, h.attaching,
        fun room' hq => (h.attached room' hq).remove hne⟩
    · exact h
  case left room =>
    obtain ⟨rfl, -⟩ := hcall
    refine ⟨h.owner, h.entering, h.member, fun room' r sr hq => ?_,
      fun room' hq => (h.attached room' hq).dropIfEmpty⟩
    refine Directory.get_dropIfEmpty (h.attaching room' r sr hq) ?_
    subst hq
    exact hspares
  case detached room =>
    obtain ⟨rfl, -⟩ := hcall
    refine ⟨h.owner, fun room' r hq => ?_, fun room' hq => (h.member room' hq).removeFrom hne,
      h.attaching, h.attached⟩
    refine Directory.get_removeFrom (h.entering room' r hq) ?_
    subst hq
    exact hspares
  case removed room =>
    split at hcall <;> obtain ⟨rfl, -⟩ := Prod.mk.inj (some.inj hcall) <;> exact h

/-- A call gives its client what it relies on next. -/
theorem call_holds (hcall : call node st id attach p = some (st', p')) (h : Holds node st id p) :
    Holds node st' id p' := by
  cases p <;> simp only [call, some.injEq, Prod.mk.injEq, reduceCtorEq] at hcall
  case claimed room =>
    obtain ⟨rfl, rfl⟩ := hcall
    have hown := h.owner room rfl
    constructor <;> simp [hown, Directory.get_getOrCreate_self]
  case entering room r =>
    obtain ⟨rfl, rfl⟩ := hcall
    have hown := h.owner room rfl
    have hmem : (st.rooms.add r id).Hosts room id := Directory.hosts_add (h.entering room r rfl)
    constructor <;> simp [hown, hmem]
  case added room r =>
    obtain ⟨rfl, rfl⟩ := hcall
    have hown := h.owner room rfl
    have hmem := h.member room rfl
    constructor <;> simp [hown, hmem, Directory.get_getOrCreate_self]
  case attaching room r sr =>
    split_ifs at hcall <;> cases hcall
    · have hown := h.owner room rfl
      have hmem := h.member room rfl
      have hatt : (st.sfu.add sr id).Hosts room id :=
        Directory.hosts_add (h.attaching room r sr rfl)
      constructor <;> simp [hown, hmem, hatt]
    · exact .of_none rfl
  case undone room r =>
    obtain ⟨rfl, rfl⟩ := hcall
    split_ifs <;> exact .of_none rfl
  case joined | removed =>
    split at hcall <;> cases hcall <;>
      exact .of_none rfl
  case leaving =>
    split_ifs at hcall <;> cases hcall <;>
      exact .of_none rfl
  case refused | emptied | left | detached | vacated =>
    obtain ⟨rfl, rfl⟩ := hcall
    exact .of_none rfl

end Calls

/-! ## Runs -/

variable {node : NodeId}

theorem inv_init : Inv node {} := fun _ => .of_none rfl

theorem Inv.set {id : ParticipantId} {out : Stores × Phase} (hid : Holds node out.1 id out.2)
    (hother : ∀ other, other ≠ id → Holds node out.1 other (s.clients other)) :
    Inv node (s.set id out) := by
  intro other
  by_cases ho : other = id
  · subst ho
    simpa [State.set] using hid
  · simpa [State.set, ho] using hother other ho

theorem step_inv {s s' : State} (h : Inv node s) (hspared : Spared s a)
    (hstep : step node s a = some s') : Inv node s' := by
  cases a with
  | join id room env =>
    simp only [step] at hstep
    split_ifs at hstep
    cases hstep
    exact Inv.set handleJoin_holds fun other _ => handleJoin_keeps (h other)
  | step id attach =>
    obtain ⟨⟨st', p'⟩, hcall, rfl⟩ := map_eq_some_iff.1 hstep
    exact Inv.set (call_holds hcall (h id)) fun other ho =>
      call_keeps hcall ho (hspared other ho) (h other)

/-- **Joined clients are hosted in the runs where every call spares the others**: a client that has
joined and not begun to leave is a member of the room that the manager maps its room id to and of
the room that the SFU maps it to, and the node is the recorded owner of the room. -/
theorem joined_hosted (node : NodeId) (as : List Act) (s : State)
    (hrun : run (step node) {} as = some s) (hspared : Along (step node) Spared {} as)
    (id : ParticipantId) (room : RoomId) (hjoined : s.clients id = .joined room) :
    s.stores.rooms.Hosts room id ∧ s.stores.sfu.Hosts room id ∧
      s.stores.locator.getOwner room = some node := by
  have hinv : Inv node s :=
    run_invariant (fun _ _ _ h hg hst => step_inv h hg hst) inv_init hspared hrun
  have hid := hinv id
  rw [hjoined] at hid
  exact ⟨hid.member room rfl, hid.attached room rfl, hid.owner room rfl⟩

/-! ## Runs of finitely many clients -/

/-- The client an action is about. -/
def Act.client : Act → ParticipantId
  | .join id _ _ | .step id _ => id

theorem movesOne (node : NodeId) : MovesOne (step node) Act.client State.clients := by
  intro s a s' hstep other ho
  have hset : ∃ out, s' = s.set a.client out := by
    cases a with
    | join id room env =>
      simp only [step] at hstep
      split_ifs at hstep
      exact ⟨_, (some.inj hstep).symm⟩
    | step id attach =>
      obtain ⟨out, -, hout⟩ := map_eq_some_iff.1 hstep
      exact ⟨out, hout.symm⟩
  obtain ⟨out, rfl⟩ := hset
  simp [State.set, ho]

instance decidableSpares (st : Stores) (id : ParticipantId) (p q : Phase) :
    Decidable (Spares st id p q) := by
  unfold Spares
  split <;> infer_instance

/-- A client at a place that relies on nothing is spared by every call. -/
theorem spares_idle (st : Stores) (id : ParticipantId) (p : Phase) : Spares st id p .idle := by
  cases p <;> simp [Spares]

/-- `Spared`, looked up for the clients in `ids` only. -/
def sparedWithin (ids : Finset ParticipantId) (s : State) : Act → Bool
  | .join _ _ _ => true
  | .step id _ =>
    decide (∀ other ∈ ids, other ≠ id → Spares s.stores id (s.clients id) (s.clients other))

theorem spared_of_within {ids : Finset ParticipantId}
    (hs : Within State.clients .idle ids s) (h : sparedWithin ids s a = true) : Spared s a := by
  cases a with
  | join id room env => trivial
  | step id attach =>
    intro other hne
    by_cases ho : other ∈ ids
    · exact of_decide_eq_true h other ho hne
    · rw [hs other ho]
      exact spares_idle s.stores id (s.clients id)

/-- The calls of `handleJoin`. -/
def join (id : ParticipantId) (room : RoomId) : List Act :=
  Act.join id room {} :: List.replicate 4 (Act.step id true)

/-- The calls of `disconnect` by the last member of a room. -/
def disconnect (id : ParticipantId) : List Act := List.replicate 6 (Act.step id true)

/-- `a` joins and leaves, with `b` joining while `a` is still a member. -/
def sparedRun : List Act := join "a" "r" ++ join "b" "r" ++ List.replicate 5 (Act.step "a" true)

/-- `b` is hosted after `a` has left. -/
theorem joined_hosted_in_turn :
    ∃ s ∈ run (step "n") {} sparedRun,
      s.clients "a" = .gone ∧ s.stores.rooms.Hosts "r" "b" ∧ s.stores.sfu.Hosts "r" "b" ∧
      s.stores.locator.getOwner "r" = some "n" := by
  obtain ⟨s, hs, ha, hb⟩ :
      ∃ s ∈ run (step "n") {} sparedRun, s.clients "a" = .gone ∧ s.clients "b" = .joined "r" := by
    decide +kernel
  have hlooked : Along (step "n") (fun s a => a.client ∈ ({"a", "b"} : Finset ParticipantId) ∧
      sparedWithin {"a", "b"} s a = true) {} sparedRun := by
    decide +kernel
  have hspared : Along (step "n") Spared {} sparedRun :=
    (movesOne "n").along (fun _ _ hw h => spared_of_within hw h) (fun _ _ => rfl) hlooked
  exact ⟨s, hs, ha, joined_hosted "n" sparedRun s hs hspared "b" "r" hb⟩

/-! ## The last member leaves during a join -/

/-- `b` has claimed the room and looked it up when its last member leaves. -/
def unhostedRun : List Act :=
  join "a" "r" ++ [Act.join "b" "r" {}, Act.step "b" true] ++ disconnect "a" ++
    List.replicate 3 (Act.step "b" true)

/-- **A joined client without a room**: the join of `b` has completed, and the manager has no room
under its id and the locator no owner. -/
theorem joined_unhosted :
    ∃ s ∈ run (step "n") {} unhostedRun,
      s.clients "b" = .joined "r" ∧ s.stores.rooms.get "r" = none ∧
      ¬ s.stores.rooms.Hosts "r" "b" ∧ s.stores.locator.getOwner "r" = none := by
  decide +kernel

end PulseRTC.Signaling.Hosting
