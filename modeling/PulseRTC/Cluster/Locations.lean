import PulseRTC.Foundations.Runs
import PulseRTC.Cluster.NodeRegistry

/-!
# Where a participant is

A join records the location of its participant under a Redis key that expires `ParticipTTL` after
the write, and a leave deletes it. The heartbeat of the node renews the record of the node and
nothing else, so a location lives `ParticipTTL` from the join, whatever the node does.

* `step` is one node with its clients: the two halves of a join and of a leave, the heartbeat and
  the passage of time.
* `joined_located`: in the runs in which no registered client is left to outlive its key, a joined
  participant is found on this node and in its room.
-/

namespace PulseRTC.Cluster.Locations

open Foundations

structure ParticipantLocation where
  participantID : ParticipantId
  roomID : RoomId
  nodeID : NodeId
  deriving DecidableEq

/-- `redisParticipantLocator`: the locations under `participants:<id>`. -/
abbrev RedisParticipants := Expiring ParticipantId ParticipantLocation

namespace RedisParticipants

def register (participTTL now : Time) (p : RedisParticipants) (loc : ParticipantLocation) :
    RedisParticipants :=
  p.set loc.participantID loc (now + participTTL)

def remove (p : RedisParticipants) (id : ParticipantId) : RedisParticipants := p.del id

/-- `Lookup`: the key is gone after its lifetime. -/
def lookup (now : Time) (p : RedisParticipants) (id : ParticipantId) :
    Option ParticipantLocation :=
  p.get now id

end RedisParticipants

/-! ## The node and its clients -/

/-- The configuration of the node. `newRedisClusterStateWith` replaces a `ParticipTTL` that is not
positive by a minute. -/
structure Config where
  node : NodeInfo
  nodeTTL : Time
  participTTL : Time
  lives : 0 < participTTL
  /-- The number of `Peers`. -/
  peers : ℕ

/-- The place of a client, with the instant of its `RegisterParticipant`. -/
inductive Phase
  | idle
  /-- In `handleJoin`, after `RegisterParticipant`. -/
  | registered (room : RoomId) (since : Time)
  /-- `handleJoin` has completed. -/
  | joined (room : RoomId) (since : Time)
  /-- In `disconnect`, before `ForgetParticipant`. -/
  | leaving (room : RoomId)
  | gone
  deriving DecidableEq

/-- The room and the registration of a client between its `RegisterParticipant` and the start of
its `disconnect`. -/
@[simp] def Phase.present : Phase → Option (RoomId × Time)
  | .registered room since | .joined room since => some (room, since)
  | _ => none

/-- The clock, the Redis keys and the clients. -/
structure State where
  now : Time
  nodes : RedisNodes
  participants : RedisParticipants
  clients : ParticipantId → Phase

/-- A client or the node moves, or time passes. -/
inductive Act
  | register (id : ParticipantId) (room : RoomId)
  | complete (id : ParticipantId)
  | disconnect (id : ParticipantId)
  | forget (id : ParticipantId)
  /-- A tick of `heartbeatLoop`. -/
  | heartbeat
  | wait (d : ℕ)
  deriving DecidableEq

/-- The phase of a client replaced. -/
@[simp] def State.setClient (s : State) (id : ParticipantId) (p : Phase) : State :=
  { s with clients := Function.update s.clients id p }

/-- One step of the node. -/
def step (cfg : Config) (s : State) : Act → Option State
  | .register id room =>
    if s.clients id = .idle then
      let loc : ParticipantLocation := ⟨id, room, cfg.node.id⟩
      let written := RedisParticipants.register cfg.participTTL s.now s.participants loc
      some ({ s with participants := written }.setClient id (.registered room s.now))
    else none
  | .complete id =>
    match s.clients id with
    | .registered room since => some (s.setClient id (.joined room since))
    | _ => none
  | .disconnect id =>
    match s.clients id with
    | .joined room _ => some (s.setClient id (.leaving room))
    | _ => none
  | .forget id =>
    match s.clients id with
    | .leaving _ =>
      let rest := RedisParticipants.remove s.participants id
      some ({ s with participants := rest }.setClient id .gone)
    | _ => none
  | .heartbeat => some { s with nodes := s.nodes.refresh cfg.nodeTTL s.now cfg.node }
  | .wait d => some { s with now := s.now + d }

/-- `LocateParticipant`: the lookup of the node itself, then those of its peers. -/
def locate (cfg : Config) (s : State) (id : ParticipantId) : Option ParticipantLocation :=
  (List.replicate (cfg.peers + 1) (RedisParticipants.lookup s.now s.participants id)).findSome?
    fun loc => loc

theorem locate_eq (cfg : Config) (s : State) (id : ParticipantId) :
    locate cfg s id = RedisParticipants.lookup s.now s.participants id := by
  unfold locate
  cases h : RedisParticipants.lookup s.now s.participants id <;> simp [List.replicate_succ]

/-! ## Lifetimes -/

/-- No client that is present is left to outlive its key. -/
def Timely (cfg : Config) (s : State) : Act → Prop
  | .wait d => ∀ id room since, (s.clients id).present = some (room, since) →
      s.now + d ≤ since + cfg.participTTL
  | _ => True

/-- Every client that is present has its key, written when it registered and not yet expired. -/
def Kept (cfg : Config) (s : State) : Prop :=
  ∀ id room since, (s.clients id).present = some (room, since) →
    s.participants.find id = some ⟨id, ⟨id, room, cfg.node.id⟩, since + cfg.participTTL⟩ ∧
      s.now ≤ since + cfg.participTTL

variable {cfg : Config} {id : ParticipantId} {s : State}

theorem Kept.lookup (h : Kept cfg s)
    {room : RoomId} {since : Time} (hp : (s.clients id).present = some (room, since)) :
    RedisParticipants.lookup s.now s.participants id = some ⟨id, room, cfg.node.id⟩ := by
  obtain ⟨hfind, hlive⟩ := h id room since hp
  simp [RedisParticipants.lookup, Expiring.get, hfind, hlive]

/-- A move of one client that leaves the keys of the others alone. -/
theorem Kept.setClient (h : Kept cfg s) {p : Phase} {participants : RedisParticipants}
    (hothers : ∀ i, i ≠ id → participants.find i = s.participants.find i)
    (hself : ∀ room since, p.present = some (room, since) →
      participants.find id = some ⟨id, ⟨id, room, cfg.node.id⟩, since + cfg.participTTL⟩ ∧
        s.now ≤ since + cfg.participTTL) :
    Kept cfg ({ s with participants := participants }.setClient id p) := by
  intro i room since hp
  by_cases hi : i = id
  · subst hi
    exact hself room since (by simpa using hp)
  · have hp' : (s.clients i).present = some (room, since) := by
      simpa [Function.update_of_ne hi] using hp
    obtain ⟨hfind, hlive⟩ := h i room since hp'
    exact ⟨(hothers i hi).trans hfind, hlive⟩

theorem step_kept {s s' : State} {a : Act} (h : Kept cfg s) (ha : Timely cfg s a)
    (hstep : step cfg s a = some s') : Kept cfg s' := by
  cases a with
  | register id room =>
    simp only [step] at hstep
    split_ifs at hstep
    cases hstep
    refine h.setClient (fun i hi => ?_) fun room' since hp => ?_
    · rw [RedisParticipants.register, Expiring.find_set, if_neg hi]
    · cases hp
      rw [RedisParticipants.register, Expiring.find_set, if_pos rfl]
      exact ⟨rfl, (Int.lt_add_of_pos_right _ cfg.lives).le⟩
  | complete id =>
    simp only [step] at hstep
    split at hstep
    next room since hc =>
      cases hstep
      exact h.setClient (fun _ _ => rfl) fun room' since' hp => h id room' since' (hc ▸ hp)
    next => cases hstep
  | disconnect id =>
    simp only [step] at hstep
    split at hstep
    next room since hc =>
      cases hstep
      exact h.setClient (fun _ _ => rfl) fun _ _ hp => by simp at hp
    next => cases hstep
  | forget id =>
    simp only [step] at hstep
    split at hstep
    next room hc =>
      cases hstep
      exact h.setClient (fun _ hi => Expiring.find_del_of_ne hi)
        fun _ _ hp => by simp at hp
    next => cases hstep
  | heartbeat =>
    cases hstep
    exact h
  | wait d =>
    cases hstep
    exact fun id room since hp => ⟨(h id room since hp).1, ha id room since hp⟩

/-- The node before its first client, with any contents of Redis. -/
def start (now : Time) (nodes : RedisNodes) (participants : RedisParticipants) : State :=
  ⟨now, nodes, participants, fun _ => .idle⟩

/-- **Joined participants are located**: in a run in which no client outlives its key, a client
whose join has completed and whose leave has not begun is found on this node, in its room. -/
theorem joined_located (cfg : Config) (now : Time) (nodes : RedisNodes)
    (participants : RedisParticipants) (as : List Act) (s : State)
    (hrun : run (step cfg) (start now nodes participants) as = some s)
    (htimely : Along (step cfg) (Timely cfg) (start now nodes participants) as)
    (id : ParticipantId) (room : RoomId) (since : Time)
    (hjoined : s.clients id = .joined room since) :
    locate cfg s id = some ⟨id, room, cfg.node.id⟩ := by
  have hinit : Kept cfg (start now nodes participants) := by
    intro i r t hp
    simp [start] at hp
  have hkept : Kept cfg s :=
    run_invariant (fun _ _ _ hk hg hst => step_kept hk hg hst) hinit htimely hrun
  rw [locate_eq]
  exact hkept.lookup (by rw [hjoined]; rfl)

/-- The node `n`, with the default lifetimes. -/
def defaultNode : Config where
  node := ⟨"node-1", .ready, 0, by decide⟩
  nodeTTL := 15 * second
  participTTL := 60 * second
  lives := by decide
  peers := 1

/-- A client joins and stays for half a minute. -/
def shortStay : List Act := [Act.register "p" "r", Act.complete "p", Act.wait 30000000000]

/-- The client that stays for half a minute is found. -/
theorem joined_located_short :
    ∃ s ∈ run (step defaultNode) (start 0 .empty .empty) shortStay,
      locate defaultNode s "p" = some ⟨"p", "r", "node-1"⟩ := by
  obtain ⟨s, hs, hjoined⟩ :
      ∃ s ∈ run (step defaultNode) (start 0 .empty .empty) shortStay,
        s.clients "p" = .joined "r" 0 := by
    decide +kernel
  refine ⟨s, hs, joined_located defaultNode 0 .empty .empty shortStay s hs ?_ "p" "r" 0 hjoined⟩
  refine ⟨trivial, ?_⟩
  rintro s₁ hs₁
  refine ⟨trivial, ?_⟩
  rintro s₂ hs₂
  refine ⟨?_, fun _ _ => trivial⟩
  cases hs₁
  cases hs₂
  intro id room since hp
  by_cases hid : id = "p"
  · subst hid
    simp [start] at hp
    obtain ⟨rfl, rfl⟩ := hp
    decide
  · simp [start, Function.update_of_ne hid] at hp

/-- **A participant that stays is lost**: the node ticks every five seconds, and at the first tick
after a minute the participant is not found. -/
theorem joined_lost :
    ∃ s ∈ run (step defaultNode) (start 0 .empty .empty)
        ([Act.register "p" "r", Act.complete "p"] ++
          (List.replicate 13 [Act.wait 5000000000, Act.heartbeat]).flatten),
      s.clients "p" = .joined "r" 0 ∧ locate defaultNode s "p" = none := by
  decide +kernel

end PulseRTC.Cluster.Locations
