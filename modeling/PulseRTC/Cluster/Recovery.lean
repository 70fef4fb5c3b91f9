import PulseRTC.Cluster.RoomLocator
import PulseRTC.Cluster.FailureDetector
import PulseRTC.Cluster.RoomRouter

/-!
# Recovery of rooms

The failure detector, the recovery manager and the room router of every node, over one Redis. A
thread is one call of `scan`, `RecoverRoom`, `RecoverNode` or `runStartupRecovery`; it advances by
one Redis command or one local step at a time, so that any two calls interleave between any two
commands. Each command may fail, with or without having been executed, and the health flag of a
node changes independently of the commands.

* `step`: the steps of the system, with time, the heartbeats and departures of nodes, the pings
  behind the health flags and the load reports.
* `step_cases`: what one step can do to the threads and to the owners of rooms; the later modules
  use only this.

`Ownership` also reads the generation of the room and `SelectNode` the record of the chosen node;
both are only logged or handed on, and neither read is a step here.
-/

namespace PulseRTC.Cluster.Recovery

open Foundations List Option

/-- How a Redis command ends: answered, failed, or executed with its answer lost. -/
inductive Answer
  | ok
  | failed
  | lost
  deriving DecidableEq

/-- The command was executed. -/
def Answer.applied : Answer → Bool
  | .ok | .lost => true
  | .failed => false

/-- What a node is configured with. -/
structure Config where
  router : RouterConfig
  grace : Time := 0
  /-- `!RecoveryDisabled`. -/
  enabled : Bool := true
  /-- `RecoveryConcurrency`. -/
  concurrency : ℕ := 4
  deriving DecidableEq

/-- The state of one node: its health flag, its detector, its router's pending counters and the
rooms it is recovering. -/
structure Local where
  healthy : Bool := true
  detector : FailureDetector := {}
  pending : GoMap NodeId PendingCount := ∅
  active : Finset RoomId := ∅

/-- The shared state and the state of each node. -/
structure World where
  now : Time := 0
  nodes : RedisNodes := .empty
  rooms : RedisRooms := {}
  loads : Expiring NodeId NodeLoad := .empty
  assigns : Expiring RoomId NodeId := .empty
  locals : NodeId → Local := fun _ => {}

namespace World

/-- The state of node `n` replaced. -/
def setLocal (w : World) (n : NodeId) (l : Local) : World :=
  { w with locals := Function.update w.locals n l }

def owner (w : World) (room : RoomId) : Option NodeId := w.rooms.rooms.lookup room

/-- `redisNodeRegistry.get` folds an error into a missing record. -/
def getNode (w : World) (ans : Answer) (id : NodeId) : Option NodeInfo :=
  if ans = .ok then w.nodes.get w.now id else none

/-- A scan has marked `id` on node `n`. -/
def marked (w : World) (n id : NodeId) : Bool := ((w.locals n).detector.stale.lookup id).isSome

end World

/-- The part of `IsStale` after the registry lookup. -/
def gone : Option NodeInfo → Bool
  | none => true
  | some n => n.state == .offline

/-! ## `RecoverRoom` -/

/-- What the router ranks the nodes by: the instant, its pending counters, the nodes that it has
listed and the load snapshot. -/
structure View where
  now : Time
  pending : GoMap NodeId PendingCount
  nodes : List NodeInfo
  snap : List NodeLoad
  deriving DecidableEq

def View.candidates (v : View) (c : RouterConfig) : List Candidate :=
  Cluster.candidates c v.now v.pending v.nodes v.snap

/-- The place of a `RecoverRoom` call, before the step named. -/
inductive RoomPc
  /-- The tests of `enabled` and `stateUsable`. -/
  | check
  /-- The `active` test. -/
  | lock
  /-- `Ownership`. -/
  | owner
  /-- `IsStale`: the marks, then the record. -/
  | stale (old : NodeId)
  | staleGet (old : NodeId)
  /-- `SelectNode`: its health test, the list of nodes, the load snapshot, the candidates, the
  assignment and the policy, the pending counter, the new assignment. -/
  | select (old : NodeId)
  | listKeys (old : NodeId)
  | listVals (old : NodeId) (keys : List NodeId)
  | loadKeys (old : NodeId) (nodes : List NodeInfo)
  | loadVals (old : NodeId) (nodes : List NodeInfo) (keys : List NodeId)
  | rank (old : NodeId) (nodes : List NodeInfo) (snap : List NodeLoad)
  | assignment (old : NodeId) (v : View)
  | note (old target : NodeId)
  | put (old target : NodeId)
  /-- `RecoverOwner`. -/
  | swap (old : NodeId)
  /-- The owner to report after a conflict. -/
  | conflict
  /-- The deferred removal from `active`. -/
  | finish (err : Option Error)
  | returned (err : Option Error)
  deriving DecidableEq

/-- After `SelectNode`: the call defers to another node or goes on. -/
def afterSelect (self old target : NodeId) : RoomPc :=
  if target ≠ "" ∧ target ≠ self then .finish none else .swap old

/-- An error about a room. -/
def roomError (code : ErrorCode) (message : String) (room : RoomId) (node : NodeId) : Error :=
  { code := code, message := message, nodeID := node, roomID := room }

/-- What `RecoverRoom` makes of the code of `recoverOwnerScript`. -/
def afterSwap (self : NodeId) (room : RoomId) (code : ℕ) : RoomPc :=
  match code with
  | 1 => .finish none
  | 2 => .finish (some (roomError .alreadyRecovered "room already recovered" room self))
  | 3 => .conflict
  | _ => .finish (some (roomError .clusterStateUnavailable "recovery compare-and-swap failed"
      room ""))

/-- A step of `RecoverRoom(room)` on node `n`. -/
def roomStep (c : Config) (n : NodeId) (room : RoomId) (w : World) (ans : Answer) :
    RoomPc → Option (World × RoomPc)
  | .check =>
    some (w,
      if !c.enabled then
        .returned (some (roomError .recoveryDisabled "room recovery is disabled" "" ""))
      else if !(w.locals n).healthy then
        .returned (some (roomError .clusterStateUnavailable
          "cannot recover: state backend unavailable" room ""))
      else .lock)
  | .lock =>
    let l := w.locals n
    if room ∈ l.active then
      some (w, .returned
        (some (roomError .ownershipConflict "recovery already in progress" room "")))
    else some (w.setLocal n { l with active := insert room l.active }, .owner)
  | .owner =>
    some (w,
      match if ans = .ok then w.rooms.get room else none with
      | none => .finish none
      | some old =>
        if old = n then
          .finish (some (roomError .alreadyRecovered "room already owned locally" room ""))
        else .stale old)
  | .stale old => some (w, if w.marked n old then .select old else .staleGet old)
  | .staleGet old => some (w, if gone (w.getNode ans old) then .select old else .finish none)
  | .select old =>
    some (w,
      if !(w.locals n).healthy then
        .finish (some (roomError .clusterStateUnavailable
          "cannot route: cluster state unavailable" room ""))
      else .listKeys old)
  | .listKeys old =>
    some (w,
      match if ans = .ok then (w.nodes.live w.now).map Entry.key else [] with
      | [] => .loadKeys old []
      | keys => .listVals old keys)
  | .listVals old keys =>
    some (w, .loadKeys old
      (if ans = .ok then RedisNodes.sortNodes (keys.filterMap (w.nodes.get w.now)) else []))
  | .loadKeys old nodes =>
    some (w,
      if ans = .ok then
        match (w.loads.live w.now).map Entry.key with
        | [] => .rank old nodes []
        | keys => .loadVals old nodes keys
      else .finish (some (roomError .clusterStateUnavailable
        "cannot route: load snapshot failed" room "")))
  | .loadVals old nodes keys =>
    some (w,
      if ans = .ok then .rank old nodes (keys.filterMap (w.loads.get w.now))
      else .finish (some (roomError .clusterStateUnavailable
        "cannot route: load snapshot failed" room "")))
  | .rank old nodes snap =>
    let v : View := ⟨w.now, (w.locals n).pending, nodes, snap⟩
    some (w,
      match v.candidates c.router with
      | [] => .finish (some (roomError .noCapacity
          "all nodes are at capacity or unavailable" room ""))
      | _ => .assignment old v)
  | .assignment old v =>
    let assigned := if ans = .ok then w.assigns.get w.now room else none
    some (w,
      match elect n (v.candidates c.router) assigned with
      | none => .finish (some (roomError .noCapacity
          "no node is available to host a new room" room ""))
      | some (target, .assigned) => afterSelect n old target
      | some (target, _) => .note old target)
  | .note old target =>
    let l := w.locals n
    some (w.setLocal n { l with pending := notePending w.now l.pending target }, .put old target)
  | .put old target =>
    some (
      if ans.applied then { w with assigns := w.assigns.set room target (w.now + 15 * second) }
      else w,
      afterSelect n old target)
  | .swap old =>
    let (rooms, code, _) := w.rooms.recoverOwnerScript room old n
    some (
      if ans.applied then { w with rooms := rooms } else w,
      if ans = .ok then afterSwap n room code else afterSwap n room 0)
  | .conflict =>
    some (w, .finish (some (roomError .ownershipConflict "another node won recovery" room
      ((if ans = .ok then w.rooms.get room else none).getD ""))))
  | .finish err =>
    let l := w.locals n
    some (w.setLocal n { l with active := l.active.erase room }, .returned err)
  | .returned _ => none

/-! ## `RecoverNode` -/

/-- The place of a `RecoverNode` call, before the step named. -/
inductive NodePc
  | check
  /-- `IsStale`: the marks, then the record. -/
  | stale
  | staleGet
  /-- `roomsAll`. -/
  | allKeys
  | allVals (keys : List RoomId)
  /-- The workers still to start, then `wg.Wait`. -/
  | workers (todo : List RoomId)
  | deleteLoad
  | returned (err : Option Error)
  deriving DecidableEq

/-- The result of a worker counts as a failure. -/
def failedResult : Option Error → Bool
  | none => false
  | some e => e.code != .alreadyRecovered && e.code != .ownershipConflict

/-- `SCAN` returns the keys of a map in some order. -/
def scanOrder (m : GoMap RoomId NodeId) (keys : List RoomId) : Prop :=
  keys.Nodup ∧ keys.toFinset = m.keys

instance (m : GoMap RoomId NodeId) (keys : List RoomId) : Decidable (scanOrder m keys) := by
  unfold scanOrder; infer_instance

/-- A step of `RecoverNode(d)` on node `n`, given the order of a `SCAN` and the results of its
workers, `none` for one that is still running. The last part is the room of a worker to start. -/
def nodeStep (c : Config) (n d : NodeId) (w : World) (ans : Answer) (keys : List RoomId)
    (workers : List (Option (Option Error))) : NodePc → Option (World × NodePc × Option RoomId)
  | .check =>
    some (w,
      if !c.enabled then
        .returned (some (roomError .recoveryDisabled "room recovery is disabled" "" ""))
      else if !(w.locals n).healthy then
        .returned (some (roomError .clusterStateUnavailable
          "cannot recover: state backend unavailable" "" d))
      else .stale,
      none)
  | .stale =>
    some (w,
      if w.marked n d then (if d = n then .returned none else .allKeys) else .staleGet,
      none)
  | .staleGet =>
    some (w, if gone (w.getNode ans d) ∧ d ≠ n then .allKeys else .returned none, none)
  | .allKeys =>
    if ans = .ok then
      if scanOrder w.rooms.rooms keys then some (w, .allVals keys, none) else none
    else some (w, .workers [], none)
  | .allVals keys =>
    some (w, .workers (if ans = .ok then keys.filter fun room => w.owner room = some d else []),
      none)
  | .workers (room :: todo) =>
    if (workers.filter Option.isNone).length < c.concurrency then
      some (w, .workers todo, some room)
    else none
  | .workers [] =>
    if workers.any Option.isNone then none
    else if workers.any fun r => r.any failedResult then
      some (w, .returned (some (roomError .clusterStateUnavailable
        "some rooms could not be recovered" "" d)), none)
    else some (w, .deleteLoad, none)
  | .deleteLoad =>
    some (if ans.applied then { w with loads := w.loads.del d } else w, .returned none, none)
  | .returned _ => none

/-! ## `runStartupRecovery` and `scan` -/

/-- The place of a `runStartupRecovery` call, before the step named. -/
inductive StartupPc
  | check
  | allKeys
  | allVals (keys : List RoomId)
  /-- The loop over the owners, and the body for one of them. -/
  | owners (todo seen : List NodeId)
  | stale (o : NodeId) (todo seen : List NodeId)
  | staleGet (o : NodeId) (todo seen : List NodeId)
  | call (o : NodeId) (todo seen : List NodeId)
  /-- `RecoverNode` is running. -/
  | wait (todo seen : List NodeId)
  | returned
  deriving DecidableEq

/-- A step of `runStartupRecovery` on node `n`. The last part is a node to call `RecoverNode`
for. -/
def startupStep (c : Config) (n : NodeId) (w : World) (ans : Answer) (keys : List RoomId)
    (calls : List (Option (Option Error))) :
    StartupPc → Option (World × StartupPc × Option NodeId)
  | .check =>
    some (w, if c.enabled && (w.locals n).healthy then .allKeys else .returned, none)
  | .allKeys =>
    if ans = .ok then
      if scanOrder w.rooms.rooms keys then some (w, .allVals keys, none) else none
    else some (w, .returned, none)
  | .allVals keys =>
    some (w, if ans = .ok then .owners (keys.filterMap w.owner) [n] else .returned, none)
  | .owners [] _ => some (w, .returned, none)
  | .owners (o :: todo) seen =>
    some (w, if o ∈ seen then .owners todo seen else .stale o todo (o :: seen), none)
  | .stale o todo seen =>
    some (w, if w.marked n o then .call o todo seen else .staleGet o todo seen, none)
  | .staleGet o todo seen =>
    some (w, if gone (w.getNode ans o) then .call o todo seen else .owners todo seen, none)
  | .call o todo seen => some (w, .wait todo seen, some o)
  | .wait todo seen =>
    if calls.any Option.isNone then none else some (w, .owners todo seen, none)
  | .returned => none

/-- The place of a `scan`, before the step named. -/
inductive ScanPc
  | check
  | listKeys
  | listVals (keys : List NodeId)
  /-- The loop over the nodes, under the lock. -/
  | visit (nodes : List NodeInfo)
  /-- `onStale` for each failure found. -/
  | emit (todo : List NodeId)
  | returned
  deriving DecidableEq

/-- A step of `scan` on node `n`. The last part is a node that `onNodeStale` starts a `RecoverNode`
for. -/
def scanStep (c : Config) (n : NodeId) (w : World) (ans : Answer) :
    ScanPc → Option (World × ScanPc × Option NodeId)
  | .check =>
    let l := w.locals n
    if l.healthy then
      some (w.setLocal n { l with detector := { l.detector with backendKnwn := true } },
        .listKeys, none)
    else
      some (w.setLocal n { l with detector := { l.detector with backendKnwn := false } },
        .returned, none)
  | .listKeys =>
    some (w,
      match if ans = .ok then (w.nodes.live w.now).map Entry.key else [] with
      | [] => .visit []
      | keys => .listVals keys,
      none)
  | .listVals keys =>
    some (w, .visit
      (if ans = .ok then RedisNodes.sortNodes (keys.filterMap (w.nodes.get w.now)) else []),
      none)
  | .visit nodes =>
    let l := w.locals n
    let (detector, newlyStale) :=
      l.detector.scan c.router.nodeTTL c.grace n true nodes w.now
    some (w.setLocal n { l with detector := detector },
      .emit (newlyStale.map NodeFailure.nodeID), none)
  | .emit [] => some (w, .returned, none)
  | .emit (id :: todo) => some (w, .emit todo, if c.enabled then some id else none)
  | .returned => none

/-! ## The system -/

/-- The place of a thread. -/
inductive Pc
  | room (room : RoomId) (pc : RoomPc)
  | node (d : NodeId) (pc : NodePc)
  | startup (pc : StartupPc)
  | scan (pc : ScanPc)
  deriving DecidableEq

/-- The result of a call that has returned. -/
def Pc.result : Pc → Option (Option Error)
  | .room _ (.returned err) => some err
  | .node _ (.returned err) => some err
  | .startup .returned => some none
  | .scan .returned => some none
  | _ => none

/-- A call on a node, and the thread that waits for it. -/
structure Thread where
  node : NodeId
  caller : Option ℕ := none
  pc : Pc
  deriving DecidableEq

/-- The world and every call made so far. -/
structure Sys where
  world : World
  threads : List Thread := []

/-- The calls that start on their own. -/
inductive Task
  | recoverRoom (room : RoomId)
  | recoverNode (d : NodeId)
  | startupRecovery
  | scan
  deriving DecidableEq

/-- The first place of a call. -/
def Task.pc : Task → Pc
  | .recoverRoom room => .room room .check
  | .recoverNode d => .node d .check
  | .startupRecovery => .startup .check
  | .scan => .scan .check

/-- A call starts or takes a step, or the environment moves. -/
inductive Act
  | start (n : NodeId) (task : Task)
  /-- A step of thread `i`, with the answer of its command and the order of a `SCAN` of rooms. -/
  | thread (i : ℕ) (ans : Answer) (keys : List RoomId)
  | wait (d : ℕ)
  | register (n : NodeInfo)
  | heartbeat (id : NodeId)
  | unregister (id : NodeId)
  | health (n : NodeId) (ok : Bool)
  | publishLoad (l : NodeLoad) (ttl : Time)
  deriving DecidableEq

/-- The results of the calls that thread `i` waits for. -/
def Sys.calls (s : Sys) (i : ℕ) : List (Option (Option Error)) :=
  (s.threads.filter fun t => t.caller = some i).map fun t => t.pc.result

/-- A step of the thread `i`, with the thread it starts. -/
def threadStep (cfg : NodeId → Config) (s : Sys) (i : ℕ) (t : Thread) (ans : Answer)
    (keys : List RoomId) : Option (World × Pc × Option Thread) :=
  match t.pc with
  | .room room pc =>
    (roomStep (cfg t.node) t.node room s.world ans pc).map fun (w, pc') => (w, .room room pc', none)
  | .node d pc =>
    (nodeStep (cfg t.node) t.node d s.world ans keys (s.calls i) pc).map
      fun (w, pc', room) =>
        (w, .node d pc', room.map fun r => ⟨t.node, some i, (Task.recoverRoom r).pc⟩)
  | .startup pc =>
    (startupStep (cfg t.node) t.node s.world ans keys (s.calls i) pc).map
      fun (w, pc', o) =>
        (w, .startup pc', o.map fun d => ⟨t.node, some i, (Task.recoverNode d).pc⟩)
  | .scan pc =>
    (scanStep (cfg t.node) t.node s.world ans pc).map
      fun (w, pc', o) =>
        (w, .scan pc', o.map fun d => ⟨t.node, none, (Task.recoverNode d).pc⟩)

/-- One step of the system. -/
def step (cfg : NodeId → Config) (s : Sys) : Act → Option Sys
  | .start n task => some { s with threads := s.threads ++ [⟨n, none, task.pc⟩] }
  | .thread i ans keys =>
    s.threads[i]?.bind fun t =>
      (threadStep cfg s i t ans keys).map fun (w, pc, new) =>
        { world := w, threads := s.threads.set i { t with pc := pc } ++ new.toList }
  | .wait d => some { s with world := { s.world with now := s.world.now + d } }
  | .register n =>
    some { s with world := { s.world with
      nodes := s.world.nodes.register (cfg n.id).router.nodeTTL s.world.now n } }
  | .heartbeat id =>
    some { s with world := { s.world with
      nodes := s.world.nodes.heartbeat (cfg id).router.nodeTTL s.world.now id } }
  | .unregister id =>
    some { s with world := { s.world with nodes := s.world.nodes.unregister id } }
  | .health n ok =>
    some { s with world :=
      s.world.setLocal n { s.world.locals n with healthy := ok } }
  | .publishLoad l ttl =>
    some { s with world := { s.world with
      loads := s.world.loads.set l.nodeID l (s.world.now + ttl) } }

/-! ## What one step can do -/

/-- A step that leaves the owners of rooms and the running `RecoverRoom` calls alone, and may
start new ones. -/
structure Quiet (s s' : Sys) : Prop where
  rooms : s'.world.rooms = s.world.rooms
  new : ∀ t ∈ s'.threads, ∀ room pc, t.pc = .room room pc → pc = .check ∨ t ∈ s.threads
  old : ∀ t ∈ s.threads, ∀ room pc, t.pc = .room room pc → t ∈ s'.threads

/-- A step of a `RecoverRoom` call. -/
structure RoomMove (cfg : NodeId → Config) (s : Sys) (i : ℕ) (ans : Answer) (t : Thread)
    (room : RoomId) (pc pc' : RoomPc) (s' : Sys) : Prop where
  at_i : s.threads[i]? = some t
  at_pc : t.pc = .room room pc
  step : roomStep (cfg t.node) t.node room s.world ans pc = some (s'.world, pc')
  threads : s'.threads = s.threads.set i { t with pc := .room room pc' }

variable {i : ℕ} {t u : Thread} {s s' : Sys} {room : RoomId} {pc : RoomPc} {c : Config} {n : NodeId}
  {w w' : World} {ans : Answer} {keys : List RoomId} {cfg : NodeId → Config} {a : Act}

theorem mem_set_of_ne {l : List Thread} {x : Thread} (hi : l[i]? = some t) (hu : u ∈ l)
    (hne : u ≠ t) : u ∈ l.set i x := by
  obtain ⟨j, hj⟩ := mem_iff_getElem?.1 hu
  have hij : i ≠ j := by
    rintro rfl
    exact hne (mem_unique hj hi)
  exact mem_iff_getElem?.2 ⟨j, by rw [getElem?_set_ne hij, hj]⟩

/-- The step of a call other than `RecoverRoom` is quiet if it keeps the rooms. -/
theorem quiet_of_thread {pc : Pc} {new : Option Thread} (hi : s.threads[i]? = some t)
    (ht : ∀ room rpc, t.pc ≠ .room room rpc) (hpc : ∀ room rpc, pc ≠ .room room rpc)
    (hnew : ∀ u ∈ new, ∀ room rpc, u.pc = .room room rpc → rpc = .check)
    (hrooms : s'.world.rooms = s.world.rooms)
    (hthreads : s'.threads = s.threads.set i { t with pc := pc } ++ new.toList) : Quiet s s' where
  rooms := hrooms
  new u hu room rpc hupc := by
    rw [hthreads, mem_append] at hu
    rcases hu with hu | hu
    · rcases mem_or_eq_of_mem_set hu with hu | rfl
      · exact .inr hu
      · exact absurd hupc (hpc room rpc)
    · exact .inl (hnew u (by simpa using hu) room rpc hupc)
  old u hu room rpc hupc := by
    rw [hthreads, mem_append]
    exact .inl (mem_set_of_ne hi hu fun h => ht room rpc (h ▸ hupc))

/-- A step of the environment or the start of a call is quiet. -/
theorem quiet_of_append (new : List Thread) (hrooms : s'.world.rooms = s.world.rooms)
    (hthreads : s'.threads = s.threads ++ new)
    (hnew : ∀ u ∈ new, ∀ room rpc, u.pc = .room room rpc → rpc = .check) : Quiet s s' where
  rooms := hrooms
  new u hu room rpc hupc := by
    rw [hthreads, mem_append] at hu
    rcases hu with hu | hu
    · exact .inr hu
    · exact .inl (hnew u hu room rpc hupc)
  old u hu _ _ _ := by
    rw [hthreads, mem_append]
    exact .inl hu

theorem Task.pc_check {task : Task} (h : task.pc = .room room pc) : pc = .check := by
  cases task <;> simp_all [Task.pc]

theorem nodeStep_rooms {d : NodeId} {workers : List (Option (Option Error))} {pc pc' : NodePc}
    {new : Option RoomId} (h : nodeStep c n d w ans keys workers pc = some (w', pc', new)) :
    w'.rooms = w.rooms := by
  unfold nodeStep at h
  split at h <;> (try split_ifs at h) <;> simp_all
  all_goals grind

variable {new : Option NodeId}

theorem startupStep_world {calls : List (Option (Option Error))} {pc pc' : StartupPc}
    (h : startupStep c n w ans keys calls pc = some (w', pc', new)) : w' = w := by
  unfold startupStep at h
  split at h <;> (try split_ifs at h) <;> simp_all

theorem scanStep_rooms {pc pc' : ScanPc} (h : scanStep c n w ans pc = some (w', pc', new)) :
    w'.rooms = w.rooms := by
  unfold scanStep at h
  split at h <;> (try split_ifs at h) <;> simp_all
  all_goals grind [World.setLocal]

/-- A thread started by a thread is a new call on the same node. -/
theorem threadStep_new {pc : Pc} (h : threadStep cfg s i t ans keys = some (w, pc, some u)) :
    u.node = t.node ∧ ∃ task : Task, u.pc = task.pc := by
  unfold threadStep at h
  split at h <;> simp only [map_eq_some_iff, Prod.exists, Prod.mk.injEq] at h
  · obtain ⟨_, _, -, -, -, hu⟩ := h
    cases hu
  · obtain ⟨_, _, _, -, -, -, room, -, rfl⟩ := h
    exact ⟨rfl, .recoverRoom room, rfl⟩
  all_goals
    obtain ⟨_, _, _, -, -, -, d, -, rfl⟩ := h
    exact ⟨rfl, .recoverNode d, rfl⟩

/-- A step of a thread that runs `RecoverRoom`. -/
theorem step_roomMove (h : step cfg s (.thread i ans keys) = some s') (hi : s.threads[i]? = some t)
    (ht : t.pc = .room room pc) : ∃ pc', RoomMove cfg s i ans t room pc pc' s' := by
  simp only [step, hi, Option.bind_some, threadStep, ht, Option.map_map, Option.map_eq_some_iff,
    Prod.exists] at h
  obtain ⟨w', pc', hroom, rfl⟩ := h
  exact ⟨pc', hi, ht, hroom, by simp⟩

/-- **One step**: a `RecoverRoom` call moves, or the step is quiet. -/
theorem step_cases (h : step cfg s a = some s') :
    (∃ i ans keys t room pc pc', a = .thread i ans keys ∧
      RoomMove cfg s i ans t room pc pc' s') ∨ Quiet s s' := by
  cases a with
  | start n task =>
    cases h
    refine .inr (quiet_of_append [⟨n, none, task.pc⟩] rfl rfl fun u hu room rpc hupc => ?_)
    rw [mem_singleton.1 hu] at hupc
    exact Task.pc_check hupc
  | thread i ans keys =>
    have h₀ := h
    simp only [step, bind_eq_some_iff, map_eq_some_iff, Prod.exists] at h
    obtain ⟨t, hi, w, pc, new, hstep, rfl⟩ := h
    have hnew : ∀ u ∈ new, ∀ room rpc, u.pc = .room room rpc → rpc = .check := by
      rintro u rfl room rpc hupc
      obtain ⟨-, task, htask⟩ := threadStep_new hstep
      exact Task.pc_check (htask.symm.trans hupc)
    unfold threadStep at hstep
    cases ht : t.pc with
    | room room rpc =>
      obtain ⟨rpc', hmove⟩ := step_roomMove h₀ hi ht
      exact .inl ⟨i, ans, keys, t, room, rpc, rpc', rfl, hmove⟩
    | node d npc =>
      simp only [ht, map_eq_some_iff, Prod.exists, Prod.mk.injEq] at hstep
      obtain ⟨w', npc', r, hnode, rfl, rfl, rfl⟩ := hstep
      exact .inr (quiet_of_thread hi (by simp [ht]) (by simp) hnew (nodeStep_rooms hnode) rfl)
    | startup spc =>
      simp only [ht, map_eq_some_iff, Prod.exists, Prod.mk.injEq] at hstep
      obtain ⟨w', spc', o, hstart, rfl, rfl, rfl⟩ := hstep
      exact .inr (quiet_of_thread hi (by simp [ht]) (by simp) hnew
        (by rw [startupStep_world hstart]) rfl)
    | scan spc =>
      simp only [ht, map_eq_some_iff, Prod.exists, Prod.mk.injEq] at hstep
      obtain ⟨w', spc', o, hscan, rfl, rfl, rfl⟩ := hstep
      exact .inr (quiet_of_thread hi (by simp [ht]) (by simp) hnew (scanStep_rooms hscan) rfl)
  | wait _ | register _ | heartbeat _ | unregister _ | health _ _ | publishLoad _ _ =>
    cases h
    exact .inr (quiet_of_append [] rfl (by simp) (by simp))

/-- A thread of the next state is one of this state, moved or not, or runs on the node of one, or
was started by the action. -/
theorem step_node (h : step cfg s a = some s') (hu : u ∈ s'.threads) :
    (∃ t ∈ s.threads, t.node = u.node) ∨ ∃ task, a = .start u.node task := by
  cases a with
  | start n task =>
    cases h
    rcases mem_snoc.1 hu with hu | rfl
    · exact .inl ⟨u, hu, rfl⟩
    · exact .inr ⟨task, rfl⟩
  | thread i ans keys =>
    simp only [step, bind_eq_some_iff, map_eq_some_iff, Prod.exists] at h
    obtain ⟨t, hi, w, pc, new, hstep, rfl⟩ := h
    have ht : t ∈ s.threads := mem_of_getElem? hi
    refine .inl ?_
    rcases mem_append.1 hu with hu | hu
    · rcases mem_or_eq_of_mem_set hu with hu | rfl
      · exact ⟨u, hu, rfl⟩
      · exact ⟨t, ht, rfl⟩
    · obtain rfl := mem_toList.1 hu
      exact ⟨t, ht, (threadStep_new hstep).1.symm⟩
  | wait _ | register _ | heartbeat _ | unregister _ | health _ _ | publishLoad _ _ =>
    cases h
    exact .inl ⟨u, hu, rfl⟩

/-! ## Owners -/

theorem recoverOwnerScript_owner (r : RedisRooms) (room room' : RoomId) (old new : NodeId) :
    (r.recoverOwnerScript room old new).1.rooms.lookup room' =
      (r.rooms.lookup room').map fun o => if room' = room ∧ o = old then new else o := by
  unfold RedisRooms.recoverOwnerScript
  by_cases hr : room' = room
  · subst hr
    cases hcur : r.rooms.lookup room' with
    | none => simp [hcur]
    | some cur =>
      simp only [true_and]
      split_ifs <;> simp_all
  · cases hcur : r.rooms.lookup room with
    | none => simp [hr]
    | some cur =>
      simp only [hr, false_and, if_false, Option.map_id']
      split_ifs <;> simp [hr]

/-- A step of `RecoverRoom` keeps the rooms, up to the script. -/
theorem roomStep_rooms {pc' : RoomPc} (h : roomStep c n room w ans pc = some (w', pc')) :
    w'.rooms = w.rooms ∨
      ∃ old, pc = .swap old ∧ w'.rooms = (w.rooms.recoverOwnerScript room old n).1 := by
  cases pc <;> simp only [roomStep, some.injEq, Prod.mk.injEq, reduceCtorEq] at h
  case lock =>
    split_ifs at h <;> obtain ⟨rfl, -⟩ := Prod.mk.inj (some.inj h) <;> exact .inl rfl
  case put old target =>
    obtain ⟨rfl, -⟩ := h
    split_ifs <;> exact .inl rfl
  case swap old =>
    obtain ⟨rfl, -⟩ := h
    split_ifs
    · exact .inr ⟨old, rfl, rfl⟩
    · exact .inl rfl
  all_goals
    obtain ⟨rfl, -⟩ := h
    exact .inl rfl

/-- An owner that a step moves away is the old owner of a `RecoverRoom` call at its script. -/
theorem owner_moved {o : NodeId} (h : step cfg s a = some s') (ho : s.world.owner room = some o)
    (ho' : s'.world.owner room ≠ some o) :
    ∃ i ans keys t pc', a = .thread i ans keys ∧
      RoomMove cfg s i ans t room (.swap o) pc' s' := by
  rcases step_cases h with ⟨i, ans, keys, t, room', pc, pc', rfl, hmove⟩ | hquiet
  · rcases roomStep_rooms hmove.step with hsame | ⟨old, rfl, hscript⟩
    · exact absurd (by rw [World.owner, hsame]; exact ho) ho'
    · rw [World.owner, hscript, recoverOwnerScript_owner, ← World.owner, ho] at ho'
      by_cases hroom : room = room' ∧ o = old
      · obtain ⟨rfl, rfl⟩ := hroom
        exact ⟨i, ans, keys, t, pc', rfl, hmove⟩
      · exact absurd (by rw [map_some, if_neg hroom]) ho'
  · exact absurd (by rw [World.owner, hquiet.rooms]; exact ho) ho'

end PulseRTC.Cluster.Recovery
