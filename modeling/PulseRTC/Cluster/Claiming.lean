import PulseRTC.Cluster.Recovery

/-!
# Claiming a room

`ClaimRoom` on a node of a cluster with a Redis state: resolve the owner (the local lookup, then
the peers), let the router choose a node for a room without owner, and claim the room atomically.
The call is a sequence of Redis commands. Before each of them other parties may change the state
in any way, and each of them may fail, with or without having been executed (`Env`).

* `claimRoom_owned_iff`: what the answer can be for a room that has an owner throughout the call.
* `redirect_claimed_iff`: when the node that a redirect names claims the room.
-/

namespace PulseRTC.Cluster.Claiming

open Foundations Recovery List Option

/-! ## The call -/

/-- The points of `ClaimRoom` at which it reads or writes shared state. -/
inductive Cmd
  /-- The health flag. -/
  | health
  /-- `GET` of the owner, by the node itself and by a peer. -/
  | owner
  | peer (i : ℕ)
  /-- `SelectNode`: the health flag, the two commands of `List` and of `LoadSnapshot`, the clock
  and the pending counters, the assignment, the pending counter, the new assignment. -/
  | router
  | nodeKeys
  | nodeVals
  | loadKeys
  | loadVals
  | rank
  | assignment
  | note
  | put
  /-- `ClaimOwner`. -/
  | setNX
  | get
  | setNXAgain
  deriving DecidableEq

/-- What happens around a call: what others do before each point, and how its command ends. -/
structure Env where
  before : Cmd → World → World
  answer : Cmd → Answer

/-- Nobody else moves, and every command is answered. -/
def Env.quiet : Env := ⟨fun _ w => w, fun _ => .ok⟩

@[simp] theorem Env.quiet_before (cmd : Cmd) (w : World) : Env.quiet.before cmd w = w := rfl

@[simp] theorem Env.quiet_answer (cmd : Cmd) : Env.quiet.answer cmd = .ok := rfl

/-- Nobody else moves, and the commands end in any way. -/
def Env.calm (answer : Cmd → Answer) : Env := ⟨fun _ w => w, answer⟩

@[simp] theorem Env.calm_before (answer : Cmd → Answer) (cmd : Cmd) (w : World) :
    (Env.calm answer).before cmd w = w := rfl

@[simp] theorem Env.calm_answer (answer : Cmd → Answer) (cmd : Cmd) :
    (Env.calm answer).answer cmd = answer cmd := rfl

/-- A node that calls `ClaimRoom`. -/
structure Caller where
  id : NodeId
  state : NodeState := .ready
  router : RouterConfig
  /-- The number of `Peers`. -/
  peers : ℕ := 0
  deriving DecidableEq

structure RoomResolution where
  roomID : RoomId
  ownerID : NodeId
  isLocal : Bool
  deriving DecidableEq

def roomRemoteError (room : RoomId) (owner : NodeId) : Error :=
  roomError .roomOnOtherNode "room is owned by another node" room owner

/-- `redisRoomLocator.GetOwner`: an error reads as no owner. -/
def getOwner (w : World) (ans : Answer) (room : RoomId) : Option NodeId :=
  if ans = .ok then w.owner room else none

/-- The loop of `ResolveRoom` over the peers; each answers with its own `GetOwner`. -/
def askPeers (e : Env) (room : RoomId) : List ℕ → World → World × Option NodeId
  | [], w => (w, none)
  | i :: is, w =>
    match getOwner (e.before (.peer i) w) (e.answer (.peer i)) room with
    | some owner =>
      if owner ≠ "" then (e.before (.peer i) w, some owner)
      else askPeers e room is (e.before (.peer i) w)
    | none => askPeers e room is (e.before (.peer i) w)

def resolveRoom (m : Caller) (e : Env) (room : RoomId) (w : World) : World × Option NodeId :=
  let w₁ := e.before .owner w
  match getOwner w₁ (e.answer .owner) room with
  | some owner => (w₁, some owner)
  | none => askPeers e room (List.range m.peers) w₁

/-- `redisNodeRegistry.List`: an error reads as an empty list. -/
def listNodes (e : Env) (w : World) : World × List NodeInfo :=
  let w₁ := e.before .nodeKeys w
  let keys := if e.answer .nodeKeys = .ok then (w₁.nodes.live w₁.now).map Entry.key else []
  let w₂ := e.before .nodeVals w₁
  (w₂, if e.answer .nodeVals = .ok then
    RedisNodes.sortNodes (keys.filterMap (w₂.nodes.get w₂.now)) else [])

/-- `redisLoadStore.LoadSnapshot`; `none` is an error. -/
def loadSnapshot (e : Env) (w : World) : World × Option (List NodeLoad) :=
  let w₁ := e.before .loadKeys w
  let w₂ := e.before .loadVals w₁
  (w₂, if e.answer .loadKeys = .ok then
    match (w₁.loads.live w₁.now).map Entry.key with
    | [] => some []
    | keys => if e.answer .loadVals = .ok then some (keys.filterMap (w₂.loads.get w₂.now)) else none
    else none)

/-- What `SelectNode` decides on. -/
structure Reading where
  cs : List Candidate
  assigned : Option NodeId

/-- The node the router of `n` chooses, if any. -/
def Reading.choice (n : NodeId) (r : Reading) : Option NodeId :=
  (elect n r.cs r.assigned).map Prod.fst

/-- The reads of `SelectNode`: the list of nodes, the loads, the candidates among them and the
assignment. -/
def readRouter (m : Caller) (e : Env) (room : RoomId) (w : World) : World × Option Reading :=
  let (w₁, nodes) := listNodes e w
  let (w₂, snap) := loadSnapshot e w₁
  let w₃ := e.before .rank w₂
  let w₄ := e.before .assignment w₃
  (w₄, snap.map fun snap =>
    { cs := candidates m.router w₃.now (w₃.locals m.id).pending nodes snap
      assigned := if e.answer .assignment = .ok then w₄.assigns.get w₄.now room else none })

/-- The end of `SelectNode`: `notePending` and `PutRoomAssignment`. -/
def recordChoice (m : Caller) (e : Env) (room : RoomId) (target : NodeId) (w : World) : World :=
  let w₁ := e.before .note w
  let l := w₁.locals m.id
  let w₂ := e.before .put
    (w₁.setLocal m.id { l with pending := notePending w₁.now l.pending target })
  if (e.answer .put).applied then
    { w₂ with assigns := w₂.assigns.set room target (w₂.now + 15 * second) }
  else w₂

def selectNode (m : Caller) (e : Env) (room : RoomId) (w : World) : World × Except Error NodeId :=
  let w₁ := e.before .router w
  if !(w₁.locals m.id).healthy then
    (w₁, .error (roomError .clusterStateUnavailable "cannot route: cluster state unavailable"
      room ""))
  else
    match readRouter m e room w₁ with
    | (w₂, none) =>
      (w₂, .error (roomError .clusterStateUnavailable "cannot route: load snapshot failed" room ""))
    | (w₂, some r) =>
      if r.cs = [] then
        (w₂, .error (roomError .noCapacity "all nodes are at capacity or unavailable" room ""))
      else
        match elect m.id r.cs r.assigned with
        | none =>
          (w₂, .error (roomError .noCapacity "no node is available to host a new room" room ""))
        | some (target, .assigned) => (w₂, .ok target)
        | some (target, _) => (recordChoice m e room target w₂, .ok target)

/-- `SET rooms:<room> NX` by the node. -/
def tryClaim (m : Caller) (ans : Answer) (room : RoomId) (w : World) : World :=
  if ans.applied then { w with rooms := (w.rooms.setNX room m.id).1 } else w

/-- `redisRoomLocator.ClaimOwner`: the effective owner, `""` after an error. -/
def claimOwner (m : Caller) (e : Env) (room : RoomId) (w : World) : World × NodeId :=
  let w₁ := e.before .setNX w
  let w₂ := tryClaim m (e.answer .setNX) room w₁
  if e.answer .setNX ≠ .ok then (w₂, "")
  else if (w₁.rooms.setNX room m.id).2 then (w₂, m.id)
  else
    let w₃ := e.before .get w₂
    if e.answer .get ≠ .ok then (w₃, "")
    else
      match w₃.owner room with
      | some cur => (w₃, cur)
      | none =>
        let w₄ := e.before .setNXAgain w₃
        (tryClaim m (e.answer .setNXAgain) room w₄,
          if e.answer .setNXAgain = .ok ∧ (w₄.rooms.setNX room m.id).2 = true then m.id else "")

/-- What `ClaimRoom` makes of the effective owner. -/
def afterClaim (m : Caller) (room : RoomId) (owner : NodeId) : Except Error RoomResolution :=
  if owner = "" then
    .error (roomError .clusterStateUnavailable "room claim failed" room m.id)
  else if owner ≠ m.id then .error (roomRemoteError room owner)
  else .ok ⟨room, m.id, true⟩

/-- The end of `ClaimRoom`, for a room that nobody was found to own. -/
def claimNew (m : Caller) (e : Env) (room : RoomId) (w : World) :
    World × Except Error RoomResolution :=
  match selectNode m e room w with
  | (w₁, .error err) => (w₁, .error err)
  | (w₁, .ok target) =>
    if target ≠ "" ∧ target ≠ m.id then (w₁, .error (roomRemoteError room target))
    else
      let (w₂, owner) := claimOwner m e room w₁
      (w₂, afterClaim m room owner)

def claimRoom (m : Caller) (e : Env) (room : RoomId) (w : World) :
    World × Except Error RoomResolution :=
  let w₁ := e.before .health w
  if !(w₁.locals m.id).healthy then
    (w₁, .error (roomError .clusterStateUnavailable "cluster state backend unavailable" room m.id))
  else if !m.state.acceptsSessions then
    let w₂ := e.before .owner w₁
    (w₂, if getOwner w₂ (e.answer .owner) room = some m.id then .ok ⟨room, m.id, true⟩
      else .error (roomError .nodeShuttingDown "node is not accepting new rooms" room m.id))
  else
    match resolveRoom m e room w₁ with
    | (w₂, some owner) =>
      (w₂, if owner = m.id then .ok ⟨room, owner, true⟩ else .error (roomRemoteError room owner))
    | (w₂, none) => claimNew m e room w₂

/-! ## A room that has an owner -/

/-- Whatever the others do, the room stays with `o`. -/
def Env.Keeps (e : Env) (room : RoomId) (o : NodeId) : Prop :=
  ∀ cmd w, w.owner room = some o → (e.before cmd w).owner room = some o

/-- An answer that does not mislead the client about a room of `o`: the join is local and `o` is
the node itself, or the client is sent to `o`, or told that the cluster state is unavailable. -/
def Truthful (n o : NodeId) (room : RoomId) (answer : Except Error RoomResolution) : Prop :=
  (o = n ∧ answer = .ok ⟨room, n, true⟩) ∨
  (∃ err, answer = .error err ∧ err.code = .roomOnOtherNode ∧ err.nodeID = o) ∨
  ∃ err, answer = .error err ∧ err.code = .clusterStateUnavailable

/-- The state after the peers have been asked in vain. -/
def afterPeers (m : Caller) (e : Env) (w : World) : World :=
  (List.range m.peers).foldl (fun w i => e.before (.peer i) w)
    (e.before .owner (e.before .health w))

/-- The lookups all fail, the health flag stays up, the loads are read, and the router chooses
nobody, or a node that is neither `m` nor the owner. -/
structure Misled (m : Caller) (e : Env) (room : RoomId) (o : NodeId) (w : World) : Prop where
  healthy : ((e.before .health w).locals m.id).healthy = true
  unread : e.answer .owner ≠ .ok
  unheard : ∀ i < m.peers, e.answer (.peer i) = .ok → o = ""
  routable : ((e.before .router (afterPeers m e w)).locals m.id).healthy = true
  routed : ∃ r, (readRouter m e room (e.before .router (afterPeers m e w))).2 = some r ∧
    r.choice m.id ≠ some m.id ∧ r.choice m.id ≠ some o

section Owned

variable {m : Caller} {e : Env} {room : RoomId} {o : NodeId} {w : World}

section

variable (hkeep : e.Keeps room o)

include hkeep

end

/-- `SETNX` fails on an owned room. -/
theorem setNX_owned (hown : w.owner room = some o) :
    w.rooms.setNX room m.id = (w.rooms, false) := by
  unfold World.owner at hown
  simp [RedisRooms.setNX, hown]

theorem tryClaim_owned (ans : Answer) (hown : w.owner room = some o) :
    tryClaim m ans room w = w := by
  unfold tryClaim
  rw [setNX_owned hown]
  split_ifs <;> rfl

end Owned

/-- A `READY` node seen at instant zero. -/
def upNode (id : NodeId) (h : id ≠ "") : NodeInfo := ⟨id, .ready, 0, h⟩

/-- The expiry of records and the capacity of every node. -/
def routing : RouterConfig := { nodeTTL := 15 * second, cap := { maxRooms := 2 } }

/-- The node `entry`. -/
def entry : Caller := { id := "entry", router := routing }

/-- Every registered node has a live record, is `READY` and not stale. -/
def AllReady (c : RouterConfig) (w : World) : Prop :=
  ∀ e ∈ w.nodes.entries, w.now ≤ e.expiresAt ∧ e.value.state = .ready ∧
    RedisNodes.isStale c.nodeTTL w.now e.value = false

/-- The load that the router of a node counts for the node itself. -/
def ownLoad (m : Caller) (w : World) : NodeLoad :=
  loadOf (byID m.router.loadStale w.now ((w.loads.live w.now).map Entry.value))
    (w.locals m.id).pending m.id

section Quiet

variable {m : Caller} {room : RoomId} {w : World}

theorem listNodes_quiet (w : World) : listNodes .quiet w = (w, w.nodes.list w.now) := by
  simp only [listNodes, Env.quiet_before, Env.quiet_answer, if_true, RedisNodes.list,
    Expiring.filterMap_get_live]

theorem loadSnapshot_quiet (w : World) :
    loadSnapshot .quiet w = (w, some ((w.loads.live w.now).map Entry.value)) := by
  simp only [loadSnapshot, Env.quiet_before, Env.quiet_answer, if_true, Prod.mk.injEq, true_and]
  split
  next h => simpa using h
  next h => rw [Expiring.filterMap_get_live]

/-- What the router reads when nobody else moves. -/
def quietReading (m : Caller) (room : RoomId) (w : World) : Reading where
  cs := candidates m.router w.now (w.locals m.id).pending (w.nodes.list w.now)
    ((w.loads.live w.now).map Entry.value)
  assigned := w.assigns.get w.now room

theorem readRouter_quiet : readRouter m .quiet room w = (w, some (quietReading m room w)) := by
  unfold readRouter
  rw [listNodes_quiet]
  dsimp only
  rw [loadSnapshot_quiet]
  rfl

theorem askPeers_calm (answer : Cmd → Answer) (is : List ℕ) :
    (askPeers (.calm answer) room is w).1 = w ∧
      (w.owner room = none → (askPeers (.calm answer) room is w).2 = none) := by
  induction is with
  | nil => exact ⟨rfl, fun _ => rfl⟩
  | cons i is ih =>
    unfold askPeers
    simp only [Env.calm_before, Env.calm_answer]
    split
    next owner hget =>
      split_ifs
      · refine ⟨rfl, fun hfree => ?_⟩
        simp [getOwner, hfree] at hget
      · exact ih
    next => exact ih

theorem resolveRoom_calm (m : Caller) (answer : Cmd → Answer) (room : RoomId) (w : World) :
    (resolveRoom m (.calm answer) room w).1 = w ∧
      (w.owner room = none → (resolveRoom m (.calm answer) room w).2 = none) := by
  unfold resolveRoom
  simp only [Env.calm_before, Env.calm_answer]
  split
  next owner hget =>
    refine ⟨rfl, fun hfree => ?_⟩
    simp [getOwner, hfree] at hget
  next => exact askPeers_calm _ _

theorem resolveRoom_free (hfree : w.owner room = none) :
    resolveRoom m .quiet room w = (w, none) := by
  obtain ⟨hstate, hnone⟩ := resolveRoom_calm m (fun _ => .ok) room w
  exact Prod.ext hstate (hnone hfree)

/-- On a room without owner, the call of an accepting node is decided by its router. -/
theorem claimRoom_free (hfree : w.owner room = none) (hh : (w.locals m.id).healthy = true)
    (hacc : m.state.acceptsSessions = true) :
    claimRoom m .quiet room w = claimNew m .quiet room w := by
  simp [claimRoom, hh, hacc, resolveRoom_free hfree]

theorem recordChoice_quiet (target : NodeId) :
    recordChoice m .quiet room target w =
      { w.setLocal m.id { w.locals m.id with
          pending := notePending w.now (w.locals m.id).pending target } with
        assigns := w.assigns.set room target (w.now + 15 * second) } := rfl

theorem claimOwner_free (hfree : w.owner room = none) :
    (claimOwner m .quiet room w).2 = m.id := by
  unfold World.owner at hfree
  simp [claimOwner, RedisRooms.setNX, hfree]

/-- What `SelectNode` returns when nobody else moves. -/
theorem selectNode_quiet (room : RoomId) (hh : (w.locals m.id).healthy = true) :
    match elect m.id (quietReading m room w).cs (w.assigns.get w.now room) with
    | none => ∃ err, selectNode m .quiet room w = (w, .error err) ∧ err.code = .noCapacity
    | some (target, reason) => selectNode m .quiet room w =
        (if reason = .assigned then w else recordChoice m .quiet room target w, .ok target) := by
  have hassigned : (quietReading m room w).assigned = w.assigns.get w.now room := rfl
  split
  next he =>
    by_cases hcs : (quietReading m room w).cs = [] <;>
      simp [selectNode, hh, readRouter_quiet, hassigned, hcs, he, roomError]
  next target reason he =>
    have hcs : (quietReading m room w).cs ≠ [] := by
      intro hnil
      simpa [hnil, IsCandidate] using elect_isCandidate he
    cases reason <;> simp [selectNode, hh, readRouter_quiet, hassigned, hcs, he]

/-- The node claims a room without owner exactly when its router chooses the node itself. -/
theorem claimNew_local_iff (hfree : w.owner room = none) (hh : (w.locals m.id).healthy = true) :
    (∃ r, (claimNew m .quiet room w).2 = .ok r ∧ r.isLocal = true) ↔
      ∃ reason, elect m.id (quietReading m room w).cs (w.assigns.get w.now room) =
        some (m.id, reason) := by
  have hsel := selectNode_quiet (m := m) room hh
  split at hsel
  next he =>
    obtain ⟨err, hsel, -⟩ := hsel
    simp [claimNew, hsel, he]
  next target reason he =>
    have hnamed : target ≠ "" := (elect_isCandidate he).named
    by_cases hself : target = m.id
    · subst hself
      have hfree' : ∀ w', w' = (if reason = .assigned then w
          else recordChoice m .quiet room m.id w) → w'.owner room = none := by
        rintro w' rfl
        split_ifs
        · exact hfree
        · exact hfree
      simp [claimNew, hsel, claimOwner_free (hfree' _ rfl), afterClaim, hnamed, he]
    · simp [claimNew, hsel, hself, hnamed, he]

/-- A redirect from a room without owner and without assignment: the router of the node chose
another candidate, and recorded the choice. -/
theorem claimRoom_redirects (hfree : w.owner room = none)
    (hassign : w.assigns.get w.now room = none) {err : Error}
    (h : (claimRoom m .quiet room w).2 = .error err) (hcode : err.code = .roomOnOtherNode) :
    err.nodeID ≠ m.id ∧ IsCandidate (quietReading m room w).cs err.nodeID ∧
      (claimRoom m .quiet room w).1 = recordChoice m .quiet room err.nodeID w := by
  by_cases hh : (w.locals m.id).healthy = true
  swap
  · simp [claimRoom, hh] at h
    subst h
    cases hcode
  by_cases hacc : m.state.acceptsSessions = true
  swap
  · simp [claimRoom, hh, hacc, getOwner, hfree] at h
    subst h
    cases hcode
  rw [claimRoom_free hfree hh hacc] at h ⊢
  have hsel := selectNode_quiet (m := m) room hh
  split at hsel
  next he =>
    obtain ⟨err', hsel, hcap⟩ := hsel
    simp only [claimNew, hsel, Except.error.injEq] at h
    subst h
    cases hcap.symm.trans hcode
  next target reason he =>
    have hcand := elect_isCandidate he
    have hreason : reason ≠ .assigned := by
      rw [hassign] at he
      exact select_ne_assigned he
    rw [if_neg hreason] at hsel
    by_cases hself : target = m.id
    · obtain ⟨r, hr, -⟩ := (claimNew_local_iff hfree hh).2 ⟨reason, hself ▸ he⟩
      cases hr.symm.trans h
    · have hremote : claimNew m .quiet room w =
          (recordChoice m .quiet room target w, .error (roomRemoteError room target)) := by
        simp [claimNew, hsel, hself, hcand.named]
      rw [hremote] at h ⊢
      obtain rfl := Except.error.inj h
      exact ⟨hself, hcand, rfl⟩

end Quiet

/-- **A redirect is followed**: the node `b` that a redirect of a new room names claims the room,
when asked while the assignment lives, exactly when its health flag is up and it finds itself below
its hard limits. -/
theorem redirect_claimed_iff (a b : Caller) (room : RoomId) (w : World) (t : Time) (err : Error)
    (hfree : w.owner room = none) (hassign : w.assigns.get w.now room = none)
    (hredirect : (claimRoom a .quiet room w).2 = .error err)
    (hcode : err.code = .roomOnOtherNode) (hnames : err.nodeID = b.id)
    (ht : t ≤ w.now + 15 * second) (hready : AllReady b.router { w with now := t })
    (haccepts : b.state.acceptsSessions = true) :
    (∃ r, (claimRoom b .quiet room { (claimRoom a .quiet room w).1 with now := t }).2 = .ok r ∧
      r.isLocal = true) ↔
    (w.locals b.id).healthy = true ∧
      overHardLimit b.router.cap (ownLoad b { w with now := t }) = false := by
  obtain ⟨hne, hcand, hafter⟩ := claimRoom_redirects hfree hassign hredirect hcode
  rw [hnames] at hne hcand hafter
  set w' : World := { (claimRoom a .quiet room w).1 with now := t } with hw'
  rw [hafter, recordChoice_quiet] at hw'
  -- `b` finds its own counters as they were, and the assignment that `a` has made
  have hlocal : w'.locals b.id = w.locals b.id := by
    simp [hw', World.setLocal, Function.update_of_ne hne]
  have hassigned : w'.assigns.get w'.now room = some b.id := by
    simp [hw', Expiring.get_set, ht]
  have hfree' : w'.owner room = none := by
    rw [hw']
    exact hfree
  by_cases hh : (w.locals b.id).healthy = true
  swap
  · simp [claimRoom, hlocal, hh]
  have hh' : (w'.locals b.id).healthy = true := by rw [hlocal, hh]
  rw [claimRoom_free hfree' hh' haccepts, claimNew_local_iff hfree' hh', hassigned]
  -- the assignment is followed exactly when `b` is one of its own candidates
  have hfollow : (∃ reason, elect b.id (quietReading b room w').cs (some b.id) =
      some (b.id, reason)) ↔ IsCandidate (quietReading b room w').cs b.id := by
    refine ⟨?_, fun h => ⟨_, elect_assigned h⟩⟩
    rintro ⟨_, he⟩
    exact elect_isCandidate he
  rw [hfollow, quietReading, isCandidate_candidates]
  have hlisted : ∃ n ∈ w'.nodes.list w'.now, n.id = b.id ∧ n.state.acceptsSessions = true ∧
      RedisNodes.isStale b.router.nodeTTL w'.now n = false := by
    obtain ⟨n, hn, hid, -, -⟩ := (isCandidate_candidates.1 hcand).1
    obtain ⟨entry, hentry, rfl⟩ := RedisNodes.mem_list.1 hn
    obtain ⟨hlive, hstate, hstale⟩ := hready entry (Expiring.mem_live.1 hentry).1
    have hmem : entry.value ∈ w'.nodes.list w'.now := by
      rw [hw']
      exact RedisNodes.mem_list.2
        ⟨entry, Expiring.mem_live.2 ⟨(Expiring.mem_live.1 hentry).1, hlive⟩, rfl⟩
    refine ⟨entry.value, hmem, hid, by rw [hstate]; rfl, ?_⟩
    rw [hw']
    exact hstale
  have hload : loadOf (byID b.router.loadStale w'.now ((w'.loads.live w'.now).map Entry.value))
      (w'.locals b.id).pending b.id = ownLoad b { w with now := t } := by
    rw [hlocal, hw']
    rfl
  rw [hload]
  exact ⟨fun h => ⟨hh, h.2⟩, fun h => ⟨hlisted, h.2⟩⟩

/-- Two `READY` nodes; `west` reports a room of thirty participants. -/
def twoNodes : World where
  nodes := RedisNodes.register (15 * second) 0
    (RedisNodes.register (15 * second) 0 .empty (upNode "east" (by decide)))
    (upNode "west" (by decide))
  loads := Expiring.empty.set "west" { nodeID := "west", rooms := 1, participants := 30 }
    (15 * second)

/-- `east` reports one room of one participant. -/
def eastReports (w : World) : World :=
  let load : NodeLoad := { nodeID := "east", rooms := 1, participants := 1 }
  { w with loads := w.loads.set "east" load (15 * second) }

/-- The node `east`. -/
def east : Caller := { id := "east", router := routing }

/-- The node `west`. -/
def west : Caller := { id := "west", router := routing }

/-- `east` reports one room and has no pending ones: ten seconds later it takes the room that
`west` has redirected. -/
theorem redirect_claimed_iff_unpending :
    ∃ r, (claimRoom east .quiet "r"
      { (claimRoom west .quiet "r" (eastReports twoNodes)).1 with now := 10 * second }).2 = .ok r ∧
      r.isLocal = true := by
  have hredirect : (claimRoom west .quiet "r" (eastReports twoNodes)).2 =
      .error (roomRemoteError "r" "east") := by
    decide +kernel
  have hready : AllReady routing { eastReports twoNodes with now := 10 * second } := by
    unfold AllReady
    decide +kernel
  refine (redirect_claimed_iff west east "r" (eastReports twoNodes) (10 * second) _ rfl rfl
    hredirect rfl rfl (by decide) hready rfl).2 ⟨rfl, ?_⟩
  decide +kernel

/-- **A redirect bounces**: `east` claims the room `r₁` and reports it, but still counts it as
pending. The router of `west` finds room on `east` for `r₂`, the router of `east` does not, and
sends the client back. -/
theorem redirect_bounces :
    ∃ w w', (claimRoom east .quiet "r1" twoNodes) = (w, .ok ⟨"r1", "east", true⟩) ∧
      (eastReports w).owner "r2" = none ∧
      (eastReports w).assigns.get (eastReports w).now "r2" = none ∧
      AllReady routing (eastReports w) ∧
      claimRoom west .quiet "r2" (eastReports w) = (w', .error (roomRemoteError "r2" "east")) ∧
      (claimRoom east .quiet "r2" w').2 = .error (roomRemoteError "r2" "west") := by
  refine ⟨(claimRoom east .quiet "r1" twoNodes).1,
    (claimRoom west .quiet "r2" (eastReports (claimRoom east .quiet "r1" twoNodes).1)).1,
    Prod.ext rfl ?_, ?_, ?_, ?_, Prod.ext rfl ?_, ?_⟩
  · decide +kernel
  · decide +kernel
  · decide +kernel
  · unfold AllReady
    decide +kernel
  · decide +kernel
  · decide +kernel

/-! ## A call that nobody interferes with -/

/-- The room has no owner, and the call gets to its `SET NX`, which is executed: the health flag is
up, the node accepts sessions and its router leaves the room to it. -/
structure Claims (m : Caller) (e : Env) (room : RoomId) (w : World) : Prop where
  free : w.owner room = none
  healthy : (w.locals m.id).healthy = true
  accepts : m.state.acceptsSessions = true
  routed : ∃ target, (selectNode m e room w).2 = .ok target ∧ (target = "" ∨ target = m.id)
  applied : (e.answer .setNX).applied = true

section Calm

variable {m : Caller} {answer : Cmd → Answer} {room : RoomId} {w : World}

/-- The router does not touch the owners. -/
theorem selectNode_calm_owner (m : Caller) (answer : Cmd → Answer) (room : RoomId) (w : World) :
    (selectNode m (.calm answer) room w).1.owner room = w.owner room := by
  have hrecord : ∀ target,
      (recordChoice m (.calm answer) room target w).owner room = w.owner room := by
    intro target
    unfold recordChoice
    dsimp only
    split_ifs <;> rfl
  have hread : (readRouter m (.calm answer) room w).1 = w := rfl
  by_cases hh : (w.locals m.id).healthy = true
  swap
  · simp [selectNode, hh]
  rcases hr : readRouter m (.calm answer) room w with ⟨w₂, reading⟩
  obtain rfl : w₂ = w := by rw [hr] at hread; exact hread
  cases reading with
  | none => simp [selectNode, hh, hr]
  | some r =>
    by_cases hcs : r.cs = []
    · simp [selectNode, hh, hr, hcs]
    rcases he : elect m.id r.cs r.assigned with _ | ⟨target, reason⟩
    · simp [selectNode, hh, hr, hcs, he]
    · cases reason <;> simp [selectNode, hh, hr, hcs, he, hrecord]

/-- `ClaimOwner` changes the record of a room exactly if there was none and the `SET NX` is
executed. -/
theorem claimOwner_calm :
    (claimOwner m (.calm answer) room w).1.owner room = w.owner room ↔
      ¬ (w.owner room = none ∧ (answer .setNX).applied = true) := by
  cases ho : w.owner room with
  | some o =>
    simp only [claimOwner, Env.calm_before, tryClaim_owned _ ho, setNX_owned ho, ho,
      Bool.false_eq_true, if_false]
    split_ifs <;> simp [ho]
  | none =>
    have hnx : w.rooms.setNX room m.id =
        ({ w.rooms with rooms := w.rooms.rooms.insert room m.id }, true) := by
      unfold World.owner at ho
      simp [RedisRooms.setNX, ho]
    cases hans : answer .setNX <;>
      simp [claimOwner, tryClaim, hans, hnx, Answer.applied, World.owner]
    exact ho

theorem claimNew_calm :
    (claimNew m (.calm answer) room w).1.owner room = w.owner room ↔
      ¬ (w.owner room = none ∧ (∃ target, (selectNode m (.calm answer) room w).2 = .ok target ∧
          (target = "" ∨ target = m.id)) ∧ (answer .setNX).applied = true) := by
  have hkeep := selectNode_calm_owner m answer room w
  unfold claimNew
  rcases hsel : selectNode m (.calm answer) room w with ⟨w₁, target | target⟩
  · rw [hsel] at hkeep
    simpa using hkeep
  · rw [hsel] at hkeep
    dsimp only at hkeep ⊢
    split_ifs with hother
    · simp only [Except.ok.injEq, exists_eq_left', hkeep, true_iff]
      tauto
    · have hself : target = "" ∨ target = m.id := by tauto
      simp only [Except.ok.injEq, exists_eq_left', hself, true_and, ← hkeep]
      exact claimOwner_calm

/-- **What a call does to the record of its room**, when nobody else moves: it changes it exactly
if it claims the room. -/
theorem claimRoom_calm :
    (claimRoom m (.calm answer) room w).1.owner room = w.owner room ↔
      ¬ Claims m (.calm answer) room w := by
  unfold claimRoom
  simp only [Env.calm_before, Env.calm_answer]
  by_cases hh : (w.locals m.id).healthy = true
  swap
  · simp only [hh, Bool.not_false, if_true, true_iff]
    exact fun h => hh h.healthy
  by_cases hacc : m.state.acceptsSessions = true
  swap
  · simp only [hh, hacc, Bool.not_true, Bool.not_false, Bool.false_eq_true, if_false, if_true,
      true_iff]
    exact fun h => hacc h.accepts
  obtain ⟨hstate, hnone⟩ := resolveRoom_calm m answer room w
  rcases hres : resolveRoom m (.calm answer) room w with ⟨w₂, owner⟩
  rw [hres] at hstate hnone
  obtain rfl : w₂ = w := hstate
  simp only [hh, hacc, Bool.not_true, Bool.false_eq_true, if_false]
  cases owner with
  | some owner =>
    refine iff_of_true rfl fun h => ?_
    simpa using hnone h.free
  | none =>
    rw [claimNew_calm]
    exact not_congr
      ⟨fun h => ⟨h.1, hh, hacc, h.2.1, h.2.2⟩, fun h => ⟨h.free, h.routed, h.applied⟩⟩

end Calm

end PulseRTC.Cluster.Claiming
