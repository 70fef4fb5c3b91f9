import PulseRTC.Foundations.Runs
import PulseRTC.Cluster.Node

/-!
# The lifecycle of a node

`Start`, the heartbeat goroutine, and `BeginShutdown` followed by `Shutdown` run concurrently on
one node. Each is cut into its atomic steps: a ping and its result, a read of the state under the
lock, the locked write in `setState`, each registry call. `setState` is a locked write, then
`currentSelf` reads the state again, then `Register` publishes what was read; the heartbeat reads
the state, decides and writes it in separate critical sections.

* The node is never `READY` again after `BeginShutdown` in the runs that keep the shutdown steps
  away from a pending promotion or registration (`shutdown_stays`).
* A `READY` node has started its failure detector exactly when its `Start` did not give up on a
  failed ping (`ready_detects_iff`).
-/

namespace PulseRTC.Cluster.Lifecycle

open Foundations Option

/-- The part of the configuration that the lifecycle reads. -/
structure Config where
  enabled : Bool
  redisEnabled : Bool
  redisRequired : Bool
  deriving DecidableEq

/-! ## Places in the code -/

/-- The place of `Start`, before the step named. -/
inductive StartPc
  /-- `Start` has not been called. -/
  | idle
  | ping
  /-- The locked write of `setState(NodeReady)`, then its `currentSelf` and its `Register`. -/
  | write
  | readSelf
  | register (seen : NodeState)
  /-- `hbOnce.Do`, `failureDet.Start`, `go runStartupRecovery`. -/
  | spawn
  | detect
  | sweep
  /-- `hbOnce.Do` after a failed required ping; `Start` returns from there. -/
  | spawnOnly
  | returned
  deriving DecidableEq

/-- The place of the heartbeat goroutine, before the step named. -/
inductive BeatPc
  /-- The goroutine has not been spawned. -/
  | none
  /-- `wasHealthy := state.Healthy()`. -/
  | init
  | select (wasHealthy : Bool)
  | ping (wasHealthy : Bool)
  /-- Healthy again: `currentSelf`, `Register`, then the test `State() == NodeStarting`. -/
  | rejoinRead
  | rejoinRegister (seen : NodeState)
  | testStarting
  /-- The locked write of `setState(NodeReady)`, then its `currentSelf` and its `Register`. -/
  | promote
  | promoteRead
  | promoteRegister (seen : NodeState)
  /-- Healthy: `currentSelf`, `Register`, `Heartbeat`. -/
  | refreshRead
  | refreshRegister (seen : NodeState)
  | refreshBeat
  | reconcile (healthy : Bool)
  | exited
  deriving DecidableEq

/-- The place of `BeginShutdown` and then `Shutdown`, before the step named. -/
inductive ShutPc
  /-- `BeginShutdown` has not been called; next is the locked write of its `setState`. -/
  | idle
  | beginRead
  | beginRegister (seen : NodeState)
  /-- `BeginShutdown` has returned; next is the locked write of `setState(NodeOffline)`. -/
  | begun
  | offlineRead
  | offlineRegister (seen : NodeState)
  | stop
  | unregister
  | close
  | done
  deriving DecidableEq

/-- The node: its state, its own registry record, and the place of each of its calls. -/
structure Node where
  nodeState : NodeState := .starting
  /-- The state in this node's registry record. -/
  record : Option NodeState := some .starting
  /-- `state.Healthy()`. -/
  healthy : Bool
  closed : Bool := false
  stopHB : Bool := false
  failureDet : Bool := false
  startupRecovery : Bool := false
  start : StartPc := .idle
  beat : BeatPc := .none
  shut : ShutPc := .idle
  /-- A record of the node was written after its `Unregister`; no code reads it. -/
  rewritten : Bool := false
  deriving DecidableEq

/-- `Shutdown` has called `Unregister`. -/
def Node.unregistered (n : Node) : Bool := n.shut == .close || n.shut == .done

/-- `BeginShutdown` has returned. -/
def Node.begun (n : Node) : Bool :=
  match n.shut with
  | .idle | .beginRead | .beginRegister _ => false
  | _ => true

/-- The node after `New`: `STARTING` and registered as such. The Redis health flag is false until
a ping succeeds; the in-memory state is always healthy. -/
def init (cfg : Config) : Node := { healthy := !cfg.redisEnabled }

/-- A registry call of the node fails: only a Redis command can, and does once the client is
closed. The callers ignore the error. -/
def Node.registryFails (cfg : Config) (ok : Bool) (n : Node) : Bool :=
  cfg.redisEnabled && (n.closed || !ok)

/-- `Register` of the node itself. -/
def Node.register (cfg : Config) (ok : Bool) (n : Node) (seen : NodeState) : Node :=
  { n with
    record := if n.registryFails cfg ok then n.record else some seen
    rewritten := n.rewritten || (n.unregistered && !n.registryFails cfg ok) }

/-- `Unregister` of the node itself. -/
def Node.unregister (cfg : Config) (ok : Bool) (n : Node) : Node :=
  { n with record := if n.registryFails cfg ok then n.record else none }

/-- The result `ok` of a ping is possible: the in-memory state never fails, a closed client never
succeeds. -/
def Node.canPing (cfg : Config) (n : Node) (ok : Bool) : Bool :=
  if ok then !(n.closed && cfg.redisEnabled) else cfg.redisEnabled

/-- The step taken next, with the result of its ping, or of its registry call where it makes
one. -/
inductive Act
  | start (ok : Bool)
  | startPing (ok : Bool)
  | beat (ok : Bool)
  | beatPing (ok : Bool)
  | tick
  | stop
  | shut (ok : Bool)
  deriving DecidableEq

/-! ## The steps -/

/-- `hbOnce.Do(func() { go c.heartbeatLoop() })`. -/
def Node.spawnBeat (n : Node) : Node :=
  { n with beat := if n.beat = .none then .init else n.beat }

/-- A step of `Start` other than its ping. -/
def startStep (cfg : Config) (ok : Bool) (n : Node) : Option Node :=
  match n.start with
  | .idle => some { n with start := if cfg.enabled then .ping else .write }
  | .ping => none
  | .write => some { n with nodeState := .ready, start := .readSelf }
  | .readSelf => some { n with start := .register n.nodeState }
  | .register seen =>
    some { n.register cfg ok seen with start := if cfg.enabled then .spawn else .returned }
  | .spawn => some { n.spawnBeat with start := .detect }
  | .detect => some { n with failureDet := true, start := .sweep }
  | .sweep => some { n with startupRecovery := true, start := .returned }
  | .spawnOnly => some { n.spawnBeat with start := .returned }
  | .returned => none

/-- The ping of `Start`. -/
def startPingStep (cfg : Config) (n : Node) (ok : Bool) : Option Node :=
  if n.start = .ping ∧ n.canPing cfg ok then
    some { n with
      healthy := ok
      start := if !ok && cfg.redisEnabled && cfg.redisRequired then .spawnOnly else .write }
  else none

/-- A step of the heartbeat goroutine other than its ping and the choice of `select`. -/
def beatStep (cfg : Config) (ok : Bool) (n : Node) : Option Node :=
  match n.beat with
  | .none | .select _ | .ping _ | .exited => none
  | .init => some { n with beat := .select n.healthy }
  | .rejoinRead => some { n with beat := .rejoinRegister n.nodeState }
  | .rejoinRegister seen => some { n.register cfg ok seen with beat := .testStarting }
  | .testStarting =>
    some { n with beat := if n.nodeState = .starting then .promote else .refreshRead }
  | .promote => some { n with nodeState := .ready, beat := .promoteRead }
  | .promoteRead => some { n with beat := .promoteRegister n.nodeState }
  | .promoteRegister seen => some { n.register cfg ok seen with beat := .refreshRead }
  | .refreshRead => some { n with beat := .refreshRegister n.nodeState }
  | .refreshRegister seen => some { n.register cfg ok seen with beat := .refreshBeat }
  -- `Heartbeat` extends the life of a record that is there and creates none
  | .refreshBeat => some { n with beat := .reconcile true }
  -- `reconcilePeers` registers the records of other nodes
  | .reconcile healthy => some { n with beat := .select healthy }

/-- The ping of a heartbeat iteration. -/
def beatPingStep (cfg : Config) (n : Node) (ok : Bool) : Option Node :=
  match n.beat with
  | .ping wasHealthy =>
    if n.canPing cfg ok then
      some { n with
        healthy := ok
        beat := if !ok then .reconcile false
          else if wasHealthy then .refreshRead else .rejoinRead }
    else none
  | _ => none

/-- A step of `BeginShutdown` and then `Shutdown`. -/
def shutStep (cfg : Config) (ok : Bool) (n : Node) : Option Node :=
  match n.shut with
  | .idle => some { n with nodeState := .shuttingDown, shut := .beginRead }
  | .beginRead => some { n with shut := .beginRegister n.nodeState }
  | .beginRegister seen => some { n.register cfg ok seen with shut := .begun }
  | .begun => some { n with nodeState := .offline, shut := .offlineRead }
  | .offlineRead => some { n with shut := .offlineRegister n.nodeState }
  | .offlineRegister seen => some { n.register cfg ok seen with shut := .stop }
  | .stop => some { n with stopHB := true, shut := .unregister }
  | .unregister => some { n.unregister cfg ok with shut := .close }
  | .close => some { n with closed := true, shut := .done }
  | .done => none

/-- One step of the node. When a tick and the closed stop channel are both ready, `select` may
take either. -/
def step (cfg : Config) (n : Node) : Act → Option Node
  | .start ok => startStep cfg ok n
  | .startPing ok => startPingStep cfg n ok
  | .beat ok => beatStep cfg ok n
  | .beatPing ok => beatPingStep cfg n ok
  | .tick =>
    match n.beat with
    | .select wasHealthy => some { n with beat := .ping wasHealthy }
    | _ => none
  | .stop =>
    match n.beat with
    | .select _ => if n.stopHB then some { n with beat := .exited } else none
    | _ => none
  | .shut ok => shutStep cfg ok n

/-! ## What a step can do -/

/-- `Start` is past its locked write of `READY`, or returns without one. -/
@[simp] def StartPc.written : StartPc → Bool
  | .idle | .ping | .write => false
  | _ => true

/-- `Start` has no registration ahead. -/
@[simp] def StartPc.registered : StartPc → Bool
  | .idle | .ping | .write | .readSelf | .register _ => false
  | _ => true

/-- The heartbeat iteration is past a successful ping and has a registration ahead. -/
@[simp] def BeatPc.registering : BeatPc → Bool
  | .rejoinRead | .rejoinRegister _ | .testStarting | .promote | .promoteRead
  | .promoteRegister _ | .refreshRead | .refreshRegister _ => true
  | _ => false

/-- What a step of `Start` can do to the rest of the node. -/
structure StartEffect (n n' : Node) : Prop where
  shut : n'.shut = n.shut
  beat : n'.beat = n.beat ∨ n'.beat = .init
  written : n.start.written → n'.start.written ∧ n'.nodeState = n.nodeState
  registered : n.start.registered → n'.start.registered ∧ n'.rewritten = n.rewritten
  rewritten : n.unregistered = false → n'.rewritten = n.rewritten

/-- What a step of the heartbeat goroutine can do to the rest of the node. -/
structure BeatEffect (n : Node) (a : Act) (n' : Node) : Prop where
  shut : n'.shut = n.shut
  start : n'.start = n.start
  failureDet : n'.failureDet = n.failureDet
  startupRecovery : n'.startupRecovery = n.startupRecovery
  spawned : n.beat ≠ .none
  nodeState : n.beat ≠ .promote → n'.nodeState = n.nodeState
  promote : n'.beat = .promote → n.nodeState = .starting
  registering : n'.beat.registering → n.beat.registering ∨ a = .beatPing true
  rewritten : n.unregistered = false ∨ ¬ n.beat.registering → n'.rewritten = n.rewritten

variable {cfg : Config} {ok : Bool} {n n' : Node} {a : Act} {as : List Act}

theorem startStep_effect (h : startStep cfg ok n = some n') : StartEffect n n' := by
  unfold startStep at h
  cases hs : n.start <;> simp only [hs, some.injEq, reduceCtorEq] at h <;> subst h
  case register seen =>
    constructor <;> simp [hs, Node.register]
    · cases cfg.enabled <;> rfl
    · exact fun hun hun' => absurd hun' (by simp [hun])
  case spawn | spawnOnly =>
    constructor <;> simp [hs, Node.spawnBeat]
    by_cases hb : n.beat = .none <;> simp [hb]
  all_goals constructor <;> simp [hs]

theorem startPingStep_effect (h : startPingStep cfg n ok = some n') : StartEffect n n' := by
  unfold startPingStep at h
  split at h
  next hp =>
    cases h
    constructor <;> simp [hp.1]
  next => exact absurd h (by simp)

theorem beatStep_effect (h : beatStep cfg ok n = some n') : BeatEffect n (.beat ok) n' := by
  unfold beatStep at h
  cases hb : n.beat <;> simp only [hb, some.injEq, reduceCtorEq] at h <;> subst h
  case rejoinRegister seen | promoteRegister seen | refreshRegister seen =>
    constructor <;> simp [hb, Node.register]
    exact fun hun hun' => absurd hun' (by simp [hun])
  all_goals constructor <;> simp [hb]

theorem beatPingStep_effect (h : beatPingStep cfg n ok = some n') :
    BeatEffect n (.beatPing ok) n' := by
  unfold beatPingStep at h
  split at h
  next was hb =>
    split at h
    · cases h
      constructor <;> simp [hb]
      · cases ok <;> cases was <;> simp
      · cases ok <;> simp
    · exact absurd h (by simp)
  next => exact absurd h (by simp)

/-- The choice of `select`. -/
theorem select_effect (ha : a = .tick ∨ a = .stop) (h : step cfg n a = some n') :
    BeatEffect n a n' := by
  rcases ha with rfl | rfl <;> unfold step at h <;> cases hb : n.beat <;> simp [hb] at h
  · subst h
    constructor <;> simp [hb]
  · obtain ⟨-, rfl⟩ := h
    constructor <;> simp [hb]

/-- The actions of the heartbeat goroutine. -/
def Act.ofBeat : Act → Bool
  | .beat _ | .beatPing _ | .tick | .stop => true
  | _ => false

theorem beat_effect (ha : a.ofBeat) (h : step cfg n a = some n') : BeatEffect n a n' := by
  cases a with
  | beat ok => exact beatStep_effect h
  | beatPing ok => exact beatPingStep_effect h
  | tick => exact select_effect (.inl rfl) h
  | stop => exact select_effect (.inr rfl) h
  | start ok | startPing ok | shut ok => exact absurd ha (by simp [Act.ofBeat])

/-! ## Shutdown -/

/-- The condition on the steps under which shutdown is final. `BeginShutdown` writes its state
when neither `Start` nor the heartbeat has a `READY` still to write; `Unregister` comes when
neither has a registration still to make; and no ping of the heartbeat succeeds after it. -/
def Orderly (n : Node) : Act → Prop
  | .shut _ =>
    (n.shut = .idle → n.start.written ∧ n.beat ≠ .promote) ∧
    (n.shut = .unregister → n.start.registered ∧ ¬ n.beat.registering)
  | .beatPing ok => ok → ¬ n.unregistered
  | _ => True

instance decidableOrderly (n : Node) (a : Act) : Decidable (Orderly n a) := by
  cases a <;> unfold Orderly <;> infer_instance

/-- What shutdown has settled: past the write of `BeginShutdown` nothing can write `READY` any
more, past `Unregister` nothing can register. -/
structure Settled (n : Node) : Prop where
  down : n.shut ≠ .idle → (n.nodeState = .shuttingDown ∨ n.nodeState = .offline) ∧
    n.start.written ∧ n.beat ≠ .promote
  gone : n.unregistered → n.start.registered ∧ ¬ n.beat.registering
  kept : n.rewritten = false

theorem settled_init (cfg : Config) : Settled (init cfg) where
  down h := absurd rfl h
  gone h := by simp [init, Node.unregistered] at h
  kept := rfl

theorem unregistered_congr (h : n'.shut = n.shut) :
    n'.unregistered = n.unregistered := by
  simp [Node.unregistered, h]

theorem StartEffect.settled (he : StartEffect n n') (hn : Settled n) :
    Settled n' where
  down hidle := by
    obtain ⟨hst, hw, hp⟩ := hn.down (he.shut ▸ hidle)
    obtain ⟨hw', hsame⟩ := he.written hw
    refine ⟨hsame ▸ hst, hw', ?_⟩
    rcases he.beat with hb | hb <;> simp [hb, hp]
  gone hun := by
    obtain ⟨hr, hb⟩ := hn.gone (unregistered_congr he.shut ▸ hun)
    refine ⟨(he.registered hr).1, ?_⟩
    rcases he.beat with hb' | hb'
    · rwa [hb']
    · simp [hb']
  kept := by
    cases hun : n.unregistered with
    | false => rw [he.rewritten hun, hn.kept]
    | true => rw [(he.registered (hn.gone hun).1).2, hn.kept]

theorem BeatEffect.settled (he : BeatEffect n a n') (ho : Orderly n a) (hn : Settled n) :
    Settled n' where
  down hidle := by
    obtain ⟨hst, hw, hp⟩ := hn.down (he.shut ▸ hidle)
    refine ⟨he.nodeState hp ▸ hst, he.start ▸ hw, ?_⟩
    intro hp'
    -- a promotion follows a read of `STARTING`, which the state no longer is
    rw [he.promote hp'] at hst
    simp at hst
  gone hun := by
    rw [unregistered_congr he.shut] at hun
    obtain ⟨hr, hb⟩ := hn.gone hun
    refine ⟨he.start ▸ hr, ?_⟩
    intro hb'
    rcases he.registering hb' with h | rfl
    · exact hb h
    · exact ho rfl hun
  kept := by
    cases hun : n.unregistered with
    | false => rw [he.rewritten (.inl hun), hn.kept]
    | true => rw [he.rewritten (.inr (hn.gone hun).2), hn.kept]

theorem shutStep_settled (hn : Settled n) (ho : Orderly n (.shut ok))
    (h : shutStep cfg ok n = some n') : Settled n' := by
  obtain ⟨hdown, hgone, hkept⟩ := hn
  obtain ⟨hbegin, hunreg⟩ := ho
  unfold shutStep at h
  cases hs : n.shut <;> simp only [hs, some.injEq, reduceCtorEq] at h <;> subst h <;>
    constructor <;> simp_all [Node.unregistered, Node.register, Node.unregister]

theorem step_settled (hn : Settled n) (ho : Orderly n a) (h : step cfg n a = some n') :
    Settled n' := by
  cases a with
  | start ok => exact (startStep_effect h).settled hn
  | startPing ok => exact (startPingStep_effect h).settled hn
  | beat ok | beatPing ok | tick | stop => exact (beat_effect rfl h).settled ho hn
  | shut ok => exact shutStep_settled hn ho h

/-- **Shutdown is final** in every run whose steps are `Orderly`: once `BeginShutdown` has
returned the node is `SHUTTING_DOWN` or `OFFLINE`, and its record is not written after
`Unregister`. -/
theorem shutdown_stays (cfg : Config) (as : List Act) (n : Node)
    (hrun : run (step cfg) (init cfg) as = some n)
    (ho : Along (step cfg) Orderly (init cfg) as) :
    (n.begun → n.nodeState ≠ .starting ∧ n.nodeState ≠ .ready ∧ n.nodeState ≠ .active) ∧
      n.rewritten = false := by
  have hn : Settled n :=
    run_invariant (fun _ _ _ hs ho' hst => step_settled hs ho' hst) (settled_init cfg) ho hrun
  refine ⟨fun hb => ?_, hn.kept⟩
  have hidle : n.shut ≠ .idle := fun h => by simp [Node.begun, h] at hb
  rcases (hn.down hidle).1 with h | h <;> simp [h]

/-- A node with the cluster on and Redis required. -/
def required : Config := ⟨true, true, true⟩

/-- `Start`, with a ping that succeeds. -/
def startRun : List Act := [Act.start true, Act.startPing true] ++ List.replicate 6 (Act.start true)

/-- A start, one heartbeat and a shutdown, one after the other. -/
def turnRun : List Act :=
  startRun ++ [Act.beat true, Act.tick, Act.beatPing true] ++ List.replicate 4 (Act.beat true) ++
    List.replicate 8 (Act.shut true) ++
    [Act.tick, Act.beatPing false, Act.beat true, Act.stop, Act.shut true]

/-- The run in turn keeps the orderly condition, and its shutdown stays. -/
theorem shutdown_stays_in_turn :
    ∃ n ∈ run (step required) (init required) turnRun,
      n.begun ∧ n.nodeState ≠ .ready ∧ n.rewritten = false := by
  refine exists_mem_and (by decide +kernel) fun n hrun hb => ?_
  obtain ⟨hstate, hkept⟩ := shutdown_stays required turnRun n hrun (by decide +kernel)
  exact ⟨(hstate hb).2.1, hkept⟩

/-- A required ping fails, the next heartbeat goes up to its write of `READY`, and a shutdown
begins. -/
def promotedRun : List Act :=
  [Act.start true, Act.startPing false, Act.start true, Act.beat true, Act.tick,
    Act.beatPing true] ++ List.replicate 3 (Act.beat true) ++ List.replicate 3 (Act.shut true) ++
    [Act.beat true]

/-- A heartbeat is past its ping when the node shuts down. -/
def reregisteredRun : List Act :=
  startRun ++ [Act.beat true, Act.tick, Act.beatPing true, Act.beat true] ++
    List.replicate 8 (Act.shut true) ++ [Act.beat true]

/-- The heartbeat that has read `STARTING` before `BeginShutdown` writes `READY` after it has
returned, and one past its ping registers the node after `Unregister`. -/
theorem shutdown_undone :
    (∃ n ∈ run (step required) (init required) promotedRun, n.begun ∧ n.nodeState = .ready) ∧
    (∃ n ∈ run (step required) (init required) reregisteredRun,
      n.unregistered ∧ n.rewritten ∧ n.record = some .ready) := by
  decide +kernel

/-! ## Taking part in recovery -/

/-- `Start` returned early: its ping failed and Redis is required. -/
def GaveUp (cfg : Config) (as : List Act) : Prop :=
  cfg.redisEnabled ∧ cfg.redisRequired ∧ .startPing false ∈ as

/-- What `Start` has launched, by its place. -/
def Launched (cfg : Config) (as : List Act) (n : Node) : Prop :=
  match n.start with
  | .idle | .ping =>
    .startPing false ∉ as ∧ n.nodeState ≠ .ready ∧ n.beat = .none ∧
      n.failureDet = false ∧ n.startupRecovery = false
  | .write | .readSelf | .register _ | .spawn | .detect => ¬ GaveUp cfg as
  | .sweep => ¬ GaveUp cfg as ∧ n.failureDet
  | .spawnOnly => GaveUp cfg as ∧ n.failureDet = false ∧ n.startupRecovery = false
  | .returned => (n.failureDet ∧ n.startupRecovery ↔ ¬ GaveUp cfg as)

theorem launched_init (cfg : Config) : Launched cfg [] (init cfg) := by
  simp [Launched, init]

theorem gaveUp_snoc (ha : a ≠ .startPing false) :
    GaveUp cfg (as ++ [a]) ↔ GaveUp cfg as := by
  simp [GaveUp, ha.symm]

theorem startStep_launched (hen : cfg.enabled = true) (hn : Launched cfg as n)
    (h : startStep cfg ok n = some n') :
    Launched cfg (as ++ [.start ok]) n' := by
  unfold startStep at h
  cases hs : n.start <;> simp only [hs, some.injEq, reduceCtorEq] at h <;> subst h <;>
    simp_all [Launched, gaveUp_snoc, Node.spawnBeat]

theorem startPingStep_launched (hn : Launched cfg as n) (h : startPingStep cfg n ok = some n') :
    Launched cfg (as ++ [.startPing ok]) n' := by
  unfold startPingStep at h
  split at h
  next hp =>
    cases h
    simp only [Launched, hp.1] at hn
    cases ok
    · cases hen : cfg.redisEnabled <;> cases hreq : cfg.redisRequired <;>
        simp_all [Launched, GaveUp]
    · simp_all [Launched, GaveUp]
  next => exact absurd h (by simp)

/-- A step of another call leaves `Start` and what it launched alone, and makes the node `READY`
only if the heartbeat runs. -/
theorem launched_of_other (hn : Launched cfg as n) (ha : a ≠ .startPing false)
    (hstart : n'.start = n.start) (hfd : n'.failureDet = n.failureDet)
    (hsr : n'.startupRecovery = n.startupRecovery)
    (hbeat : n.beat = .none → n'.beat = .none ∧ (n.nodeState ≠ .ready → n'.nodeState ≠ .ready)) :
    Launched cfg (as ++ [a]) n' := by
  unfold Launched at hn ⊢
  rw [hstart]
  cases hs : n.start <;> simp only [hs] at hn ⊢ <;>
    simp_all [gaveUp_snoc, ha.symm]

theorem step_launched (hen : cfg.enabled = true) (hn : Launched cfg as n)
    (h : step cfg n a = some n') :
    Launched cfg (as ++ [a]) n' := by
  cases a with
  | start ok => exact startStep_launched hen hn h
  | startPing ok => exact startPingStep_launched hn h
  | beat ok | beatPing ok | tick | stop =>
    have he := beat_effect rfl h
    exact launched_of_other hn (by simp) he.start he.failureDet he.startupRecovery
      fun hnone => absurd hnone he.spawned
  | shut ok =>
    simp only [step, shutStep] at h
    cases hs : n.shut <;> simp only [hs, some.injEq, reduceCtorEq] at h <;> subst h <;>
      exact launched_of_other hn (by simp) rfl rfl rfl
        fun hnone => ⟨hnone, by simp [Node.register, Node.unregister]⟩

/-- **A `READY` node takes part in failure recovery** exactly when its `Start` did not give up: a
node that was promoted by the heartbeat after a failed required ping has neither started its
failure detector nor launched its startup sweep. -/
theorem ready_detects_iff (cfg : Config) (hen : cfg.enabled = true) (as : List Act) (n : Node)
    (hrun : run (step cfg) (init cfg) as = some n) (hready : n.nodeState = .ready)
    (hidle : n.start = .idle ∨ n.start = .returned) :
    n.failureDet ∧ n.startupRecovery ↔
      ¬ (cfg.redisEnabled ∧ cfg.redisRequired ∧ .startPing false ∈ as) := by
  have hn : Launched cfg as n :=
    run_history_always (launched_init cfg) (fun _ _ _ _ _ hn hst => step_launched hen hn hst) hrun
  unfold Launched at hn
  rcases hidle with hs | hs <;> simp only [hs] at hn
  · exact absurd hready hn.2.1
  · exact hn

/-- A start whose ping succeeds. -/
theorem ready_detects_iff_pinged :
    ∃ n ∈ run (step required) (init required) startRun, n.failureDet ∧ n.startupRecovery := by
  obtain ⟨n, hrun, hready, hret⟩ :
      ∃ n ∈ run (step required) (init required) startRun,
        n.nodeState = .ready ∧ n.start = .returned := by
    decide +kernel
  exact ⟨n, hrun, (ready_detects_iff required rfl startRun n hrun hready (.inr hret)).2 (by decide)⟩

/-- Redis is required and not there when `Start` pings: the heartbeat makes the node `READY`
later, and nothing starts the failure detector or the sweep. -/
theorem ready_undetecting :
    ∃ n ∈ run (step required) (init required)
        [.start true, .startPing false, .start true, .beat true, .tick, .beatPing true,
          .beat true, .beat true, .beat true, .beat true],
      n.nodeState = .ready ∧ n.start = .returned ∧
        n.failureDet = false ∧ n.startupRecovery = false := by
  decide +kernel

end PulseRTC.Cluster.Lifecycle
