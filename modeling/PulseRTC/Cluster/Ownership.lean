import PulseRTC.Foundations.Runs
import PulseRTC.Cluster.RoomLocator

/-!
# Concurrent calls on the owner of a room

Any number of nodes call `ClaimOwner`, `ReleaseOwner` and `RecoverOwner` on one room at the same
time. A call is invoked, runs one atomic step after another (one critical section of
`InMemoryRoomLocator`, one command of `redisRoomLocator`) and returns; the steps of different
calls interleave freely.

* `Effect` says what an atomic step can do to the owner and the generation of the room, and what
  the call returns; it is the specification both stores meet (`inMemory`, `redis`).
* `OwnershipLinear` collects the guarantees of the calls, over every interleaving.
-/

namespace PulseRTC.Cluster.Ownership

open Foundations Function Option Prod

/-! ## Calls and their atomic steps -/

/-- A call on the room. -/
inductive Call
  | claim (node : NodeId)
  | release (node : NodeId)
  | recover (oldOwner newOwner : NodeId)
  deriving DecidableEq

/-- What a call returns. -/
inductive Reply
  | claim (owner : NodeId) (claimed : Bool)
  | released (released : Bool)
  | recovered (result : RecoverResult)
  deriving DecidableEq

/-- The place of a call: before the atomic step named, or returned. `claimGet` and `claimRetry`
are the second and third command of the Redis claim, `recoverGet` the read of the owner that a
Redis conflict reports. -/
inductive Pc
  | claim (node : NodeId)
  | claimGet (node : NodeId)
  | claimRetry (node : NodeId)
  | release (node : NodeId)
  | recover (oldOwner newOwner : NodeId)
  | recoverGet (newOwner : NodeId) (generation : ℕ)
  | returned (reply : Reply)
  deriving DecidableEq

/-- How many atomic steps a call has at most before it. -/
def Pc.left : Pc → ℕ
  | .claim _ => 3
  | .claimGet _ | .recover _ _ => 2
  | .claimRetry _ | .release _ | .recoverGet _ _ => 1
  | .returned _ => 0

/-- The first place of a call. -/
def Call.start : Call → Pc
  | .claim node => .claim node
  | .release node => .release node
  | .recover old new => .recover old new

/-- The reply of a successful recovery. -/
def Reply.IsRecoverOK : Reply → Prop
  | .recovered r => r.outcome = .ok
  | _ => False

/-- One for a reply that reports a takeover. -/
def Reply.takeover : Reply → ℕ
  | .recovered r => if r.outcome = .ok then 1 else 0
  | _ => 0

/-- One for a call that has just returned a takeover. -/
def Pc.takeover : Pc → ℕ
  | .returned reply => reply.takeover
  | _ => 0

/-- One atomic step of a call on the in-memory locator: the whole call. -/
def atomicInMemory (room : RoomId) (l : InMemoryRoomLocator) :
    Pc → Option (InMemoryRoomLocator × Pc)
  | .claim node =>
    some ((l.claimOwner room node).1,
      .returned (.claim (l.claimOwner room node).2.1 (l.claimOwner room node).2.2))
  | .release node =>
    some ((l.releaseOwner room node).1, .returned (.released (l.releaseOwner room node).2))
  | .recover old new =>
    some ((l.recoverOwner room old new).1, .returned (.recovered (l.recoverOwner room old new).2))
  | .claimGet _ | .claimRetry _ | .recoverGet _ _ | .returned _ => none

/-- One atomic step of a call on the Redis locator: one command. -/
def atomicRedis (room : RoomId) (s : RedisRooms) : Pc → Option (RedisRooms × Pc)
  | .claim node =>
    match s.setNX room node with
    | (s', true) => some (s', .returned (.claim node true))
    | (s', false) => some (s', .claimGet node)
  | .claimGet node =>
    match s.get room with
    | some cur => some (s, .returned (.claim cur false))
    | none => some (s, .claimRetry node)
  | .claimRetry node =>
    match s.setNX room node with
    | (s', true) => some (s', .returned (.claim node true))
    | (s', false) => some (s', .returned (.claim "" false))
  | .release node =>
    match s.compareDelete room node with
    | (s', released) => some (s', .returned (.released released))
  | .recover old new =>
    match s.recoverOwnerScript room old new with
    | (s', 3, generation) => some (s', .recoverGet new generation)
    | (s', code, generation) =>
      some (s', .returned (.recovered (RedisRooms.recoverResult new code generation none)))
  | .recoverGet new generation =>
    some (s, .returned (.recovered (RedisRooms.recoverResult new 3 generation (s.getOwner room))))
  | .returned _ => none

/-! ## What an atomic step can do -/

/-- `Effect o g pc o' g' pc'`: an atomic step at `pc` finds owner `o` and generation `g`, and
leaves owner `o'`, generation `g'` and the call at `pc'`. -/
inductive Effect : Option NodeId → ℕ → Pc → Option NodeId → ℕ → Pc → Prop
  | claimed (node : NodeId) (g : ℕ) (pc : Pc) (h : pc = .claim node ∨ pc = .claimRetry node) :
    Effect none g pc (some node) g (.returned (.claim node true))
  | occupied (node cur : NodeId) (g : ℕ) (pc' : Pc)
      (h : pc' = .claimGet node ∨ pc' = .returned (.claim cur false)) :
    Effect (some cur) g (.claim node) (some cur) g pc'
  | read (node cur : NodeId) (g : ℕ) :
    Effect (some cur) g (.claimGet node) (some cur) g (.returned (.claim cur false))
  | vanished (node : NodeId) (g : ℕ) : Effect none g (.claimGet node) none g (.claimRetry node)
  | gaveUp (node cur : NodeId) (g : ℕ) :
    Effect (some cur) g (.claimRetry node) (some cur) g (.returned (.claim "" false))
  | released (node : NodeId) (g g' : ℕ) :
    Effect (some node) g (.release node) none g' (.returned (.released true))
  | notOwner (o : Option NodeId) (node : NodeId) (g : ℕ) (h : o ≠ some node) :
    Effect o g (.release node) o g (.returned (.released false))
  | recovered (old new : NodeId) (g : ℕ) (h : old ≠ new) :
    Effect (some old) g (.recover old new) (some new) (g + 1)
      (.returned (.recovered ⟨.ok, new, g + 1⟩))
  | already (old new : NodeId) (g : ℕ) :
    Effect (some new) g (.recover old new) (some new) g
      (.returned (.recovered ⟨.already, new, g⟩))
  | conflict (old new cur : NodeId) (g : ℕ) (pc' : Pc) (hold : cur ≠ old) (hnew : cur ≠ new)
      (h : pc' = .recoverGet new g ∨ pc' = .returned (.recovered ⟨.conflict, cur, g⟩)) :
    Effect (some cur) g (.recover old new) (some cur) g pc'
  | missing (old new : NodeId) (g : ℕ) :
    Effect none g (.recover old new) none g (.returned (.recovered { outcome := .failed }))
  | conflictRead (o : Option NodeId) (new : NodeId) (g g₀ : ℕ) :
    Effect o g (.recoverGet new g₀) o g (.returned (.recovered ⟨.conflict, o.getD "", g₀⟩))

variable {reply : Reply} {call : Call}

namespace Effect

variable {o o' : Option NodeId} {g g' : ℕ} {pc pc' : Pc} {node old new : NodeId}

theorem owner_of_claim (h : Effect o g pc o' g' (.returned (.claim node true))) :
    o' = some node := by
  cases h with
  | claimed => rfl
  | occupied _ _ _ _ h => simp at h
  | conflict _ _ _ _ _ _ _ h => simp at h

theorem owner_of_recover {r : RecoverResult} (hok : r.outcome = .ok)
    (h : Effect o g (.recover old new) o' g' (.returned (.recovered r))) : o' = some new := by
  cases h with
  | recovered | already => rfl
  | conflict _ _ _ _ _ _ _ h =>
    obtain rfl : r = _ := by simpa using h
    cases hok
  | missing => cases hok

/-- A step leaves the owner in place, releases it, or takes the room over from it. -/
theorem owner_kept (h : Effect (some node) g pc o' g' pc') :
    o' = some node ∨ (pc = .release node ∧ pc' = .returned (.released true)) ∨
      ∃ new r, pc = .recover node new ∧ pc' = .returned (.recovered r) ∧ r.outcome = .ok := by
  cases h with
  | released => exact .inr (.inl ⟨rfl, rfl⟩)
  | recovered _ new _ _ => exact .inr (.inr ⟨new, _, rfl, rfl, rfl⟩)
  | occupied | read | gaveUp | notOwner | already | conflict | conflictRead => exact .inl rfl

variable {n : NodeId}

/-- A claim that runs while `node` owns the room finds `node`. -/
theorem claim_served (h : Effect (some node) g pc o' g' pc')
    (hpc : pc = .claim n ∨ pc = .claimGet n) :
    pc' = .claimGet n ∨ pc' = .returned (.claim node false) := by
  rcases hpc with rfl | rfl
  · cases h with
    | occupied _ _ _ _ h => exact h
  · cases h with
    | read => exact .inr rfl

/-- A release by another node than the owner returns `false`. -/
theorem release_refused (h : Effect (some node) g (.release n) o' g' pc')
    (hn : n ≠ node) : pc' = .returned (.released false) := by
  cases h with
  | released => exact absurd rfl hn
  | notOwner => rfl

/-- A step brings the call closer to its return. -/
theorem left_lt (h : Effect o g pc o' g' pc') : pc'.left < pc.left := by
  cases h with
  | claimed _ _ _ h => rcases h with rfl | rfl <;> simp [Pc.left]
  | occupied _ _ _ _ h | conflict _ _ _ _ _ _ _ h => rcases h with rfl | rfl <;> simp [Pc.left]
  | _ => simp [Pc.left]

/-- A call that has returned runs no further step. -/
theorem not_returned : ¬ Effect o g (.returned reply) o' g' pc' := by
  intro h
  cases h with
  | claimed _ _ _ h => simp at h

/-- From an unowned room only a claim leads on; from an owned one the generation grows exactly
with a takeover. -/
theorem generation_step (h : Effect o g pc o' g' pc')
    (hclaim : ∀ n, pc' ≠ .returned (.claim n true)) :
    o' = none ∨ (o ≠ none ∧ g' = g + pc'.takeover) := by
  cases h with
  | claimed node => exact absurd rfl (hclaim node)
  | vanished | released | missing => exact .inl rfl
  | occupied _ _ _ _ h | conflict _ _ _ _ _ _ _ h =>
    rcases h with rfl | rfl <;> exact .inr ⟨by simp, rfl⟩
  | read | gaveUp | already | recovered => exact .inr ⟨by simp, rfl⟩
  | notOwner | conflictRead =>
    cases o with
    | none => exact .inl rfl
    | some => exact .inr ⟨by simp, rfl⟩

/-- A step of a recovery that does not return `RecoverOK` changes nothing. -/
theorem recover_unchanged (h : Effect o g pc o' g' pc')
    (hpc : (∃ old new, pc = .recover old new) ∨ ∃ new g, pc = .recoverGet new g)
    (hok : ∀ reply, pc' = .returned reply → ¬ reply.IsRecoverOK) : o' = o ∧ g' = g := by
  cases h with
  | recovered => exact absurd rfl (hok _ rfl)
  | released => simp at hpc
  | claimed _ _ _ h => rcases h with rfl | rfl <;> simp at hpc
  | _ => exact ⟨rfl, rfl⟩

/-- The first recovery step from the owner succeeds. -/
theorem recover_first (h : Effect (some old) g (.recover old new) o' g' pc') (hne : new ≠ old) :
    o' = some new ∧ pc' = .returned (.recovered ⟨.ok, new, g'⟩) := by
  cases h with
  | recovered => exact ⟨rfl, rfl⟩
  | already => exact absurd rfl hne
  | conflict _ _ _ _ _ hold => exact absurd rfl hold

/-- A recovery step that finds a third owner does not succeed. -/
theorem recover_late (h : Effect (some node) g pc o' g' pc') (hold : node ≠ old) (hnew : node ≠ new)
    (hpc : pc = .recover old new ∨ ∃ g₀, pc = .recoverGet new g₀) :
    o' = some node ∧ ((∃ g₀, pc' = .recoverGet new g₀) ∨
      ∃ reply, pc' = .returned reply ∧ ¬ reply.IsRecoverOK) := by
  rcases hpc with rfl | ⟨g₀, rfl⟩
  · cases h with
    | recovered => exact absurd rfl hold
    | already => exact absurd rfl hnew
    | conflict _ _ _ _ _ _ _ h =>
      rcases h with rfl | rfl
      · exact ⟨rfl, .inl ⟨_, rfl⟩⟩
      · exact ⟨rfl, .inr ⟨_, rfl, by simp [Reply.IsRecoverOK]⟩⟩
  · cases h with
    | conflictRead => exact ⟨rfl, .inr ⟨_, rfl, by simp [Reply.IsRecoverOK]⟩⟩

end Effect

/-- A store of room owners whose atomic steps have the effects above, and which runs a call from
its first place on until it returns. -/
structure Store where
  State : Type
  owner : RoomId → State → Option NodeId
  gen : RoomId → State → ℕ
  atomic : RoomId → State → Pc → Option (State × Pc)
  sound : ∀ room s pc s' pc', atomic room s pc = some (s', pc') →
    Effect (owner room s) (gen room s) pc (owner room s') (gen room s') pc'
  /-- The places of a call that has not returned. -/
  Runs : Pc → Prop
  start : ∀ call : Call, Runs call.start
  enabled : ∀ room s pc, Runs pc → (atomic room s pc).isSome
  goesOn : ∀ room s pc s' pc', Runs pc → atomic room s pc = some (s', pc') →
    Runs pc' ∨ ∃ reply, pc' = .returned reply

theorem atomicInMemory_sound (room : RoomId) (l : InMemoryRoomLocator) (pc : Pc)
    (l' : InMemoryRoomLocator) (pc' : Pc) (h : atomicInMemory room l pc = some (l', pc')) :
    Effect (l.getOwner room) (l.gen room) pc (l'.getOwner room) (l'.gen room) pc' := by
  cases pc with
  | claimGet | claimRetry | recoverGet | returned => simp [atomicInMemory] at h
  | claim node =>
    cases h
    unfold InMemoryRoomLocator.claimOwner InMemoryRoomLocator.getOwner
    split
    · next cur howner =>
      rw [howner]
      exact .occupied node cur _ _ (.inr rfl)
    · next howner =>
      rw [howner, Finmap.lookup_insert]
      exact .claimed node _ _ (.inl rfl)
  | release node =>
    cases h
    unfold InMemoryRoomLocator.releaseOwner InMemoryRoomLocator.getOwner
    split_ifs with howner
    · rw [howner, InMemoryRoomLocator.removeOwner, Finmap.lookup_erase]
      exact .released node _ _
    · exact .notOwner _ node _ howner
  | recover old new =>
    cases h
    unfold InMemoryRoomLocator.recoverOwner InMemoryRoomLocator.getOwner
    split
    · next howner =>
      rw [howner]
      exact .missing old new _
    · next cur howner =>
      split_ifs with hnew hold
      · rw [howner, hnew]
        exact .already old new _
      · rw [howner]
        exact .conflict old new cur _ _ hold hnew (.inr rfl)
      · obtain rfl := not_not.1 hold
        simpa [InMemoryRoomLocator.gen, howner] using Effect.recovered cur new (l.gen room) hnew

variable {node old : NodeId} {pc : Pc} {id : ℕ} {as : List Act} {ids : Finset ℕ} {new : ℕ → NodeId}

/-- `SETNX` on a missing key, in either place of a claim. -/
theorem setNX_claimed {room : RoomId} {s : RedisRooms} (howner : s.rooms.lookup room = none)
    (hpc : pc = .claim node ∨ pc = .claimRetry node) :
    Effect (s.getOwner room) (s.gen room) pc
      (RedisRooms.getOwner { s with rooms := s.rooms.insert room node } room)
      (RedisRooms.gen { s with rooms := s.rooms.insert room node } room)
      (.returned (.claim node true)) := by
  have hbefore : s.getOwner room = none := howner
  have hafter : RedisRooms.getOwner { s with rooms := s.rooms.insert room node } room =
      some node := by
    simp
  rw [hbefore, hafter]
  exact Effect.claimed node (s.gen room) pc hpc

/-- The recovery script. -/
theorem recoverOwnerScript_sound {room : RoomId} {s s' : RedisRooms} {new : NodeId} {pc' : Pc}
    (h : atomicRedis room s (.recover old new) = some (s', pc')) :
    Effect (s.getOwner room) (s.gen room) (.recover old new) (s'.getOwner room) (s'.gen room)
      pc' := by
  cases howner : s.rooms.lookup room with
  | none =>
    simp only [atomicRedis, RedisRooms.recoverOwnerScript, howner, RedisRooms.recoverResult] at h
    cases h
    simpa [howner] using Effect.missing old new (s.gen room)
  | some cur =>
    simp only [atomicRedis, RedisRooms.recoverOwnerScript, howner] at h
    split_ifs at h with hnew hold
    · obtain ⟨rfl, rfl⟩ := by simpa [RedisRooms.recoverResult] using h
      simpa [howner, hnew] using
        Effect.already old new (s.gen room)
    · cases h
      simpa [howner] using
        Effect.conflict old new cur (s.gen room) _ hold hnew (.inl rfl)
    · obtain ⟨rfl, rfl⟩ := by simpa [RedisRooms.recoverResult] using h
      obtain rfl : cur = old := by simpa using hold
      simpa [RedisRooms.gen, howner] using
        Effect.recovered cur new (s.gen room) hnew

theorem atomicRedis_sound (room : RoomId) (s : RedisRooms) (pc : Pc) (s' : RedisRooms) (pc' : Pc)
    (h : atomicRedis room s pc = some (s', pc')) :
    Effect (s.getOwner room) (s.gen room) pc (s'.getOwner room) (s'.gen room) pc' := by
  cases pc with
  | returned => simp [atomicRedis] at h
  | claim node =>
    cases howner : s.rooms.lookup room with
    | none =>
      simp only [atomicRedis, RedisRooms.setNX, howner] at h
      cases h
      exact setNX_claimed howner (.inl rfl)
    | some cur =>
      simp only [atomicRedis, RedisRooms.setNX, howner] at h
      cases h
      simpa [howner] using
        Effect.occupied node cur (s.gen room) _ (.inl rfl)
  | claimGet node =>
    cases howner : s.rooms.lookup room with
    | none =>
      simp only [atomicRedis, RedisRooms.get, howner] at h
      cases h
      simpa [howner] using Effect.vanished node (s.gen room)
    | some cur =>
      simp only [atomicRedis, RedisRooms.get, howner] at h
      cases h
      simpa [howner] using Effect.read node cur (s.gen room)
  | claimRetry node =>
    cases howner : s.rooms.lookup room with
    | none =>
      simp only [atomicRedis, RedisRooms.setNX, howner] at h
      cases h
      exact setNX_claimed howner (.inr rfl)
    | some cur =>
      simp only [atomicRedis, RedisRooms.setNX, howner] at h
      cases h
      simpa [howner] using Effect.gaveUp node cur (s.gen room)
  | release node =>
    by_cases howner : s.rooms.lookup room = some node
    · simp only [atomicRedis, RedisRooms.compareDelete, howner, if_true] at h
      cases h
      simpa [howner] using
        Effect.released node (s.gen room) ((s.del room).gen room)
    · simp only [atomicRedis, RedisRooms.compareDelete, howner, if_false] at h
      cases h
      exact Effect.notOwner _ node _ howner
  | recover old new => exact recoverOwnerScript_sound h
  | recoverGet new generation =>
    obtain ⟨rfl, rfl⟩ := by simpa [atomicRedis, RedisRooms.recoverResult] using h
    exact Effect.conflictRead _ new _ generation

def inMemory : Store where
  State := InMemoryRoomLocator
  owner room l := l.getOwner room
  gen room l := l.gen room
  atomic := atomicInMemory
  sound := atomicInMemory_sound
  Runs pc := ∃ call : Call, pc = call.start
  start call := ⟨call, rfl⟩
  enabled := by
    rintro room s _ ⟨_ | _ | _, rfl⟩ <;> rfl
  goesOn := by
    rintro room s _ s' pc' ⟨_ | _ | _, rfl⟩ h <;> cases h <;> exact .inr ⟨_, rfl⟩

def redis : Store where
  State := RedisRooms
  owner room s := s.getOwner room
  gen room s := s.gen room
  atomic := atomicRedis
  sound := atomicRedis_sound
  Runs pc := ∀ reply, pc ≠ .returned reply
  start call := by
    cases call <;> simp [Call.start]
  enabled room s pc h := by
    cases pc with
    | returned reply => exact absurd rfl (h reply)
    | release | recoverGet => rfl
    | claim | claimGet | claimRetry | recover =>
      simp only [atomicRedis]
      split <;> rfl
  goesOn room s pc s' pc' _ _ := by
    by_cases hdone : ∃ reply, pc' = .returned reply
    · exact .inr hdone
    · exact .inl (not_exists.1 hdone)

/-! ## Interleaved calls -/

/-- The store and the place of every call made so far, by call number. -/
structure Sys (B : Store) where
  store : B.State
  calls : ℕ → Option Pc

/-- A call is invoked, or runs its next atomic step. -/
inductive Act
  | invoke (id : ℕ) (call : Call)
  | step (id : ℕ)
  deriving DecidableEq

variable (B : Store) (room : RoomId)

/-- One step of the interleaving. -/
def step (s : Sys B) : Act → Option (Sys B)
  | .invoke id call =>
    if s.calls id = none then some { s with calls := Function.update s.calls id (some call.start) }
    else none
  | .step id => do
    let pc ← s.calls id
    let (store', pc') ← B.atomic room s.store pc
    some { store := store', calls := Function.update s.calls id (some pc') }

/-- The recorded owner of the room. -/
def Sys.owner {B : Store} (room : RoomId) (s : Sys B) : Option NodeId := B.owner room s.store

/-- The generation of the room. -/
def Sys.gen {B : Store} (room : RoomId) (s : Sys B) : ℕ := B.gen room s.store

/-- `Ownership`: owner and generation of an owned room. -/
def Sys.ownership {B : Store} (room : RoomId) (s : Sys B) : Option (NodeId × ℕ) :=
  (s.owner room).map fun owner => (owner, s.gen room)

/-- What the action makes a call return, with the place the call was at. -/
def replyOf (s : Sys B) : Act → Option (Pc × Reply)
  | .invoke _ _ => none
  | .step id => do
    let pc ← s.calls id
    let (_, pc') ← B.atomic room s.store pc
    match pc' with
    | .returned reply => some (pc, reply)
    | _ => none

/-- With the action, a call claims the room for `node`. -/
def Claims (s : Sys B) (a : Act) (node : NodeId) : Prop :=
  ∃ pc, replyOf B room s a = some (pc, .claim node true)

/-- With the action, a call takes the room over for `node`. -/
def TakesOver (s : Sys B) (a : Act) (node : NodeId) : Prop :=
  ∃ old r, replyOf B room s a = some (.recover old node, .recovered r) ∧ r.outcome = .ok

/-- With the action, the ownership of `node` ends: its release succeeds, or the room is taken
over from it. -/
def EndsTenure (s : Sys B) (a : Act) (node : NodeId) : Prop :=
  replyOf B room s a = some (.release node, .released true) ∨
    ∃ new r, replyOf B room s a = some (.recover node new, .recovered r) ∧ r.outcome = .ok

/-- The number of takeovers among the actions. -/
def recoveries : Sys B → List Act → ℕ
  | _, [] => 0
  | s, a :: as =>
    ((replyOf B room s a).map fun r => r.2.takeover).getD 0 +
      match step B room s a with
      | some s' => recoveries s' as
      | none => 0

/-- **The guarantees of concurrent ownership calls on one room.** -/
structure OwnershipLinear : Prop where
  /-- At any time the room has at most one owner. -/
  unique : ∀ (s : Sys B) a b, s.owner room = some a → s.owner room = some b → a = b
  /-- From a success for `node` until its ownership ends, `node` is the owner, every claim that
  starts and ends in the period returns `(node, false)`, and every release by another node that
  does so returns `false`. -/
  tenure : ∀ (s : Sys B) a s₁ node mid s₂, step B room s a = some s₁ →
    Claims B room s a node ∨ TakesOver B room s a node →
    Along (step B room) (fun s a => ¬ EndsTenure B room s a node) s₁ mid →
    run (step B room) s₁ mid = some s₂ →
    s₂.owner room = some node ∧
      ∀ pre id call post reply, mid = pre ++ .invoke id call :: post →
        s₂.calls id = some (.returned reply) →
        (∀ n, call = .claim n → reply = .claim node false) ∧
          ∀ n, call = .release n → n ≠ node → reply = .released false
  /-- Of finitely many concurrent recoveries from the owner to distinct nodes, exactly one
  succeeds. -/
  one_recovers : ∀ (s : Sys B) old (ids : Finset ℕ) (new : ℕ → NodeId) as s',
    ids.Nonempty → (∀ id ∈ ids, new id ≠ old) → Set.InjOn new ids → s.owner room = some old →
    (∀ id ∈ ids, s.calls id = none ∨ s.calls id = some (.recover old (new id))) →
    (∀ a ∈ as, ∃ id ∈ ids, a = .invoke id (.recover old (new id)) ∨ a = .step id) →
    run (step B room) s as = some s' →
    (∀ id ∈ ids, ∃ reply, s'.calls id = some (.returned reply)) →
    ∃! id, id ∈ ids ∧ ∃ reply, s'.calls id = some (.returned reply) ∧ reply.IsRecoverOK
  /-- The generation counts the takeovers since the last successful claim. -/
  generation : ∀ (s : Sys B) a s₁ node mid s₂, step B room s a = some s₁ →
    Claims B room s a node →
    Along (step B room) (fun s a => ∀ n, ¬ Claims B room s a n) s₁ mid →
    run (step B room) s₁ mid = some s₂ →
    ∀ owner g, s₂.ownership room = some (owner, g) → g = s₁.gen room + recoveries B room s₁ mid
  /-- No step of a recovery other than the one that returns `RecoverOK` changes owner or
  generation. -/
  unchanged : ∀ (s : Sys B) id s' pc, s.calls id = some pc →
    (∃ old new, pc = .recover old new) ∨ (∃ new g, pc = .recoverGet new g) →
    step B room s (.step id) = some s' →
    (∀ reply, s'.calls id = some (.returned reply) → ¬ reply.IsRecoverOK) →
    s'.owner room = s.owner room ∧ s'.gen room = s.gen room
  /-- A call that has not returned can take its next step, and has taken less than three. -/
  returns : ∀ (s : Sys B) pre id call post s',
    run (step B room) s (pre ++ .invoke id call :: post) = some s' →
    (∃ reply, s'.calls id = some (.returned reply)) ∨
      post.count (.step id) < 3 ∧ (step B room s' (.step id)).isSome

/-! ## One step -/

variable {B room} {s s' : Sys B} {a : Act}

/-- Everything a step can do. -/
theorem step_cases (h : step B room s a = some s') :
    (∃ id call, a = .invoke id call ∧ s.calls id = none ∧
      s' = { s with calls := update s.calls id (some call.start) }) ∨
    ∃ id pc pc', a = .step id ∧ s.calls id = some pc ∧
      s'.calls = update s.calls id (some pc') ∧
      Effect (s.owner room) (s.gen room) pc (s'.owner room) (s'.gen room) pc' ∧
      replyOf B room s a = match pc' with
        | .returned reply => some (pc, reply)
        | _ => none := by
  cases a with
  | invoke id call =>
    simp only [step] at h
    split_ifs at h with hnone
    exact .inl ⟨id, call, rfl, hnone, (some.inj h).symm⟩
  | step id =>
    simp only [step, bind_eq_bind, bind_eq_some_iff, some.injEq] at h
    obtain ⟨pc, hpc, ⟨st, pc'⟩, hat, rfl⟩ := h
    refine .inr ⟨id, pc, pc', rfl, hpc, rfl, B.sound room _ _ _ _ hat, ?_⟩
    simp [replyOf, hpc, hat]

theorem effect_of_reply (h : step B room s a = some s')
    (hr : replyOf B room s a = some (pc, reply)) :
    Effect (s.owner room) (s.gen room) pc (s'.owner room) (s'.gen room) (.returned reply) := by
  obtain ⟨id, call, rfl, -, -⟩ | ⟨id, pc₀, pc', rfl, -, -, heff, hreply⟩ := step_cases h
  · simp [replyOf] at hr
  · rw [hreply] at hr
    cases pc' with
    | returned r =>
      obtain ⟨rfl, rfl⟩ : pc₀ = pc ∧ r = reply := by simpa using hr
      exact heff
    | _ => simp at hr

/-- A success for `node` leaves it the owner. -/
theorem owner_of_success (h : step B room s a = some s')
    (hs : Claims B room s a node ∨ TakesOver B room s a node) : s'.owner room = some node := by
  obtain ⟨pc, hr⟩ | ⟨old, r, hr, hok⟩ := hs
  · exact (effect_of_reply h hr).owner_of_claim
  · exact (effect_of_reply h hr).owner_of_recover hok

/-- The owner stays until its ownership ends. -/
theorem owner_step (h : step B room s a = some s') (ho : s.owner room = some node)
    (hne : ¬ EndsTenure B room s a node) :
    s'.owner room = some node := by
  obtain ⟨id, call, rfl, -, rfl⟩ | ⟨id, pc, pc', rfl, -, -, heff, hreply⟩ := step_cases h
  · exact ho
  · rw [ho] at heff
    obtain hk | ⟨rfl, rfl⟩ | ⟨new, r, rfl, rfl, hok⟩ := heff.owner_kept
    · exact hk
    · exact absurd (.inl hreply) hne
    · exact absurd (.inr ⟨new, r, hreply, hok⟩) hne

/-! ## The tenure of an owner -/

/-- The places of a call that runs while `node` owns the room. -/
def Served (node : NodeId) : Call → Pc → Prop
  | .claim n, pc => pc = .claim n ∨ pc = .claimGet n ∨ pc = .returned (.claim node false)
  | .release n, pc => n ≠ node → pc = .release n ∨ pc = .returned (.released false)
  | .recover _ _, _ => True

theorem served_start (node : NodeId) (call : Call) : Served node call call.start := by
  cases call with
  | claim => exact .inl rfl
  | release => exact fun _ => .inl rfl
  | recover => trivial

/-- A step in the tenure of `node` keeps a call served. -/
theorem served_step (h : step B room s a = some s') (ho : s.owner room = some node)
    (hpc : s.calls id = some pc) (hserved : Served node call pc) :
    ∃ pc', s'.calls id = some pc' ∧ Served node call pc' := by
  obtain ⟨id', call', rfl, hnone, rfl⟩ | ⟨id', pc₀, pc', rfl, hpc₀, hcalls, heff, -⟩ := step_cases h
  · have hne : id ≠ id' := by rintro rfl; simp [hnone] at hpc
    exact ⟨pc, by simp [update_of_ne hne, hpc], hserved⟩
  · by_cases hid : id = id'
    · subst hid
      obtain rfl : pc₀ = pc := by simpa [hpc] using hpc₀.symm
      refine ⟨pc', by simp [hcalls], ?_⟩
      rw [ho] at heff
      cases call with
      | claim n =>
        obtain hp | hp | rfl := hserved
        · exact .inr (heff.claim_served (.inl hp))
        · exact .inr (heff.claim_served (.inr hp))
        · exact absurd heff Effect.not_returned
      | release n =>
        intro hn
        obtain rfl | rfl := hserved hn
        · exact .inr (heff.release_refused hn)
        · exact absurd heff Effect.not_returned
      | recover => trivial
    · exact ⟨pc, by simp [hcalls, update_of_ne hid, hpc], hserved⟩

/-- Through a run in the tenure of `node`, it stays the owner and a call stays served. -/
theorem served_run (ho : s.owner room = some node) (hpc : s.calls id = some pc)
    (hserved : Served node call pc)
    (hG : Along (step B room) (fun s a => ¬ EndsTenure B room s a node) s as)
    (h : run (step B room) s as = some s') :
    ∃ pc', s'.calls id = some pc' ∧ Served node call pc' := by
  refine (run_invariant (I := fun s => s.owner room = some node ∧
    ∃ pc, s.calls id = some pc ∧ Served node call pc) ?_ ⟨ho, pc, hpc, hserved⟩ hG h).2
  rintro s a s' ⟨ho, pc, hpc, hserved⟩ hne hstep
  exact ⟨owner_step hstep ho hne, served_step hstep ho hpc hserved⟩

theorem owner_run (ho : s.owner room = some node)
    (hG : Along (step B room) (fun s a => ¬ EndsTenure B room s a node) s as)
    (h : run (step B room) s as = some s') : s'.owner room = some node :=
  run_invariant (I := fun s => s.owner room = some node)
    (fun _ _ _ ho hne hstep => owner_step hstep ho hne) ho hG h

/-! ## Concurrent recoveries -/

/-- The state of finitely many recoveries `old → new id`: none has run and `old` is the owner,
or one has succeeded and none of the others does. -/
def Racing (room : RoomId) (old : NodeId) (ids : Finset ℕ) (new : ℕ → NodeId) (s : Sys B) : Prop :=
  (s.owner room = some old ∧
    ∀ id ∈ ids, s.calls id = none ∨ s.calls id = some (.recover old (new id))) ∨
  ∃ win ∈ ids, s.owner room = some (new win) ∧
    (∃ g, s.calls win = some (.returned (.recovered ⟨.ok, new win, g⟩))) ∧
    ∀ id ∈ ids, id ≠ win → s.calls id = none ∨ s.calls id = some (.recover old (new id)) ∨
      (∃ g, s.calls id = some (.recoverGet (new id) g)) ∨
      ∃ reply, s.calls id = some (.returned reply) ∧ ¬ reply.IsRecoverOK

theorem racing_invoke (h : Racing room old ids new s) (hnone : s.calls id = none) :
    Racing room old ids new
      { s with calls := update s.calls id (some (.recover old (new id))) } := by
  obtain ⟨ho, hcalls⟩ | ⟨win, hwin, ho, ⟨g, hg⟩, hcalls⟩ := h
  · refine .inl ⟨ho, ?_⟩
    intro j hj
    by_cases hji : j = id
    · subst hji; simp
    · simpa [update_of_ne hji] using hcalls j hj
  · have hne : win ≠ id := by rintro rfl; simp [hnone] at hg
    refine .inr ⟨win, hwin, ho, ⟨g, by simp [update_of_ne hne, hg]⟩, ?_⟩
    intro j hj hjw
    by_cases hji : j = id
    · subst hji; simp
    · simpa [update_of_ne hji] using hcalls j hj hjw

theorem racing_step (hold : ∀ id ∈ ids, new id ≠ old) (hinj : Set.InjOn new ids) (hid : id ∈ ids)
    (h : Racing room old ids new s) (hstep : step B room s (.step id) = some s') :
    Racing room old ids new s' := by
  obtain ⟨_, _, ha, -, -⟩ | ⟨id', pc, pc', ha, hpc, hcalls', heff, -⟩ := step_cases hstep
  · cases ha
  obtain rfl : id = id' := by simpa using ha
  obtain ⟨ho, hcalls⟩ | ⟨win, hwin, ho, ⟨g, hg⟩, hcalls⟩ := h
  · -- the first step of any of them wins
    rw [ho] at heff
    obtain rfl : pc = .recover old (new id) := by
      rcases hcalls id hid with h | h <;> simp_all
    obtain ⟨ho', rfl⟩ := heff.recover_first (hold id hid)
    refine .inr ⟨id, hid, ho', ⟨s'.gen room, by simp [hcalls']⟩, ?_⟩
    intro j hj hji
    rw [hcalls', update_of_ne hji]
    exact (hcalls j hj).imp_right .inl
  · -- after that, every other one finds the winner
    rw [ho] at heff
    have hne : id ≠ win := by
      rintro rfl
      obtain rfl : pc = _ := by simpa [hg] using hpc.symm
      exact absurd heff Effect.not_returned
    have hpc' : pc = .recover old (new id) ∨ ∃ g₀, pc = .recoverGet (new id) g₀ := by
      obtain hc | hc | ⟨g₀, hc⟩ | ⟨reply, hc, -⟩ := hcalls id hid hne
      · simp [hc] at hpc
      · exact .inl (by simpa [hc] using hpc.symm)
      · exact .inr ⟨g₀, by simpa [hc] using hpc.symm⟩
      · obtain rfl : pc = .returned reply := by simpa [hc] using hpc.symm
        exact absurd heff Effect.not_returned
    have hwid : new win ≠ new id := fun h => hne (hinj hid hwin h.symm)
    obtain ⟨ho', hres⟩ := heff.recover_late (hold win hwin) hwid hpc'
    refine .inr ⟨win, hwin, ho', ⟨g, by simp [hcalls', update_of_ne hne.symm, hg]⟩,
      fun j hj hjw => ?_⟩
    by_cases hji : j = id
    · subst hji
      simp only [hcalls', update_self, some.injEq]
      rcases hres with hres | hres
      · exact .inr (.inr (.inl hres))
      · exact .inr (.inr (.inr hres))
    · rw [hcalls', update_of_ne hji]
      exact hcalls j hj hjw

theorem racing_run (hold : ∀ id ∈ ids, new id ≠ old) (hinj : Set.InjOn new ids)
    (hacts : ∀ a ∈ as, ∃ id ∈ ids, a = .invoke id (.recover old (new id)) ∨ a = .step id)
    (h : Racing room old ids new s) (hrun : run (step B room) s as = some s') :
    Racing room old ids new s' := by
  induction as generalizing s with
  | nil =>
    obtain rfl : s = s' := some.inj hrun
    exact h
  | cons a as ih =>
    obtain ⟨t, ht, hrest⟩ := (run_cons_eq_some _).1 hrun
    obtain ⟨id, hid, rfl | rfl⟩ := hacts a (by simp)
    · refine ih (fun b hb => hacts b (by simp [hb])) ?_ hrest
      obtain ⟨id', call, ha, hnone, rfl⟩ | ⟨_, _, _, ha, -⟩ := step_cases ht
      · obtain ⟨rfl, rfl⟩ : id = id' ∧ Call.recover old (new id) = call := by simpa using ha
        exact racing_invoke h hnone
      · cases ha
    · exact ih (fun b hb => hacts b (by simp [hb])) (racing_step hold hinj hid h ht) hrest

/-! ## The generation -/

/-- While no call claims the room, it is unowned or its generation counts the takeovers. -/
theorem generation_run {k : ℕ} (h : s.owner room = none ∨ s.gen room = k)
    (hG : Along (step B room) (fun s a => ∀ n, ¬ Claims B room s a n) s as)
    (hrun : run (step B room) s as = some s') :
    s'.owner room = none ∨ s'.gen room = k + recoveries B room s as := by
  induction as generalizing s k with
  | nil =>
    obtain rfl : s = s' := some.inj hrun
    exact h
  | cons a as ih =>
    obtain ⟨t, ht, hrun⟩ := (run_cons_eq_some _).1 hrun
    simp only [recoveries, ht, ← Nat.add_assoc]
    refine ih ?_ (hG.2 t ht) hrun
    obtain ⟨id, call, rfl, -, rfl⟩ | ⟨id, pc, pc', rfl, -, -, heff, hreply⟩ := step_cases ht
    · exact h
    · have hclaim : ∀ n, pc' ≠ .returned (.claim n true) := by
        rintro n rfl
        exact hG.1 n ⟨pc, hreply⟩
      obtain hnone | ⟨ho, hg⟩ := heff.generation_step hclaim
      · exact .inl hnone
      · right
        rw [hg, h.resolve_left ho, hreply]
        cases pc' <;> rfl

/-! ## Progress -/

/-- A step of the call itself brings it closer to its return, and another one leaves it alone. -/
theorem left_step (h : step B room s a = some s') (hpc : s.calls id = some pc)
    (hruns : B.Runs pc ∨ ∃ reply, pc = .returned reply) :
    ∃ pc', s'.calls id = some pc' ∧ (B.Runs pc' ∨ ∃ reply, pc' = .returned reply) ∧
      pc'.left + [a].count (.step id) ≤ pc.left := by
  cases a with
  | invoke id' call =>
    simp only [step] at h
    split_ifs at h with hnone
    cases h
    have hne : id ≠ id' := by rintro rfl; simp [hnone] at hpc
    exact ⟨pc, by simp [update_of_ne hne, hpc], hruns, by simp⟩
  | step id' =>
    simp only [step, bind_eq_bind, bind_eq_some_iff, some.injEq] at h
    obtain ⟨pc₀, hpc₀, ⟨st, pc'⟩, hat, rfl⟩ := h
    by_cases hid : id' = id
    · subst hid
      obtain rfl : pc = pc₀ := by simpa [hpc] using hpc₀
      have heff := B.sound room _ _ _ _ hat
      refine ⟨pc', update_self .., ?_, by simpa using Nat.succ_le_of_lt heff.left_lt⟩
      rcases hruns with hruns | ⟨reply, rfl⟩
      · exact B.goesOn room _ _ _ _ hruns hat
      · exact absurd heff Effect.not_returned
    · exact ⟨pc, by simp [update_of_ne (Ne.symm hid), hpc], hruns, by simp [hid]⟩

theorem left_run (hpc : s.calls id = some pc)
    (hruns : B.Runs pc ∨ ∃ reply, pc = .returned reply) (h : run (step B room) s as = some s') :
    ∃ pc', s'.calls id = some pc' ∧ (B.Runs pc' ∨ ∃ reply, pc' = .returned reply) ∧
      pc'.left + as.count (.step id) ≤ pc.left := by
  induction as generalizing s pc with
  | nil =>
    cases h
    exact ⟨pc, hpc, hruns, le_rfl⟩
  | cons a as ih =>
    obtain ⟨t, ht, hrest⟩ := (run_cons_eq_some _).1 h
    obtain ⟨pc₁, hpc₁, hruns₁, hle₁⟩ := left_step ht hpc hruns
    obtain ⟨pc', hpc', hruns', hle⟩ := ih hpc₁ hruns₁ hrest
    refine ⟨pc', hpc', hruns', ?_⟩
    rw [← List.singleton_append, List.count_append]
    omega

/-! ## The guarantees -/

/-- **Any store whose atomic steps have the specified effects keeps ownership linear.** -/
theorem ownershipLinear (B : Store) (room : RoomId) : OwnershipLinear B room where
  unique s a b ha hb := by simpa [ha] using hb
  tenure s a s₁ node mid s₂ hstep hsucc hG hrun := by
    have ho := owner_of_success hstep hsucc
    refine ⟨owner_run ho hG hrun, ?_⟩
    intro pre id call post reply hmid hreply
    subst hmid
    -- the call starts in the tenure, so it is served from its first place on
    obtain ⟨t, ht, hpost⟩ := (run_append_eq_some _).1 hrun
    obtain ⟨hGpre, hGpost⟩ := hG.append
    obtain ⟨u, hu, hpost⟩ := (run_cons_eq_some _).1 hpost
    have hGu := hGpost t ht
    have hot := owner_run ho hGpre ht
    obtain ⟨_, _, ha, -, hueq⟩ | ⟨_, _, _, ha, -⟩ := step_cases hu
    · obtain ⟨rfl, rfl⟩ := by simpa using ha
      have hou : u.owner room = some node := by rw [hueq]; exact hot
      have hcu : u.calls id = some call.start := by simp [hueq]
      obtain ⟨pc, hpc, hserved⟩ := served_run hou hcu (served_start node call) (hGu.2 u hu) hpost
      obtain rfl : pc = .returned reply := by simpa [hpc] using hreply
      constructor
      · rintro n rfl
        simpa [Served] using hserved
      · rintro n rfl hn
        simpa [Served] using hserved hn
    · cases ha
  one_recovers s old ids new as s' hids hold hinj ho hcalls hacts hrun hdone := by
    obtain ⟨-, hpend⟩ | ⟨win, hwin, -, ⟨g, hg⟩, hothers⟩ :=
      racing_run hold hinj hacts (.inl ⟨ho, hcalls⟩) hrun
    · obtain ⟨id, hid⟩ := hids
      obtain ⟨reply, hreply⟩ := hdone id hid
      rcases hpend id hid with h | h <;> simp [h] at hreply
    · refine ⟨win, ⟨hwin, _, hg, rfl⟩, ?_⟩
      rintro id ⟨hid, reply, hreply, hok⟩
      by_contra hne
      obtain h | h | ⟨_, h⟩ | ⟨reply', h, hno⟩ := hothers id hid hne
      · simp [h] at hreply
      · simp [h] at hreply
      · simp [h] at hreply
      · obtain rfl : reply' = reply := by simpa [h] using hreply
        exact hno hok
  generation s a s₁ node mid s₂ hstep hclaim hG hrun owner g hown := by
    obtain hnone | hg := generation_run (k := s₁.gen room) (.inr rfl) hG hrun
    · simp [Sys.ownership, hnone] at hown
    · obtain ⟨-, -, -, rfl⟩ := by simpa [Sys.ownership] using hown
      exact hg
  unchanged s id s' pc hpc hrec hstep hno := by
    obtain ⟨_, _, ha, -, -⟩ | ⟨id', pc₀, pc', ha, hpc₀, hcalls, heff, -⟩ := step_cases hstep
    · cases ha
    · obtain rfl : id = id' := by simpa using ha
      obtain rfl : pc₀ = pc := by simpa [hpc] using hpc₀.symm
      exact heff.recover_unchanged hrec fun reply hreply => hno reply (by simp [hcalls, hreply])
  returns s pre id call post s' hrun := by
    obtain ⟨t, -, hpost⟩ := (run_append_eq_some _).1 hrun
    obtain ⟨u, hu, hpost⟩ := (run_cons_eq_some _).1 hpost
    simp only [step] at hu
    split_ifs at hu
    cases hu
    obtain ⟨pc, hpc, hruns | ⟨reply, rfl⟩, hle⟩ :=
      left_run (update_self ..) (.inl (B.start call)) hpost
    · obtain ⟨⟨st, pc'⟩, hat⟩ := isSome_iff_exists.1 (B.enabled room s'.store pc hruns)
      have hpos := (B.sound room _ _ _ _ hat).left_lt
      have hstart : call.start.left ≤ 3 := by cases call <;> simp [Call.start, Pc.left]
      exact .inr ⟨by omega, by simp [step, hpc, hat]⟩
    · exact .inl ⟨reply, hpc⟩

/-- **Ownership is linear on both backends.** -/
theorem ownershipLinear_backends (room : RoomId) :
    OwnershipLinear inMemory room ∧ OwnershipLinear redis room :=
  ⟨ownershipLinear inMemory room, ownershipLinear redis room⟩

/-- The nodes that two calls want to recover a room for. -/
def heir (id : ℕ) : NodeId := if id = 1 then "b" else "c"

theorem heir_injOn : Set.InjOn heir ({1, 2} : Finset ℕ) := by
  intro i hi j hj
  rw [Finset.mem_coe, Finset.mem_insert, Finset.mem_singleton] at hi hj
  rcases hi with rfl | rfl <;> rcases hj with rfl | rfl <;> decide

/-- Two nodes recover a room of `a` at the same time, and the second to call is the first to run. -/
def race : List Act :=
  [.invoke 1 (.recover "a" "b"), .invoke 2 (.recover "a" "c"), .step 2, .step 1]

/-- On both backends both calls return, and exactly one of them succeeds. -/
theorem ownershipLinear_contended :
    (∃ s ∈ run (step inMemory "r") ⟨(InMemoryRoomLocator.claimOwner {} "r" "a").1, fun _ => none⟩
        race,
      (s.calls 1 = some (.returned (.recovered ⟨.conflict, "c", 1⟩)) ∧
        s.calls 2 = some (.returned (.recovered ⟨.ok, "c", 1⟩))) ∧
      ∃! id, id ∈ ({1, 2} : Finset ℕ) ∧
        ∃ reply, s.calls id = some (.returned reply) ∧ reply.IsRecoverOK) ∧
    ∃ s ∈ run (step redis "r") ⟨(RedisRooms.setNX {} "r" "a").1, fun _ => none⟩
        (race ++ [.step 1]),
      (s.calls 1 = some (.returned (.recovered ⟨.conflict, "c", 1⟩)) ∧
        s.calls 2 = some (.returned (.recovered ⟨.ok, "c", 1⟩))) ∧
      ∃! id, id ∈ ({1, 2} : Finset ℕ) ∧
        ∃ reply, s.calls id = some (.returned reply) ∧ reply.IsRecoverOK := by
  obtain ⟨hmemory, hredis⟩ := ownershipLinear_backends "r"
  constructor
  · refine exists_mem_and (by decide +kernel) fun s hs hdone => ?_
    refine hmemory.one_recovers _ "a" {1, 2} heir race s ⟨1, by decide⟩ (by decide) heir_injOn
      (by decide +kernel) (fun _ _ => .inl rfl) (by decide) hs ?_
    simp [hdone.1, hdone.2]
  · refine exists_mem_and (by decide +kernel) fun s hs hdone => ?_
    refine hredis.one_recovers _ "a" {1, 2} heir (race ++ [.step 1]) s ⟨1, by decide⟩ (by decide)
      heir_injOn (by decide +kernel) (fun _ _ => .inl rfl) (by decide) hs ?_
    simp [hdone.1, hdone.2]

end PulseRTC.Cluster.Ownership
