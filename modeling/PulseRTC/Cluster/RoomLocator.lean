import PulseRTC.Foundations.GoMap
import PulseRTC.Cluster.Node

/-!
# Room ownership

The two implementations of `RoomLocator` and `RecoverableRooms`.

* `InMemoryRoomLocator` keeps owners and generations in two maps under one mutex, so each of its
  calls is one atomic step.
* `RedisRooms` is the part of the Redis key space that `redisRoomLocator` uses: the `rooms:<id>`
  keys hold owners, the `roomgen:<id>` keys hold generations. Its commands are atomic, and a call
  is a sequence of commands. Room keys carry no expiry here (`RoomTTL = 0`).

The calls below are the sequential ones: no other command runs between two commands of a call.
-/

namespace PulseRTC.Cluster

open Foundations

inductive RecoverOutcome
  | failed
  | conflict
  | already
  | ok
  deriving DecidableEq

/-- `RecoverResult`: the outcome with the room's owner and generation after the attempt. -/
structure RecoverResult where
  outcome : RecoverOutcome
  owner : NodeId := ""
  generation : ℕ := 0
  deriving DecidableEq

/-! ## The in-memory locator -/

/-- `InMemoryRoomLocator`: owners and generations, by room. -/
structure InMemoryRoomLocator where
  owners : GoMap RoomId NodeId := ∅
  gens : GoMap RoomId ℕ := ∅
  deriving DecidableEq

namespace InMemoryRoomLocator

variable (l : InMemoryRoomLocator) (room : RoomId) (node : NodeId)

/-- The generation of a room; a missing entry reads as zero. -/
def gen : ℕ := (l.gens.lookup room).getD 0

def getOwner : Option NodeId := l.owners.lookup room

def ownership : Option (NodeId × ℕ) := (l.owners.lookup room).map fun owner => (owner, l.gen room)

/-- `ClaimOwner`: the effective owner, and whether this call claimed the room. -/
def claimOwner : InMemoryRoomLocator × NodeId × Bool :=
  match l.owners.lookup room with
  | some cur => (l, cur, false)
  | none => ({ l with owners := l.owners.insert room node }, node, true)

def setOwner : InMemoryRoomLocator := { l with owners := l.owners.insert room node }

def removeOwner : InMemoryRoomLocator :=
  { owners := l.owners.erase room, gens := l.gens.erase room }

/-- `ReleaseOwner`: compare and delete. -/
def releaseOwner : InMemoryRoomLocator × Bool :=
  if l.owners.lookup room = some node then (l.removeOwner room, true) else (l, false)

/-- `RecoverOwner`: compare and recover. -/
def recoverOwner (oldOwner newOwner : NodeId) : InMemoryRoomLocator × RecoverResult :=
  match l.owners.lookup room with
  | none => (l, { outcome := .failed })
  | some cur =>
    if cur = newOwner then (l, ⟨.already, cur, l.gen room⟩)
    else if cur ≠ oldOwner then (l, ⟨.conflict, cur, l.gen room⟩)
    else
      ({ owners := l.owners.insert room newOwner, gens := l.gens.insert room (l.gen room + 1) },
        ⟨.ok, newOwner, l.gen room + 1⟩)

def ownedBy : Finset RoomId := GoMap.keysOf l.owners node

def all : GoMap RoomId NodeId := l.owners

end InMemoryRoomLocator

/-! ## The Redis locator -/

/-- The `rooms:*` and `roomgen:*` keys. -/
structure RedisRooms where
  rooms : GoMap RoomId NodeId := ∅
  roomgen : GoMap RoomId ℕ := ∅
  deriving DecidableEq

namespace RedisRooms

variable (s : RedisRooms) (room : RoomId) (node : NodeId)

/-- The generation of a room; a missing key reads as zero. -/
def gen : ℕ := (s.roomgen.lookup room).getD 0

/-! ### Commands -/

/-- `GET rooms:<room>`. -/
@[simp] def get : Option NodeId := s.rooms.lookup room

/-- `SET rooms:<room> node NX`. -/
def setNX : RedisRooms × Bool :=
  match s.rooms.lookup room with
  | some _ => (s, false)
  | none => ({ s with rooms := s.rooms.insert room node }, true)

/-- `SET rooms:<room> node`. -/
def set : RedisRooms := { s with rooms := s.rooms.insert room node }

/-- `DEL rooms:<room>`. -/
@[simp] def del : RedisRooms := { s with rooms := s.rooms.erase room }

/-- `compareDeleteScript`. -/
def compareDelete (want : NodeId) : RedisRooms × Bool :=
  if s.rooms.lookup room = some want then (s.del room, true) else (s, false)

/-- `recoverOwnerScript`: the code and the generation it returns. -/
def recoverOwnerScript (oldOwner newOwner : NodeId) : RedisRooms × ℕ × ℕ :=
  match s.rooms.lookup room with
  | none => (s, 0, 0)
  | some cur =>
    if cur = newOwner then (s, 2, s.gen room)
    else if cur ≠ oldOwner then (s, 3, s.gen room)
    else
      ({ rooms := s.rooms.insert room newOwner,
         roomgen := s.roomgen.insert room (s.gen room + 1) }, 1, s.gen room + 1)

/-! ### Calls -/

/-- `redisRoomLocator.GetOwner`. -/
@[simp] def getOwner : Option NodeId := s.get room

/-- `redisRoomLocator.Ownership`. -/
def ownership : Option (NodeId × ℕ) := (s.getOwner room).map fun owner => (owner, s.gen room)

/-- `redisRoomLocator.ClaimOwner`: `SETNX`, then `GET`, then one more `SETNX` when the key was
gone in between. -/
def claimOwner : RedisRooms × NodeId × Bool :=
  match s.setNX room node with
  | (s₁, true) => (s₁, node, true)
  | (s₁, false) =>
    match s₁.get room with
    | some cur => (s₁, cur, false)
    | none =>
      match s₁.setNX room node with
      | (s₂, true) => (s₂, node, true)
      | (s₂, false) => (s₂, "", false)

/-- `redisRoomLocator.SetOwner`. -/
def setOwner : RedisRooms := s.set room node

/-- `redisRoomLocator.RemoveOwner`: the generation key stays. -/
@[simp] def removeOwner : RedisRooms := s.del room

/-- `redisRoomLocator.ReleaseOwner`: the generation key stays. -/
def releaseOwner : RedisRooms × Bool := s.compareDelete room node

/-- What `redisRoomLocator.RecoverOwner` makes of the script's answer; the owner reported with a
conflict is read by a separate `GET`. -/
def recoverResult (newOwner : NodeId) (code generation : ℕ) (current : Option NodeId) :
    RecoverResult :=
  match code with
  | 1 => ⟨.ok, newOwner, generation⟩
  | 2 => ⟨.already, newOwner, generation⟩
  | 3 => ⟨.conflict, current.getD "", generation⟩
  | _ => { outcome := .failed }

/-- `redisRoomLocator.RecoverOwner`. -/
def recoverOwner (oldOwner newOwner : NodeId) : RedisRooms × RecoverResult :=
  match s.recoverOwnerScript room oldOwner newOwner with
  | (s₁, code, generation) => (s₁, recoverResult newOwner code generation (s₁.getOwner room))

/-- `redisRoomLocator.OwnedBy`. -/
def ownedBy : Finset RoomId := GoMap.keysOf s.rooms node

/-- `redisRoomLocator.All`: the room keys and their values, read by `SCAN` and `MGET`. -/
def all : GoMap RoomId NodeId := s.rooms

end RedisRooms

end PulseRTC.Cluster
