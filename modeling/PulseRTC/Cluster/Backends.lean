import PulseRTC.Foundations.Answers
import PulseRTC.Cluster.RoomLocator

/-!
# The two room locators side by side

A sequence of calls is answered by `InMemoryRoomLocator` and by `redisRoomLocator`. The owners
agree after every call, but the generations need not: releasing or removing a room deletes its
generation in memory and leaves the `roomgen:<id>` key in Redis. `Ledger` follows a sequence of
calls and records the rooms whose generation was dropped that way, and the two locators give the
same answers exactly when no call reads the generation of such a room (`answers_agree_iff`).
-/

namespace PulseRTC.Cluster

open Foundations

/-- A call on a room locator. -/
inductive RoomOp
  | getOwner (room : RoomId)
  | claimOwner (room : RoomId) (node : NodeId)
  | setOwner (room : RoomId) (node : NodeId)
  | removeOwner (room : RoomId)
  | releaseOwner (room : RoomId) (node : NodeId)
  | ownership (room : RoomId)
  | recoverOwner (room : RoomId) (oldOwner newOwner : NodeId)
  | ownedBy (node : NodeId)
  | all
  deriving DecidableEq

/-- The answer to a call. -/
inductive RoomReply
  | owner (owner : Option NodeId)
  | claim (owner : NodeId) (claimed : Bool)
  | unit
  | released (released : Bool)
  | ownership (owner : Option (NodeId × ℕ))
  | recovered (result : RecoverResult)
  | rooms (rooms : Finset RoomId)
  | table (owners : GoMap RoomId NodeId)
  deriving DecidableEq

/-- One call of the in-memory locator. -/
def InMemoryRoomLocator.exec (l : InMemoryRoomLocator) : RoomOp → InMemoryRoomLocator × RoomReply
  | .getOwner room => (l, .owner (l.getOwner room))
  | .claimOwner room node =>
    ((l.claimOwner room node).1, .claim (l.claimOwner room node).2.1 (l.claimOwner room node).2.2)
  | .setOwner room node => (l.setOwner room node, .unit)
  | .removeOwner room => (l.removeOwner room, .unit)
  | .releaseOwner room node =>
    ((l.releaseOwner room node).1, .released (l.releaseOwner room node).2)
  | .ownership room => (l, .ownership (l.ownership room))
  | .recoverOwner room old new =>
    ((l.recoverOwner room old new).1, .recovered (l.recoverOwner room old new).2)
  | .ownedBy node => (l, .rooms (l.ownedBy node))
  | .all => (l, .table l.all)

/-- One call of the Redis locator. -/
def RedisRooms.exec (s : RedisRooms) : RoomOp → RedisRooms × RoomReply
  | .getOwner room => (s, .owner (s.getOwner room))
  | .claimOwner room node =>
    ((s.claimOwner room node).1, .claim (s.claimOwner room node).2.1 (s.claimOwner room node).2.2)
  | .setOwner room node => (s.setOwner room node, .unit)
  | .removeOwner room => (s.removeOwner room, .unit)
  | .releaseOwner room node =>
    ((s.releaseOwner room node).1, .released (s.releaseOwner room node).2)
  | .ownership room => (s, .ownership (s.ownership room))
  | .recoverOwner room old new =>
    ((s.recoverOwner room old new).1, .recovered (s.recoverOwner room old new).2)
  | .ownedBy node => (s, .rooms (s.ownedBy node))
  | .all => (s, .table s.all)

/-! ## The rooms whose generation was dropped -/

/-- The in-memory locator after the calls so far, and the rooms that lost a positive generation
to a release or a removal. -/
structure Ledger where
  loc : InMemoryRoomLocator := {}
  dropped : Finset RoomId := ∅

namespace Ledger

/-- The room whose positive generation the call drops, if it drops one. -/
def drops (g : Ledger) : RoomOp → Option RoomId
  | .releaseOwner room node =>
    if g.loc.owners.lookup room = some node ∧ 0 < g.loc.gen room then some room else none
  | .removeOwner room => if 0 < g.loc.gen room then some room else none
  | _ => none

/-- The record after a call. -/
def next (g : Ledger) (op : RoomOp) : Ledger where
  loc := (g.loc.exec op).1
  dropped := g.dropped ∪ (g.drops op).toFinset

/-- The call does not read the generation of an owned room that lost one before. -/
def ReadsKept (g : Ledger) : RoomOp → Prop
  | .ownership room => g.loc.owners.lookup room ≠ none → room ∉ g.dropped
  | .recoverOwner room _ _ => g.loc.owners.lookup room ≠ none → room ∉ g.dropped
  | _ => True

end Ledger

/-- No call of the sequence reads the generation of an owned room whose ownership was released
or removed, earlier in the sequence, after a recovery. -/
def KeepsGeneration (ops : List RoomOp) : Prop := AtEach Ledger.next Ledger.ReadsKept {} ops

/-! ## The simulation -/

/-- The two locators and the rooms that lost their generation in memory: equal owners, equal
generations outside those rooms, a larger one in Redis at them. -/
structure SameRooms (l : InMemoryRoomLocator) (s : RedisRooms) (dropped : Finset RoomId) :
    Prop where
  owners : s.rooms = l.owners
  gens : ∀ room ∉ dropped, s.gen room = l.gen room
  lost : ∀ room ∈ dropped, l.gen room < s.gen room

theorem InMemoryRoomLocator.gen_removeOwner (l : InMemoryRoomLocator) (room r : RoomId) :
    (l.removeOwner room).gen r = if r = room then 0 else l.gen r := by
  simp only [gen, removeOwner, GoMap.lookup_erase_eq]
  split_ifs <;> rfl

/-- Without another command in between, the claim is one compare-and-set. -/
theorem RedisRooms.claimOwner_eq (s : RedisRooms) (room : RoomId) (node : NodeId) :
    s.claimOwner room node = match s.rooms.lookup room with
      | some cur => (s, cur, false)
      | none => ({ s with rooms := s.rooms.insert room node }, node, true) := by
  cases h : s.rooms.lookup room <;> simp [claimOwner, setNX, get, h]

namespace SameRooms

variable {l : InMemoryRoomLocator} {s : RedisRooms} {dropped : Finset RoomId}

section

variable (h : SameRooms l s dropped) (room : RoomId)

include h room

theorem gen_eq_iff : l.gen room = s.gen room ↔ room ∉ dropped := by
  constructor
  · intro he hd
    have := h.lost room hd
    omega
  · intro hd
    exact (h.gens room hd).symm

/-- Writing an owner keeps the relation. -/
theorem setOwner (node : NodeId) :
    SameRooms (l.setOwner room node) (s.setOwner room node) dropped :=
  ⟨by simp [RedisRooms.setOwner, RedisRooms.set, InMemoryRoomLocator.setOwner, h.owners],
    h.gens, h.lost⟩

/-- Dropping an owner keeps the relation, with the room added when its generation was
positive: memory forgets it, Redis does not. -/
theorem removeOwner : SameRooms (l.removeOwner room) (s.removeOwner room)
      (dropped ∪ (if 0 < l.gen room then some room else none).toFinset) := by
  refine ⟨by simp [InMemoryRoomLocator.removeOwner, h.owners], fun r hr => ?_, fun r hr => ?_⟩
  · have hs : (s.removeOwner room).gen r = s.gen r := rfl
    rw [hs, l.gen_removeOwner]
    have hrd : r ∉ dropped := fun hd => hr (Finset.mem_union_left _ hd)
    split_ifs with hroom
    · subst hroom
      by_contra hne
      have hpos : 0 < l.gen r := by have := h.gens r hrd; omega
      exact hr (by simp [hpos])
    · exact h.gens r hrd
  · have hs : (s.removeOwner room).gen r = s.gen r := rfl
    rw [hs, l.gen_removeOwner]
    rcases Finset.mem_union.1 hr with hd | hd
    · have := h.lost r hd
      split_ifs <;> omega
    · split_ifs at hd with hpos
      · obtain rfl : r = room := by simpa using hd
        have hle : l.gen r ≤ s.gen r := by
          by_cases hrd : r ∈ dropped
          · exact (h.lost r hrd).le
          · exact (h.gens r hrd).ge
        rw [if_pos rfl]
        omega
      · simp at hd

/-- The owner moves, and both generations go up by one. -/
theorem recover (new : NodeId) : SameRooms
      { owners := l.owners.insert room new, gens := l.gens.insert room (l.gen room + 1) }
      { rooms := s.rooms.insert room new, roomgen := s.roomgen.insert room (s.gen room + 1) }
      dropped := by
  have hl : ∀ r, InMemoryRoomLocator.gen
      { owners := l.owners.insert room new, gens := l.gens.insert room (l.gen room + 1) } r =
        if r = room then l.gen room + 1 else l.gen r := by
    intro r
    simp only [InMemoryRoomLocator.gen, GoMap.lookup_insert_eq]
    split_ifs <;> rfl
  have hs : ∀ r, RedisRooms.gen
      { rooms := s.rooms.insert room new, roomgen := s.roomgen.insert room (s.gen room + 1) } r =
        if r = room then s.gen room + 1 else s.gen r := by
    intro r
    simp only [RedisRooms.gen, GoMap.lookup_insert_eq]
    split_ifs <;> rfl
  refine ⟨by simp [h.owners], fun r hr => ?_, fun r hr => ?_⟩
  · rw [hl, hs]
    split_ifs with hroom
    · rw [← hroom, h.gens r hr]
    · exact h.gens r hr
  · rw [hl, hs]
    have := h.lost r hr
    split_ifs with hroom
    · rw [← hroom]; omega
    · exact this

end

end SameRooms

/-- **One call keeps the two locators related.** -/
theorem SameRooms.exec {g : Ledger} {s : RedisRooms} (h : SameRooms g.loc s g.dropped)
    (op : RoomOp) : SameRooms (g.next op).loc (s.exec op).1 (g.next op).dropped := by
  have hrooms := h.owners
  cases op with
  | getOwner | ownership | ownedBy | all =>
    simpa [Ledger.next, Ledger.drops, InMemoryRoomLocator.exec, RedisRooms.exec] using h
  | setOwner room node =>
    simpa [Ledger.next, Ledger.drops, InMemoryRoomLocator.exec, RedisRooms.exec] using
      h.setOwner room node
  | claimOwner room node =>
    simp only [Ledger.next, Ledger.drops, InMemoryRoomLocator.exec, RedisRooms.exec,
      InMemoryRoomLocator.claimOwner, RedisRooms.claimOwner_eq, hrooms, Option.toFinset_none,
      Finset.union_empty]
    cases g.loc.owners.lookup room with
    | some cur => exact h
    | none =>
      simpa only [InMemoryRoomLocator.setOwner, RedisRooms.setOwner, RedisRooms.set, hrooms] using
        h.setOwner room node
  | removeOwner room => exact h.removeOwner room
  | releaseOwner room node =>
    simp only [Ledger.next, Ledger.drops, InMemoryRoomLocator.exec, RedisRooms.exec,
      InMemoryRoomLocator.releaseOwner, RedisRooms.releaseOwner, RedisRooms.compareDelete, hrooms]
    by_cases howner : g.loc.owners.lookup room = some node
    · simpa only [howner, if_true, true_and, RedisRooms.removeOwner] using h.removeOwner room
    · simpa [howner] using h
  | recoverOwner room old new =>
    simp only [Ledger.next, Ledger.drops, InMemoryRoomLocator.exec, RedisRooms.exec,
      InMemoryRoomLocator.recoverOwner, RedisRooms.recoverOwner, RedisRooms.recoverOwnerScript,
      hrooms, Option.toFinset_none, Finset.union_empty]
    cases g.loc.owners.lookup room with
    | none => exact h
    | some cur =>
      dsimp only
      split_ifs
      · exact h
      · exact h
      · simpa [hrooms] using h.recover room new

/-- **The answers to one call agree exactly when it does not read a dropped generation.** -/
theorem SameRooms.answer_eq_iff {g : Ledger} {s : RedisRooms} (h : SameRooms g.loc s g.dropped)
    (op : RoomOp) : (g.loc.exec op).2 = (s.exec op).2 ↔ g.ReadsKept op := by
  have hrooms := h.owners
  cases op with
  | getOwner room =>
    simp [InMemoryRoomLocator.exec, RedisRooms.exec, InMemoryRoomLocator.getOwner,
      hrooms, Ledger.ReadsKept]
  | setOwner | removeOwner => simp [InMemoryRoomLocator.exec, RedisRooms.exec, Ledger.ReadsKept]
  | ownedBy =>
    simp [InMemoryRoomLocator.exec, RedisRooms.exec, InMemoryRoomLocator.ownedBy,
      RedisRooms.ownedBy, hrooms, Ledger.ReadsKept]
  | all =>
    simp [InMemoryRoomLocator.exec, RedisRooms.exec, InMemoryRoomLocator.all, RedisRooms.all,
      hrooms, Ledger.ReadsKept]
  | claimOwner room node =>
    simp only [InMemoryRoomLocator.exec, RedisRooms.exec, InMemoryRoomLocator.claimOwner,
      RedisRooms.claimOwner_eq, hrooms, Ledger.ReadsKept, iff_true]
    cases g.loc.owners.lookup room <;> rfl
  | releaseOwner room node =>
    simp only [InMemoryRoomLocator.exec, RedisRooms.exec, InMemoryRoomLocator.releaseOwner,
      RedisRooms.releaseOwner, RedisRooms.compareDelete, hrooms, Ledger.ReadsKept, iff_true]
    split_ifs <;> rfl
  | ownership room =>
    have hgen := h.gen_eq_iff room
    simp only [InMemoryRoomLocator.exec, RedisRooms.exec, InMemoryRoomLocator.ownership,
      RedisRooms.ownership, RedisRooms.getOwner, RedisRooms.get, hrooms, Ledger.ReadsKept]
    cases g.loc.owners.lookup room <;> simp [hgen]
  | recoverOwner room old new =>
    have hgen := h.gen_eq_iff room
    simp only [InMemoryRoomLocator.exec, RedisRooms.exec, InMemoryRoomLocator.recoverOwner,
      RedisRooms.recoverOwner, RedisRooms.recoverOwnerScript, hrooms, Ledger.ReadsKept]
    cases howner : g.loc.owners.lookup room with
    | none => simp [RedisRooms.recoverResult]
    | some cur =>
      dsimp only
      split_ifs with hnew hold
      · simp [RedisRooms.recoverResult, hnew, hgen]
      · simp [RedisRooms.recoverResult, hrooms, howner, hgen]
      · simp [RedisRooms.recoverResult, hgen]

/-- **The two room locators answer a sequence of calls alike exactly when no call reads the
generation of an owned room whose ownership was released or removed after a recovery.** -/
theorem answers_agree_iff (ops : List RoomOp) :
    answers InMemoryRoomLocator.exec {} ops = answers RedisRooms.exec {} ops ↔
      KeepsGeneration ops := by
  have hinit : SameRooms ({} : InMemoryRoomLocator) ({} : RedisRooms) (∅ : Finset RoomId) :=
    ⟨rfl, fun _ _ => rfl, by simp⟩
  exact answers_eq_iff (R := fun l s g => g.loc = l ∧ SameRooms g.loc s g.dropped)
    (fun l s g op ⟨hl, h⟩ => hl ▸ h.answer_eq_iff op)
    (fun l s g op ⟨hl, h⟩ => ⟨hl ▸ rfl, h.exec op⟩) ⟨rfl, hinit⟩ ops

/-- A room is claimed, recovered, released and claimed again: memory reports generation `0`,
Redis the old `1`. -/
theorem answers_differ_after_reclaim :
    answers InMemoryRoomLocator.exec {} [.claimOwner "r" "a", .recoverOwner "r" "a" "b",
        .releaseOwner "r" "b", .claimOwner "r" "a", .ownership "r"] ≠
      answers RedisRooms.exec {} [.claimOwner "r" "a", .recoverOwner "r" "a" "b",
        .releaseOwner "r" "b", .claimOwner "r" "a", .ownership "r"] := by
  decide

end PulseRTC.Cluster
