import Mathlib.Data.List.Sort
import PulseRTC.Foundations.Expiring
import PulseRTC.Cluster.Node

/-!
# The node registry on Redis

A node's record is the value of one key that lives `NodeTTL` from its last refresh. `Register`
writes the record with the current instant as `LastSeen`; `Heartbeat` only moves the expiry; `List`
is the records still there, sorted by id; `IsStale` compares the age of a record with the same
`NodeTTL`.

A record that is still listed is therefore never stale by `IsStale`, as long as each write and
each move of the expiry happen together (`Synced.not_isStale`).
-/

namespace PulseRTC.Cluster

open Foundations

/-- `redisNodeRegistry`: the records under `nodes:<id>`. -/
abbrev RedisNodes := Expiring NodeId NodeInfo

namespace RedisNodes

def register (nodeTTL now : Time) (r : RedisNodes) (n : NodeInfo) : RedisNodes :=
  r.set n.id { n with lastSeen := now } (now + nodeTTL)

def unregister (r : RedisNodes) (id : NodeId) : RedisNodes := r.del id

def heartbeat (nodeTTL now : Time) (r : RedisNodes) (id : NodeId) : RedisNodes :=
  r.expire id (now + nodeTTL)

/-- A heartbeat tick of a node: `Register` and `Heartbeat` at one instant. -/
def refresh (nodeTTL now : Time) (r : RedisNodes) (n : NodeInfo) : RedisNodes :=
  (r.register nodeTTL now n).heartbeat nodeTTL now n.id

theorem refresh_eq (nodeTTL now : Time) (r : RedisNodes) (n : NodeInfo) :
    r.refresh nodeTTL now n = r.register nodeTTL now n :=
  Expiring.expire_set r n.id _ _

/-- `sortNodes`: insertion sort by id. -/
def sortNodes (ns : List NodeInfo) : List NodeInfo := ns.insertionSort fun a b => a.id ≤ b.id

def list (now : Time) (r : RedisNodes) : List NodeInfo :=
  sortNodes ((r.live now).map Entry.value)

def isStale (nodeTTL now : Time) (n : NodeInfo) : Bool :=
  if nodeTTL ≤ 0 then false else now - n.lastSeen > nodeTTL

variable {now nodeTTL : Time} {r : RedisNodes}

theorem mem_list {n : NodeInfo} :
    n ∈ r.list now ↔ ∃ e ∈ r.live now, e.value = n := by
  simp [list, sortNodes, List.mem_insertionSort]

/-- Each key lives exactly `NodeTTL` from the `LastSeen` of its record, which is the record of the
node the key names. -/
def Synced (nodeTTL : Time) (r : RedisNodes) : Prop :=
  ∀ e ∈ r.entries, e.value.id = e.key ∧ e.expiresAt = e.value.lastSeen + nodeTTL

theorem Synced.register (h : Synced nodeTTL r) (n : NodeInfo) :
    Synced nodeTTL (r.register nodeTTL now n) := by
  intro e he
  rcases Expiring.mem_set.1 he with rfl | ⟨he, -⟩
  · exact ⟨rfl, rfl⟩
  · exact h e he

theorem Synced.unregister (h : Synced nodeTTL r) (id : NodeId) : Synced nodeTTL (r.unregister id) :=
  fun e he => h e (Expiring.mem_del.1 he).1

theorem Synced.not_isStale (h : Synced nodeTTL r) {n : NodeInfo} (hn : n ∈ r.list now) :
    isStale nodeTTL now n = false := by
  obtain ⟨e, he, rfl⟩ := mem_list.1 hn
  obtain ⟨hmem, hlive⟩ := Expiring.mem_live.1 he
  rw [(h e hmem).2] at hlive
  unfold isStale
  split_ifs
  · rfl
  · simpa using Int.sub_left_le_of_le_add hlive

end RedisNodes

end PulseRTC.Cluster
