import Mathlib.Data.List.Find
import PulseRTC.Cluster.RoomRouter

/-!
# Selecting a node

`SelectNode` as one call: what it reads, the candidates it ranks, the policy it asks, and the
pending correction it leaves behind for the next call.

* `LeastLoadedPolicy.select` is the policy for any weights and any margin, and `Chooses` says what
  it is for. Stated by membership, it makes the choice the same for every order of the candidates
  (`select_perm`).
* The pending rooms of a node are added to its load by every later call, and nothing removes them.
  Over histories of calls, `counted_exactly_iff` says when a node is counted with the load it
  reports.
-/

namespace PulseRTC.Cluster

open Foundations List

/-! ## The policy -/

/-- The order of the policy: by score, then by id. -/
def LoadWeights.before (w : LoadWeights) (a b : NodeLoad) : Prop :=
  w.score a < w.score b ∨ w.score a = w.score b ∧ a.nodeID ≤ b.nodeID

instance (w : LoadWeights) : DecidableRel w.before := fun _ _ => inferInstanceAs (Decidable (_ ∨ _))

variable {a b : NodeLoad} {w : LoadWeights} {c : NodeLoad} {loadStale : Time}
  {nodes : List NodeInfo} {room : RoomId} {calls : List Call}

theorem LoadWeights.before_iff :
    w.before a b ↔ toLex (w.score a, a.nodeID) ≤ toLex (w.score b, b.nodeID) := by
  rw [Prod.Lex.toLex_le_toLex, LoadWeights.before]

instance (w : LoadWeights) : IsTrans NodeLoad w.before where
  trans _ _ _ hab hbc :=
    LoadWeights.before_iff.2 ((LoadWeights.before_iff.1 hab).trans (LoadWeights.before_iff.1 hbc))

instance (w : LoadWeights) : Std.Total w.before where
  total _ _ := (le_total _ _).imp LoadWeights.before_iff.2 LoadWeights.before_iff.2

theorem LoadWeights.score_le_of_before (h : w.before a b) : w.score a ≤ w.score b :=
  h.elim le_of_lt fun h => h.1.le

structure LeastLoadedPolicy where
  weights : LoadWeights
  preferLocalMargin : ℚ
  localNodeID : NodeId := ""
  deriving DecidableEq

namespace LeastLoadedPolicy

/-- The weights that are used: the default ones for the zero value. -/
def effective (p : LeastLoadedPolicy) : LoadWeights :=
  if p.weights = ⟨0, 0, 0, 0⟩ then defaultLoadWeights else p.weights

def select (p : LeastLoadedPolicy) (candidates : List NodeLoad) :
    Except Error (NodeLoad × Reason) :=
  let w := p.effective
  match candidates.insertionSort w.before with
  | [] => .error { code := .noCapacity, message := "no node is available to host a new room" }
  | best :: rest =>
    if p.localNodeID ≠ "" then
      match (best :: rest).find? fun c => c.nodeID = p.localNodeID with
      | some c =>
        if w.score c ≤ w.score best + p.preferLocalMargin then .ok (c, .local)
        else .ok (best, .leastLoaded)
      | none => .ok (best, .leastLoaded)
    else .ok (best, .leastLoaded)

/-- The least candidate by score and id. -/
structure IsLeast (p : LeastLoadedPolicy) (cs : List NodeLoad) (m : NodeLoad) : Prop where
  mem : m ∈ cs
  before : ∀ c ∈ cs, p.effective.before m c

/-- The local node is a candidate, within the margin of the lowest score. -/
structure KeepsLocal (p : LeastLoadedPolicy) (cs : List NodeLoad) (c : NodeLoad) : Prop where
  mem : c ∈ cs
  named : p.localNodeID ≠ ""
  isLocal : c.nodeID = p.localNodeID
  within : ∀ b ∈ cs, p.effective.score c ≤ p.effective.score b + p.preferLocalMargin

/-- What the policy is for: the local node if it is good enough, otherwise the least candidate. -/
def Chooses (p : LeastLoadedPolicy) (cs : List NodeLoad) (c : NodeLoad) : Reason → Prop
  | .local => p.KeepsLocal cs c
  | .leastLoaded => p.IsLeast cs c ∧ ∀ b, ¬ p.KeepsLocal cs b
  | .assigned => False

/-- Distinct node ids. -/
def Distinct (cs : List NodeLoad) : Prop :=
  ∀ a ∈ cs, ∀ b ∈ cs, a.nodeID = b.nodeID → a = b

variable {p : LeastLoadedPolicy} {cs : List NodeLoad} {r : Reason}

theorem isLeast_of_sorted {rest : List NodeLoad} {best : NodeLoad}
    (hs : cs.insertionSort p.effective.before = best :: rest) : p.IsLeast cs best := by
  have hmem : ∀ c, c ∈ best :: rest ↔ c ∈ cs := fun c => by
    rw [← hs, mem_insertionSort]
  refine ⟨(hmem best).1 mem_cons_self, ?_⟩
  intro c hc
  have hsorted : (best :: rest).Pairwise p.effective.before :=
    hs ▸ pairwise_insertionSort p.effective.before cs
  rcases mem_cons.1 ((hmem c).2 hc) with rfl | hc
  · exact (Std.Total.total c c).elim id id
  · exact rel_of_pairwise_cons hsorted hc

theorem exists_sorted (p : LeastLoadedPolicy) (hne : cs ≠ []) :
    ∃ best rest, cs.insertionSort p.effective.before = best :: rest := by
  refine exists_cons_of_ne_nil fun hs => hne ?_
  have hlen := congrArg length hs
  rw [length_insertionSort] at hlen
  exact length_eq_zero_iff.1 hlen

theorem exists_isLeast (hne : cs ≠ []) :
    ∃ m, p.IsLeast cs m := by
  obtain ⟨best, rest, hs⟩ := p.exists_sorted hne
  exact ⟨best, isLeast_of_sorted hs⟩

/-- Two least candidates have one id. -/
theorem IsLeast.unique (hd : Distinct cs) (ha : p.IsLeast cs a) (hb : p.IsLeast cs b) : a = b := by
  apply hd a ha.mem b hb.mem
  have heq := (LoadWeights.before_iff.1 (ha.before b hb.mem)).antisymm
    (LoadWeights.before_iff.1 (hb.before a ha.mem))
  exact (Prod.mk.inj (toLex.injective heq)).2

theorem Chooses.unique {r' : Reason} (hd : Distinct cs) (ha : p.Chooses cs a r)
    (hb : p.Chooses cs b r') : a = b ∧ r = r' := by
  cases r with
  | assigned => exact ha.elim
  | «local» =>
    cases r' with
    | assigned => exact hb.elim
    | «local» =>
      exact ⟨hd a ha.mem b hb.mem (ha.isLocal.trans hb.isLocal.symm), rfl⟩
    | leastLoaded => exact absurd ha (hb.2 a)
  | leastLoaded =>
    cases r' with
    | assigned => exact hb.elim
    | «local» => exact absurd hb (ha.2 b)
    | leastLoaded => exact ⟨ha.1.unique hd hb.1, rfl⟩

/-- The choice of the policy is the one it is for. -/
theorem select_chooses (hd : Distinct cs) (hne : cs ≠ []) :
    ∃ c r, p.select cs = .ok (c, r) ∧ p.Chooses cs c r := by
  obtain ⟨best, rest, hs⟩ := p.exists_sorted hne
  unfold select
  have hleast := isLeast_of_sorted hs
  have hmem : ∀ c, c ∈ best :: rest ↔ c ∈ cs := fun c => by
    rw [← hs, mem_insertionSort]
  simp only [hs]
  by_cases hnamed : p.localNodeID ≠ ""
  swap
  · rw [if_neg hnamed]
    exact ⟨best, .leastLoaded, rfl, hleast, fun b hb => hnamed hb.named⟩
  rw [if_pos hnamed]
  cases hf : (best :: rest).find? fun c => c.nodeID = p.localNodeID with
  | none =>
    refine ⟨best, .leastLoaded, rfl, hleast, ?_⟩
    intro b hb
    have := find?_eq_none.1 hf b ((hmem b).2 hb.mem)
    exact this (by simpa using hb.isLocal)
  | some c =>
    have hid : c.nodeID = p.localNodeID := by simpa using find?_some hf
    have hc : c ∈ cs := (hmem c).1 (mem_of_find?_eq_some hf)
    simp only
    split_ifs with hle
    · refine ⟨c, .local, rfl, hc, hnamed, hid, ?_⟩
      intro b hb
      have := LoadWeights.score_le_of_before (hleast.before b hb)
      linarith
    · refine ⟨best, .leastLoaded, rfl, hleast, ?_⟩
      intro b hb
      obtain rfl := hd b hb.mem c hc (hb.isLocal.trans hid.symm)
      exact hle (hb.within best hleast.mem)

/-- **The policy**: `select` yields exactly what it is for. -/
theorem select_eq_ok_iff (hd : Distinct cs) (hne : cs ≠ []) :
    p.select cs = .ok (c, r) ↔ p.Chooses cs c r := by
  obtain ⟨c', r', hsel, hchooses⟩ := select_chooses (p := p) hd hne
  constructor
  · intro h
    rw [hsel] at h
    obtain ⟨rfl, rfl⟩ := Prod.mk.inj (Except.ok.inj h)
    exact hchooses
  · intro h
    obtain ⟨rfl, rfl⟩ := h.unique hd hchooses
    exact hsel

variable {ds : List NodeLoad}

theorem Chooses.perm (h : cs.Perm ds) (hc : p.Chooses cs c r) : p.Chooses ds c r := by
  have hlocal : ∀ b, p.KeepsLocal ds b → p.KeepsLocal cs b := fun b hb =>
    ⟨h.mem_iff.2 hb.mem, hb.named, hb.isLocal, fun d hd => hb.within d (h.mem_iff.1 hd)⟩
  cases r with
  | assigned => exact hc
  | «local» =>
    exact ⟨h.mem_iff.1 hc.mem, hc.named, hc.isLocal, fun d hd => hc.within d (h.mem_iff.2 hd)⟩
  | leastLoaded =>
    obtain ⟨hleast, hno⟩ := hc
    exact ⟨⟨h.mem_iff.1 hleast.mem, fun d hd => hleast.before d (h.mem_iff.2 hd)⟩,
      fun b hb => hno b (hlocal b hb)⟩

/-- The order of the candidates does not matter. -/
theorem select_perm (hd : Distinct cs) (h : cs.Perm ds) : p.select cs = p.select ds := by
  by_cases hne : cs = []
  · subst hne
    rw [h.symm.eq_nil]
  obtain ⟨c, r, hsel, hchooses⟩ := select_chooses (p := p) hd hne
  have hd' : Distinct ds := fun a ha b hb => hd a (h.mem_iff.2 ha) b (h.mem_iff.2 hb)
  have hne' : ds ≠ [] := fun hnil => hne (hnil ▸ h).eq_nil
  rw [hsel, (select_eq_ok_iff hd' hne').2 (hchooses.perm h)]

/-- The least candidate, asked with itself as the local node, selects itself. -/
theorem select_self_of_isLeast {m : NodeLoad} (hd : Distinct cs) (hm : p.IsLeast cs m) :
    ∃ r, ({ p with localNodeID := m.nodeID } : LeastLoadedPolicy).select cs = .ok (m, r) := by
  obtain ⟨c, r, hsel, hchooses⟩ := select_chooses
    (p := { p with localNodeID := m.nodeID }) hd (ne_nil_of_mem hm.mem)
  refine ⟨r, ?_⟩
  rw [hsel]
  cases r with
  | assigned => exact hchooses.elim
  | «local» => rw [hd c hchooses.mem m hm.mem hchooses.isLocal]
  | leastLoaded =>
    have hm' : ({ p with localNodeID := m.nodeID } : LeastLoadedPolicy).IsLeast cs m :=
      ⟨hm.mem, hm.before⟩
    rw [hchooses.1.unique hd hm']

end LeastLoadedPolicy

/-! ## `SelectNode` -/

/-- `roomRouter`: what it is built with, and the node it runs on. -/
structure Router where
  self : NodeId
  config : RouterConfig
  policy : LeastLoadedPolicy
  deriving DecidableEq

/-- What one call of `SelectNode` reads: the answer of `stateOK`, the instant, the registry, the
load snapshot (`none` for an error) and the assignment of the room. -/
structure Reads where
  stateOK : Bool := true
  now : Time
  nodes : List NodeInfo
  snapshot : Option (List NodeLoad)
  assignment : Option NodeId := none

/-- The candidates that a call ranks. -/
def Router.candidates (r : Router) (pending : GoMap NodeId PendingCount) (now : Time)
    (nodes : List NodeInfo) (snap : List NodeLoad) : List NodeLoad :=
  (Cluster.candidates r.config now pending nodes snap).map Candidate.load

/-- The end of `SelectNode`, once it has candidates: an assignment to one of them, or the choice of
the policy, which is noted as pending. -/
def Router.choose (r : Router) (pending : GoMap NodeId PendingCount) (now : Time)
    (cs : List NodeLoad) (assignment : Option NodeId) :
    GoMap NodeId PendingCount × Except Error (NodeId × Reason) :=
  match assignment.filter fun x => cs.any fun c => c.nodeID = x with
  | some x => (pending, .ok (x, .assigned))
  | none =>
    match ({ r.policy with localNodeID := r.self } : LeastLoadedPolicy).select cs with
    | .error e => (pending, .error e)
    | .ok (chosen, reason) =>
      (notePending now pending chosen.nodeID, .ok (chosen.nodeID, reason))

/-- `SelectNode`: the pending corrections it leaves, and the node it selects. -/
def Router.selectNode (r : Router) (room : RoomId) (q : Reads)
    (pending : GoMap NodeId PendingCount) :
    GoMap NodeId PendingCount × Except Error (NodeId × Reason) :=
  if !q.stateOK then
    (pending, .error { code := .clusterStateUnavailable
                       message := "cannot route: cluster state unavailable", roomID := room })
  else
    match q.snapshot with
    | none =>
      (pending, .error { code := .clusterStateUnavailable
                         message := "cannot route: load snapshot failed", roomID := room })
    | some snap =>
      match r.candidates pending q.now q.nodes snap with
      | [] =>
        (pending, .error { code := .noCapacity
                           message := "all nodes are at capacity or unavailable", roomID := room })
      | c :: cs => r.choose pending q.now (c :: cs) q.assignment

def CapacityConfig.hard (cap : CapacityConfig) : ℚ :=
  if cap.hardLimitFraction ≤ 0 then 1 else cap.hardLimitFraction

structure BelowLimits (cap : CapacityConfig) (l : NodeLoad) : Prop where
  rooms : 0 < cap.maxRooms → (l.rooms : ℚ) < cap.maxRooms * cap.hard
  participants : 0 < cap.maxParticipants → (l.participants : ℚ) < cap.maxParticipants * cap.hard
  publications : 0 < cap.maxPublications → (l.publications : ℚ) < cap.maxPublications * cap.hard

theorem exceeds_eq_false {current max : ℤ} {frac : ℚ} :
    exceeds current max frac = false ↔ (0 < max → (current : ℚ) < max * frac) := by
  unfold exceeds
  split_ifs with hmax
  · simp [not_lt.2 hmax]
  · simp [not_le.1 hmax]

variable {l : NodeLoad} {pending pending' : GoMap NodeId PendingCount} {now : Time}
  {snap : List NodeLoad} {x : NodeId} {r : Router} {reason : Reason}

theorem overHardLimit_eq_false {cap : CapacityConfig} :
    overHardLimit cap l = false ↔ BelowLimits cap l := by
  unfold overHardLimit
  simp only [Bool.or_eq_false_iff, exceeds_eq_false]
  exact ⟨fun h => ⟨h.1.1, h.1.2, h.2⟩, fun h => ⟨⟨h.rooms, h.participants⟩, h.publications⟩⟩

/-! ## The load counted for a node -/

/-- The report is not older than `loadStale`. -/
def NodeLoad.fresh (loadStale now : Time) (l : NodeLoad) : Bool := now - l.reportedAt ≤ loadStale

theorem lookup_byID (loadStale now : Time) (snap : List NodeLoad) (x : NodeId) :
    (byID loadStale now snap).lookup x =
      (snap.filter fun l => l.nodeID = x ∧ l.fresh loadStale now).getLast? := by
  induction snap using reverseRecOn with
  | nil => rfl
  | append_singleton snap l ih =>
    have hsnoc : byID loadStale now (snap ++ [l]) =
        if now - l.reportedAt ≤ loadStale then (byID loadStale now snap).insert l.nodeID l
        else byID loadStale now snap := by
      simp [byID]
    rw [hsnoc, filter_append]
    by_cases hfresh : now - l.reportedAt ≤ loadStale
    swap
    · have hout : ¬ decide (l.nodeID = x ∧ l.fresh loadStale now = true) = true := fun h =>
        hfresh (of_decide_eq_true (of_decide_eq_true h).2)
      rw [if_neg hfresh, ih, filter_cons_of_neg (by exact hout), filter_nil, append_nil]
    rw [if_pos hfresh, GoMap.lookup_insert_eq]
    by_cases hx : x = l.nodeID
    · rw [if_pos hx, filter_cons_of_pos (by simpa [NodeLoad.fresh, hx] using hfresh),
        filter_nil, getLast?_concat]
    · rw [if_neg hx, ih, filter_cons_of_neg (by simp [Ne.symm hx]), filter_nil, append_nil]

theorem nodeID_applyPending (pending : GoMap NodeId PendingCount) (l : NodeLoad) :
    (applyPending pending l).nodeID = l.nodeID := by
  unfold applyPending
  split <;> rfl

theorem rooms_applyPending {pc : PendingCount} (h : pending.lookup l.nodeID = some pc) :
    (applyPending pending l).rooms = l.rooms + pc.n := by
  unfold applyPending
  rw [h]

theorem applyPending_of_none (h : pending.lookup l.nodeID = none) : applyPending pending l = l := by
  unfold applyPending
  rw [h]

theorem nodeID_loadOf (loadStale now : Time) (snap : List NodeLoad)
    (pending : GoMap NodeId PendingCount) (x : NodeId) :
    (loadOf (byID loadStale now snap) pending x).nodeID = x := by
  unfold loadOf
  rw [nodeID_applyPending]
  cases hl : (byID loadStale now snap).lookup x with
  | none => rfl
  | some l =>
    rw [lookup_byID] at hl
    have hmem := mem_of_getLast? hl
    simp only [mem_filter, decide_eq_true_eq] at hmem
    exact hmem.2.1

/-- With one report per node, a fresh report is the one that counts. -/
theorem loadOf_of_fresh (hone : LeastLoadedPolicy.Distinct snap)
    (pending : GoMap NodeId PendingCount) (hl : l ∈ snap) (hfresh : l.fresh loadStale now = true) :
    loadOf (byID loadStale now snap) pending l.nodeID = applyPending pending l := by
  have hmem : l ∈ snap.filter fun l' => l'.nodeID = l.nodeID ∧ l'.fresh loadStale now := by
    simp [hl, hfresh]
  unfold loadOf
  rw [lookup_byID]
  cases hlast : (snap.filter fun l' => l'.nodeID = l.nodeID ∧ l'.fresh loadStale now).getLast? with
  | none =>
    rw [getLast?_eq_none_iff.1 hlast] at hmem
    exact absurd hmem not_mem_nil
  | some l' =>
    have hl' := mem_of_getLast? hlast
    simp only [mem_filter, decide_eq_true_eq] at hl'
    obtain rfl := hone l' hl'.1 l hl hl'.2.1
    rfl

/-- A node without a fresh report counts as empty. -/
theorem loadOf_of_stale (pending : GoMap NodeId PendingCount)
    (h : ∀ l ∈ snap, l.nodeID = x → l.fresh loadStale now = false) :
    loadOf (byID loadStale now snap) pending x = applyPending pending { nodeID := x } := by
  have hnil : (snap.filter fun l => l.nodeID = x ∧ l.fresh loadStale now) = [] := by
    rw [filter_eq_nil_iff]
    intro l hl hboth
    simp only [decide_eq_true_eq] at hboth
    exact absurd hboth.2 (by simp [h l hl hboth.1])
  unfold loadOf
  rw [lookup_byID, hnil]
  rfl

/-! ## What is selected -/

/-- A candidate is a listed node that accepts sessions and is not stale, with the load counted for
it, below the hard limits. -/
theorem mem_candidates_iff {cfg : RouterConfig} {k : Candidate} :
    k ∈ candidates cfg now pending nodes snap ↔
      k.node ∈ nodes ∧ k.node.state.acceptsSessions = true ∧
      RedisNodes.isStale cfg.nodeTTL now k.node = false ∧
      k.load = loadOf (byID cfg.loadStale now snap) pending k.node.id ∧
      BelowLimits cfg.cap k.load := by
  unfold candidates
  rw [mem_filterMap]
  constructor
  · rintro ⟨n, hn, hk⟩
    simp only at hk
    split_ifs at hk with hacc hst hover
    cases hk
    exact ⟨hn, by simpa using hacc, by simpa using hst, rfl,
      overHardLimit_eq_false.1 (by simpa using hover)⟩
  · rintro ⟨hn, hacc, hst, hload, hbelow⟩
    refine ⟨k.node, hn, ?_⟩
    simp [hacc, hst, ← hload, overHardLimit_eq_false.2 hbelow]

theorem Router.mem_candidates (h : c ∈ r.candidates pending now nodes snap) :
    ∃ n ∈ nodes, n.id = c.nodeID ∧ n.state.acceptsSessions = true ∧
      RedisNodes.isStale r.config.nodeTTL now n = false ∧
      c = loadOf (byID r.config.loadStale now snap) pending c.nodeID ∧
      BelowLimits r.config.cap c := by
  obtain ⟨k, hk, rfl⟩ := mem_map.1 h
  obtain ⟨hn, hacc, hst, hload, hbelow⟩ := mem_candidates_iff.1 hk
  have hid : k.load.nodeID = k.node.id := by
    rw [hload, nodeID_loadOf]
  exact ⟨k.node, hn, hid.symm, hacc, hst, hid ▸ hload, hbelow⟩

theorem LeastLoadedPolicy.of_select {p : LeastLoadedPolicy} {cs : List NodeLoad}
    (h : p.select cs = .ok (c, reason)) : c ∈ cs ∧ reason ≠ .assigned := by
  unfold LeastLoadedPolicy.select at h
  cases hs : cs.insertionSort p.effective.before with
  | nil => simp [hs] at h
  | cons best rest =>
    have hmem : ∀ c, c ∈ best :: rest → c ∈ cs := fun c hc => by
      rwa [← hs, mem_insertionSort] at hc
    simp only [hs] at h
    split_ifs at h with hnamed
    · split at h
      next c' hc' =>
        split_ifs at h <;> obtain ⟨rfl, rfl⟩ := Prod.mk.inj (Except.ok.inj h)
        · exact ⟨hmem c' (mem_of_find?_eq_some hc'), nofun⟩
        · exact ⟨hmem best mem_cons_self, nofun⟩
      next =>
        obtain ⟨rfl, rfl⟩ := Prod.mk.inj (Except.ok.inj h)
        exact ⟨hmem best mem_cons_self, nofun⟩
    · obtain ⟨rfl, rfl⟩ := Prod.mk.inj (Except.ok.inj h)
      exact ⟨hmem best mem_cons_self, nofun⟩

/-- What `choose` selects: an assigned candidate, with nothing noted, or a candidate that the
policy chose, which is noted. -/
theorem Router.choose_ok {cs : List NodeLoad} {assignment : Option NodeId}
    (h : r.choose pending now cs assignment = (pending', .ok (x, reason))) :
    (∃ c ∈ cs, c.nodeID = x) ∧
      (reason = .assigned ∧ pending' = pending ∨
        reason ≠ .assigned ∧ pending' = notePending now pending x) := by
  unfold Router.choose at h
  split at h
  next y hy =>
    obtain ⟨rfl, hok⟩ := Prod.mk.inj h
    obtain ⟨rfl, rfl⟩ := Prod.mk.inj (Except.ok.inj hok)
    obtain ⟨-, hany⟩ := Option.filter_eq_some_iff.1 hy
    exact ⟨by simpa using hany, .inl ⟨rfl, rfl⟩⟩
  next =>
    split at h
    next => exact absurd (congrArg Prod.snd h) (by simp)
    next chosen reason' hsel =>
      obtain ⟨rfl, hok⟩ := Prod.mk.inj h
      obtain ⟨rfl, rfl⟩ := Prod.mk.inj (Except.ok.inj hok)
      obtain ⟨hmem, hreason⟩ := LeastLoadedPolicy.of_select hsel
      exact ⟨⟨chosen, hmem, rfl⟩, .inr ⟨hreason, rfl⟩⟩

/-- A successful call chose among the candidates of the snapshot it read. -/
theorem Router.selectNode_ok {q : Reads}
    (h : r.selectNode room q pending = (pending', .ok (x, reason))) :
    ∃ snap, q.snapshot = some snap ∧
      r.choose pending q.now (r.candidates pending q.now q.nodes snap) q.assignment =
        (pending', .ok (x, reason)) := by
  unfold Router.selectNode at h
  split_ifs at h
  · exact absurd (congrArg Prod.snd h) (by simp)
  split at h
  next => exact absurd (congrArg Prod.snd h) (by simp)
  next snap hsnap =>
    refine ⟨snap, hsnap, ?_⟩
    split at h
    next => exact absurd (congrArg Prod.snd h) (by simp)
    next c cs hcs =>
      rw [hcs]
      exact h

/-- The selected node accepts sessions, is not stale, and is below every hard limit with the load
counted for it. -/
theorem Router.selectNode_sound {q : Reads}
    (h : r.selectNode room q pending = (pending', .ok (x, reason))) :
    ∃ snap, q.snapshot = some snap ∧
      (∃ n ∈ q.nodes, n.id = x ∧ n.state.acceptsSessions = true ∧
        RedisNodes.isStale r.config.nodeTTL q.now n = false) ∧
      BelowLimits r.config.cap (loadOf (byID r.config.loadStale q.now snap) pending x) := by
  obtain ⟨snap, hsnap, hchoose⟩ := Router.selectNode_ok h
  obtain ⟨⟨c, hc, rfl⟩, -⟩ := Router.choose_ok hchoose
  obtain ⟨n, hn, hid, hacc, hst, hload, hbelow⟩ := Router.mem_candidates hc
  rw [hload] at hbelow
  exact ⟨snap, hsnap, ⟨n, hn, hid, hacc, hst⟩, hbelow⟩

theorem LeastLoadedPolicy.select_map {p : LeastLoadedPolicy} {cs : List Candidate}
    (hid : ∀ k ∈ cs, k.load.nodeID = k.node.id) (hw : p.effective = defaultLoadWeights)
    (hm : p.preferLocalMargin = Cluster.preferLocalMargin) :
    (p.select (cs.map Candidate.load)).toOption.map (fun c => (c.1.nodeID, c.2)) =
      Cluster.select p.localNodeID cs := by
  have hsort : (cs.map Candidate.load).insertionSort defaultLoadWeights.before =
      (cs.insertionSort Candidate.before).map Candidate.load := by
    symm
    apply map_insertionSort
    intro a ha b hb
    unfold Candidate.before LoadWeights.before Candidate.score
    rw [hid a ha, hid b hb]
  have hid' : ∀ k ∈ cs.insertionSort Candidate.before, k.load.nodeID = k.node.id := fun k hk =>
    hid k ((mem_insertionSort _).1 hk)
  unfold LeastLoadedPolicy.select Cluster.select
  simp only [hw, hsort, hm]
  cases hs : cs.insertionSort Candidate.before with
  | nil => rfl
  | cons best rest =>
    rw [hs] at hid'
    have hfind : ((best :: rest).map Candidate.load).find? (fun c => c.nodeID = p.localNodeID) =
        ((best :: rest).find? fun k => k.node.id = p.localNodeID).map Candidate.load := by
      rw [find?_map, find?_congr fun k hk => ?_]
      simp [hid' k hk]
    have hbest : best.load.nodeID = best.node.id := hid' best mem_cons_self
    rw [map_cons] at hfind
    simp only [map_cons, hfind]
    by_cases hnamed : p.localNodeID ≠ ""
    · rw [if_pos hnamed]
      cases hf : (best :: rest).find? fun k => k.node.id = p.localNodeID with
      | none => simp [Except.toOption, hbest]
      | some k =>
        have hk : k.load.nodeID = k.node.id := hid' k (mem_of_find?_eq_some hf)
        simp only [Option.map_some, Candidate.score, hnamed, ne_eq, not_false_eq_true, true_and]
        split_ifs <;> simp [Except.toOption, hbest, hk]
    · rw [if_neg hnamed]
      cases hf : (best :: rest).find? fun k => k.node.id = p.localNodeID with
      | none => simp [Except.toOption, hbest]
      | some k => simp [Except.toOption, hbest, not_not.1 hnamed]

/-- With the policy the cluster is built with, the choice among the candidates is that of
`elect`. -/
theorem Router.choose_eq_elect (r : Router) (pending : GoMap NodeId PendingCount) (now : Time)
    (nodes : List NodeInfo) (snap : List NodeLoad) (assignment : Option NodeId)
    (hw : r.policy.weights = defaultLoadWeights)
    (hm : r.policy.preferLocalMargin = preferLocalMargin) :
    (r.choose pending now (r.candidates pending now nodes snap) assignment).2.toOption =
      elect r.self (Cluster.candidates r.config now pending nodes snap) assignment := by
  set cs := Cluster.candidates r.config now pending nodes snap with hcs
  have hid : ∀ k ∈ cs, k.load.nodeID = k.node.id := fun k hk => by
    rw [(mem_candidates_iff.1 hk).2.2.2.1, nodeID_loadOf]
  have hany : ∀ x, ((cs.map Candidate.load).any fun c => c.nodeID = x) =
      cs.any fun k => k.node.id = x := fun x => by
    rw [Bool.eq_iff_iff]
    simp only [any_map, any_eq_true, Function.comp, decide_eq_true_eq]
    exact exists_congr fun k => and_congr_right fun hk => by rw [hid k hk]
  have hpolicy : ∀ o : Except Error (NodeLoad × Reason),
      (match o with
        | .error e => (pending, .error e)
        | .ok (chosen, reason) =>
          (notePending now pending chosen.nodeID, .ok (chosen.nodeID, reason)) :
        GoMap NodeId PendingCount × Except Error (NodeId × Reason)).2.toOption =
      o.toOption.map fun c => (c.1.nodeID, c.2) := by
    rintro (e | ⟨chosen, reason⟩) <;> rfl
  have hselect := LeastLoadedPolicy.select_map (p := { r.policy with localNodeID := r.self })
    hid (by simp [LeastLoadedPolicy.effective, hw]) hm
  unfold Router.choose elect Router.candidates
  rw [← hcs]
  cases assignment with
  | none =>
    rw [Option.filter_none]
    exact (hpolicy _).trans hselect
  | some x =>
    rw [Option.filter_some, hany]
    show _ = if (cs.any fun k => k.node.id = x) = true then some (x, .assigned)
      else Cluster.select r.self cs
    split_ifs with hx
    · rfl
    · exact (hpolicy _).trans hselect

/-- **Selection is sound, independent of the order, and elects somebody.** A selected node accepts
sessions, is not stale, and its fresh report with the pending rooms, or the pending rooms alone if
it has none, is below every hard limit. Among candidates with distinct ids the policy returns the
local node if that is a candidate within the margin of the lowest score, and otherwise the least
candidate by score and id; the order of the candidates does not matter; and the least candidate
selects itself when it is the local node. -/
theorem selection_sound :
    (∀ (r : Router) (room : RoomId) (q : Reads) (pending pending' : GoMap NodeId PendingCount)
        (x : NodeId) (reason : Reason),
      (∀ snap, q.snapshot = some snap → LeastLoadedPolicy.Distinct snap) →
      r.selectNode room q pending = (pending', .ok (x, reason)) →
      ∃ snap, q.snapshot = some snap ∧
        (∃ n ∈ q.nodes, n.id = x ∧ n.state.acceptsSessions = true ∧
          RedisNodes.isStale r.config.nodeTTL q.now n = false) ∧
        (∀ l ∈ snap, l.nodeID = x → l.fresh r.config.loadStale q.now = true →
          BelowLimits r.config.cap (applyPending pending l)) ∧
        ((∀ l ∈ snap, l.nodeID = x → l.fresh r.config.loadStale q.now = false) →
          BelowLimits r.config.cap (applyPending pending { nodeID := x }))) ∧
    (∀ (p : LeastLoadedPolicy) (cs : List NodeLoad), LeastLoadedPolicy.Distinct cs → cs ≠ [] →
      ∃ c reason, p.select cs = .ok (c, reason) ∧
        (p.KeepsLocal cs c ∨ p.IsLeast cs c ∧ ∀ b, ¬ p.KeepsLocal cs b)) ∧
    (∀ (p : LeastLoadedPolicy) (cs ds : List NodeLoad), LeastLoadedPolicy.Distinct cs →
      cs.Perm ds → p.select cs = p.select ds) ∧
    (∀ (p : LeastLoadedPolicy) (cs : List NodeLoad), LeastLoadedPolicy.Distinct cs → cs ≠ [] →
      ∃ m, p.IsLeast cs m ∧
        ∃ reason, ({ p with localNodeID := m.nodeID } : LeastLoadedPolicy).select cs =
          .ok (m, reason)) := by
  refine ⟨?_, ?_, fun p cs ds hd hperm => LeastLoadedPolicy.select_perm hd hperm, ?_⟩
  · intro r room q pending pending' x reason hone h
    obtain ⟨snap, hsnap, hnode, hbelow⟩ := Router.selectNode_sound h
    refine ⟨snap, hsnap, hnode, ?_, ?_⟩
    · rintro l hl rfl hfresh
      rwa [loadOf_of_fresh (hone snap hsnap) pending hl hfresh] at hbelow
    · intro hstale
      rwa [loadOf_of_stale pending hstale] at hbelow
  · intro p cs hd hne
    obtain ⟨c, reason, hsel, hchooses⟩ := LeastLoadedPolicy.select_chooses (p := p) hd hne
    refine ⟨c, reason, hsel, ?_⟩
    cases reason with
    | assigned => exact hchooses.elim
    | «local» => exact .inl hchooses
    | leastLoaded => exact .inr hchooses
  · intro p cs hd hne
    obtain ⟨m, hm⟩ := LeastLoadedPolicy.exists_isLeast (p := p) hne
    exact ⟨m, hm, LeastLoadedPolicy.select_self_of_isLeast hd hm⟩

theorem named_b : ("b" : NodeId) ≠ "" := by decide

/-- A router on node `b` with the default policy and at most `maxRooms` rooms on a node. -/
def routerB (maxRooms : ℤ) : Router where
  self := "b"
  config := { nodeTTL := 15 * second, cap := { maxRooms } }
  policy := ⟨defaultLoadWeights, preferLocalMargin, ""⟩

/-- The only node `b`, seen `age` ago, with a report of that time. -/
def readsB (now age : Time) (rooms : ℤ) : Reads where
  now := now
  nodes := [⟨"b", .ready, now - age, named_b⟩]
  snapshot := some [{ nodeID := "b", rooms, reportedAt := now - age }]

/-- A node that reported ten rooms of ten, eleven seconds ago, is selected: the report is older
than `loadStale`, and a node without a fresh report counts as empty. -/
theorem selection_ignores_stale_report :
    ((routerB 10).selectNode "r" (readsB (20 * second) (11 * second) 10) ∅).2.toOption =
        some ("b", .local) ∧
    ∃ l, (readsB (20 * second) (11 * second) 10).snapshot = some [l] ∧ l.nodeID = "b" ∧
      ¬ BelowLimits (routerB 10).config.cap (applyPending ∅ l) := by
  refine ⟨by decide +kernel, _, rfl, rfl, ?_⟩
  intro h
  exact absurd (h.rooms (by decide)) (by decide +kernel)

/-! ## Histories of calls -/

/-- One call of a history. -/
structure Call where
  room : RoomId
  reads : Reads

/-- The pending corrections of a router after a history of calls. -/
def Router.after (r : Router) (calls : List Call) : GoMap NodeId PendingCount :=
  calls.foldl (fun pending c => (r.selectNode c.room c.reads pending).1) ∅

theorem Router.after_snoc (r : Router) (calls : List Call) (c : Call) :
    r.after (calls ++ [c]) = (r.selectNode c.room c.reads (r.after calls)).1 := by
  simp [Router.after]

/-- The history selected the node at the instant, for the reason. -/
def Router.Selected (r : Router) (calls : List Call) (x : NodeId) (t : Time) (reason : Reason) :
    Prop :=
  ∃ pre c post, calls = pre ++ c :: post ∧ c.reads.now = t ∧
    (r.selectNode c.room c.reads (r.after pre)).2 = .ok (x, reason)

/-- The node is listed, `READY` and not stale, and its report is fresh, below the hard limits, and
newer than every selection of the node, all of which are more than five seconds ago. -/
structure Settled (r : Router) (calls : List Call) (q : Reads) (snap : List NodeLoad)
    (n : NodeInfo) (l : NodeLoad) : Prop where
  listed : n ∈ q.nodes
  ready : n.state = .ready
  live : RedisNodes.isStale r.config.nodeTTL q.now n = false
  read : q.snapshot = some snap
  one : LeastLoadedPolicy.Distinct snap
  reported : l ∈ snap
  own : l.nodeID = n.id
  fresh : l.fresh r.config.loadStale q.now = true
  below : BelowLimits r.config.cap l
  absorbed : ∀ t reason, r.Selected calls n.id t reason → t < l.reportedAt
  quiet : ∀ t reason, r.Selected calls n.id t reason → 5 * second < q.now - t

/-- What a call does to the pending corrections: it notes the node that its policy chose, or
nothing, if it fails or follows an assignment. -/
theorem Router.selectNode_cases (r : Router) (room : RoomId) (q : Reads)
    (pending : GoMap NodeId PendingCount) :
    ((r.selectNode room q pending).1 = pending ∧
      ∀ x reason, (r.selectNode room q pending).2 = .ok (x, reason) → reason = .assigned) ∨
    ∃ x reason, reason ≠ .assigned ∧ (r.selectNode room q pending).2 = .ok (x, reason) ∧
      (r.selectNode room q pending).1 = notePending q.now pending x := by
  unfold Router.selectNode
  split_ifs
  · exact .inl ⟨rfl, nofun⟩
  split
  · exact .inl ⟨rfl, nofun⟩
  split
  · exact .inl ⟨rfl, nofun⟩
  unfold Router.choose
  split
  · refine .inl ⟨rfl, ?_⟩
    rintro x reason heq
    exact (Prod.mk.inj (Except.ok.inj heq)).2.symm
  split
  · exact .inl ⟨rfl, nofun⟩
  next chosen reason hsel =>
    exact .inr ⟨_, reason, (LeastLoadedPolicy.of_select hsel).2, rfl, rfl⟩

theorem one_le_of_notePending {y : NodeId} (hpos : ∀ x pc, pending.lookup x = some pc → 1 ≤ pc.n) :
    ∀ x pc, (notePending now pending y).lookup x = some pc → 1 ≤ pc.n := by
  intro x pc h
  unfold notePending at h
  cases hy : pending.lookup y with
  | none =>
    simp only [hy, GoMap.lookup_insert_eq] at h
    split_ifs at h
    · cases h
      exact le_rfl
    · exact hpos x pc h
  | some old =>
    simp only [hy, GoMap.lookup_insert_eq] at h
    split_ifs at h
    · cases h
      exact le_rfl
    · cases h
      have := hpos y old hy
      show 1 ≤ old.n + 1
      omega
    · exact hpos x pc h

/-- A pending correction counts at least one room, after any history. -/
theorem Router.one_le_after (r : Router) (calls : List Call) :
    ∀ x pc, (r.after calls).lookup x = some pc → 1 ≤ pc.n := by
  induction calls using reverseRecOn with
  | nil => exact fun x pc h => absurd h (by simp [Router.after])
  | append_singleton calls c ih =>
    rw [Router.after_snoc]
    rcases r.selectNode_cases c.room c.reads (r.after calls) with
      ⟨hsame, -⟩ | ⟨y, -, -, -, hnote⟩
    · rw [hsame]
      exact ih
    · rw [hnote]
      exact one_le_of_notePending ih

theorem Router.selected_snoc {c : Call} {t : Time} :
    r.Selected (calls ++ [c]) x t reason ↔ r.Selected calls x t reason ∨
      c.reads.now = t ∧ (r.selectNode c.room c.reads (r.after calls)).2 = .ok (x, reason) := by
  constructor
  · rintro ⟨pre, d, post, heq, ht, hok⟩
    rcases eq_nil_or_concat post with rfl | ⟨post, e, rfl⟩
    · obtain ⟨rfl, rfl⟩ := append_singleton_inj.1 heq
      exact .inr ⟨ht, hok⟩
    · rw [concat_eq_append, ← cons_append, ← append_assoc] at heq
      obtain ⟨rfl, rfl⟩ := append_singleton_inj.1 heq
      exact .inl ⟨pre, d, post, rfl, ht, hok⟩
  · rintro (⟨pre, d, post, rfl, ht, hok⟩ | ⟨ht, hok⟩)
    · exact ⟨pre, d, post ++ [c], by simp, ht, hok⟩
    · exact ⟨calls, c, [], rfl, ht, hok⟩

theorem lookup_notePending (now : Time) (pending : GoMap NodeId PendingCount) (y x : NodeId) :
    (notePending now pending y).lookup x ≠ none ↔ x = y ∨ pending.lookup x ≠ none := by
  unfold notePending
  cases pending.lookup y <;> simp only [GoMap.lookup_insert_eq] <;> split_ifs with hx <;> simp [hx]

/-- A correction is held for exactly the nodes that the policy has ever chosen: none is removed. -/
theorem Router.noted_iff (r : Router) (calls : List Call) (x : NodeId) :
    (r.after calls).lookup x ≠ none ↔
      ∃ t reason, reason ≠ .assigned ∧ r.Selected calls x t reason := by
  induction calls using reverseRecOn with
  | nil =>
    refine iff_of_false (by simp [Router.after]) ?_
    rintro ⟨t, reason, -, pre, c, post, heq, -⟩
    simp at heq
  | append_singleton calls c ih =>
    simp only [Router.after_snoc, Router.selected_snoc]
    rcases r.selectNode_cases c.room c.reads (r.after calls) with
      ⟨hsame, hassigned⟩ | ⟨y, reason, hreason, hok, hnote⟩
    · rw [hsame, ih]
      constructor
      · rintro ⟨t, reason, hne, hsel⟩
        exact ⟨t, reason, hne, .inl hsel⟩
      · rintro ⟨t, reason, hne, hsel | ⟨-, hok⟩⟩
        · exact ⟨t, reason, hne, hsel⟩
        · exact absurd (hassigned x reason hok) hne
    · rw [hnote, lookup_notePending, ih]
      constructor
      · rintro (rfl | ⟨t, reason', hne, hsel⟩)
        · exact ⟨c.reads.now, reason, hreason, .inr ⟨rfl, hok⟩⟩
        · exact ⟨t, reason', hne, .inl hsel⟩
      · rintro ⟨t, reason', hne, hsel | ⟨-, hok'⟩⟩
        · exact .inr ⟨t, reason', hne, hsel⟩
        · rw [hok] at hok'
          exact .inl (Prod.mk.inj (Except.ok.inj hok')).1.symm

/-- **When a node is counted with the load it reports.** Under all the circumstances in which its
report has taken in every selection, it is so exactly if the router holds no correction for it: if
every selection of the node so far was that of an assignment. -/
theorem counted_exactly_iff (r : Router) (calls : List Call) (q : Reads) (snap : List NodeLoad)
    (n : NodeInfo) (l : NodeLoad) (h : Settled r calls q snap n l) :
    ((⟨n, l⟩ : Candidate) ∈ candidates r.config q.now (r.after calls) q.nodes snap ↔
      (r.after calls).lookup n.id = none) ∧
    ((r.after calls).lookup n.id = none ↔
      ∀ t reason, r.Selected calls n.id t reason → reason = .assigned) := by
  have hnoted : (r.after calls).lookup n.id = none ↔
      ∀ t reason, r.Selected calls n.id t reason → reason = .assigned := by
    rw [← not_iff_not, ← ne_eq, r.noted_iff calls n.id]
    push Not
    exact exists₂_congr fun t reason => and_comm
  refine ⟨?_, hnoted⟩
  have hload : loadOf (byID r.config.loadStale q.now snap) (r.after calls) n.id =
      applyPending (r.after calls) l := by
    rw [← h.own]
    exact loadOf_of_fresh h.one _ h.reported h.fresh
  rw [mem_candidates_iff]
  simp only [hload]
  constructor
  · rintro ⟨-, -, -, heq, -⟩
    cases hpc : (r.after calls).lookup n.id with
    | none => rfl
    | some pc =>
      have hpos := r.one_le_after calls n.id pc hpc
      rw [← h.own] at hpc
      have hrooms := congrArg NodeLoad.rooms heq
      rw [rooms_applyPending hpc] at hrooms
      omega
  · intro hnone
    rw [← h.own] at hnone
    have hsame := applyPending_of_none hnone
    exact ⟨h.listed, by rw [h.ready]; rfl, h.live, hsame.symm, h.below⟩

/-- The report of node `b` an hour later: one room. -/
def reportB : NodeLoad := { nodeID := "b", rooms := 1, reportedAt := 3600 * second }

/-- The record of node `b` an hour later. -/
def nodeB : NodeInfo := ⟨"b", .ready, 3600 * second, named_b⟩

/-- After calls at 0 s, a node with a limit of two rooms that reports one an hour later. -/
theorem settled_hour_later (hcalls : ∀ c ∈ calls, c.reads.now = 0) :
    Settled (routerB 2) calls (readsB (3600 * second) 0 1) [reportB] nodeB reportB := by
  have hnow : ∀ t reason, (routerB 2).Selected calls nodeB.id t reason → t = 0 := by
    rintro t reason ⟨pre, c, post, rfl, rfl, -⟩
    exact hcalls c (by simp)
  have hbelow : BelowLimits (routerB 2).config.cap reportB :=
    overHardLimit_eq_false.1 (by decide +kernel)
  refine ⟨by decide +kernel, rfl, by decide +kernel, by decide +kernel, ?_, by simp, rfl,
    by decide +kernel, hbelow, ?_, ?_⟩
  · intro a ha b hb _
    rw [mem_singleton.1 ha, mem_singleton.1 hb]
  all_goals
    intro t reason hsel
    rw [hnow t reason hsel]
    decide

/-- A node that only an assignment has selected is counted with the load it reports. -/
theorem counted_exactly_assigned :
    (⟨nodeB, reportB⟩ : Candidate) ∈ candidates (routerB 2).config (3600 * second)
      ((routerB 2).after [⟨"r", { readsB 0 0 0 with assignment := some "b" }⟩])
      (readsB (3600 * second) 0 1).nodes [reportB] :=
  (counted_exactly_iff _ _ (readsB (3600 * second) 0 1) _ _ _
    (settled_hour_later (by simp [readsB]))).1.2 (by decide +kernel)

/-- A node that the policy selected once is not: an hour later, with one room of two, the room
noted then still counts, and the node is no candidate. -/
theorem settled_node_excluded :
    Settled (routerB 2) [⟨"r", readsB 0 0 0⟩] (readsB (3600 * second) 0 1) [reportB] nodeB
        reportB ∧
      candidates (routerB 2).config (3600 * second) ((routerB 2).after [⟨"r", readsB 0 0 0⟩])
        (readsB (3600 * second) 0 1).nodes [reportB] = [] :=
  ⟨settled_hour_later (by simp [readsB]), by decide +kernel⟩

end PulseRTC.Cluster
