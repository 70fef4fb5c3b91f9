import Mathlib.Data.Prod.Lex
import Mathlib.Data.String.Basic
import Mathlib.Tactic.Linarith
import PulseRTC.Foundations.GoMap
import PulseRTC.Cluster.NodeRegistry

/-!
# The room router

`SelectNode` chooses the node that should host a room. It lists the nodes, keeps the candidates
(accepting, not stale, below the hard limits, each with its reported load and the local pending
correction), honours a live assignment that names a candidate, and otherwise takes the least
loaded candidate, preferring the local one within a margin of the best.

* `Elects self cs assigned` says when a node elects itself, without the sorting; `elect_self_iff`
  connects it to the computation.
-/

namespace PulseRTC.Cluster

open Foundations List Option

/-- `NodeLoad`: the counts of a node that the router reads. -/
structure NodeLoad where
  nodeID : NodeId
  rooms : ℤ := 0
  participants : ℤ := 0
  publications : ℤ := 0
  subscriptions : ℤ := 0
  reportedAt : Time := 0
  deriving DecidableEq

/-- `CapacityConfig`; a limit of 0 means none. -/
structure CapacityConfig where
  maxRooms : ℤ := 0
  maxParticipants : ℤ := 0
  maxPublications : ℤ := 0
  hardLimitFraction : ℚ := 1
  deriving DecidableEq

def exceeds (current max : ℤ) (frac : ℚ) : Bool :=
  if max ≤ 0 then false else (max : ℚ) * frac ≤ (current : ℚ)

def overHardLimit (cap : CapacityConfig) (l : NodeLoad) : Bool :=
  let hard := if cap.hardLimitFraction ≤ 0 then 1 else cap.hardLimitFraction
  exceeds l.rooms cap.maxRooms hard || exceeds l.participants cap.maxParticipants hard ||
    exceeds l.publications cap.maxPublications hard

structure LoadWeights where
  participant : ℚ
  publication : ℚ
  subscription : ℚ
  room : ℚ
  deriving DecidableEq

def defaultLoadWeights : LoadWeights := ⟨1, 1 / 2, 1 / 4, 2⟩

def LoadWeights.score (w : LoadWeights) (l : NodeLoad) : ℚ :=
  l.participants * w.participant + l.publications * w.publication +
    l.subscriptions * w.subscription + l.rooms * w.room

/-- `PreferLocalMargin` of the policy the cluster is built with. -/
def preferLocalMargin : ℚ := 4

/-! ## Pending corrections -/

structure PendingCount where
  n : ℤ
  seen : Time
  deriving DecidableEq

def applyPending (pending : GoMap NodeId PendingCount) (l : NodeLoad) : NodeLoad :=
  match pending.lookup l.nodeID with
  | some pc => { l with rooms := l.rooms + pc.n, participants := l.participants + pc.n }
  | none => l

def notePending (now : Time) (pending : GoMap NodeId PendingCount) (id : NodeId) :
    GoMap NodeId PendingCount :=
  match pending.lookup id with
  | some pc =>
    pending.insert id ⟨(if now - pc.seen > 5 * second then 0 else pc.n) + 1, now⟩
  | none => pending.insert id ⟨1, now⟩

/-! ## Choosing a node -/

/-- What the router of a node is configured with. -/
structure RouterConfig where
  nodeTTL : Time
  loadStale : Time := 10 * second
  cap : CapacityConfig := {}
  deriving DecidableEq

/-- A candidate: the record of a node and its load, corrected. -/
structure Candidate where
  node : NodeInfo
  load : NodeLoad
  deriving DecidableEq

def Candidate.score (c : Candidate) : ℚ := defaultLoadWeights.score c.load

/-- `byID`: the fresh load reports by node. -/
def byID (loadStale now : Time) (snap : List NodeLoad) : GoMap NodeId NodeLoad :=
  snap.foldl (fun m l => if now - l.reportedAt ≤ loadStale then m.insert l.nodeID l else m) ∅

/-- The load the router counts for a node: the fresh report or nothing, and the pending rooms. -/
def loadOf (reports : GoMap NodeId NodeLoad) (pending : GoMap NodeId PendingCount)
    (id : NodeId) : NodeLoad :=
  applyPending pending ((reports.lookup id).getD { nodeID := id })

/-- The candidates of `SelectNode`. -/
def candidates (cfg : RouterConfig) (now : Time) (pending : GoMap NodeId PendingCount)
    (nodes : List NodeInfo) (snap : List NodeLoad) : List Candidate :=
  nodes.filterMap fun n =>
    if !n.state.acceptsSessions then none
    else if RedisNodes.isStale cfg.nodeTTL now n then none
    else
      let l := loadOf (byID cfg.loadStale now snap) pending n.id
      if overHardLimit cfg.cap l then none else some ⟨n, l⟩

/-- Why a node was selected. -/
inductive Reason
  | assigned
  | local
  | leastLoaded
  deriving DecidableEq

/-- The order of `LeastLoadedPolicy`: by score, then by id. -/
def Candidate.before (a b : Candidate) : Prop :=
  a.score < b.score ∨ a.score = b.score ∧ a.node.id ≤ b.node.id

instance : DecidableRel Candidate.before := fun a b => by
  unfold Candidate.before; infer_instance

/-- `LeastLoadedPolicy.Select`, with the local node's id. -/
def select (localID : NodeId) (cs : List Candidate) : Option (NodeId × Reason) :=
  match cs.insertionSort Candidate.before with
  | [] => none
  | best :: rest =>
    match (best :: rest).find? fun c => c.node.id = localID with
    | some c =>
      if localID ≠ "" ∧ c.score ≤ best.score + preferLocalMargin then
        some (c.node.id, .local)
      else some (best.node.id, .leastLoaded)
    | none => some (best.node.id, .leastLoaded)

/-- The decision of `SelectNode` once it has its candidates: a live assignment to one of them, or
the policy. -/
def elect (self : NodeId) (cs : List Candidate) (assigned : Option NodeId) :
    Option (NodeId × Reason) :=
  match assigned with
  | some x => if cs.any fun c => c.node.id = x then some (x, .assigned) else select self cs
  | none => select self cs

/-! ## When a node elects itself -/

/-- The node `id` is a candidate. -/
def IsCandidate (cs : List Candidate) (id : NodeId) : Prop := ∃ c ∈ cs, c.node.id = id

variable {cs : List Candidate} {self target : NodeId} {reason : Reason}

variable {id : NodeId} {a b : Candidate}

theorem IsCandidate.named (h : IsCandidate cs id) : id ≠ "" := by
  obtain ⟨c, -, rfl⟩ := h
  exact c.node.named

/-- A listed node is a candidate when it accepts sessions, is not stale and is below its hard
limits with the load counted for it. -/
theorem isCandidate_candidates {cfg : RouterConfig} {now : Time}
    {pending : GoMap NodeId PendingCount} {nodes : List NodeInfo} {snap : List NodeLoad} :
    IsCandidate (candidates cfg now pending nodes snap) id ↔
      (∃ n ∈ nodes, n.id = id ∧ n.state.acceptsSessions = true ∧
        RedisNodes.isStale cfg.nodeTTL now n = false) ∧
      overHardLimit cfg.cap (loadOf (byID cfg.loadStale now snap) pending id) = false := by
  unfold IsCandidate candidates
  simp only [mem_filterMap]
  constructor
  · rintro ⟨c, ⟨n, hn, hc⟩, rfl⟩
    split_ifs at hc with hacc hst hover
    cases hc
    exact ⟨⟨n, hn, rfl, by simpa using hacc, by simpa using hst⟩, by simpa using hover⟩
  · rintro ⟨⟨n, hn, rfl, hacc, hst⟩, hover⟩
    refine ⟨⟨n, loadOf (byID cfg.loadStale now snap) pending n.id⟩, ⟨n, hn, ?_⟩, rfl⟩
    simp [hacc, hst, hover]

/-- The node elects itself: it is a candidate of its own, and either the live assignment names it,
or no candidate is assigned and its score is within the margin of every candidate's. -/
def Elects (self : NodeId) (cs : List Candidate) (assigned : Option NodeId) : Prop :=
  (IsCandidate cs self ∧ assigned = some self) ∨
  ((∀ x, assigned = some x → ¬ IsCandidate cs x) ∧
    ∃ c ∈ cs, c.node.id = self ∧ ∀ b ∈ cs, c.score ≤ b.score + preferLocalMargin)

theorem Candidate.before_iff :
    a.before b ↔ toLex (a.score, a.node.id) ≤ toLex (b.score, b.node.id) := by
  rw [Prod.Lex.toLex_le_toLex, Candidate.before]

instance : IsTrans Candidate Candidate.before where
  trans _ _ _ hab hbc :=
    Candidate.before_iff.2 ((Candidate.before_iff.1 hab).trans (Candidate.before_iff.1 hbc))

instance : Std.Total Candidate.before where
  total _ _ := (le_total _ _).imp Candidate.before_iff.2 Candidate.before_iff.2

theorem score_le_of_before (h : a.before b) : a.score ≤ b.score :=
  h.elim le_of_lt fun h => h.1.le

section Sorted

variable {cs rest : List Candidate} {best : Candidate}
  (hs : cs.insertionSort Candidate.before = best :: rest)

include hs

variable {c : Candidate}

theorem mem_sorted : c ∈ best :: rest ↔ c ∈ cs := by
  rw [← hs, mem_insertionSort]

theorem sorted_pairwise : (best :: rest).Pairwise Candidate.before :=
  hs ▸ pairwise_insertionSort Candidate.before cs

/-- The first of the sorted candidates has the lowest score. -/
theorem best_score_le (hc : c ∈ cs) : best.score ≤ c.score := by
  rcases mem_cons.1 ((mem_sorted hs).2 hc) with rfl | hc
  · exact le_rfl
  · exact score_le_of_before (rel_of_pairwise_cons (sorted_pairwise hs) hc)

/-- The first sorted candidate of a node has the lowest score of its candidates. -/
theorem find_score_le {c' : Candidate}
    (hc : (best :: rest).find? (fun c => c.node.id = id) = some c) (hc' : c' ∈ cs)
    (hid : c'.node.id = id) : c.score ≤ c'.score := by
  obtain ⟨-, pre, post, hsplit, hpre⟩ := find?_eq_some_iff_append.1 hc
  have hpair := sorted_pairwise hs
  have hmem := (mem_sorted hs).2 hc'
  rw [hsplit] at hpair hmem
  rcases mem_append.1 hmem with hmem | hmem
  · exact absurd (hpre c' hmem) (by simp [hid])
  · rcases mem_cons.1 hmem with rfl | hmem
    · exact le_rfl
    · exact score_le_of_before (rel_of_pairwise_cons (pairwise_append.1 hpair).2.1 hmem)

end Sorted

/-- The policy picks a candidate. -/
theorem select_isCandidate (h : select self cs = some (target, reason)) :
    IsCandidate cs target := by
  unfold select at h
  cases hs : cs.insertionSort Candidate.before with
  | nil => simp [hs] at h
  | cons best rest =>
    have hbest : IsCandidate cs best.node.id :=
      ⟨best, (mem_sorted hs).1 mem_cons_self, rfl⟩
    simp only [hs] at h
    split at h
    next c hc =>
      have hmem : c ∈ cs := (mem_sorted hs).1 (mem_of_find?_eq_some hc)
      split_ifs at h <;> obtain ⟨rfl, -⟩ := Prod.mk.inj (some.inj h)
      · exact ⟨c, hmem, rfl⟩
      · exact hbest
    next =>
      obtain ⟨rfl, -⟩ := Prod.mk.inj (some.inj h)
      exact hbest

theorem select_ne_assigned (h : select self cs = some (target, reason)) : reason ≠ .assigned := by
  rintro rfl
  unfold select at h
  split at h
  next => cases h
  next =>
    split at h
    next => split_ifs at h <;> simp at h
    next => simp at h

theorem elect_isCandidate {assigned : Option NodeId}
    (h : elect self cs assigned = some (target, reason)) :
    IsCandidate cs target := by
  unfold elect at h
  split at h
  next x =>
    split_ifs at h with hany
    · obtain ⟨rfl, -⟩ := Prod.mk.inj (some.inj h)
      simpa [IsCandidate] using hany
    · exact select_isCandidate h
  next => exact select_isCandidate h

/-- An assignment to a candidate is honoured. -/
theorem elect_assigned {x : NodeId} (h : IsCandidate cs x) :
    elect self cs (some x) = some (x, .assigned) := by
  have hany : (cs.any fun c => c.node.id = x) = true := by simpa [IsCandidate] using h
  simp [elect, hany]

/-- The policy keeps the room local exactly when the local node is a candidate within the margin
of every candidate. -/
theorem select_self_iff (self : NodeId) (cs : List Candidate) :
    (∃ reason, select self cs = some (self, reason)) ↔
      ∃ c ∈ cs, c.node.id = self ∧ ∀ b ∈ cs, c.score ≤ b.score + preferLocalMargin := by
  unfold select
  cases hs : cs.insertionSort Candidate.before with
  | nil =>
    have hnil : cs = [] := by
      rw [← length_eq_zero_iff, ← length_insertionSort Candidate.before, hs]
      rfl
    simp [hnil]
  | cons best rest =>
    have hbest : best ∈ cs := (mem_sorted hs).1 mem_cons_self
    simp only
    cases hf : (best :: rest).find? fun c => c.node.id = self with
    | none =>
      have hno : ∀ c ∈ cs, c.node.id ≠ self := fun c hc => by
        simpa using find?_eq_none.1 hf c ((mem_sorted hs).2 hc)
      constructor
      · rintro ⟨reason, h⟩
        simp only [some.injEq, Prod.mk.injEq] at h
        exact absurd h.1 (hno best hbest)
      · rintro ⟨c, hc, hid, -⟩
        exact absurd hid (hno c hc)
    | some c =>
      have hid : c.node.id = self := by simpa using find?_some hf
      have hc : c ∈ cs := (mem_sorted hs).1 (mem_of_find?_eq_some hf)
      have hnamed : self ≠ "" := hid ▸ c.node.named
      simp only [hnamed, ne_eq, not_false_eq_true, true_and]
      split_ifs with hle
      · refine iff_of_true ⟨.local, by rw [hid]⟩ ⟨c, hc, hid, fun b hb => hle.trans ?_⟩
        have := best_score_le hs hb
        linarith
      · refine iff_of_false ?_ ?_
        · rintro ⟨reason, h⟩
          simp only [some.injEq, Prod.mk.injEq] at h
          -- the best candidate would be the local one, and within the margin of itself
          have := find_score_le hs hf hbest h.1
          exact hle (this.trans (by norm_num [preferLocalMargin]))
        · rintro ⟨c', hc', hid', hle'⟩
          exact hle ((find_score_le hs hf hc' hid').trans (hle' best hbest))

/-- **When a node elects itself.** -/
theorem elect_self_iff (self : NodeId) (cs : List Candidate) (assigned : Option NodeId) :
    (∃ reason, elect self cs assigned = some (self, reason)) ↔ Elects self cs assigned := by
  unfold elect Elects
  cases assigned with
  | none => simpa using select_self_iff self cs
  | some x =>
    by_cases hx : IsCandidate cs x
    · have hany : (cs.any fun c => c.node.id = x) = true := by
        simpa [IsCandidate] using hx
      simp only [hany, if_true, some.injEq, Prod.mk.injEq, exists_and_left, exists_eq', and_true]
      constructor
      · rintro rfl
        exact .inl ⟨hx, rfl⟩
      · rintro (⟨-, h⟩ | ⟨h, -⟩)
        · exact h
        · exact absurd hx (h x rfl)
    · have hany : (cs.any fun c => c.node.id = x) = false := by
        simpa [IsCandidate] using hx
      simp only [hany, Bool.false_eq_true, if_false, select_self_iff]
      constructor
      · exact fun h => .inr ⟨fun y hy => some.inj hy ▸ hx, h⟩
      · rintro (⟨hself, h⟩ | ⟨-, h⟩)
        · exact absurd (some.inj h ▸ hself) hx
        · exact h

end PulseRTC.Cluster
