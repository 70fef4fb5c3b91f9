import PulseRTC.Foundations.GoMap
import PulseRTC.Foundations.Runs
import PulseRTC.Cluster.NodeRegistry

/-!
# The failure detector

`scan` goes over the nodes the registry lists. A node that misses its heartbeat, by `IsStale` or
because its record says `OFFLINE`, is timed from the scan that first saw it; past the grace period
it is marked stale and reported through `onStale`, once.

On Redis the key of a crashed node expires at the very age from which `IsStale` would call its
record stale, so a scan never sees it: `crash_unreported`. The marks of `scan` and the callback are
then never made for a crash, whatever the intervals.
-/

namespace PulseRTC.Cluster

open Foundations List

structure NodeFailure where
  nodeID : NodeId
  state : NodeState
  lastHeartbeat : Time
  age : Time
  deriving DecidableEq

/-- `failureDetector`: the state that `scan` keeps. -/
structure FailureDetector where
  /-- When a scan first saw the node miss its heartbeat. -/
  firstMissed : GoMap NodeId Time := ∅
  stale : GoMap NodeId NodeFailure := ∅
  backendKnwn : Bool := true

namespace FailureDetector

/-- Both marks of a node removed. -/
def clear (d : FailureDetector) (id : NodeId) : FailureDetector :=
  { d with firstMissed := d.firstMissed.erase id, stale := d.stale.erase id }

/-- The first miss of a node recorded, if it is not yet. -/
def noteMissed (d : FailureDetector) (now : Time) (id : NodeId) : FailureDetector :=
  match d.firstMissed.lookup id with
  | some _ => d
  | none => { d with firstMissed := d.firstMissed.insert id now }

/-- The record of a node misses its heartbeat. -/
def missing (nodeTTL now : Time) (n : NodeInfo) : Bool :=
  RedisNodes.isStale nodeTTL now n || n.state == .offline

/-- The body of the loop of `scan`, with the failures found so far. -/
def visit (nodeTTL grace : Time) (self : NodeId) (now : Time)
    (acc : FailureDetector × List NodeFailure) (n : NodeInfo) :
    FailureDetector × List NodeFailure :=
  let (d, newlyStale) := acc
  if n.id = self then (d.clear n.id, newlyStale)
  else if !missing nodeTTL now n then (d.clear n.id, newlyStale)
  else
    let d := d.noteMissed now n.id
    if now - (d.firstMissed.lookup n.id).getD 0 < grace then (d, newlyStale)
    else
      match d.stale.lookup n.id with
      | some _ => (d, newlyStale)
      | none =>
        let f : NodeFailure := ⟨n.id, n.state, n.lastSeen, now - n.lastSeen⟩
        ({ d with stale := d.stale.insert n.id f }, newlyStale ++ [f])

/-- `scan` after its reads: `backendOK`, the listed nodes and the current instant. The second part
is the failures that `onStale` is then called for, in order. -/
def scan (nodeTTL grace : Time) (self : NodeId) (backendOK : Bool) (nodes : List NodeInfo)
    (now : Time) (d : FailureDetector) : FailureDetector × List NodeFailure :=
  let d := { d with backendKnwn := backendOK }
  if backendOK then nodes.foldl (visit nodeTTL grace self now) (d, []) else (d, [])

/-! ## What a scan reports -/

variable {nodeTTL grace now : Time} {self : NodeId} {f : NodeFailure}

variable {acc : FailureDetector × List NodeFailure} {nodes : List NodeInfo}

theorem mem_visit {n : NodeInfo} (hf : f ∈ (visit nodeTTL grace self now acc n).2) :
    f ∈ acc.2 ∨ missing nodeTTL now n = true ∧ f.nodeID = n.id := by
  obtain ⟨d, newly⟩ := acc
  unfold visit at hf
  simp only at hf
  split_ifs at hf with hself hmiss hgrace
  · exact .inl hf
  · exact .inl hf
  · exact .inl hf
  · rw [Bool.not_eq_true', Bool.not_eq_false] at hmiss
    split at hf
    · exact .inl hf
    · rcases mem_append.1 hf with hf | hf
      · exact .inl hf
      · exact .inr ⟨hmiss, by rw [mem_singleton.1 hf]⟩

/-- What the loop of `scan` reports is a listed node that misses its heartbeat. -/
theorem mem_foldl_visit (hf : f ∈ (nodes.foldl (visit nodeTTL grace self now) acc).2) :
    f ∈ acc.2 ∨ ∃ n ∈ nodes, missing nodeTTL now n = true ∧ f.nodeID = n.id := by
  induction nodes generalizing acc with
  | nil => exact .inl hf
  | cons n nodes ih =>
    rcases ih hf with hf | ⟨m, hm, hmiss⟩
    · rcases mem_visit hf with hf | hmiss
      · exact .inl hf
      · exact .inr ⟨n, mem_cons_self, hmiss⟩
    · exact .inr ⟨m, mem_cons_of_mem _ hm, hmiss⟩

theorem mem_scan {backendOK : Bool} {d : FailureDetector}
    (hf : f ∈ (scan nodeTTL grace self backendOK nodes now d).2) :
    ∃ n ∈ nodes, missing nodeTTL now n = true ∧ f.nodeID = n.id := by
  unfold scan at hf
  split_ifs at hf
  · exact (mem_foldl_visit hf).resolve_left (by simp)
  · simp at hf

end FailureDetector

/-! ## A crash seen by scans -/

namespace Detection

/-- The intervals of a deployment. -/
structure Timing where
  nodeTTL : Time
  grace : Time
  checkInterval : Time
  deriving DecidableEq

/-- The shared registry, the detector of one node, and the calls of `onStale` so far. -/
structure Watch where
  now : Time := 0
  nodes : RedisNodes := .empty
  detector : FailureDetector := {}
  onStale : List NodeId := []

/-- Time passes, a node refreshes its record or removes it, the detector scans. -/
inductive Act
  | wait (d : ℕ)
  | refresh (n : NodeInfo)
  | unregister (id : NodeId)
  | scan
  deriving DecidableEq

/-- One step. The scans are at the multiples of `checkInterval`, with the backend healthy. -/
def step (c : Timing) (self : NodeId) (w : Watch) : Act → Option Watch
  | .wait d => some { w with now := w.now + d }
  | .refresh n => some { w with nodes := w.nodes.refresh c.nodeTTL w.now n }
  | .unregister id => some { w with nodes := w.nodes.unregister id }
  | .scan =>
    if c.checkInterval ∣ w.now then
      let (detector, newlyStale) :=
        w.detector.scan c.nodeTTL c.grace self true (w.nodes.list w.now) w.now
      some { w with
        detector := detector
        onStale := w.onStale ++ newlyStale.map NodeFailure.nodeID }
    else none

/-- The action touches the record of `id`. -/
def Act.touches (id : NodeId) : Act → Bool
  | .refresh n => n.id = id
  | .unregister id' => id' = id
  | .wait _ | .scan => false

/-- A crash: `id` was listed as `READY` at the end of `before` and does not touch its record any
more; the run ends with a scan after `NodeTTL`, the grace period and one more interval. -/
structure Crash (c : Timing) (me id : NodeId) (before after : List Act) (w₀ w : Watch) :
    Prop where
  ttl_pos : 0 < c.nodeTTL
  grace_nonneg : 0 ≤ c.grace
  interval_pos : 0 < c.checkInterval
  other : id ≠ me
  run_before : run (step c me) {} before = some w₀
  listed : ∃ n ∈ w₀.nodes.list w₀.now, n.id = id ∧ n.state = .ready
  run_after : run (step c me) w₀ (after ++ [.scan]) = some w
  silent : ∀ a ∈ after, a.touches id = false
  late : w₀.now + c.nodeTTL + c.grace + c.checkInterval < w.now

variable {w w' : Watch} {c : Timing}

/-- The registry in step with its refreshes. -/
theorem step_synced {self : NodeId} {a : Act}
    (hw : w.nodes.Synced c.nodeTTL) (h : step c self w a = some w') :
    w'.nodes.Synced c.nodeTTL := by
  cases a with
  | wait d =>
    cases h
    exact hw
  | refresh n =>
    cases h
    simp only [RedisNodes.refresh_eq]
    exact hw.register n
  | unregister id =>
    cases h
    exact hw.unregister id
  | scan =>
    simp only [step] at h
    split_ifs at h
    cases h
    exact hw

/-- What stays as it is while a node is silent: its record, if still there, says `READY`, and it
has been reported `k` times. -/
structure Silent (c : Timing) (id : NodeId) (k : ℕ) (w : Watch) : Prop where
  synced : w.nodes.Synced c.nodeTTL
  ready : ∀ e ∈ w.nodes.entries, e.key = id → e.value.state = .ready
  reported : w.onStale.count id = k

theorem step_silent {self id : NodeId} {k : ℕ} {a : Act}
    (hw : Silent c id k w) (ha : a.touches id = false) (h : step c self w a = some w') :
    Silent c id k w' := by
  refine ⟨step_synced hw.synced h, ?_, ?_⟩
  · cases a with
    | wait d =>
      cases h
      exact hw.ready
    | refresh n =>
      cases h
      intro e he hk
      simp only [RedisNodes.refresh_eq] at he
      rcases Expiring.mem_set.1 he with rfl | ⟨he, -⟩
      · exact absurd hk (by simpa [Act.touches] using ha)
      · exact hw.ready e he hk
    | unregister id' =>
      cases h
      exact fun e he => hw.ready e (Expiring.mem_del.1 he).1
    | scan =>
      simp only [step] at h
      split_ifs at h
      cases h
      exact hw.ready
  · cases a with
    | wait d | refresh n | unregister id' =>
      cases h
      exact hw.reported
    | scan =>
      simp only [step] at h
      split_ifs at h
      cases h
      rw [count_append, hw.reported, Nat.add_eq_left, count_eq_zero]
      rintro hmem
      obtain ⟨f, hf, rfl⟩ := mem_map.1 hmem
      -- a reported node is listed and misses its heartbeat; a listed `READY` record does not
      obtain ⟨n, hn, hmiss, hid⟩ := FailureDetector.mem_scan hf
      obtain ⟨e, he, rfl⟩ := RedisNodes.mem_list.1 hn
      have hkey : e.key = f.nodeID := by
        rw [hid, (hw.synced e (Expiring.mem_live.1 he).1).1]
      have hready := hw.ready e (Expiring.mem_live.1 he).1 hkey
      simp [FailureDetector.missing, hw.synced.not_isStale hn, hready] at hmiss

/-- **A crash is never reported**: between the crash and the scan by which the detector should
have called `onStale` once, it is not called at all. -/
theorem crash_unreported (c : Timing) (me id : NodeId) (before after : List Act) (w₀ w : Watch)
    (h : Crash c me id before after w₀ w) :
    ¬ w.onStale.count id = w₀.onStale.count id + 1 := by
  have hinit : (({} : Watch).nodes).Synced c.nodeTTL := fun e he => absurd he List.not_mem_nil
  have hsync : w₀.nodes.Synced c.nodeTTL :=
    run_invariant_always (I := fun w => w.nodes.Synced c.nodeTTL)
      (fun _ _ _ hw hst => step_synced hw hst) hinit h.run_before
  obtain ⟨n, hn, rfl, hready⟩ := h.listed
  obtain ⟨e, he, rfl⟩ := RedisNodes.mem_list.1 hn
  have hmem := (Expiring.mem_live.1 he).1
  have hw₀ : Silent c e.value.id (w₀.onStale.count e.value.id) w₀ := by
    refine ⟨hsync, fun e' he' hk => ?_, rfl⟩
    rw [Expiring.eq_of_key_eq he' hmem (hk.trans (hsync e hmem).1)]
    exact hready
  have hw : Silent c e.value.id (w₀.onStale.count e.value.id) w := by
    refine run_invariant (fun _ _ _ hs ha hst => step_silent hs ha hst) hw₀
      (Along.of_forall (G := fun _ (a : Act) => a.touches e.value.id = false)
        fun a ha _ => ?_) h.run_after
    rcases mem_snoc.1 ha with ha | rfl
    · exact h.silent a ha
    · rfl
  rw [hw.reported]
  omega

/-- The default intervals of a deployment. -/
def defaultTiming : Timing := ⟨15 * second, 5 * second, 5 * second⟩

/-- A scan every five seconds, for half a minute. -/
def scansAfter : List Act := (List.replicate 6 [Act.scan, Act.wait 5000000000]).flatten

/-- With the default intervals, a node refreshes its record at 0 s and crashes; the scans up to
30 s never report it. -/
theorem crash_unreported_default :
    ∃ w₀ ∈ run (step defaultTiming "a") {} [.refresh ⟨"b", .ready, 0, by decide⟩],
    ∃ w ∈ run (step defaultTiming "a") w₀ (scansAfter ++ [.scan]),
      ¬ w.onStale.count "b" = w₀.onStale.count "b" + 1 := by
  obtain ⟨w₀, hw₀, hlisted, w, hw, hlate⟩ :
      ∃ w₀ ∈ run (step defaultTiming "a") {} [.refresh ⟨"b", .ready, 0, by decide⟩],
        (∃ n ∈ w₀.nodes.list w₀.now, n.id = "b" ∧ n.state = .ready) ∧
        ∃ w ∈ run (step defaultTiming "a") w₀ (scansAfter ++ [.scan]),
          w₀.now + 15 * second + 5 * second + 5 * second < w.now := by
    decide +kernel
  have hcrash :
      Crash defaultTiming "a" "b" [.refresh ⟨"b", .ready, 0, by decide⟩] scansAfter w₀ w :=
    ⟨by decide, by decide, by decide, by decide, hw₀, hlisted, hw, by decide, hlate⟩
  exact ⟨w₀, hw₀, w, hw, crash_unreported _ _ _ _ _ w₀ w hcrash⟩

/-- The same crash: half a minute later the key of the node is gone, the detector has marked
nothing and `onStale` was not called. -/
theorem crash_passes_unseen :
    ∃ w₀ ∈ run (step defaultTiming "a") {} [.refresh ⟨"b", .ready, 0, by decide⟩],
      (w₀.nodes.get w₀.now "b").map NodeInfo.state = some .ready ∧
      ∃ w ∈ run (step defaultTiming "a") w₀ (scansAfter ++ [.scan]),
        w₀.now + 15 * second + 5 * second + 5 * second < w.now ∧
        w.nodes.get w.now "b" = none ∧ w.detector.stale.lookup "b" = none ∧ w.onStale = [] := by
  decide +kernel

end Detection

end PulseRTC.Cluster
