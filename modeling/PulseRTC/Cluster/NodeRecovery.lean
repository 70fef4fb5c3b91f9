import PulseRTC.Foundations.Workers
import PulseRTC.Cluster.Recovery

/-!
# `RecoverNode`

One call of `RecoverNode` with its goroutines: the tests at its start, the fan-out over the rooms of
the failed node, and the end, where the load report of the node is deleted or an error returned.
What `RecoverRoom` returns is left open, and so is the order in which Go walks the ownership
snapshot. In the model of the whole cluster the fan-out is one place of the call (`NodePc.workers`);
here it is the semaphore, the wait group and the counter of the source.

* `recoverNode_covers_orphans`: every orphaned room is recovered exactly once, within the bound, and
  the result says whether all went well.
* `nodeStep_start`, `nodeStep_join`: the steps that the model of the cluster takes at that place are
  those of the fan-out.
-/

namespace PulseRTC.Cluster.NodeRecovery

open Foundations Recovery List

/-- What a call of `RecoverRoom` returns; `foreign` is an error of another type than `*Error`. -/
inductive Outcome
  | nil
  | error (e : Error)
  | foreign (message : String)
  deriving DecidableEq

/-- The result of a worker counts as a failure. -/
def Outcome.failed : Outcome → Bool
  | .nil => false
  | .error e => e.code != .alreadyRecovered && e.code != .ownershipConflict
  | .foreign _ => true

/-- `nil`, `ALREADY_RECOVERED` or `OWNERSHIP_CONFLICT`. -/
def Outcome.Fine (o : Outcome) : Prop :=
  o = .nil ∨ ∃ e, o = .error e ∧ (e.code = .alreadyRecovered ∨ e.code = .ownershipConflict)

theorem Outcome.failed_eq_false {o : Outcome} : o.failed = false ↔ o.Fine := by
  cases o with
  | nil => simp [failed, Fine]
  | error e =>
    cases h : e.code <;> simp [failed, Fine, h]
  | foreign m => simp [failed, Fine]

/-- `recoveryManager`, as far as `RecoverNode` reads it. -/
structure Manager where
  self : NodeId
  enabled : Bool
  concurrency : ℕ
  /-- `load != nil`. -/
  load : Bool
  deriving DecidableEq

def newRecoveryManager (self : NodeId) (enabled : Bool) (concurrency : ℤ) (load : Bool) : Manager :=
  { self := self, enabled := enabled, load := load,
    concurrency := if concurrency ≤ 0 then 4 else concurrency.toNat }

/-- The place of a call. -/
inductive Pc
  /-- The loop over the rooms and its goroutines. -/
  | fanout (f : Fanout RoomId Outcome)
  /-- `DeleteLoad`. -/
  | deleteLoad
  | returned (err : Option Error)
  deriving DecidableEq

/-- A call, with what has been observed of it: the `RecoverRoom` calls begun and ended, and the
`DeleteLoad` calls made. -/
structure Call where
  pc : Pc
  calls : List RoomId := []
  results : List (RoomId × Outcome) := []
  deleted : List NodeId := []
  deriving DecidableEq

/-- How many `RecoverRoom` calls are running. -/
def Call.running (s : Call) : ℕ :=
  match s.pc with
  | .fanout f => f.running
  | _ => 0

/-- The rooms of the snapshot that belong to `d`, in the order of the walk. -/
def orphaned (snapshot : GoMap RoomId NodeId) (order : List RoomId) (d : NodeId) : List RoomId :=
  order.filter fun room => snapshot.lookup room = some d

/-- The start of `RecoverNode(d)`: its tests, then the fan-out. `usable` and `stale` are the answers
of `stateUsable` and `IsStale`. -/
def recoverNode (m : Manager) (d : NodeId) (usable stale : Bool) (snapshot : GoMap RoomId NodeId)
    (order : List RoomId) : Call :=
  { pc :=
      if !m.enabled then
        .returned (some (roomError .recoveryDisabled "room recovery is disabled" "" ""))
      else if !usable then
        .returned (some (roomError .clusterStateUnavailable
          "cannot recover: state backend unavailable" "" d))
      else if !stale then .returned none
      else if d = m.self then .returned none
      else .fanout (Fanout.init (orphaned snapshot order d)) }

/-- The test of the counter, after `Wait`. -/
def afterWait (m : Manager) (d : NodeId) (failed : ℕ) : Pc :=
  if 0 < failed then
    .returned (some (roomError .clusterStateUnavailable "some rooms could not be recovered" "" d))
  else if m.load then .deleteLoad
  else .returned none

/-- A goroutine of the fan-out moves, or the call itself. -/
inductive Act
  | fanout (a : Fanout.Act Outcome)
  | caller
  deriving DecidableEq

/-- One step of a call of `RecoverNode(d)`. -/
def step (m : Manager) (d : NodeId) (s : Call) : Act → Option Call
  | .fanout a =>
    match s.pc with
    | .fanout f =>
      (f.step m.concurrency Outcome.failed a).map fun f' =>
        { s with pc := .fanout f', calls := f'.calls, results := f'.results }
    | _ => none
  | .caller =>
    match s.pc with
    | .fanout f => if f.caller = .joined then some { s with pc := afterWait m d f.failed } else none
    -- its error is dropped
    | .deleteLoad => some { s with pc := .returned none, deleted := s.deleted ++ [d] }
    | .returned _ => none

/-! ## The invariant -/

/-- All calls have ended, each orphaned room was recovered once. -/
structure Covered (jobs : List RoomId) (s : Call) : Prop where
  calls : s.calls.Perm jobs
  results : (s.results.map Prod.fst).Perm jobs

/-- What holds in every state of a call whose fan-out is over `jobs`. -/
def Inv (m : Manager) (d : NodeId) (jobs : List RoomId) (s : Call) : Prop :=
  match s.pc with
  | .fanout f =>
    Fanout.Inv m.concurrency Outcome.failed jobs f ∧ s.calls = f.calls ∧ s.results = f.results ∧
      s.deleted = []
  | .deleteLoad =>
    Covered jobs s ∧ (∀ x ∈ s.results, x.2.Fine) ∧ m.load = true ∧ s.deleted = []
  | .returned err =>
    Covered jobs s ∧ (err = none ↔ ∀ x ∈ s.results, x.2.Fine) ∧
      s.deleted = if err = none ∧ m.load = true then [d] else []

variable {m : Manager} {d : NodeId} {jobs : List RoomId}

/-- After `Wait` the counter says how the call ends. -/
theorem afterWait_inv {s : Call} {f : Fanout RoomId Outcome}
    (hf : Fanout.Inv m.concurrency Outcome.failed jobs f) (hjoined : f.caller = .joined)
    (hcalls : s.calls = f.calls) (hresults : s.results = f.results) (hdeleted : s.deleted = []) :
    Inv m d jobs { s with pc := afterWait m d f.failed } := by
  obtain ⟨hall, hended, -, hzero⟩ := hf.joined_all hjoined
  have hcovered : Covered jobs { s with pc := afterWait m d f.failed } :=
    ⟨hcalls ▸ hall, hresults ▸ hended⟩
  have hfine : f.failed = 0 ↔ ∀ x ∈ s.results, x.2.Fine := by
    rw [hzero, hresults]
    exact forall₂_congr fun x _ => Outcome.failed_eq_false
  unfold afterWait at hcovered ⊢
  by_cases hpos : 0 < f.failed
  · rw [if_pos hpos] at hcovered ⊢
    refine ⟨hcovered, iff_of_false nofun fun hall => ?_, hdeleted⟩
    have := hfine.2 hall
    omega
  · have hall := hfine.1 (Nat.eq_zero_of_not_pos hpos)
    rw [if_neg hpos] at hcovered ⊢
    cases hload : m.load with
    | true =>
      simp only [hload, if_true] at hcovered ⊢
      exact ⟨hcovered, hall, hload, hdeleted⟩
    | false =>
      simp only [hload, Bool.false_eq_true, if_false] at hcovered ⊢
      refine ⟨hcovered, iff_of_true rfl hall, ?_⟩
      simpa [hload] using hdeleted

variable {s s' : Call} {a : Act}

theorem step_inv (hs : Inv m d jobs s) (h : step m d s a = some s') : Inv m d jobs s' := by
  obtain ⟨pc, calls, results, deleted⟩ := s
  cases a with
  | fanout a =>
    cases pc with
    | fanout f =>
      obtain ⟨f', hf', rfl⟩ := Option.map_eq_some_iff.1 h
      obtain ⟨hf, -, -, hdeleted⟩ := hs
      exact ⟨Fanout.step_inv hf hf', rfl, rfl, hdeleted⟩
    | deleteLoad => cases h
    | returned err => cases h
  | caller =>
    cases pc with
    | fanout f =>
      simp only [step] at h
      split_ifs at h with hjoined
      cases h
      obtain ⟨hf, hcalls, hresults, hdeleted⟩ := hs
      exact afterWait_inv hf hjoined hcalls hresults hdeleted
    | deleteLoad =>
      cases h
      obtain ⟨hcovered, hfine, hload, hdeleted⟩ := hs
      refine ⟨⟨hcovered.calls, hcovered.results⟩, iff_of_true rfl hfine, ?_⟩
      obtain rfl : deleted = [] := hdeleted
      simp [hload]
    | returned err => cases h

/-! ## Progress -/

/-- How many steps a call has still to take, at most. -/
def Call.rank (s : Call) : ℕ :=
  match s.pc with
  | .fanout f => f.rank + 2
  | .deleteLoad => 1
  | .returned _ => 0

theorem step_rank (h : step m d s a = some s') : s'.rank < s.rank := by
  obtain ⟨pc, calls, results, deleted⟩ := s
  cases a with
  | fanout a =>
    cases pc with
    | fanout f =>
      obtain ⟨f', hf', rfl⟩ := Option.map_eq_some_iff.1 h
      have hrank := Fanout.step_rank hf'
      simp only [Call.rank]
      omega
    | deleteLoad => cases h
    | returned err => cases h
  | caller =>
    cases pc with
    | fanout f =>
      simp only [step] at h
      split_ifs at h
      cases h
      simp only [Call.rank, afterWait]
      split_ifs <;> simp only <;> omega
    | deleteLoad =>
      cases h
      exact Nat.zero_lt_one
    | returned err => cases h

theorem run_rank {as : List Act} (h : run (step m d) s as = some s') :
    as.length + s'.rank ≤ s.rank := by
  induction as generalizing s with
  | nil =>
    cases h
    simp
  | cons a as ih =>
    obtain ⟨t, ht, hrun⟩ := (run_cons_eq_some _).1 h
    have hfirst := step_rank ht
    have hrest := ih hrun
    rw [length_cons]
    omega

/-- A call that has not returned can go on, whatever the next result is. -/
theorem enabled {s : Call} (hcap : 0 < m.concurrency) (hs : Inv m d jobs s)
    (hpc : ∀ err, s.pc ≠ .returned err) : ∃ a s', step m d s a = some s' := by
  obtain ⟨pc, calls, results, deleted⟩ := s
  cases pc with
  | fanout f =>
    by_cases hjoined : f.caller = .joined
    · exact ⟨.caller, _, if_pos hjoined⟩
    · obtain ⟨a, f', hf'⟩ := hs.1.enabled hcap .nil hjoined
      exact ⟨.fanout a, _, by simp only [step, hf', Option.map_some]; rfl⟩
  | deleteLoad => exact ⟨.caller, _, rfl⟩
  | returned err => exact absurd rfl (hpc err)

/-! ## The orphaned rooms -/

/-- The walk meets each room of the snapshot once. -/
theorem count_orphaned {snapshot : GoMap RoomId NodeId} {order : List RoomId}
    (horder : scanOrder snapshot order) (room : RoomId) :
    (orphaned snapshot order d).count room = if snapshot.lookup room = some d then 1 else 0 := by
  obtain ⟨hnodup, hkeys⟩ := horder
  have hmem : room ∈ orphaned snapshot order d ↔ snapshot.lookup room = some d := by
    rw [orphaned, mem_filter, decide_eq_true_eq, and_iff_right_iff_imp]
    intro hroom
    rw [← mem_toFinset, hkeys, Finmap.mem_keys]
    exact Finmap.mem_of_lookup_eq_some hroom
  have honce : (orphaned snapshot order d).Nodup := hnodup.filter _
  rw [honce.count]
  simp only [hmem]

theorem newRecoveryManager_pos (self : NodeId) (enabled : Bool) (concurrency : ℤ) (load : Bool) :
    0 < (newRecoveryManager self enabled concurrency load).concurrency := by
  simp only [newRecoveryManager]
  split_ifs <;> omega

/-- **Recovery of a node covers its rooms.** In every run of `RecoverNode(d)` for another node that
is stale, `RecoverRoom` is called at most once for each room that the snapshot assigns to `d`,
within the bound, and exactly once when the call returns. It returns `nil` exactly if each of them
returned `nil`, `ALREADY_RECOVERED` or `OWNERSHIP_CONFLICT`, and exactly then deletes the load
report of `d`. And it returns, since it can always go on and has only so many steps to take. -/
theorem recoverNode_covers_orphans (self d : NodeId) (concurrency : ℤ) (load : Bool)
    (snapshot : GoMap RoomId NodeId) (order : List RoomId) (as : List Act) (s : Call)
    (hd : d ≠ self) (horder : scanOrder snapshot order)
    (h : run (step (newRecoveryManager self true concurrency load) d)
      (recoverNode (newRecoveryManager self true concurrency load) d true true snapshot order) as =
        some s) :
    (∀ room, s.calls.count room ≤ if snapshot.lookup room = some d then 1 else 0) ∧
    s.running ≤ max 1 (if concurrency ≤ 0 then 4 else concurrency.toNat) ∧
    (∀ err, s.pc = .returned err →
      (∀ room, s.calls.count room = if snapshot.lookup room = some d then 1 else 0) ∧
      (s.results.map Prod.fst).Perm s.calls ∧
      (err = none ↔ ∀ x ∈ s.results, x.2.Fine)) ∧
    s.deleted = (if s.pc = .returned none ∧ load = true then [d] else []) ∧
    ((∃ err, s.pc = .returned err) ∨
      ∃ a s', step (newRecoveryManager self true concurrency load) d s a = some s') ∧
    as.length ≤ 8 * (orphaned snapshot order d).length + 3 := by
  set m := newRecoveryManager self true concurrency load with hm
  have hstart : recoverNode m d true true snapshot order =
      { pc := .fanout (Fanout.init (orphaned snapshot order d)) } := by
    simp [recoverNode, hd, hm, newRecoveryManager]
  rw [hstart] at h
  have hinit : Inv m d (orphaned snapshot order d)
      { pc := .fanout (Fanout.init (orphaned snapshot order d)) } :=
    ⟨Fanout.inv_init _, rfl, rfl, rfl⟩
  have hinv : Inv m d (orphaned snapshot order d) s :=
    run_invariant_always (fun _ _ _ hs hstep => step_inv hs hstep) hinit h
  have hlength : as.length ≤ 8 * (orphaned snapshot order d).length + 3 := by
    have hrank := run_rank h
    have hfirst : Call.rank { pc := .fanout (Fanout.init (orphaned snapshot order d)) } =
        8 * (orphaned snapshot order d).length + 3 := rfl
    omega
  have hcap : 0 < m.concurrency := newRecoveryManager_pos self true concurrency load
  have hgoes : (∃ err, s.pc = .returned err) ∨ ∃ a s', step m d s a = some s' := by
    by_cases hret : ∃ err, s.pc = .returned err
    · exact .inl hret
    · exact .inr (enabled hcap hinv fun err herr => hret ⟨err, herr⟩)
  have hcount := count_orphaned (d := d) horder
  obtain ⟨pc, calls, results, deleted⟩ := s
  cases pc with
  | fanout f =>
    obtain ⟨hf, hcalls, -, hdeleted⟩ := hinv
    refine ⟨fun room => ?_, ?_, nofun, by simpa using hdeleted, hgoes, hlength⟩
    · rw [← hcount room]
      obtain rfl : calls = f.calls := hcalls
      exact hf.calls_subperm.count_le room
    · exact hf.running_le.trans (le_max_right _ _)
  | deleteLoad =>
    obtain ⟨hcovered, -, -, hdeleted⟩ := hinv
    refine ⟨fun room => ?_, Nat.zero_le _, nofun, by simpa using hdeleted, hgoes, hlength⟩
    rw [← hcount room]
    exact (hcovered.calls.count_eq room).le
  | returned err =>
    obtain ⟨hcovered, hfine, hdeleted⟩ := hinv
    refine ⟨fun room => ?_, Nat.zero_le _, ?_, ?_, hgoes, hlength⟩
    · rw [← hcount room]
      exact (hcovered.calls.count_eq room).le
    · rintro err' heq
      obtain rfl : err = err' := Pc.returned.inj heq
      refine ⟨fun room => ?_, hcovered.results.trans hcovered.calls.symm, hfine⟩
      rw [← hcount room]
      exact hcovered.calls.count_eq room
    · simpa [hm, newRecoveryManager] using hdeleted

/-- `d` owns the rooms `r` and `q`, and `b` another one. -/
def ownedByTwo : GoMap RoomId NodeId :=
  (((∅ : GoMap RoomId NodeId).insert "r" "d").insert "q" "d").insert "x" "b"

/-- With one slot: the caller starts a worker for `r`, which ends, then one for `q`, which meets a
conflict; then it has waited, and the load report is deleted. -/
def oneByOne : List Act :=
  List.replicate 3 (Act.fanout .caller) ++ List.replicate 5 (Act.fanout (.worker 0 .nil)) ++
    List.replicate 3 (Act.fanout .caller) ++
    List.replicate 5 (Act.fanout (.worker 1 (.error
      (roomError .ownershipConflict "another node won recovery" "q" "b")))) ++
    [Act.fanout .caller, Act.caller, Act.caller]

theorem recoverNode_covers_orphans_two :
    ∃ s, run (step (newRecoveryManager "a" true 1 true) "d")
        (recoverNode (newRecoveryManager "a" true 1 true) "d" true true ownedByTwo ["r", "x", "q"])
        oneByOne = some s ∧
      s.pc = .returned none ∧ s.deleted = ["d"] ∧
      ∀ room, s.calls.count room = if ownedByTwo.lookup room = some "d" then 1 else 0 := by
  obtain ⟨s, hs, hpc, hdeleted⟩ :
      ∃ s ∈ run (step (newRecoveryManager "a" true 1 true) "d")
        (recoverNode (newRecoveryManager "a" true 1 true) "d" true true ownedByTwo ["r", "x", "q"])
        oneByOne, s.pc = .returned none ∧ s.deleted = ["d"] := by
    decide +kernel
  have hcovers := recoverNode_covers_orphans "a" "d" 1 true ownedByTwo ["r", "x", "q"] oneByOne s
    (by decide) (by decide +kernel) hs
  exact ⟨s, hs, hpc, hdeleted, (hcovers.2.2.1 none hpc).1⟩

/-! ## The place of the fan-out in the cluster -/

/-- What `RecoverRoom` returns, as a result of a worker. -/
def Outcome.ofError : Option Error → Outcome
  | none => .nil
  | some e => .error e

theorem Outcome.failed_ofError (err : Option Error) : (ofError err).failed = failedResult err := by
  cases err <;> rfl

section Place

variable {c : Config} {n : NodeId} {w : World} {ans : Answer} {keys : List RoomId}
  {f : Fanout RoomId Outcome} {rs : List (Option (Option Error))}

/-- The results of the workers, those of the fan-out. -/
def Agrees (f : Fanout RoomId Outcome) (rs : List (Option (Option Error))) : Prop :=
  rs.map (Option.map Outcome.ofError) = f.workers.map fun w => w.place.result

theorem Agrees.countP (h : Agrees f rs) (q : Option Outcome → Bool) :
    rs.countP (fun r => q (r.map Outcome.ofError)) =
      f.workers.countP fun w => q w.place.result := by
  have heq := congrArg (List.countP q) h
  rwa [List.countP_map, List.countP_map] at heq

/-- When the fan-out starts a worker, so can the call in the cluster: fewer workers than the bound
are running, since the caller holds a slot of its own. -/
theorem nodeStep_start (hf : Fanout.Inv c.concurrency Outcome.failed jobs f) (hrs : Agrees f rs)
    {room : RoomId} {todo : List RoomId} (hc : f.caller = .start room todo) :
    nodeStep c n d w ans keys rs (.workers (room :: todo)) =
      some (w, .workers todo, some room) := by
  have hsem := hf.sem
  have hbound := hf.bound
  rw [hc] at hsem
  have hle : f.workers.countP (fun w => w.place.result.isNone) ≤
      f.workers.countP fun w => w.place.slotted := by
    apply countP_mono_left
    rintro ⟨j, p⟩ - hp
    cases p <;> first | rfl | cases hp
  have hcount : (rs.filter Option.isNone).length =
      f.workers.countP fun w => w.place.result.isNone := by
    rw [← countP_eq_length_filter, ← hrs.countP Option.isNone]
    apply countP_congr
    intro r _
    cases r <;> simp
  simp only [nodeStep]
  apply if_pos
  rw [hcount]
  simp only [Caller.slots] at hsem
  omega

/-- When the fan-out has been waited for, the call in the cluster ends as the counter says. -/
theorem nodeStep_join (hf : Fanout.Inv c.concurrency Outcome.failed jobs f) (hrs : Agrees f rs)
    (hc : f.caller = .joined) :
    nodeStep c n d w ans keys rs (.workers []) =
      some (w, if 0 < f.failed then .returned (some (roomError .clusterStateUnavailable
        "some rooms could not be recovered" "" d)) else .deleteLoad, none) := by
  have hended := hf.ended hc
  have hnone : rs.any Option.isNone = false := by
    have hzero : rs.countP (fun r => (r.map Outcome.ofError).isNone) = 0 := by
      rw [hrs.countP Option.isNone, countP_eq_zero]
      intro w hw
      obtain ⟨r, hr⟩ := hended w hw
      simp [hr]
    rw [any_eq_false]
    intro r hr
    have := countP_eq_zero.1 hzero r hr
    simpa using this
  have hcount : rs.countP (fun r => r.any failedResult) = f.failed := by
    rw [hf.failed]
    have hsame : f.workers.countP (fun w => w.place.failed Outcome.failed) =
        f.workers.countP fun w => w.place.result.any Outcome.failed := by
      apply countP_congr
      intro w hw
      obtain ⟨r, hr⟩ := hended w hw
      simp [hr]
    rw [hsame, ← hrs.countP fun o => o.any Outcome.failed]
    apply countP_congr
    intro r _
    cases r <;> simp [Outcome.failed_ofError]
  have hany : (rs.any fun r => r.any failedResult) = true ↔ 0 < f.failed := by
    rw [← hcount, countP_pos_iff, any_eq_true]
  simp only [nodeStep, hnone, Bool.false_eq_true, if_false]
  by_cases hpos : 0 < f.failed
  · rw [if_pos (hany.2 hpos), if_pos hpos]
  · rw [if_neg (fun h => hpos (hany.1 h)), if_neg hpos]

end Place

end PulseRTC.Cluster.NodeRecovery
