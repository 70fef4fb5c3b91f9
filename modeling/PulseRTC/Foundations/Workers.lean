import Mathlib.Algebra.GroupWithZero.Nat
import PulseRTC.Foundations.Runs

/-!
# Bounded fan-out

A caller that starts one goroutine for each job of a list, throttled by a semaphore of `cap` slots
and joined by a wait group. The caller takes a slot before it starts the goroutine, and the
goroutine gives it back after its job; the results that count as failures are counted on the way.

The goroutines interleave in any order, and a job may end with any result. `calls` and `results`
log the jobs begun and ended, in the order in which that happens.

* `Fanout.Inv`: what holds in every state (`step_inv`): where each job is, and that the wait group,
  the semaphore and the counter count the goroutines by their places.
* `Inv.running_le`, `Inv.calls_subperm`, `Inv.joined_all`: at most `cap` jobs run at a time, and
  each is begun once, with its result known when the caller has waited.
* `Inv.enabled` and `step_rank`: until then some goroutine can move, and there is an end to it.
-/

namespace PulseRTC.Foundations

open List Option

/-- The place of a goroutine, before the step named. -/
inductive Place (R : Type*)
  /-- The call of the job. -/
  | call
  /-- The job runs. -/
  | running
  /-- The test of its result. -/
  | test (r : R)
  /-- The deferred release of the slot. -/
  | release (r : R)
  /-- The deferred `Done` of the wait group. -/
  | finish (r : R)
  | ended (r : R)
  deriving DecidableEq

namespace Place

variable {R : Type*}

/-- The goroutine has called its job. -/
@[simp] def called : Place R → Bool
  | .call => false
  | _ => true

/-- The result of the job. -/
@[simp] def result : Place R → Option R
  | .call | .running => none
  | .test r | .release r | .finish r | .ended r => some r

/-- The job runs. -/
def isRunning : Place R → Bool
  | .running => true
  | _ => false

/-- The goroutine has a slot. -/
@[simp] def slotted : Place R → Bool
  | .call | .running | .test _ | .release _ => true
  | .finish _ | .ended _ => false

/-- The wait group waits for the goroutine. -/
@[simp] def awaited : Place R → Bool
  | .ended _ => false
  | _ => true

/-- The goroutine has counted a failure. -/
@[simp] def failed (bad : R → Bool) : Place R → Bool
  | .release r | .finish r | .ended r => bad r
  | .call | .running | .test _ => false

/-- How many steps the goroutine has still to take. -/
def rank : Place R → ℕ
  | .call => 5
  | .running => 4
  | .test _ => 3
  | .release _ => 2
  | .finish _ => 1
  | .ended _ => 0

end Place

/-- A goroutine and its job. -/
structure Worker (J R : Type*) where
  job : J
  place : Place R
  deriving DecidableEq

/-- The place of the caller. -/
inductive Caller (J : Type*)
  /-- The head of the loop: `Add` of the wait group, and `Wait` once no job is left. -/
  | loop (todo : List J)
  /-- The slot for the next job. -/
  | acquire (j : J) (todo : List J)
  /-- The start of its goroutine. -/
  | start (j : J) (todo : List J)
  /-- `Wait` has returned. -/
  | joined
  deriving DecidableEq

namespace Caller

variable {J : Type*}

/-- The jobs without a goroutine. -/
def jobs : Caller J → List J
  | .loop todo => todo
  | .acquire j todo | .start j todo => j :: todo
  | .joined => []

/-- What the caller has added to the wait group for a goroutine that it has not started. -/
def added : Caller J → ℕ
  | .acquire _ _ | .start _ _ => 1
  | _ => 0

/-- The slot that the caller holds for a goroutine that it has not started. -/
def slots : Caller J → ℕ
  | .start _ _ => 1
  | _ => 0

/-- How many steps are left, those of the goroutines to start included. -/
def rank : Caller J → ℕ
  | .loop todo => 8 * todo.length + 1
  | .acquire _ todo => 8 * todo.length + 8
  | .start _ todo => 8 * todo.length + 7
  | .joined => 0

end Caller

/-- The state of a fan-out. -/
structure Fanout (J R : Type*) where
  caller : Caller J
  workers : List (Worker J R) := []
  /-- The counter of the wait group. -/
  wg : ℕ := 0
  /-- The slots taken. -/
  sem : ℕ := 0
  /-- The failures counted. -/
  failed : ℕ := 0
  calls : List J := []
  results : List (J × R) := []
  deriving DecidableEq

namespace Fanout

/-- The caller moves, or the goroutine `i`, whose job ends with `r` if it runs. -/
inductive Act (R : Type*)
  | caller
  | worker (i : ℕ) (r : R)
  deriving DecidableEq

variable {J R : Type*} (cap : ℕ) (bad : R → Bool)

def callerStep (f : Fanout J R) : Option (Fanout J R) :=
  match f.caller with
  | .loop (j :: todo) => some { f with caller := .acquire j todo, wg := f.wg + 1 }
  | .loop [] => if f.wg = 0 then some { f with caller := .joined } else none
  | .acquire j todo =>
    -- a send to a full channel blocks
    if f.sem < cap then some { f with caller := .start j todo, sem := f.sem + 1 } else none
  | .start j todo =>
    some { f with caller := .loop todo, workers := f.workers ++ [⟨j, .call⟩] }
  | .joined => none

/-- A step of a goroutine, with its next place. -/
def workerStep (f : Fanout J R) (j : J) (r : R) : Place R → Option (Fanout J R × Place R)
  | .call => some ({ f with calls := f.calls ++ [j] }, .running)
  | .running => some ({ f with results := f.results ++ [(j, r)] }, .test r)
  | .test r => some ({ f with failed := f.failed + if bad r then 1 else 0 }, .release r)
  | .release r =>
    -- a receive from an empty channel blocks
    if 0 < f.sem then some ({ f with sem := f.sem - 1 }, .finish r) else none
  | .finish r =>
    -- a counter below zero panics
    if 0 < f.wg then some ({ f with wg := f.wg - 1 }, .ended r) else none
  | .ended _ => none

/-- One step of a fan-out. -/
def step (f : Fanout J R) : Act R → Option (Fanout J R)
  | .caller => f.callerStep cap
  | .worker i r =>
    f.workers[i]?.bind fun w =>
      (f.workerStep bad w.job r w.place).map fun out =>
        { out.1 with workers := f.workers.set i ⟨w.job, out.2⟩ }

/-- The fan-out over a list of jobs. -/
def init (jobs : List J) : Fanout J R := { caller := .loop jobs }

/-- How many jobs run. -/
def running (f : Fanout J R) : ℕ := f.workers.countP fun w => w.place.isRunning

/-- How many steps are left. -/
def rank (f : Fanout J R) : ℕ := f.caller.rank + (f.workers.map fun w => w.place.rank).sum

/-! ## Places -/

@[simp] def calledJob (w : Worker J R) : Option J := if w.place.called then some w.job else none

/-- A goroutine whose job has ended, by its job and the result. -/
@[simp] def outcome (w : Worker J R) : Option (J × R) := w.place.result.map fun r => (w.job, r)

/-- What holds in every state of a fan-out over `jobs`. -/
structure Inv (jobs : List J) (f : Fanout J R) : Prop where
  jobs : f.workers.map Worker.job ++ f.caller.jobs = jobs
  wg : f.wg = f.workers.countP (fun w => w.place.awaited) + f.caller.added
  sem : f.sem = f.workers.countP (fun w => w.place.slotted) + f.caller.slots
  bound : f.sem ≤ cap
  failed : f.failed = f.workers.countP fun w => w.place.failed bad
  calls : f.calls.Perm (f.workers.filterMap calledJob)
  results : f.results.Perm (f.workers.filterMap outcome)
  joined : f.caller = .joined → ∀ w ∈ f.workers, w.place.awaited = false

variable {cap bad}

theorem inv_init (jobs : List J) : Inv cap bad jobs (init jobs : Fanout J R) where
  jobs := rfl
  wg := rfl
  sem := rfl
  bound := Nat.zero_le _
  failed := rfl
  calls := .nil
  results := .nil
  joined := nofun

variable {f f' : Fanout J R} {jobs : List J}

variable {i : ℕ} {a : Act R}

/-- A goroutine moves: the others stay where they are. -/
theorem step_worker {r : R} (h : step cap bad f (.worker i r) = some f') :
    ∃ l w l' g p, f.workers = l ++ w :: l' ∧ f.workerStep bad w.job r w.place = some (g, p) ∧
      f' = { g with workers := l ++ ⟨w.job, p⟩ :: l' } := by
  obtain ⟨w, hw, hmap⟩ := bind_eq_some_iff.1 h
  obtain ⟨⟨g, p⟩, hstep, rfl⟩ := map_eq_some_iff.1 hmap
  obtain ⟨hlt, hget⟩ := List.getElem?_eq_some_iff.1 hw
  refine ⟨f.workers.take i, w, f.workers.drop (i + 1), g, p, ?_, hstep, ?_⟩
  · rw [← hget, List.getElem_cons_drop, List.take_append_drop]
  · rw [List.set_eq_take_cons_drop _ hlt]

/-- A logged element is inserted where its goroutine stands. -/
theorem perm_snoc_middle {α : Type*} {log l l' : List α} (h : log.Perm (l ++ l')) (a : α) :
    (log ++ [a]).Perm (l ++ a :: l') :=
  (perm_append_singleton a log).trans ((h.cons a).trans perm_middle.symm)

theorem callerStep_inv (hf : Inv cap bad jobs f) (h : f.callerStep cap = some f') :
    Inv cap bad jobs f' := by
  obtain ⟨hjobs, hwg, hsem, hbound, hfailed, hcalls, hresults, hjoined⟩ := hf
  unfold callerStep at h
  split at h
  · next j todo hc =>
    cases h
    rw [hc] at hjobs hwg hsem
    exact ⟨hjobs, by simp only [Caller.added] at hwg ⊢; omega, hsem, hbound, hfailed, hcalls,
      hresults, nofun⟩
  · next hc =>
    split_ifs at h with hzero
    cases h
    rw [hc] at hjobs hwg hsem
    refine ⟨hjobs, hwg, hsem, hbound, hfailed, hcalls, hresults, fun _ w hw => ?_⟩
    have hnone : f.workers.countP (fun w => w.place.awaited) = 0 := by omega
    simpa using countP_eq_zero.1 hnone w hw
  · next j todo hc =>
    split_ifs at h with hfree
    cases h
    rw [hc] at hjobs hwg hsem
    exact ⟨hjobs, hwg, by simp only [Caller.slots] at hsem ⊢; omega, hfree, hfailed, hcalls,
      hresults, nofun⟩
  · next j todo hc =>
    cases h
    rw [hc] at hjobs hwg hsem
    refine ⟨?_, ?_, ?_, hbound, ?_, ?_, ?_, nofun⟩
    · simpa [Caller.jobs] using hjobs
    · simpa [countP_append, Caller.added] using hwg
    · simpa [countP_append, Caller.slots] using hsem
    · simpa [countP_append] using hfailed
    · simpa [filterMap_append, filterMap_cons] using hcalls
    · simpa [filterMap_append, filterMap_cons] using hresults
  · cases h

/-- The parts of the invariant that a step of a goroutine keeps whatever it does: its job stays,
and it was awaited, so that the caller has not been let through. -/
theorem moved_jobs (hf : Inv cap bad jobs f) {l l' : List (Worker J R)} {j : J} {p q : Place R}
    (hworkers : f.workers = l ++ ⟨j, p⟩ :: l') (hp : p.awaited = true) :
    (l ++ ⟨j, q⟩ :: l').map Worker.job ++ f.caller.jobs = jobs ∧ f.caller ≠ .joined := by
  refine ⟨?_, fun hc => ?_⟩
  · have hjobs := hf.jobs
    rw [hworkers] at hjobs
    simpa using hjobs
  · have hend := hf.joined hc ⟨j, p⟩ (by simp [hworkers])
    exact Bool.false_ne_true (hend.symm.trans hp)

theorem workerStep_inv {r : R} (hf : Inv cap bad jobs f)
    (h : step cap bad f (.worker i r) = some f') : Inv cap bad jobs f' := by
  obtain ⟨l, ⟨j, p⟩, l', g, q, hworkers, hstep, rfl⟩ := step_worker h
  have hwg := hf.wg
  have hsem := hf.sem
  have hbound := hf.bound
  have hfailed := hf.failed
  have hcalls := hf.calls
  have hresults := hf.results
  rw [hworkers] at hwg hsem hfailed hcalls hresults
  cases p with
  | call =>
    cases hstep
    obtain ⟨hjobs, hnot⟩ := moved_jobs (q := .running) hf hworkers rfl
    refine ⟨hjobs, by simpa [countP_cons] using hwg, by simpa [countP_cons] using hsem, hbound,
      by simpa [countP_cons] using hfailed, ?_,
      by simpa [filterMap_cons] using hresults,
      fun hc => absurd hc hnot⟩
    simp only [filterMap_append, filterMap_cons, calledJob, Place.called] at hcalls ⊢
    exact perm_snoc_middle hcalls j
  | running =>
    cases hstep
    obtain ⟨hjobs, hnot⟩ := moved_jobs (q := .test r) hf hworkers rfl
    refine ⟨hjobs, by simpa [countP_cons] using hwg, by simpa [countP_cons] using hsem, hbound,
      by simpa [countP_cons] using hfailed,
      by simpa [filterMap_cons] using hcalls, ?_,
      fun hc => absurd hc hnot⟩
    simp only [filterMap_append, filterMap_cons, outcome, Place.result, map_none,
      map_some] at hresults ⊢
    exact perm_snoc_middle hresults (j, r)
  | test r' =>
    cases hstep
    obtain ⟨hjobs, hnot⟩ := moved_jobs (q := .release r') hf hworkers rfl
    refine ⟨hjobs, by simpa [countP_cons] using hwg, by simpa [countP_cons] using hsem, hbound, ?_,
      by simpa [filterMap_cons] using hcalls,
      by simpa [filterMap_cons] using hresults,
      fun hc => absurd hc hnot⟩
    simp only [countP_append, countP_cons, Place.failed, Bool.false_eq_true, if_false] at hfailed ⊢
    omega
  | release r' =>
    simp only [workerStep] at hstep
    split_ifs at hstep with hpos
    cases hstep
    obtain ⟨hjobs, hnot⟩ := moved_jobs (q := .finish r') hf hworkers rfl
    refine ⟨hjobs, by simpa [countP_cons] using hwg, ?_,
      (Nat.sub_le _ _).trans hbound, by simpa [countP_cons] using hfailed,
      by simpa [filterMap_cons] using hcalls,
      by simpa [filterMap_cons] using hresults,
      fun hc => absurd hc hnot⟩
    simp only [countP_append, countP_cons, Place.slotted, Bool.false_eq_true, if_false,
      if_true] at hsem ⊢
    omega
  | finish r' =>
    simp only [workerStep] at hstep
    split_ifs at hstep with hpos
    cases hstep
    obtain ⟨hjobs, hnot⟩ := moved_jobs (q := .ended r') hf hworkers rfl
    refine ⟨hjobs, ?_, by simpa [countP_cons] using hsem, hbound,
      by simpa [countP_cons] using hfailed,
      by simpa [filterMap_cons] using hcalls,
      by simpa [filterMap_cons] using hresults,
      fun hc => absurd hc hnot⟩
    simp only [countP_append, countP_cons, Place.awaited, Bool.false_eq_true, if_false,
      if_true] at hwg ⊢
    omega
  | ended r' => cases hstep

theorem step_inv (hf : Inv cap bad jobs f) (h : step cap bad f a = some f') :
    Inv cap bad jobs f' := by
  cases a with
  | caller => exact callerStep_inv hf h
  | worker i r => exact workerStep_inv hf h

/-! ## What follows -/

section Consequences

variable {jobs : List J} {f : Fanout J R} (hf : Inv cap bad jobs f)

include hf

/-- At most `cap` jobs run at a time. -/
theorem Inv.running_le : f.running ≤ cap := by
  have hslot : f.running ≤ f.workers.countP fun w => w.place.slotted := by
    apply countP_mono_left
    rintro ⟨j, p⟩ - hp
    cases p <;> first | rfl | cases hp
  have hsem := hf.sem
  have hbound := hf.bound
  omega

/-- The jobs begun are among the jobs, none more often than there. -/
theorem Inv.calls_subperm : f.calls.Subperm jobs := by
  have hsub : (f.workers.filterMap calledJob).Sublist (f.workers.map Worker.job) := by
    generalize f.workers = l
    induction l with
    | nil => exact .slnil
    | cons w l ih =>
      rw [filterMap_cons, map_cons]
      unfold calledJob
      split_ifs
      · exact ih.cons_cons w.job
      · exact ih.cons w.job
  have hjobs : (f.workers.map Worker.job).Sublist jobs := by
    rw [← hf.jobs]
    exact sublist_append_left _ _
  exact hf.calls.subperm.trans (hsub.trans hjobs).subperm

/-- The caller has waited: every goroutine has ended. -/
theorem Inv.ended (hc : f.caller = .joined) : ∀ w ∈ f.workers, ∃ r, w.place = .ended r := by
  rintro ⟨j, p⟩ hw
  have hend := hf.joined hc _ hw
  cases p <;> first | exact ⟨_, rfl⟩ | cases hend

/-- The caller has waited: every job was begun once and has ended, and the counter tells whether
one of them failed. -/
theorem Inv.joined_all (hc : f.caller = .joined) :
    f.calls.Perm jobs ∧ (f.results.map Prod.fst).Perm jobs ∧ f.running = 0 ∧
      (f.failed = 0 ↔ ∀ x ∈ f.results, bad x.2 = false) := by
  have hended := hf.ended hc
  have hjobs : f.workers.map Worker.job = jobs := by
    have hall := hf.jobs
    rw [hc] at hall
    simpa [Caller.jobs] using hall
  have hcalled : f.workers.filterMap calledJob = f.workers.map Worker.job := by
    rw [← filterMap_eq_map]
    apply filterMap_congr
    intro w hw
    obtain ⟨r, hr⟩ := hended w hw
    simp [hr]
  have hresult : (f.workers.filterMap outcome).map Prod.fst = f.workers.map Worker.job := by
    rw [map_filterMap, ← filterMap_eq_map]
    apply filterMap_congr
    intro w hw
    obtain ⟨r, hr⟩ := hended w hw
    simp [hr]
  refine ⟨?_, ?_, ?_, ?_⟩
  · rw [← hjobs, ← hcalled]
    exact hf.calls
  · rw [← hjobs, ← hresult]
    exact hf.results.map _
  · apply countP_eq_zero.2
    intro w hw
    obtain ⟨r, hr⟩ := hended w hw
    simp [hr, Place.isRunning]
  · rw [hf.failed, countP_eq_zero]
    constructor
    · intro hgood x hx
      obtain ⟨w, hw, hout⟩ := mem_filterMap.1 (hf.results.mem_iff.1 hx)
      obtain ⟨r, hr⟩ := hended w hw
      have hw' := hgood w hw
      simp only [outcome, hr, Place.result, map_some, some.injEq] at hout
      simpa [hr, ← hout] using hw'
    · intro hgood w hw
      obtain ⟨r, hr⟩ := hended w hw
      have hmem : (w.job, r) ∈ f.results :=
        hf.results.mem_iff.2 (mem_filterMap.2 ⟨w, hw, by simp [hr]⟩)
      simp [hr, hgood _ hmem]

/-- Until the caller has waited, it or a goroutine can move. -/
theorem Inv.enabled (hcap : 0 < cap) (r : R) (hc : f.caller ≠ .joined) :
    ∃ a f', step cap bad f a = some f' := by
  by_cases hwait : ∃ w ∈ f.workers, w.place.awaited = true
  · -- a goroutine that has not ended can always move: it holds what it gives back
    obtain ⟨w, hw, hawait⟩ := hwait
    obtain ⟨i, hi⟩ := mem_iff_getElem?.1 hw
    have hwg : 0 < f.wg := by
      have hpos : 0 < f.workers.countP fun w => w.place.awaited :=
        countP_pos_iff.2 ⟨w, hw, hawait⟩
      have := hf.wg
      omega
    have hsem : w.place.slotted = true → 0 < f.sem := by
      intro hs
      have hpos : 0 < f.workers.countP fun w => w.place.slotted :=
        countP_pos_iff.2 ⟨w, hw, hs⟩
      have := hf.sem
      omega
    obtain ⟨out, hout⟩ : ∃ out, f.workerStep bad w.job r w.place = some out := by
      cases hp : w.place with
      | call => exact ⟨_, rfl⟩
      | running => exact ⟨_, rfl⟩
      | test r' => exact ⟨_, rfl⟩
      | release r' => exact ⟨_, if_pos (hsem (by rw [hp]; rfl))⟩
      | finish r' => exact ⟨_, if_pos hwg⟩
      | ended r' =>
        rw [hp] at hawait
        cases hawait
    exact ⟨.worker i r, _, by simp only [step, hi, bind_some, hout, map_some]; rfl⟩
  · have hnone : ∀ q : Worker J R → Bool, (∀ w, q w = true → w.place.awaited = true) →
        f.workers.countP q = 0 := by
      intro q hq
      exact countP_eq_zero.2 fun w hw hqw => hwait ⟨w, hw, hq w hqw⟩
    have hawaited := hnone (fun w => w.place.awaited) fun _ h => h
    have hslotted := hnone (fun w => w.place.slotted) fun w h => by
      revert h
      cases w.place <;> simp
    have hwg := hf.wg
    have hsem := hf.sem
    refine ⟨.caller, ?_⟩
    change ∃ f', f.callerStep cap = some f'
    unfold callerStep
    cases hcaller : f.caller with
    | loop todo =>
      cases todo with
      | cons j todo => exact ⟨_, rfl⟩
      | nil =>
        rw [hcaller] at hwg
        exact ⟨_, if_pos (by simp only [Caller.added] at hwg; omega)⟩
    | acquire j todo =>
      rw [hcaller] at hsem
      exact ⟨_, if_pos (by simp only [Caller.slots] at hsem; omega)⟩
    | start j todo => exact ⟨_, rfl⟩
    | joined => exact absurd hcaller hc

end Consequences

/-! ## Progress -/

/-- Every step brings the end nearer by one. -/
theorem step_rank (h : step cap bad f a = some f') : f.rank = f'.rank + 1 := by
  cases a with
  | caller =>
    change f.callerStep cap = some f' at h
    unfold callerStep at h
    split at h
    · next j todo hc =>
      cases h
      simp only [rank, hc, Caller.rank, length_cons]
      omega
    · next hc =>
      split_ifs at h
      cases h
      simp only [rank, hc, Caller.rank, length_nil]
      omega
    · next j todo hc =>
      split_ifs at h
      cases h
      simp only [rank, hc, Caller.rank]
      omega
    · next j todo hc =>
      cases h
      simp only [rank, hc, Caller.rank, Place.rank, map_append, map_cons, map_nil,
        sum_append, sum_cons, sum_nil]
      omega
    · cases h
  | worker i r =>
    obtain ⟨l, ⟨j, p⟩, l', g, q, hworkers, hstep, rfl⟩ := step_worker h
    have hmoved : g.caller = f.caller ∧ p.rank = q.rank + 1 := by
      cases p <;> simp only [workerStep] at hstep
      case release | finish =>
        split_ifs at hstep
        cases hstep
        exact ⟨rfl, rfl⟩
      case ended => cases hstep
      all_goals
        cases hstep
        exact ⟨rfl, rfl⟩
    simp only [rank, hworkers, hmoved.1, hmoved.2, map_append, map_cons, sum_append, sum_cons]
    omega

end Fanout

end PulseRTC.Foundations
