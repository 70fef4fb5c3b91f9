import PulseRTC.Sfu.Isolation

/-!
# Waiting for locks

Most critical sections take the lock of one participant and wait while another goroutine holds it.
`moves_or_holder_moves`: nobody waits for a goroutine that cannot go on. Between two instructions
only `subscribe` holds a lock, and its goroutine needs no other one until it has released it.
-/

namespace PulseRTC.Sfu

open Foundations Cluster Multiset

/-- The participant whose lock the instruction takes. -/
def Instr.takes : Instr → Option ParticipantId
  | .publish p _ | .maybeAutoSubscribe p _ | .subscribe p _ | .removePublication p _
  | .unsubscribe p _ | .bootstrapFrom _ p | .findAmong _ _ (p :: _) | .subscribeFound p _
  | .optOut p _ | .retireAll p | .close p => some p
  | _ => none

/-- A track has an id of its own, and a mirror the id of no track of this node. -/
def Instr.Fresh (s : Objects) : Instr → Prop
  | .publish _ id => ¬ ∃ pub < s.nextPublication, (s.publications pub).id = id
  | .addRemote _ id _ => ¬ ∃ pub < s.nextPublication, (s.publications pub).id = id ∧
    (s.publications pub).remote = false
  | _ => True

section Waiting

variable {s s' : SFU} {i : Instr}

/-- An instruction waits for nothing but the lock it takes. -/
theorem exec_of_free (hfresh : i.Fresh s.toObjects)
    (hfree : ∀ p, i.takes = some p → (s.participants p).mu = false) :
    ∃ c, (exec s i c).isSome := by
  cases i with
  | publish p =>
    rw [Instr.Fresh] at hfresh
    exact ⟨{}, by simp [exec, SFU.publish, hfree p rfl, hfresh]⟩
  | addRemote =>
    refine ⟨{}, ?_⟩
    simp only [exec, SFU.addRemote, if_neg hfresh]
    split_ifs <;> rfl
  -- the answer lists the whole map
  | onPublicationAdded | onPublicationRemoved | bootstrap | findPublication =>
    exact ⟨{ participants := Finset.toList _ },
      Option.isSome_iff_exists.2 ⟨_, if_pos (Finset.coe_toList _)⟩⟩
  | bootstrapFrom _ p | retireAll p =>
    exact ⟨{ publications := (GoMap.values (s.participants p).publications).toList }, by
      simp [exec, SFU.bootstrapFrom, SFU.retireAll, hfree p rfl]⟩
  | close p =>
    refine ⟨{ subscriptions := (GoMap.values (s.participants p).subscriptions).toList }, ?_⟩
    cases hclosed : (s.participants p).closed <;> simp [exec, SFU.close, hfree p rfl, hclosed]
  | findAmong p id publishers =>
    refine ⟨{}, ?_⟩
    cases publishers with
    | nil =>
      simp only [exec, SFU.findAmong]
      split <;> rfl
    | cons q rest =>
      simp only [exec, SFU.findAmong, hfree q rfl, Bool.false_eq_true, if_false]
      split <;> rfl
  | maybeAutoSubscribe p | subscribe p | removePublication p | unsubscribe p | subscribeFound p
  | optOut p =>
    refine ⟨{}, ?_⟩
    simp only [exec, SFU.maybeAutoSubscribe, SFU.subscribe, SFU.removePublication,
      SFU.unsubscribe, SFU.subscribeFound, SFU.optOut, hfree p rfl]
    repeat' split
    all_goals trivial
  | _ => exact ⟨{}, rfl⟩

/-- Whoever holds a lock needs no other. -/
theorem exec_of_locks {p : ParticipantId} (hi : i.locks = some p) (c : Choice) :
    (exec s i c).isSome := by
  cases i with
  | attach | attachLoad | attachSwap | record => rfl
  | _ => cases hi

/-- An attachment is never behind another instruction of its goroutine. -/
theorem exec_tail {c : Choice} {new : List Instr} (hex : exec s i c = some (s', new)) :
    ∀ j ∈ new.tail, j.locks = none := by
  intro j hj
  cases hquiet : i.quiet with
  | true => exact Instr.locks_eq_none ((exec_quiet hquiet hex).plain j (List.mem_of_mem_tail hj))
  | false =>
    cases exec_executes hex with
    | subscribe | unsubscribe =>
      simp only [List.tail_cons, List.mem_cons, List.not_mem_nil, or_false] at hj
      rcases hj with rfl | rfl <;> rfl
    | close =>
      rcases List.mem_append.1 (List.mem_of_mem_tail hj) with hj | hj
      · obtain ⟨sub, -, rfl⟩ := List.mem_map.1 hj
        rfl
      · rw [List.mem_singleton.1 hj]
        rfl
    | _ => first | (cases hquiet; done) | cases hj

end Waiting

section Runs

variable {as : List Act} {t : System}

/-- A lock that is held is held by the next instruction of a goroutine. -/
theorem exists_holder (hrun : run step System.empty as = some t) {p : ParticipantId}
    (hmu : (t.shared.participants p).mu = true) : ∃ l j, t.next l = some j ∧ j.locks = some p := by
  have hone := (run_books hrun).locks.lock p
  rw [if_pos hmu] at hone
  obtain ⟨j, hj, hlocks⟩ := tally_pos.1 (hone ▸ Nat.one_pos)
  obtain ⟨task, htask, hmem⟩ := List.mem_flatten.1 (mem_coe.1 hj)
  have htails : ∀ task ∈ t.tasks, ∀ j ∈ task.tail, j.locks = none := by
    refine Pool.run_tails (fun s op s' code hla j hj => ?_) (fun s i c s' new => exec_tail)
      (by simp [System.empty]) hrun
    exact Instr.locks_eq_none ((launch_quiet hla).plain j (List.mem_of_mem_tail hj))
  cases task with
  | nil => cases hmem
  | cons i rest =>
    rcases List.mem_cons.1 hmem with rfl | hmem
    · obtain ⟨l, hl⟩ := List.mem_iff_getElem?.1 htask
      exact ⟨l, j, by simp [Pool.next, hl], hlocks⟩
    · rw [htails _ htask j hmem] at hlocks
      cases hlocks

/-- **No deadlock.** In every state of every run, a goroutine whose next instruction brings no id
that is taken can move, or it waits for the lock of a participant, and the goroutine that holds this
lock can move whatever the environment answers. -/
theorem moves_or_holder_moves (hrun : run step System.empty as = some t) {k : ℕ} {i : Instr}
    (hk : t.next k = some i) (hfresh : i.Fresh t.shared.toObjects) :
    (∃ c, (step t (.resume k c)).isSome) ∨
      ∃ p, i.takes = some p ∧ (t.shared.participants p).mu = true ∧
        ∃ l j, t.next l = some j ∧ j.locks = some p ∧ ∀ c, (step t (.resume l c)).isSome := by
  by_cases hfree : ∀ p, i.takes = some p → (t.shared.participants p).mu = false
  · obtain ⟨c, hc⟩ := exec_of_free hfresh hfree
    exact .inl ⟨c, Pool.step_isSome hk hc⟩
  · push Not at hfree
    obtain ⟨p, htakes, hmu⟩ := hfree
    rw [Bool.ne_false_iff] at hmu
    obtain ⟨l, j, hl, hlocks⟩ := exists_holder hrun hmu
    exact .inr ⟨p, htakes, hmu, l, j, hl, hlocks, fun c =>
      Pool.step_isSome hl (exec_of_locks hlocks c)⟩

/-- `b` opts out while it is subscribed automatically. -/
theorem moves_or_holder_moves_call :
    ∃ t ∈ run step System.empty ((call.take 11).concat (.start (.unsubscribe "b" "cam"))),
      t.next 4 = some (.optOut "b" "cam") ∧ ∃ l c, (step t (.resume l c)).isSome := by
  have hrun : ∃ t ∈ run step System.empty
      ((call.take 11).concat (.start (.unsubscribe "b" "cam"))),
      t.next 4 = some (.optOut "b" "cam") := by
    decide +kernel
  obtain ⟨t, hrun, hnext⟩ := hrun
  refine ⟨t, hrun, hnext, ?_⟩
  rcases moves_or_holder_moves hrun hnext trivial with hmoves | ⟨-, -, -, l, -, -, -, hl⟩
  · exact ⟨4, hmoves⟩
  · exact ⟨l, {}, hl {}⟩

end Runs

end PulseRTC.Sfu
