import PulseRTC.Cluster.Recovery

/-!
# Takeovers

A room is taken from a node `o` only by a `RecoverRoom` call that found `o` stale. The calls find a
node stale by a mark of a scan, by a record that says `OFFLINE`, or by a registry lookup that
returns nothing. The last is the weak point: `redisNodeRegistry.get` returns nothing for a missing
record and for a failed command alike.

* `takeover_justified`: as long as the lookup of the owner in `IsStale` fails only for a node that
  is down, every takeover is from a node that was down at an earlier point of the run.
-/

namespace PulseRTC.Cluster.Recovery

open Foundations Option

/-- The node is down: its record is absent, or says `OFFLINE`, or a scan has marked it. -/
def Down (o : NodeId) (s : Sys) : Prop :=
  s.world.nodes.get s.world.now o = none ∨
  (∃ r, s.world.nodes.get s.world.now o = some r ∧ r.state = .offline) ∨
  ∃ n, s.world.marked n o = true

/-- The condition on the steps: when `RecoverRoom` looks up the record of the owner in `IsStale`,
the command fails only if the owner is down. -/
def Trusted (s : Sys) (a : Act) : Prop :=
  ∀ i ans keys t room old, a = .thread i ans keys → s.threads[i]? = some t →
    t.pc = .room room (.staleGet old) → ans ≠ .ok → Down old s

/-- The owner that a `RecoverRoom` call has found stale. -/
def RoomPc.suspect : RoomPc → Option NodeId
  | .select old | .listKeys old | .listVals old _ | .loadKeys old _ | .loadVals old _ _
  | .rank old _ _ | .assignment old _ | .note old _ | .put old _ | .swap old => some old
  | .check | .lock | .owner | .stale _ | .staleGet _ | .conflict | .finish _ | .returned _ => none

variable {o n : NodeId} {w : World} {ans : Answer} {s : Sys} {cfg : NodeId → Config}

theorem suspect_afterSelect {self old target : NodeId}
    (h : (afterSelect self old target).suspect = some o) : o = old := by
  unfold afterSelect at h
  split_ifs at h
  · exact absurd h (by simp [RoomPc.suspect])
  · exact (some.inj h).symm

theorem suspect_afterSwap (self : NodeId) (room : RoomId) (code : ℕ) :
    (afterSwap self room code).suspect = none := by
  unfold afterSwap
  split <;> rfl

variable {pc pc' : RoomPc} {room : RoomId} {c : Config} {w' : World} {as : List Act} {a : Act}

/-- A call comes to suspect an owner by a mark or by its lookup, and then keeps to it. -/
theorem roomStep_suspect
    (h : roomStep c n room w ans pc = some (w', pc')) (ho : pc'.suspect = some o) :
    pc.suspect = some o ∨ (pc = .stale o ∧ w.marked n o = true) ∨
      (pc = .staleGet o ∧ gone (w.getNode ans o) = true) := by
  cases pc <;> simp only [roomStep, some.injEq, Prod.mk.injEq, reduceCtorEq] at h
  case lock =>
    split_ifs at h <;> obtain ⟨-, rfl⟩ := Prod.mk.inj (some.inj h) <;>
      simp [RoomPc.suspect] at ho
  case stale old =>
    obtain ⟨-, rfl⟩ := h
    split_ifs at ho with hm
    · cases ho
      exact .inr (.inl ⟨rfl, hm⟩)
    · simp [RoomPc.suspect] at ho
  case staleGet old =>
    obtain ⟨-, rfl⟩ := h
    split_ifs at ho with hg
    · cases ho
      exact .inr (.inr ⟨rfl, hg⟩)
    · simp [RoomPc.suspect] at ho
  case assignment old v =>
    obtain ⟨-, rfl⟩ := h
    refine .inl ?_
    split at ho
    · simp [RoomPc.suspect] at ho
    · rw [suspect_afterSelect ho]
      rfl
    · exact ho
  case put old target =>
    obtain ⟨-, rfl⟩ := h
    rw [suspect_afterSelect ho]
    exact .inl rfl
  case swap old =>
    obtain ⟨-, rfl⟩ := h
    split_ifs at ho <;> simp [suspect_afterSwap] at ho
  case check | owner | select | listKeys | loadKeys | loadVals | rank =>
    obtain ⟨-, rfl⟩ := h
    refine .inl ?_
    (repeat' split at ho) <;> first | exact ho | simp [RoomPc.suspect] at ho
  case listVals | note =>
    obtain ⟨-, rfl⟩ := h
    exact .inl ho
  case conflict | finish =>
    obtain ⟨-, rfl⟩ := h
    simp [RoomPc.suspect] at ho

/-- Every owner suspected by a running call was down at an earlier point of the run. -/
def Justified (cfg : NodeId → Config) (s₀ : Sys) (as : List Act) (s : Sys) : Prop :=
  ∀ t ∈ s.threads, ∀ room pc o, t.pc = .room room pc → pc.suspect = some o →
    Passed (step cfg) (Down o) s₀ as

/-- An owner whose lookup came back empty or `OFFLINE` is down, if the lookup can be trusted. -/
theorem down_of_gone (hans : ans ≠ .ok → Down o s) (hg : gone (s.world.getNode ans o) = true) :
    Down o s := by
  by_cases hok : ans = .ok
  · subst hok
    rw [World.getNode, if_pos rfl] at hg
    cases hget : s.world.nodes.get s.world.now o with
    | none => exact .inl hget
    | some r =>
      rw [hget] at hg
      exact .inr (.inl ⟨r, hget, by simpa [gone] using hg⟩)
  · exact hans hok

theorem step_justified {s₀ s' : Sys}
    (hrun : run (step cfg) s₀ as = some s) (hj : Justified cfg s₀ as s) (hg : Trusted s a)
    (h : step cfg s a = some s') : Justified cfg s₀ (as ++ [a]) s' := by
  intro u hu room pc o hpc ho
  rcases step_cases h with ⟨i, ans, keys, t, room', pc₀, pc', rfl, hmove⟩ | hquiet
  · rw [hmove.threads] at hu
    rcases List.mem_or_eq_of_mem_set hu with hu | rfl
    · exact (hj u hu room pc o hpc ho).extend _
    · obtain ⟨rfl, rfl⟩ := Pc.room.inj hpc
      rcases roomStep_suspect hmove.step ho with ho | ⟨rfl, hm⟩ | ⟨rfl, hgone⟩
      · exact (hj t (List.mem_of_getElem? hmove.at_i) _ _ o hmove.at_pc ho).extend _
      · exact (Passed.last hrun (.inr (.inr ⟨t.node, hm⟩))).extend _
      · have hdown : Down o s := down_of_gone
          (hg i ans keys t _ o rfl hmove.at_i hmove.at_pc) hgone
        exact (Passed.last hrun hdown).extend _
  · rcases hquiet.new u hu room pc hpc with rfl | hu
    · simp [RoomPc.suspect] at ho
    · exact (hj u hu room pc o hpc ho).extend _

/-- **A takeover is justified**: in every run whose lookups can be trusted, a step that moves the
ownership of a room away from `o` comes after a point at which `o` was down. -/
theorem takeover_justified (cfg : NodeId → Config) (w : World) (as : List Act) (a : Act)
    (s s' : Sys) (room : RoomId) (o : NodeId)
    (hrun : run (step cfg) { world := w } as = some s) (hstep : step cfg s a = some s')
    (htrust : Along (step cfg) Trusted { world := w } as)
    (hown : s.world.owner room = some o) (hmoved : s'.world.owner room ≠ some o) :
    Passed (step cfg) (Down o) { world := w } as := by
  have hj : Justified cfg { world := w } as s :=
    run_history (J := Justified cfg { world := w }) (fun t ht => absurd ht (by simp))
      (fun _ _ _ _ hr hj hg hst => step_justified hr hj hg hst) htrust hrun
  obtain ⟨i, ans, keys, t, pc', -, hmove⟩ := owner_moved hstep hown hmoved
  exact hj t (List.mem_of_getElem? hmove.at_i) room _ o hmove.at_pc rfl

/-! ## One failed lookup -/

/-- Two `READY` nodes that have just refreshed their records; `o` owns the room `r`. -/
def twoLive : World where
  nodes := RedisNodes.register (15 * second) 0
    (RedisNodes.register (15 * second) 0 .empty ⟨"o", .ready, 0, by decide⟩)
    ⟨"n", .ready, 0, by decide⟩
  rooms := { rooms := (∅ : GoMap RoomId NodeId).insert "r" "o" }

/-- The same with the record of `o` gone. -/
def oneGone : World := { twoLive with nodes := twoLive.nodes.unregister "o" }

/-- `RecoverRoom(r)` on `n`, up to the script; `lookup` is how the lookup of the owner ends. -/
def recoverRun (lookup : Answer) : List Act :=
  [Act.start "n" (.recoverRoom "r")] ++ List.replicate 4 (Act.thread 0 .ok []) ++
    [Act.thread 0 lookup []] ++ List.replicate 8 (Act.thread 0 .ok [])

/-- The configuration of every node. -/
def plain : NodeId → Config := fun _ => { router := { nodeTTL := 15 * second } }

/-- The room of a node whose record is gone is taken over. -/
theorem takeover_justified_gone :
    ∃ s ∈ run (step plain) { world := oneGone } (recoverRun .ok),
    ∃ s' ∈ step plain s (.thread 0 .ok []),
      s'.world.owner "r" = some "n" ∧
      Passed (step plain) (Down "o") { world := oneGone } (recoverRun .ok) := by
  obtain ⟨s, hs, s', hs', ho, ho'⟩ :
      ∃ s ∈ run (step plain) { world := oneGone } (recoverRun .ok),
      ∃ s' ∈ step plain s (.thread 0 .ok []),
        s.world.owner "r" = some "o" ∧ s'.world.owner "r" = some "n" := by
    decide +kernel
  have htrust : Along (step plain) Trusted { world := oneGone } (recoverRun .ok) := by
    refine Along.of_forall fun a ha t i ans keys _ _ _ hact _ _ hans => absurd ?_ hans
    subst hact
    simp [recoverRun] at ha
    exact ha.2.1
  exact ⟨s, hs, s', hs', ho',
    takeover_justified plain oneGone (recoverRun .ok) _ s s' "r" "o" hs hs' htrust ho
      (by simp [ho'])⟩

theorem setLocal_marked {l : Local} (hd : l.detector = (w.locals n).detector) (m o : NodeId) :
    (w.setLocal n l).marked m o = w.marked m o := by
  unfold World.marked World.setLocal
  by_cases hm : m = n
  · subst hm
    simp [hd]
  · simp [hm]

/-- A step of `RecoverRoom` touches neither the registry nor the marks. -/
theorem roomStep_frame (h : roomStep c n room w ans pc = some (w', pc')) :
    w'.nodes = w.nodes ∧ w'.now = w.now ∧ ∀ m o, w'.marked m o = w.marked m o := by
  cases pc <;> simp only [roomStep, some.injEq, Prod.mk.injEq, reduceCtorEq] at h
  case lock =>
    split_ifs at h <;> obtain ⟨rfl, -⟩ := Prod.mk.inj (some.inj h)
    · exact ⟨rfl, rfl, fun _ _ => rfl⟩
    · exact ⟨rfl, rfl, setLocal_marked rfl⟩
  case note | finish =>
    obtain ⟨rfl, -⟩ := h
    exact ⟨rfl, rfl, setLocal_marked rfl⟩
  case put | swap =>
    obtain ⟨rfl, -⟩ := h
    split_ifs <;> exact ⟨rfl, rfl, fun _ _ => rfl⟩
  all_goals
    obtain ⟨rfl, -⟩ := h
    exact ⟨rfl, rfl, fun _ _ => rfl⟩

/-- A node that is up, while nothing but `RecoverRoom` calls runs. -/
structure Up (o : NodeId) (s : Sys) : Prop where
  record : ∃ r, s.world.nodes.get s.world.now o = some r ∧ r.state ≠ .offline
  unmarked : ∀ n, s.world.marked n o = false
  calls : ∀ t ∈ s.threads, ∃ room pc, t.pc = .room room pc

theorem Up.not_down (h : Up o s) : ¬ Down o s := by
  obtain ⟨r, hr, hoff⟩ := h.record
  rintro (hnone | ⟨r', hr', hoff'⟩ | ⟨n, hn⟩)
  · simp [hr] at hnone
  · obtain rfl := mem_unique hr hr'
    exact hoff hoff'
  · simp [h.unmarked n] at hn

/-- The actions of `RecoverRoom` calls alone. -/
def Act.recoversRoom : Act → Bool
  | .start _ (.recoverRoom _) | .thread _ _ _ => true
  | _ => false

theorem step_up {s' : Sys} (hup : Up o s) (ha : a.recoversRoom = true)
    (h : step cfg s a = some s') : Up o s' := by
  cases a with
  | start n task =>
    cases h
    refine ⟨hup.record, hup.unmarked, ?_⟩
    intro t ht
    rcases mem_snoc.1 ht with ht | rfl
    · exact hup.calls t ht
    · cases task <;> simp [Act.recoversRoom] at ha
      exact ⟨_, _, rfl⟩
  | thread i ans keys =>
    cases hi : s.threads[i]? with
    | none => simp [step, hi] at h
    | some t =>
      obtain ⟨room, pc, hpc⟩ := hup.calls t (List.mem_of_getElem? hi)
      obtain ⟨pc', hmove⟩ := step_roomMove h hi hpc
      obtain ⟨hnodes, hnow, hmarks⟩ := roomStep_frame hmove.step
      refine ⟨by rw [hnodes, hnow]; exact hup.record, fun n => by rw [hmarks, hup.unmarked],
        fun u hu => ?_⟩
      rw [hmove.threads] at hu
      rcases List.mem_or_eq_of_mem_set hu with hu | rfl
      · exact hup.calls u hu
      · exact ⟨room, pc', rfl⟩
  | wait _ | register _ | heartbeat _ | unregister _ | health _ _ | publishLoad _ _ =>
    exact absurd ha (by simp [Act.recoversRoom])

/-- A run of `RecoverRoom` calls alone never passes through a state where an up node is down. -/
theorem not_passed_down (hup : Up o s) (has : ∀ a ∈ as, a.recoversRoom = true) :
    ¬ Passed (step cfg) (Down o) s as := by
  rintro ⟨pre, post, t, rfl, hpre, hdown⟩
  have hup' : Up o t :=
    run_invariant (G := fun _ a => a.recoversRoom = true) (fun _ _ _ hs ha hst => step_up hs ha hst)
      hup (Along.of_forall fun a ha _ => has a (List.mem_append_left _ ha)) hpre
  exact hup'.not_down hdown

/-- **A takeover from a live node**: the lookup of the owner's record fails once, and the room of
a `READY` node with a fresh record and no mark is taken over. -/
theorem takeover_from_live :
    ∃ s ∈ run (step plain) { world := twoLive } (recoverRun .failed),
    ∃ s' ∈ step plain s (.thread 0 .ok []),
      s.world.owner "r" = some "o" ∧ s'.world.owner "r" = some "n" ∧
      ¬ Passed (step plain) (Down "o") { world := twoLive } (recoverRun .failed) := by
  obtain ⟨s, hs, s', hs', ho, ho'⟩ :
      ∃ s ∈ run (step plain) { world := twoLive } (recoverRun .failed),
      ∃ s' ∈ step plain s (.thread 0 .ok []),
        s.world.owner "r" = some "o" ∧ s'.world.owner "r" = some "n" := by
    decide +kernel
  have hup : Up "o" { world := twoLive } :=
    ⟨⟨⟨"o", .ready, 0, by decide⟩, by decide +kernel, by decide⟩, fun _ => rfl,
      fun t ht => absurd ht (by simp)⟩
  exact ⟨s, hs, s', hs', ho, ho', not_passed_down hup (by decide)⟩

end PulseRTC.Cluster.Recovery
