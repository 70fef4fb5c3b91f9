import PulseRTC.Cluster.Recovery

/-!
# Orphaned rooms

Every live node runs `RecoverNode(d)` once for a dead node `d`. Each run goes over the rooms of `d`
and takes those that the router of its node gives to the node itself; for the others it defers to
the elected node. The elections of two nodes need not agree: each prefers itself within a margin,
counts its own pending rooms, and follows an assignment only while that lives.

* `ElectionWon cfg d room`: a step at which a node, about to decide, elects itself for the room.
* `recovered_iff_elected`: after all runs have finished, no room is left with `d` exactly when
  every room of `d` had such a step.
-/

namespace PulseRTC.Cluster.Recovery

open Foundations List Option Prod

/-- The node and the task of an action that starts a call. -/
def Act.started : Act → Option (NodeId × Task)
  | .start n task => some (n, task)
  | _ => none

/-- The command of the action, if any, is answered. -/
def Act.clean : Act → Bool
  | .thread _ ans _ => ans = .ok
  | _ => true

/-- A recovery of `d`: each of the `live` nodes runs `RecoverNode(d)` once, in any interleaving and
at any times, no command fails, and all calls have returned. -/
structure Sweep (cfg : NodeId → Config) (d : NodeId) (live : List NodeId) (w : World)
    (as : List Act) (s : Sys) : Prop where
  reached : run (step cfg) { world := w } as = some s
  clean : ∀ a ∈ as, a.clean = true
  nonempty : live ≠ []
  nodup : live.Nodup
  dead : d ∉ live
  starts : (as.filterMap Act.started).Perm (live.map fun n => (n, .recoverNode d))
  returned : ∀ t ∈ s.threads, t.pc.result ≠ none

/-- A `RecoverRoom` call is about to decide on a room of `d`, and its node elects itself by the
nodes, loads and pending counters that it has read, and by the assignment of the room. -/
def ElectionWon (cfg : NodeId → Config) (d : NodeId) (room : RoomId) (s : Sys) (a : Act) : Prop :=
  ∃ i ans keys t v, a = .thread i ans keys ∧ s.threads[i]? = some t ∧
    t.pc = .room room (.assignment d v) ∧
    Elects t.node (v.candidates (cfg t.node).router) (s.world.assigns.get s.world.now room)

/-! ## From the election to the script -/

/-- The owner that a call on `n` is committed to take the room from. -/
def RoomPc.commits (n : NodeId) : RoomPc → Option NodeId
  | .note old target | .put old target => if target ≠ "" ∧ target ≠ n then none else some old
  | .swap old => some old
  | _ => none

theorem commits_afterSelect (n old target : NodeId) :
    (afterSelect n old target).commits n = (RoomPc.put old target).commits n := by
  unfold afterSelect
  split_ifs with h <;> simp [RoomPc.commits, h]

theorem commits_afterSwap (n : NodeId) (room : RoomId) (code : ℕ) :
    (afterSwap n room code).commits n = none := by
  unfold afterSwap
  split <;> rfl

variable {n o d : NodeId} {c : Config} {room : RoomId} {w w' : World} {pc' pc : RoomPc} {s s' : Sys}
  {cfg : NodeId → Config} {a : Act}

variable {old : NodeId} {ans : Answer} {i : ℕ} {t : Thread} {as : List Act}

/-- The decision commits the call exactly when the node elects itself. -/
theorem commits_decision {v : View}
    (h : roomStep c n room w .ok (.assignment old v) = some (w', pc')) :
    pc'.commits n = some o ↔
      o = old ∧ Elects n (v.candidates c.router) (w.assigns.get w.now room) := by
  simp only [roomStep, if_true, some.injEq, mk.injEq] at h
  obtain ⟨-, rfl⟩ := h
  rw [← elect_self_iff]
  generalize v.candidates c.router = cs
  have hput : ∀ target reason, elect n cs (w.assigns.get w.now room) = some (target, reason) →
      ((RoomPc.put old target).commits n = some o ↔ o = old ∧ target = n) := by
    intro target reason he
    have hne := (elect_isCandidate he).named
    by_cases ht : target = n
    · simp [RoomPc.commits, ht, eq_comm]
    · simp [RoomPc.commits, ht, hne]
  split
  next hnone => simp [hnone, RoomPc.commits]
  next target he => simp [commits_afterSelect, hput _ _ he, he]
  next target reason _ he =>
    have hnote : (RoomPc.note old target).commits n = (RoomPc.put old target).commits n := rfl
    simp [hnote, hput _ _ he, he]

/-- A call is committed by its decision alone. -/
theorem commits_of_step (h : roomStep c n room w .ok pc = some (w', pc'))
    (ho : pc'.commits n = some o) :
    pc.commits n = some o ∨
      ∃ v, pc = .assignment o v ∧
        Elects n (v.candidates c.router) (w.assigns.get w.now room) := by
  cases hpc : pc <;> subst hpc
  case assignment old v =>
    obtain ⟨rfl, he⟩ := (commits_decision h).1 ho
    exact .inr ⟨v, rfl, he⟩
  all_goals simp only [roomStep, if_true, some.injEq, mk.injEq, reduceCtorEq] at h
  case lock =>
    split_ifs at h <;> obtain ⟨-, rfl⟩ := mk.inj (some.inj h) <;>
      simp [RoomPc.commits] at ho
  case note =>
    obtain ⟨-, rfl⟩ := h
    exact .inl ho
  case put =>
    obtain ⟨-, rfl⟩ := h
    exact .inl (commits_afterSelect n _ _ ▸ ho)
  case swap =>
    obtain ⟨-, rfl⟩ := h
    simp [commits_afterSwap] at ho
  all_goals
    obtain ⟨-, rfl⟩ := h
    (repeat' split at ho) <;> simp [RoomPc.commits] at ho

/-- A committed call stays committed until its script. -/
theorem commits_step (h : roomStep c n room w .ok pc = some (w', pc'))
    (ho : pc.commits n = some o) :
    pc'.commits n = some o ∨ pc = .swap o := by
  cases hpc : pc <;> subst hpc
  case note =>
    simp only [roomStep, some.injEq, mk.injEq] at h
    obtain ⟨-, rfl⟩ := h
    exact .inl ho
  case put =>
    simp only [roomStep, some.injEq, mk.injEq] at h
    obtain ⟨-, rfl⟩ := h
    exact .inl ((commits_afterSelect n _ _).trans ho)
  case swap old => exact .inr (by rw [some.inj ho])
  all_goals simp [RoomPc.commits] at ho

/-- The script of a node other than `d` leaves no room it is run for with `d`, and gives `d` no
room. -/
theorem script_not_owner {r : RedisRooms} {room' : RoomId} (hn : n ≠ d)
    (h : r.rooms.lookup room' ≠ some d ∨ room' = room ∧ old = d) :
    (r.recoverOwnerScript room old n).1.rooms.lookup room' ≠ some d := by
  rw [recoverOwnerScript_owner]
  cases ho : r.rooms.lookup room' with
  | none => simp
  | some o =>
    rw [map_some, ne_eq, some.injEq]
    split_ifs with hroom
    · exact hn
    · rintro rfl
      rcases h with h | ⟨rfl, rfl⟩
      · exact h ho
      · exact hroom ⟨rfl, rfl⟩

/-! ## The sweep -/

/-- The condition of a sweep on each action. -/
def InSweep (d : NodeId) (_ : Sys) (a : Act) : Prop :=
  a.clean = true ∧ ∀ n task, a = .start n task → n ≠ d

theorem InSweep.ok {keys : List RoomId}
    (h : InSweep d s (.thread i ans keys)) : ans = .ok := of_decide_eq_true h.1

/-- What holds along a sweep that starts from `w`. -/
structure SweepInv (cfg : NodeId → Config) (d : NodeId) (w : World) (as : List Act) (s : Sys) :
    Prop where
  /-- No call runs on `d`. -/
  node : ∀ t ∈ s.threads, t.node ≠ d
  /-- `d` gets no room. -/
  other : ∀ room, w.owner room ≠ some d → s.world.owner room ≠ some d
  /-- A committed call has won its election. -/
  won : ∀ t ∈ s.threads, ∀ room pc, t.pc = .room room pc → pc.commits t.node = some d →
    Sometime (step cfg) (ElectionWon cfg d room) { world := w } as
  /-- A room that `d` lost was won in an election. -/
  lost : ∀ room, w.owner room = some d → s.world.owner room ≠ some d →
    Sometime (step cfg) (ElectionWon cfg d room) { world := w } as
  /-- After an election was won, `d` has lost the room or a call is committed to take it. -/
  taken : ∀ room, Sometime (step cfg) (ElectionWon cfg d room) { world := w } as →
    s.world.owner room ≠ some d ∨
      ∃ t ∈ s.threads, ∃ pc, t.pc = .room room pc ∧ pc.commits t.node = some d

theorem sweepInv_init (cfg : NodeId → Config) (d : NodeId) (w : World) :
    SweepInv cfg d w [] { world := w } where
  node t ht := absurd ht (by simp)
  other _ h := h
  won t ht := absurd ht (by simp)
  lost _ h h' := absurd h h'
  taken room h := by
    obtain ⟨pre, a, post, t, heq, -⟩ := h
    simp at heq

/-- `d` gets no room from calls on other nodes. -/
theorem owner_stays_off (hnode : ∀ t ∈ s.threads, t.node ≠ d) (h : step cfg s a = some s')
    (ho : s.world.owner room ≠ some d) : s'.world.owner room ≠ some d := by
  rcases step_cases h with ⟨i, ans, keys, t, room', pc, pc', -, hmove⟩ | hquiet
  · rcases roomStep_rooms hmove.step with hsame | ⟨old, -, hscript⟩
    · rwa [World.owner, hsame]
    · rw [World.owner, hscript]
      exact script_not_owner (hnode t (mem_of_getElem? hmove.at_i)) (.inl ho)
  · rwa [World.owner, hquiet.rooms]

theorem RoomMove.mem (h : RoomMove cfg s i ans t room pc pc' s') :
    { t with pc := .room room pc' } ∈ s'.threads := by
  rw [h.threads]
  exact List.mem_set (List.getElem?_eq_some_iff.1 h.at_i).1 _

/-- Who wins an election is committed after the step. -/
theorem ElectionWon.commits (hwon : ElectionWon cfg d room s a) (hin : InSweep d s a)
    (h : step cfg s a = some s') :
    ∃ t ∈ s'.threads, ∃ pc, t.pc = .room room pc ∧ pc.commits t.node = some d := by
  obtain ⟨i, ans, keys, t, v, rfl, hi, hpc, he⟩ := hwon
  obtain rfl := hin.ok
  obtain ⟨pc', hmove⟩ := step_roomMove h hi hpc
  exact ⟨_, hmove.mem, pc', rfl, (commits_decision hmove.step).2 ⟨rfl, he⟩⟩

/-- A step keeps a committed call, or runs its script. -/
theorem committed_step (hnode : ∀ t ∈ s.threads, t.node ≠ d) (hin : InSweep d s a)
    (h : step cfg s a = some s') (ht : t ∈ s.threads) (hpc : t.pc = .room room pc)
    (hc : pc.commits t.node = some d) : s'.world.owner room ≠ some d ∨
      ∃ t ∈ s'.threads, ∃ pc, t.pc = .room room pc ∧ pc.commits t.node = some d := by
  rcases step_cases h with ⟨i, ans, keys, u, room', pc₀, pc', rfl, hmove⟩ | hquiet
  · by_cases htu : t = u
    · subst htu
      obtain rfl := hin.ok
      obtain ⟨rfl, rfl⟩ := Pc.room.inj (hmove.at_pc.symm.trans hpc)
      rcases commits_step hmove.step hc with hc' | rfl
      · exact .inr ⟨_, hmove.mem, pc', rfl, hc'⟩
      · refine .inl ?_
        have hstep := hmove.step
        simp only [roomStep, Answer.applied, if_true, some.injEq, mk.injEq] at hstep
        rw [World.owner, ← hstep.1]
        exact script_not_owner (hnode t ht) (.inr ⟨rfl, rfl⟩)
    · exact .inr ⟨t, hmove.threads ▸ mem_set_of_ne hmove.at_i ht htu, pc, hpc, hc⟩
  · exact .inr ⟨t, hquiet.old t ht room pc hpc, pc, hpc, hc⟩

/-- A call that is committed after a step was committed before it or wins its election at it. -/
theorem committed_before (hin : InSweep d s a) (h : step cfg s a = some s') {u : Thread}
    (hu : u ∈ s'.threads) (hpc : u.pc = .room room pc) (hc : pc.commits u.node = some d) :
    (∃ t ∈ s.threads, ∃ pc, t.pc = .room room pc ∧ pc.commits t.node = some d) ∨
      ElectionWon cfg d room s a := by
  rcases step_cases h with ⟨i, ans, keys, t, room', pc₀, pc', rfl, hmove⟩ | hquiet
  · rw [hmove.threads] at hu
    rcases mem_or_eq_of_mem_set hu with hu | rfl
    · exact .inl ⟨u, hu, pc, hpc, hc⟩
    · obtain rfl := hin.ok
      obtain ⟨rfl, rfl⟩ := Pc.room.inj hpc
      rcases commits_of_step hmove.step hc with hc | ⟨v, rfl, he⟩
      · exact .inl ⟨t, mem_of_getElem? hmove.at_i, pc₀, hmove.at_pc, hc⟩
      · exact .inr ⟨i, .ok, keys, t, v, rfl, hmove.at_i, hmove.at_pc, he⟩
  · rcases hquiet.new u hu room pc hpc with rfl | hu
    · simp [RoomPc.commits] at hc
    · exact .inl ⟨u, hu, pc, hpc, hc⟩

theorem step_sweepInv (hrun : run (step cfg) { world := w } as = some s)
    (hj : SweepInv cfg d w as s) (hin : InSweep d s a) (h : step cfg s a = some s') :
    SweepInv cfg d w (as ++ [a]) s' where
  node u hu := by
    rcases step_node h hu with ⟨t, ht, hn⟩ | ⟨task, ha⟩
    · exact hn ▸ hj.node t ht
    · exact hin.2 _ _ ha
  other room ho := owner_stays_off hj.node h (hj.other room ho)
  won u hu room pc hpc hc := by
    rcases committed_before hin h hu hpc hc with ⟨t, ht, pc₀, hpc₀, hc₀⟩ | hwon
    · exact (hj.won t ht room pc₀ hpc₀ hc₀).extend a
    · exact .last hrun hwon
  lost room ho ho' := by
    by_cases hs : s.world.owner room = some d
    · -- the room is lost at this step, to the script of a committed call
      obtain ⟨i, ans, keys, t, pc', -, hmove⟩ := owner_moved h hs ho'
      exact (hj.won t (mem_of_getElem? hmove.at_i) room _ hmove.at_pc rfl).extend a
    · exact (hj.lost room ho hs).extend a
  taken room hsome := by
    rcases hsome.snoc with hsome | ⟨t, ht, hwon⟩
    · rcases hj.taken room hsome with ho | ⟨t, ht, pc, hpc, hc⟩
      · exact .inl (owner_stays_off hj.node h ho)
      · exact committed_step hj.node hin h ht hpc hc
    · obtain rfl := mem_unique ht hrun
      exact .inr (hwon.commits hin h)

theorem Sweep.inv {live : List NodeId} (h : Sweep cfg d live w as s) : SweepInv cfg d w as s := by
  refine run_history (G := InSweep d) (J := SweepInv cfg d w) (sweepInv_init cfg d w)
    (fun _ _ _ _ hr hj hg hst => step_sweepInv hr hj hg hst)
    (Along.of_forall fun a ha _ => ⟨h.clean a ha, ?_⟩) h.reached
  rintro n task rfl hn
  have hmem : (n, task) ∈ as.filterMap Act.started := mem_filterMap.2 ⟨_, ha, rfl⟩
  obtain ⟨m, hm, heq⟩ := mem_map.1 (h.starts.mem_iff.1 hmem)
  rw [← hn, ← (mk.inj heq).1] at h
  exact h.dead hm

/-- **Orphaned rooms**: after every live node has run `RecoverNode(d)` once, no room is left with
`d` exactly when for every room of `d` some node elected itself at its decision. -/
theorem recovered_iff_elected (cfg : NodeId → Config) (d : NodeId) (live : List NodeId) (w : World)
    (as : List Act) (s : Sys) (h : Sweep cfg d live w as s) :
    (∀ room, s.world.owner room ≠ some d) ↔
      ∀ room, w.owner room = some d →
        Sometime (step cfg) (ElectionWon cfg d room) { world := w } as := by
  have hinv := h.inv
  constructor
  · exact fun hno room ho => hinv.lost room ho (hno room)
  · intro hwon room
    by_cases ho : w.owner room = some d
    · rcases hinv.taken room (hwon room ho) with hs | ⟨t, ht, pc, hpc, hc⟩
      · exact hs
      · -- a committed call has not returned
        refine absurd ?_ (h.returned t ht)
        rw [hpc]
        cases pc <;> first | rfl | simp [RoomPc.commits] at hc
    · exact hinv.other room ho

/-! ## Two sweeps -/

/-- The configuration of every node: the default expiry of records, no capacity limits. -/
def everyNode : NodeId → Config := fun _ => { router := { nodeTTL := 15 * second } }

/-- A `READY` record. -/
def readyNode (id : NodeId) (h : id ≠ "") : NodeInfo := ⟨id, .ready, 0, h⟩

/-- A dead node `d` owns the room `r`; `a` and `b` are `READY`, and each counts ten pending rooms
for itself. -/
def pendingWorld : World where
  nodes := RedisNodes.register (15 * second) 0
    (RedisNodes.register (15 * second) 0 .empty (readyNode "b" (by decide)))
    (readyNode "a" (by decide))
  rooms := { rooms := (∅ : GoMap RoomId NodeId).insert "r" "d" }
  locals n := { pending := (∅ : GoMap NodeId PendingCount).insert n ⟨10, 0⟩ }

/-- `RecoverNode(d)` on `n`: the thread `i` of the call, up to its only worker, then the `k` steps
of the worker, then the rest of the call. -/
def sweepOf (n : NodeId) (i k : ℕ) : List Act :=
  [Act.start n (.recoverNode "d")] ++ List.replicate 6 (Act.thread i .ok ["r"]) ++
    List.replicate k (Act.thread (i + 1) .ok []) ++ List.replicate 2 (Act.thread i .ok [])

/-- Twenty seconds, after which both nodes refresh their records. -/
def twentySeconds : List Act :=
  [.wait 20000000000, .register (readyNode "a" (by decide)), .register (readyNode "b" (by decide))]

/-- One live node without pending rooms recovers the room: its election is won. -/
theorem recovered_iff_elected_alone :
    Sometime (step everyNode) (ElectionWon everyNode "d" "r")
      { world := { pendingWorld with locals := fun _ => {} } } (sweepOf "a" 0 15) := by
  obtain ⟨s, hs, hret, hown⟩ :
      ∃ s ∈ run (step everyNode) { world := { pendingWorld with locals := fun _ => {} } }
        (sweepOf "a" 0 15),
        (∀ t ∈ s.threads, t.pc.result ≠ none) ∧ GoMap.keysOf s.world.rooms.rooms "d" = ∅ := by
    decide +kernel
  have hsweep : Sweep everyNode "d" ["a"] { pendingWorld with locals := fun _ => {} }
      (sweepOf "a" 0 15) s :=
    ⟨hs, by decide, by decide, by decide, by decide, by decide, hret⟩
  refine (recovered_iff_elected everyNode "d" ["a"] _ _ s hsweep).1 (fun room ho => ?_) "r" rfl
  have hmem : room ∈ GoMap.keysOf s.world.rooms.rooms "d" := GoMap.mem_keysOf.2 ho
  simp [hown] at hmem

/-- **Two nodes defer to each other**: `a` finds itself loaded and leaves the room to `b`; twenty
seconds later the assignment is gone, `b` finds itself loaded and leaves it to `a`. The room
is still owned by the dead node. -/
theorem deferred_to_each_other :
    ∃ s, Sweep everyNode "d" ["a", "b"] pendingWorld
        (sweepOf "a" 0 14 ++ twentySeconds ++ sweepOf "b" 2 14) s ∧
      s.world.owner "r" = some "d" := by
  obtain ⟨s, hs, hret, hown⟩ :
      ∃ s ∈ run (step everyNode) { world := pendingWorld }
        (sweepOf "a" 0 14 ++ twentySeconds ++ sweepOf "b" 2 14),
        (∀ t ∈ s.threads, t.pc.result ≠ none) ∧ s.world.owner "r" = some "d" := by
    decide +kernel
  exact ⟨s, ⟨hs, by decide, by decide, by decide, by decide, by decide, hret⟩, hown⟩

end PulseRTC.Cluster.Recovery
