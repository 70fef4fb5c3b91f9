import PulseRTC.Signaling.Connections

/-!
# Leaving once

`disconnect` says farewell on behalf of a connection that is in a room: it broadcasts
`participant_left`, sends the room event to the other nodes, notes it in the history and fires the
hook. The read pump of a connection calls it when it ends, which happens once; a
`participant.disconnect` message calls it as well, and the room of the connection is never unset, so
the read pump says farewell again afterwards.

* `left_once`: if no such message finds its client in a room, each farewell is said at most once.
-/

namespace PulseRTC.Signaling.Connections

open Foundations Cluster

/-! ## Farewells -/

/-- The farewell `k` is still to be said by the instruction, or after it. -/
def Instr.owes (k : Farewell) : Instr → Option ParticipantId
  | .disconnect c .readPump | .leave c _ => some c
  | .farewell .broadcast c _ => some c
  | .farewell .roomEvent c _ => if k = .broadcast then none else some c
  | .removeParticipant c _ | .farewell .history c _ =>
    if k = .history ∨ k = .hook then some c else none
  | .farewell .hook c _ => if k = .hook then some c else none
  | _ => none

/-- A farewell is said once at most, and only by the end of the read pump. -/
def SaidOnce (s : State) (P : Multiset Instr) : Prop :=
  ∀ k c, tally (Instr.owes k) c P + s.farewells.count (k, c) ≤
    if (s.clients c).pump = .ended then 1 else 0

/-- The client that a `participant.disconnect` message disconnects. -/
def Instr.dismisses : Instr → Option ParticipantId
  | .disconnect c .message => some c
  | _ => none

/-- No `participant.disconnect` message finds its client in a room. -/
def DismissesOutside (s : State) (_ : Multiset Instr) (i : Instr) (_ : Choice) : Prop :=
  ∀ c ∈ i.dismisses, (s.clients c).roomID = ""

instance (s : State) (P : Multiset Instr) (i : Instr) (x : Choice) :
    Decidable (DismissesOutside s P i x) := inferInstanceAs (Decidable (∀ _, _))

section Farewells

variable {s s' : State} {P rest : Multiset Instr} {new : List Instr} {x : Choice} {i : Instr}
  {c : ParticipantId} {k : Farewell}

/-- A step says a farewell that it owes, and owes no more than before. -/
theorem Does.owes (hdoes : Does s i s' new) (hout : DismissesOutside s P i x) :
    tally (Instr.owes k) c (new : Multiset Instr) + s'.farewells.count (k, c) ≤
      tally (Instr.owes k) c {i} + s.farewells.count (k, c) := by
  cases hdoes with
  | @refused _ q h text =>
    rw [Multiset.coe_singleton, tally_singleton, if_neg (by simp [Instr.owes]), Nat.zero_add]
    exact Nat.le_add_left _ _
  | inside q caller hroom =>
    cases caller with
    | readPump => exact le_rfl
    | message => exact absurd (hout q rfl) hroom
  | outside q caller hroom =>
    refine Nat.add_le_add_right ?_ _
    exact Nat.zero_le _
  | tellNobody q room =>
    refine Nat.add_le_add_right ?_ _
    cases k <;> simp [Instr.owes]
  | farewell kind q room =>
    -- what is said now is not owed any more
    rw [List.count_cons]
    cases kind <;> cases k <;> simp [Farewell.next, Instr.owes, Nat.add_comm]
  | removeParticipant q room =>
    rw [(removeParticipant_clients s q room).2.2]
    exact Nat.add_le_add_right (by cases k <;> simp [Instr.owes]) _
  | send q room frame x => rw [(send_pump (c := c) s q frame x).2.2]; exact le_rfl
  | _ => exact le_rfl

theorem exec_saidOnce (hpumps : Pumps s (i ::ₘ rest)) (h : SaidOnce s (i ::ₘ rest))
    (hout : DismissesOutside s (i ::ₘ rest) i x) (hex : exec s i x = some (s', new)) :
    SaidOnce s' (new + rest) := by
  intro k c
  have hdoes := exec_does hex
  have howes := hdoes.owes (k := k) (c := c) hout
  have hold := h k c
  rw [← Multiset.singleton_add, tally_add] at hold
  have hpump : (s.clients c).pump = .ended ↔ (s'.clients c).pump = .ended := by
    by_cases hi : i = .ready c
    · subst hi
      cases hex
      simp [(hpumps.of_handler rfl).1]
    · rw [(hdoes.pump hi).2]
  rw [tally_add]
  simp only [hpump] at hold
  omega

theorem SaidOnce.start (h : SaidOnce s P) (hnew : ∀ k c, tally (Instr.owes k) c new = 0)
    (hfare : s'.farewells = s.farewells)
    (hpump : ∀ c, (s.clients c).pump = .ended → (s'.clients c).pump = .ended) :
    SaidOnce s' (new + P) := by
  intro k c
  have hold := h k c
  have hended := hpump c
  rw [tally_add, hnew, Nat.zero_add, hfare]
  split_ifs at hold ⊢ <;> first | omega | exact absurd (hended ‹_›) ‹_›

theorem launch_saidOnce {op : Op} (hpumps : Pumps s P) (h : SaidOnce s P)
    (hla : launch s op = some (s', new)) : SaidOnce s' (new + P) := by
  -- a client that reads a message, or is new, has not ended
  have hupdate (q : ParticipantId) (y : Client) (hq : (s.clients q).pump ≠ .ended)
      (c : ParticipantId) (hc : (s.clients c).pump = .ended) :
      (Function.update s.clients q y c).pump = .ended := by
    have hne : c ≠ q := by
      rintro rfl
      exact hq hc
    rwa [Function.update_of_ne hne]
  cases launch_starts hla with
  | connect q node hq =>
    exact h.start (fun _ _ => rfl) rfl (hupdate q _ (by simp [hpumps.connected q hq]))
  | join q room hq | forward q type target payload hq =>
    exact h.start (fun _ _ => rfl) rfl (hupdate q _ (by simp [hq.2]))
  | readEnds q hq =>
    intro k c
    have hold := h k c
    by_cases heq : c = q
    · -- nothing has been said yet, and the farewell is owed from now on
      subst heq
      rw [hq.2, if_neg (by decide)] at hold
      simp only [Multiset.coe_singleton, tally_add, tally_singleton, Instr.owes, if_true,
        State.onClient, Function.update_self]
      omega
    · simpa [Instr.owes, heq, Ne.symm heq] using hold
  | closeNow q =>
    refine h.start (fun _ _ => rfl) rfl fun c hc => ?_
    exact (onClient_of_eq Client.pump s q (f := fun y => { y with socket := false })
      fun _ => rfl).trans hc
  | deliver | deliverDisconnect =>
    exact h.start (fun _ _ => rfl) rfl fun _ => id

end Farewells

/-! ## Runs -/

/-- **A connection leaves once**: in every run in which no `participant.disconnect` message finds
its client in a room, `participant_left` is broadcast, sent to the other nodes, noted in the history
and reported to the hook at most once for each connection. -/
theorem left_once (as : List Act) (t : System)
    (hout : Along step (Pool.Meets (fun _ _ _ => True) DismissesOutside) System.empty as)
    (hrun : run step System.empty as = some t) (c : ParticipantId) (k : Farewell) :
    t.shared.farewells.count (k, c) ≤ 1 := by
  have hinv : Pumps t.shared t.pending ∧ SaidOnce t.shared t.pending := by
    refine Pool.run_inv (I := fun s P => Pumps s P ∧ SaidOnce s P) ?_ ?_ ?_ hout hrun
    · intro s P op s' code h _ hla
      exact ⟨launch_pumps h.1 hla, launch_saidOnce h.1 h.2 hla⟩
    · intro s i rest x s' new h hE hex
      exact ⟨exec_pumps h.1 hex, exec_saidOnce h.1 h.2 hE hex⟩
    · exact ⟨⟨fun _ => rfl, fun _ _ => rfl⟩, fun _ _ => Nat.zero_le _⟩
  have hsaid := hinv.2 k c
  split_ifs at hsaid <;> omega

/-- Two clients of one node join a room. -/
def joined : List Act :=
  [Pool.Act.start (Op.connect "a" "n1"), Pool.Act.start (Op.connect "b" "n1"),
    Pool.Act.start (Op.join "a" "r")] ++ go 2 8 ++ [Pool.Act.start (Op.join "b" "r")] ++ go 3 8

/-- One of them leaves the room, and nobody has disconnected it before. -/
def leaves : List Act := joined ++ [Pool.Act.start (Op.readEnds "a")] ++ go 4 9

theorem left_once_readEnds : ∃ t ∈ run step System.empty leaves,
    (.broadcast, "a") ∈ t.shared.farewells ∧ t.shared.farewells.count (.broadcast, "a") ≤ 1 := by
  refine exists_mem_and (by decide +kernel) fun t ht _ => ?_
  exact left_once leaves t (by decide +kernel) ht "a" .broadcast

/-- A `participant.disconnect` message disconnects it, and its read pump ends afterwards. -/
def dismissed : List Act :=
  joined ++ [Pool.Act.start (Op.deliverDisconnect "n1" "a")] ++ go 4 9 ++
    [Pool.Act.start (Op.closeNow "a"), Pool.Act.start (Op.readEnds "a")] ++ go 6 9

theorem left_twice : ∃ t ∈ run step System.empty dismissed,
    ∀ k ∈ [Farewell.broadcast, .roomEvent, .history, .hook],
      t.shared.farewells.count (k, "a") = 2 := by
  decide +kernel

end PulseRTC.Signaling.Connections
