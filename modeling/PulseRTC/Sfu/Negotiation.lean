import PulseRTC.Foundations.Goroutines

/-!
# Renegotiation

Every track that is added to or removed from the peer connection of a participant has to be
announced to the browser with an offer. `scheduleNegotiate` arms a timer for this, and `negotiate`
makes the offer when the timer fires; if a negotiation is in flight it only sets `needNegotiate`,
which `HandleAnswer` looks at. The browser may make an offer too, which `HandleOffer` answers.

The peer connection is its signaling state (`SignalingState`): an operation fails in a state that
does not allow it, and may fail otherwise. Here `changes` counts the changes of the tracks, and
`sent` holds for every offer that was applied and sent how many changes there were when it was
created.

* `changes_announced`: if no request for a negotiation is dropped while no other is on the way
  (`KeepsRequest`), every change is in an offer that was sent, once everything has settled.
-/

namespace PulseRTC.Sfu.Negotiation

open Foundations Multiset

/-! ## The peer connection -/

/-- `webrtc.SignalingState`. -/
inductive SignalingState
  | stable
  | haveLocalOffer
  | haveRemoteOffer
  | closed
  deriving DecidableEq

namespace SignalingState

/-- `CreateOffer` is allowed. -/
def createsOffer : SignalingState → Bool
  | stable | haveLocalOffer => true
  | haveRemoteOffer | closed => false

/-- `SetLocalDescription` with an offer. -/
def setLocalOffer : SignalingState → Option SignalingState
  | stable | haveLocalOffer => some haveLocalOffer
  | haveRemoteOffer | closed => none

/-- `SetRemoteDescription` with an offer. -/
def setRemoteOffer : SignalingState → Option SignalingState
  | stable | haveRemoteOffer => some haveRemoteOffer
  | haveLocalOffer | closed => none

/-- `CreateAnswer` is allowed. -/
def createsAnswer : SignalingState → Bool
  | haveRemoteOffer => true
  | stable | haveLocalOffer | closed => false

/-- `SetLocalDescription` with an answer. -/
def setLocalAnswer : SignalingState → Option SignalingState
  | haveRemoteOffer => some stable
  | stable | haveLocalOffer | closed => none

/-- `SetRemoteDescription` with an answer. -/
def setRemoteAnswer : SignalingState → Option SignalingState
  | haveLocalOffer => some stable
  | stable | haveRemoteOffer | closed => none

end SignalingState

/-! ## The participant -/

/-- `negotiateTimer`: nil, running, or fired and not yet cleared. -/
inductive Timer
  | none
  | armed
  | fired
  deriving DecidableEq

/-- What a participant knows about its negotiations. -/
structure Negotiator where
  signaling : SignalingState := .stable
  makingOffer : Bool := false
  needNegotiate : Bool := false
  negotiateTimer : Timer := .none
  closed : Bool := false
  changes : ℕ := 0
  sent : List ℕ := []
  deriving DecidableEq

/-- One critical section, or one operation of the peer connection. -/
inductive Instr
  /-- `subscribe` or `unsubscribe` adds or removes a track. -/
  | change
  | scheduleNegotiate
  /-- The function of the timer clears it. -/
  | clearTimer
  | negotiate
  | createOffer
  | setLocalOffer (made : ℕ)
  | sendOffer (made : ℕ)
  | clearMakingOffer
  | handleOffer
  | setRemoteOffer
  | createAnswer
  | setLocalAnswer
  | setRemoteAnswer
  /-- `HandleAnswer` has applied the answer. -/
  | answered
  | close
  | closePeerConnection
  deriving DecidableEq

/-- One instruction; `ok` says whether an operation that is allowed succeeds. -/
def exec (s : Negotiator) : Instr → Bool → Option (Negotiator × List Instr)
  | .change, _ =>
    if s.closed then some (s, [])
    else some ({ s with changes := s.changes + 1 }, [.scheduleNegotiate])
  | .scheduleNegotiate, _ =>
    if s.closed then some (s, [])
    else if s.negotiateTimer ≠ .none then some (s, [])
    else some ({ s with negotiateTimer := .armed }, [])
  | .clearTimer, _ => some ({ s with negotiateTimer := .none }, [.negotiate])
  | .negotiate, _ =>
    if s.closed then some (s, [])
    else if s.makingOffer ∨ s.signaling ≠ .stable then some ({ s with needNegotiate := true }, [])
    else some ({ s with makingOffer := true }, [.createOffer])
  | .createOffer, ok =>
    if ok && s.signaling.createsOffer then some (s, [.setLocalOffer s.changes])
    else some (s, [.clearMakingOffer])
  | .setLocalOffer made, ok =>
    match s.signaling.setLocalOffer, ok with
    | some state, true => some ({ s with signaling := state }, [.sendOffer made])
    | _, _ => some (s, [.clearMakingOffer])
  | .sendOffer made, _ => some ({ s with sent := s.sent ++ [made] }, [])
  | .clearMakingOffer, _ => some ({ s with makingOffer := false }, [])
  | .handleOffer, _ =>
    if s.makingOffer ∨ s.signaling ≠ .stable then some (s, []) else some (s, [.setRemoteOffer])
  | .setRemoteOffer, ok =>
    match s.signaling.setRemoteOffer, ok with
    | some state, true => some ({ s with signaling := state }, [.createAnswer])
    | _, _ => some (s, [])
  | .createAnswer, ok =>
    if ok && s.signaling.createsAnswer then some (s, [.setLocalAnswer]) else some (s, [])
  | .setLocalAnswer, ok =>
    match s.signaling.setLocalAnswer, ok with
    | some state, true => some ({ s with signaling := state }, [])
    | _, _ => some (s, [])
  | .setRemoteAnswer, ok =>
    match s.signaling.setRemoteAnswer, ok with
    | some state, true => some ({ s with signaling := state }, [.answered])
    | _, _ => some (s, [])
  | .answered, _ =>
    some ({ s with makingOffer := false, needNegotiate := false },
      if s.needNegotiate then [.negotiate] else [])
  | .close, _ =>
    if s.closed then some (s, [])
    else some ({ s with closed := true, negotiateTimer := .none }, [.closePeerConnection])
  | .closePeerConnection, _ => some ({ s with signaling := .closed }, [])

/-- What the environment starts. -/
inductive Op
  /-- `subscribe` or `unsubscribe`. -/
  | change
  /-- The timer fires. -/
  | fire
  /-- `HandleOffer`. -/
  | offer
  /-- `HandleAnswer`. -/
  | answer
  | close
  deriving DecidableEq

/-- The start of a goroutine. -/
def launch (s : Negotiator) : Op → Option (Negotiator × List Instr)
  | .change => some (s, [.change])
  | .fire =>
    if s.negotiateTimer = .armed then some ({ s with negotiateTimer := .fired }, [.clearTimer])
    else none
  | .offer => some (s, [.handleOffer])
  | .answer => some (s, [.setRemoteAnswer])
  | .close => some (s, [.close])

/-- Schedules. -/
abbrev Act := Pool.Act Op Bool

/-- A participant with its goroutines. -/
abbrev System := Pool Negotiator Instr

/-- One step of the participant. -/
abbrev step : System → Act → Option System := Pool.step launch exec

/-- The goroutine `i` executes `n` instructions, which succeed. -/
def go (i n : ℕ) : List Act := List.replicate n (Pool.Act.resume i true)

/-- A new participant. -/
def System.empty : System := ⟨{}, []⟩

/-! ## Offers in flight -/

/-- The instruction is part of making an offer, or of ending that. -/
@[simp] def Instr.offers : Instr → Option Unit
  | .createOffer | .setLocalOffer _ | .clearMakingOffer | .answered => some ()
  | _ => none

/-- One offer is in flight while `makingOffer` is set: it is being made, waits for its answer, or is
about to be given up or finished. -/
def InFlight (s : Negotiator) (P : Multiset Instr) : Prop :=
  tally Instr.offers () P + (if s.signaling = .haveLocalOffer then 1 else 0) =
    s.makingOffer.toNat

/-! ## Requests -/

/-- A negotiation is going to be started. -/
def Requested (s : Negotiator) (P : Multiset Instr) : Prop :=
  Instr.scheduleNegotiate ∈ P ∨ s.negotiateTimer ≠ .none ∨ Instr.negotiate ∈ P

instance (s : Negotiator) (P : Multiset Instr) : Decidable (Requested s P) :=
  inferInstanceAs (Decidable (_ ∨ _))

/-- A change is in no offer that was sent. -/
def Negotiator.Behind (s : Negotiator) : Prop := ∃ k < s.changes, ∀ n ∈ s.sent, n ≤ k

/-- An offer with every change is coming: a negotiation is requested, the offer is being made, or
one that is in flight will be followed by another. -/
inductive Coming (s : Negotiator) (P : Multiset Instr) : Prop
  | requested (h : Requested s P)
  | creating (h : Instr.createOffer ∈ P)
  | applying (h : Instr.setLocalOffer s.changes ∈ P)
  | sending (h : Instr.sendOffer s.changes ∈ P)
  | givingUp (h : Instr.clearMakingOffer ∈ P)
  | again (hneed : s.needNegotiate = true) (hmaking : s.makingOffer = true)

/-- The instruction stands for an offer with the first `n` changes. -/
def Instr.carries (n : ℕ) : Instr → Bool
  | .scheduleNegotiate | .negotiate | .createOffer | .clearMakingOffer => true
  | .setLocalOffer made | .sendOffer made => made = n
  | _ => false

/-- The instruction drops a request: an offer is given up, or `negotiate` is deferred although no
offer is in flight. -/
def Instr.drops (s : Negotiator) : Instr → Bool
  | .clearMakingOffer => true
  | .negotiate => !s.makingOffer && s.signaling ≠ .stable
  | _ => false

/-- A request is dropped only while another one is on the way. -/
def KeepsRequest (s : Negotiator) (P : Multiset Instr) (i : Instr) (_ : Bool) : Prop :=
  i.drops s = true → Requested s (P.erase i)

instance (s : Negotiator) (P : Multiset Instr) (i : Instr) (ok : Bool) :
    Decidable (KeepsRequest s P i ok) := inferInstanceAs (Decidable (_ → _))

/-! ## Steps -/

/-- What an instruction can do to an open participant. -/
inductive Does (s : Negotiator) : Instr → Negotiator → List Instr → Prop
  | change : Does s .change { s with changes := s.changes + 1 } [.scheduleNegotiate]
  | pending (h : s.negotiateTimer ≠ .none) : Does s .scheduleNegotiate s []
  | arm : Does s .scheduleNegotiate { s with negotiateTimer := .armed } []
  | clearTimer : Does s .clearTimer { s with negotiateTimer := .none } [.negotiate]
  | defer (h : s.makingOffer = true ∨ s.signaling ≠ .stable) :
    Does s .negotiate { s with needNegotiate := true } []
  | start (hmaking : s.makingOffer = false) (hstable : s.signaling = .stable) :
    Does s .negotiate { s with makingOffer := true } [.createOffer]
  | createOffer : Does s .createOffer s [.setLocalOffer s.changes]
  | noOffer : Does s .createOffer s [.clearMakingOffer]
  | setLocalOffer (made : ℕ) :
    Does s (.setLocalOffer made) { s with signaling := .haveLocalOffer } [.sendOffer made]
  | notApplied (made : ℕ) : Does s (.setLocalOffer made) s [.clearMakingOffer]
  | sendOffer (made : ℕ) : Does s (.sendOffer made) { s with sent := s.sent ++ [made] } []
  | clearMakingOffer : Does s .clearMakingOffer { s with makingOffer := false } []
  | ignore : Does s .handleOffer s []
  | accept : Does s .handleOffer s [.setRemoteOffer]
  | setRemoteOffer (h : s.signaling ≠ .haveLocalOffer) :
    Does s .setRemoteOffer { s with signaling := .haveRemoteOffer } [.createAnswer]
  | refuse : Does s .setRemoteOffer s []
  | createAnswer : Does s .createAnswer s [.setLocalAnswer]
  | noAnswer : Does s .createAnswer s []
  | setLocalAnswer (h : s.signaling = .haveRemoteOffer) :
    Does s .setLocalAnswer { s with signaling := .stable } []
  | notAnswered : Does s .setLocalAnswer s []
  | setRemoteAnswer (h : s.signaling = .haveLocalOffer) :
    Does s .setRemoteAnswer { s with signaling := .stable } [.answered]
  | unexpected : Does s .setRemoteAnswer s []
  | answered : Does s .answered { s with makingOffer := false, needNegotiate := false }
    (if s.needNegotiate then [.negotiate] else [])

section Steps

variable {s s' : Negotiator} {P rest : Multiset Instr} {new : List Instr} {ok : Bool} {i : Instr}

/-- A participant that is open after a step was so before. -/
theorem exec_does (hex : exec s i ok = some (s', new)) (hi : i ≠ .closePeerConnection)
    (hopen : s'.closed = false) : s.closed = false ∧ Does s i s' new := by
  cases i with
  | change =>
    simp only [exec] at hex
    split_ifs at hex with hclosed <;> cases hex
    · cases hclosed.symm.trans hopen
    · exact ⟨hopen, .change⟩
  | scheduleNegotiate =>
    simp only [exec] at hex
    split_ifs at hex with hclosed htimer <;>
      cases hex
    · cases hclosed.symm.trans hopen
    · exact ⟨hopen, .pending htimer⟩
    · exact ⟨hopen, .arm⟩
  | negotiate =>
    simp only [exec] at hex
    split_ifs at hex with hclosed hbusy <;>
      cases hex
    · cases hclosed.symm.trans hopen
    · exact ⟨hopen, .defer hbusy⟩
    · rw [not_or, not_not] at hbusy
      exact ⟨hopen, .start (Bool.eq_false_iff.2 hbusy.1) hbusy.2⟩
  | createOffer =>
    simp only [exec] at hex
    split_ifs at hex <;> cases hex
    · exact ⟨hopen, .createOffer⟩
    · exact ⟨hopen, .noOffer⟩
  | setLocalOffer made =>
    simp only [exec] at hex
    split at hex <;> cases hex
    · next state hstate =>
      obtain rfl : state = .haveLocalOffer := by
        cases hs : s.signaling <;> rw [hs] at hstate <;> cases hstate <;> rfl
      exact ⟨hopen, .setLocalOffer made⟩
    · exact ⟨hopen, .notApplied made⟩
  | handleOffer =>
    simp only [exec] at hex
    split_ifs at hex <;> cases hex
    · exact ⟨hopen, .ignore⟩
    · exact ⟨hopen, .accept⟩
  | setRemoteOffer =>
    simp only [exec] at hex
    split at hex <;> cases hex
    · next state hstate =>
      obtain ⟨rfl, hne⟩ : state = .haveRemoteOffer ∧ s.signaling ≠ .haveLocalOffer := by
        cases hs : s.signaling <;> rw [hs] at hstate <;> cases hstate <;> simp
      exact ⟨hopen, .setRemoteOffer hne⟩
    · exact ⟨hopen, .refuse⟩
  | createAnswer =>
    simp only [exec] at hex
    split_ifs at hex <;> cases hex
    · exact ⟨hopen, .createAnswer⟩
    · exact ⟨hopen, .noAnswer⟩
  | setLocalAnswer =>
    simp only [exec] at hex
    split at hex <;> cases hex
    · next state hstate =>
      obtain ⟨rfl, heq⟩ : state = .stable ∧ s.signaling = .haveRemoteOffer := by
        cases hs : s.signaling <;> rw [hs] at hstate <;> cases hstate
        exact ⟨rfl, rfl⟩
      exact ⟨hopen, .setLocalAnswer heq⟩
    · exact ⟨hopen, .notAnswered⟩
  | setRemoteAnswer =>
    simp only [exec] at hex
    split at hex <;> cases hex
    · next state hstate =>
      obtain ⟨rfl, heq⟩ : state = .stable ∧ s.signaling = .haveLocalOffer := by
        cases hs : s.signaling <;> rw [hs] at hstate <;> cases hstate
        exact ⟨rfl, rfl⟩
      exact ⟨hopen, .setRemoteAnswer heq⟩
    · exact ⟨hopen, .unexpected⟩
  | clearTimer =>
    cases hex
    exact ⟨hopen, .clearTimer⟩
  | sendOffer made =>
    cases hex
    exact ⟨hopen, .sendOffer made⟩
  | clearMakingOffer =>
    cases hex
    exact ⟨hopen, .clearMakingOffer⟩
  | answered =>
    cases hex
    exact ⟨hopen, .answered⟩
  | close =>
    simp only [exec] at hex
    split_ifs at hex with hclosed <;> cases hex
    · cases hclosed.symm.trans hopen
    · cases hopen
  | closePeerConnection => exact absurd rfl hi

/-- While an offer is being made or ended, nothing else is in flight. -/
theorem InFlight.alone (h : InFlight s (i ::ₘ rest)) (hi : i.offers = some ()) :
    s.makingOffer = true ∧ tally Instr.offers () rest = 0 ∧ s.signaling ≠ .haveLocalOffer := by
  unfold InFlight at h
  rw [tally_cons, if_pos hi] at h
  have hle := Bool.toNat_le s.makingOffer
  refine ⟨Bool.toNat_eq_one.1 (by omega), by omega, fun hlocal => ?_⟩
  rw [if_pos hlocal] at h
  omega

/-- **One offer is in flight at most**, and `makingOffer` says whether there is one. -/
theorem Does.inFlight (hdoes : Does s i s' new) (h : InFlight s (i ::ₘ rest)) :
    InFlight s' (new + rest) := by
  cases hdoes with
  | start hmaking hstable | setRemoteOffer hlocal | setLocalAnswer hremote
  | setRemoteAnswer hlocal => simp_all [InFlight, Instr.offers]
  | setLocalOffer made =>
    obtain ⟨hmaking, hrest, -⟩ := h.alone rfl
    simp [InFlight, hmaking, hrest]
  | clearMakingOffer =>
    obtain ⟨-, hrest, hlocal⟩ := h.alone rfl
    simp [InFlight, hrest, hlocal]
  | answered =>
    obtain ⟨-, hrest, hlocal⟩ := h.alone rfl
    by_cases hneed : s.needNegotiate = true
    all_goals simp [InFlight, hrest, hlocal, hneed]
  | _ => simpa [InFlight] using h

theorem Does.peerOpen (hdoes : Does s i s' new) : Instr.closePeerConnection ∉ new := by
  cases hdoes with
  | answered => split_ifs <;> simp
  | _ => simp

/-- What is coming still is, unless the step is part of it. -/
theorem Coming.keep (h : Coming s (i ::ₘ rest)) (hchanges : s'.changes = s.changes)
    (htimer : s'.negotiateTimer = s.negotiateTimer) :
    Coming s' (new + rest) ∨ i.carries s.changes = true ∨
      (s.needNegotiate = true ∧ s.makingOffer = true) := by
  have hkeep {j : Instr} (hj : j ∈ i ::ₘ rest) (hcarries : j.carries s.changes = true) :
      j ∈ (new : Multiset Instr) + rest ∨ i.carries s.changes = true := by
    rcases mem_cons.1 hj with rfl | hj
    · exact .inr hcarries
    · exact .inl (mem_add.2 (.inr hj))
  cases h with
  | requested h =>
    rcases h with h | h | h
    · exact (hkeep h rfl).imp (fun hj => .requested (.inl hj)) .inl
    · exact .inl (.requested (.inr (.inl (htimer ▸ h))))
    · exact (hkeep h rfl).imp (fun hj => .requested (.inr (.inr hj))) .inl
  | creating h => exact (hkeep h rfl).imp .creating .inl
  | applying h =>
    refine (hkeep h (by simp [Instr.carries])).imp (fun hj => .applying ?_) .inl
    rw [hchanges]
    exact hj
  | sending h =>
    refine (hkeep h (by simp [Instr.carries])).imp (fun hj => .sending ?_) .inl
    rw [hchanges]
    exact hj
  | givingUp h => exact (hkeep h rfl).imp .givingUp .inl
  | again hneed hmaking => exact .inr (.inr ⟨hneed, hmaking⟩)

theorem Coming.more (h : Coming s P) (l : List Instr) : Coming s (l + P) := by
  have hP {j : Instr} (hj : j ∈ P) : j ∈ (l : Multiset Instr) + P := mem_add.2 (.inr hj)
  cases h with
  | requested h => exact .requested (h.imp hP (Or.imp_right hP))
  | creating h => exact .creating (hP h)
  | applying h => exact .applying (hP h)
  | sending h => exact .sending (hP h)
  | givingUp h => exact .givingUp (hP h)
  | again hneed hmaking => exact .again hneed hmaking

/-- A step that leaves the flags alone and is no part of what is coming. -/
theorem Coming.same (h : Coming s (i ::ₘ rest)) (hi : i.carries s.changes = false)
    (hchanges : s'.changes = s.changes) (htimer : s'.negotiateTimer = s.negotiateTimer)
    (hneed : s'.needNegotiate = s.needNegotiate) (hmaking : s'.makingOffer = s.makingOffer) :
    Coming s' (new + rest) := by
  rcases h.keep hchanges htimer with hcoming | hcarries | ⟨hagain, hflight⟩
  · exact hcoming
  · cases hcarries.symm.trans hi
  · exact .again (hneed.trans hagain) (hmaking.trans hflight)

/-- **A change that was not sent is on its way**, if no request is dropped. -/
theorem Does.coming (hdoes : Does s i s' new) (h : s.Behind → Coming s (i ::ₘ rest))
    (hkeeps : KeepsRequest s (i ::ₘ rest) i ok) (hbehind : s'.Behind) :
    Coming s' (new + rest) := by
  have hnew {j : Instr} {l : List Instr} : j ∈ ((j :: l : List Instr) : Multiset Instr) + rest :=
    mem_add.2 (.inl List.mem_cons_self)
  unfold KeepsRequest at hkeeps
  rw [erase_cons_head] at hkeeps
  cases hdoes with
  | change => exact .requested (.inl hnew)
  | pending htimer => exact .requested (.inr (.inl htimer))
  | arm => exact .requested (.inr (.inl (by simp)))
  | clearTimer => exact .requested (.inr (.inr hnew))
  | defer hbusy =>
    by_cases hmaking : s.makingOffer = true
    · exact .again rfl hmaking
    · -- no offer is in flight: this request is lost, but there is another one
      have hother := hkeeps (by simp [Instr.drops, hmaking, hbusy.resolve_left hmaking])
      rw [coe_nil, zero_add]
      exact .requested hother
  | start => exact .creating hnew
  | createOffer => exact .applying hnew
  | noOffer => exact .givingUp hnew
  | setLocalOffer made =>
    by_cases hmade : made = s.changes
    · subst hmade
      exact .sending hnew
    · exact (h hbehind).same (by simp [Instr.carries, hmade]) rfl rfl rfl rfl
  | notApplied made => exact .givingUp hnew
  | sendOffer made =>
    obtain ⟨k, hk, hsent⟩ := hbehind
    have hmade : made ≤ k := hsent made (by simp)
    have hold : s.Behind := ⟨k, hk, fun n hn => hsent n (by simp [hn])⟩
    have hne : made ≠ s.changes := by
      rintro rfl
      exact Nat.not_lt.2 hmade hk
    exact (h hold).same (by simp [Instr.carries, hne]) rfl rfl rfl rfl
  | clearMakingOffer =>
    have hother := hkeeps rfl
    rw [coe_nil, zero_add]
    exact .requested hother
  | answered =>
    have hkeep : Coming { s with makingOffer := false, needNegotiate := false }
        (((if s.needNegotiate then [.negotiate] else [] : List Instr) : Multiset Instr) + rest) ∨
        Instr.answered.carries s.changes = true ∨
          (s.needNegotiate = true ∧ s.makingOffer = true) :=
      (h hbehind).keep rfl rfl
    rcases hkeep with hcoming | hcarries | ⟨hneed, -⟩
    · exact hcoming
    · cases hcarries
    · rw [if_pos hneed]
      exact .requested (.inr (.inr hnew))
  | _ => exact (h hbehind).same rfl rfl rfl rfl rfl

end Steps

/-! ## Whole runs -/

/-- What holds of an open participant. -/
structure Tracked (s : Negotiator) (P : Multiset Instr) : Prop where
  inFlight : InFlight s P
  coming : s.Behind → Coming s P
  peerOpen : Instr.closePeerConnection ∉ P

section Runs

variable {s s' : Negotiator} {P rest : Multiset Instr} {new : List Instr} {ok : Bool} {i : Instr}

theorem exec_tracked (h : s.closed = false → Tracked s (i ::ₘ rest))
    (hkeeps : KeepsRequest s (i ::ₘ rest) i ok) (hex : exec s i ok = some (s', new))
    (hopen : s'.closed = false) : Tracked s' (new + rest) := by
  by_cases hi : i = .closePeerConnection
  · subst hi
    cases hex
    exact absurd (mem_cons_self _ _) (h hopen).peerOpen
  obtain ⟨hold, hdoes⟩ := exec_does hex hi hopen
  obtain ⟨hflight, hcoming, hpeer⟩ := h hold
  refine ⟨hdoes.inFlight hflight, hdoes.coming hcoming hkeeps, fun hmem => ?_⟩
  rcases mem_new.1 hmem with hmem | hmem
  · exact hdoes.peerOpen hmem
  · exact hpeer (mem_cons_of_mem hmem)

theorem launch_tracked {op : Op} (h : s.closed = false → Tracked s P)
    (hla : launch s op = some (s', new)) (hopen : s'.closed = false) : Tracked s' (new + P) := by
  cases op with
  | fire =>
    simp only [launch] at hla
    split_ifs at hla
    cases hla
    obtain ⟨hflight, -, hpeer⟩ := h hopen
    refine ⟨?_, fun _ => .requested (.inr (.inl (by simp))), by simpa using hpeer⟩
    simpa [InFlight] using hflight
  | change | offer | answer | close =>
    cases hla
    obtain ⟨hflight, hcoming, hpeer⟩ := h hopen
    refine ⟨?_, fun hbehind => (hcoming hbehind).more _, by simpa using hpeer⟩
    simpa [InFlight] using hflight

end Runs

/-- **No renegotiation is lost**, if no request is dropped while no other is on the way: when
nothing is in progress, no timer is pending and the signaling state is stable, every change of the
tracks comes before the creation of an offer that was applied and sent. -/
theorem changes_announced {as : List Act} {t : System}
    (hkeeps : Along step (Pool.Meets (fun _ _ _ => True) KeepsRequest) System.empty as)
    (hrun : run step System.empty as = some t) (hidle : t.Idle)
    (hopen : t.shared.closed = false) (htimer : t.shared.negotiateTimer = .none)
    (hstable : t.shared.signaling = .stable) :
    ∀ k < t.shared.changes, ∃ n ∈ t.shared.sent, k < n := by
  have h : t.shared.closed = false → Tracked t.shared t.pending := by
    refine Pool.run_inv (I := fun s P => s.closed = false → Tracked s P)
      (fun _ _ _ _ _ h _ hla => launch_tracked h hla)
      (fun _ _ _ _ _ _ h hkeeps hex => exec_tracked h hkeeps hex) (fun _ => ?_) hkeeps hrun
    refine ⟨rfl, ?_, notMem_zero _⟩
    rintro ⟨k, hk, -⟩
    exact absurd hk (Nat.not_lt_zero k)
  obtain ⟨hflight, hcoming, -⟩ := h hopen
  rw [hidle.pending_eq] at hflight hcoming
  intro k hk
  by_contra hnone
  have hbehind : t.shared.Behind :=
    ⟨k, hk, fun n hn => Nat.not_lt.1 fun hlt => hnone ⟨n, hn, hlt⟩⟩
  cases hcoming hbehind with
  | requested h =>
    rcases h with h | h | h
    · exact notMem_zero _ h
    · exact h htimer
    · exact notMem_zero _ h
  | creating h | applying h | sending h | givingUp h => exact notMem_zero _ h
  | again _ hmaking =>
    -- an offer in flight would wait for its answer
    unfold InFlight at hflight
    rw [hstable, hmaking] at hflight
    simp at hflight

/-- Two changes within one debounce window, and one more while their offer waits for its answer. -/
def announced : List Act :=
  [Pool.Act.start Op.change, Pool.Act.start Op.change] ++ go 0 2 ++ go 1 2 ++
  [Pool.Act.start Op.fire] ++ go 2 4 ++
  [Pool.Act.start Op.change] ++ go 3 2 ++ [Pool.Act.start Op.fire] ++ go 4 2 ++ go 2 1 ++
  [Pool.Act.start Op.answer] ++ go 5 6 ++ [Pool.Act.start Op.answer] ++ go 6 2

theorem changes_announced_twice : ∃ t ∈ run step System.empty announced, t.Idle ∧
    t.shared.changes = 3 ∧ t.shared.sent = [2, 3] ∧ ∀ k < 3, ∃ n ∈ t.shared.sent, k < n := by
  have hkeeps :
      Along step (Pool.Meets (fun _ _ _ => True) KeepsRequest) System.empty announced := by
    decide +kernel
  have hrun : ∃ t ∈ run step System.empty announced, t.Idle ∧ t.shared.closed = false ∧
      t.shared.negotiateTimer = .none ∧ t.shared.signaling = .stable ∧ t.shared.changes = 3 ∧
        t.shared.sent = [2, 3] := by
    decide +kernel
  obtain ⟨t, hrun, hidle, hopen, htimer, hstable, hchanges, hsent⟩ := hrun
  refine ⟨t, hrun, hidle, hchanges, hsent, fun k hk => ?_⟩
  exact changes_announced hkeeps hrun hidle hopen htimer hstable k (hchanges.symm ▸ hk)

/-- The timer fires while an offer of the browser is being answered. -/
def answering : List Act :=
  [Pool.Act.start Op.offer] ++ go 0 2 ++ [Pool.Act.start Op.change] ++ go 1 2 ++
  [Pool.Act.start Op.fire] ++ go 2 2 ++ go 0 2

/-- **A renegotiation can be lost**: nothing is in progress, no timer is pending, the signaling
state is stable, and no offer was ever sent for the change. -/
theorem change_lost : ∃ t ∈ run step System.empty answering, t.Idle ∧ t.shared.closed = false ∧
    t.shared.negotiateTimer = .none ∧ t.shared.signaling = .stable ∧
      t.shared.changes = 1 ∧ t.shared.sent = [] := by
  decide +kernel

end PulseRTC.Sfu.Negotiation
