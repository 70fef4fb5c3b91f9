import Mathlib.Data.Finset.Basic
import Mathlib.Data.Multiset.Bind
import PulseRTC.Cluster.Node
import PulseRTC.Foundations.Goroutines

/-!
# Interest in a mirrored publication

A publication of another node is mirrored into the local SFU as long as somebody is interested in
it. `mirrorSubs` records the interests under a lock, and the mirror is created and removed outside
of it. The model is that of one publication in one room of one node with cross-node media: the
participants of the room, the node-level interest `__node__`, and every critical section of
`ensureRemoteMirror`, `releaseRemoteMirror`, `handleRemotePublicationEvent` and `disconnect`.

* `ensureRemoteMirror` returns early when the publication is visible, without recording the
  interest, and `disconnect` withdraws no interest unless the room is empty.
* `wants` are the present subscribers whose last successful operation was `ensureRemoteMirror`. The
  code keeps no such set: `InOrder` speaks about the recorded interests and the calls in progress.
* `mirror_iff_wanted`: in every run that meets `InOrder`, the mirror is up exactly if somebody wants
  it, whenever no call is in progress.
-/

namespace PulseRTC.Signaling.Interest

open Foundations Cluster Multiset Option Finset

/-! ## The node -/

/-- `subscriberID`, which is a participant or `__node__`. -/
inductive Subscriber
  | participant (id : ParticipantId)
  | node
  deriving DecidableEq

structure ErrorMessage where
  code : String := ""
  message : String
  deriving DecidableEq

/-- The error of `SubscribeRemote`: one of the cluster, or any other. -/
inductive Failure
  | cluster (code message : String)
  | other
  deriving DecidableEq

/-- What `ensureRemoteMirror` returns after a failure. -/
def Failure.message : Failure → ErrorMessage
  | .cluster code message => { code, message }
  | .other => { message := "could not mirror remote publication" }

/-- The node, as far as the publication is concerned. `joined` are all connections there have been,
`connected` those in the room. `remotePub` says that `remotePubs` has an entry and `removed` that it
was removed; `mirrorSubs` is the entry of the map of this name, and `visible` the answer of
`RoomHasPublication`. -/
structure State where
  joined : Finset ParticipantId := ∅
  connected : Finset ParticipantId := ∅
  remotePub : Bool := false
  removed : Bool := false
  mirrorSubs : Option (Finset Subscriber) := none
  visible : Bool := false
  wants : Finset Subscriber := ∅
  replies : List (Subscriber × ErrorMessage) := []

/-- One critical section, or one call of the media bridge. -/
inductive Instr
  /-- `remote_publication_added` is noted. -/
  | announce
  /-- The room is looked up for the node-level interest. -/
  | autoMirror
  /-- `RoomHasPublication` in `ensureRemoteMirror`. -/
  | ensure (sub : Subscriber)
  /-- `ensureRemoteMirror` records the interest. -/
  | record (sub : Subscriber)
  | subscribeRemote (sub : Subscriber)
  /-- `SubscribeRemote` has failed. -/
  | rollback (sub : Subscriber) (err : Failure)
  | release (sub : Subscriber)
  /-- `releaseRemoteMirror` deletes the entry of `mirrorSubs`; `known` says that it has found the
  origin node. -/
  | dropKey (known : Bool)
  | unsubscribeRemote (known : Bool)
  /-- `remote_publication_removed` is noted. -/
  | retract
  | tearDownMirror
  /-- `RemoveParticipant` in `disconnect`. -/
  | removeParticipant (c : ParticipantId)
  /-- `disconnect` looks whether the room is still there. -/
  | stillHere (c : ParticipantId)
  | dropRoomMirrors
  deriving DecidableEq

/-- Whether the call of `SubscribeRemote` fails. -/
abbrev Choice := Option Failure

namespace State

variable (s : State)

def Present : Subscriber → Prop
  | .participant c => c ∈ s.connected
  | .node => True

instance : DecidablePred s.Present
  | .participant c => inferInstanceAs (Decidable (c ∈ s.connected))
  | .node => inferInstanceAs (Decidable True)

/-- The interests that are recorded. -/
def recorded : Finset Subscriber := s.mirrorSubs.getD ∅

/-- `ensureRemoteMirror` succeeds. -/
def succeed (sub : Subscriber) : State :=
  if s.Present sub then { s with wants := insert sub s.wants } else s

/-! ## What the instructions do -/

/-- `ensureRemoteMirror` up to the lock. -/
def ensure (sub : Subscriber) : State × List Instr :=
  if s.visible then (s.succeed sub, []) else (s, [.record sub])

/-- `ensureRemoteMirror` under the lock. -/
def record (sub : Subscriber) : State × List Instr :=
  if s.remotePub then
    let s' := { s with mirrorSubs := some (insert sub s.recorded) }
    if s.recorded = ∅ then (s', [.subscribeRemote sub]) else (s'.succeed sub, [])
  else (s.succeed sub, [])

def subscribeRemote (sub : Subscriber) : Choice → State × List Instr
  | none => ({ s with visible := true }.succeed sub, [])
  | some err => (s, [.rollback sub err])

/-- `ensureRemoteMirror` withdraws the interest and returns the error. -/
def rollback (sub : Subscriber) (err : Failure) : State :=
  { s with
    mirrorSubs := s.mirrorSubs.map fun subs => subs.erase sub
    replies := s.replies ++ [(sub, err.message)] }

/-- `releaseRemoteMirror` up to the deletion of the entry. -/
def release (sub : Subscriber) : State × List Instr :=
  let s' := { s with wants := s.wants.erase sub }
  match s.mirrorSubs with
  | none => (s', [])
  | some subs =>
    ({ s' with mirrorSubs := some (subs.erase sub) },
      if subs.erase sub = ∅ then [.dropKey s.remotePub] else [])

/-- `UnsubscribeRemote`, which needs the origin node. -/
def unsubscribeRemote (known : Bool) : State :=
  if known then { s with visible := false } else s

/-- `RemoveParticipant`. A connection that has ended wants nothing. -/
def removeParticipant (c : ParticipantId) : State :=
  { s with connected := s.connected.erase c, wants := s.wants.erase (.participant c) }

/-- `dropRoomMirrors`, which drops the node-level interest as well. -/
def dropRoomMirrors : State × List Instr :=
  match s.mirrorSubs with
  | none => (s, [])
  | some _ =>
    ({ s with mirrorSubs := none, wants := s.wants.erase .node }, [.unsubscribeRemote s.remotePub])

end State

/-- One instruction. -/
def exec (s : State) : Instr → Choice → Option (State × List Instr)
  | .announce, _ => some ({ s with remotePub := true }, [.autoMirror])
  | .autoMirror, _ => some (s, if s.connected = ∅ then [] else [.ensure .node])
  | .ensure sub, _ => some (s.ensure sub)
  | .record sub, _ => some (s.record sub)
  | .subscribeRemote sub, x => some (s.subscribeRemote sub x)
  | .rollback sub err, _ => some (s.rollback sub err, [])
  | .release sub, _ => some (s.release sub)
  | .dropKey known, _ => some ({ s with mirrorSubs := none }, [.unsubscribeRemote known])
  | .unsubscribeRemote known, _ => some (s.unsubscribeRemote known, [])
  | .retract, _ => some ({ s with remotePub := false, removed := true }, [.tearDownMirror])
  | .tearDownMirror, _ => some ({ s with mirrorSubs := none }, [.unsubscribeRemote s.remotePub])
  | .removeParticipant c, _ => some (s.removeParticipant c, [.stillHere c])
  | .stillHere _, _ => some (s, if s.connected = ∅ then [.dropRoomMirrors] else [])
  | .dropRoomMirrors, _ => some s.dropRoomMirrors

/-- A message of a client, the end of a connection, or the arrival of a room event. -/
inductive Op
  /-- A connection joins the room; its id is new. -/
  | join (c : ParticipantId)
  | subscribe (sub : Subscriber)
  | unsubscribe (sub : Subscriber)
  | disconnect (c : ParticipantId)
  | announce
  | retract
  deriving DecidableEq

/-- The start of a goroutine. -/
def launch (s : State) : Op → Option (State × List Instr)
  | .join c =>
    if c ∈ s.joined then none
    else some ({ s with joined := insert c s.joined, connected := insert c s.connected }, [])
  | .subscribe sub => some (s, [.ensure sub])
  | .unsubscribe sub => some (s, [.release sub])
  | .disconnect c => some (s, [.removeParticipant c])
  | .announce => some (s, [.announce])
  | .retract => some (s, [.retract])

/-- Schedules. -/
abbrev Act := Pool.Act Op Choice

/-- The node with its goroutines. -/
abbrev System := Pool State Instr

/-- One step of the node. -/
abbrev step : System → Act → Option System := Pool.step launch exec

/-- The goroutine `i` executes `n` instructions, and `SubscribeRemote` succeeds. -/
def go (i n : ℕ) : List Act := List.replicate n (Pool.Act.resume i none)

/-- Nobody is connected, and nothing is to be done. -/
def System.empty : System := ⟨{}, []⟩

/-! ## Order -/

/-- The subscriber whose `SubscribeRemote` has not returned, or has failed. -/
@[simp] def Instr.subscribing : Instr → Multiset Subscriber
  | .subscribeRemote sub | .rollback sub _ => {sub}
  | _ => 0

/-- The instruction takes the mirror down, or leads to it. -/
@[simp] def Instr.takesDown : Instr → Multiset Bool
  | .dropKey known | .unsubscribeRemote known => {known}
  | _ => 0

/-- A connection has ended, and the room has still to be looked at: the interest of the subscriber
may be withdrawn. -/
@[simp] def Instr.Leaves (sub : Subscriber) : Instr → Prop
  | .stillHere c => sub = .participant c
  | .dropRoomMirrors => True
  | _ => False

/-- The subscribers whose `SubscribeRemote` is in progress. -/
def subscribing (P : Multiset Instr) : Multiset Subscriber := P.bind Instr.subscribing

/-- The removals of the mirror that are in progress. -/
def takingDown (P : Multiset Instr) : Multiset Bool := P.bind Instr.takesDown

@[simp] theorem subscribing_zero : subscribing 0 = 0 := rfl

@[simp] theorem takingDown_zero : takingDown 0 = 0 := rfl

@[simp] theorem subscribing_cons (i : Instr) (P : Multiset Instr) :
    subscribing (i ::ₘ P) = i.subscribing + subscribing P := cons_bind i P _

@[simp] theorem takingDown_cons (i : Instr) (P : Multiset Instr) :
    takingDown (i ::ₘ P) = i.takesDown + takingDown P := cons_bind i P _

/-- What an instruction has to find for interests and mirror to stay in step:
* `ensureRemoteMirror` returns early only if the interest of the subscriber is recorded, and records
  an interest only for an announced publication and a present subscriber without a `SubscribeRemote`
  in progress, the first one not while the mirror is being taken down;
* a failed `SubscribeRemote` finds no other interest recorded;
* `releaseRemoteMirror` does not overlap with a `SubscribeRemote` of the same subscriber;
* a connection ends with its interest not recorded, or as the last one of the room;
* `dropRoomMirrors` comes while nobody is connected, and no `SubscribeRemote` is in progress. -/
def InOrder (s : State) (P : Multiset Instr) (i : Instr) (_ : Choice) : Prop :=
  match i with
  | .ensure sub => s.visible = true → sub ∈ s.recorded
  | .record sub => s.remotePub = true ∧ s.Present sub ∧ sub ∉ subscribing P ∧
      (s.recorded = ∅ → takingDown P = 0)
  | .rollback sub _ => s.recorded ⊆ {sub}
  | .release sub => sub ∉ subscribing P
  | .stillHere c => s.connected ≠ ∅ → .participant c ∉ s.recorded
  | .dropRoomMirrors => s.connected = ∅ ∧ subscribing P = 0
  | _ => True

instance (s : State) (P : Multiset Instr) (i : Instr) (x : Choice) :
    Decidable (InOrder s P i x) := by
  unfold InOrder
  split <;> infer_instance

/-! ## Interests and mirror -/

/-- Without an interest the mirror is down, or about to be. With one it is up, or about to be, and
those who want the publication are the recorded subscribers that are present and do not wait for
`SubscribeRemote`. -/
inductive Mirrored (s : State) (P : Multiset Instr) : Prop
  | down (hrec : s.recorded = ∅) (hwants : s.wants = ∅) (hsub : subscribing P = 0)
      (hknown : ∀ known ∈ takingDown P, known = true)
      (hvis : s.visible = true → takingDown P ≠ 0)
  | held (hrec : s.recorded ≠ ∅) (hdown : takingDown P = 0)
      (hwants : ∀ sub, sub ∈ s.wants ↔ sub ∈ s.recorded ∧ s.Present sub ∧ sub ∉ subscribing P)
      (hset : (s.visible = true ∧ subscribing P = 0) ∨
        (s.visible = false ∧ ∃ sub ∈ s.recorded, subscribing P = {sub}))

/-- What holds in every run that meets `InOrder`, until the publication is removed. -/
structure InStep (s : State) (P : Multiset Instr) : Prop where
  announced : s.mirrorSubs ≠ none → s.remotePub = true
  joined : s.connected ⊆ s.joined ∧ ∀ c, .participant c ∈ s.recorded → c ∈ s.joined
  present : ∀ sub ∈ s.recorded, s.Present sub ∨ ∃ i ∈ P, i.Leaves sub
  still : .tearDownMirror ∉ P
  mirrored : Mirrored s P

section InStep

variable {s s' : State} {i : Instr} {new : List Instr} {P P' rest : Multiset Instr} {x : Choice}
  {sub : Subscriber} {err : Failure} {known : Bool}

theorem present_congr (h : s'.connected = s.connected) : s'.Present sub ↔ s.Present sub := by
  cases sub with
  | participant c => simp only [State.Present, h]
  | node => exact Iff.rfl

/-- Only who wants the publication changes. -/
@[simp] theorem succeed_same : (s.succeed sub).mirrorSubs = s.mirrorSubs ∧
    (s.succeed sub).visible = s.visible ∧ (s.succeed sub).remotePub = s.remotePub ∧
    (s.succeed sub).removed = s.removed ∧ (s.succeed sub).joined = s.joined ∧
    (s.succeed sub).connected = s.connected := by
  unfold State.succeed
  split_ifs <;> simp

@[simp] theorem succeed_recorded : (s.succeed sub).recorded = s.recorded := by
  simp [State.recorded]

@[simp] theorem succeed_present {sub' : Subscriber} :
    (s.succeed sub).Present sub' ↔ s.Present sub' :=
  present_congr (by simp)

theorem mem_wants_succeed {sub' : Subscriber} :
    sub' ∈ (s.succeed sub).wants ↔ sub' ∈ s.wants ∨ (sub' = sub ∧ s.Present sub) := by
  unfold State.succeed
  split_ifs with hpresent
  · simp [hpresent, or_comm]
  · simp [hpresent]

/-- Neither interests nor mirror change. -/
theorem Mirrored.congr (h : Mirrored s P) (hrec : s'.recorded = s.recorded)
    (hwants : s'.wants = s.wants) (hvis : s'.visible = s.visible)
    (hpresent : ∀ sub ∈ s.recorded, s'.Present sub ↔ s.Present sub)
    (hsub : subscribing P' = subscribing P) (hdown : takingDown P' = takingDown P) :
    Mirrored s' P' := by
  cases h with
  | down hempty hnone hfree hknown hup =>
    exact .down (hrec.trans hempty) (hwants.trans hnone) (hsub.trans hfree) (hdown ▸ hknown)
      (by rwa [hvis, hdown])
  | held hne hstays hwanted hset =>
    refine .held (hrec ▸ hne) (hdown.trans hstays) (fun sub => ?_) (by rwa [hvis, hrec, hsub])
    rw [hwants, hrec, hsub, hwanted]
    exact and_congr_right fun hmem => and_congr_left' (hpresent sub hmem).symm

/-- A recorded subscriber that does not wait becomes one of those who want the publication. -/
theorem Mirrored.succeed (hmem : sub ∈ s.recorded) (hfree : sub ∉ subscribing P)
    (hdown : takingDown P = 0) (hself : sub ∈ s.wants → s.Present sub)
    (hothers : ∀ sub' ≠ sub, sub' ∈ s.wants ↔
      sub' ∈ s.recorded ∧ s.Present sub' ∧ sub' ∉ subscribing P)
    (hset : (s.visible = true ∧ subscribing P = 0) ∨
      (s.visible = false ∧ ∃ sub ∈ s.recorded, subscribing P = {sub})) :
    Mirrored (s.succeed sub) P := by
  refine .held (by simpa using ne_empty_of_mem hmem) hdown (fun sub' => ?_) (by simpa using hset)
  rw [mem_wants_succeed, succeed_recorded, succeed_present]
  by_cases heq : sub' = sub
  · subst heq
    simp only [true_and, hmem, hfree, not_false_eq_true, and_true]
    exact or_iff_right_of_imp hself
  · rw [hothers sub' heq]
    simp [heq]

/-- Who wants the publication is recorded and present. -/
theorem Mirrored.of_wants (h : Mirrored s P) (hwant : sub ∈ s.wants) :
    sub ∈ s.recorded ∧ s.Present sub := by
  cases h with
  | down _ hwants => simp [hwants] at hwant
  | held _ _ hwants =>
    obtain ⟨hmem, hpresent, -⟩ := (hwants sub).1 hwant
    exact ⟨hmem, hpresent⟩

/-- With the mirror up, every recorded subscriber that is present wants it. -/
theorem Mirrored.of_visible (h : Mirrored s P) (hvis : s.visible = true) (hmem : sub ∈ s.recorded)
    (hpresent : s.Present sub) : sub ∈ s.wants := by
  cases h with
  | down hrec => simp [hrec] at hmem
  | held _ _ hwants hset =>
    obtain ⟨-, hsub⟩ | ⟨hdown, -⟩ := hset
    · exact (hwants sub).2 ⟨hmem, hpresent, by simp [hsub]⟩
    · rw [hvis] at hdown
      cases hdown

/-- Who takes the mirror down knows the origin node. -/
theorem Mirrored.knows (h : Mirrored s (i ::ₘ rest)) : ∀ known ∈ takingDown rest, known = true := by
  intro known hmem
  have hcons : known ∈ takingDown (i ::ₘ rest) := by
    rw [takingDown_cons]
    exact mem_add.2 (.inr hmem)
  cases h with
  | down _ _ _ hknown => exact hknown known hcons
  | held _ hdown =>
    rw [hdown] at hcons
    exact absurd hcons (notMem_zero known)

/-- While the mirror is being taken down nobody is interested. -/
theorem Mirrored.of_takesDown (h : Mirrored s (i ::ₘ rest)) (hi : i.takesDown = {known}) :
    known = true ∧ s.recorded = ∅ ∧ s.wants = ∅ ∧ subscribing (i ::ₘ rest) = 0 := by
  have hcons : takingDown (i ::ₘ rest) = known ::ₘ takingDown rest := by
    rw [takingDown_cons, hi, singleton_add]
  cases h with
  | down hrec hwants hsub hknown =>
    exact ⟨hknown known (hcons ▸ mem_cons_self known _), hrec, hwants, hsub⟩
  | held _ hdown => exact absurd (hcons.symm.trans hdown) cons_ne_zero

/-- While the mirror is being set up its first subscriber is recorded, and is the only one that
waits. -/
theorem Mirrored.of_subscribing (h : Mirrored s (i ::ₘ rest)) (hi : i.subscribing = {sub}) :
    sub ∈ s.recorded ∧ s.visible = false ∧ takingDown (i ::ₘ rest) = 0 ∧ subscribing rest = 0 ∧
      ∀ sub', sub' ∈ s.wants ↔ sub' ∈ s.recorded ∧ s.Present sub' ∧ sub' ≠ sub := by
  have hcons : subscribing (i ::ₘ rest) = sub ::ₘ subscribing rest := by
    rw [subscribing_cons, hi, singleton_add]
  cases h with
  | down _ _ hsub => exact absurd (hcons.symm.trans hsub) cons_ne_zero
  | held _ hdown hwants hset =>
    obtain ⟨-, hsub⟩ | ⟨hvis, first, hfirst, hsub⟩ := hset
    · exact absurd (hcons.symm.trans hsub) cons_ne_zero
    · obtain ⟨rfl, hrest⟩ := (singleton_eq_cons_iff _).1 (hsub.symm.trans hcons)
      refine ⟨hfirst, hvis, hdown, hrest, fun sub' => ?_⟩
      rw [hwants, hsub, Multiset.mem_singleton]

/-- Nobody joins or leaves, and only interests of present subscribers are added. -/
theorem InStep.next (h : InStep s (i ::ₘ rest)) (hpub : s'.mirrorSubs ≠ none → s'.remotePub = true)
    (hjoined : s'.joined = s.joined) (hconn : s'.connected = s.connected)
    (hrec : ∀ sub ∈ s'.recorded, sub ∈ s.recorded ∨ s.Present sub)
    (hleave : ∀ sub ∈ s'.recorded, i.Leaves sub → ∃ j ∈ new, j.Leaves sub)
    (hnew : .tearDownMirror ∉ new) (hmirrored : Mirrored s' (new + rest)) :
    InStep s' (new + rest) := by
  refine ⟨hpub, ⟨by rw [hjoined, hconn]; exact h.joined.1, fun c hc => ?_⟩, fun sub hsub => ?_,
    fun hmem => ?_, hmirrored⟩
  · rw [hjoined]
    exact (hrec _ hc).elim (h.joined.2 c) fun hpresent => h.joined.1 hpresent
  · rw [present_congr hconn]
    obtain hold | hpresent := hrec sub hsub
    · refine (h.present sub hold).imp_right ?_
      rintro ⟨j, hj, hleaves⟩
      obtain rfl | hj := mem_cons.1 hj
      · obtain ⟨j, hj, hleaves⟩ := hleave sub hsub hleaves
        exact ⟨j, mem_new.2 (.inl hj), hleaves⟩
      · exact ⟨j, mem_new.2 (.inr hj), hleaves⟩
    · exact .inl hpresent
  · obtain hmem | hmem := mem_new.1 hmem
    · exact hnew hmem
    · exact h.still (mem_cons_of_mem hmem)

/-- The instruction leaves interests and mirror alone. -/
theorem InStep.same (h : InStep s (i ::ₘ rest))
    (hpub : s'.mirrorSubs ≠ none → s'.remotePub = true)
    (hjoined : s'.joined = s.joined) (hconn : s'.connected = s.connected)
    (hrec : s'.recorded = s.recorded) (hwants : s'.wants = s.wants) (hvis : s'.visible = s.visible)
    (hleave : ∀ sub ∈ s'.recorded, i.Leaves sub → ∃ j ∈ new, j.Leaves sub)
    (hnew : .tearDownMirror ∉ new) (hsub : subscribing (new + rest) = subscribing (i ::ₘ rest))
    (hdown : takingDown (new + rest) = takingDown (i ::ₘ rest)) : InStep s' (new + rest) :=
  h.next hpub hjoined hconn (fun _ hsub => .inl (hrec ▸ hsub)) hleave hnew
    (h.mirrored.congr hrec hwants hvis (fun _ _ => present_congr hconn) hsub hdown)

/-! ## One instruction -/

/-- An interest is recorded. -/
theorem record_inStep (h : InStep s (.record sub ::ₘ rest))
    (hord : InOrder s (.record sub ::ₘ rest) (.record sub) x)
    (hout : s.record sub = (s', new)) : InStep s' (new + rest) := by
  obtain ⟨hpub, hpresent, hfree, hdown⟩ := hord
  unfold State.record at hout
  rw [if_pos hpub] at hout
  dsimp only at hout
  have hadded (sub' : Subscriber) (hsub' : sub' ∈ insert sub s.recorded) :
      sub' ∈ s.recorded ∨ s.Present sub' := by
    obtain rfl | hsub' := mem_insert.1 hsub'
    · exact .inr hpresent
    · exact .inl hsub'
  split_ifs at hout with hempty <;> cases hout
  · -- the first one: the mirror is down, and is set up
    refine h.next (fun _ => hpub) rfl rfl hadded (by simp) (by simp) ?_
    cases h.mirrored with
    | down _ hwants hsub _ hvis =>
      have hzero : subscribing rest = 0 := by simpa using hsub
      refine .held (insert_ne_empty sub s.recorded) (by simpa using hdown hempty)
        (fun sub' => ?_) (.inr ⟨?_, sub, mem_insert_self sub s.recorded, by simp [hzero]⟩)
      · change sub' ∈ s.wants ↔ sub' ∈ insert sub s.recorded ∧ s.Present sub' ∧ _
        simp +contextual [hwants, hempty]
      · exact Bool.eq_false_iff.2 fun hup => hvis hup (hdown hempty)
    | held hrec => exact absurd hempty hrec
  · -- a further one
    refine h.next (fun _ => by simpa using hpub) (by simp) (by simp) ?_ (by simp) (by simp) ?_
    · simpa [State.recorded] using hadded
    cases h.mirrored with
    | down hnone => exact absurd hnone hempty
    | held _ hdown hwants hset =>
      refine .succeed (mem_insert_self sub s.recorded) (by simpa using hfree) (by simpa using hdown)
        (fun _ => hpresent) (fun sub' hne => ?_) ?_
      · change sub' ∈ s.wants ↔ sub' ∈ insert sub s.recorded ∧ s.Present sub' ∧ _
        rw [hwants, mem_insert, or_iff_right hne]
        simp
      · refine hset.imp (by simp) ?_
        rintro ⟨hvis, first, hfirst, hsub⟩
        exact ⟨hvis, first, mem_insert_of_mem hfirst, by simpa using hsub⟩

/-- `SubscribeRemote` returns. -/
theorem subscribeRemote_inStep (h : InStep s (.subscribeRemote sub ::ₘ rest))
    (hout : s.subscribeRemote sub x = (s', new)) : InStep s' (new + rest) := by
  cases x with
  | none =>
    cases hout
    obtain ⟨hmem, hvis, hdown, hfree, hwants⟩ := h.mirrored.of_subscribing rfl
    refine h.next (by simpa using h.announced) (by simp) (by simp) (fun _ hsub => .inl ?_) (by simp)
      (by simp) ?_
    · simpa [State.recorded] using hsub
    · refine .succeed hmem (by simp [hfree]) (by simpa using hdown)
        (fun hwant => ((hwants sub).1 hwant).2.1) (fun sub' hne => ?_) (.inl (by simp [hfree]))
      change sub' ∈ s.wants ↔ sub' ∈ s.recorded ∧ s.Present sub' ∧ _
      simp [hwants, hne, hfree]
  | some err =>
    cases hout
    exact h.same h.announced rfl rfl rfl rfl rfl (by simp) (by simp) (by simp) (by simp)

/-- An interest is withdrawn by `releaseRemoteMirror`. -/
theorem release_inStep (h : InStep s (.release sub ::ₘ rest))
    (hord : InOrder s (.release sub ::ₘ rest) (.release sub) x)
    (hout : s.release sub = (s', new)) : InStep s' (new + rest) := by
  have hfree : sub ∉ subscribing rest := by simpa [InOrder] using hord
  have hsubset : s.wants ⊆ s.recorded := fun _ hwant => (h.mirrored.of_wants hwant).1
  unfold State.release at hout
  dsimp only at hout
  split at hout
  · next hnone =>
    cases hout
    have hempty : s.wants = ∅ := by
      rwa [State.recorded, hnone, getD_none, Finset.subset_empty] at hsubset
    exact h.same h.announced rfl rfl rfl (by simp [hempty]) rfl (by simp) (by simp) (by simp)
      (by simp)
  · next subs hsubs =>
    cases hout
    have hrec : s.recorded = subs := by rw [State.recorded, hsubs, getD_some]
    have hpub : s.remotePub = true := h.announced (by simp [hsubs])
    refine h.next (fun _ => hpub) rfl rfl (fun sub' hmem => .inl ?_) (by simp)
      (by split_ifs <;> simp) ?_
    · rw [hrec]
      exact Finset.mem_of_mem_erase hmem
    -- who waits for `SubscribeRemote` is another subscriber, and stays recorded
    have hwaits (sub' : Subscriber) (hmem : sub' ∈ s.recorded) (hsub : subscribing rest = {sub'}) :
        sub' ∈ subs.erase sub := by
      refine Finset.mem_erase.2 ⟨?_, hrec ▸ hmem⟩
      rintro rfl
      exact hfree (by simp [hsub])
    split_ifs with hempty
    · -- it was the last one
      refine .down hempty ?_ ?_ (by simpa [hpub] using h.mirrored.knows) (by simp)
      · exact Finset.subset_empty.1 (hempty ▸ hrec ▸ Finset.erase_subset_erase sub hsubset)
      · suffices hzero : subscribing rest = 0 by simpa using hzero
        cases h.mirrored with
        | down _ _ hsub => simpa using hsub
        | held _ _ _ hset =>
          obtain ⟨-, hsub⟩ | ⟨-, first, hfirst, hsub⟩ := hset
          · simpa using hsub
          · have hmem := hwaits first hfirst (by simpa using hsub)
            rw [hempty] at hmem
            exact absurd hmem (Finset.notMem_empty first)
    · cases h.mirrored with
      | down hnone =>
        rw [← hrec, hnone, erase_empty] at hempty
        exact absurd rfl hempty
      | held hne hdown hwants hset =>
        refine .held hempty (by simpa using hdown) (fun sub' => ?_) ?_
        · change sub' ∈ s.wants.erase sub ↔ sub' ∈ subs.erase sub ∧ s.Present sub' ∧ _
          simp [Finset.mem_erase, hwants, hrec, and_assoc]
        · refine hset.imp (by simp) ?_
          rintro ⟨hvis, first, hfirst, hsub⟩
          have hsub : subscribing rest = {first} := by simpa using hsub
          exact ⟨hvis, first, hwaits first hfirst hsub, by simpa using hsub⟩

/-- An interest is withdrawn after a failure. -/
theorem rollback_inStep (h : InStep s (.rollback sub err ::ₘ rest))
    (hord : InOrder s (.rollback sub err ::ₘ rest) (.rollback sub err) x) :
    InStep (s.rollback sub err) (([] : List Instr) + rest) := by
  obtain ⟨hmem, hvis, hdown, hfree, hwants⟩ := h.mirrored.of_subscribing rfl
  have honly : s.recorded ⊆ {sub} := hord
  have hempty : (s.rollback sub err).recorded = ∅ := by
    have hmap : (s.rollback sub err).recorded = s.recorded.erase sub := by
      unfold State.rollback State.recorded
      cases s.mirrorSubs with
      | none => exact (Finset.erase_empty sub).symm
      | some subs => rfl
    rw [hmap, Finset.erase_eq_empty_iff]
    exact Finset.subset_singleton_iff.1 honly
  refine h.next (fun hne => h.announced ?_) rfl rfl (by simp [hempty]) (by simp) (by simp) ?_
  · simpa [State.rollback] using hne
  refine .down hempty ?_ (by simpa using hfree) (by simpa using h.mirrored.knows) ?_
  · -- nobody else is recorded, and the subscriber itself still waits
    refine Finset.eq_empty_of_forall_notMem fun sub' hwant => ?_
    obtain ⟨hmem', -, hne⟩ := (hwants sub').1 hwant
    exact hne (Finset.mem_singleton.1 (honly hmem'))
  · simp [State.rollback, hvis]

/-- The room is empty: all interests are withdrawn. -/
theorem dropRoomMirrors_inStep (h : InStep s (.dropRoomMirrors ::ₘ rest))
    (hord : InOrder s (.dropRoomMirrors ::ₘ rest) .dropRoomMirrors x)
    (hout : s.dropRoomMirrors = (s', new)) : InStep s' (new + rest) := by
  obtain ⟨hroom, hfree⟩ := hord
  unfold State.dropRoomMirrors at hout
  split at hout
  · next hnone =>
    cases hout
    exact h.same h.announced rfl rfl rfl rfl rfl (by simp [State.recorded, hnone]) (by simp)
      (by simp) (by simp)
  · next subs hsubs =>
    cases hout
    have hpub : s.remotePub = true := h.announced (by simp [hsubs])
    refine h.next (fun hne => absurd rfl hne) rfl rfl (by simp [State.recorded])
      (by simp [State.recorded]) (by simp) (.down rfl ?_ (by simpa using hfree)
        (by simpa [hpub] using h.mirrored.knows) (by simp))
    -- no participant is there to want it
    refine Finset.eq_empty_of_forall_notMem fun sub hwant => ?_
    obtain ⟨hne, hwant⟩ := Finset.mem_erase.1 hwant
    cases sub with
    | participant c =>
      have hpresent := (h.mirrored.of_wants hwant).2
      simp [State.Present, hroom] at hpresent
    | node => exact hne rfl

/-- A connection ends, which wants nothing any more. -/
theorem removeParticipant_inStep {c : ParticipantId}
    (h : InStep s (.removeParticipant c ::ₘ rest)) :
    InStep (s.removeParticipant c) (([.stillHere c] : List Instr) + rest) := by
  have hpresent (sub : Subscriber) :
      (s.removeParticipant c).Present sub ↔ s.Present sub ∧ sub ≠ .participant c := by
    cases sub with
    | participant c' => simp [State.Present, State.removeParticipant, and_comm]
    | node => simp [State.Present]
  refine ⟨h.announced, ⟨(erase_subset c s.connected).trans h.joined.1, h.joined.2⟩,
    fun sub hsub => ?_, fun hmem => ?_, ?_⟩
  · by_cases hself : sub = .participant c
    · exact .inr ⟨.stillHere c, by simp, hself⟩
    · rw [hpresent]
      refine (h.present sub hsub).imp (⟨·, hself⟩) ?_
      rintro ⟨j, hj, hleaves⟩
      obtain rfl | hj := mem_cons.1 hj
      · exact hleaves.elim
      · exact ⟨j, mem_new.2 (.inr hj), hleaves⟩
  · exact h.still (mem_cons_of_mem (by simpa using hmem))
  cases h.mirrored with
  | down hrec hwants hsub hknown hvis =>
    exact .down hrec (by simp [State.removeParticipant, hwants]) (by simpa using hsub)
      (by simpa using hknown) (by simpa [State.removeParticipant] using hvis)
  | held hrec hdown hwants hset =>
    refine .held hrec (by simpa using hdown) (fun sub => ?_)
      (by simpa [State.removeParticipant, State.recorded] using hset)
    change sub ∈ s.wants.erase (.participant c) ↔ sub ∈ s.recorded ∧ _
    rw [hpresent, Finset.mem_erase, hwants]
    simp [and_assoc, and_left_comm, and_comm]

/-- **Interests and mirror stay in step**, until the publication is removed. -/
theorem exec_inStep (h : InStep s (i ::ₘ rest)) (hord : InOrder s (i ::ₘ rest) i x)
    (hi : i ≠ .retract) (hex : exec s i x = some (s', new)) : InStep s' (new + rest) := by
  cases i with
  | announce =>
    cases hex
    exact h.same (fun _ => rfl) rfl rfl rfl rfl rfl (by simp) (by simp) (by simp) (by simp)
  | autoMirror =>
    cases hex
    split_ifs <;>
      exact h.same h.announced rfl rfl rfl rfl rfl (by simp) (by simp) (by simp) (by simp)
  | ensure sub =>
    have hout : s.ensure sub = (s', new) := some.inj hex
    unfold State.ensure at hout
    split_ifs at hout with hup <;> cases hout
    · -- the subscriber is recorded, and wants the publication already
      have hwants : (s.succeed sub).wants = s.wants := by
        ext sub'
        rw [mem_wants_succeed, or_iff_left_iff_imp]
        rintro ⟨rfl, hpresent⟩
        exact h.mirrored.of_visible hup (hord hup) hpresent
      exact h.same (by simpa using h.announced) (by simp) (by simp) (by simp) hwants (by simp)
        (by simp) (by simp) (by simp) (by simp)
    · exact h.same h.announced rfl rfl rfl rfl rfl (by simp) (by simp) (by simp) (by simp)
  | record sub => exact record_inStep h hord (some.inj hex)
  | subscribeRemote sub => exact subscribeRemote_inStep h (some.inj hex)
  | rollback sub err =>
    cases hex
    exact rollback_inStep h hord
  | release sub => exact release_inStep h hord (some.inj hex)
  | dropKey known =>
    cases hex
    obtain ⟨rfl, -, hwants, hfree⟩ := h.mirrored.of_takesDown rfl
    exact h.next (fun hne => absurd rfl hne) rfl rfl (by simp [State.recorded]) (by simp) (by simp)
      (.down rfl hwants (by simpa using hfree) (by simpa using h.mirrored.knows) (by simp))
  | unsubscribeRemote known =>
    cases hex
    obtain ⟨rfl, hrec, hwants, hfree⟩ := h.mirrored.of_takesDown rfl
    refine h.next h.announced rfl rfl (fun _ => .inl) (by simp) (by simp)
      (.down hrec hwants (by simpa using hfree) (by simpa using h.mirrored.knows) ?_)
    simp [State.unsubscribeRemote]
  | retract => exact absurd rfl hi
  | tearDownMirror => exact absurd (mem_cons_self _ rest) h.still
  | removeParticipant c =>
    cases hex
    exact removeParticipant_inStep h
  | stillHere c =>
    cases hex
    split_ifs with hroom
    · exact h.same h.announced rfl rfl rfl rfl rfl (by simp) (by simp) (by simp) (by simp)
    · refine h.same h.announced rfl rfl rfl rfl rfl ?_ (by simp) (by simp) (by simp)
      rintro _ hmem rfl
      exact absurd hmem (hord hroom)
  | dropRoomMirrors => exact dropRoomMirrors_inStep h hord (some.inj hex)

/-! ## Runs -/

/-- A removed publication stays removed, and only `remote_publication_removed` removes it. -/
theorem exec_removed (hex : exec s i x = some (s', new)) (hstill : s'.removed = false) :
    s.removed = false ∧ i ≠ .retract := by
  cases i <;> cases x <;> grind [exec, State.ensure, State.record, State.subscribeRemote,
    State.rollback, State.release, State.unsubscribeRemote, State.removeParticipant,
    State.dropRoomMirrors, State.succeed]

theorem launch_inStep {op : Op} (h : InStep s P) (hla : launch s op = some (s', new)) :
    InStep s' (new + P) := by
  cases op with
  | join c =>
    simp only [launch] at hla
    split_ifs at hla with hc
    cases hla
    rw [coe_nil, zero_add]
    -- nothing is recorded for a connection that is new
    have hpresent (sub : Subscriber) (hsub : sub ∈ s.recorded) :
        State.Present
            { s with joined := insert c s.joined, connected := insert c s.connected } sub ↔
          s.Present sub := by
      cases sub with
      | participant c' =>
        have hne : c' ≠ c := by
          rintro rfl
          exact hc (h.joined.2 c' hsub)
        simp [State.Present, hne]
      | node => exact Iff.rfl
    exact ⟨h.announced, ⟨insert_subset_insert c h.joined.1, fun c' hc' =>
        Finset.mem_insert_of_mem (h.joined.2 c' hc')⟩,
      fun sub hsub => (h.present sub hsub).imp_left (hpresent sub hsub).2, h.still,
      h.mirrored.congr rfl rfl rfl hpresent rfl rfl⟩
  | subscribe | unsubscribe | disconnect | announce | retract =>
    cases hla
    refine ⟨h.announced, h.joined, fun sub hsub => ?_, by simpa using h.still,
      h.mirrored.congr rfl rfl rfl (fun _ _ => Iff.rfl) (by simp) (by simp)⟩
    refine (h.present sub hsub).imp_right ?_
    rintro ⟨j, hj, hleaves⟩
    exact ⟨j, mem_new.2 (.inr hj), hleaves⟩

theorem launch_removed {op : Op} (hla : launch s op = some (s', new)) : s'.removed = s.removed := by
  cases op <;> grind [launch]

end InStep

/-- **A mirrored publication lives as long as somebody needs it**: in every run that meets
`InOrder`, whenever no call is in progress and the publication is still announced, the mirror is up
exactly if some connected participant's last successful operation on it was `ensureRemoteMirror`, or
the node-level interest is held. -/
theorem mirror_iff_wanted (as : List Act) (t : System)
    (hord : Along step (Pool.Meets (fun _ _ _ => True) InOrder) System.empty as)
    (hrun : run step System.empty as = some t) (hidle : t.Idle)
    (hstill : t.shared.remotePub = true ∧ t.shared.removed = false) :
    t.shared.visible = true ↔ t.shared.wants ≠ ∅ := by
  have hinv : t.shared.removed = false → InStep t.shared t.pending := by
    refine Pool.run_inv (I := fun s P => s.removed = false → InStep s P)
      (fun s P op s' code h _ hla hstill => ?_) (fun s i rest x s' new h hord hex hstill => ?_)
      (fun _ => ?_) hord hrun
    · exact launch_inStep (h (launch_removed hla ▸ hstill)) hla
    · obtain ⟨hstill, hi⟩ := exec_removed hex hstill
      exact exec_inStep (h hstill) hord hi hex
    · exact ⟨absurd rfl, ⟨subset_rfl, by simp [System.empty, State.recorded]⟩,
        by simp [System.empty, State.recorded], by simp [System.empty, Pool.pending],
        .down rfl rfl rfl (by simp [System.empty, Pool.pending]) (by simp [System.empty])⟩
  have h := hinv hstill.2
  rw [hidle.pending_eq] at h
  cases h.mirrored with
  | down _ hwants _ _ hvis => simpa using iff_of_false (mt hvis (by simp)) (not_not.2 hwants)
  | held hrec _ hwants hset =>
    have hup : t.shared.visible = true := by
      obtain ⟨hup, -⟩ | ⟨-, first, -, hsub⟩ := hset
      · exact hup
      · exact absurd hsub.symm (singleton_ne_zero first)
    refine iff_of_true hup ?_
    obtain ⟨sub, hsub⟩ := nonempty_iff_ne_empty.2 hrec
    have hpresent := (h.present sub hsub).resolve_right (by simp)
    exact ne_empty_of_mem (h.mirrored.of_visible hup hsub hpresent)

/-- Two participants join after a publication was announced. -/
def joined : List Act :=
  [Pool.Act.start Op.announce] ++ go 0 2 ++
    [Pool.Act.start (Op.join "a"), Pool.Act.start (Op.join "b")]

/-- Both subscribe while the mirror is being set up. Then the first one unsubscribes and leaves. -/
def shared : List Act :=
  joined ++ [Pool.Act.start (Op.subscribe (.participant "a")),
      Pool.Act.start (Op.subscribe (.participant "b"))] ++ go 3 2 ++ go 4 2 ++ go 3 1 ++
    [Pool.Act.start (Op.unsubscribe (.participant "a"))] ++ go 5 1 ++
    [Pool.Act.start (Op.disconnect "a")] ++ go 6 2

theorem mirror_iff_wanted_shared : ∃ t ∈ run step System.empty shared,
    t.Idle ∧ t.shared.wants = {.participant "b"} ∧ t.shared.visible = true := by
  have hrun : ∃ t ∈ run step System.empty shared,
      t.Idle ∧ (t.shared.remotePub = true ∧ t.shared.removed = false) ∧
        t.shared.wants = {.participant "b"} := by
    decide +kernel
  obtain ⟨t, ht, hidle, hstill, hwants⟩ := hrun
  refine ⟨t, ht, hidle, hwants, ?_⟩
  refine (mirror_iff_wanted shared t (by decide +kernel) ht hidle hstill).2 ?_
  rw [hwants]
  exact Finset.singleton_ne_empty _

/-- The second one subscribes once the mirror is up. -/
def unrecorded : List Act :=
  joined ++ [Pool.Act.start (Op.subscribe (.participant "a"))] ++ go 3 3 ++
    [Pool.Act.start (Op.subscribe (.participant "b"))] ++ go 4 1

/-- Then the first one unsubscribes. -/
def forsaken : List Act :=
  unrecorded ++ [Pool.Act.start (Op.unsubscribe (.participant "a"))] ++ go 5 3

/-- Then the second one unsubscribes, and the first one disconnects while the second one stays. -/
def forgotten : List Act :=
  unrecorded ++ [Pool.Act.start (Op.unsubscribe (.participant "b"))] ++ go 5 1 ++
    [Pool.Act.start (Op.disconnect "a")] ++ go 6 2

/-- The mirror is taken down while somebody wants it, and stays up while nobody does. -/
theorem mirror_out_of_step :
    (∃ t ∈ run step System.empty forsaken, t.Idle ∧ t.shared.remotePub = true ∧
      t.shared.removed = false ∧ "b" ∈ t.shared.connected ∧
        t.shared.wants = {.participant "b"} ∧ t.shared.visible = false) ∧
    (∃ t ∈ run step System.empty forgotten, t.Idle ∧ t.shared.remotePub = true ∧
      t.shared.removed = false ∧ t.shared.wants = ∅ ∧ t.shared.visible = true) := by
  decide +kernel

end PulseRTC.Signaling.Interest
