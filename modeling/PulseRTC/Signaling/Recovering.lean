import PulseRTC.Foundations.Goroutines
import PulseRTC.Quality.Engine
import PulseRTC.Signaling.Reports
import PulseRTC.Signaling.Sessions

/-!
# Recovering participants

A participant whose connection is lost has a session that is recovering, and the QoE engine should
say so until the session is resumed or given up: its snapshot should name the recovery, and not
blame the network. The mark is in the engine and the session in the registry. `disconnect` parks the
session, sets the mark, and then forgets the participant, which takes the mark back.

The server runs its handlers as goroutines; every critical section is an instruction. Whether a
join is authorized and the room claimed, and whether the SFU can create the peer connection, is the
answer of the environment, as are the clock, the new UUIDs and the order of the loops. Which
messages a connection sends and when it ends is left open, and session recovery is enabled.

* `recovering_reported_iff`: once no handler is running, recovering participants are reported as
  such only if there are none.
-/

namespace PulseRTC.Signaling.Recovering

open Foundations Cluster Quality Multiset

/-! ## The server -/

/-- `Client`: the subject of its identity, and its room. -/
structure Client where
  subject : Option String := none
  roomID : RoomId := ""
  deriving DecidableEq

/-- `Server`, with `RecoveryTimeout`. -/
structure State where
  nodeID : NodeId
  timeout : Time
  clients : ParticipantId → Client := fun _ => {}
  sessions : SessionRegistry := .empty
  quality : Engine

/-- Change one client. -/
def State.onClient (s : State) (c : ParticipantId) (f : Client → Client) : State :=
  { s with clients := Function.update s.clients c (f (s.clients c)) }

/-- One critical section. -/
inductive Instr
  | handleJoin (c : ParticipantId) (room : RoomId) (resume : Option ResumeInfo)
  /-- `sessions.Open`. -/
  | openSession (c : ParticipantId) (subject : String) (room : RoomId)
    (resume : Option ResumeInfo)
  | setRoom (c : ParticipantId) (room : RoomId) (reconnected : Bool)
  /-- `JoinWithPermissions`. -/
  | joinSFU (c : ParticipantId) (reconnected : Bool)
  | handleQualityReport (c : ParticipantId) (samples : List Object)
  /-- `quality.Ingest`. -/
  | ingest (sample : Sample)
  | disconnect (c : ParticipantId)
  /-- `sessions.MarkRecovering`. -/
  | markRecovering (c : ParticipantId)
  /-- `quality.SetRecovering`. -/
  | setRecovering (c : ParticipantId) (recovering : Bool)
  /-- `quality.Forget`. -/
  | forget (c : ParticipantId)
  /-- `sessions.SweepExpired`. -/
  | sweepExpired
  /-- `quality.Prune`. -/
  | prune

/-- The answer of the environment. -/
structure Choice where
  granted : Bool := true
  now : Time := 0
  later : Time := 0
  uuid : String := ""
  order : List ParticipantId := []
  deriving DecidableEq

/-- What an instruction does, and what comes next. -/
def exec (s : State) (i : Instr) (x : Choice) : State × List Instr :=
  match i with
  | .handleJoin c room resume =>
    if room = "" ∨ (s.clients c).roomID ≠ "" ∨ x.granted = false then (s, [])
    else match (s.clients c).subject with
    | none => (s, [])
    | some subject => (s, [.openSession c subject room resume])
  | .openSession c subject room resume =>
    let (sessions, res) := s.sessions.openSession x.now x.uuid subject room c s.nodeID resume
    match res with
    | .error _ => ({ s with sessions := sessions }, [])
    | .ok res => ({ s with sessions := sessions }, [.setRoom c room res.reconnected])
  | .setRoom c room reconnected =>
    (s.onClient c fun y => { y with roomID := room }, [.joinSFU c reconnected])
  | .joinSFU c reconnected =>
    if x.granted then (s, if reconnected then [.setRecovering c false] else [])
    else (s.onClient c fun y => { y with roomID := "" }, [])
  | .handleQualityReport c samples =>
    match Signaling.handleQualityReport (s.clients c).roomID c samples with
    | .error _ => (s, [])
    | .ok fed => (s, fed.map .ingest)
  | .ingest sample => ({ s with quality := (s.quality.ingest sample x.now x.later).1 }, [])
  | .disconnect c =>
    if (s.clients c).roomID ≠ "" ∧ (s.clients c).subject.isSome then (s, [.markRecovering c])
    else (s, [.forget c])
  | .markRecovering c =>
    let (sessions, parked) := s.sessions.markRecovering x.now c
    ({ s with sessions := sessions }, if parked then [.setRecovering c true] else [.forget c])
  -- `disconnect` sets the mark and goes on, and `handleJoin` takes it back at its end
  | .setRecovering c recovering =>
    ({ s with quality := s.quality.setRecovering c recovering },
      if recovering then [.forget c] else [])
  | .forget c => ({ s with quality := s.quality.forget c }, [])
  | .sweepExpired =>
    ({ s with sessions := (s.sessions.sweepExpired s.timeout x.now x.order).1 }, [])
  | .prune => ({ s with quality := s.quality.prune (30 * second) x.now }, [])

/-- What the environment can start. -/
inductive Op
  | connect (c : ParticipantId) (subject : String)
  | join (c : ParticipantId) (room : RoomId) (resume : Option ResumeInfo)
  | report (c : ParticipantId) (samples : List Object)
  | disconnect (c : ParticipantId)
  | sweep
  | stats

/-- An event, and the handler it starts. -/
def launch (s : State) : Op → State × List Instr
  | .connect c subject =>
    (s.onClient c fun y => { y with subject := y.subject.or (some subject) }, [])
  | .join c room resume => (s, [.handleJoin c room resume])
  | .report c samples => (s, [.handleQualityReport c samples])
  | .disconnect c => (s, [.disconnect c])
  | .sweep => (s, [.sweepExpired])
  | .stats => (s, [.prune])

/-- One step of the server. -/
def step : Pool State Instr → Pool.Act Op Choice → Option (Pool State Instr) :=
  Pool.step (fun s op => some (launch s op)) (fun s i x => some (exec s i x))

/-- A server that has just been started. -/
def start (nodeID : NodeId) (timeout : Time) (cfg : Config) : Pool State Instr :=
  ⟨{ nodeID := nodeID, timeout := timeout, quality := Engine.new cfg }, []⟩

/-- Whether any handler is running. -/
instance (p : Pool State Instr) : Decidable p.Idle := inferInstanceAs (Decidable (∀ _, _))

/-! ## Marks -/

section Marks

variable {s : State} {rest : Multiset Instr} {i : Instr} {x : Choice} {c : ParticipantId}

/-- Whoever is marked is about to be forgotten. -/
def Marked (s : State) (P : Multiset Instr) : Prop :=
  ∀ c ∈ s.quality.recovering, Instr.forget c ∈ P

/-- An instruction that marks somebody is followed by one that forgets them; the others mark nobody,
and take the mark of those they forget. -/
theorem marks_exec (h : c ∈ (exec s i x).1.quality.recovering) :
    Instr.forget c ∈ (exec s i x).2 ∨ c ∈ s.quality.recovering ∧ i ≠ .forget c := by
  have hsame (hi : i ≠ .forget c)
      (heq : (exec s i x).1.quality.recovering = s.quality.recovering) :
      c ∈ s.quality.recovering ∧ i ≠ .forget c := ⟨heq ▸ h, hi⟩
  cases i with
  | setRecovering d recovering =>
    obtain hmem := Engine.mem_setRecovering.1 h
    split_ifs at hmem with hcd
    · subst hcd
      left
      simp [exec, hmem]
    · exact .inr ⟨hmem, nofun⟩
  | forget d =>
    obtain ⟨hne, hmem⟩ := Engine.mem_forget.1 h
    refine .inr ⟨hmem, ?_⟩
    rintro ⟨⟩
    exact hne rfl
  | ingest sample => exact .inr (hsame nofun (Engine.recovering_ingest _ _ _))
  | handleJoin | openSession | joinSFU | handleQualityReport | disconnect =>
    refine .inr (hsame nofun ?_)
    unfold exec
    dsimp only
    repeat' split
    all_goals rfl
  | setRoom | markRecovering | sweepExpired | prune => exact .inr (hsame nofun rfl)

theorem marked_exec (h : Marked s (i ::ₘ rest)) :
    Marked (exec s i x).1 ((exec s i x).2 + rest) := by
  intro c hc
  obtain hnew | ⟨hold, hne⟩ := marks_exec hc
  · exact mem_add.2 (.inl (mem_coe.2 hnew))
  · obtain heq | hrest := mem_cons.1 (h c hold)
    · exact absurd heq.symm hne
    · exact mem_add.2 (.inr hrest)

theorem marked_launch {P : Multiset Instr} (h : Marked s P) (op : Op) :
    Marked (launch s op).1 ((launch s op).2 + P) := by
  have hquality : (launch s op).1.quality = s.quality := by cases op <;> rfl
  intro c hc
  rw [hquality] at hc
  exact mem_add.2 (.inr (h c hc))

/-- Once no handler is running, nobody is marked. -/
theorem recovering_idle {nodeID : NodeId} {timeout : Time} {cfg : Config}
    {as : List (Pool.Act Op Choice)} {p : Pool State Instr}
    (hrun : run step (start nodeID timeout cfg) as = some p) (hidle : p.Idle) :
    p.shared.quality.recovering = ∅ := by
  have hmarked : Marked p.shared p.pending := by
    refine Pool.run_inv_always (I := Marked) ?_ ?_ (p := start nodeID timeout cfg) ?_ hrun
    · intro s P op s' code h hlaunch
      obtain ⟨rfl, rfl⟩ := Prod.mk.inj (Option.some.inj hlaunch)
      exact marked_launch h op
    · intro s i rest x s' new h hexec
      obtain ⟨rfl, rfl⟩ := Prod.mk.inj (Option.some.inj hexec)
      exact marked_exec h
    · exact nofun
  rw [Finset.eq_empty_iff_forall_notMem]
  intro c hc
  have hmem := hmarked c hc
  rw [hidle.pending_eq] at hmem
  exact notMem_zero _ hmem

end Marks

/-! ## Reports -/

/-- Recovering sessions are reported as such, and connected ones are not. -/
structure Reported (s : State) : Prop where
  recovering : ∀ phys ref sess, s.sessions.find phys = some (ref, sess) →
    sess.state = .recovering → ∀ order, s.quality.Order order →
      (s.quality.snapshot order sess.participantID).reason = "SESSION_RECOVERY" ∧
      (s.quality.snapshot order sess.participantID).overall ≠ .poor ∧
      (s.quality.snapshot order sess.participantID).overall ≠ .unknown
  connected : ∀ phys ref sess, s.sessions.find phys = some (ref, sess) →
    sess.state = .connected → ∀ order, s.quality.Order order →
      (s.quality.snapshot order sess.participantID).reason = ""

/-- **Recovering participants are never reported as recovering**: in every run, once no handler is
running, the reports are right exactly if there are no recovering sessions. -/
theorem recovering_reported_iff {nodeID : NodeId} {timeout : Time} {cfg : Config}
    {as : List (Pool.Act Op Choice)} {p : Pool State Instr}
    (hrun : run step (start nodeID timeout cfg) as = some p) (hidle : p.Idle) :
    Reported p.shared ↔ ∀ phys ref sess, p.shared.sessions.find phys = some (ref, sess) →
      sess.state ≠ .recovering := by
  have hreason (order : List StreamKey) (c : ParticipantId) :
      (p.shared.quality.snapshot order c).reason = "" := by
    rw [Engine.reason_snapshot, recovering_idle hrun hidle, if_neg (Finset.notMem_empty c)]
  constructor
  · intro h phys ref sess hfind hstate
    obtain ⟨order, horder⟩ := p.shared.quality.exists_order
    obtain ⟨hrec, -⟩ := h.recovering phys ref sess hfind hstate order horder
    rw [hreason] at hrec
    simp at hrec
  · intro h
    refine ⟨fun phys ref sess hfind hstate => absurd hstate (h phys ref sess hfind), ?_⟩
    intro phys ref sess _ _ order _
    exact hreason order sess.participantID

def joins : List (Pool.Act Op Choice) :=
  [.start (.connect "conn" "alice"), .start (.join "conn" "room" none), .resume 1 {}, .resume 1 {},
    .resume 1 {}, .resume 1 {}]

/-- The participant is connected, and not reported as recovering. -/
theorem recovering_reported_joined :
    ∃ p ∈ run step (start "node" second defaultConfig) joins,
      p.Idle ∧ p.shared.sessions.objects.length = 1 ∧ Reported p.shared := by
  have hreach : ∃ p ∈ run step (start "node" second defaultConfig) joins,
      p.Idle ∧ p.shared.sessions.objects.length = 1 ∧
        ∀ sess ∈ p.shared.sessions.objects, sess.state ≠ .recovering := by decide +kernel
  obtain ⟨p, hrun, hidle, hlength, hstates⟩ := hreach
  refine ⟨p, hrun, hidle, hlength, (recovering_reported_iff hrun hidle).2 ?_⟩
  intro phys ref sess hfind
  exact hstates sess (List.mem_of_getElem? (SessionRegistry.find_lt hfind).2.2)

/-- The connection is lost. The session is recovering, and the snapshot does not say so. -/
theorem recovering_unreported :
    ∃ p ∈ run step (start "node" second defaultConfig) (joins ++
        [.start (.disconnect "conn"), .resume 2 {}, .resume 2 {}, .resume 2 {}, .resume 2 {}]),
      p.Idle ∧ p.shared.quality.streams.keys = ∅ ∧
      (p.shared.sessions.find "conn").map (fun x => (x.2.state, x.2.participantID)) =
        some (.recovering, "conn") ∧
      (p.shared.quality.snapshot [] "conn").reason = "" ∧
      (p.shared.quality.snapshot [] "conn").overall = .unknown := by
  decide +kernel

end PulseRTC.Signaling.Recovering
