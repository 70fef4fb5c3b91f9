import PulseRTC.Foundations.Goroutines
import PulseRTC.History.Recorder
import PulseRTC.Signaling.Sessions

/-!
# Call history and presence

The recorder has one record for each logical participant, the subject of a token, and a participant
may use several connections: two tabs, or an old socket and the one that resumed its session, which
is closed a moment later. `handleJoin` reports each connection that joins and `disconnect` each one
that leaves, and the record keeps one mark for all of them.

The handlers of one room of one node run as goroutines, and every critical section is an
instruction. A connection handles its messages one after the other and disconnects at its end.
Whether a join is authorized and the room claimed, whether the SFU can create the peer connection,
the clock, the new UUIDs and the negotiation counters are the answers of the environment.

* `history_follows_presence`: the mark is right if a participant is reported as left only by the
  last of its connections, and a summary is closed only once nobody is in the room.
-/

namespace PulseRTC.Signaling.CallHistory

open Foundations Cluster History Multiset Option

/-! ## The server -/

/-- How far a connection has come. -/
inductive Stage
  | absent
  | connected
  /-- `handleJoin` has begun. -/
  | joining
  /-- The room has the connection as a member. -/
  | added
  /-- `EnsureRoom` was called. -/
  | ensured
  /-- `ParticipantJoined` was called. -/
  | recorded
  /-- `handleJoin` has ended, and `disconnect` has not begun. -/
  | joined
  /-- `disconnect` has begun. -/
  | leaving
  /-- `ParticipantLeft` was called, or there was no room to leave. -/
  | left
  /-- `disconnect` has ended. -/
  | gone
  deriving DecidableEq

namespace Stage

/-- A handler of the connection is running. -/
def busy : Stage → Bool
  | .joining | .added | .ensured | .recorded | .leaving | .left => true
  | .absent | .connected | .joined | .gone => false

/-- The connection is in the room. -/
def inside : Stage → Bool
  | .added | .ensured | .recorded | .joined => true
  | _ => false

/-- The connection relies on the summary of the room. -/
def entered : Stage → Bool
  | .ensured | .recorded | .joined => true
  | _ => false

/-- The connection was reported as joined, and has not begun to leave. -/
def present : Stage → Bool
  | .recorded | .joined => true
  | _ => false

/-- The connection was reported as joined, and not yet as left. -/
def counted : Stage → Bool
  | .recorded | .joined | .leaving => true
  | _ => false

end Stage

/-- `Client`: the subject and the name of its identity, and its room. -/
structure Client where
  subject : String := ""
  name : String := ""
  roomID : RoomId := ""
  stage : Stage := .absent
  deriving DecidableEq

/-- The room manager for one room: which `Room` object is current, and the members of each object
there has been. -/
structure Rooms where
  current : Option ℕ := none
  objects : List (Finset ParticipantId) := []

namespace Rooms

variable (m : Rooms)

def getOrCreate : Rooms × ℕ :=
  match m.current with
  | some ref => (m, ref)
  | none => ({ current := some m.objects.length, objects := m.objects ++ [∅] }, m.objects.length)

def add (ref : ℕ) (c : ParticipantId) : Rooms :=
  { m with objects := m.objects.modify ref (insert c) }

/-- `Room.Remove`, which leaves an empty room where it is. -/
def remove (ref : ℕ) (c : ParticipantId) : Rooms :=
  { m with objects := m.objects.modify ref fun members => members.erase c }

/-- `RemoveParticipant`, which deletes the room once it is empty. -/
def removeParticipant (c : ParticipantId) : Rooms :=
  match m.current with
  | none => m
  | some ref =>
    let m := m.remove ref c
    if m.objects[ref]?.getD ∅ = ∅ then { m with current := none } else m

end Rooms

/-- `Server`. -/
structure State where
  nodeID : NodeId
  /-- `recovery.Enabled`. -/
  recovery : Bool
  clients : GoMap ParticipantId Client := ∅
  sessions : SessionRegistry := .empty
  rooms : Rooms := {}
  recorder : Recorder := {}
  /-- The sockets that `replaceSession` closes after its notice. -/
  replaced : List ParticipantId := []

namespace State

variable (s : State)

/-- The connection `c`, as it is before it exists if there is none. -/
def client (c : ParticipantId) : Client := (s.clients.lookup c).getD {}

def logicalID (c : ParticipantId) : String :=
  if (s.client c).subject = "" then c else (s.client c).subject

/-- The stage of a connection. -/
def stage (c : ParticipantId) : Stage := (s.client c).stage

/-- Change one connection. -/
def onClient (c : ParticipantId) (f : Client → Client) : State :=
  { s with clients := s.clients.insert c (f (s.client c)) }

/-- The connection comes to a stage. -/
def move (c : ParticipantId) (stage : Stage) : State :=
  s.onClient c fun y => { y with stage := stage }

end State

/-- One critical section of `handleJoin` or `disconnect`. -/
inductive Instr
  | handleJoin (c : ParticipantId) (resume : Option ResumeInfo)
  /-- `sessions.Open`. -/
  | openSession (c : ParticipantId) (resume : Option ResumeInfo)
  | getOrCreate (c : ParticipantId) (reconnected : Bool)
  /-- `Room.Add` and `setRoom`. -/
  | add (c : ParticipantId) (ref : ℕ) (reconnected : Bool)
  /-- `JoinWithPermissions`. -/
  | joinSFU (c : ParticipantId) (ref : ℕ) (reconnected : Bool)
  | ensureRoom (c : ParticipantId) (reconnected : Bool)
  | participantJoined (c : ParticipantId) (reconnected : Bool)
  /-- The rest of `handleJoin`. -/
  | announce (c : ParticipantId)
  | removeParticipant (c : ParticipantId)
  | participantLeft (c : ParticipantId)
  /-- `disconnect` looks whether the room is still there. -/
  | lookRoom (c : ParticipantId)
  | roomClosed (c : ParticipantId)
  | markRecovering (c : ParticipantId)
  /-- `untrackClient`, at the end of `disconnect`. -/
  | untrack (c : ParticipantId)
  deriving DecidableEq

namespace Instr

/-- The connection whose handler it belongs to. -/
def client : Instr → ParticipantId
  | .handleJoin c _ | .openSession c _ | .getOrCreate c _ | .add c _ _ | .joinSFU c _ _
  | .ensureRoom c _ | .participantJoined c _ | .announce c | .removeParticipant c
  | .participantLeft c | .lookRoom c | .roomClosed c | .markRecovering c | .untrack c => c

/-- The stage in which it is executed. -/
def stage : Instr → Stage
  | .handleJoin .. | .openSession .. | .getOrCreate .. | .add .. => .joining
  | .joinSFU .. | .ensureRoom .. => .added
  | .participantJoined .. => .ensured
  | .announce _ => .recorded
  | .removeParticipant _ | .participantLeft _ => .leaving
  | .lookRoom _ | .roomClosed _ | .markRecovering _ | .untrack _ => .left

end Instr

/-- The answer of the environment. -/
structure Choice where
  granted : Bool := true
  now : Time := 0
  uuid : String := ""
  started : ℤ := 0
  failed : ℤ := 0
  deriving DecidableEq

/-- What an instruction does, and what comes next. -/
def exec (room : RoomId) (s : State) (i : Instr) (x : Choice) : State × List Instr :=
  match i with
  | .handleJoin c resume =>
    if room = "" ∨ (s.client c).roomID ≠ "" ∨ x.granted = false then (s.move c .connected, [])
    else if s.recovery then (s, [.openSession c resume])
    else (s, [.getOrCreate c false])
  | .openSession c resume =>
    let (sessions, res) :=
      s.sessions.openSession x.now x.uuid (s.client c).subject room c s.nodeID resume
    match res with
    | .error _ => ({ s with sessions := sessions }.move c .connected, [])
    | .ok res =>
      ({ s with
          sessions := sessions
          replaced := if res.kick = "" then s.replaced else res.kick :: s.replaced },
        [.getOrCreate c res.reconnected])
  | .getOrCreate c reconnected =>
    let (rooms, ref) := s.rooms.getOrCreate
    ({ s with rooms := rooms }, [.add c ref reconnected])
  | .add c ref reconnected =>
    ({ s with rooms := s.rooms.add ref c }.onClient c fun y =>
        { y with roomID := room, stage := .added },
      [.joinSFU c ref reconnected])
  | .joinSFU c ref reconnected =>
    if x.granted then (s, [.ensureRoom c reconnected])
    else
      ({ s with rooms := s.rooms.remove ref c }.onClient c fun y =>
        { y with roomID := "", stage := .connected }, [])
  | .ensureRoom c reconnected =>
    ({ s with recorder := s.recorder.ensureRoom x.now x.started x.failed room }.move c .ensured,
      [.participantJoined c reconnected])
  | .participantJoined c reconnected =>
    ({ s with
        recorder := s.recorder.participantJoined x.now room (s.logicalID c) (s.client c).name
          (s.recovery && reconnected) }.move c .recorded,
      [.announce c])
  | .announce c => (s.move c .joined, [])
  | .removeParticipant c =>
    ({ s with rooms := s.rooms.removeParticipant c }, [.participantLeft c])
  | .participantLeft c =>
    ({ s with recorder := s.recorder.participantLeft x.now room (s.logicalID c) }.move c .left,
      [.lookRoom c])
  | .lookRoom c =>
    (s, [if s.rooms.current = none then .roomClosed c else .markRecovering c])
  | .roomClosed c =>
    ({ s with recorder := s.recorder.roomClosed x.now x.started x.failed room },
      [.markRecovering c])
  | .markRecovering c =>
    ({ s with
        sessions := if s.recovery then (s.sessions.markRecovering x.now c).1 else s.sessions },
      [.untrack c])
  | .untrack c => (s.move c .gone, [])

/-- What the environment can start: a connection, a join, perhaps with a resume, and the end of a
connection, whether its peer closes it, it is lost, or `replaceSession` closes it. -/
inductive Op
  | connect (c : ParticipantId) (subject name : String)
  | join (c : ParticipantId) (resume : Option ResumeInfo)
  | disconnect (c : ParticipantId)
  /-- `SweepSessions`. -/
  | sweep (timeout now : Time) (order : List ParticipantId)

/-- An event, and the handler it starts. A connection has an id of its own that is not empty, and
starts a handler once the one before it has ended. -/
def launch (s : State) : Op → Option (State × List Instr)
  | .connect c subject name =>
    if c ≠ "" ∧ s.stage c = .absent then
      some (s.onClient c fun y =>
        { y with subject := subject, name := name, stage := .connected }, [])
    else none
  | .join c resume =>
    if s.stage c = .connected then some (s.move c .joining, [.handleJoin c resume])
    -- it has joined a room, and is told so
    else if s.stage c = .joined then some (s, [])
    else none
  | .disconnect c =>
    if s.stage c = .connected ∨ s.stage c = .joined then
      if (s.client c).roomID = "" then some (s.move c .left, [.untrack c])
      else some (s.move c .leaving, [.removeParticipant c])
    else none
  | .sweep timeout now order =>
    some ({ s with sessions := (s.sessions.sweepExpired timeout now order).1 }, [])

/-- One step of the server. -/
def step (room : RoomId) :
    Pool State Instr → Pool.Act Op Choice → Option (Pool State Instr) :=
  Pool.step launch fun s i x => some (exec room s i x)

/-- A server that has just been started. -/
def start (nodeID : NodeId) (recovery : Bool) : Pool State Instr :=
  ⟨{ nodeID := nodeID, recovery := recovery }, []⟩

/-! ## Connections and their handlers -/

variable {st : Stage} {before after : Stage}

section Handlers

variable {room : RoomId} {s s' : State} {i j : Instr} {new : List Instr} {rest : Multiset Instr}
  {c d : ParticipantId} {x : Choice}

variable {y : Client} {P : Multiset Instr}

theorem client_eq_of_insert (h : s'.clients = s.clients.insert c y) (d : ParticipantId) :
    s'.client d = if d = c then y else s.client d := by
  unfold State.client
  rw [h, GoMap.lookup_insert_eq]
  split_ifs
  · rfl
  · rfl

/-- A step of the connection `c`: what it does to the connections, with the instructions that come
next. -/
structure Moves (room : RoomId) (s : State) (c : ParticipantId) (s' : State)
    (new : List Instr) : Prop where
  others : ∀ d, d ≠ c → s'.client d = s.client d
  inside : (s'.stage c).inside = true → (s'.client c).roomID = room
  next : (new = [] ∧ (s'.stage c).busy = false) ∨
    ∃ j : Instr, new = [j] ∧ j.client = c ∧ j.stage = s'.stage c

/-- A step of the connection `c` that leaves it its identity. -/
structure Advance (room : RoomId) (s : State) (c : ParticipantId) (s' : State)
    (new : List Instr) : Prop extends Moves room s c s' new where
  subject : (s'.client c).subject = (s.client c).subject

theorem Moves.of_insert (hclients : s'.clients = s.clients.insert c y)
    (hinside : y.stage.inside = true → y.roomID = room)
    (hnext : (new = [] ∧ y.stage.busy = false) ∨
      ∃ j : Instr, new = [j] ∧ j.client = c ∧ j.stage = y.stage) :
    Moves room s c s' new := by
  have hself : s'.client c = y := by rw [client_eq_of_insert hclients, if_pos rfl]
  have hstage : s'.stage c = y.stage := congrArg Client.stage hself
  refine ⟨fun d hd => ?_, ?_, ?_⟩
  · rw [client_eq_of_insert hclients, if_neg hd]
  · rwa [hstage, hself]
  · rwa [hstage]

/-- The connection comes to another stage. -/
theorem Advance.move (hclients : s'.clients = s.clients.insert c y)
    (hsubject : y.subject = (s.client c).subject)
    (hinside : y.stage.inside = true → y.roomID = room)
    (hnext : (new = [] ∧ y.stage.busy = false) ∨
      ∃ j : Instr, new = [j] ∧ j.client = c ∧ j.stage = y.stage) :
    Advance room s c s' new := by
  refine ⟨.of_insert hclients hinside hnext, ?_⟩
  rw [client_eq_of_insert hclients, if_pos rfl, hsubject]

/-- The connection stays at its stage, and the handler goes on. -/
theorem Advance.stay (hclients : s'.clients = s.clients)
    (hinside : (s.stage c).inside = true → (s.client c).roomID = room)
    (hclient : j.client = c) (hstage : j.stage = s.stage c) : Advance room s c s' [j] := by
  have hsame (d : ParticipantId) : s'.client d = s.client d := by rw [State.client, hclients]; rfl
  have hstage' : s'.stage c = s.stage c := congrArg Client.stage (hsame c)
  refine ⟨⟨fun d _ => hsame d, ?_, .inr ⟨j, rfl, hclient, hstage.trans hstage'.symm⟩⟩,
    congrArg Client.subject (hsame c)⟩
  rw [hstage', hsame]
  exact hinside

/-- The connections are where their pending instructions say, one for each handler. -/
structure Placed (room : RoomId) (s : State) (P : Multiset Instr) : Prop where
  stage : ∀ i ∈ P, s.stage i.client = i.stage
  busy : ∀ c, tally (fun i => some i.client) c P = if (s.stage c).busy then 1 else 0
  inside : ∀ c, (s.stage c).inside = true → (s.client c).roomID = room
  named : ∀ c, s.stage c ≠ .absent → c ≠ ""

theorem Placed.logicalID_ne (h : Placed room s P) (hc : s.stage c ≠ .absent) :
    s.logicalID c ≠ "" := by
  unfold State.logicalID
  split_ifs with hsubject
  · exact h.named c hc
  · exact hsubject

theorem Moves.stage_eq (h : Moves room s c s' new) (hd : d ≠ c) : s'.stage d = s.stage d :=
  congrArg Client.stage (h.others d hd)

theorem Instr.stage_busy (i : Instr) : i.stage.busy = true := by cases i <;> rfl

theorem Instr.stage_ne_absent (i : Instr) : i.stage ≠ .absent := by cases i <;> exact nofun

/-- What an instruction does to the connections. -/
theorem exec_advance (hstage : s.stage i.client = i.stage)
    (hinside : (s.stage i.client).inside = true → (s.client i.client).roomID = room) :
    Advance room s i.client (exec room s i x).1 (exec room s i x).2 := by
  -- a connection that has joined keeps its room
  have hkeep (st : Stage) (hst : st.inside = true → i.stage.inside = true)
      (h : st.inside = true) : (s.client i.client).roomID = room :=
    hinside (by rw [hstage]; exact hst h)
  cases i with
  | handleJoin c resume =>
    simp only [exec]
    split_ifs
    · exact .move rfl rfl nofun (.inl ⟨rfl, rfl⟩)
    all_goals exact .stay rfl hinside rfl hstage.symm
  | openSession c resume =>
    simp only [exec]
    split
    · exact .move rfl rfl nofun (.inl ⟨rfl, rfl⟩)
    · exact .stay rfl hinside rfl hstage.symm
  | getOrCreate | removeParticipant | roomClosed | markRecovering =>
    exact .stay rfl hinside rfl hstage.symm
  | add c ref reconnected => exact .move rfl rfl (fun _ => rfl) (.inr ⟨_, rfl, rfl, rfl⟩)
  | joinSFU c ref reconnected =>
    simp only [exec]
    split_ifs
    · exact .stay rfl hinside rfl hstage.symm
    · exact .move rfl rfl nofun (.inl ⟨rfl, rfl⟩)
  | ensureRoom c reconnected =>
    exact .move rfl rfl (hkeep .ensured fun _ => rfl) (.inr ⟨_, rfl, rfl, rfl⟩)
  | participantJoined c reconnected =>
    exact .move rfl rfl (hkeep .recorded fun _ => rfl) (.inr ⟨_, rfl, rfl, rfl⟩)
  | announce c => exact .move rfl rfl (hkeep .joined fun _ => rfl) (.inl ⟨rfl, rfl⟩)
  | participantLeft c => exact .move rfl rfl nofun (.inr ⟨_, rfl, rfl, rfl⟩)
  | lookRoom c =>
    simp only [exec]
    split_ifs <;> exact .stay rfl hinside rfl hstage.symm
  | untrack c => exact .move rfl rfl nofun (.inl ⟨rfl, rfl⟩)

/-- Handlers stay in place when one connection advances, and `rest` is what was pending for the
others. -/
theorem Placed.advance (h : Placed room s P) (hmem : ∀ i ∈ rest, i ∈ P)
    (hothers : ∀ d, d ≠ c → tally (fun i => some i.client) d rest =
      tally (fun i => some i.client) d P)
    (hzero : tally (fun i => some i.client) c rest = 0) (hc : c ≠ "")
    (hadv : Moves room s c s' new) :
    Placed room s' (new + rest) := by
  refine ⟨fun i hi => ?_, fun d => ?_, fun d => ?_, fun d => ?_⟩
  · obtain hnew | hold := mem_new.1 hi
    · obtain ⟨rfl, -⟩ | ⟨j, rfl, hclient, hj⟩ := hadv.next
      · exact absurd hnew (notMem_zero i)
      · obtain rfl : i = j := List.mem_singleton.1 hnew
        rw [hclient, hj]
    · have hne : i.client ≠ c := fun heq => tally_eq_zero.1 hzero i hold (congrArg some heq)
      rw [hadv.stage_eq hne, h.stage i (hmem i hold)]
  · rw [tally_add]
    by_cases hd : d = c
    · subst hd
      rw [hzero, Nat.add_zero]
      obtain ⟨rfl, hbusy⟩ | ⟨j, rfl, hclient, hj⟩ := hadv.next
      · rw [hbusy, tally_coe_nil]
        rfl
      · rw [← hj, j.stage_busy, tally_coe_cons, tally_coe_nil, hclient, if_pos rfl, if_pos rfl]
    · rw [hadv.stage_eq hd, hothers d hd, ← h.busy d]
      obtain ⟨rfl, -⟩ | ⟨j, rfl, hclient, -⟩ := hadv.next
      · rw [tally_coe_nil, Nat.zero_add]
      · have hne : ¬ some j.client = some d := fun heq => hd (hclient ▸ some.inj heq).symm
        rw [tally_coe_cons, tally_coe_nil, if_neg hne, Nat.add_zero, Nat.zero_add]
  · by_cases hd : d = c
    · subst hd
      exact hadv.inside
    · rw [hadv.stage_eq hd, hadv.others d hd]
      exact h.inside d
  · by_cases hd : d = c
    · subst hd
      exact fun _ => hc
    · rw [hadv.stage_eq hd]
      exact h.named d

theorem placed_exec (h : Placed room s (i ::ₘ rest)) :
    Placed room (exec room s i x).1 ((exec room s i x).2 + rest) := by
  have hstage := h.stage i (mem_cons_self i rest)
  -- the handler has no other instruction pending
  have hzero : tally (fun i => some i.client) i.client rest = 0 := by
    have hbusy := h.busy i.client
    rw [tally_cons, if_pos rfl, hstage, i.stage_busy, if_pos rfl] at hbusy
    omega
  refine h.advance (fun j hj => mem_cons_of_mem hj) (fun d hd => ?_) hzero
    (h.named _ (hstage ▸ i.stage_ne_absent)) (exec_advance hstage (h.inside _)).toMoves
  rw [tally_cons, if_neg fun heq => hd (some.inj heq).symm, Nat.add_zero]

/-- A connection without a handler starts one. -/
theorem Placed.begin (h : Placed room s P) (hidle : (s.stage c).busy = false) (hc : c ≠ "")
    (hadv : Moves room s c s' new) : Placed room s' (new + P) := by
  refine h.advance (fun _ hi => hi) (fun _ _ => rfl) ?_ hc hadv
  rw [h.busy c, hidle]
  rfl

theorem stage_onClient (f : Client → Client) :
    (s.onClient c f).stage c = (f (s.client c)).stage := by
  have hclients : (s.onClient c f).clients = s.clients.insert c (f (s.client c)) := rfl
  rw [State.stage, client_eq_of_insert hclients, if_pos rfl]

theorem stage_move (st : Stage) : (s.move c st).stage c = st := stage_onClient _

/-- A connection whose stage has a property is another than one whose stage does not have it. -/
theorem ne_of_stage (f : Stage → Bool) (hc : s.stage c = st) (hst : f st = false)
    (hd : f (s.stage d) = true) : d ≠ c := by
  rintro rfl
  rw [hc, hst] at hd
  cases hd

end Handlers

/-! ## Presence -/

/-- The connections that are present are marked, and the marks have a connection that has still to
be reported as left. The connections that rely on the summary have one. -/
structure Shown (room : RoomId) (s : State) : Prop where
  isOpen : ∀ c, (s.stage c).entered = true → s.recorder.isOpen room = true
  shown : ∀ c, (s.stage c).present = true → s.recorder.connected room (s.logicalID c) = true
  owed : ∀ l, s.recorder.connected room l = true →
    ∃ c, s.logicalID c = l ∧ (s.stage c).counted = true

section Presence

variable {room : RoomId} {s s' : State} {i : Instr} {new : List Instr} {rest : Multiset Instr}
  {c d : ParticipantId} {x : Choice}

theorem Stage.counted_of_present (h : st.present = true) : st.counted = true := by
  cases st <;> first | rfl | cases h

theorem Stage.entered_of_present (h : st.present = true) : st.entered = true := by
  cases st <;> first | rfl | cases h

theorem Advance.logicalID_eq (h : Advance room s c s' new) (d : ParticipantId) :
    s'.logicalID d = s.logicalID d := by
  have hsubject : (s'.client d).subject = (s.client d).subject := by
    by_cases hd : d = c
    · rw [hd, h.subject]
    · rw [h.others d hd]
  rw [State.logicalID, State.logicalID, hsubject]

/-- The recorder is not called, and no connection enters or is reported. -/
theorem Shown.mono (h : Shown room s) (hrec : s'.recorder = s.recorder)
    (hid : ∀ d, (s.stage d).counted = true → s'.logicalID d = s.logicalID d)
    (hentered : ∀ d, (s'.stage d).entered = true → (s.stage d).entered = true)
    (hpresent : ∀ d, (s'.stage d).present = true → (s.stage d).present = true)
    (hcounted : ∀ d, (s.stage d).counted = true → (s'.stage d).counted = true) :
    Shown room s' := by
  refine ⟨fun d hd => ?_, fun d hd => ?_, fun l hl => ?_⟩
  · rw [hrec]
    exact h.isOpen d (hentered d hd)
  · rw [hrec, hid d (Stage.counted_of_present (hpresent d hd))]
    exact h.shown d (hpresent d hd)
  · obtain ⟨d, heq, hd⟩ := h.owed l (hrec ▸ hl)
    exact ⟨d, (hid d hd).trans heq, hcounted d hd⟩

/-- The same, with the stages of the one connection that moves. -/
theorem Shown.quiet (h : Shown room s) (hmoves : Moves room s c s' new)
    (hrec : s'.recorder = s.recorder)
    (hid : (s.stage c).counted = true → s'.logicalID c = s.logicalID c)
    (hbefore : s.stage c = before) (hafter : s'.stage c = after)
    (hentered : after.entered = true → before.entered = true)
    (hpresent : after.present = true → before.present = true)
    (hcounted : before.counted = true → after.counted = true) : Shown room s' := by
  subst hbefore hafter
  -- the other connections are as they were
  have hpoint (Q : Stage → Stage → Prop) (hrefl : ∀ st, Q st st)
      (hc : Q (s.stage c) (s'.stage c)) (d : ParticipantId) : Q (s.stage d) (s'.stage d) := by
    by_cases hdc : d = c
    · rwa [hdc]
    · rw [hmoves.stage_eq hdc]
      exact hrefl _
  refine h.mono hrec (fun d hd => ?_)
    (hpoint (fun a b => b.entered = true → a.entered = true) (fun _ => id) hentered)
    (hpoint (fun a b => b.present = true → a.present = true) (fun _ => id) hpresent)
    (hpoint (fun a b => a.counted = true → b.counted = true) (fun _ => id) hcounted)
  by_cases hdc : d = c
  · subst hdc
    exact hid hd
  · rw [State.logicalID, hmoves.others d hdc]
    rfl

theorem Shown.advance (h : Shown room s) (hadv : Advance room s c s' new)
    (hrec : s'.recorder = s.recorder) (hbefore : s.stage c = before)
    (hafter : s'.stage c = after) (hentered : after.entered = true → before.entered = true)
    (hpresent : after.present = true → before.present = true)
    (hcounted : before.counted = true → after.counted = true) : Shown room s' :=
  h.quiet hadv.toMoves hrec (fun _ => hadv.logicalID_eq c) hbefore hafter hentered hpresent hcounted

/-- What is owed by another connection than the one that moves. -/
theorem Shown.still_owed {l : String} (h : Shown room s) (hadv : Advance room s c s' new)
    (hbefore : (s.stage c).counted = false) (hl : s.recorder.connected room l = true) :
    ∃ d, s'.logicalID d = l ∧ (s'.stage d).counted = true := by
  obtain ⟨d, hid, hd⟩ := h.owed l hl
  have hdc : d ≠ c := ne_of_stage Stage.counted rfl hbefore hd
  exact ⟨d, (hadv.logicalID_eq d).trans hid, (hadv.stage_eq hdc).symm ▸ hd⟩

/-- `EnsureRoom` opens a summary without marks, or leaves the one there is. -/
theorem Shown.ensureRoom (hroom : room ≠ "") (h : Shown room s) (hadv : Advance room s c s' new)
    (hrec : s'.recorder = s.recorder.ensureRoom x.now x.started x.failed room)
    (hbefore : s.stage c = .added) (hafter : s'.stage c = .ensured) : Shown room s' := by
  refine ⟨fun d _ => ?_, fun d hd => ?_, fun l hl => ?_⟩
  · rw [hrec, Recorder.isOpen_ensureRoom hroom]
  · have hdc : d ≠ c := ne_of_stage Stage.present hafter rfl hd
    rw [hrec, Recorder.connected_ensureRoom, hadv.logicalID_eq]
    exact h.shown d (hadv.stage_eq hdc ▸ hd)
  · rw [hrec, Recorder.connected_ensureRoom] at hl
    exact h.still_owed hadv (by rw [hbefore]; rfl) hl

/-- `ParticipantJoined` marks the participant. -/
theorem Shown.participantJoined {name : String} {reconnect : Bool} (hroom : room ≠ "")
    (hid : s.logicalID c ≠ "") (h : Shown room s) (hadv : Advance room s c s' new)
    (hrec : s'.recorder = s.recorder.participantJoined x.now room (s.logicalID c) name reconnect)
    (hbefore : s.stage c = .ensured) (hafter : s'.stage c = .recorded) : Shown room s' := by
  have hopen : s.recorder.isOpen room = true := h.isOpen c (by rw [hbefore]; rfl)
  have hconn (l : String) : s'.recorder.connected room l =
      (decide (l = s.logicalID c) || s.recorder.connected room l) := by
    rw [hrec, Recorder.connected_participantJoined hroom hid hopen]
  refine ⟨fun d _ => ?_, fun d hd => ?_, fun l hl => ?_⟩
  · rw [hrec, Recorder.isOpen_participantJoined, hopen]
  · rw [hconn, hadv.logicalID_eq]
    by_cases hdc : d = c
    · rw [hdc, decide_eq_true rfl, Bool.true_or]
    · rw [h.shown d (hadv.stage_eq hdc ▸ hd), Bool.or_true]
  · rw [hconn, Bool.or_eq_true, decide_eq_true_eq] at hl
    obtain rfl | hl := hl
    · exact ⟨c, hadv.logicalID_eq c, by rw [hafter]; rfl⟩
    · exact h.still_owed hadv (by rw [hbefore]; rfl) hl

/-- `ParticipantLeft` takes the mark, which no connection needs that is present. -/
theorem Shown.participantLeft (hroom : room ≠ "") (hid : s.logicalID c ≠ "") (h : Shown room s)
    (hadv : Advance room s c s' new)
    (hrec : s'.recorder = s.recorder.participantLeft x.now room (s.logicalID c))
    (hafter : s'.stage c = .left)
    (hlast : ∀ d, d ≠ c → s.logicalID d = s.logicalID c → (s.stage d).present = false) :
    Shown room s' := by
  have hconn (l : String) : s'.recorder.connected room l =
      (!decide (l = s.logicalID c) && s.recorder.connected room l) := by
    rw [hrec, Recorder.connected_participantLeft hroom hid]
  refine ⟨fun d hd => ?_, fun d hd => ?_, fun l hl => ?_⟩
  · have hdc : d ≠ c := ne_of_stage Stage.entered hafter rfl hd
    rw [hrec, Recorder.isOpen_participantLeft]
    exact h.isOpen d (hadv.stage_eq hdc ▸ hd)
  · have hdc : d ≠ c := ne_of_stage Stage.present hafter rfl hd
    have hpresent : (s.stage d).present = true := hadv.stage_eq hdc ▸ hd
    have hne : s.logicalID d ≠ s.logicalID c := fun heq =>
      Bool.false_ne_true ((hlast d hdc heq).symm.trans hpresent)
    rw [hconn, hadv.logicalID_eq, decide_eq_false hne, h.shown d hpresent]
    rfl
  · rw [hconn, Bool.and_eq_true, Bool.not_eq_true', decide_eq_false_iff_not] at hl
    obtain ⟨d, rfl, hd⟩ := h.owed l hl.2
    have hdc : d ≠ c := fun heq => hl.1 (congrArg s.logicalID heq)
    exact ⟨d, hadv.logicalID_eq d, (hadv.stage_eq hdc).symm ▸ hd⟩

/-- `RoomClosed` takes the summary, which no connection relies on. -/
theorem Shown.roomClosed (hroom : room ≠ "")
    (hrec : s'.recorder = s.recorder.roomClosed x.now x.started x.failed room)
    (hnone : ∀ d, (s'.stage d).entered = false) : Shown room s' := by
  have hclosed : s'.recorder.isOpen room = false := by
    rw [hrec, Recorder.isOpen_roomClosed hroom]
  refine ⟨fun d hd => ?_, fun d hd => ?_, fun l hl => ?_⟩
  · exact absurd ((hnone d).symm.trans hd) Bool.false_ne_true
  · exact absurd ((hnone d).symm.trans (Stage.entered_of_present hd)) Bool.false_ne_true
  · exact absurd (hclosed.symm.trans (Recorder.isOpen_of_connected hl)) Bool.false_ne_true

end Presence

/-! ## Runs -/

/-- The condition on a step: a participant is reported as left once it has no other connection that
was reported as joined and has not begun to leave, and a summary is closed once no connection has
come to `EnsureRoom` without having begun to leave. -/
def Last (s : State) (i : Instr) : Prop :=
  match i with
  | .participantLeft c =>
    ∀ d ∈ s.clients.keys, d ≠ c → s.logicalID d = s.logicalID c → (s.stage d).present = false
  | .roomClosed _ => ∀ d ∈ s.clients.keys, (s.stage d).entered = false
  | _ => True

instance (s : State) (i : Instr) : Decidable (Last s i) := by
  unfold Last
  split <;> infer_instance

section Runs

variable {room : RoomId} {s s' : State} {i : Instr} {new : List Instr} {rest : Multiset Instr}
  {P : Multiset Instr} {c d : ParticipantId} {x : Choice}

/-- There is no connection under an id that is not tracked. -/
theorem stage_of_notMem (h : d ∉ s.clients.keys) : s.stage d = .absent := by
  rw [Finmap.mem_keys, Finmap.mem_iff, not_exists] at h
  rw [State.stage, State.client, eq_none_iff_forall_ne_some.2 h]
  rfl

theorem shown_exec (hroom : room ≠ "") (hplaced : Placed room s (i ::ₘ rest)) (h : Shown room s)
    (hlast : Last s i) : Shown room (exec room s i x).1 := by
  have hstage := hplaced.stage i (mem_cons_self i rest)
  have hadv := exec_advance (x := x) hstage (hplaced.inside _)
  have hid : s.logicalID i.client ≠ "" := hplaced.logicalID_ne (hstage ▸ i.stage_ne_absent)
  cases i with
  | handleJoin c resume =>
    simp only [exec] at hadv ⊢
    split_ifs at hadv ⊢
    · exact h.advance hadv rfl hstage (stage_move _) nofun nofun nofun
    · exact h
    · exact h
  | openSession c resume =>
    simp only [exec] at hadv ⊢
    split at hadv
    · exact h.advance hadv rfl hstage (stage_move _) nofun nofun nofun
    · exact h.advance hadv rfl hstage hstage id id id
  | getOrCreate | removeParticipant | markRecovering =>
    exact h.advance hadv rfl hstage hstage id id id
  | add c ref reconnected =>
    exact h.advance hadv rfl hstage (stage_onClient _) nofun nofun nofun
  | joinSFU c ref reconnected =>
    simp only [exec] at hadv ⊢
    split_ifs at hadv ⊢
    · exact h
    · exact h.advance hadv rfl hstage (stage_onClient _) nofun nofun nofun
  | ensureRoom c reconnected => exact h.ensureRoom hroom hadv rfl hstage (stage_move _)
  | participantJoined c reconnected =>
    exact h.participantJoined hroom hid hadv rfl hstage (stage_move _)
  | announce c =>
    exact h.advance hadv rfl hstage (stage_move _) (fun _ => rfl) (fun _ => rfl) fun _ => rfl
  | participantLeft c =>
    refine h.participantLeft hroom hid hadv rfl (stage_move _) fun d hd heq => ?_
    by_cases hmem : d ∈ s.clients.keys
    · exact hlast d hmem hd heq
    · rw [stage_of_notMem hmem]
      rfl
  | lookRoom c => exact h
  | roomClosed c =>
    refine Shown.roomClosed (s := s) hroom rfl fun d => ?_
    by_cases hmem : d ∈ s.clients.keys
    · exact hlast d hmem
    · rw [show (exec room s (.roomClosed c) x).1.stage d = .absent from stage_of_notMem hmem]
      rfl
  | untrack c => exact h.advance hadv rfl hstage (stage_move _) nofun nofun nofun

/-- The condition is exact: the step that does not meet it takes a mark, or the summary, from a
connection that is still there. -/
theorem shown_exec_iff (hroom : room ≠ "") (hplaced : Placed room s (i ::ₘ rest))
    (h : Shown room s) : Shown room (exec room s i x).1 ↔ Last s i := by
  refine ⟨fun hafter => ?_, shown_exec hroom hplaced h⟩
  have hstage := hplaced.stage i (mem_cons_self i rest)
  have hadv := exec_advance (x := x) hstage (hplaced.inside _)
  cases i with
  | participantLeft c =>
    intro d _ hdc heq
    by_contra hpresent
    have hid : s.logicalID c ≠ "" := hplaced.logicalID_ne (hstage ▸ nofun)
    have hmark := hafter.shown d (by rw [hadv.stage_eq hdc]; exact Bool.of_not_eq_false hpresent)
    rw [hadv.logicalID_eq, heq] at hmark
    have hgone : (exec room s (.participantLeft c) x).1.recorder.connected room
        (s.logicalID c) = (!decide (s.logicalID c = s.logicalID c) &&
          s.recorder.connected room (s.logicalID c)) :=
      Recorder.connected_participantLeft hroom hid _
    rw [hmark, decide_eq_true rfl] at hgone
    cases hgone
  | roomClosed c =>
    intro d _
    by_contra hentered
    have hopen := hafter.isOpen d (Bool.of_not_eq_false hentered)
    exact Bool.false_ne_true ((Recorder.isOpen_roomClosed hroom).symm.trans hopen)
  | handleJoin | openSession | getOrCreate | add | joinSFU | ensureRoom | participantJoined
  | announce | removeParticipant | lookRoom | markRecovering | untrack => trivial

/-- The invariant: handlers are in place, and marks are right up to the handlers that run. -/
structure Follows (room : RoomId) (s : State) (P : Multiset Instr) : Prop where
  placed : Placed room s P
  shown : Shown room s

theorem follows_exec (hroom : room ≠ "") (h : Follows room s (i ::ₘ rest)) (hlast : Last s i) :
    Follows room (exec room s i x).1 ((exec room s i x).2 + rest) :=
  ⟨placed_exec h.placed, shown_exec hroom h.placed h.shown hlast⟩

/-- A connection without a handler starts one, which is not yet in the room or leaves it. -/
theorem Follows.begin {j : Instr} (h : Follows room s P)
    (hbefore : s.stage c = before) (hidle : before.busy = false) (hhere : before ≠ .absent)
    (hj : j.client = c ∧ j.stage = after)
    (hout : (after.inside || after.entered || after.present) = false)
    (hcounted : before.counted = true → after.counted = true) :
    Follows room (s.move c after) ([j] + P) := by
  simp only [Bool.or_eq_false_iff] at hout
  have hadv : Advance room s c (s.move c after) [j] :=
    .move rfl rfl (by simp [hout.1.1]) (.inr ⟨j, rfl, hj⟩)
  exact ⟨h.placed.begin (hbefore ▸ hidle) (h.placed.named c (hbefore ▸ hhere)) hadv.toMoves,
    h.shown.advance hadv rfl hbefore (stage_move _) (by simp [hout.1.2]) (by simp [hout.2])
      hcounted⟩

theorem follows_launch (hroom : room ≠ "") (h : Follows room s P) {op : Op}
    (hlaunch : launch s op = some (s', new)) : Follows room s' (new + P) := by
  cases op with
  | connect c subject name =>
    simp only [launch] at hlaunch
    split_ifs at hlaunch with hc
    cases hlaunch
    have hmoves : Moves room s c (s.onClient c fun y =>
        { y with subject := subject, name := name, stage := .connected }) [] :=
      .of_insert rfl nofun (.inl ⟨rfl, rfl⟩)
    refine ⟨h.placed.begin (by rw [hc.2]; rfl) hc.1 hmoves, ?_⟩
    refine h.shown.quiet hmoves rfl ?_ hc.2 (stage_onClient _) nofun nofun nofun
    intro hcounted
    rw [hc.2] at hcounted
    cases hcounted
  | join c resume =>
    simp only [launch] at hlaunch
    split_ifs at hlaunch with hconn hjoined
    · cases hlaunch
      exact h.begin hconn rfl nofun ⟨rfl, rfl⟩ rfl nofun
    · cases hlaunch
      rwa [coe_nil, zero_add]
  | disconnect c =>
    simp only [launch] at hlaunch
    split_ifs at hlaunch with hc hempty
    · cases hlaunch
      -- a connection that has joined has a room
      have hconn : s.stage c = .connected := by
        refine hc.resolve_right fun hjoined => hroom ?_
        rw [← hempty, h.placed.inside c (by rw [hjoined]; rfl)]
      exact h.begin hconn rfl nofun ⟨rfl, rfl⟩ rfl nofun
    · cases hlaunch
      obtain hc | hc := hc
      · exact h.begin hc rfl nofun ⟨rfl, rfl⟩ rfl nofun
      · exact h.begin hc rfl nofun ⟨rfl, rfl⟩ rfl fun _ => rfl
  | sweep timeout now order =>
    cases hlaunch
    rw [coe_nil, zero_add]
    exact ⟨⟨h.placed.stage, h.placed.busy, h.placed.inside, h.placed.named⟩,
      ⟨h.shown.isOpen, h.shown.shown, h.shown.owed⟩⟩

theorem start_follows (nodeID : NodeId) (recovery : Bool) :
    Follows room (start nodeID recovery).shared (start nodeID recovery).pending where
  placed := ⟨nofun, fun _ => rfl, nofun, fun _ h => absurd rfl h⟩
  shown := ⟨nofun, nofun, nofun⟩

theorem run_follows (hroom : room ≠ "") {nodeID : NodeId} {recovery : Bool}
    {as : List (Pool.Act Op Choice)} {p : Pool State Instr}
    (hlast : Along (step room) (Pool.Meets (fun _ _ _ => True) fun s _ i _ => Last s i)
      (start nodeID recovery) as)
    (hrun : run (step room) (start nodeID recovery) as = some p) :
    Follows room p.shared p.pending := by
  refine Pool.run_inv ?_ ?_ (start_follows nodeID recovery) hlast hrun
  · intro s P op s' code h _ hlaunch
    exact follows_launch hroom h hlaunch
  · intro s i rest x s' new h hi hexec
    obtain ⟨rfl, rfl⟩ := Prod.mk.inj (some.inj hexec)
    exact follows_exec hroom h hi

/-- **The mark follows presence**: in every run in which a participant is reported as left only by
the last of its connections, and a summary is closed only once nobody is in the room, a participant
none of whose handlers is running is marked connected if and only if one of its connections has
completed `handleJoin` and not begun `disconnect`. -/
theorem history_follows_presence (hroom : room ≠ "") {nodeID : NodeId} {recovery : Bool}
    {as : List (Pool.Act Op Choice)} {p : Pool State Instr}
    (hlast : Along (step room) (Pool.Meets (fun _ _ _ => True) fun s _ i _ => Last s i)
      (start nodeID recovery) as)
    (hrun : run (step room) (start nodeID recovery) as = some p) {l : String}
    (hdone : ∀ i ∈ p.pending, p.shared.logicalID i.client ≠ l) :
    p.shared.recorder.connected room l = true ↔
      ∃ c, p.shared.logicalID c = l ∧ p.shared.stage c = .joined := by
  have h := run_follows hroom hlast hrun
  constructor
  · intro hconn
    obtain ⟨c, hid, hcounted⟩ := h.shown.owed l hconn
    refine ⟨c, hid, ?_⟩
    -- the other stages in which a connection is counted have a handler
    have hbusy : (p.shared.stage c).busy = false := by
      by_contra hbusy
      have htally := h.placed.busy c
      rw [if_pos (by simpa using hbusy)] at htally
      obtain ⟨i, hi, hic⟩ := tally_pos.1 (htally ▸ Nat.one_pos)
      exact hdone i hi (some.inj hic ▸ hid)
    cases hstage : p.shared.stage c with
    | joined => rfl
    | recorded | leaving => simp [hstage, Stage.busy] at hbusy
    | absent | connected | joining | added | ensured | left | gone =>
      simp [hstage, Stage.counted] at hcounted
  · rintro ⟨c, rfl, hjoined⟩
    exact h.shown.shown c (by rw [hjoined]; rfl)

end Runs

/-! ## Two connections of one participant -/

/-- The handler `i` executes its next `n` instructions. -/
def resumes (i n : ℕ) : List (Pool.Act Op Choice) := List.replicate n (.resume i {})

/-- One participant joins, leaves and joins again, and another one stays in the room. -/
def rejoined : List (Pool.Act Op Choice) :=
  [.start (.connect "a1" "alice" "Alice"), .start (.connect "b1" "bob" "Bob")] ++
    .start (.join "a1" none) :: resumes 2 8 ++ .start (.join "b1" none) :: resumes 3 8 ++
    .start (.disconnect "a1") :: resumes 4 5 ++
    .start (.connect "a2" "alice" "Alice") :: .start (.join "a2" none) :: resumes 6 8

theorem history_follows_presence_rejoined :
    ∃ p ∈ run (step "room") (start "node" true) rejoined, p.Idle ∧
      p.shared.stage "a1" = .gone ∧ p.shared.recorder.isOpen "room" = true ∧
      (p.shared.recorder.connected "room" "alice" = true ↔
        ∃ c, p.shared.logicalID c = "alice" ∧ p.shared.stage c = .joined) := by
  obtain ⟨p, hrun, hidle, hgone, hopen⟩ :
      ∃ p ∈ run (step "room") (start "node" true) rejoined, p.Idle ∧
        p.shared.stage "a1" = .gone ∧ p.shared.recorder.isOpen "room" = true := by
    decide +kernel
  refine ⟨p, hrun, hidle, hgone, hopen,
    history_follows_presence (by decide) (by decide +kernel) hrun ?_⟩
  rw [hidle.pending_eq]
  exact nofun

/-- A participant joins in two tabs and closes the first: it is marked as not connected, with the
second tab in the room. -/
theorem second_tab_hidden :
    ∃ p ∈ run (step "room") (start "node" true)
        ([.start (.connect "t1" "alice" "Alice"), .start (.connect "t2" "alice" "Alice")] ++
          .start (.join "t1" none) :: resumes 2 8 ++ .start (.join "t2" none) :: resumes 3 8 ++
          .start (.disconnect "t1") :: resumes 4 5),
      p.Idle ∧ p.shared.recorder.isOpen "room" = true ∧ p.shared.stage "t2" = .joined ∧
        p.shared.logicalID "t2" = "alice" ∧
        p.shared.recorder.connected "room" "alice" = false := by
  decide +kernel

end PulseRTC.Signaling.CallHistory
