import PulseRTC.Cluster.Node
import PulseRTC.Foundations.GoMap
import PulseRTC.Foundations.Goroutines

/-!
# The connections of a cluster

The WebSocket connections of the nodes of a cluster: joining a room, forwarding a frame to another
participant, and disconnecting. A connection is served by its read pump, which handles one message
after another and disconnects at the end; `participant.disconnect` messages of other nodes
disconnect it in a goroutine of their own. Every critical section is an instruction.

* `exec` is what the instructions do, `launch` what the environment can start; `Does` and `Starts`
  list the outcomes.

Whether a join is authorized, the room claimed and the session opened is the answer of the
environment to `handleJoin`, as is whether the SFU can create the peer connection. What
`LocateParticipant` finds is some record that a node has registered, and a message that was routed
may arrive at any node, at any time and any number of times. A session takeover, `CloseRoom`, the
expiry of a token and the end of the write pump close the socket.
-/

namespace PulseRTC.Signaling.Connections

open Foundations Cluster Multiset Option

/-- References to rooms. -/
abbrev RoomRef := ℕ

/-! ## Objects -/

/-- `ForwardedMessage`. -/
structure Frame where
  type : String
  sender : ParticipantId
  target : ParticipantId
  payload : String
  deriving DecidableEq

/-- The read pump waits for a message, handles one, or has ended. -/
inductive Pump
  | reading
  | handling
  | ended
  deriving DecidableEq

/-- `Client`. `closed` says that its send channel is closed, `been` are the rooms it has been added
to. -/
structure Client where
  node : NodeId := ""
  roomID : RoomId := ""
  closed : Bool := false
  socket : Bool := true
  pump : Pump := .reading
  inbox : List Frame := []
  replies : List String := []
  been : List RoomId := []
  deriving DecidableEq

structure Room where
  id : RoomId := ""
  participants : Finset ParticipantId := ∅

/-- `ParticipantLocation`. -/
structure Location where
  participantID : ParticipantId
  roomID : RoomId
  nodeID : NodeId
  deriving DecidableEq

/-- A `ClusterMessage` of the type `participant.message`. -/
structure Message where
  roomID : RoomId
  participantID : ParticipantId
  payload : Frame
  deriving DecidableEq

/-- What `disconnect` does on behalf of a connection that was in a room. -/
inductive Farewell
  /-- The broadcast of `participant_left` in the local room. -/
  | broadcast
  /-- The room event for the other nodes. -/
  | roomEvent
  /-- The call of `history.ParticipantLeft`. -/
  | history
  /-- The event `participant.left` of the hook. -/
  | hook
  deriving DecidableEq

/-- The connections and rooms of the cluster. `registered` are the locations and `routed` the
messages there have been; `forwards` notes the client, its room and the frame for every call of
`handleForward` that gets as far as looking for the target. -/
structure State where
  connected : Finset ParticipantId := ∅
  clients : ParticipantId → Client := fun _ => {}
  rooms : NodeId → GoMap RoomId RoomRef := fun _ => ∅
  objects : RoomRef → Room := fun _ => {}
  nextRoom : RoomRef := 0
  index : NodeId → Finset ParticipantId := fun _ => ∅
  registered : List Location := []
  routed : List Message := []
  forwards : List (ParticipantId × RoomId × Frame) := []
  farewells : List (Farewell × ParticipantId) := []

/-! ## Instructions -/

/-- Who calls `disconnect`: the read pump, or a `participant.disconnect` message. -/
inductive Caller
  | readPump
  | message
  deriving DecidableEq

/-- One critical section. -/
inductive Instr
  | handleJoin (c : ParticipantId) (room : RoomId)
  | getOrCreate (c : ParticipantId) (room : RoomId)
  | add (c : ParticipantId) (room : RoomId) (ref : RoomRef)
  | setRoom (c : ParticipantId) (room : RoomId) (ref : RoomRef)
  | track (c : ParticipantId) (room : RoomId) (ref : RoomRef)
  /-- `JoinWithPermissions`. -/
  | attach (c : ParticipantId) (room : RoomId) (ref : RoomRef)
  /-- `r.Remove` and `c.setRoom("")`, when the SFU has failed. -/
  | remove (c : ParticipantId) (ref : RoomRef)
  | unsetRoom (c : ParticipantId)
  | register (c : ParticipantId) (room : RoomId)
  /-- The handler returns to the read pump. -/
  | ready (c : ParticipantId)
  | handleForward (c : ParticipantId) (type : String) (target : ParticipantId) (payload : String)
  /-- `rooms.Get` of `handleForward`. -/
  | findRoom (c : ParticipantId) (room : RoomId) (frame : Frame)
  /-- `r.Get` of `handleForward`. -/
  | findTarget (c : ParticipantId) (room : RoomId) (ref : RoomRef) (frame : Frame)
  /-- `LocateParticipant`, and `RouteMessage`. -/
  | locate (c : ParticipantId) (room : RoomId) (frame : Frame)
  | deliver (node : NodeId) (msg : Message)
  /-- A frame that was forwarded in the room `room` is handed to the `Send` of a client. -/
  | send (c : ParticipantId) (room : RoomId) (frame : Frame)
  | disconnect (c : ParticipantId) (caller : Caller)
  /-- `rooms.Get` of `disconnect`. -/
  | leave (c : ParticipantId) (room : RoomId)
  | farewell (kind : Farewell) (c : ParticipantId) (room : RoomId)
  | removeParticipant (c : ParticipantId) (room : RoomId)
  | untrack (c : ParticipantId)
  | closeSend (c : ParticipantId)
  deriving DecidableEq

/-- What the environment decides. -/
structure Choice where
  /-- The join is authorized, the room claimed and the session opened. -/
  admitted : Bool := true
  /-- The SFU can create the peer connection. -/
  attached : Bool := true
  /-- The node belongs to a cluster. -/
  enabled : Bool := true
  /-- What `LocateParticipant` finds. -/
  location : Option Location := none
  /-- The buffer of the client is full. -/
  full : Bool := false
  deriving DecidableEq

namespace State

variable (s : State)

/-- The client `c` changes. -/
@[simp] def onClient (c : ParticipantId) (f : Client → Client) : State :=
  { s with clients := Function.update s.clients c (f (s.clients c)) }

/-- The room `ref` changes. -/
def onRoom (ref : RoomRef) (f : Room → Room) : State :=
  { s with objects := Function.update s.objects ref (f (s.objects ref)) }

/-- `newRoom`, in the manager of a node. -/
def newRoom (node : NodeId) (room : RoomId) : State :=
  { s with
    rooms := Function.update s.rooms node ((s.rooms node).insert room s.nextRoom)
    objects := Function.update s.objects s.nextRoom { id := room }
    nextRoom := s.nextRoom + 1 }

/-- An error is sent to the client. -/
def reply (c : ParticipantId) (text : String) : State :=
  s.onClient c fun x => { x with replies := x.replies ++ [text] }

/-- The room that the manager of the client's node maps the id to. -/
def getRoom (c : ParticipantId) (room : RoomId) : Option RoomRef :=
  (s.rooms (s.clients c).node).lookup room

/-! ## What the instructions do -/

/-- `handleJoin` up to `GetOrCreate`. -/
def handleJoin (c : ParticipantId) (room : RoomId) (x : Choice) : State × List Instr :=
  if room = "" then (s.reply c "join requires a non-empty roomId", [.ready c])
  else if (s.clients c).roomID ≠ "" then
    (s.reply c "already joined a room; open a new connection to join another", [.ready c])
  else if x.admitted then (s, [.getOrCreate c room])
  else (s, [.ready c])

/-- `Manager.GetOrCreate`. -/
def getOrCreate (c : ParticipantId) (room : RoomId) : State × List Instr :=
  match s.getRoom c room with
  | some ref => (s, [.add c room ref])
  | none => (s.newRoom (s.clients c).node room, [.add c room s.nextRoom])

def add (c : ParticipantId) (ref : RoomRef) : State :=
  (s.onRoom ref fun x => { x with participants := insert c x.participants }).onClient c
    fun x => { x with been := (s.objects ref).id :: x.been }

/-- `trackClient`. -/
def track (c : ParticipantId) : State :=
  let node := (s.clients c).node
  { s with index := Function.update s.index node (insert c (s.index node)) }

/-- `JoinWithPermissions`. -/
def attach (c : ParticipantId) (room : RoomId) (ref : RoomRef) (x : Choice) : State × List Instr :=
  if x.attached then (s, [.register c room])
  else (s.reply c "could not attach to the media server", [.remove c ref])

/-- `RegisterParticipant`. -/
def register (c : ParticipantId) (room : RoomId) : State :=
  { s with registered := ⟨c, room, (s.clients c).node⟩ :: s.registered }

/-- `handleForward` up to `rooms.Get`. -/
def handleForward (c : ParticipantId) (type : String) (target : ParticipantId)
    (payload : String) : State × List Instr :=
  let room := (s.clients c).roomID
  if room = "" then
    (s.reply c ("join a room before sending " ++ type ++ " messages"), [.ready c])
  else if target = "" then (s.reply c (type ++ " requires a target participant id"), [.ready c])
  else if target = c then (s.reply c ("cannot send " ++ type ++ " to yourself"), [.ready c])
  else if payload = "" then (s.reply c (type ++ " requires a payload"), [.ready c])
  else
    let frame : Frame := ⟨type, c, target, payload⟩
    ({ s with forwards := (c, room, frame) :: s.forwards }, [.findRoom c room frame])

/-- `rooms.Get` of `handleForward`. -/
def findRoom (c : ParticipantId) (room : RoomId) (frame : Frame) : State × List Instr :=
  match s.getRoom c room with
  | none => (s.reply c "your room no longer exists", [.ready c])
  | some ref => (s, [.findTarget c room ref frame])

/-- `r.Get` of `handleForward`. -/
def findTarget (c : ParticipantId) (room : RoomId) (ref : RoomRef) (frame : Frame) (x : Choice) :
    State × List Instr :=
  if frame.target ∈ (s.objects ref).participants then
    (s, [.send frame.target room frame, .ready c])
  else if x.enabled then (s, [.locate c room frame])
  else (s.reply c "target participant is not in your room", [.ready c])

/-- `handleForward` to another node. The location that is found is one that was registered for the
target. -/
def locate (c : ParticipantId) (room : RoomId) (frame : Frame) (x : Choice) :
    Option (State × List Instr) :=
  match x.location with
  | none => some (s.reply c "target participant is not in your room", [.ready c])
  | some loc =>
    if loc ∉ s.registered ∨ loc.participantID ≠ frame.target then none
    else if loc.roomID ≠ room then
      some (s.reply c "target participant is not in your room", [.ready c])
    else some ({ s with routed := ⟨room, frame.target, frame⟩ :: s.routed }, [.ready c])

/-- `DeliverToParticipant` of a `participant.message`. -/
def deliver (node : NodeId) (msg : Message) : List Instr :=
  if msg.participantID ∈ s.index node then [.send msg.participantID msg.roomID msg.payload] else []

/-- `Client.Send`. -/
def send (c : ParticipantId) (frame : Frame) (x : Choice) : State :=
  if (s.clients c).closed then s
  else if x.full then s.onClient c fun client => { client with closed := true }
  else s.onClient c fun client => { client with inbox := client.inbox ++ [frame] }

/-- `disconnect` reads the room of the client. -/
def disconnect (c : ParticipantId) : List Instr :=
  if (s.clients c).roomID = "" then [.untrack c] else [.leave c (s.clients c).roomID]

/-- `disconnect` tells the room, if there is one. -/
def leave (c : ParticipantId) (room : RoomId) : List Instr :=
  match s.getRoom c room with
  | some _ => [.farewell .broadcast c room]
  | none => [.removeParticipant c room]

/-- `Manager.RemoveParticipant`. -/
def removeParticipant (c : ParticipantId) (room : RoomId) : State :=
  match s.getRoom c room with
  | none => s
  | some ref =>
    let s' := s.onRoom ref fun x => { x with participants := x.participants.erase c }
    if (s'.objects ref).participants = ∅ then
      let node := (s.clients c).node
      { s' with rooms := Function.update s.rooms node ((s.rooms node).erase room) }
    else s'

/-- `untrackClient`. -/
def untrack (c : ParticipantId) : State :=
  let node := (s.clients c).node
  { s with index := Function.update s.index node ((s.index node).erase c) }

end State

/-- What comes after a farewell. -/
def Farewell.next (c : ParticipantId) (room : RoomId) : Farewell → Instr
  | .broadcast => .farewell .roomEvent c room
  | .roomEvent => .removeParticipant c room
  | .history => .farewell .hook c room
  | .hook => .untrack c

/-- One instruction. -/
def exec (s : State) : Instr → Choice → Option (State × List Instr)
  | .handleJoin c room, x => some (s.handleJoin c room x)
  | .getOrCreate c room, _ => some (s.getOrCreate c room)
  | .add c room ref, _ => some (s.add c ref, [.setRoom c room ref])
  | .setRoom c room ref, _ =>
    some (s.onClient c fun x => { x with roomID := room }, [.track c room ref])
  | .track c room ref, _ => some (s.track c, [.attach c room ref])
  | .attach c room ref, x => some (s.attach c room ref x)
  | .remove c ref, _ =>
    some (s.onRoom ref fun x => { x with participants := x.participants.erase c }, [.unsetRoom c])
  | .unsetRoom c, _ => some (s.onClient c fun x => { x with roomID := "" }, [.ready c])
  | .register c room, _ => some (s.register c room, [.ready c])
  | .ready c, _ => some (s.onClient c fun x => { x with pump := .reading }, [])
  | .handleForward c type target payload, _ => some (s.handleForward c type target payload)
  | .findRoom c room frame, _ => some (s.findRoom c room frame)
  | .findTarget c room ref frame, x => some (s.findTarget c room ref frame x)
  | .locate c room frame, x => s.locate c room frame x
  | .deliver node msg, _ => some (s, s.deliver node msg)
  | .send c _ frame, x => some (s.send c frame x, [])
  | .disconnect c _, _ => some (s, s.disconnect c)
  | .leave c room, _ => some (s, s.leave c room)
  | .farewell kind c room, _ =>
    some ({ s with farewells := (kind, c) :: s.farewells }, [kind.next c room])
  | .removeParticipant c room, _ =>
    some (s.removeParticipant c room, [.farewell .history c room])
  | .untrack c, _ => some (s.untrack c, [.closeSend c])
  | .closeSend c, _ => some (s.onClient c fun x => { x with closed := true }, [])

/-! ### Outcomes -/

/-- The client that an error of the instruction is sent to. -/
def Instr.replies : Instr → Option ParticipantId
  | .handleJoin c _ | .handleForward c _ _ _ | .findRoom c _ _ | .findTarget c _ _ _
  | .locate c _ _ => some c
  | _ => none

/-- What an instruction can do. -/
inductive Does (s : State) : Instr → State → List Instr → Prop
  | refused {i : Instr} {c : ParticipantId} (h : i.replies = some c) (text : String) :
    Does s i (s.reply c text) [.ready c]
  | notAdmitted (c room) : Does s (.handleJoin c room) s [.ready c]
  | admitted (c room) (hroom : room ≠ "") (hfree : (s.clients c).roomID = "") :
    Does s (.handleJoin c room) s [.getOrCreate c room]
  | foundRoom (c room ref) (h : s.getRoom c room = some ref) :
    Does s (.getOrCreate c room) s [.add c room ref]
  | newRoom (c room) (h : s.getRoom c room = none) :
    Does s (.getOrCreate c room) (s.newRoom (s.clients c).node room) [.add c room s.nextRoom]
  | add (c room ref) : Does s (.add c room ref) (s.add c ref) [.setRoom c room ref]
  | setRoom (c room ref) :
    Does s (.setRoom c room ref) (s.onClient c fun x => { x with roomID := room })
      [.track c room ref]
  | track (c room ref) : Does s (.track c room ref) (s.track c) [.attach c room ref]
  | attached (c room ref) : Does s (.attach c room ref) s [.register c room]
  | notAttached (c room ref) : Does s (.attach c room ref)
      (s.reply c "could not attach to the media server") [.remove c ref]
  | remove (c ref) : Does s (.remove c ref)
      (s.onRoom ref fun x => { x with participants := x.participants.erase c }) [.unsetRoom c]
  | unsetRoom (c) :
    Does s (.unsetRoom c) (s.onClient c fun x => { x with roomID := "" }) [.ready c]
  | register (c room) : Does s (.register c room) (s.register c room) [.ready c]
  | ready (c) : Does s (.ready c) (s.onClient c fun x => { x with pump := .reading }) []
  | forward (c type target payload) (h : (s.clients c).roomID ≠ "") :
    Does s (.handleForward c type target payload)
      { s with forwards := (c, (s.clients c).roomID, ⟨type, c, target, payload⟩) :: s.forwards }
      [.findRoom c (s.clients c).roomID ⟨type, c, target, payload⟩]
  | findRoom (c room ref frame) (h : s.getRoom c room = some ref) :
    Does s (.findRoom c room frame) s [.findTarget c room ref frame]
  | findTarget (c room ref frame) (h : frame.target ∈ (s.objects ref).participants) :
    Does s (.findTarget c room ref frame) s [.send frame.target room frame, .ready c]
  | elsewhere (c room ref frame) : Does s (.findTarget c room ref frame) s [.locate c room frame]
  | route (c room frame) (loc : Location) (hloc : loc ∈ s.registered)
    (htarget : loc.participantID = frame.target) (hroom : loc.roomID = room) :
    Does s (.locate c room frame) { s with routed := ⟨room, frame.target, frame⟩ :: s.routed }
      [.ready c]
  | deliver (node msg) (h : msg.participantID ∈ s.index node) :
    Does s (.deliver node msg) s [.send msg.participantID msg.roomID msg.payload]
  | notFound (node msg) : Does s (.deliver node msg) s []
  | send (c room frame) (x : Choice) : Does s (.send c room frame) (s.send c frame x) []
  | outside (c caller) (h : (s.clients c).roomID = "") :
    Does s (.disconnect c caller) s [.untrack c]
  | inside (c caller) (h : (s.clients c).roomID ≠ "") :
    Does s (.disconnect c caller) s [.leave c (s.clients c).roomID]
  | tell (c room) : Does s (.leave c room) s [.farewell .broadcast c room]
  | tellNobody (c room) : Does s (.leave c room) s [.removeParticipant c room]
  | farewell (kind c room) : Does s (.farewell kind c room)
      { s with farewells := (kind, c) :: s.farewells } [kind.next c room]
  | removeParticipant (c room) : Does s (.removeParticipant c room) (s.removeParticipant c room)
      [.farewell .history c room]
  | untrack (c) : Does s (.untrack c) (s.untrack c) [.closeSend c]
  | closeSend (c) : Does s (.closeSend c) (s.onClient c fun x => { x with closed := true }) []

theorem exec_does {s s' : State} {i : Instr} {x : Choice} {new : List Instr}
    (hex : exec s i x = some (s', new)) : Does s i s' new := by
  cases i with
  | handleJoin c room =>
    have hout : s.handleJoin c room x = (s', new) := some.inj hex
    unfold State.handleJoin at hout
    split_ifs at hout with hroom hjoined hadmitted <;> cases hout
    · exact .refused rfl _
    · exact .refused rfl _
    · exact .admitted c room hroom (not_not.1 hjoined)
    · exact .notAdmitted c room
  | getOrCreate c room =>
    have hout : s.getOrCreate c room = (s', new) := some.inj hex
    unfold State.getOrCreate at hout
    split at hout <;> cases hout
    · next ref href => exact .foundRoom c room ref href
    · next hnone => exact .newRoom c room hnone
  | attach c room ref =>
    have hout : s.attach c room ref x = (s', new) := some.inj hex
    unfold State.attach at hout
    split_ifs at hout <;> cases hout
    · exact .attached c room ref
    · exact .notAttached c room ref
  | handleForward c type target payload =>
    have hout : s.handleForward c type target payload = (s', new) := some.inj hex
    unfold State.handleForward at hout
    dsimp only at hout
    split_ifs at hout with hroom <;> cases hout
    · exact .refused rfl _
    · exact .refused rfl _
    · exact .refused rfl _
    · exact .refused rfl _
    · exact .forward c type target payload hroom
  | findRoom c room frame =>
    have hout : s.findRoom c room frame = (s', new) := some.inj hex
    unfold State.findRoom at hout
    split at hout <;> cases hout
    · exact .refused rfl _
    · next ref href => exact .findRoom c room ref frame href
  | findTarget c room ref frame =>
    have hout : s.findTarget c room ref frame x = (s', new) := some.inj hex
    unfold State.findTarget at hout
    split_ifs at hout with hmem <;> cases hout
    · exact .findTarget c room ref frame hmem
    · exact .elsewhere c room ref frame
    · exact .refused rfl _
  | locate c room frame =>
    have hout : s.locate c room frame x = some (s', new) := hex
    unfold State.locate at hout
    split at hout
    · cases hout
      exact .refused rfl _
    · next loc _ =>
      split_ifs at hout with hloc hroom <;>
        cases hout
      · exact .refused rfl _
      · rw [not_or, not_not, not_not] at hloc
        exact .route c room frame loc hloc.1 hloc.2 (not_not.1 hroom)
  | deliver node msg =>
    cases hex
    unfold State.deliver
    split_ifs with hmem
    · exact .deliver node msg hmem
    · exact .notFound node msg
  | disconnect c caller =>
    cases hex
    unfold State.disconnect
    split_ifs with hroom
    · exact .outside c caller hroom
    · exact .inside c caller hroom
  | leave c room =>
    cases hex
    unfold State.leave
    split
    · exact .tell c room
    · exact .tellNobody c room
  | add | setRoom | track | remove | unsetRoom | register | ready | send | farewell
  | removeParticipant | untrack | closeSend =>
    cases hex
    constructor

/-! ## What the environment starts -/

/-- An event of a connection, or the arrival of a cluster message. -/
inductive Op
  /-- A connection to the node is established; its id is new. -/
  | connect (c : ParticipantId) (node : NodeId)
  /-- The read pump reads a join message. -/
  | join (c : ParticipantId) (room : RoomId)
  /-- The read pump reads a message that is to be forwarded. -/
  | forward (c : ParticipantId) (type : String) (target : ParticipantId) (payload : String)
  /-- The read pump ends, at a read error or at the rate limit. -/
  | readEnds (c : ParticipantId)
  /-- The socket is closed. -/
  | closeNow (c : ParticipantId)
  | deliver (node : NodeId) (msg : Message)
  /-- A `participant.disconnect` message. -/
  | deliverDisconnect (node : NodeId) (c : ParticipantId)
  deriving DecidableEq

/-- The client is connected, and its read pump waits for a message. -/
def State.Reading (s : State) (c : ParticipantId) : Prop :=
  c ∈ s.connected ∧ (s.clients c).pump = .reading

instance (s : State) (c : ParticipantId) : Decidable (s.Reading c) :=
  inferInstanceAs (Decidable (_ ∧ _))

/-- The start of a goroutine. -/
def launch (s : State) : Op → Option (State × List Instr)
  | .connect c node =>
    if c ∈ s.connected then none
    else
      some ({ s with
        connected := insert c s.connected
        clients := Function.update s.clients c { node } }, [])
  | .join c room =>
    if s.Reading c ∧ (s.clients c).socket then
      some (s.onClient c fun x => { x with pump := .handling }, [.handleJoin c room])
    else none
  | .forward c type target payload =>
    if s.Reading c ∧ (s.clients c).socket then
      some (s.onClient c fun x => { x with pump := .handling },
        [.handleForward c type target payload])
    else none
  | .readEnds c =>
    if s.Reading c then
      some (s.onClient c fun x => { x with pump := .ended }, [.disconnect c .readPump])
    else none
  | .closeNow c =>
    if c ∈ s.connected then some (s.onClient c fun x => { x with socket := false }, []) else none
  | .deliver node msg => if msg ∈ s.routed then some (s, [.deliver node msg]) else none
  | .deliverDisconnect node c =>
    if c ∈ s.index node then some (s, [.disconnect c .message]) else none

/-- What an event can do. -/
inductive Starts (s : State) : Op → State → List Instr → Prop
  | connect (c node) (h : c ∉ s.connected) :
    Starts s (.connect c node)
      { s with
        connected := insert c s.connected
        clients := Function.update s.clients c { node } } []
  | join (c room) (h : s.Reading c) :
    Starts s (.join c room) (s.onClient c fun x => { x with pump := .handling })
      [.handleJoin c room]
  | forward (c type target payload) (h : s.Reading c) :
    Starts s (.forward c type target payload) (s.onClient c fun x => { x with pump := .handling })
      [.handleForward c type target payload]
  | readEnds (c) (h : s.Reading c) :
    Starts s (.readEnds c) (s.onClient c fun x => { x with pump := .ended })
      [.disconnect c .readPump]
  | closeNow (c) : Starts s (.closeNow c) (s.onClient c fun x => { x with socket := false }) []
  | deliver (node msg) (h : msg ∈ s.routed) : Starts s (.deliver node msg) s [.deliver node msg]
  | deliverDisconnect (node c) :
    Starts s (.deliverDisconnect node c) s [.disconnect c .message]

theorem launch_starts {s s' : State} {op : Op} {new : List Instr}
    (hla : launch s op = some (s', new)) : Starts s op s' new := by
  cases op with
  | connect | readEnds | deliver =>
    simp only [launch] at hla
    split_ifs at hla with h
    cases hla
    constructor
    exact h
  | join | forward =>
    simp only [launch] at hla
    split_ifs at hla with h
    cases hla
    constructor
    exact h.1
  | closeNow | deliverDisconnect =>
    simp only [launch] at hla
    split_ifs at hla
    cases hla
    constructor

/-- Schedules. -/
abbrev Act := Pool.Act Op Choice

/-- The cluster with its goroutines. -/
abbrev System := Pool State Instr

/-- One step of the cluster. -/
abbrev step : System → Act → Option System := Pool.step launch exec

/-- The goroutine `i` executes `n` instructions. -/
def go (i n : ℕ) : List Act := List.replicate n (Pool.Act.resume i ({} : Choice))

/-- No connections, and nothing to do. -/
def System.empty : System := ⟨{}, []⟩

/-! ## The read pump -/

/-- The client whose read pump waits for the instruction. -/
def Instr.handler : Instr → Option ParticipantId
  | .handleJoin c _ | .getOrCreate c _ | .add c _ _ | .setRoom c _ _ | .track c _ _
  | .attach c _ _ | .remove c _ | .unsetRoom c | .register c _ | .ready c
  | .handleForward c _ _ _ | .findRoom c _ _ | .findTarget c _ _ _ | .locate c _ _ => some c
  | .deliver .. | .send .. | .disconnect .. | .leave .. | .farewell .. | .removeParticipant ..
  | .untrack _ | .closeSend _ => none

/-- A read pump handles one message at a time, and only that of a connection does. -/
structure Pumps (s : State) (P : Multiset Instr) : Prop where
  handling : ∀ c, tally Instr.handler c P = if (s.clients c).pump = .handling then 1 else 0
  connected : ∀ c ∉ s.connected, (s.clients c).pump = .reading

section Pumps

variable {s s' : State} {P rest : Multiset Instr} {new : List Instr} {x : Choice} {i : Instr}
  {c : ParticipantId}

/-- A change of a client that leaves `g` alone. -/
theorem onClient_of_eq {α : Type*} (g : Client → α) (s : State) (q : ParticipantId)
    {f : Client → Client} (hf : ∀ y, g (f y) = g y) :
    g ((s.onClient q f).clients c) = g (s.clients c) := by
  by_cases heq : c = q
  · subst heq
    simp [hf]
  · simp [heq]

theorem removeParticipant_clients (s : State) (q : ParticipantId) (room : RoomId) :
    (s.removeParticipant q room).connected = s.connected ∧
      (s.removeParticipant q room).clients = s.clients ∧
      (s.removeParticipant q room).farewells = s.farewells := by
  unfold State.removeParticipant
  split
  · exact ⟨rfl, rfl, rfl⟩
  · dsimp only
    split_ifs <;> exact ⟨rfl, rfl, rfl⟩

theorem send_pump (s : State) (q : ParticipantId) (frame : Frame) (x : Choice) :
    (s.send q frame x).connected = s.connected ∧
      ((s.send q frame x).clients c).pump = (s.clients c).pump ∧
      (s.send q frame x).farewells = s.farewells := by
  unfold State.send
  split_ifs
  · exact ⟨rfl, rfl, rfl⟩
  all_goals exact ⟨rfl, onClient_of_eq Client.pump s q fun _ => rfl, rfl⟩

/-- Nobody connects in a step, and only the end of a handler changes a read pump. -/
theorem Does.pump (hdoes : Does s i s' new) (hi : i ≠ .ready c) :
    s'.connected = s.connected ∧ (s'.clients c).pump = (s.clients c).pump := by
  cases hdoes with
  | refused _ text | notAttached | setRoom | unsetRoom | closeSend | add =>
    exact ⟨rfl, onClient_of_eq Client.pump _ _ fun _ => rfl⟩
  | ready q =>
    have hne : c ≠ q := fun heq => hi (heq ▸ rfl)
    exact ⟨rfl, by simp [hne]⟩
  | send q room frame x => exact ⟨(send_pump (c := c) s q frame x).1, (send_pump s q frame x).2.1⟩
  | removeParticipant q room =>
    obtain ⟨hconn, hclients, -⟩ := removeParticipant_clients s q room
    exact ⟨hconn, by rw [hclients]⟩
  | _ => exact ⟨rfl, rfl⟩

theorem Instr.handler_of_replies (h : i.replies = some c) : i.handler = some c := by
  cases i <;> first | exact h | cases h

/-- A handler goes on until it returns to its read pump. -/
theorem Does.handler (hdoes : Does s i s' new) (hi : i ≠ .ready c) :
    tally Instr.handler c (new : Multiset Instr) = tally Instr.handler c {i} := by
  cases hdoes with
  | @refused _ q h text =>
    rw [coe_singleton, tally_singleton, tally_singleton, Instr.handler_of_replies h]
    rfl
  | ready q =>
    have hne : q ≠ c := fun heq => hi (heq ▸ rfl)
    simp [Instr.handler, hne]
  | farewell kind q room => cases kind <;> rfl
  | _ => rfl

/-- While a handler runs, its read pump waits for it, and for nothing else. -/
theorem Pumps.of_handler (h : Pumps s (i ::ₘ rest)) (hi : i.handler = some c) :
    (s.clients c).pump = .handling ∧ tally Instr.handler c rest = 0 := by
  have hold := h.handling c
  rw [tally_cons, if_pos hi] at hold
  split_ifs at hold with hpump
  exact ⟨hpump, by omega⟩

theorem exec_pumps (h : Pumps s (i ::ₘ rest)) (hex : exec s i x = some (s', new)) :
    Pumps s' (new + rest) := by
  have hdoes := exec_does hex
  refine ⟨fun c => ?_, fun c hc => ?_⟩
  · rw [tally_add]
    by_cases hi : i = .ready c
    · subst hi
      cases hex
      simp [(h.of_handler rfl).2]
    · rw [(hdoes.pump hi).2, hdoes.handler hi, ← h.handling c, ← singleton_add, tally_add]
  · by_cases hi : i = .ready c
    · subst hi
      cases hex
      simp
    · obtain ⟨hconn, hpump⟩ := hdoes.pump hi
      rw [hconn] at hc
      rw [hpump]
      exact h.connected c hc

theorem Pumps.handle (h : Pumps s P) {q : ParticipantId} (hq : s.Reading q) {j : Instr}
    (hj : j.handler = some q) :
    Pumps (s.onClient q fun y => { y with pump := .handling }) (([j] : List Instr) + P) := by
  refine ⟨fun c => ?_, fun c hc => ?_⟩
  · have hold := h.handling c
    rw [coe_singleton, tally_add, tally_singleton, hj]
    by_cases heq : c = q
    · subst heq
      rw [hq.2, if_neg (by decide)] at hold
      simp [hold]
    · rw [hold]
      simp [heq, Ne.symm heq]
  · have hne : c ≠ q := by
      rintro rfl
      exact hc hq.1
    simpa [hne] using h.connected c hc

theorem launch_pumps {op : Op} (h : Pumps s P) (hla : launch s op = some (s', new)) :
    Pumps s' (new + P) := by
  cases launch_starts hla with
  | connect q node hq =>
    rw [coe_nil, zero_add]
    refine ⟨fun c => ?_, fun c hc => ?_⟩
    · by_cases heq : c = q
      · subst heq
        have hold := h.handling c
        rw [h.connected c hq] at hold
        simpa using hold
      · simpa [heq] using h.handling c
    · rw [Finset.mem_insert, not_or] at hc
      simpa [hc.1] using h.connected c hc.2
  | join q room hq => exact h.handle hq rfl
  | forward q type target payload hq => exact h.handle hq rfl
  | readEnds q hq =>
    refine ⟨fun c => ?_, fun c hc => ?_⟩
    · by_cases heq : c = q
      · subst heq
        have hold := h.handling c
        rw [hq.2, if_neg (by decide)] at hold
        simp [Instr.handler, hold]
      · simpa [Instr.handler, heq] using h.handling c
    · have hne : c ≠ q := by
        rintro rfl
        exact hc hq.1
      simpa [hne] using h.connected c hc
  | closeNow q =>
    have hpump (c : ParticipantId) := onClient_of_eq (c := c) Client.pump s q
      (f := fun y => { y with socket := false }) fun _ => rfl
    refine ⟨fun c => ?_, fun c hc => ?_⟩
    · rw [hpump, coe_nil, zero_add]
      exact h.handling c
    · rw [hpump]
      exact h.connected c hc
  | deliver | deliverDisconnect =>
    refine ⟨fun c => ?_, h.connected⟩
    simpa [Instr.handler] using h.handling c

end Pumps

end PulseRTC.Signaling.Connections
