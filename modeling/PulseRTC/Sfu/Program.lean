import PulseRTC.Cluster.Node
import PulseRTC.Foundations.CopyOnWrite
import PulseRTC.Foundations.GoMap
import PulseRTC.Foundations.Goroutines

/-!
# Rooms, publications and subscriptions of the SFU

The media plane of one node: participants publish tracks into their room, subscribe to those of the
others, opt out of some and leave; publications of other nodes are mirrored into a room. Everything
happens in goroutines, and a call takes the locks of the room and of one participant after another,
so its critical sections are separate instructions here.

* `SFU` is the state: rooms, participants, publications and subscriptions are objects with a
  reference.
* `Instr` are the instructions, `exec` what each of them does. A method of the source is the list of
  instructions it leaves behind.
* `launch` is what the environment can start: a call of the signaling layer or of the media bridge,
  a callback of the peer connection, or the end of an ingest loop.

`subscribe` holds the lock of the subscriber while it attaches the send queue to the publication
with a compare-and-swap loop; `mu` says that the lock is held between two instructions. The
signaling layer gives every connection an id of its own, and a publication id is a UUID made at the
node that the track is published to. Negotiation, keyframe requests and the packets themselves are
not part of this model.
-/

namespace PulseRTC.Sfu

open Foundations Cluster

/-- Publication ids. -/
abbrev PublicationId := String

/-- References to rooms. -/
abbrev RoomRef := ℕ

/-- References to publications. -/
abbrev PublicationRef := ℕ

/-- References to subscriptions; a subscription owns its send queue. -/
abbrev SubscriptionRef := ℕ

/-! ## Objects -/

structure Permissions where
  publish : Bool := false
  subscribe : Bool := false
  deriving DecidableEq

def fullPermissions : Permissions := ⟨true, true⟩

/-- `Participant`, with its explicit operations, which the source does not keep. -/
structure Participant where
  room : RoomRef := 0
  perms : Permissions := {}
  publications : GoMap PublicationId PublicationRef := ∅
  subscriptions : GoMap PublicationId SubscriptionRef := ∅
  optedOut : Finset PublicationId := ∅
  /-- The last explicit operation for a publication id: a `Subscribe`, or an `Unsubscribe`. -/
  explicit : GoMap PublicationId Bool := ∅
  bootstrapped : Bool := false
  closed : Bool := false
  /-- The lock is held between two instructions. -/
  mu : Bool := false

/-- The ingest loop of a publication. -/
inductive Loop
  | waiting
  | running
  | ended
  deriving DecidableEq

structure Publication where
  id : PublicationId := ""
  participantID : ParticipantId := ""
  room : RoomRef := 0
  remote : Bool := false
  loop : Loop := .waiting
  subSinks : Cell (ℕ × SubscriptionRef) := {}
  subSeq : ℕ := 0

/-- `Subscription`, with the id of its sink and whether its queue is closed. -/
structure Subscription where
  subscriberID : ParticipantId := ""
  publication : PublicationRef := 0
  sink : ℕ := 0
  closed : Bool := false
  deriving DecidableEq

/-- `Room`. The map of the participants is the set of its keys: a participant is its id. -/
structure Room where
  participants : Finset ParticipantId := ∅
  remotePubs : GoMap PublicationId PublicationRef := ∅

/-- The messages to a browser that tell about publications and subscriptions. -/
inductive Event
  | publicationAdded (pub : PublicationRef)
  | publicationRemoved (pub : PublicationRef)
  | subscriptionAdded (pub : PublicationRef)
  | subscriptionRemoved (pub : PublicationRef)
  | publishDenied
  | subscribeDenied
  deriving DecidableEq

/-- The objects of a node, by reference. `joined` are the participants there have been. -/
structure Objects where
  rooms : RoomRef → Room := fun _ => {}
  joined : Finset ParticipantId := ∅
  participants : ParticipantId → Participant := fun _ => {}
  publications : PublicationRef → Publication := fun _ => {}
  nextPublication : PublicationRef := 0
  subscriptions : SubscriptionRef → Subscription := fun _ => {}
  nextSubscription : SubscriptionRef := 0

/-- The media plane of a node: its objects and counters, what was sent to whom (`outbox`), what
`Subscribe` has returned (`errors`) and the calls of the publication event hook (`hooks`). -/
structure SFU extends Objects where
  subscriptionsMade : ℤ := 0
  subscriptionsRemoved : ℤ := 0
  outbox : List (ParticipantId × Event) := []
  errors : List (ParticipantId × String) := []
  hooks : List (Bool × PublicationRef) := []

/-! ## Instructions -/

/-- One critical section or atomic operation. -/
inductive Instr
  | publish (p : ParticipantId) (pubID : PublicationId)
  | ingest (pub : PublicationRef)
  | onPublicationAdded (pub : PublicationRef)
  | maybeAutoSubscribe (p : ParticipantId) (pub : PublicationRef)
  | subscribe (p : ParticipantId) (pub : PublicationRef)
  /-- `attachSink` takes the next sink id. -/
  | attach (p : ParticipantId) (sub : SubscriptionRef)
  | attachLoad (p : ParticipantId) (sub : SubscriptionRef)
  | attachSwap (p : ParticipantId) (sub : SubscriptionRef) (cur : Cell (ℕ × SubscriptionRef))
  /-- `subscribe` writes the subscription into the map and unlocks. -/
  | record (p : ParticipantId) (sub : SubscriptionRef)
  | countMade
  | removePublication (p : ParticipantId) (pubID : PublicationId)
  | onPublicationRemoved (pub : PublicationRef)
  | unsubscribe (p : ParticipantId) (pubID : PublicationId)
  | detachLoad (sub : SubscriptionRef)
  | detachSwap (sub : SubscriptionRef) (cur : Cell (ℕ × SubscriptionRef))
  | closeQueue (sub : SubscriptionRef)
  | countRemoved (n : ℕ)
  | send (p : ParticipantId) (event : Event)
  | firePublicationEvent (added : Bool) (pub : PublicationRef)
  | bootstrap (p : ParticipantId)
  /-- `bootstrap` lists the publications of one other participant. -/
  | bootstrapFrom (p publisher : ParticipantId)
  | findPublication (p : ParticipantId) (pubID : PublicationId)
  /-- `findPublication` looks through the participants of its snapshot, then at the mirrors. -/
  | findAmong (p : ParticipantId) (pubID : PublicationId) (publishers : List ParticipantId)
  /-- `Subscribe` has found the publication. -/
  | subscribeFound (p : ParticipantId) (pub : PublicationRef)
  | optOut (p : ParticipantId) (pubID : PublicationId)
  | leave (room : RoomRef) (p : ParticipantId)
  /-- `Leave` lists the publications of the participant. -/
  | retireAll (p : ParticipantId)
  | close (p : ParticipantId)
  | addRemote (room : RoomRef) (pubID : PublicationId) (participantID : ParticipantId)
  | removeRemote (room : RoomRef) (pubID : PublicationId)
  deriving DecidableEq

/-- What the environment decides: the order in which a map is read, and whether the peer connection
takes a track. -/
structure Choice where
  participants : List ParticipantId := []
  publications : List PublicationRef := []
  subscriptions : List SubscriptionRef := []
  addTrack : Bool := true
  deriving DecidableEq

namespace SFU

variable (s : SFU)

/-- The participant `p` changes. -/
@[simp] def onParticipant (p : ParticipantId) (f : Participant → Participant) : SFU :=
  { s with participants := Function.update s.participants p (f (s.participants p)) }

/-- The publication `pub` changes. -/
@[simp] def onPublication (pub : PublicationRef) (f : Publication → Publication) : SFU :=
  { s with publications := Function.update s.publications pub (f (s.publications pub)) }

/-- The subscription `sub` changes. -/
@[simp] def onSubscription (sub : SubscriptionRef) (f : Subscription → Subscription) : SFU :=
  { s with subscriptions := Function.update s.subscriptions sub (f (s.subscriptions sub)) }

/-- The room `r` changes. -/
@[simp] def onRoom (r : RoomRef) (f : Room → Room) : SFU :=
  { s with rooms := Function.update s.rooms r (f (s.rooms r)) }

@[simp] def newParticipant (p : ParticipantId) (r : RoomRef) (perms : Permissions) : SFU :=
  { s with
    joined := insert p s.joined
    participants := Function.update s.participants p { room := r, perms } }

@[simp] def newPublication (pub : Publication) : SFU :=
  { s with
    publications := Function.update s.publications s.nextPublication pub
    nextPublication := s.nextPublication + 1 }

@[simp] def newSubscription (sub : Subscription) : SFU :=
  { s with
    subscriptions := Function.update s.subscriptions s.nextSubscription sub
    nextSubscription := s.nextSubscription + 1 }

def othersOf (r : RoomRef) (id : ParticipantId) : Finset ParticipantId :=
  (s.rooms r).participants.erase id

/-- `SendSFU`. -/
def send (p : ParticipantId) (event : Event) : SFU :=
  { s with outbox := s.outbox ++ [(p, event)] }

/-- An error that `Subscribe` returns. -/
def fail (p : ParticipantId) (err : String) : SFU :=
  { s with errors := s.errors ++ [(p, err)] }

/-! ## What the instructions do -/

/-- `onTrack` from `newPublication` on. -/
def publish (p : ParticipantId) (pubID : PublicationId) : Option (SFU × List Instr) :=
  if (s.participants p).mu ∨ ∃ pub < s.nextPublication, (s.publications pub).id = pubID then none
  else
    let pub := s.nextPublication
    some ((s.newPublication
        { id := pubID, participantID := p, room := (s.participants p).room }).onParticipant p
          fun x => { x with publications := x.publications.insert pubID pub },
      [.send p (.publicationAdded pub), .ingest pub, .onPublicationAdded pub])

def onPublicationAdded (pub : PublicationRef) (c : Choice) : Option (SFU × List Instr) :=
  let x := s.publications pub
  if (c.participants : Multiset ParticipantId) = (s.othersOf x.room x.participantID).val then
    some (s, (c.participants.flatMap fun p =>
      [.send p (.publicationAdded pub), .maybeAutoSubscribe p pub]) ++
        [.firePublicationEvent true pub])
  else none

def maybeAutoSubscribe (p : ParticipantId) (pub : PublicationRef) : Option (SFU × List Instr) :=
  let x := s.participants p
  let id := (s.publications pub).id
  if !x.perms.subscribe then some (s, [])
  else if x.mu then none
  else if id ∈ x.optedOut ∨ id ∈ x.subscriptions ∨ x.closed then some (s, [])
  else some (s, [.subscribe p pub])

/-- `subscribe` up to `attachSink`; the lock stays held. -/
def subscribe (p : ParticipantId) (pub : PublicationRef) (c : Choice) :
    Option (SFU × List Instr) :=
  let x := s.participants p
  if x.mu then none
  else if x.closed ∨ (s.publications pub).id ∈ x.subscriptions ∨ !c.addTrack then some (s, [])
  else
    let sub := s.nextSubscription
    some ((s.newSubscription { subscriberID := p, publication := pub }).onParticipant p
        fun x => { x with mu := true },
      [.attach p sub, .countMade, .send p (.subscriptionAdded pub)])

/-- `attachSink` takes the next sink id. -/
@[simp] def attach (p : ParticipantId) (sub : SubscriptionRef) : SFU × List Instr :=
  let pub := (s.subscriptions sub).publication
  let id := (s.publications pub).subSeq + 1
  ((s.onPublication pub fun x => { x with subSeq := id }).onSubscription sub
      fun x => { x with sink := id },
    [.attachLoad p sub])

def sinks (sub : SubscriptionRef) : Cell (ℕ × SubscriptionRef) :=
  (s.publications (s.subscriptions sub).publication).subSinks

/-- The swap of `attachSink`. -/
def attachSwap (p : ParticipantId) (sub : SubscriptionRef) (cur : Cell (ℕ × SubscriptionRef)) :
    SFU × List Instr :=
  match (s.sinks sub).swap cur (cur.list ++ [((s.subscriptions sub).sink, sub)]) with
  | none => (s, [.attachLoad p sub])
  | some cell =>
    (s.onPublication (s.subscriptions sub).publication fun x => { x with subSinks := cell },
      [.record p sub])

/-- The end of the critical section of `subscribe`. -/
@[simp] def record (p : ParticipantId) (sub : SubscriptionRef) : SFU :=
  let id := (s.publications (s.subscriptions sub).publication).id
  s.onParticipant p fun x =>
    { x with subscriptions := x.subscriptions.insert id sub, mu := false }

def removePublication (p : ParticipantId) (pubID : PublicationId) : Option (SFU × List Instr) :=
  if (s.participants p).mu then none
  else
    match (s.participants p).publications.lookup pubID with
    | none => some (s, [])
    | some pub =>
      some (s.onParticipant p fun x => { x with publications := x.publications.erase pubID },
        [.onPublicationRemoved pub])

def onPublicationRemoved (pub : PublicationRef) (c : Choice) : Option (SFU × List Instr) :=
  let x := s.publications pub
  if (c.participants : Multiset ParticipantId) = (s.othersOf x.room x.participantID).val then
    some (s, (c.participants.flatMap fun p =>
      [.unsubscribe p x.id, .send p (.publicationRemoved pub)]) ++
        [.firePublicationEvent false pub])
  else none

def unsubscribe (p : ParticipantId) (pubID : PublicationId) : Option (SFU × List Instr) :=
  if (s.participants p).mu then none
  else
    match (s.participants p).subscriptions.lookup pubID with
    | none => some (s, [])
    | some sub =>
      some (s.onParticipant p fun x => { x with subscriptions := x.subscriptions.erase pubID },
        [.detachLoad sub, .countRemoved 1,
          .send p (.subscriptionRemoved (s.subscriptions sub).publication)])

/-- The load of `detach`: a nil pointer ends it. Whoever detaches a sink closes its queue next. -/
def detachLoad (sub : SubscriptionRef) : List Instr :=
  if (s.sinks sub).version = 0 then [.closeQueue sub] else [.detachSwap sub (s.sinks sub)]

/-- The swap of `detach`. -/
def detachSwap (sub : SubscriptionRef) (cur : Cell (ℕ × SubscriptionRef)) : SFU × List Instr :=
  match (s.sinks sub).swap cur (cur.list.filter fun e => e.1 ≠ (s.subscriptions sub).sink) with
  | none => (s, [.detachLoad sub])
  | some cell =>
    (s.onPublication (s.subscriptions sub).publication fun x => { x with subSinks := cell },
      [.closeQueue sub])

/-- `firePublicationEvent`: only for a publication of this node. -/
def firePublicationEvent (added : Bool) (pub : PublicationRef) : SFU :=
  if (s.publications pub).remote then s else { s with hooks := s.hooks ++ [(added, pub)] }

/-- `bootstrap`: the snapshot of the others. -/
def bootstrap (p : ParticipantId) (c : Choice) : Option (SFU × List Instr) :=
  if (c.participants : Multiset ParticipantId) = (s.othersOf (s.participants p).room p).val then
    some (s, c.participants.map fun publisher => .bootstrapFrom p publisher)
  else none

/-- `bootstrap`: the publications of one of the others. -/
def bootstrapFrom (p publisher : ParticipantId) (c : Choice) : Option (SFU × List Instr) :=
  if (s.participants publisher).mu then none
  else if (c.publications : Multiset PublicationRef) =
      GoMap.values (s.participants publisher).publications then
    some (s, c.publications.map fun pub => .maybeAutoSubscribe p pub)
  else none

/-- `findPublication`: the snapshot of the room. -/
def findPublication (p : ParticipantId) (pubID : PublicationId) (c : Choice) :
    Option (SFU × List Instr) :=
  if (c.participants : Multiset ParticipantId) =
      (s.rooms (s.participants p).room).participants.val then
    some (s, [.findAmong p pubID c.participants])
  else none

/-- `findPublication` after the snapshot. -/
def findAmong (p : ParticipantId) (pubID : PublicationId) :
    List ParticipantId → Option (SFU × List Instr)
  | publisher :: rest =>
    if (s.participants publisher).mu then none
    else
      match (s.participants publisher).publications.lookup pubID with
      | some pub => some (s, [.subscribeFound p pub])
      | none => some (s, [.findAmong p pubID rest])
  | [] =>
    match (s.rooms (s.participants p).room).remotePubs.lookup pubID with
    | some pub => some (s, [.subscribeFound p pub])
    | none =>
      some ((s.fail p "publication not found in this room").onParticipant p
        fun x => { x with explicit := x.explicit.insert pubID true }, [])

/-- `Subscribe` from the found publication on. -/
def subscribeFound (p : ParticipantId) (pub : PublicationRef) : Option (SFU × List Instr) :=
  let id := (s.publications pub).id
  if (s.publications pub).participantID = p then
    some (s.fail p "cannot subscribe to your own publication", [])
  else if (s.participants p).mu then none
  else
    some (s.onParticipant p fun x =>
        { x with optedOut := x.optedOut.erase id, explicit := x.explicit.insert id true },
      if id ∈ (s.participants p).subscriptions then [.send p (.subscriptionAdded pub)]
      else [.subscribe p pub])

/-- `Unsubscribe` notes the opt-out. -/
def optOut (p : ParticipantId) (pubID : PublicationId) : Option (SFU × List Instr) :=
  if (s.participants p).mu then none
  else
    some (s.onParticipant p fun x =>
        { x with optedOut := insert pubID x.optedOut, explicit := x.explicit.insert pubID false },
      [.unsubscribe p pubID])

def leave (r : RoomRef) (p : ParticipantId) : SFU × List Instr :=
  if p ∈ (s.rooms r).participants then
    (s.onRoom r fun x => { x with participants := x.participants.erase p },
      [.retireAll p, .close p])
  else (s, [])

/-- `Leave`: the publications of the participant. -/
def retireAll (p : ParticipantId) (c : Choice) : Option (SFU × List Instr) :=
  if (s.participants p).mu then none
  else if (c.publications : Multiset PublicationRef) =
      GoMap.values (s.participants p).publications then
    some (s, c.publications.map .onPublicationRemoved)
  else none

def close (p : ParticipantId) (c : Choice) : Option (SFU × List Instr) :=
  let x := s.participants p
  if x.mu then none
  else if x.closed then some (s, [])
  else if (c.subscriptions : Multiset SubscriptionRef) = GoMap.values x.subscriptions then
    some (s.onParticipant p fun x => { x with closed := true, subscriptions := ∅ },
      c.subscriptions.map .detachLoad ++ [.countRemoved c.subscriptions.length])
  else none

/-- `addRemotePublication`. -/
def addRemote (r : RoomRef) (pubID : PublicationId) (participantID : ParticipantId) :
    Option (SFU × List Instr) :=
  if ∃ pub < s.nextPublication, (s.publications pub).id = pubID ∧
      (s.publications pub).remote = false then none
  else if pubID ∈ (s.rooms r).remotePubs then some (s, [])
  else
    let pub := s.nextPublication
    some ((s.newPublication { id := pubID, participantID, room := r, remote := true }).onRoom r
        fun x => { x with remotePubs := x.remotePubs.insert pubID pub },
      [.onPublicationAdded pub])

/-- `removeRemotePublication`. -/
def removeRemote (r : RoomRef) (pubID : PublicationId) : SFU × List Instr :=
  match (s.rooms r).remotePubs.lookup pubID with
  | none => (s, [])
  | some pub =>
    (s.onRoom r fun x => { x with remotePubs := x.remotePubs.erase pubID },
      [.onPublicationRemoved pub])

end SFU

/-- One instruction. -/
def exec (s : SFU) : Instr → Choice → Option (SFU × List Instr)
  | .publish p pubID, _ => s.publish p pubID
  | .ingest pub, _ => some (s.onPublication pub fun x => { x with loop := .running }, [])
  | .onPublicationAdded pub, c => s.onPublicationAdded pub c
  | .maybeAutoSubscribe p pub, _ => s.maybeAutoSubscribe p pub
  | .subscribe p pub, c => s.subscribe p pub c
  | .attach p sub, _ => some (s.attach p sub)
  | .attachLoad p sub, _ => some (s, [.attachSwap p sub (s.sinks sub)])
  | .attachSwap p sub cur, _ => some (s.attachSwap p sub cur)
  | .record p sub, _ => some (s.record p sub, [])
  | .countMade, _ => some ({ s with subscriptionsMade := s.subscriptionsMade + 1 }, [])
  | .removePublication p pubID, _ => s.removePublication p pubID
  | .onPublicationRemoved pub, c => s.onPublicationRemoved pub c
  | .unsubscribe p pubID, _ => s.unsubscribe p pubID
  | .detachLoad sub, _ => some (s, s.detachLoad sub)
  | .detachSwap sub cur, _ => some (s.detachSwap sub cur)
  | .closeQueue sub, _ => some (s.onSubscription sub fun x => { x with closed := true }, [])
  | .countRemoved n, _ => some ({ s with subscriptionsRemoved := s.subscriptionsRemoved + n }, [])
  | .send p event, _ => some (s.send p event, [])
  | .firePublicationEvent added pub, _ => some (s.firePublicationEvent added pub, [])
  | .bootstrap p, c => s.bootstrap p c
  | .bootstrapFrom p publisher, c => s.bootstrapFrom p publisher c
  | .findPublication p pubID, c => s.findPublication p pubID c
  | .findAmong p pubID publishers, _ => s.findAmong p pubID publishers
  | .subscribeFound p pub, _ => s.subscribeFound p pub
  | .optOut p pubID, _ => s.optOut p pubID
  | .leave r p, _ => some (s.leave r p)
  | .retireAll p, c => s.retireAll p c
  | .close p, c => s.close p c
  | .addRemote r pubID participantID, _ => s.addRemote r pubID participantID
  | .removeRemote r pubID, _ => some (s.removeRemote r pubID)

/-! ## What the environment starts -/

/-- A call of the signaling layer or of the media bridge, or an event of the peer connection. -/
inductive Op
  /-- `JoinWithPermissions`. -/
  | join (p : ParticipantId) (room : RoomRef) (perms : Permissions)
  /-- The connection of the participant is established. -/
  | connected (p : ParticipantId)
  | onTrack (p : ParticipantId) (pubID : PublicationId)
  /-- The ingest loop of the publication reads the end of its track. -/
  | trackEnds (pub : PublicationRef)
  | unpublish (p : ParticipantId) (pubID : PublicationId)
  | subscribe (p : ParticipantId) (pubID : PublicationId)
  | unsubscribe (p : ParticipantId) (pubID : PublicationId)
  /-- `onSubscriptionFatal`. -/
  | subscriptionFatal (p : ParticipantId) (pubID : PublicationId)
  | leave (room : RoomRef) (p : ParticipantId)
  | addRemotePublication (room : RoomRef) (pubID : PublicationId) (participantID : ParticipantId)
  /-- `Close` of the handle of a mirrored publication. -/
  | closeRemote (room : RoomRef) (pubID : PublicationId)
  deriving DecidableEq

/-- The start of a goroutine. -/
def launch (s : SFU) : Op → Option (SFU × List Instr)
  | .join p r perms =>
    if p ∈ s.joined then none
    else
      some ((s.newParticipant p r perms).onRoom r
        fun x => { x with participants := insert p x.participants }, [])
  | .connected p =>
    if p ∉ s.joined ∨ (s.participants p).mu then none
    else
      some (s.onParticipant p fun x => { x with bootstrapped := true },
        if (s.participants p).bootstrapped then [] else [.bootstrap p])
  | .onTrack p pubID =>
    if p ∉ s.joined then none
    else if (s.participants p).perms.publish then some (s, [.publish p pubID])
    else some (s, [.send p .publishDenied])
  | .trackEnds pub =>
    if (s.publications pub).loop = .running then
      some (s.onPublication pub fun x => { x with loop := .ended },
        [.removePublication (s.publications pub).participantID (s.publications pub).id])
    else none
  | .unpublish p pubID => if p ∈ s.joined then some (s, [.removePublication p pubID]) else none
  | .subscribe p pubID =>
    if p ∉ s.joined then none
    else if (s.participants p).perms.subscribe then some (s, [.findPublication p pubID])
    else some (s.fail p "subscribe not allowed", [.send p .subscribeDenied])
  | .unsubscribe p pubID => if p ∈ s.joined then some (s, [.optOut p pubID]) else none
  | .subscriptionFatal p pubID => if p ∈ s.joined then some (s, [.unsubscribe p pubID]) else none
  | .leave r p => some (s, [.leave r p])
  | .addRemotePublication r pubID participantID => some (s, [.addRemote r pubID participantID])
  | .closeRemote r pubID => some (s, [.removeRemote r pubID])

/-- Schedules. -/
abbrev Act := Pool.Act Op Choice

/-- The media plane with its goroutines. -/
abbrev System := Pool SFU Instr

/-- One step of the media plane. -/
abbrev step : System → Act → Option System := Pool.step launch exec

/-- The goroutine `i` executes `n` instructions. -/
def go (i n : ℕ) : List Act := List.replicate n (Pool.Act.resume i ({} : Choice))

/-- No participants, and nothing to do. -/
def System.empty : System := ⟨{}, []⟩

end PulseRTC.Sfu
