import PulseRTC.Sfu.Program

/-!
# What the instructions of the SFU can do

For every instruction and every event: when it is executed, the state it leaves and the instructions
it leaves behind. The invariants of the following modules are case analyses over these two relations
and do not unfold the instructions again.
-/

namespace PulseRTC.Sfu

open Foundations Cluster

/-- What an instruction can do. -/
inductive Executes (s : SFU) (c : Choice) : Instr → SFU → List Instr → Prop
  | publish (p id) (hmu : (s.participants p).mu = false)
    (hfresh : ∀ pub < s.nextPublication, (s.publications pub).id ≠ id) :
    Executes s c (.publish p id)
      ((s.newPublication
        { id, participantID := p, room := (s.participants p).room }).onParticipant p
          fun x => { x with publications := x.publications.insert id s.nextPublication })
      [.send p (.publicationAdded s.nextPublication), .ingest s.nextPublication,
        .onPublicationAdded s.nextPublication]
  | ingest (pub) :
    Executes s c (.ingest pub) (s.onPublication pub fun x => { x with loop := .running }) []
  | onPublicationAdded (pub) (hall : (c.participants : Multiset ParticipantId) =
      (s.othersOf (s.publications pub).room (s.publications pub).participantID).val) :
    Executes s c (.onPublicationAdded pub) s
      ((c.participants.flatMap fun p =>
        [.send p (.publicationAdded pub), .maybeAutoSubscribe p pub]) ++
          [.firePublicationEvent true pub])
  /-- The automatic subscription is left out without the permission, after an opt-out, when there
  is one already and when the participant is closed. -/
  | notAutoSubscribed (p pub) (hskip : (s.participants p).perms.subscribe = false ∨
      (s.publications pub).id ∈ (s.participants p).optedOut ∨
      (s.publications pub).id ∈ (s.participants p).subscriptions ∨
      (s.participants p).closed = true) : Executes s c (.maybeAutoSubscribe p pub) s []
  | maybeAutoSubscribe (p pub) (hperm : (s.participants p).perms.subscribe = true) :
    Executes s c (.maybeAutoSubscribe p pub) s [.subscribe p pub]
  | notSubscribed (p pub) (hmu : (s.participants p).mu = false)
    (hskip : (s.participants p).closed = true ∨
      (s.publications pub).id ∈ (s.participants p).subscriptions ∨ c.addTrack = false) :
    Executes s c (.subscribe p pub) s []
  | subscribe (p pub) (hmu : (s.participants p).mu = false)
    (hclosed : (s.participants p).closed = false)
    (hnone : (s.participants p).subscriptions.lookup (s.publications pub).id = none) :
    Executes s c (.subscribe p pub)
      ((s.newSubscription { subscriberID := p, publication := pub }).onParticipant p
        fun x => { x with mu := true })
      [.attach p s.nextSubscription, .countMade, .send p (.subscriptionAdded pub)]
  | attach (p sub) : Executes s c (.attach p sub) (s.attach p sub).1 [.attachLoad p sub]
  | attachLoad (p sub) : Executes s c (.attachLoad p sub) s [.attachSwap p sub (s.sinks sub)]
  | attachFails (p sub cur) : Executes s c (.attachSwap p sub cur) s [.attachLoad p sub]
  | attachSwap (p sub cur cell) (hswap : (s.sinks sub).swap cur
      (cur.list ++ [((s.subscriptions sub).sink, sub)]) = some cell) :
    Executes s c (.attachSwap p sub cur)
      (s.onPublication (s.subscriptions sub).publication fun x => { x with subSinks := cell })
      [.record p sub]
  | record (p sub) : Executes s c (.record p sub) (s.record p sub) []
  | countMade :
    Executes s c .countMade { s with subscriptionsMade := s.subscriptionsMade + 1 } []
  | notPublished (p id) (hmu : (s.participants p).mu = false)
    (hnone : (s.participants p).publications.lookup id = none) :
    Executes s c (.removePublication p id) s []
  | removePublication (p id pub) (hmu : (s.participants p).mu = false)
    (hpub : (s.participants p).publications.lookup id = some pub) :
    Executes s c (.removePublication p id)
      (s.onParticipant p fun x => { x with publications := x.publications.erase id })
      [.onPublicationRemoved pub]
  | onPublicationRemoved (pub) (hall : (c.participants : Multiset ParticipantId) =
      (s.othersOf (s.publications pub).room (s.publications pub).participantID).val) :
    Executes s c (.onPublicationRemoved pub) s
      ((c.participants.flatMap fun p =>
        [.unsubscribe p (s.publications pub).id, .send p (.publicationRemoved pub)]) ++
          [.firePublicationEvent false pub])
  | notHeld (p id) (hmu : (s.participants p).mu = false)
    (hnone : (s.participants p).subscriptions.lookup id = none) :
    Executes s c (.unsubscribe p id) s []
  | unsubscribe (p id sub) (hmu : (s.participants p).mu = false)
    (hsub : (s.participants p).subscriptions.lookup id = some sub) :
    Executes s c (.unsubscribe p id)
      (s.onParticipant p fun x => { x with subscriptions := x.subscriptions.erase id })
      [.detachLoad sub, .countRemoved 1,
        .send p (.subscriptionRemoved (s.subscriptions sub).publication)]
  | detachNil (sub) (hnil : (s.sinks sub).version = 0) :
    Executes s c (.detachLoad sub) s [.closeQueue sub]
  | detachLoad (sub) (hset : (s.sinks sub).version ≠ 0) :
    Executes s c (.detachLoad sub) s [.detachSwap sub (s.sinks sub)]
  | detachFails (sub cur) : Executes s c (.detachSwap sub cur) s [.detachLoad sub]
  | detachSwap (sub cur cell) (hswap : (s.sinks sub).swap cur
      (cur.list.filter fun e => e.1 ≠ (s.subscriptions sub).sink) = some cell) :
    Executes s c (.detachSwap sub cur)
      (s.onPublication (s.subscriptions sub).publication fun x => { x with subSinks := cell })
      [.closeQueue sub]
  | closeQueue (sub) :
    Executes s c (.closeQueue sub) (s.onSubscription sub fun x => { x with closed := true }) []
  | countRemoved (n) : Executes s c (.countRemoved n)
      { s with subscriptionsRemoved := s.subscriptionsRemoved + n } []
  | send (p event) : Executes s c (.send p event) (s.send p event) []
  | notFired (added pub) (hremote : (s.publications pub).remote = true) :
    Executes s c (.firePublicationEvent added pub) s []
  | firePublicationEvent (added pub) (hlocal : (s.publications pub).remote = false) :
    Executes s c (.firePublicationEvent added pub) { s with hooks := s.hooks ++ [(added, pub)] } []
  | bootstrap (p) (hall : (c.participants : Multiset ParticipantId) =
      (s.othersOf (s.participants p).room p).val) :
    Executes s c (.bootstrap p) s
      (c.participants.map fun publisher => .bootstrapFrom p publisher)
  | bootstrapFrom (p q) (hall : (c.publications : Multiset PublicationRef) =
      GoMap.values (s.participants q).publications) :
    Executes s c (.bootstrapFrom p q) s (c.publications.map fun pub => .maybeAutoSubscribe p pub)
  | findPublication (p id) (hall : (c.participants : Multiset ParticipantId) =
      (s.rooms (s.participants p).room).participants.val) :
    Executes s c (.findPublication p id) s [.findAmong p id c.participants]
  | found (p id q rest pub) (hpub : (s.participants q).publications.lookup id = some pub) :
    Executes s c (.findAmong p id (q :: rest)) s [.subscribeFound p pub]
  | findAmong (p id q rest) : Executes s c (.findAmong p id (q :: rest)) s [.findAmong p id rest]
  | foundRemote (p id pub)
    (hpub : (s.rooms (s.participants p).room).remotePubs.lookup id = some pub) :
    Executes s c (.findAmong p id []) s [.subscribeFound p pub]
  | notFound (p id) (hnone : (s.rooms (s.participants p).room).remotePubs.lookup id = none) :
    Executes s c (.findAmong p id [])
      ((s.fail p "publication not found in this room").onParticipant p
        fun x => { x with explicit := x.explicit.insert id true }) []
  | subscribeOwn (p pub) (hown : (s.publications pub).participantID = p) :
    Executes s c (.subscribeFound p pub) (s.fail p "cannot subscribe to your own publication") []
  | subscribeFound (p pub new) (hother : (s.publications pub).participantID ≠ p)
    (hmu : (s.participants p).mu = false)
    (hnew : (new = [.send p (.subscriptionAdded pub)] ∧
        (s.publications pub).id ∈ (s.participants p).subscriptions) ∨ new = [.subscribe p pub]) :
    Executes s c (.subscribeFound p pub)
      (s.onParticipant p fun x =>
        { x with
          optedOut := x.optedOut.erase (s.publications pub).id
          explicit := x.explicit.insert (s.publications pub).id true }) new
  | optOut (p id) (hmu : (s.participants p).mu = false) :
    Executes s c (.optOut p id)
      (s.onParticipant p fun x =>
        { x with optedOut := insert id x.optedOut, explicit := x.explicit.insert id false })
      [.unsubscribe p id]
  | notIn (r p) (hp : p ∉ (s.rooms r).participants) : Executes s c (.leave r p) s []
  | leave (r p) (hp : p ∈ (s.rooms r).participants) :
    Executes s c (.leave r p)
      (s.onRoom r fun x => { x with participants := x.participants.erase p })
      [.retireAll p, .close p]
  | retireAll (p) (hall : (c.publications : Multiset PublicationRef) =
      GoMap.values (s.participants p).publications) :
    Executes s c (.retireAll p) s (c.publications.map .onPublicationRemoved)
  | closedBefore (p) (hmu : (s.participants p).mu = false)
    (hclosed : (s.participants p).closed = true) : Executes s c (.close p) s []
  | close (p) (hmu : (s.participants p).mu = false) (hopen : (s.participants p).closed = false)
    (hall : (c.subscriptions : Multiset SubscriptionRef) =
      GoMap.values (s.participants p).subscriptions) :
    Executes s c (.close p)
      (s.onParticipant p fun x => { x with closed := true, subscriptions := ∅ })
      (c.subscriptions.map .detachLoad ++ [.countRemoved c.subscriptions.length])
  | mirrored (r id q) (hmem : id ∈ (s.rooms r).remotePubs) :
    Executes s c (.addRemote r id q) s []
  | addRemote (r id q) (hremote : ∀ pub < s.nextPublication, (s.publications pub).id = id →
        (s.publications pub).remote = true)
    (hnone : (s.rooms r).remotePubs.lookup id = none) :
    Executes s c (.addRemote r id q)
      ((s.newPublication { id, participantID := q, room := r, remote := true }).onRoom r
        fun x => { x with remotePubs := x.remotePubs.insert id s.nextPublication })
      [.onPublicationAdded s.nextPublication]
  | notMirrored (r id) (hnone : (s.rooms r).remotePubs.lookup id = none) :
    Executes s c (.removeRemote r id) s []
  | removeRemote (r id pub) (hpub : (s.rooms r).remotePubs.lookup id = some pub) :
    Executes s c (.removeRemote r id)
      (s.onRoom r fun x => { x with remotePubs := x.remotePubs.erase id })
      [.onPublicationRemoved pub]

variable {new : List Instr} {s s' : SFU}

theorem exec_executes {i : Instr} {c : Choice}
    (hex : exec s i c = some (s', new)) : Executes s c i s' new := by
  cases i with
  | publish p id =>
    simp only [exec, SFU.publish] at hex
    split_ifs at hex with hguard
    cases hex
    rw [not_or, not_exists] at hguard
    exact .publish p id (Bool.eq_false_iff.2 hguard.1) fun pub hlt heq => hguard.2 pub ⟨hlt, heq⟩
  | maybeAutoSubscribe p pub =>
    simp only [exec, SFU.maybeAutoSubscribe] at hex
    split_ifs at hex with hperm hmu hskip <;> cases hex
    · exact .notAutoSubscribed p pub (.inl (by simpa using hperm))
    · exact .notAutoSubscribed p pub (.inr hskip)
    · exact .maybeAutoSubscribe p pub (by simpa using hperm)
  | subscribe p pub =>
    simp only [exec, SFU.subscribe] at hex
    split_ifs at hex with hmu hskip <;> cases hex
    · exact .notSubscribed p pub (Bool.eq_false_iff.2 hmu) (by simpa using hskip)
    · rw [not_or, not_or] at hskip
      exact .subscribe p pub (Bool.eq_false_iff.2 hmu) (Bool.eq_false_iff.2 hskip.1)
        (Finmap.lookup_eq_none.2 hskip.2.1)
  | attachSwap p sub cur =>
    simp only [exec, SFU.attachSwap] at hex
    split at hex <;> cases hex
    · exact .attachFails p sub cur
    · next cell hswap => exact .attachSwap p sub cur cell hswap
  | removePublication p id =>
    simp only [exec, SFU.removePublication] at hex
    split_ifs at hex with hmu
    split at hex <;> cases hex
    · next hnone => exact .notPublished p id (Bool.eq_false_iff.2 hmu) hnone
    · next pub hpub => exact .removePublication p id pub (Bool.eq_false_iff.2 hmu) hpub
  | unsubscribe p id =>
    simp only [exec, SFU.unsubscribe] at hex
    split_ifs at hex with hmu
    split at hex <;> cases hex
    · next hnone => exact .notHeld p id (Bool.eq_false_iff.2 hmu) hnone
    · next sub hsub => exact .unsubscribe p id sub (Bool.eq_false_iff.2 hmu) hsub
  | detachLoad sub =>
    cases hex
    unfold SFU.detachLoad
    split_ifs with hnil
    · exact .detachNil sub hnil
    · exact .detachLoad sub hnil
  | detachSwap sub cur =>
    simp only [exec, SFU.detachSwap] at hex
    split at hex <;> cases hex
    · exact .detachFails sub cur
    · next cell hswap => exact .detachSwap sub cur cell hswap
  | firePublicationEvent added pub =>
    cases hex
    unfold SFU.firePublicationEvent
    split_ifs with hremote
    · exact .notFired added pub hremote
    · exact .firePublicationEvent added pub (Bool.eq_false_iff.2 hremote)
  | findAmong p id l =>
    cases l with
    | cons q rest =>
      simp only [exec, SFU.findAmong] at hex
      split_ifs at hex
      split at hex <;> cases hex
      · next pub hpub => exact .found p id q rest pub hpub
      · exact .findAmong p id q rest
    | nil =>
      simp only [exec, SFU.findAmong] at hex
      split at hex <;> cases hex
      · next pub hpub => exact .foundRemote p id pub hpub
      · next hnone => exact .notFound p id hnone
  | subscribeFound p pub =>
    simp only [exec, SFU.subscribeFound] at hex
    split_ifs at hex with hown hmu halready <;> cases hex
    · exact .subscribeOwn p pub hown
    · exact .subscribeFound p pub _ hown (Bool.eq_false_iff.2 hmu) (.inl ⟨rfl, halready⟩)
    · exact .subscribeFound p pub _ hown (Bool.eq_false_iff.2 hmu) (.inr rfl)
  | optOut p id =>
    simp only [exec, SFU.optOut] at hex
    split_ifs at hex with hmu
    cases hex
    exact .optOut p id (Bool.eq_false_iff.2 hmu)
  | leave r p =>
    simp only [exec, SFU.leave] at hex
    split_ifs at hex with hp <;> cases hex
    · exact .leave r p hp
    · exact .notIn r p hp
  | close p =>
    simp only [exec, SFU.close] at hex
    split_ifs at hex with hmu hclosed hall <;> cases hex
    · exact .closedBefore p (Bool.eq_false_iff.2 hmu) hclosed
    · exact .close p (Bool.eq_false_iff.2 hmu) (Bool.eq_false_iff.2 hclosed) hall
  | addRemote r id q =>
    simp only [exec, SFU.addRemote] at hex
    split_ifs at hex with hguard hmem <;> cases hex
    · exact .mirrored r id q hmem
    · refine .addRemote r id q (fun pub hlt heq => ?_) (Finmap.lookup_eq_none.2 hmem)
      by_contra hne
      exact hguard ⟨pub, hlt, heq, Bool.eq_false_iff.2 hne⟩
  | removeRemote r id =>
    simp only [exec, SFU.removeRemote] at hex
    split at hex <;> cases hex
    · next hnone => exact .notMirrored r id hnone
    · next pub hpub => exact .removeRemote r id pub hpub
  | onPublicationAdded | onPublicationRemoved | bootstrap | bootstrapFrom | findPublication
  | retireAll =>
    simp only [exec, SFU.onPublicationAdded, SFU.onPublicationRemoved, SFU.bootstrap,
      SFU.bootstrapFrom, SFU.findPublication, SFU.retireAll] at hex
    split_ifs at hex
    cases hex
    constructor
    assumption
  | ingest | attach | attachLoad | record | countMade | closeQueue | countRemoved | send =>
    cases hex
    constructor

/-- What an event can do. -/
inductive Starts (s : SFU) : Op → SFU → List Instr → Prop
  | join (p r perms) (hp : p ∉ s.joined) :
    Starts s (.join p r perms) ((s.newParticipant p r perms).onRoom r
      fun x => { x with participants := insert p x.participants }) []
  | connected (p) (hp : p ∈ s.joined) (hfirst : (s.participants p).bootstrapped = false) :
    Starts s (.connected p) (s.onParticipant p fun x => { x with bootstrapped := true })
      [.bootstrap p]
  | reconnected (p) (hp : p ∈ s.joined) (hagain : (s.participants p).bootstrapped = true) :
    Starts s (.connected p) (s.onParticipant p fun x => { x with bootstrapped := true }) []
  | onTrack (p id) (hp : p ∈ s.joined) : Starts s (.onTrack p id) s [.publish p id]
  | publishDenied (p id) : Starts s (.onTrack p id) s [.send p .publishDenied]
  | trackEnds (pub) :
    Starts s (.trackEnds pub) (s.onPublication pub fun x => { x with loop := .ended })
      [.removePublication (s.publications pub).participantID (s.publications pub).id]
  | unpublish (p id) : Starts s (.unpublish p id) s [.removePublication p id]
  | subscribe (p id) (hp : p ∈ s.joined) (hperm : (s.participants p).perms.subscribe = true) :
    Starts s (.subscribe p id) s [.findPublication p id]
  | subscribeDenied (p id) :
    Starts s (.subscribe p id) (s.fail p "subscribe not allowed") [.send p .subscribeDenied]
  | unsubscribe (p id) (hp : p ∈ s.joined) : Starts s (.unsubscribe p id) s [.optOut p id]
  | subscriptionFatal (p id) (hp : p ∈ s.joined) :
    Starts s (.subscriptionFatal p id) s [.unsubscribe p id]
  | leave (r p) : Starts s (.leave r p) s [.leave r p]
  | addRemotePublication (r id q) :
    Starts s (.addRemotePublication r id q) s [.addRemote r id q]
  | closeRemote (r id) : Starts s (.closeRemote r id) s [.removeRemote r id]

theorem launch_starts {op : Op} (hla : launch s op = some (s', new)) : Starts s op s' new := by
  cases op with
  | join p r perms =>
    simp only [launch] at hla
    split_ifs at hla with hp
    cases hla
    exact .join p r perms hp
  | connected p =>
    simp only [launch] at hla
    split_ifs at hla with hguard hagain <;>
      cases hla <;>
      rw [not_or, not_not] at hguard
    · exact .reconnected p hguard.1 hagain
    · exact .connected p hguard.1 (Bool.eq_false_iff.2 hagain)
  | onTrack p id =>
    simp only [launch] at hla
    split_ifs at hla with hp hperm <;> cases hla
    · exact .onTrack p id hp
    · exact .publishDenied p id
  | subscribe p id =>
    simp only [launch] at hla
    split_ifs at hla with hp hperm <;> cases hla
    · exact .subscribe p id hp hperm
    · exact .subscribeDenied p id
  | trackEnds | unpublish =>
    simp only [launch] at hla
    split_ifs at hla
    cases hla
    constructor
  | unsubscribe | subscriptionFatal =>
    simp only [launch] at hla
    split_ifs at hla with hp
    cases hla
    constructor
    exact hp
  | leave | addRemotePublication | closeRemote =>
    cases hla
    constructor

end PulseRTC.Sfu
