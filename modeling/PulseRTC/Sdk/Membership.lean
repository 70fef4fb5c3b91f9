import Mathlib.Data.List.Chain
import PulseRTC.Foundations.Lists
import PulseRTC.Sdk.Room

/-!
# Who is in the room

The messages of the server tell a client who is in its room, and the client tells its user with
`ParticipantConnected` and `ParticipantDisconnected`. Both should agree: for each id the two events
alternate, and `remoteParticipants` has the ids whose last event is `ParticipantConnected`
(`Told`).

* `room_joined` and `participant_left` keep it so, whatever came before.
* `participant_joined` announces its participant, be it there already or not; and a publication
  event of somebody who is not there makes a participant and does not announce it. The server
  retires publications after it has told that the participant left: `left_comes_back`.
-/

namespace PulseRTC.Sdk

open Foundations List

/-! ## What the user is told of a participant -/

/-- What an event tells of the participant `p`: `true` if it has connected. -/
def Event.presence (p : String) : Event → Option Bool
  | .participantConnected id => if id = p then some true else none
  | .participantDisconnected id => if id = p then some false else none
  | _ => none

/-- What the events told of a participant say, if it is there now: it came first, coming and going
took turns, and it has come last exactly if it is there. -/
structure Told (here : Prop) (l : List Bool) : Prop where
  turns : (false :: l).IsChain (· ≠ ·)
  last : here ↔ l.getLast? = some true

namespace Told

variable {here here' : Prop} {l : List Bool}

theorem congr (h : Told here l) (hiff : here' ↔ here) : Told here' l := ⟨h.turns, hiff.trans h.last⟩

/-- The participant comes. -/
theorem comes (h : Told here l) (hnot : ¬ here) (hhere : here') : Told here' (l ++ [true]) where
  turns := by
    rw [← cons_append]
    refine h.turns.append (.singleton _) ?_
    rintro x hx _ hy rfl
    obtain rfl : x = true := by simpa using hy.symm
    rw [getLast?_cons, Option.mem_def, Option.some.injEq] at hx
    cases hlast : l.getLast? with
    | none => simp [hlast] at hx
    | some b =>
      obtain rfl : b = true := by simpa [hlast] using hx
      exact hnot (h.last.2 hlast)
  last := by simp [hhere]

/-- The participant goes. -/
theorem goes (h : Told here l) (hhere : here) (hnot : ¬ here') : Told here' (l ++ [false]) where
  turns := by
    rw [← cons_append]
    refine h.turns.append (.singleton _) ?_
    rintro x hx _ hy rfl
    obtain rfl : x = false := by simpa using hy.symm
    rw [getLast?_cons, h.last.1 hhere] at hx
    simp at hx
  last := by simp [hnot]

end Told

namespace Room

variable {r r' : Room} {p : String}

/-- What the user was told of `p` so far. -/
def presence (r : Room) (p : String) : List Bool := r.events.filterMap (Event.presence p)

/-- What the user was told agrees with the store. -/
def Consistent (r : Room) : Prop := ∀ p, Told (p ∈ r.store.remote) (r.presence p)

/-- Nobody came or went, and the user was told of nobody. -/
structure Silent (r r' : Room) : Prop where
  remote : r'.store.remote = r.store.remote
  presence : ∀ p, r'.presence p = r.presence p

namespace Silent

protected theorem refl (r : Room) : Silent r r := ⟨rfl, fun _ => rfl⟩

theorem trans {t : Room} (h : Silent r r') (h' : Silent r' t) : Silent r t :=
  ⟨h'.remote.trans h.remote, fun p => (h'.presence p).trans (h.presence p)⟩

theorem consistent (h : Silent r r') (hr : r.Consistent) : r'.Consistent := by
  intro p
  rw [h.presence p]
  exact (hr p).congr (by rw [h.remote])

end Silent

/-! ## Functions that tell of nobody -/

section Functions

variable (r)

theorem silent_emit {e : Event} (he : ∀ p, e.presence p = none) : Silent r (r.emit e) :=
  ⟨rfl, fun p => by simp [presence, emit, he p]⟩

theorem silent_setState (s : ConnectionState) : Silent r (r.setState s) := by
  unfold setState
  split_ifs
  · exact .refl r
  · exact (⟨rfl, fun _ => rfl⟩ : Silent r { r with state := s }).trans
      (silent_emit _ fun _ => rfl)

theorem silent_settleConnect (err : Option SdkError) : Silent r (r.settleConnect err) := by
  unfold settleConnect
  split
  · exact .refl r
  · exact ⟨rfl, fun _ => rfl⟩

theorem silent_failConnect (err : SdkError) : Silent r (r.failConnect err) := by
  have hsettle := r.silent_settleConnect (some err)
  have hwant : Silent r { r.settleConnect (some err) with wantConnected := false } :=
    ⟨hsettle.remote, hsettle.presence⟩
  exact hwant.trans (silent_setState _ _)

theorem silent_onFatal (err : SdkError) : Silent r (r.onFatal err) := by
  unfold onFatal
  split_ifs
  · exact r.silent_failConnect err
  · exact r.silent_emit fun _ => rfl

theorem silent_greet (participantId : String) (name : Option String) :
    Silent r (r.greet participantId name) := by
  unfold greet
  split_ifs <;> exact ⟨rfl, fun _ => rfl⟩

theorem silent_createPc (n : ℕ) (fails : Bool) : Silent r (r.createPc n fails) :=
  ⟨rfl, fun _ => rfl⟩

theorem silent_onWelcome (n : ℕ) (participantId : String) (name : Option String) (fails : Bool) :
    Silent r (r.onWelcome n participantId name fails) := by
  have hstore : Silent r { r with store := r.store.applyWelcome participantId } :=
    ⟨rfl, fun _ => rfl⟩
  have hgreet := hstore.trans (silent_greet _ participantId name)
  have hpc := hgreet.trans (silent_createPc _ n fails)
  unfold onWelcome
  dsimp only
  split_ifs
  · exact hpc.trans (silent_onFatal _ _)
  · exact hpc

theorem silent_republish : Silent r r.republish := by
  unfold republish
  split
  · exact .refl r
  · exact ⟨rfl, fun _ => rfl⟩

theorem silent_startQoE : Silent r r.startQoE := by
  unfold startQoE tick
  split_ifs
  · split <;> exact ⟨rfl, fun _ => rfl⟩
  · exact .refl r

/-- All that `room_joined` tells is in `enter`. -/
theorem silent_onRoomJoined (m : RoomJoined) : Silent (r.enter m) (r.onRoomJoined m) := by
  have hsettle := (silent_setState (r.enter m) .connected).trans (silent_settleConnect _ none)
  unfold onRoomJoined
  dsimp only
  split_ifs
  · exact hsettle.trans ((silent_republish _).trans (silent_startQoE _))
  · exact hsettle.trans (silent_startQoE _)

theorem silent_onOwnPublication (n : ℕ) (m : PublicationEvent) :
    Silent r (r.onOwnPublication n m) := by
  unfold onOwnPublication
  split <;> exact ⟨rfl, fun _ => rfl⟩

end Functions

/-! ## `room_joined` -/

/-- Who was removed is told to have left. -/
theorem presence_removedBy (s : ParticipantStore) (m : RoomJoined) :
    ((s.removedBy m).flatMap fun rp =>
      (rp.2.publications.entries.filter fun e => e.2.track.isSome).map
          (fun e => Event.trackUnsubscribed e.1 rp.1) ++
        [.participantDisconnected rp.1]).filterMap (Event.presence p) =
      if p ∈ s.remote ∧ p ∉ ParticipantStore.desired m then [false] else [] := by
  have hkeys : (s.removedBy m).map Prod.fst =
      s.remote.keys.filter fun id => id ∉ ParticipantStore.desired m := by
    simp only [ParticipantStore.removedBy, map_map, AList.keys, keys, filter_map]
    rfl
  have hone : ((s.removedBy m).flatMap fun rp =>
      (rp.2.publications.entries.filter fun e => e.2.track.isSome).map
          (fun e => Event.trackUnsubscribed e.1 rp.1) ++
        [.participantDisconnected rp.1]).filterMap (Event.presence p) =
      ((s.removedBy m).map Prod.fst).filterMap fun id => if id = p then some false else none := by
    induction s.removedBy m with
    | nil => rfl
    | cons rp l ih =>
      rw [flatMap_cons, filterMap_append, ih]
      by_cases hp : rp.1 = p
      all_goals simp [filterMap_map, Function.comp_def, Event.presence, hp]
  rw [hone, hkeys, filterMap_of_nodup (s.remote.keys_nodup.filter _)]
  simp [AList.mem_keys]

/-- Who was added is told to have come. -/
theorem presence_addedBy (s : ParticipantStore) (m : RoomJoined) :
    ((s.addedBy m).map Event.participantConnected).filterMap (Event.presence p) =
      if p ∈ ParticipantStore.desired m ∧ p ∉ s.remote then [true] else [] := by
  have hone : ((s.addedBy m).map Event.participantConnected).filterMap (Event.presence p) =
      (s.addedBy m).filterMap fun id => if id = p then some true else none := by
    rw [filterMap_map]
    rfl
  have hnodup : (s.addedBy m).Nodup := (ParticipantStore.desired m).keys_nodup.filter _
  rw [hone, filterMap_of_nodup hnodup]
  simp [ParticipantStore.addedBy, AList.mem_keys]

theorem presence_enter (m : RoomJoined) :
    (r.enter m).presence p = r.presence p ++
      ((if p ∈ r.store.remote ∧ p ∉ ParticipantStore.desired m then [false] else []) ++
        if p ∈ ParticipantStore.desired m ∧ p ∉ r.store.remote then [true] else []) := by
  rw [← presence_removedBy, ← presence_addedBy, ← filterMap_append, presence, presence,
    ← filterMap_append]
  rfl

/-- **`room_joined` tells of exactly those who came and went.** -/
theorem consistent_enter (hr : r.Consistent) (m : RoomJoined) : (r.enter m).Consistent := by
  intro p
  have hmem : p ∈ (r.enter m).store.remote ↔ p ∈ ParticipantStore.desired m :=
    ParticipantStore.mem_applyRoomJoined
  rw [presence_enter]
  by_cases hold : p ∈ r.store.remote <;> by_cases hnew : p ∈ ParticipantStore.desired m
  · simpa [hold, hnew] using (hr p).congr (by tauto)
  · simpa [hold, hnew] using (hr p).goes hold (hmem.not.2 hnew)
  · simpa [hold, hnew] using (hr p).comes hold (hmem.2 hnew)
  · simpa [hold, hnew] using (hr p).congr (by tauto)

end Room

/-! ## Runs of messages -/

/-- `room_joined` lists the participant. -/
def RoomJoined.Lists (m : RoomJoined) (p : String) : Prop :=
  p ∈ m.participants.map Prod.fst ∨ p ∈ (m.snapshot.getD []).map (·.participantId)

theorem mem_desired {m : RoomJoined} {p : String} :
    p ∈ ParticipantStore.desired m ↔ m.Lists p := by
  unfold RoomJoined.Lists
  refine (JsMap.mem_foldl_set SnapshotParticipant.participantId _ _).trans ?_
  refine (or_congr_right (JsMap.mem_foldl_set Prod.fst _ _)).trans ?_
  rw [or_comm, or_iff_left (AList.notMem_empty p)]

def ServerMessage.isMembership : ServerMessage → Bool
  | .welcome .. | .roomJoined _ | .participantJoined .. | .participantLeft _ | .publication _
  | .subscription _ => true
  | _ => false

/-- A message, the socket it came on, and whether there is no peer connection to be had for it. -/
structure Delivery where
  socket : ℕ
  msg : ServerMessage
  fails : Bool := false

/-- Whom a `participant_joined` announces. -/
def ServerMessage.joiner : ServerMessage → Option String
  | .participantJoined id _ => some id
  | _ => none

/-- Whose publication an event is about. -/
def ServerMessage.publisher : ServerMessage → Option String
  | .publication m => some m.participantId
  | _ => none

/-- The message brings the participant: it announces, lists or publishes for it. -/
def ServerMessage.Brings (p : String) : ServerMessage → Prop
  | .participantJoined id _ => id = p
  | .roomJoined m => m.Lists p
  | .publication m => m.type = .added ∧ m.participantId = p
  | _ => False

namespace Room

variable {r r' : Room} {p : String}

/-- A room handles one of these messages. -/
def deliver (r : Room) (d : Delivery) : Option Room :=
  if d.msg.isMembership then some (r.onMessage d.socket d.msg d.fails) else none

/-- `participant_joined` tells of somebody new, and publication events come from the local
participant or from somebody who is there. -/
def Announced (r : Room) (d : Delivery) : Prop :=
  (∀ id ∈ d.msg.joiner, id ∉ r.store.remote) ∧
    ∀ id ∈ d.msg.publisher,
      id = r.me.identity ∨ r.store.localIdentity = some id ∨ id ∈ r.store.remote

instance (r : Room) (d : Delivery) : Decidable (r.Announced d) :=
  inferInstanceAs (Decidable (_ ∧ _))

/-- What a publication event of the local participant, or of somebody who is there, does to the
members of the store. -/
theorem mem_onPublication {n : ℕ} {m : PublicationEvent}
    (h : m.participantId = r.me.identity ∨ r.store.localIdentity = some m.participantId ∨
      m.participantId ∈ r.store.remote) :
    p ∈ (r.onPublication n m).store.remote ↔ p ∈ r.store.remote := by
  unfold onPublication
  split_ifs with hown
  · rw [(r.silent_onOwnPublication n m).remote]
  · dsimp only
    by_cases hlocal : r.store.localIdentity = some m.participantId
    · rw [ParticipantStore.applyPublicationEvent, if_pos hlocal]
    · rw [ParticipantStore.mem_applyPublicationEvent hlocal]
      have hmem : m.participantId ∈ r.store.remote := by tauto
      constructor
      · rintro (rfl | hp)
        exacts [hmem, hp]
      · exact .inr

theorem presence_onPublication (n : ℕ) (m : PublicationEvent) :
    (r.onPublication n m).presence p = r.presence p := by
  unfold onPublication
  split_ifs
  · exact (r.silent_onOwnPublication n m).presence p
  · rw [presence, filterMap_append]
    have hnone : (publicationEvents m (r.store.applyPublicationEvent m).2).filterMap
        (Event.presence p) = [] := by
      unfold publicationEvents
      split
      · rfl
      · split_ifs
        · rfl
        · rfl
        · rw [filterMap_eq_nil_iff]
          intro e he
          obtain ⟨t, -, rfl⟩ := Option.map_eq_some_iff.1 (Option.mem_toList.1 he)
          rfl
    rw [hnone, append_nil]
    rfl

/-- A participant that is there leaves. -/
theorem consistent_left {id : String} (hr : r.Consistent) (hhere : id ∈ r.store.remote) :
    (({ r with store := r.store.applyParticipantLeft id } : Room).emit
      (.participantDisconnected id)).Consistent := by
  intro p
  have hmem : p ∈ (({ r with store := r.store.applyParticipantLeft id } : Room).emit
      (.participantDisconnected id)).store.remote ↔ p ≠ id ∧ p ∈ r.store.remote :=
    AList.mem_erase
  have hpres : (({ r with store := r.store.applyParticipantLeft id } : Room).emit
      (.participantDisconnected id)).presence p =
      r.presence p ++ [Event.participantDisconnected id].filterMap (Event.presence p) :=
    filterMap_append
  rw [hpres]
  by_cases hp : p = id
  · subst hp
    simpa [Event.presence] using (hr p).goes hhere (hmem.not.2 fun h => h.1 rfl)
  · simpa [Event.presence, Ne.symm hp] using (hr p).congr (by tauto)

variable {d : Delivery}

/-- One message keeps what was told in agreement with the store. -/
theorem deliver_consistent (hr : r.Consistent) (hG : r.Announced d)
    (h : r.deliver d = some r') : r'.Consistent := by
  obtain ⟨n, msg, fails⟩ := d
  unfold deliver at h
  split_ifs at h with hmsg
  cases h
  cases msg with
  | welcome id name => exact (r.silent_onWelcome n id name fails).consistent hr
  | roomJoined m => exact (r.silent_onRoomJoined m).consistent (consistent_enter hr m)
  | participantJoined id name =>
    have hnew : id ∉ r.store.remote := hG.1 id rfl
    intro p
    have hmem : p ∈ (r.onMessage n (.participantJoined id name) fails).store.remote ↔
        p = id ∨ p ∈ r.store.remote := ParticipantStore.mem_ensure
    have hpres : (r.onMessage n (.participantJoined id name) fails).presence p =
        r.presence p ++ [Event.participantConnected id].filterMap (Event.presence p) :=
      filterMap_append
    rw [hpres]
    by_cases hp : p = id
    · subst hp
      simpa [Event.presence] using (hr p).comes hnew (hmem.2 (.inl rfl))
    · simpa [Event.presence, Ne.symm hp] using (hr p).congr (by tauto)
  | participantLeft id =>
    unfold onMessage
    dsimp only
    split_ifs with hhere
    · exact consistent_left hr hhere
    · exact hr
  | publication m =>
    intro p
    exact (presence_onPublication n m).symm ▸ (hr p).congr (mem_onPublication (hG.2 _ rfl))
  | subscription m =>
    intro p
    exact (hr p).congr ParticipantStore.mem_applySubscriptionEvent
  | _ => cases hmsg

/-- A participant that is not there stays away until a message brings it. -/
theorem deliver_away (hp : p ∉ r.store.remote) (hG : r.Announced d)
    (hnot : ¬ d.msg.Brings p) (h : r.deliver d = some r') : p ∉ r'.store.remote := by
  obtain ⟨n, msg, fails⟩ := d
  unfold deliver at h
  split_ifs at h with hmsg
  cases h
  cases msg with
  | welcome id name =>
    show p ∉ (r.onWelcome n id name fails).store.remote
    rwa [(r.silent_onWelcome n id name fails).remote]
  | roomJoined m =>
    show p ∉ (r.onRoomJoined m).store.remote
    rw [(r.silent_onRoomJoined m).remote]
    exact fun h => hnot (mem_desired.1 (ParticipantStore.mem_applyRoomJoined.1 h))
  | participantJoined id name =>
    intro h
    obtain rfl | h := ParticipantStore.mem_ensure.1 h
    exacts [hnot rfl, hp h]
  | participantLeft id =>
    unfold onMessage
    dsimp only
    split_ifs
    · exact fun h => hp (AList.mem_erase.1 h).2
    · exact hp
  | publication m => exact fun h => hp ((mem_onPublication (hG.2 _ rfl)).1 h)
  | subscription m => exact fun h => hp (ParticipantStore.mem_applySubscriptionEvent.1 h)
  | _ => cases hmsg

/-- Nobody is there right after leaving. -/
theorem deliver_left (hd : d.msg = .participantLeft p)
    (h : r.deliver d = some r') : p ∉ r'.store.remote := by
  unfold deliver at h
  rw [hd, if_pos (by rfl)] at h
  cases h
  unfold onMessage
  dsimp only
  split_ifs with hhere
  · exact fun h => (AList.mem_erase.1 h).1 rfl
  · exact hhere

/-- **The user is told who is there, and who left is gone**, in every run in which
`participant_joined` tells of somebody new and publication events come from the local participant
or from somebody who is there. -/
theorem membership_told {r₀ : Room} {ds : List Delivery} (hempty : r₀.store.remote = ∅)
    (hnone : ∀ p, r₀.presence p = []) (hG : Along deliver Announced r₀ ds)
    (hrun : run deliver r₀ ds = some r) :
    (∀ p pre d post, ds = pre ++ d :: post → d.msg = .participantLeft p →
      (∀ e ∈ post, ¬ e.msg.Brings p) → p ∉ r.store.remote) ∧
    ∀ p, (false :: r.presence p).IsChain (· ≠ ·) ∧
      (p ∈ r.store.remote ↔ (r.presence p).getLast? = some true) := by
  constructor
  · rintro p pre d post rfl hd hpost
    obtain ⟨t, ht, hrest⟩ := (run_append_eq_some deliver).1 hrun
    obtain ⟨t', hleft, hrest⟩ := (run_cons_eq_some deliver).1 hrest
    have hG' : Along deliver Announced t' post := (hG.append.2 t ht).2 t' hleft
    refine run_invariant (I := fun r => p ∉ r.store.remote)
      (fun _ _ _ hI hG hstep => deliver_away hI hG.1 hG.2 hstep) (deliver_left hd hleft)
      (hG'.and (Along.of_forall fun e he _ => hpost e he)) hrest
  · have hfirst : r₀.Consistent := by
      intro p
      rw [hnone p, hempty]
      exact ⟨.singleton _, by simp⟩
    intro p
    have htold := run_invariant (I := Consistent)
      (fun _ _ _ hI hG hstep => deliver_consistent hI hG hstep) hfirst hG hrun p
    exact ⟨htold.turns, htold.last⟩

/-- Somebody joins and publishes. -/
def visit : List Delivery :=
  [⟨0, .welcome "alice" none, false⟩, ⟨0, .roomJoined { roomId := "room" }, false⟩,
    ⟨0, .participantJoined "bob" none, false⟩,
    ⟨0, .publication ⟨.added, "pub", "bob", .audio, none, false⟩, false⟩]

/-- A visitor leaves. -/
theorem membership_told_visit :
    ∃ r ∈ run deliver (new true) (visit ++ [⟨0, .participantLeft "bob", false⟩]),
      "bob" ∉ r.store.remote ∧ ∀ p, (false :: r.presence p).IsChain (· ≠ ·) ∧
        (p ∈ r.store.remote ↔ (r.presence p).getLast? = some true) := by
  have hempty : (new true).store.remote = ∅ := rfl
  have hnone (p : String) : (new true).presence p = [] := rfl
  refine exists_mem_and (by decide +kernel) fun r hrun _ => ?_
  exact (membership_told hempty hnone (by decide +kernel) hrun).2

/-- The server tells that a visitor left, and only then retires the publication: the participant is
back, and the user is not told. -/
theorem left_comes_back :
    ∃ r ∈ run deliver (new true) (visit ++ [⟨0, .participantLeft "bob", false⟩,
        ⟨0, .publication ⟨.removed, "pub", "bob", .audio, none, false⟩, false⟩]),
      "bob" ∈ r.store.remote ∧ r.presence "bob" = [true, false] := by
  decide +kernel

end Room

end PulseRTC.Sdk
