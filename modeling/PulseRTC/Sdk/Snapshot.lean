import PulseRTC.Foundations.Lists
import PulseRTC.Sdk.Participants

/-!
# The publications after a reconnect

A client that joins again gets `room_joined` with the members of the room and a snapshot of their
publications, which the server takes from the SFU, and reconciles its store with them. The server
leaves participants without publications out of the snapshot, and the client takes a participant
that is not in the snapshot for one whose publications are not known, and keeps what it has.

* `published` is what the store says of the publications of a participant.
* `snapshot_restores_iff`: the store ends with the live publications of every listed participant
  iff it had none of those that have none now, and no other kind for one that is live.
-/

namespace PulseRTC.Sdk

open Foundations List

/-! ## The server -/

/-- `PublicationStat`; its id is its key. -/
structure PublicationStat where
  kind : Kind
  source : Option MediaSource := none
  muted : Bool
  deriving DecidableEq

/-- `SFU.Stats`: the participants of a room of the SFU and their publications, in the order in
which they are listed. -/
abbrev RoomStats := JsMap String (JsMap String PublicationStat)

/-- The live publications of a participant. -/
def livePublications (stats : RoomStats) (id : String) : JsMap String PublicationStat :=
  (stats.lookup id).getD ∅

/-- The entry of a participant in the snapshot. -/
def snapshotParticipant (names : String → Option String) (id : String)
    (pubs : JsMap String PublicationStat) : SnapshotParticipant where
  participantId := id
  name := names id
  tracks := pubs.entries.map fun pub => ⟨pub.1, pub.2.kind, pub.2.source, pub.2.muted⟩

/-- `buildRoomSnapshot`, which leaves out participants without publications. -/
def buildRoomSnapshot (names : String → Option String) (stats : RoomStats) :
    List SnapshotParticipant :=
  (stats.entries.map fun p => snapshotParticipant names p.1 p.2).filter fun sp => sp.tracks ≠ []

/-- The `room_joined` message of `handleJoin`, with the members that were there before and the
snapshot. -/
def roomJoinedOf (m : RoomJoined) (existing : List String) (names : String → Option String)
    (stats : RoomStats) : RoomJoined :=
  { m with
    participants := existing.map fun id => (id, names id)
    snapshot := some (buildRoomSnapshot names stats) }

/-! ## What the store says of publications -/

def published (s : ParticipantStore) (id q : String) : Option (Kind × Bool) :=
  ((s.participant id).publications.lookup q).map fun pub => (pub.kind, pub.muted)

namespace ParticipantStore

variable {s : ParticipantStore} {id j q : String}

theorem participant_set {remote : JsMap String RemoteParticipant} (h : s.remote = remote)
    (rp : RemoteParticipant) :
    ({ s with remote := remote.set id rp } : ParticipantStore).participant j =
      if j = id then rp else s.participant j := by
  unfold participant
  rw [JsMap.lookup_set, ← h]
  split_ifs <;> rfl

theorem published_ensure (name : Option String) :
    published (s.ensure id name) j q = published s j q := by
  unfold ensure
  split
  · rename_i hnone
    unfold published
    rw [participant_set rfl]
    split_ifs with hj
    · rw [hj, participant, hnone]
      rfl
    · rfl
  · rename_i rp hrp
    split_ifs
    · unfold published
      rw [participant_set rfl]
      split_ifs with hj
      · rw [hj, participant, hrp]
        rfl
      · rfl
    · rfl

theorem published_setPublication (p : String) (pub : RemotePublication) :
    published (s.setPublication id p pub) j q =
      if j = id ∧ q = p then some (pub.kind, pub.muted) else published s j q := by
  unfold published setPublication
  dsimp only
  rw [participant_set rfl]
  by_cases hj : j = id
  · rw [if_pos hj]
    dsimp only
    rw [JsMap.lookup_set]
    by_cases hq : q = p
    · rw [if_pos hq, if_pos ⟨hj, hq⟩]
      rfl
    · rw [if_neg hq, if_neg fun h => hq h.2, hj]
  · rw [if_neg hj, if_neg fun h => hj h.1]

theorem published_takeBufferedTrack (streamId : String) (kind : Kind) :
    published (s.takeBufferedTrack streamId kind).2 j q = published s j q := by
  unfold published participant
  rw [takeBufferedTrack_remote]

/-- A publication that is known keeps its kind. -/
theorem published_publish (p : String) (kind : Kind) (source : Option MediaSource) (muted : Bool) :
    published (s.publish id p kind source muted) j q =
      if j = id ∧ q = p then some (((published s id p).map Prod.fst).getD kind, muted)
      else published s j q := by
  unfold publish
  split
  · rename_i pub hpub
    rw [published_setPublication, show published s id p = some (pub.kind, pub.muted) by
      rw [published, hpub]; rfl]
    rfl
  · rename_i hnone
    dsimp only
    rw [published_setPublication, published_takeBufferedTrack, show published s id p = none by
      rw [published, hnone]; rfl]
    rfl

/-- What the tracks of a snapshot make of the publications of a participant. -/
def restored (old : String → Option (Kind × Bool)) (tracks : List SnapshotTrack) (q : String) :
    Option (Kind × Bool) :=
  (tracks.find? (·.publicationId = q)).map fun t => (((old q).map Prod.fst).getD t.kind, t.muted)

theorem published_foldl_publish {tracks : List SnapshotTrack}
    (hnodup : (tracks.map (·.publicationId)).Nodup) :
    published (tracks.foldl (fun s t => s.publish id t.publicationId t.kind t.source t.muted) s)
        j q =
      if j = id then (restored (published s id) tracks q).or (published s id q)
      else published s j q := by
  induction tracks generalizing s with
  | nil =>
    split_ifs with hj
    · rw [hj]
      rfl
    · rfl
  | cons t tracks ih =>
    rw [map_cons, nodup_cons] at hnodup
    rw [foldl_cons, ih hnodup.2]
    by_cases hj : j = id
    · rw [if_pos hj, if_pos hj]
      unfold restored
      rw [find?_cons]
      by_cases hq : t.publicationId = q
      · -- this is the only track of the publication
        have hnone : tracks.find? (·.publicationId = q) = none :=
          find?_key_eq_none (hq ▸ hnodup.1)
        rw [hnone, published_publish, if_pos ⟨rfl, hq.symm⟩]
        simp [hq]
      · rw [published_publish, if_neg fun h => hq h.2.symm]
        simp [hq]
    · rw [if_neg hj, if_neg hj, published_publish, if_neg fun h => hj h.1]

/-- What `room_joined` makes of the publications of a participant that it lists. -/
def Desired.restored (info : Desired) (old : String → Option (Kind × Bool)) :
    String → Option (Kind × Bool) :=
  match info.tracks with
  | none => old
  | some tracks => ParticipantStore.restored old tracks

/-- The tracks that the message lists of one participant are different publications. -/
def Desired.Distinct (info : Desired) : Prop :=
  ∀ tracks ∈ info.tracks, (tracks.map (·.publicationId)).Nodup

theorem published_reconcile {info : Desired} (hinfo : info.Distinct) :
    published (s.reconcile id info) j q =
      if j = id then info.restored (published s id) q else published s j q := by
  unfold reconcile Desired.restored
  cases htracks : info.tracks with
  | none =>
    dsimp only
    rw [published_ensure]
    split_ifs with hj
    · rw [hj]
    · rfl
  | some tracks =>
    dsimp only
    rw [published_foldl_publish (hinfo tracks htracks)]
    have hkept (k : String) : published { s.ensure id info.name with
        remote := (s.ensure id info.name).remote.set id
          { (s.ensure id info.name).participant id with
            publications := ((s.ensure id info.name).participant id).publications.keep
              fun p => p ∈ tracks.map (·.publicationId) } } j k =
        if j = id then
          if k ∈ tracks.map (·.publicationId) then published s j k else none
        else published s j k := by
      unfold published
      rw [participant_set rfl]
      by_cases hj : j = id
      · rw [if_pos hj, if_pos hj]
        dsimp only
        rw [JsMap.lookup_keep, hj]
        simp only [decide_eq_true_eq]
        split_ifs
        · exact published_ensure info.name
        · rfl
      · rw [if_neg hj, if_neg hj]
        exact published_ensure info.name
    by_cases hj : j = id
    · subst hj
      rw [if_pos rfl, if_pos rfl, hkept, if_pos rfl]
      unfold restored
      cases hfind : tracks.find? (·.publicationId = q) with
      | none =>
        have hq : q ∉ tracks.map (·.publicationId) := by
          rw [find?_eq_none] at hfind
          rintro hmem
          obtain ⟨t, ht, rfl⟩ := mem_map.1 hmem
          exact hfind t ht (by simp)
        rw [if_neg hq]
        rfl
      | some t =>
        have hq : q ∈ tracks.map (·.publicationId) :=
          mem_map.2 ⟨t, mem_of_find?_eq_some hfind, by simpa using find?_some hfind⟩
        rw [hkept, if_pos rfl, if_pos hq]
        rfl
    · rw [if_neg hj, if_neg hj, hkept, if_neg hj]

theorem published_foldl_reconcile {l : List (Σ _ : String, Desired)} (hnodup : l.NodupKeys)
    (hinfo : ∀ e ∈ l, e.2.Distinct) :
    published (l.foldl (fun s e => s.reconcile e.1 e.2) s) j q =
      ((l.dlookup j).elim (published s j) fun info => info.restored (published s j)) q := by
  induction l generalizing s with
  | nil => rfl
  | cons e l ih =>
    rw [nodupKeys_cons] at hnodup
    rw [foldl_cons, ih hnodup.2 fun e' he' => hinfo e' (mem_cons_of_mem _ he')]
    have hrec (k : String) : published (s.reconcile e.1 e.2) j k =
        if j = e.1 then e.2.restored (published s e.1) k else published s j k :=
      published_reconcile (hinfo e mem_cons_self)
    by_cases hj : j = e.1
    · subst hj
      rw [dlookup_eq_none.2 hnodup.1, dlookup_cons_eq]
      simpa using hrec q
    · rw [dlookup_cons_ne _ _ hj]
      have heq : published (s.reconcile e.1 e.2) j = published s j := by
        funext k
        rw [hrec k, if_neg hj]
      rw [heq]

/-- **What the store says of a listed participant after `room_joined`.** -/
theorem published_applyRoomJoined {m : RoomJoined} {info : Desired}
    (hdistinct : ∀ e ∈ (desired m).entries, e.2.Distinct)
    (hid : (desired m).lookup id = some info) :
    published (s.applyRoomJoined m) id q = info.restored (published s id) q := by
  unfold applyRoomJoined
  rw [published_foldl_reconcile (desired m).nodupKeys hdistinct]
  have hlook : (desired m).entries.dlookup id = some info := hid
  have hmem : id ∈ desired m := AList.lookup_isSome.1 (by simp [hid])
  have hkeep : published { s with remote := s.remote.keep fun id => id ∈ desired m } id =
      published s id := by
    funext k
    unfold published participant
    rw [JsMap.lookup_keep, if_pos (by simpa using hmem)]
  rw [hlook, hkeep]
  rfl

/-! ## What the message says -/

theorem lookup_foldl_members (l : List (String × Option String)) (d : JsMap String Desired) :
    ((l.foldl (fun d p => d.set p.1 { name := p.2 }) d).lookup id).map Desired.tracks =
      if id ∈ l.map Prod.fst then some none else (d.lookup id).map Desired.tracks := by
  induction l generalizing d with
  | nil => simp
  | cons p l ih =>
    rw [foldl_cons, ih, JsMap.lookup_set, map_cons]
    by_cases hmem : id ∈ l.map Prod.fst
    · rw [if_pos hmem, if_pos (mem_cons_of_mem _ hmem)]
    · rw [if_neg hmem]
      by_cases hid : id = p.1
      · simp [hid]
      · simp [hid, hmem]

theorem lookup_foldl_snapshot {l : List SnapshotParticipant}
    (hnodup : (l.map (·.participantId)).Nodup) (d : JsMap String Desired) :
    ((l.foldl (fun d p => d.set p.participantId
        { name := p.name.or ((d.lookup p.participantId).bind Desired.name),
          tracks := some p.tracks }) d).lookup id).map Desired.tracks =
      ((l.find? (·.participantId = id)).map fun p => some p.tracks).or
        ((d.lookup id).map Desired.tracks) := by
  induction l generalizing d with
  | nil => rfl
  | cons p l ih =>
    rw [map_cons, nodup_cons] at hnodup
    rw [foldl_cons, ih hnodup.2, JsMap.lookup_set, find?_cons]
    by_cases hid : id = p.participantId
    · have hnone : l.find? (·.participantId = id) = none := find?_key_eq_none (hid ▸ hnodup.1)
      rw [hnone]
      simp [hid]
    · simp [hid, Ne.symm hid]

variable {m : RoomJoined} {existing : List String} {names : String → Option String}
  {stats : RoomStats}

theorem nodup_buildRoomSnapshot (names : String → Option String) (stats : RoomStats) :
    ((buildRoomSnapshot names stats).map (·.participantId)).Nodup := by
  refine List.Nodup.sublist (List.Sublist.map _ filter_sublist) ?_
  rw [map_map]
  exact stats.nodupKeys

theorem find?_buildRoomSnapshot (names : String → Option String) (stats : RoomStats)
    (id : String) :
    (buildRoomSnapshot names stats).find? (·.participantId = id) =
      if (livePublications stats id).entries = [] then none
      else some (snapshotParticipant names id (livePublications stats id)) := by
  unfold livePublications
  split_ifs with hlive
  · refine find?_key_eq_none fun hmem => ?_
    obtain ⟨sp, hsp, rfl⟩ := mem_map.1 hmem
    obtain ⟨hsp, htracks⟩ := mem_filter.1 hsp
    obtain ⟨e, he, rfl⟩ := mem_map.1 hsp
    have hlook : stats.lookup e.1 = some e.2 := AList.mem_lookup_iff.2 he
    rw [show (snapshotParticipant names e.1 e.2).participantId = e.1 from rfl, hlook] at hlive
    simp only [Option.getD_some] at hlive
    simp [snapshotParticipant, hlive] at htracks
  · cases hlook : stats.lookup id with
    | none =>
      rw [hlook] at hlive
      exact absurd rfl hlive
    | some pubs =>
      rw [hlook] at hlive
      refine find?_key_eq_some (f := SnapshotParticipant.participantId)
        (nodup_buildRoomSnapshot names stats) (mem_filter.2 ⟨?_, ?_⟩) rfl
      · exact mem_map.2 ⟨⟨id, pubs⟩, AList.mem_lookup_iff.1 hlook, rfl⟩
      · simpa [snapshotParticipant] using hlive

/-- The message has the tracks of the participants with live publications, and only those. -/
theorem desired_tracks (m : RoomJoined) (existing : List String) (names : String → Option String)
    (stats : RoomStats) (id : String) :
    ((desired (roomJoinedOf m existing names stats)).lookup id).map Desired.tracks =
      if (livePublications stats id).entries = [] then
        if id ∈ existing then some none else none
      else some (some (snapshotParticipant names id (livePublications stats id)).tracks) := by
  unfold desired
  simp only [roomJoinedOf, Option.getD_some]
  have hmem : id ∈ (existing.map fun j => (j, names j)).map Prod.fst ↔ id ∈ existing := by simp
  rw [lookup_foldl_snapshot (nodup_buildRoomSnapshot names stats), find?_buildRoomSnapshot,
    lookup_foldl_members, if_congr hmem rfl rfl]
  split_ifs <;> rfl

theorem nodup_tracks (names : String → Option String) (id : String)
    (pubs : JsMap String PublicationStat) :
    ((snapshotParticipant names id pubs).tracks.map (·.publicationId)).Nodup := by
  rw [snapshotParticipant, map_map]
  exact pubs.nodupKeys

theorem find?_tracks (names : String → Option String) (id : String)
    (pubs : JsMap String PublicationStat) (q : String) :
    (snapshotParticipant names id pubs).tracks.find? (·.publicationId = q) =
      (pubs.lookup q).map fun stat => ⟨q, stat.kind, stat.source, stat.muted⟩ := by
  cases hlook : pubs.lookup q with
  | none =>
    refine find?_key_eq_none fun hmem => AList.lookup_eq_none.1 hlook ?_
    rw [snapshotParticipant, map_map] at hmem
    exact hmem
  | some stat =>
    refine find?_key_eq_some (f := SnapshotTrack.publicationId) (nodup_tracks names id pubs) ?_ rfl
    exact mem_map.2 ⟨⟨q, stat⟩, AList.mem_lookup_iff.1 hlook, rfl⟩

theorem desired_distinct (m : RoomJoined) (existing : List String)
    (names : String → Option String) (stats : RoomStats) :
    ∀ e ∈ (desired (roomJoinedOf m existing names stats)).entries, e.2.Distinct := by
  intro e he tracks htracks
  have hlook := desired_tracks m existing names stats e.1
  rw [AList.mem_lookup_iff.2 he, Option.map_some, htracks] at hlook
  split_ifs at hlook
  · cases Option.some.inj hlook
  · obtain rfl := Option.some.inj (Option.some.inj hlook)
    exact nodup_tracks names e.1 _

end ParticipantStore

open ParticipantStore

/-! ## The store and the room -/

/-- What the store has of a participant fits its live publications: it has none if there are none,
and no other kind for one of them. -/
structure Compatible (stats : RoomStats) (s : ParticipantStore) (id : String) : Prop where
  gone : (livePublications stats id).entries = [] → ∀ q, published s id q = none
  kinds : ∀ q pub stat, (s.participant id).publications.lookup q = some pub →
    (livePublications stats id).lookup q = some stat → pub.kind = stat.kind

theorem restored_eq_iff (s : ParticipantStore) (names : String → Option String) (id : String)
    (pubs : JsMap String PublicationStat) :
    (∀ q, restored (published s id) (snapshotParticipant names id pubs).tracks q =
        (pubs.lookup q).map fun stat => (stat.kind, stat.muted)) ↔
      ∀ q pub stat, (s.participant id).publications.lookup q = some pub →
        pubs.lookup q = some stat → pub.kind = stat.kind := by
  refine forall_congr' fun q => ?_
  unfold restored published
  rw [find?_tracks]
  cases (s.participant id).publications.lookup q <;> cases pubs.lookup q <;> simp

/-- **The store ends with the live publications of every listed participant** iff what it had of
them was compatible with these. -/
theorem snapshot_restores_iff (s : ParticipantStore) (m : RoomJoined) (existing : List String)
    (names : String → Option String) (stats : RoomStats) :
    (∀ id ∈ desired (roomJoinedOf m existing names stats), ∀ q,
        published (s.applyRoomJoined (roomJoinedOf m existing names stats)) id q =
          ((livePublications stats id).lookup q).map fun stat => (stat.kind, stat.muted)) ↔
      ∀ id ∈ desired (roomJoinedOf m existing names stats), Compatible stats s id := by
  refine forall₂_congr fun id hid => ?_
  obtain ⟨info, hinfo⟩ := Option.isSome_iff_exists.1 (AList.lookup_isSome.2 hid)
  have htracks := desired_tracks m existing names stats id
  rw [hinfo, Option.map_some] at htracks
  simp only [published_applyRoomJoined (desired_distinct m existing names stats) hinfo]
  unfold Desired.restored
  by_cases hlive : (livePublications stats id).entries = []
  · -- the snapshot leaves the participant out
    have hnone : info.tracks = none := by
      rw [if_pos hlive] at htracks
      split_ifs at htracks
      exact Option.some.inj htracks
    have hempty : livePublications stats id = ∅ := AList.ext hlive
    rw [hnone, hempty]
    simp only [AList.lookup_empty, Option.map_none]
    constructor
    · intro h
      refine ⟨fun _ => h, fun q pub stat _ hstat => ?_⟩
      rw [hempty, AList.lookup_empty] at hstat
      cases hstat
    · intro h
      exact h.gone hlive
  · rw [if_neg hlive] at htracks
    rw [Option.some.inj htracks]
    rw [restored_eq_iff]
    exact ⟨fun h => ⟨fun hgone => absurd hgone hlive, h⟩, Compatible.kinds⟩

/-- Somebody has stopped publishing while the client was away: the store keeps the publication. -/
theorem snapshot_keeps_stale :
    let s : ParticipantStore :=
      (({} : ParticipantStore).ensure "bob").publish "bob" "pub-1" .video none false
    let stats : RoomStats := AList.singleton "bob" ∅
    "bob" ∈ desired (roomJoinedOf { roomId := "room" } ["bob"] (fun _ => none) stats) ∧
      published (s.applyRoomJoined
        (roomJoinedOf { roomId := "room" } ["bob"] (fun _ => none) stats)) "bob" "pub-1" =
          some (.video, false) ∧
      (livePublications stats "bob").lookup "pub-1" = none := by
  decide +kernel

end PulseRTC.Sdk
