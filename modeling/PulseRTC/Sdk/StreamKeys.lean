import PulseRTC.Sdk.Statistics

/-!
# The streams that the statistics of a client are filed under

The engine compares the counters of a sample with those of the last one with the same key: the
participant, the direction, the kind and an id. The id of an inbound stream is that of its track.
The id of an outbound one is that of the first publication of its kind, so the camera and the screen
have the same.

* `streams_apart_iff`: when the media streams of a report have different keys.
-/

namespace PulseRTC.Sdk

open PulseRTC.Signaling PulseRTC.Quality List Option

/-- The direction and kind of an entry for a media stream. -/
def media (s : Object) : Option (Direction × Quality.Kind) :=
  (if s "type" = some (.string "outbound-rtp") ∧ truthy (s "isRemote") = false then
    some .outbound
  else if s "type" = some (.string "inbound-rtp") then some .inbound
  else none).bind fun dir =>
    ((validKind (string (s "kind"))).filter fun k => k ≠ .connection).map fun kind => (dir, kind)

/-- The track identifier of an entry, as the server reads it. -/
def trackIdentifier (s : Object) : String := string (orEmpty (s "trackIdentifier"))

/-- The key that the samples of a media stream get. -/
def mediaKey (localPubId : Option Value → Option String) (id : String) (s : Object) :
    Option StreamKey :=
  (media s).map fun (dir, kind) =>
    { participant := id, direction := dir, kind := kind
      trackID := if dir = .outbound then (localPubId (s "kind")).getD "" else trackIdentifier s }

/-- The key that a sample of a report gets, unless it is one of the connection. -/
def sampleKey (id : String) (o : Object) : Option StreamKey :=
  (((QualitySample.decode o).sample id).map Sample.key).filter fun k => k.kind ≠ .connection

variable {report : List Object} {localPubId : Option Value → Option String} {id : String}

/-- Two values that are read as one kind are the same. -/
theorem eq_of_validKind {v w : Option Value} {kind : Quality.Kind}
    (hv : validKind (string v) = some kind) (hw : validKind (string w) = some kind) : v = w := by
  unfold validKind at hv hw
  split at hv <;> cases hv <;> split at hw <;> cases hw
  all_goals
    next hv _ hw => rw [eq_of_string hv (by decide), eq_of_string hw (by decide)]

theorem sampleKey_eq (o : Object) : sampleKey id o =
    ((validKind (string (o "kind"))).filter fun k => k ≠ .connection).bind fun kind =>
      (validDirection (string (o "direction"))).map fun dir =>
        { participant := id, direction := dir, kind := kind
          trackID := string (o "publicationId") } := by
  unfold sampleKey QualitySample.sample
  change Option.filter _ (Option.map _ ((validKind (string (o "kind"))).bind _)) = _
  cases validKind (string (o "kind")) with
  | none => rfl
  | some kind => cases kind <;> cases h : validDirection (string (o "direction")) <;>
      simp [QualitySample.decode, h, Option.filter]

theorem sampleKey_entry (now : ℤ) (s : Object) :
    (collectEntry report localPubId now s).bind (sampleKey id) = mediaKey localPubId id s := by
  unfold collectEntry mediaKey media
  dsimp only
  split_ifs
  · rw [bind_some, sampleKey_eq]
    simp [object, lookup_cons, string, validDirection, map_eq_bind, bind_assoc]
  · rw [bind_some, sampleKey_eq]
    simp [object, lookup_cons, string, validDirection, trackIdentifier, map_eq_bind, bind_assoc]
  · rw [bind_some, sampleKey_eq]
    simp [object, lookup_cons, string, validKind]
  · rfl

/-- The samples of media streams that the engine gets have these keys. -/
theorem keys_of_report {now : ℚ} {roomID : String} {fed : List Sample}
    (h : handleQualityReport roomID id (collectOnce report localPubId now) = .ok fed) :
    (fed.map Sample.key).filter (fun k => k.kind ≠ .connection) =
      report.filterMap (mediaKey localPubId id) := by
  unfold handleQualityReport at h
  split_ifs at h
  cases h
  rw [map_filterMap, filter_filterMap]
  change (collectOnce report localPubId now).filterMap (sampleKey id) = _
  have hentries : (report.filterMap (collectEntry report localPubId ⌊now + 1 / 2⌋)).filterMap
      (sampleKey id) = report.filterMap (mediaKey localPubId id) := by
    rw [filterMap_filterMap]
    exact congrArg (report.filterMap ·) (funext fun s => sampleKey_entry _ s)
  unfold collectOnce
  dsimp only
  split_ifs
  · exact hentries
  · -- the sample that is added is one of the connection
    rw [filterMap_append, hentries]
    simp [sampleKey_eq, object, lookup_cons, string, validKind]

/-- Two entries for media streams of the same direction and kind are not outbound, and of two
tracks. -/
def Apart (s s' : Object) : Prop :=
  ∀ m ∈ media s, m ∈ media s' → m.1 ≠ .outbound ∧ trackIdentifier s ≠ trackIdentifier s'

instance (s s' : Object) : Decidable (Apart s s') := inferInstanceAs (Decidable (∀ _, _))

theorem validKind_of_media {s : Object} {m : Direction × Quality.Kind} (h : m ∈ media s) :
    validKind (string (s "kind")) = some m.2 := by
  obtain ⟨dir, -, h⟩ := bind_eq_some_iff.1 h
  obtain ⟨kind, hkind, rfl⟩ := map_eq_some_iff.1 h
  exact (filter_eq_some_iff.1 hkind).1

theorem apart_iff {s s' : Object} :
    (∀ k, mediaKey localPubId id s = some k → ∀ k', mediaKey localPubId id s' = some k' →
      k ≠ k') ↔ Apart s s' := by
  constructor
  · intro h m hm hm'
    have hne := h _ (map_eq_some_iff.2 ⟨m, hm, rfl⟩) _
      (map_eq_some_iff.2 ⟨m, hm', rfl⟩)
    rw [eq_of_validKind (validKind_of_media hm) (validKind_of_media hm')] at hne
    exact ⟨fun hout => hne (by simp [hout]), fun htrack => hne (by rw [htrack])⟩
  · rintro h k hk k' hk' rfl
    obtain ⟨m, hm, rfl⟩ := map_eq_some_iff.1 hk
    obtain ⟨m', hm', heq⟩ := map_eq_some_iff.1 hk'
    simp only [StreamKey.mk.injEq] at heq
    obtain ⟨-, hdir, hkind, htrack⟩ := heq
    obtain rfl : m' = m := Prod.ext hdir hkind
    obtain ⟨hin, hne⟩ := h m' hm hm'
    rw [if_neg hin, if_neg hin] at htrack
    exact hne htrack.symm

/-- **The streams of a report are tracked apart if and only if** no two are outbound and of one
kind, or inbound and of one kind and track. -/
theorem streams_apart_iff {p : LocalParticipant} {now : ℚ} {roomID : String} {fed : List Sample}
    (h : handleQualityReport roomID id (collectOnce report p.localPubId now) = .ok fed) :
    ((fed.map Sample.key).filter fun k => k.kind ≠ .connection).Nodup ↔
      report.Pairwise Apart := by
  rw [keys_of_report h, List.Nodup, pairwise_filterMap]
  exact List.Pairwise.iff fun _ _ => apart_iff

/-- A participant who has published the camera and the screen. -/
def screenSharer : LocalParticipant where
  publications := (({} : LocalParticipant).publications.set "cam"
    { kind := .video, source := .camera, track := ⟨"t1", .video⟩, session := 0 }).set "scr"
    { kind := .video, source := .screen, track := ⟨"t2", .video⟩, session := 0 }

/-- The entry of a report for a stream of this type and kind. -/
def rtp (type kind id : String) : Object :=
  object [("id", some (.string id)), ("type", some (.string type)), ("kind", some (.string kind)),
    ("trackIdentifier", some (.string id))]

/-- The samples that the engine gets from this participant for a report. -/
def samplesOf (report : List Object) : Except String (List Sample) :=
  handleQualityReport "room" "alice" (collectOnce report screenSharer.localPubId 0)

/-- The streams of a participant who sends camera and microphone, and receives a camera. -/
def callReport : List Object :=
  [rtp "outbound-rtp" "video" "o1", rtp "outbound-rtp" "audio" "o2", rtp "inbound-rtp" "video" "i1"]

/-- Each stream is tracked by a key of its own. -/
theorem streams_apart_iff_call : ∃ fed ∈ (samplesOf callReport).toOption, fed.length = 4 ∧
    ((fed.map Sample.key).filter fun k => k.kind ≠ .connection).Nodup := by
  obtain ⟨fed, hfed, hlen⟩ : ∃ fed ∈ (samplesOf callReport).toOption, fed.length = 4 := by
    decide +kernel
  exact ⟨fed, hfed, hlen, (streams_apart_iff (Foundations.eq_ok_of_mem hfed)).2 (by decide +kernel)⟩

/-- The camera and the screen are two streams, with one key. -/
theorem camera_and_screen_alike : ∃ fed ∈
      (samplesOf [rtp "outbound-rtp" "video" "o1", rtp "outbound-rtp" "video" "o2"]).toOption,
    (fed.map Sample.key).filter (fun k => k.kind ≠ .connection) =
      List.replicate 2 ⟨"alice", .outbound, .video, "cam"⟩ := by
  decide +kernel

end PulseRTC.Sdk
