import PulseRTC.Sdk.Publishing

/-!
# The sessions of peer connections and publications

A `Negotiator` closes its peer connection before it makes another one, so at most its own is open
(`Negotiator.Only`), and adding and removing tracks changes nothing but the senders
(`Negotiator.Alike`).

A publication, and an echo that waits for its track, is of the session of the socket that announced
it. What a local participant does brings in no session that was not there: if all of its
publications and echoes are of sessions in a set, they stay so (`LocalParticipant.Within`).
-/

namespace PulseRTC.Sdk

open Foundations Function List Option

/-! ## The open peer connection -/

/-- A peer connection without its senders. -/
def PeerConnection.bare (pc : PeerConnection) : ℕ × Bool := (pc.session, pc.closed)

namespace Negotiator

variable {n n' : Negotiator}

/-- Only its own peer connection may be open. -/
def Only (n : Negotiator) : Prop :=
  ∀ i pc, n.pcs[i]? = some pc → pc.closed = false → n.pc = some i

/-- The session of the open peer connection. -/
def session (n : Negotiator) : Option ℕ := n.live.map fun x => x.2.session

/-- The two differ in their senders only. -/
structure Alike (n n' : Negotiator) : Prop where
  pc : n'.pc = n.pc
  pcs : ∀ i : ℕ, (n'.pcs[i]?).map PeerConnection.bare = (n.pcs[i]?).map PeerConnection.bare

namespace Alike

protected theorem refl (n : Negotiator) : Alike n n := ⟨rfl, fun _ => rfl⟩

theorem trans {n'' : Negotiator} (h : Alike n n') (h' : Alike n' n'') : Alike n n'' :=
  ⟨h'.pc.trans h.pc, fun i => (h'.pcs i).trans (h.pcs i)⟩

theorem exists_pc (h : Alike n n') {i : ℕ} {x : PeerConnection} (hx : n'.pcs[i]? = some x) :
    ∃ y, n.pcs[i]? = some y ∧ y.session = x.session ∧ y.closed = x.closed := by
  have heq := h.pcs i
  rw [hx, map_some] at heq
  obtain ⟨y, hy, hpair⟩ := map_eq_some_iff.1 heq.symm
  exact ⟨y, hy, (Prod.mk.inj hpair).1, (Prod.mk.inj hpair).2⟩

theorem only (h : Alike n n') (hn : n.Only) : n'.Only := by
  intro i x hx hopen
  obtain ⟨y, hy, -, hclosed⟩ := h.exists_pc hx
  rw [h.pc]
  exact hn i y hy (hclosed.trans hopen)

theorem session_eq (h : Alike n n') : n'.session = n.session := by
  unfold session live
  rw [h.pc]
  cases n.pc with
  | none => rfl
  | some i =>
    have heq := h.pcs i
    simp only [bind_some]
    cases hx : n'.pcs[i]? with
    | none =>
      rw [hx] at heq
      have hy : n.pcs[i]? = none := by simpa using heq.symm
      rw [hy]
    | some x =>
      obtain ⟨y, hy, hsession, hclosed⟩ := h.exists_pc hx
      rw [hy, bind_some, bind_some, hclosed]
      split_ifs
      · rfl
      · simp [hsession]

end Alike

variable {i : ℕ} {pc : PeerConnection}

/-- The entry of the open peer connection. -/
theorem live_eq_some (h : n.live = some (i, pc)) :
    n.pc = some i ∧ n.pcs[i]? = some pc ∧ pc.closed = false := by
  unfold live at h
  obtain ⟨j, hj, h⟩ := bind_eq_some_iff.1 h
  obtain ⟨x, hx, h⟩ := bind_eq_some_iff.1 h
  split_ifs at h with hclosed
  cases h
  exact ⟨hj, hx, by simpa using hclosed⟩

theorem live_of_open (hpc : n.pc = some i) (hpcs : n.pcs[i]? = some pc)
    (hopen : pc.closed = false) :
    n.live = some (i, pc) := by
  simp [live, hpc, hpcs, hopen]

theorem alike_set (hpc : n.pcs[i]? = some pc) (senders : List (Option Track)) :
    Alike n { n with pcs := n.pcs.set i { pc with senders := senders } } := by
  refine ⟨rfl, fun j => ?_⟩
  dsimp only
  by_cases hj : i = j
  · subst hj
    have hlt : i < n.pcs.length := (List.getElem?_eq_some_iff.1 hpc).1
    simp [List.getElem?_set_self hlt, hpc, PeerConnection.bare]
  · rw [List.getElem?_set_ne hj]

theorem alike_addLocalTrack {track : Track} {sender : Sender}
    (h : n.addLocalTrack track = some (sender, n')) : Alike n n' := by
  unfold addLocalTrack at h
  obtain ⟨⟨i, pc⟩, hlive, h⟩ := bind_eq_some_iff.1 h
  dsimp only at h
  split_ifs at h
  obtain ⟨-, rfl⟩ := Prod.mk.inj (some.inj h)
  exact alike_set (live_eq_some hlive).2.1 _

theorem alike_removeLocalTrack (n : Negotiator) (sender : Sender) :
    Alike n (n.removeLocalTrack sender) := by
  unfold removeLocalTrack
  split
  · exact .refl n
  · next i pc hlive =>
    split_ifs
    · exact alike_set (live_eq_some hlive).2.1 _
    · exact .refl n

theorem alike_removeAll (n : Negotiator) (senders : List Sender) :
    Alike n (senders.foldl removeLocalTrack n) := by
  induction senders generalizing n with
  | nil => exact .refl n
  | cons sender senders ih => exact (n.alike_removeLocalTrack sender).trans (ih _)

/-- Once its own peer connection is closed, none is open. -/
theorem Only.closeOwn (h : n.Only) (hpc : n.closeOwn.pcs[i]? = some pc) : pc.closed = true := by
  unfold Negotiator.closeOwn at hpc
  split at hpc
  · next hnone =>
    by_contra hopen
    exact absurd (hnone.symm.trans (h i pc hpc (by simpa using hopen))) (by simp)
  · next j hj =>
    unfold closePc at hpc
    rw [getElem?_modify] at hpc
    obtain ⟨x, hx, rfl⟩ := map_eq_some_iff.1 hpc
    split_ifs with hij
    · rfl
    · by_contra hopen
      exact hij (some.inj (hj.symm.trans (h i x hx (by simpa using hopen))))

theorem Only.close (h : n.Only) : n.close.Only := by
  intro i pc hpc hopen
  exact absurd (h.closeOwn hpc) (by simp [hopen])

theorem session_close (n : Negotiator) : n.close.session = none := rfl

theorem Only.create (h : n.Only) (session : ℕ) (fails : Bool) : (n.create session fails).Only := by
  intro i pc hpc hopen
  unfold Negotiator.create at hpc ⊢
  dsimp only at hpc ⊢
  split_ifs at hpc ⊢
  · exact absurd (h.closeOwn hpc) (by simp [hopen])
  · rw [List.getElem?_append] at hpc
    split_ifs at hpc with hi
    · exact absurd (h.closeOwn hpc) (by simp [hopen])
    · obtain ⟨hlt, -⟩ := List.getElem?_eq_some_iff.1 hpc
      rw [List.length_singleton] at hlt
      rw [show i = n.closeOwn.pcs.length by omega]

theorem live_closeOwn (n : Negotiator) : n.closeOwn.live = none := by
  unfold closeOwn
  split
  · next hnone => simp [live, hnone]
  · next i hi =>
    simp only [live, closePc, hi, bind_some, getElem?_modify_eq]
    cases n.pcs[i]? <;> rfl

/-- A new peer connection is open, and has no senders. -/
theorem live_create (n : Negotiator) (session : ℕ) (fails : Bool) :
    (n.create session fails).live =
      if fails then none else some (n.closeOwn.pcs.length, { session := session }) := by
  unfold Negotiator.create
  dsimp only
  split_ifs
  · exact n.live_closeOwn
  · simp [live]

theorem session_create (n : Negotiator) (session : ℕ) (fails : Bool) :
    (n.create session fails).session = if fails then none else some session := by
  rw [Negotiator.session, live_create]
  split_ifs <;> rfl

end Negotiator

/-! ## The sessions that a participant speaks of -/

namespace LocalParticipant

/-- The publications and the echoes of a participant are of sessions in `S`. -/
structure Within (S : ℕ → Prop) (p : LocalParticipant) : Prop where
  publications : ∀ id pub, p.publications.lookup id = some pub → S pub.session
  pendingPubs : ∀ kind echo, p.pendingPubs kind = some echo → S echo.session
  pendingScreenPubs : ∀ kind echo, p.pendingScreenPubs kind = some echo → S echo.session
  screen : ∀ sc, p.screen = some sc → ∀ echo ∈ sc.videoPub.toList ++ sc.audioPub.toList,
    S echo.session

namespace Within

variable {S T : ℕ → Prop} {p : LocalParticipant} {n : Negotiator}

theorem mono (h : p.Within S) (hST : ∀ k, S k → T k) : p.Within T where
  publications id pub hpub := hST _ (h.publications id pub hpub)
  pendingPubs kind echo hecho := hST _ (h.pendingPubs kind echo hecho)
  pendingScreenPubs kind echo hecho := hST _ (h.pendingScreenPubs kind echo hecho)
  screen sc hsc echo hecho := hST _ (h.screen sc hsc echo hecho)

/-- The rest of a participant does not matter. -/
theorem congr {q : LocalParticipant} (h : p.Within S) (hpubs : q.publications = p.publications)
    (hpending : q.pendingPubs = p.pendingPubs)
    (hscreens : q.pendingScreenPubs = p.pendingScreenPubs) (hscreen : q.screen = p.screen) :
    q.Within S :=
  ⟨hpubs ▸ h.publications, hpending ▸ h.pendingPubs, hscreens ▸ h.pendingScreenPubs,
    hscreen ▸ h.screen⟩

/-- A participant that has published nothing. -/
theorem of_blank (hpubs : p.publications = ∅) (hpending : p.pendingPubs = fun _ => none)
    (hscreens : p.pendingScreenPubs = fun _ => none) (hscreen : p.screen = none) :
    p.Within S where
  publications id pub hpub := by simp [hpubs] at hpub
  pendingPubs kind echo hecho := by simp [hpending] at hecho
  pendingScreenPubs kind echo hecho := by simp [hscreens] at hecho
  screen sc hsc := by simp [hscreen] at hsc

theorem settle (h : p.Within S) (waiter : Option ℕ) (ok : Bool) :
    (p.settle waiter ok).Within S := by
  unfold LocalParticipant.settle
  split
  · exact h
  · exact h.congr rfl rfl rfl rfl

variable {m : JsMap String LocalPublication} {f : Kind → Option Echo} {sc : Screen}

/-- One more publication. -/
theorem lookup_set (h : ∀ id pub, m.lookup id = some pub → S pub.session) {key : String}
    {pub' : LocalPublication} (hpub' : S pub'.session) :
    ∀ id pub, (m.set key pub').lookup id = some pub → S pub.session := by
  intro id pub hpub
  rw [JsMap.lookup_set] at hpub
  split_ifs at hpub
  · cases hpub
    exact hpub'
  · exact h id pub hpub

/-- Some publications less. -/
theorem lookup_erase (h : ∀ id pub, m.lookup id = some pub → S pub.session) (key : String) :
    ∀ id pub, (m.erase key).lookup id = some pub → S pub.session := by
  intro id pub hpub
  rw [JsMap.lookup_delete] at hpub
  split_ifs at hpub
  exact h id pub hpub

/-- An echo that no longer waits. -/
theorem update_none (h : ∀ kind echo, f kind = some echo → S echo.session) (key : Kind) :
    ∀ kind echo, Function.update f key none kind = some echo → S echo.session := by
  intro kind echo hecho
  by_cases hk : kind = key
  · subst hk
    simp at hecho
  · rw [update_of_ne hk] at hecho
    exact h kind echo hecho

/-- One more echo that waits. -/
theorem update_some (h : ∀ kind echo, f kind = some echo → S echo.session)
    (key : Kind) {echo' : Echo} (hecho' : S echo'.session) :
    ∀ kind echo, Function.update f key (some echo') kind = some echo → S echo.session := by
  intro kind echo hecho
  by_cases hk : kind = key
  · subst hk
    rw [update_self] at hecho
    cases hecho
    exact hecho'
  · rw [update_of_ne hk] at hecho
    exact h kind echo hecho

theorem flushPub (h : p.Within S) (kind : Kind) : (p.flushPub kind).Within S := by
  unfold LocalParticipant.flushPub
  split
  · next echo track hecho _ =>
    have hs := h.settle (p.waiters kind) true
    exact ⟨lookup_set hs.publications (h.pendingPubs _ _ hecho), update_none hs.pendingPubs kind,
      hs.pendingScreenPubs, hs.screen⟩
  · exact h

theorem onPublicationAdded (h : p.Within S) (kind : Kind) (publicationId : String) {session : ℕ}
    (hs : S session) : (p.onPublicationAdded kind publicationId session).Within S :=
  flushPub (p := { p with
    pendingPubs := update p.pendingPubs kind (some ⟨publicationId, session⟩) })
    ⟨h.publications, update_some h.pendingPubs kind hs, h.pendingScreenPubs, h.screen⟩ kind

theorem flushScreenVideo (h : p.Within S) (hsc : p.screen = some sc) :
    ({ (p.flushScreenVideo sc).1 with screen := some (p.flushScreenVideo sc).2 } :
      LocalParticipant).Within S := by
  unfold LocalParticipant.flushScreenVideo
  split
  · next echo hecho hpub =>
    have hs := h.settle sc.waiter true
    refine ⟨lookup_set hs.publications (h.pendingScreenPubs _ _ hecho), hs.pendingPubs,
      update_none hs.pendingScreenPubs .video, ?_⟩
    intro sc' hsc' echo' hecho'
    cases hsc'
    obtain rfl | hecho' := mem_cons.1 hecho'
    · exact h.pendingScreenPubs _ _ hecho
    · exact h.screen sc hsc echo' (mem_append_right _ hecho')
  · refine ⟨h.publications, h.pendingPubs, h.pendingScreenPubs, ?_⟩
    intro sc' hsc'
    cases hsc'
    exact h.screen sc hsc

theorem flushScreenAudio (h : ({ p with screen := some sc } : LocalParticipant).Within S) :
    (p.flushScreenAudio sc).Within S := by
  unfold LocalParticipant.flushScreenAudio
  split
  · next echo track hecho _ _ =>
    refine ⟨lookup_set h.publications (h.pendingScreenPubs _ _ hecho), h.pendingPubs,
      update_none h.pendingScreenPubs .audio, ?_⟩
    intro sc' hsc' echo' hecho'
    cases hsc'
    obtain hecho' | hecho' := mem_append.1 hecho'
    · exact h.screen sc rfl echo' (mem_append_left _ hecho')
    · obtain rfl : echo' = echo := by simpa using hecho'
      exact h.pendingScreenPubs _ _ hecho
  · exact h

theorem flushScreenPub (h : p.Within S) : p.flushScreenPub.Within S := by
  unfold LocalParticipant.flushScreenPub
  split
  · exact h
  · next sc hsc => exact flushScreenAudio (h.flushScreenVideo hsc)

theorem onScreenPublicationAdded (h : p.Within S) (publicationId : String) (kind : Kind)
    {session : ℕ} (hs : S session) :
    (p.onScreenPublicationAdded publicationId kind session).Within S :=
  flushScreenPub (p := { p with
    pendingScreenPubs :=
      update p.pendingScreenPubs kind (some ⟨publicationId, session⟩) })
    ⟨h.publications, h.pendingPubs, update_some h.pendingScreenPubs kind hs, h.screen⟩

theorem onPublicationMuted (h : p.Within S) (publicationId : String) (muted : Bool) :
    (p.onPublicationMuted publicationId muted).Within S := by
  unfold LocalParticipant.onPublicationMuted
  split
  · exact h
  · next pub hpub =>
    exact ⟨lookup_set h.publications (h.publications _ pub hpub), h.pendingPubs,
      h.pendingScreenPubs, h.screen⟩

theorem teardownScreen (h : p.Within S) : (p.teardownScreen n).1.Within S := by
  unfold LocalParticipant.teardownScreen
  split
  · exact ⟨h.publications, h.pendingPubs, nofun, h.screen⟩
  · next sc hsc =>
    have hs := h.settle sc.waiter false
    have herase (l : List Echo) (m : JsMap String LocalPublication)
        (hm : ∀ id pub, m.lookup id = some pub → S pub.session) :
        ∀ id pub, (l.foldl (fun m echo => m.erase echo.publicationId) m).lookup id = some pub →
          S pub.session := by
      induction l generalizing m with
      | nil => exact hm
      | cons echo l ih => exact ih _ (lookup_erase hm echo.publicationId)
    refine ⟨herase _ _ hs.publications, hs.pendingPubs, fun _ _ h => ?_, fun _ h => ?_⟩
    · cases h
    · cases h

/-- A reset participant speaks of no session. -/
theorem resetForReconnect (p : LocalParticipant) (n : Negotiator) :
    (p.resetForReconnect n).1.Within S := by
  have hempty (l : List Echo) :
      l.foldl (fun m echo => m.erase echo.publicationId) (∅ : JsMap String LocalPublication) =
        ∅ := by
    induction l with
    | nil => rfl
    | cons echo l ih => exact ih
  unfold LocalParticipant.resetForReconnect LocalParticipant.teardownScreen
  dsimp only
  split
  · next hsc => exact of_blank rfl rfl rfl hsc
  · next sc _ =>
    unfold LocalParticipant.settle
    split <;> exact of_blank (hempty _) rfl rfl rfl

section

variable (h : p.Within S)

include h

theorem onPublicationRemoved (publicationId : String) :
    (p.onPublicationRemoved publicationId n).1.Within S := by
  have herase : ({ p with publications := p.publications.erase publicationId } :
      LocalParticipant).Within S :=
    ⟨lookup_erase h.publications publicationId, h.pendingPubs, h.pendingScreenPubs, h.screen⟩
  unfold LocalParticipant.onPublicationRemoved
  dsimp only
  split
  · exact herase
  · split_ifs
    · exact herase.teardownScreen
    · exact herase

theorem onPublishDenied : (p.onPublishDenied n).1.Within S := by
  have hs := (h.settle (p.waiters .audio) false).settle (p.waiters .video) false
  have hdenied : ({ ((p.settle (p.waiters .audio) false).settle (p.waiters .video) false) with
      denied := true, waiters := fun _ => none } : LocalParticipant).Within S :=
    hs.congr rfl rfl rfl rfl
  unfold LocalParticipant.onPublishDenied
  dsimp only
  split
  · exact hdenied
  · exact hdenied.teardownScreen

theorem addTrack (kind : Kind) : (p.addTrack kind n).1.Within S := by
  unfold LocalParticipant.addTrack
  split
  · exact h
  · split
    · exact h
    · refine flushPub ?_ kind
      exact h.congr rfl rfl rfl rfl

theorem addTracks : (p.addTracks n).1.Within S := by
  unfold LocalParticipant.addTracks
  dsimp only
  split_ifs
  · exact h.addTrack .audio
  · exact (h.addTrack .audio).addTrack .video

theorem onUserMedia (stream : Stream) : (p.onUserMedia n stream).1.Within S := by
  have hstream : ({ p with stream := some stream } : LocalParticipant).Within S :=
    h.congr rfl rfl rfl rfl
  unfold LocalParticipant.onUserMedia
  dsimp only
  split_ifs
  · exact hstream.addTracks.onPublishDenied
  · exact hstream.addTracks

theorem setKind (kind : Kind) (enabled : Bool) : (p.setKind kind enabled).1.Within S := by
  unfold LocalParticipant.setKind
  split
  · exact h
  · refine ⟨fun id pub hpub => ?_, h.pendingPubs, h.pendingScreenPubs, h.screen⟩
    rw [JsMap.lookup_map] at hpub
    obtain ⟨pub', hpub', rfl⟩ := map_eq_some_iff.1 hpub
    split_ifs <;> exact h.publications id pub' hpub'

theorem onDisplayMedia (video : Track) (audio : Option Track) :
    (p.onDisplayMedia n video audio).1.Within S := by
  have hscreen (sc : Screen) (hv : sc.videoPub = none) (ha : sc.audioPub = none) (k : ℕ) :
      ({ p with screen := some sc, promises := k } : LocalParticipant).Within S := by
    refine ⟨h.publications, h.pendingPubs, h.pendingScreenPubs, fun sc' hsc' => ?_⟩
    cases hsc'
    simp [hv, ha]
  unfold LocalParticipant.onDisplayMedia
  dsimp only
  split
  · exact (hscreen _ rfl rfl p.promises).teardownScreen
  · split
    · exact (hscreen _ rfl rfl p.promises).teardownScreen
    all_goals exact (hscreen _ rfl rfl (p.promises + 1)).flushScreenPub

theorem entry {e : Σ _ : String, LocalPublication}
    (he : e ∈ p.publications.entries) : S e.2.session :=
  h.publications e.1 e.2 (AList.mem_lookup_iff.2 he)

/-- The frames with which a participant mutes. -/
theorem setKind_frames (kind : Kind) (enabled : Bool) :
    ∀ frame ∈ (p.setKind kind enabled).2, ∀ k ∈ frame.sessions, S k := by
  intro frame hframe k hk
  unfold LocalParticipant.setKind at hframe
  split at hframe
  · cases hframe
  · obtain ⟨e, he, rfl⟩ := mem_map.1 hframe
    obtain rfl := mem_singleton.1 hk
    exact h.entry (mem_of_mem_filter he)

/-- The frames with which a participant stops its screen share. -/
theorem unpublishes :
    ∀ frame ∈ (p.screen.map Screen.unpublishes).getD [], ∀ k ∈ frame.sessions, S k := by
  intro frame hframe k hk
  cases hsc : p.screen with
  | none =>
    rw [hsc] at hframe
    cases hframe
  | some sc =>
    rw [hsc] at hframe
    obtain ⟨echo, hecho, rfl⟩ := mem_map.1 hframe
    obtain rfl := mem_singleton.1 hk
    exact h.screen sc hsc echo hecho

end

end Within

/-! What a participant does to the peer connections. -/

variable (p : LocalParticipant) (n : Negotiator)

theorem alike_teardownScreen : n.Alike (p.teardownScreen n).2 := by
  unfold teardownScreen
  split
  · exact .refl n
  · exact n.alike_removeAll _

theorem alike_resetForReconnect : n.Alike (p.resetForReconnect n).2 := alike_teardownScreen _ n

theorem alike_onPublicationRemoved (publicationId : String) :
    n.Alike (p.onPublicationRemoved publicationId n).2 := by
  unfold onPublicationRemoved
  dsimp only
  split
  · exact .refl n
  · split_ifs
    · exact alike_teardownScreen _ n
    · exact .refl n

theorem alike_onPublishDenied : n.Alike (p.onPublishDenied n).2 := by
  unfold onPublishDenied
  dsimp only
  split
  · exact .refl n
  · exact alike_teardownScreen _ n

theorem alike_addTrack (kind : Kind) : n.Alike (p.addTrack kind n).2.1 := by
  unfold addTrack
  split
  · exact .refl n
  · split
    · exact .refl n
    · next hadd => exact Negotiator.alike_addLocalTrack hadd

theorem alike_addTracks : n.Alike (p.addTracks n).2.1 := by
  have h := p.alike_addTrack n .audio
  unfold addTracks
  dsimp only
  split_ifs
  · exact h
  · exact h.trans (alike_addTrack _ _ .video)

theorem alike_onUserMedia (stream : Stream) : n.Alike (p.onUserMedia n stream).2 := by
  have h := alike_addTracks { p with stream := some stream } n
  unfold onUserMedia
  dsimp only
  split_ifs
  · exact h.trans (alike_onPublishDenied _ _)
  · exact h

theorem alike_onDisplayMedia (video : Track) (audio : Option Track) :
    n.Alike (p.onDisplayMedia n video audio).2 := by
  unfold onDisplayMedia
  dsimp only
  split
  · exact alike_teardownScreen _ n
  · next videoSender n₁ hvideo =>
    have h := Negotiator.alike_addLocalTrack hvideo
    split
    · exact h.trans (alike_teardownScreen _ n₁)
    · next audioSender n₂ haudio =>
      obtain ⟨t, -, ht⟩ := map_eq_some_iff.1 haudio
      exact h.trans (Negotiator.alike_addLocalTrack ht)
    · exact h

end LocalParticipant

end PulseRTC.Sdk
