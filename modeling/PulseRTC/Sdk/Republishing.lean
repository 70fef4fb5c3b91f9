import PulseRTC.Sdk.LocalMedia
import PulseRTC.Sdk.Session

/-!
# Local media across reconnects

A reconnect makes a new peer connection, and the tracks of the captured stream have to be added to
it again. `_republish` does so, but only if the `room_joined` of the rejoin says that the session
was resumed. If the server has refused the resume and the client has joined afresh, the flag is not
set, and the client is connected without its media.

* `Sends T`: what may happen to the senders while the tracks in `T` stay where they are. Screen
  shares come and go in this way (`Lane`).
* `Session.Published` is the invariant: the tracks of the captured stream are all at the open peer
  connection, or none of them is; and while the room is connected, they are.
* `media_survives` and `media_lost`.
-/

namespace PulseRTC.Sdk

open Foundations Function List Option

/-! ## Senders -/

/-- The senders of a peer connection have captured tracks, each at most one sender. -/
structure Clean (captured : List Track) (l : List (Option Track)) : Prop where
  once : ∀ t, l.count (some t) ≤ 1
  captured : ∀ t, some t ∈ l → t ∈ captured

/-- What may happen to a list of senders, with the tracks in `T` staying where they are: tracks of
other senders are removed, and senders are added. -/
structure Shifts (T : Track → Prop) (captured : List Track) (l l' : List (Option Track)) :
    Prop where
  slots : ∀ (k : ℕ) x, l[k]? = some x → ∃ y, l'[k]? = some y ∧ (y = x ∨ y = none)
  spares : ∀ t, T t → (some t ∈ l' ↔ some t ∈ l)
  clean : Clean captured l → Clean captured l'

namespace Shifts

variable {T : Track → Prop} {captured : List Track} {l l' l'' : List (Option Track)}

theorem trans (h : Shifts T captured l l') (h' : Shifts T captured l' l'') :
    Shifts T captured l l'' where
  slots k x hx := by
    obtain ⟨y, hy, hyx⟩ := h.slots k x hx
    obtain ⟨z, hz, hzy⟩ := h'.slots k y hy
    refine ⟨z, hz, ?_⟩
    obtain rfl | rfl := hzy
    · exact hyx
    · exact .inr rfl
  spares t ht := (h'.spares t ht).trans (h.spares t ht)
  clean hl := h'.clean (h.clean hl)

/-- A sender is added. -/
theorem append {t : Track} (ht : ¬ T t) (hcap : t ∈ captured) (hnew : some t ∉ l) :
    Shifts T captured l (l ++ [some t]) where
  slots k x hx := by
    obtain ⟨hk, -⟩ := List.getElem?_eq_some_iff.1 hx
    exact ⟨x, by rw [List.getElem?_append_left hk, hx], .inl rfl⟩
  spares u hu := by
    have hne : u ≠ t := fun h => ht (h ▸ hu)
    simp [hne]
  clean hl := by
    refine ⟨fun u => ?_, fun u hu => ?_⟩
    · rw [List.count_append]
      by_cases hut : u = t
      · subst hut
        rw [List.count_eq_zero.2 hnew]
        simp
      · have hzero : [some t].count (some u) = 0 := by
          rw [List.count_eq_zero]
          simpa using hut
        rw [hzero]
        exact hl.once u
    · obtain hu | hu := List.mem_append.1 hu
      · exact hl.captured u hu
      · obtain rfl : u = t := by simpa using hu
        exact hcap

theorem remove {k : ℕ} {x : Option Track} (hx : l[k]? = some x) (hT : ∀ t, x = some t → ¬ T t) :
    Shifts T captured l (l.set k none) where
  slots j y hy := by
    obtain ⟨hj, -⟩ := List.getElem?_eq_some_iff.1 hy
    by_cases hkj : k = j
    · subst hkj
      exact ⟨none, List.getElem?_set_self hj, .inr rfl⟩
    · exact ⟨y, by rw [List.getElem?_set_ne hkj, hy], .inl rfl⟩
  spares t ht := by
    constructor
    · intro h
      exact (List.mem_or_eq_of_mem_set h).resolve_right (by simp)
    · intro h
      obtain ⟨j, hj⟩ := List.mem_iff_getElem?.1 h
      have hkj : k ≠ j := by
        rintro rfl
        exact hT t (mem_unique hx hj) ht
      exact List.mem_iff_getElem?.2 ⟨j, by rw [List.getElem?_set_ne hkj, hj]⟩
  clean hl := by
    obtain ⟨hk, -⟩ := List.getElem?_eq_some_iff.1 hx
    refine ⟨fun t => ?_, fun t ht => ?_⟩
    · have hcount : (l.set k none).count (some t) ≤ l.count (some t) := by
        rw [List.count_set hk]
        simp
      exact hcount.trans (hl.once t)
    · exact hl.captured t ((List.mem_or_eq_of_mem_set ht).resolve_right (by simp))

end Shifts

/-! ## Peer connections -/

namespace Negotiator

variable {T : Track → Prop} {captured : List Track} {n n' n'' : Negotiator}

/-- What may happen to the senders of the open peer connection, with the tracks in `T` staying where
they are. -/
inductive Sends (T : Track → Prop) (captured : List Track) (n : Negotiator) : Negotiator → Prop
  | refl : Sends T captured n n
  | put {i : ℕ} {pc : PeerConnection} {l : List (Option Track)} (hlive : n.live = some (i, pc))
    (hl : Shifts T captured pc.senders l) :
    Sends T captured n { n with pcs := n.pcs.set i { pc with senders := l } }

variable {i : ℕ} {pc : PeerConnection}

/-- The open peer connection, once its senders have changed. -/
theorem live_put (hlive : n.live = some (i, pc)) (l : List (Option Track)) :
    ({ n with pcs := n.pcs.set i { pc with senders := l } } : Negotiator).live =
      some (i, { pc with senders := l }) := by
  obtain ⟨hpc, hpcs, hopen⟩ := live_eq_some hlive
  have hlt : i < n.pcs.length := (List.getElem?_eq_some_iff.1 hpcs).1
  exact live_of_open hpc (List.getElem?_set_self hlt) hopen

namespace Sends

theorem trans (h : Sends T captured n n') (h' : Sends T captured n' n'') :
    Sends T captured n n'' := by
  cases h with
  | refl => exact h'
  | put hlive hl =>
    cases h' with
    | refl => exact .put hlive hl
    | put hlive' hl' =>
      rw [live_put hlive] at hlive'
      cases hlive'
      dsimp only
      rw [set_set]
      exact .put hlive (hl.trans hl')

/-- A track that is not in `T` is added. -/
theorem add {t : Track} {sender : Sender} (h : n.addLocalTrack t = some (sender, n'))
    (ht : ¬ T t) (hcap : t ∈ captured) : Sends T captured n n' := by
  unfold addLocalTrack at h
  obtain ⟨⟨i, pc⟩, hlive, h⟩ := bind_eq_some_iff.1 h
  dsimp only at h
  split_ifs at h with hnew
  obtain ⟨-, rfl⟩ := Prod.mk.inj (some.inj h)
  exact .put hlive (.append ht hcap hnew)

end Sends

/-- All peer connections have clean senders. -/
def AllClean (captured : List Track) (n : Negotiator) : Prop :=
  ∀ pc ∈ n.pcs, Clean captured pc.senders

/-- The sender is there, and its track, if it has one, is in `shared`. -/
def Slot (shared : Track → Prop) (n : Negotiator) (sender : Sender) : Prop :=
  ∃ pc x, n.pcs[sender.pc]? = some pc ∧ pc.senders[sender.index]? = some x ∧
    ∀ t, x = some t → shared t

variable {shared : Track → Prop} {sender : Sender}

namespace Sends

theorem allClean (h : Sends T captured n n') (hn : AllClean captured n) :
    AllClean captured n' := by
  cases h with
  | refl => exact hn
  | put hlive hl =>
    intro pc' hpc'
    obtain hpc' | rfl := mem_or_eq_of_mem_set hpc'
    · exact hn pc' hpc'
    · exact hl.clean (hn _ (mem_of_getElem? (live_eq_some hlive).2.1))

theorem slot (h : Sends T captured n n') (hs : Slot shared n sender) :
    Slot shared n' sender := by
  cases h with
  | refl => exact hs
  | @put i pc l hlive hl =>
    obtain ⟨pc', x, hpc', hx, hshared⟩ := hs
    obtain ⟨-, hpcs, -⟩ := live_eq_some hlive
    by_cases hi : i = sender.pc
    · subst hi
      obtain rfl : pc = pc' := mem_unique hpcs hpc'
      obtain ⟨y, hy, hyx⟩ := hl.slots _ _ hx
      have hlt := (List.getElem?_eq_some_iff.1 hpcs).1
      refine ⟨_, y, List.getElem?_set_self hlt, hy, ?_⟩
      obtain rfl | rfl := hyx
      · exact hshared
      · nofun
    · exact ⟨pc', x, by rw [← hpc']; exact List.getElem?_set_ne hi, hx, hshared⟩

/-- A screen's sender is removed. -/
theorem remove (hs : Slot shared n sender) (hT : ∀ t, T t → ¬ shared t) :
    Sends T captured n (n.removeLocalTrack sender) := by
  unfold removeLocalTrack
  split
  · exact .refl
  · next i pc hlive =>
    split_ifs with hi
    · obtain ⟨pc', x, hpc', hx, hshared⟩ := hs
      obtain ⟨-, hpcs, -⟩ := live_eq_some hlive
      obtain rfl : pc = pc' := some.inj (hpcs.symm.trans (hi ▸ hpc'))
      exact .put hlive (.remove hx fun t ht hTt => hT t hTt (hshared t ht))
    · exact .refl

theorem removeAll {senders : List Sender} (hs : ∀ sender ∈ senders, Slot shared n sender)
    (hT : ∀ t, T t → ¬ shared t) : Sends T captured n (senders.foldl removeLocalTrack n) := by
  induction senders generalizing n with
  | nil => exact .refl
  | cons sender senders ih =>
    have hfirst : Sends T captured n (n.removeLocalTrack sender) :=
      remove (hs sender mem_cons_self) hT
    exact hfirst.trans (ih fun s h => hfirst.slot (hs s (mem_cons_of_mem _ h)))

end Sends

/-- All tracks of the stream are at the open peer connection. -/
def Held (n : Negotiator) (stream : Stream) : Prop :=
  ∃ x, n.live = some x ∧ ∀ t ∈ stream.tracks, some t ∈ x.2.senders

/-- No track of the stream is at the open peer connection. -/
def Free (n : Negotiator) (stream : Stream) : Prop :=
  ∀ x, n.live = some x → ∀ t ∈ stream.tracks, some t ∉ x.2.senders

variable {stream : Stream}

theorem Sends.held (h : Sends T captured n n') (hT : ∀ t ∈ stream.tracks, T t)
    (hn : n.Held stream) : n'.Held stream := by
  cases h with
  | refl => exact hn
  | put hlive hl =>
    obtain ⟨x, hx, hsenders⟩ := hn
    obtain rfl := mem_unique hlive hx
    exact ⟨_, live_put hlive _, fun t ht => (hl.spares t (hT t ht)).2 (hsenders t ht)⟩

theorem Sends.free (h : Sends T captured n n') (hT : ∀ t ∈ stream.tracks, T t)
    (hn : n.Free stream) : n'.Free stream := by
  cases h with
  | refl => exact hn
  | put hlive hl =>
    intro x hx t ht
    obtain rfl := some.inj ((live_put hlive _).symm.trans hx)
    exact fun hmem => hn _ hlive t ht ((hl.spares t (hT t ht)).1 hmem)

theorem Sends.live (h : Sends T captured n n') (hn : n.live.isSome = true) :
    n'.live.isSome = true := by
  cases h with
  | refl => exact hn
  | put hlive hl => simp [live_put hlive]

theorem Slot.added {t : Track} (h : n.addLocalTrack t = some (sender, n')) (ht : shared t) :
    n'.Slot shared sender := by
  unfold addLocalTrack at h
  obtain ⟨⟨i, pc⟩, hlive, h⟩ := bind_eq_some_iff.1 h
  dsimp only at h
  split_ifs at h
  cases h
  have hlt := (List.getElem?_eq_some_iff.1 (live_eq_some hlive).2.1).1
  refine ⟨_, some t, List.getElem?_set_self hlt, by simp, fun u hu => ?_⟩
  cases hu
  exact ht

theorem AllClean.mono {captured' : List Track} (hn : AllClean captured n)
    (h : captured ⊆ captured') : AllClean captured' n :=
  fun pc hpc => ⟨(hn pc hpc).once, fun t ht => h ((hn pc hpc).captured t ht)⟩

theorem Free.of_none (h : n.live = none) : n.Free stream := by
  intro x hx
  rw [h] at hx
  cases hx

theorem Free.of_fresh (hn : AllClean captured n) (hfresh : ∀ t ∈ stream.tracks, t ∉ captured) :
    n.Free stream := by
  rintro ⟨i, pc⟩ hlive t ht hmem
  exact hfresh t ht ((hn pc (mem_of_getElem? (live_eq_some hlive).2.1)).captured t hmem)

/-- `closeOwn` leaves the senders. -/
theorem pcs_closeOwn (h : n.closeOwn.pcs[i]? = some pc) :
    ∃ pc', n.pcs[i]? = some pc' ∧ pc'.senders = pc.senders := by
  unfold closeOwn at h
  split at h
  · exact ⟨pc, h, rfl⟩
  · unfold closePc at h
    rw [getElem?_modify] at h
    obtain ⟨pc', hpc', rfl⟩ := map_eq_some_iff.1 h
    refine ⟨pc', hpc', ?_⟩
    split_ifs <;> rfl

theorem closeOwn_pcs (h : n.pcs[i]? = some pc) :
    ∃ pc', n.closeOwn.pcs[i]? = some pc' ∧ pc'.senders = pc.senders := by
  unfold closeOwn
  split
  · exact ⟨pc, h, rfl⟩
  · unfold closePc
    rw [getElem?_modify, h]
    refine ⟨_, rfl, ?_⟩
    split_ifs <;> rfl

theorem AllClean.closeOwn (h : AllClean captured n) : AllClean captured n.closeOwn := by
  intro pc hpc
  obtain ⟨i, hi⟩ := mem_iff_getElem?.1 hpc
  obtain ⟨pc', hpc', hsenders⟩ := pcs_closeOwn hi
  exact hsenders ▸ h pc' (mem_of_getElem? hpc')

theorem Slot.closeOwn (h : Slot shared n sender) : Slot shared n.closeOwn sender := by
  obtain ⟨pc, x, hpc, hx, hshared⟩ := h
  obtain ⟨pc', hpc', hsenders⟩ := closeOwn_pcs hpc
  exact ⟨pc', x, hpc', hsenders ▸ hx, hshared⟩

theorem AllClean.create (h : AllClean captured n) (session : ℕ) (fails : Bool) :
    AllClean captured (n.create session fails) := by
  unfold Negotiator.create
  dsimp only
  split_ifs
  · exact h.closeOwn
  · intro pc hpc
    obtain hpc | rfl := mem_snoc.1 hpc
    · exact h.closeOwn pc hpc
    · exact ⟨fun _ => Nat.zero_le _, nofun⟩

theorem Slot.create (h : Slot shared n sender) (session : ℕ) (fails : Bool) :
    Slot shared (n.create session fails) sender := by
  unfold Negotiator.create
  dsimp only
  split_ifs
  · exact h.closeOwn
  · obtain ⟨pc, x, hpc, hx, hshared⟩ := h.closeOwn
    obtain ⟨hlt, -⟩ := List.getElem?_eq_some_iff.1 hpc
    exact ⟨pc, x, by rw [List.getElem?_append_left hlt, hpc], hx, hshared⟩

/-- A new peer connection has no senders. -/
theorem Free.create (session : ℕ) (fails : Bool) : (n.create session fails).Free stream := by
  intro x hx
  rw [live_create] at hx
  split_ifs at hx
  cases hx
  simp

end Negotiator

/-! ## Screen shares -/

namespace LocalParticipant

/-- The senders of the screen share. -/
def lane (p : LocalParticipant) : List Sender :=
  (p.screen.map fun sc => sc.videoSender.toList ++ sc.audioSender.toList).getD []

variable {T shared : Track → Prop} {captured : List Track} {p q : LocalParticipant}
  {n n' : Negotiator}

/-- The senders of the screen share have tracks in `shared`. -/
def Lane (shared : Track → Prop) (n : Negotiator) (p : LocalParticipant) : Prop :=
  ∀ sender ∈ p.lane, n.Slot shared sender

theorem lane_congr (h : q.screen = p.screen) : q.lane = p.lane := by
  unfold lane
  rw [h]

theorem Lane.congr_lane (h : Lane shared n p) (hlane : q.lane = p.lane) : Lane shared n q := by
  unfold Lane
  rw [hlane]
  exact h

theorem Lane.congr (h : Lane shared n p) (hscreen : q.screen = p.screen) : Lane shared n q :=
  h.congr_lane (lane_congr hscreen)

theorem Lane.sends (h : Lane shared n p) (hn : n.Sends T captured n') : Lane shared n' p :=
  fun sender hsender => hn.slot (h sender hsender)

theorem Lane.mono {shared' : Track → Prop} (h : Lane shared n p)
    (hshared : ∀ t, shared t → shared' t) : Lane shared' n p := by
  intro sender hsender
  obtain ⟨pc, x, hpc, hx, ht⟩ := h sender hsender
  exact ⟨pc, x, hpc, hx, fun t hxt => hshared t (ht t hxt)⟩

theorem Lane.of_none (h : p.screen = none) : Lane shared n p := by
  unfold Lane lane
  rw [h]
  nofun

theorem screen_settle (waiter : Option ℕ) (ok : Bool) :
    (p.settle waiter ok).screen = p.screen := by
  unfold settle
  split <;> rfl

theorem screen_flushPub (kind : Kind) : (p.flushPub kind).screen = p.screen := by
  unfold flushPub
  split
  · exact screen_settle _ _
  · rfl

theorem lane_flushScreenPub : p.flushScreenPub.lane = p.lane := by
  unfold flushScreenPub
  split
  · rfl
  · next sc hsc =>
    have hvideo : (p.flushScreenVideo sc).2.videoSender = sc.videoSender ∧
        (p.flushScreenVideo sc).2.audioSender = sc.audioSender := by
      unfold flushScreenVideo
      split <;> exact ⟨rfl, rfl⟩
    unfold flushScreenAudio
    split <;> simp [lane, hsc, hvideo]

theorem Lane.flushScreenPub (h : Lane shared n p) : Lane shared n p.flushScreenPub :=
  h.congr_lane lane_flushScreenPub

theorem screen_onPublicationMuted (publicationId : String) (muted : Bool) :
    (p.onPublicationMuted publicationId muted).screen = p.screen := by
  unfold onPublicationMuted
  split <;> rfl

theorem screen_setKind (kind : Kind) (enabled : Bool) :
    (p.setKind kind enabled).1.screen = p.screen := by
  unfold setKind
  split <;> rfl

theorem screen_addTrack (kind : Kind) : (p.addTrack kind n).1.screen = p.screen := by
  unfold addTrack
  split
  · rfl
  · split
    · rfl
    · exact screen_flushPub kind

theorem screen_addTracks : (p.addTracks n).1.screen = p.screen := by
  unfold addTracks
  dsimp only
  split_ifs
  · exact screen_addTrack .audio
  · exact (screen_addTrack .video).trans (screen_addTrack .audio)

theorem screen_teardownScreen : (p.teardownScreen n).1.screen = none := by
  unfold teardownScreen
  split
  · next hsc => exact hsc
  · rfl

/-- A screen share ends, and the tracks in `T` stay where they are. -/
theorem Lane.sends_teardownScreen (h : Lane shared n p) (hT : ∀ t, T t → ¬ shared t) :
    n.Sends T captured (p.teardownScreen n).2 := by
  unfold LocalParticipant.teardownScreen
  split
  · exact .refl
  · next sc hsc =>
    refine .removeAll (fun sender hsender => h sender ?_) hT
    simpa [lane, hsc] using hsender

/-- What a participant leaves: its screen share has its own tracks, and the tracks in `T` stayed
where they were. -/
structure Steady (T shared : Track → Prop) (captured : List Track) (n : Negotiator)
    (x : LocalParticipant × Negotiator) : Prop where
  lane : Lane shared x.2 x.1
  sends : n.Sends T captured x.2

section

variable (h : Lane shared n p) (hT : ∀ t, T t → ¬ shared t)

include h hT

theorem Lane.steady_teardownScreen : Steady T shared captured n (p.teardownScreen n) :=
  ⟨.of_none screen_teardownScreen, h.sends_teardownScreen hT⟩

theorem Lane.steady_resetForReconnect : Steady T shared captured n (p.resetForReconnect n) :=
  Lane.steady_teardownScreen (p := { p with
    publications := ∅, senders := fun _ => none, waiters := fun _ => none
    pendingPubs := fun _ => none, denied := false }) (h.congr rfl) hT

theorem Lane.steady_onPublicationRemoved (publicationId : String) :
    Steady T shared captured n (p.onPublicationRemoved publicationId n) := by
  have herase : Lane shared n { p with publications := p.publications.erase publicationId } :=
    h.congr rfl
  unfold onPublicationRemoved
  dsimp only
  split
  · exact ⟨herase, .refl⟩
  · split_ifs
    · exact herase.steady_teardownScreen hT
    · exact ⟨herase, .refl⟩

theorem Lane.steady_onPublishDenied : Steady T shared captured n (p.onPublishDenied n) := by
  have hdenied : Lane shared n ({ (p.settle (p.waiters .audio) false).settle (p.waiters .video)
      false with denied := true, waiters := fun _ => none } : LocalParticipant) :=
    h.congr ((screen_settle _ _).trans (screen_settle _ _))
  unfold onPublishDenied
  dsimp only
  split
  · exact ⟨hdenied, .refl⟩
  · exact hdenied.steady_teardownScreen hT

end

/-! ## The captured stream -/

variable {stream : Stream} {kind : Kind} {t : Track}

theorem addTrack_none (h : p.stream.bind (·.first kind) = none) :
    p.addTrack kind n = (p, n, false) := by
  unfold addTrack
  rw [h]

theorem addTrack_throws (h : p.stream.bind (·.first kind) = some t)
    (hadd : n.addLocalTrack t = none) : p.addTrack kind n = (p, n, true) := by
  unfold addTrack
  rw [h]
  dsimp only
  rw [hadd]

theorem addTrack_adds {sender : Sender} (h : p.stream.bind (·.first kind) = some t)
    (hadd : n.addLocalTrack t = some (sender, n')) : (p.addTrack kind n).2 = (n', false) := by
  unfold addTrack
  rw [h]
  dsimp only
  rw [hadd]

/-- Publishing a track that is not in `T`. -/
theorem sends_addTrack
    (h : ∀ t, p.stream.bind (·.first kind) = some t → ¬ T t ∧ t ∈ captured) :
    n.Sends T captured (p.addTrack kind n).2.1 := by
  cases hfirst : p.stream.bind (·.first kind) with
  | none =>
    rw [addTrack_none hfirst]
    exact .refl
  | some t =>
    cases hadd : n.addLocalTrack t with
    | none =>
      rw [addTrack_throws hfirst hadd]
      exact .refl
    | some x =>
      rw [addTrack_adds hfirst hadd]
      exact .add hadd (h t hfirst).1 (h t hfirst).2

theorem first_mem_tracks (h : stream.first kind = some t) : t ∈ stream.tracks := by
  cases kind with
  | audio =>
    have haudio : stream.audio = some t := h
    simp [Stream.tracks, haudio]
  | video =>
    have hvideo : stream.video = some t := h
    simp [Stream.tracks, hvideo]

/-- Publishing a stream whose tracks are not in `T`. -/
theorem sends_addTracks
    (h : ∀ stream, p.stream = some stream → ∀ t ∈ stream.tracks, ¬ T t ∧ t ∈ captured) :
    n.Sends T captured (p.addTracks n).2.1 := by
  have hall (q : LocalParticipant) (hq : q.stream = p.stream) (kind : Kind) (t : Track)
      (ht : q.stream.bind (·.first kind) = some t) : ¬ T t ∧ t ∈ captured := by
    obtain ⟨stream, hstream, ht⟩ := bind_eq_some_iff.1 ht
    exact h stream (hq ▸ hstream) t (first_mem_tracks ht)
  have haudio : n.Sends T captured (p.addTrack .audio n).2.1 := sends_addTrack (hall p rfl _)
  unfold addTracks
  dsimp only
  split_ifs
  · exact haudio
  · exact haudio.trans (sends_addTrack (hall _ (p.same_addTrack n .audio).stream _))

end LocalParticipant

namespace Negotiator

variable {n n' : Negotiator} {t : Track} {i : ℕ} {pc : PeerConnection}

theorem addLocalTrack_of_mem (hlive : n.live = some (i, pc)) (hmem : some t ∈ pc.senders) :
    n.addLocalTrack t = none := by
  simp [addLocalTrack, hlive, hmem]

theorem addLocalTrack_of_not_mem (hlive : n.live = some (i, pc)) (hmem : some t ∉ pc.senders) :
    n.addLocalTrack t = some (⟨i, pc.senders.length⟩,
      { n with pcs := n.pcs.set i { pc with senders := pc.senders ++ [some t] } }) := by
  simp [addLocalTrack, hlive, hmem]

end Negotiator

namespace LocalParticipant

variable {p : LocalParticipant} {n : Negotiator} {stream : Stream}

/-- A stream that is there already is not added again. -/
theorem addTracks_of_held (hstream : p.stream = some stream) (h : n.Held stream) :
    (p.addTracks n).2.1 = n := by
  obtain ⟨⟨i, pc⟩, hlive, hsenders⟩ := h
  have hone (kind : Kind) :
      p.addTrack kind n = (p, n, false) ∨ p.addTrack kind n = (p, n, true) := by
    cases hfirst : p.stream.bind (·.first kind) with
    | none => exact .inl (addTrack_none hfirst)
    | some t =>
      have ht : t ∈ stream.tracks := first_mem_tracks (by simpa [hstream] using hfirst)
      exact .inr (addTrack_throws hfirst (Negotiator.addLocalTrack_of_mem hlive (hsenders t ht)))
  unfold addTracks
  obtain haudio | haudio := hone .audio
  · rw [haudio]
    obtain hvideo | hvideo := hone .video <;> simp [hvideo]
  · simp [haudio]

theorem addTrack_live (kind : Kind) {i : ℕ} {pc : PeerConnection}
    (hstream : p.stream = some stream) (hlive : n.live = some (i, pc))
    (hnew : ∀ t, stream.first kind = some t → some t ∉ pc.senders) :
    (p.addTrack kind n).2.2 = false ∧ (p.addTrack kind n).2.1.live =
      some (i, { pc with senders := pc.senders ++ (stream.first kind).toList.map some }) := by
  have hbind : p.stream.bind (·.first kind) = stream.first kind := by simp [hstream]
  cases hfirst : stream.first kind with
  | none =>
    rw [addTrack_none (hbind.trans hfirst)]
    simpa using hlive
  | some t =>
    have hadd := Negotiator.addLocalTrack_of_not_mem hlive (hnew t hfirst)
    rw [addTrack_adds (hbind.trans hfirst) hadd]
    exact ⟨rfl, Negotiator.live_put hlive _⟩

theorem addTracks_of_free (hstream : p.stream = some stream) (hnodup : stream.tracks.Nodup)
    (hlive : n.live.isSome = true) (h : n.Free stream) : (p.addTracks n).2.1.Held stream := by
  obtain ⟨⟨i, pc⟩, hlive⟩ := isSome_iff_exists.1 hlive
  obtain ⟨hflag, haudio⟩ := addTrack_live .audio hstream hlive
    fun t ht => h _ hlive t (first_mem_tracks ht)
  have hstream' := (p.same_addTrack n .audio).stream.trans hstream
  have hnew (t : Track) (ht : stream.first .video = some t) :
      some t ∉ pc.senders ++ (stream.first .audio).toList.map some := by
    intro hmem
    obtain hmem | hmem := mem_append.1 hmem
    · exact h _ hlive t (first_mem_tracks ht) hmem
    · have hsame : stream.audio = some t := by simpa [Stream.first] using hmem
      have hvideo : stream.video = some t := ht
      simp [Stream.tracks, hsame, hvideo] at hnodup
  obtain ⟨-, hvideo⟩ := addTrack_live .video hstream' haudio hnew
  unfold addTracks
  dsimp only
  rw [hflag]
  refine ⟨_, hvideo, fun t ht => ?_⟩
  obtain ht | ht := mem_append.1 ht
  · exact mem_append_left _ (mem_append_right _ (mem_map_of_mem ht))
  · exact mem_append_right _ (mem_map_of_mem ht)

/-- A stream is there once it was published. -/
theorem held_addTracks (hstream : p.stream = some stream) (hnodup : stream.tracks.Nodup)
    (hlive : n.live.isSome = true) (h : n.Held stream ∨ n.Free stream) :
    (p.addTracks n).2.1.Held stream := by
  obtain hheld | hfree := h
  · rw [addTracks_of_held hstream hheld]
    exact hheld
  · exact addTracks_of_free hstream hnodup hlive hfree

/-! ## Captures -/

variable {T shared : Track → Prop} {captured : List Track}

/-- Publishing the stream, whose tracks are not in `T`. -/
theorem Lane.steady_addTracks (h : Lane shared n p)
    (htracks : ∀ stream, p.stream = some stream → ∀ t ∈ stream.tracks, ¬ T t ∧ t ∈ captured) :
    Steady T shared captured n ((p.addTracks n).1, (p.addTracks n).2.1) := by
  have hsends : n.Sends T captured (p.addTracks n).2.1 := sends_addTracks htracks
  exact ⟨(h.congr screen_addTracks).sends hsends, hsends⟩

/-- What a capture of the camera and the microphone does to the tracks in `T`. -/
theorem Lane.steady_onUserMedia (h : Lane shared n p) (hT : ∀ t, T t → ¬ shared t)
    (htracks : ∀ t ∈ stream.tracks, ¬ T t ∧ t ∈ captured) :
    Steady T shared captured n (p.onUserMedia n stream) := by
  have hp : Lane shared n { p with stream := some stream } := h.congr rfl
  obtain ⟨hlane, hsends⟩ := hp.steady_addTracks
    fun _ hs => some.inj hs ▸ htracks
  unfold onUserMedia
  dsimp only
  split_ifs
  · obtain ⟨hlane', hsends'⟩ := hlane.steady_onPublishDenied hT
    exact ⟨hlane', hsends.trans hsends'⟩
  · exact ⟨hlane, hsends⟩

/-- The captured stream is published. -/
theorem Lane.held_onUserMedia (h : Lane shared n p) (hnodup : stream.tracks.Nodup)
    (hlive : n.live.isSome = true) (hfree : n.Free stream)
    (htracks : ∀ t ∈ stream.tracks, ¬ shared t) : (p.onUserMedia n stream).2.Held stream := by
  have hp : Lane shared n { p with stream := some stream } := h.congr rfl
  have hheld : (addTracks { p with stream := some stream } n).2.1.Held stream :=
    addTracks_of_free rfl hnodup hlive hfree
  have hsteady : Steady (fun _ => False) shared stream.tracks n
      ((addTracks { p with stream := some stream } n).1,
        (addTracks { p with stream := some stream } n).2.1) :=
    hp.steady_addTracks fun _ hs t ht => ⟨id, some.inj hs ▸ ht⟩
  unfold onUserMedia
  dsimp only
  split_ifs
  · have hdenied : Steady (· ∈ stream.tracks) shared stream.tracks _
        (onPublishDenied _ _) := hsteady.lane.steady_onPublishDenied htracks
    exact hdenied.sends.held (fun _ ht => ht) hheld
  · exact hheld

/-- What a capture of the screen does to the tracks in `T`. -/
theorem steady_onDisplayMedia {video : Track} {audio : Option Track}
    (hT : ∀ t, T t → ¬ shared t)
    (htracks : ∀ t ∈ video :: audio.toList, shared t ∧ t ∈ captured) :
    Steady T shared captured n (p.onDisplayMedia n video audio) := by
  have hadd {n n' : Negotiator} {sender : Sender} {t : Track} (ht : t ∈ video :: audio.toList)
      (h : n.addLocalTrack t = some (sender, n')) :
      n.Sends T captured n' ∧ n'.Slot shared sender :=
    ⟨.add h (fun hTt => hT t hTt (htracks t ht).1) (htracks t ht).2,
      Negotiator.Slot.added h (htracks t ht).1⟩
  unfold onDisplayMedia
  dsimp only
  split
  · exact Lane.steady_teardownScreen nofun hT
  · next videoSender n' hvideo =>
    obtain ⟨hsends, hslot⟩ := hadd mem_cons_self hvideo
    have hlane : Lane shared n' ({ p with
        screen := some { video := video, audio := audio, videoSender := some videoSender } } :
        LocalParticipant) := by
      intro sender hsender
      obtain rfl : sender = videoSender := by simpa [lane] using hsender
      exact hslot
    split
    · obtain ⟨hlane', hsends'⟩ := hlane.steady_teardownScreen hT
      exact ⟨hlane', hsends.trans hsends'⟩
    · next audioSender n'' haudio =>
      obtain ⟨track, htrack, haudio⟩ := map_eq_some_iff.1 haudio
      have hmem : track ∈ video :: audio.toList := by simp [htrack]
      obtain ⟨hsends', hslot'⟩ := hadd hmem haudio
      refine ⟨.flushScreenPub fun sender hsender => ?_, hsends.trans hsends'⟩
      obtain rfl | rfl : sender = videoSender ∨ sender = audioSender := by
        simpa [lane] using hsender
      · exact hsends'.slot hslot
      · exact hslot'
    · exact ⟨.flushScreenPub (hlane.congr_lane rfl), hsends⟩

end LocalParticipant

/-! ## The invariant -/

theorem connected_of_fades {st st' : ConnectionState} (hst : st' = st ∨ st' = .disconnected)
    (hc : st' = .connected) : st = .connected := by
  obtain rfl | rfl := hst
  · exact hc
  · cases hc

namespace Session

variable {s s' : Session} {shared shared' : Track → Prop}

/-- The tracks of the captured stream. -/
def Own (s : Session) (t : Track) : Prop := ∃ stream, s.me.stream = some stream ∧ t ∈ stream.tracks

/-- The tracks of the captured stream are all at the open peer connection, or none of them is. The
tracks in `shared` are those of screens. -/
structure Published (shared : Track → Prop) (s : Session) : Prop where
  screens : ∀ t, shared t → t ∈ s.captured
  clean : s.neg.AllClean s.captured
  lanes : ∀ i, (s.locals i).Lane shared s.neg
  nodup : ∀ stream, s.me.stream = some stream → stream.tracks.Nodup
  own : ∀ t, s.Own t → t ∈ s.captured ∧ ¬ shared t
  media : ∀ stream, s.me.stream = some stream → s.neg.Held stream ∨ s.neg.Free stream

/-- There is a peer connection, and the tracks of the captured stream are there. -/
structure Ready (s : Session) : Prop where
  live : s.neg.live.isSome = true
  held : ∀ stream, s.me.stream = some stream → s.neg.Held stream

/-- The invariant. -/
structure Kept (s : Session) : Prop where
  published : ∃ shared, s.Published shared
  ready : s.state = .connected → s.Ready

/-- What `_republish` leaves. -/
def republish (s : Session) : Session :=
  s.setLocal s.self ((s.me.addTracks s.neg).1, (s.me.addTracks s.neg).2.1)

/-- Everything goes on, and the captured stream stays where it is. -/
theorem Published.step (h : s.Published shared) (hcaptured : s.captured ⊆ s'.captured)
    (hscreens : ∀ t, shared' t → t ∈ s'.captured ∧ ¬ s.Own t)
    (hneg : s.neg.Sends s.Own s'.captured s'.neg)
    (hlanes : ∀ i, (s'.locals i).Lane shared' s'.neg) (hstream : s'.me.stream = s.me.stream) :
    s'.Published shared' := by
  have hown : s'.Own = s.Own := by
    unfold Own
    rw [hstream]
  constructor
  · exact fun t ht => (hscreens t ht).1
  · exact hneg.allClean (h.clean.mono hcaptured)
  · exact hlanes
  · exact hstream ▸ h.nodup
  · rw [hown]
    exact fun t ht => ⟨hcaptured (h.own t ht).1, fun hshared => (hscreens t hshared).2 ht⟩
  · intro stream hs
    rw [hstream] at hs
    have hT : ∀ t ∈ stream.tracks, s.Own t := fun t ht => ⟨stream, hs, ht⟩
    exact (h.media stream hs).imp (hneg.held hT) (hneg.free hT)

/-- A stream is published. -/
theorem Published.hold (h : s.Published shared) (hcaptured : s.captured ⊆ s'.captured)
    (hneg : s.neg.Sends (fun _ => False) s'.captured s'.neg)
    (hlanes : ∀ i, (s'.locals i).Lane shared s'.neg)
    (hnodup : ∀ stream, s'.me.stream = some stream → stream.tracks.Nodup)
    (hown : ∀ t, s'.Own t → t ∈ s'.captured ∧ ¬ shared t)
    (hheld : ∀ stream, s'.me.stream = some stream → s'.neg.Held stream) :
    s'.Published shared where
  screens t ht := hcaptured (h.screens t ht)
  clean := hneg.allClean (h.clean.mono hcaptured)
  lanes := hlanes
  nodup := hnodup
  own := hown
  media stream hs := .inl (hheld stream hs)

theorem Ready.step {captured : List Track} (h : s.Ready)
    (hneg : s.neg.Sends s.Own captured s'.neg) (hstream : s'.me.stream = s.me.stream) :
    s'.Ready := by
  refine ⟨hneg.live h.live, fun stream hs => ?_⟩
  rw [hstream] at hs
  exact hneg.held (fun t ht => ⟨stream, hs, ht⟩) (h.held stream hs)

/-- What has no part in it changes. -/
theorem Published.congr (h : s.Published shared) (hcaptured : s'.captured = s.captured)
    (hneg : s'.neg = s.neg) (hlocals : s'.locals = s.locals) (hself : s'.self = s.self) :
    s'.Published shared := by
  refine h.step (hcaptured ▸ List.Subset.refl _) ?_ (hneg ▸ .refl) ?_ ?_
  · exact fun t ht => ⟨hcaptured ▸ h.screens t ht, fun hown => (h.own t hown).2 ht⟩
  · exact hneg ▸ hlocals ▸ h.lanes
  · unfold me
    rw [hlocals, hself]

theorem Ready.congr (h : s.Ready) (hneg : s'.neg = s.neg) (hlocals : s'.locals = s.locals)
    (hself : s'.self = s.self) : s'.Ready := by
  have hsends : s.neg.Sends s.Own s.captured s'.neg := hneg ▸ .refl
  refine h.step hsends ?_
  unfold me
  rw [hlocals, hself]

theorem lanes_update {locals : ℕ → LocalParticipant} {n : Negotiator} {p : LocalParticipant}
    (h : ∀ j, (locals j).Lane shared n) (i : ℕ) (hp : p.Lane shared n) (j : ℕ) :
    (Function.update locals i p j).Lane shared n := by
  by_cases hj : j = i
  · subst hj
    rw [update_self]
    exact hp
  · rw [update_of_ne hj]
    exact h j

namespace Kept

/-- What has no part in it changes. -/
theorem congr (h : s.Kept) (hcaptured : s'.captured = s.captured) (hneg : s'.neg = s.neg)
    (hlocals : s'.locals = s.locals) (hself : s'.self = s.self)
    (hstate : s'.state = .connected → s.state = .connected) : s'.Kept where
  published := h.published.imp fun _ hpub => hpub.congr hcaptured hneg hlocals hself
  ready hc := (h.ready (hstate hc)).congr hneg hlocals hself

variable {x : LocalParticipant × Negotiator}

theorem stream_setLocal {i : ℕ}
    (hstream : x.1.stream = (s.locals i).stream) : (s.setLocal i x).me.stream = s.me.stream := by
  unfold setLocal me
  dsimp only
  by_cases hi : s.self = i
  · rw [hi, update_self, hstream]
  · rw [update_of_ne hi]

theorem setLocal (h : s.Kept) (i : ℕ) (x : LocalParticipant × Negotiator)
    (hstream : x.1.stream = (s.locals i).stream)
    (hx : ∀ shared, (s.locals i).Lane shared s.neg → (∀ t, s.Own t → ¬ shared t) →
      LocalParticipant.Steady s.Own shared s.captured s.neg x) : (s.setLocal i x).Kept := by
  obtain ⟨shared, hpub⟩ := h.published
  obtain ⟨hlane, hsends⟩ := hx shared (hpub.lanes i) fun t ht => (hpub.own t ht).2
  refine ⟨⟨shared, hpub.step (List.Subset.refl _) ?_ hsends ?_ (stream_setLocal hstream)⟩,
    fun hc => (h.ready hc).step hsends (stream_setLocal hstream)⟩
  · exact fun t ht => ⟨hpub.screens t ht, fun hown => (hpub.own t hown).2 ht⟩
  · exact lanes_update (fun j => (hpub.lanes j).sends hsends) i hlane

/-- The peer connection is closed. -/
theorem closed (h : s.Kept) (hcaptured : s'.captured = s.captured) (hneg : s'.neg = s.neg.close)
    (hlocals : ∀ i, s'.locals i = s.locals i ∨ s'.locals i = {})
    (hstream : s'.me.stream = s.me.stream ∨ s'.me.stream = none)
    (hstate : s'.state ≠ .connected) : s'.Kept := by
  obtain ⟨shared, hpub⟩ := h.published
  have hsome {stream : Stream} (hs : s'.me.stream = some stream) : s.me.stream = some stream := by
    obtain heq | hnone := hstream
    · exact heq ▸ hs
    · rw [hnone] at hs
      cases hs
  refine ⟨⟨shared, ?_⟩, fun hc => absurd hc hstate⟩
  constructor
  · exact hcaptured ▸ hpub.screens
  · rw [hneg, hcaptured]
    exact hpub.clean.closeOwn
  · intro i
    obtain hi | hi := hlocals i
    · rw [hi, hneg]
      exact fun sender hsender => (hpub.lanes i sender hsender).closeOwn
    · rw [hi]
      exact .of_none rfl
  · exact fun stream hs => hpub.nodup stream (hsome hs)
  · rintro t ⟨stream, hs, ht⟩
    exact hcaptured ▸ hpub.own t ⟨stream, hsome hs, ht⟩
  · intro stream hs
    rw [hneg]
    exact .inr (.of_none rfl)

theorem loses (h : s.Kept) (hlose : s.Loses s') : s'.Kept := by
  cases hlose with
  | fades hst => exact h.congr rfl rfl rfl rfl (connected_of_fades hst)
  | closes => exact h.closed rfl rfl (fun _ => .inl rfl) (.inl rfl) (by simp)

theorem down (h : s.Kept) : s.down.Kept := by
  refine h.closed rfl rfl (fun i => ?_) (.inr ?_) (by simp [Session.down])
  · unfold Session.down
    dsimp only
    by_cases hi : i = s.self + 1
    · subst hi
      rw [update_self]
      exact .inr rfl
    · rw [update_of_ne hi]
      exact .inl rfl
  · have hme : s.down.me = {} := update_self _ _ _
    rw [hme]

/-- The stream is published on an open peer connection. -/
theorem republish (h : s.Kept) (hlive : s.neg.live.isSome = true) :
    s.republish.Ready ∧ ∃ shared, s.republish.Published shared := by
  obtain ⟨shared, hpub⟩ := h.published
  have hsteady : LocalParticipant.Steady (fun _ => False) shared s.captured s.neg
      ((s.me.addTracks s.neg).1, (s.me.addTracks s.neg).2.1) :=
    (hpub.lanes s.self).steady_addTracks fun stream hs t ht =>
      ⟨id, (hpub.own t ⟨stream, hs, ht⟩).1⟩
  have hstream : s.republish.me.stream = s.me.stream :=
    stream_setLocal (s.me.same_addTracks s.neg).stream
  have hheld (stream : Stream) (hs : s.republish.me.stream = some stream) :
      s.republish.neg.Held stream := by
    rw [hstream] at hs
    exact LocalParticipant.held_addTracks hs (hpub.nodup stream hs) hlive (hpub.media stream hs)
  refine ⟨⟨hsteady.sends.live hlive, hheld⟩, shared,
    hpub.hold (List.Subset.refl _) hsteady.sends ?_ ?_ ?_ hheld⟩
  · exact lanes_update (fun j => (hpub.lanes j).sends hsteady.sends) s.self hsteady.lane
  · exact hstream ▸ hpub.nodup
  · rintro t ⟨stream, hs, ht⟩
    exact hpub.own t ⟨stream, hstream ▸ hs, ht⟩

/-- The local participant gets a stream of fresh tracks, in a connected room. -/
theorem ownMedia {stream : Stream} (h : s.Kept) (hstate : s.state = .connected)
    (hnodup : stream.tracks.Nodup) (hfresh : ∀ t ∈ stream.tracks, t ∉ s.captured) :
    ({ s.setLocal s.self (s.me.onUserMedia s.neg stream) with
      captured := s.captured ++ stream.tracks } : Session).Kept := by
  obtain ⟨shared, hpub⟩ := h.published
  have hlive := (h.ready hstate).live
  have hshared (t : Track) (ht : t ∈ stream.tracks) : ¬ shared t :=
    fun hs => hfresh t ht (hpub.screens t hs)
  have hlane : s.me.Lane shared s.neg := hpub.lanes s.self
  have hsteady : LocalParticipant.Steady (fun _ => False) shared (s.captured ++ stream.tracks) s.neg
      (s.me.onUserMedia s.neg stream) :=
    hlane.steady_onUserMedia nofun fun t ht => ⟨id, mem_append_right _ ht⟩
  have hstream : (s.setLocal s.self (s.me.onUserMedia s.neg stream)).me.stream = some stream := by
    unfold Session.setLocal me
    dsimp only
    rw [update_self]
    exact (s.me.same_onUserMedia s.neg stream).stream
  have hheld (stream' : Stream)
      (hs : (s.setLocal s.self (s.me.onUserMedia s.neg stream)).me.stream = some stream') :
      (s.me.onUserMedia s.neg stream).2.Held stream' := by
    obtain rfl := mem_unique hstream hs
    exact hlane.held_onUserMedia hnodup hlive (.of_fresh hpub.clean hfresh) hshared
  refine ⟨⟨shared, hpub.hold (subset_append_left _ _) hsteady.sends ?_ ?_ ?_ hheld⟩,
    fun _ => ⟨hsteady.sends.live hlive, hheld⟩⟩
  · exact lanes_update (fun j => (hpub.lanes j).sends hsteady.sends) s.self hsteady.lane
  · intro stream' hs
    obtain rfl := mem_unique hstream hs
    exact hnodup
  · rintro t ⟨stream', hs, ht⟩
    obtain rfl := mem_unique hstream hs
    exact ⟨mem_append_right _ ht, hshared t ht⟩

theorem otherMedia {i : ℕ} {tracks : List Track}
    (h : s.Kept) (hfresh : ∀ t ∈ tracks, t ∉ s.captured)
    (hstream : (s.setLocal i x).me.stream = s.me.stream)
    (hx : ∀ shared : Track → Prop, (s.locals i).Lane shared s.neg →
      (∀ t, s.Own t → ¬ shared t ∧ t ∉ tracks) → ∃ shared' : Track → Prop,
        (∀ t, shared t → shared' t) ∧ (∀ t, shared' t → shared t ∨ t ∈ tracks) ∧
        LocalParticipant.Steady s.Own shared' (s.captured ++ tracks) s.neg x) :
    ({ s.setLocal i x with captured := s.captured ++ tracks } : Session).Kept := by
  obtain ⟨shared, hpub⟩ := h.published
  have hown (t : Track) (ht : s.Own t) : ¬ shared t ∧ t ∉ tracks :=
    ⟨(hpub.own t ht).2, fun hmem => hfresh t hmem (hpub.own t ht).1⟩
  obtain ⟨shared', hle, hge, hlane, hsends⟩ := hx shared (hpub.lanes i) hown
  refine ⟨⟨shared', hpub.step (subset_append_left _ _) ?_ hsends ?_ hstream⟩,
    fun hc => (h.ready hc).step hsends hstream⟩
  · intro t ht
    obtain ht | ht := hge t ht
    · exact ⟨mem_append_left _ (hpub.screens t ht), fun hmem => (hown t hmem).1 ht⟩
    · exact ⟨mem_append_right _ ht, fun hmem => (hown t hmem).2 ht⟩
  · exact lanes_update (fun j => ((hpub.lanes j).mono hle).sends hsends) i hlane

end Kept

end Session

/-! ## Steps -/

/-- What a `room_joined` says. -/
def ServerMessage.joined : ServerMessage → Option RoomJoined
  | .roomJoined m => some m
  | _ => none

/-- The capture that returns a stream. -/
def Act.returns : Act → Option ℕ
  | .userMedia k (some _) => some k
  | _ => none

namespace Room

variable {r r' : Room}

/-- The stream is captured while the room is connected, and the server does what it should: it
sends a `welcome` for a new socket only, and a `room_joined` after it; and if there is a stream to
publish again, the `room_joined` of a rejoin says that it is one. -/
@[mk_iff] structure Recovers (r : Room) (a : Act) : Prop where
  returns : ∀ k ∈ a.returns, r.captures[k]? = some r.self → r.state = .connected
  welcome : ∀ x ∈ r.next a, x.2.isWelcome = true → r.state ≠ .connected
  joined : ∀ x ∈ r.next a, ∀ m ∈ x.2.joined, r.neg.live.isSome = true ∧
    (r.state ≠ .connected → r.me.stream.isSome = true → m.reconnected = true)

instance (r : Room) (a : Act) : Decidable (r.Recovers a) :=
  decidable_of_iff' _ (recovers_iff r a)

variable {n : ℕ}

/-- An echo of the server leaves the captured stream where it is. -/
theorem kept_own {m : PublicationEvent} (h : r.session.Kept) :
    (r.onOwnPublication n m).session.Kept := by
  have hadded (p : LocalParticipant) (hsame : LocalParticipant.Same r.me p)
      (hlane : p.lane = r.me.lane) : (r.setLocal r.self (p, r.neg)).session.Kept :=
    h.setLocal r.self (p, r.neg) hsame.stream fun _ hl _ => ⟨hl.congr_lane hlane, .refl⟩
  unfold onOwnPublication
  split
  · dsimp only
    split_ifs
    · exact hadded _ (r.me.same_onScreenPublicationAdded _ _ _)
        LocalParticipant.lane_flushScreenPub
    · exact hadded _ (r.me.same_onPublicationAdded _ _ _)
        (LocalParticipant.lane_congr (LocalParticipant.screen_flushPub _))
  · exact h.setLocal r.self (r.me.onPublicationRemoved m.publicationId r.neg)
      (r.me.same_onPublicationRemoved r.neg m.publicationId).stream
      fun _ hl hT => hl.steady_onPublicationRemoved hT _
  · exact hadded _ (r.me.same_onPublicationMuted _ _)
      (LocalParticipant.lane_congr (LocalParticipant.screen_onPublicationMuted _ _))

/-- What `welcome` does to the local participants: the current one keeps its stream, or there is a
new one that has none. -/
theorem greet_published {shared : Track → Prop} (id : String) (name : Option String)
    (h : r.session.Published shared) :
    r.neg.Sends (fun _ => False) r.captured (r.greet id name).neg ∧
      (r.greet id name).captured = r.captured ∧
      (∀ i, ((r.greet id name).locals i).Lane shared (r.greet id name).neg) ∧
      ∀ stream, (r.greet id name).me.stream = some stream → r.me.stream = some stream := by
  unfold greet
  split_ifs
  · refine ⟨.refl, rfl, Session.lanes_update h.lanes _ (.of_none rfl), fun stream hs => ?_⟩
    simp only [me, update_self] at hs
    cases hs
  · obtain ⟨hlane, hsends⟩ : LocalParticipant.Steady (fun _ => False) shared r.captured r.neg
        (r.me.resetForReconnect r.neg) := (h.lanes r.self).steady_resetForReconnect nofun
    have hlanes := fun j => (h.lanes j).sends hsends
    refine ⟨hsends, rfl, Session.lanes_update hlanes _ (hlane.congr rfl), fun stream hs => ?_⟩
    simp only [me, setLocal, update_self] at hs
    exact (r.me.same_resetForReconnect r.neg).stream ▸ hs

variable {fails : Bool}

/-- A `welcome` brings a new peer connection, on which nothing is published yet. -/
theorem kept_welcome {id : String} {name : Option String} {st : ConnectionState}
    (h : r.session.Kept) (hst : st ≠ .connected) :
    ({ ((({ r with store := r.store.applyWelcome id } : Room).greet id name).createPc n
      fails).session with state := st } : Session).Kept := by
  obtain ⟨shared, hpub⟩ := h.published
  have hpub' : ({ r with store := r.store.applyWelcome id } : Room).session.Published shared :=
    hpub.congr rfl rfl rfl rfl
  obtain ⟨hsends, hcaptured, hlanes, hstream⟩ := greet_published id name hpub'
  generalize ({ r with store := r.store.applyWelcome id } : Room).greet id name = g at *
  have hclean : g.neg.AllClean g.captured := hcaptured ▸ hsends.allClean hpub.clean
  have hmem (t : Track) (ht : t ∈ r.captured) : t ∈ g.captured := hcaptured ▸ ht
  refine ⟨⟨shared, ?_⟩, fun hc => absurd hc hst⟩
  constructor
  · exact fun t ht => hmem t (hpub.screens t ht)
  · exact hclean.create n fails
  · exact fun i sender hsender => (hlanes i sender hsender).create n fails
  · exact fun stream hs => hpub.nodup stream (hstream stream hs)
  · rintro t ⟨stream, hs, ht⟩
    have hown := hpub.own t ⟨stream, hstream stream hs, ht⟩
    exact ⟨hmem t hown.1, hown.2⟩
  · exact fun stream _ => .inr (.create n fails)

/-- What a message does to the captured stream. -/
theorem Handles.kept {m : ServerMessage} {s : Session} (h : Handles r n fails m s)
    (hr : r.session.Kept) (hwelcome : m.isWelcome = true → r.state ≠ .connected)
    (hjoined : ∀ j ∈ m.joined, r.neg.live.isSome = true ∧
      (r.state ≠ .connected → r.me.stream.isSome = true → j.reconnected = true)) :
    s.Kept := by
  cases h with
  | idle _ hst => exact hr.congr rfl rfl rfl rfl (connected_of_fades hst)
  | welcome hst => exact kept_welcome hr fun hc => hwelcome rfl (connected_of_fades hst hc)
  | @joined j hj =>
    obtain ⟨hlive, hnone⟩ := hjoined j rfl
    refine ⟨hr.published.imp fun _ hpub => hpub.congr rfl rfl rfl rfl, fun _ => ?_⟩
    by_cases hc : r.state = .connected
    · exact (hr.ready hc).congr rfl rfl rfl
    · refine ⟨hlive, fun stream hs => ?_⟩
      have hstream : r.me.stream = some stream := hs
      exact absurd (hj.symm.trans (hnone hc (by simp [hstream]))) (by simp)
  | @rejoined j hj =>
    obtain ⟨hready, hpub⟩ := hr.republish (hjoined j rfl).1
    exact ⟨hpub.imp fun _ hpub => hpub.congr rfl rfl rfl rfl, fun _ => hready.congr rfl rfl rfl⟩
  | store | stale => exact hr.congr rfl rfl rfl rfl id
  | own => exact kept_own hr
  | denied =>
    exact hr.setLocal r.self (r.me.onPublishDenied r.neg) (r.me.same_onPublishDenied r.neg).stream
      fun _ hl hT => hl.steady_onPublishDenied hT
  | down => exact hr.down
  | redirected hlose =>
    have hclosed : ({ r.session with wire := r.session.wire.close } : Session).Kept :=
      hr.congr rfl rfl rfl rfl id
    exact (hclosed.loses hlose).congr rfl rfl rfl rfl nofun

/-- What anything else does to the captured stream. -/
theorem Reacts.kept {a : Act} {s : Session} (h : Reacts r a s) (hr : r.session.Kept)
    (hG : r.Recovers a) : s.Kept := by
  cases h with
  | idle hst | spoken _ _ _ _ hst => exact hr.congr rfl rfl rfl rfl (connected_of_fades hst)
  | connect => exact hr.congr rfl rfl rfl rfl nofun
  | down => exact hr.down
  | opened | message | timer | store | collected => exact hr.congr rfl rfl rfl rfl id
  | @closed n code s' hlose =>
    have hshut : ({ r.session with wire := r.session.wire.shut n } : Session).Kept :=
      hr.congr rfl rfl rfl rfl id
    exact hshut.loses hlose
  | enabled => exact hr.setLocal _ _ rfl fun _ hl _ => ⟨hl.congr rfl, .refl⟩
  | @userMedia k i stream hi hnodup hfresh =>
    by_cases hself : i = r.self
    · subst hself
      exact hr.ownMedia (hG.returns k rfl hi) hnodup hfresh
    · refine hr.otherMedia hfresh ?_ fun shared hl hT => ⟨shared, fun _ => id, fun _ => .inl, ?_⟩
      · have hne : r.session.self ≠ i := Ne.symm hself
        unfold Session.setLocal Session.me
        dsimp only
        rw [update_of_ne hne]
      · exact hl.steady_onUserMedia (fun t ht => (hT t ht).1) fun t ht =>
          ⟨fun hown => (hT t hown).2 ht, mem_append_right _ ht⟩
  | @setKind i kind enabled =>
    have hset := hr.setLocal i (((r.locals i).setKind kind enabled).1, r.neg)
      ((r.locals i).same_setKind kind enabled).stream
      fun _ hl _ => ⟨hl.congr (LocalParticipant.screen_setKind kind enabled), .refl⟩
    exact hset.congr rfl rfl rfl rfl id
  | @displayMedia k i video audio hi hnodup hfresh =>
    have hmedia : ({ r.session.setLocal i ((r.locals i).onDisplayMedia r.neg video audio) with
        captured := r.captured ++ video :: audio.toList } : Session).Kept := by
      refine hr.otherMedia hfresh ?_ fun shared hl hT =>
        ⟨fun t => shared t ∨ t ∈ video :: audio.toList, fun _ => .inl, fun _ => id, ?_⟩
      · exact Session.Kept.stream_setLocal
          ((r.locals i).same_onDisplayMedia r.neg video audio).stream
      · exact LocalParticipant.steady_onDisplayMedia (fun t ht => not_or.2 (hT t ht))
          fun t ht => ⟨.inr ht, mem_append_right _ ht⟩
    exact hmedia.congr rfl rfl rfl rfl id
  | @stopScreen i =>
    have hset := hr.setLocal i ((r.locals i).teardownScreen r.neg)
      ((r.locals i).same_teardownScreen r.neg).stream fun _ hl hT => hl.steady_teardownScreen hT
    exact hset.congr rfl rfl rfl rfl id

/-- What a step does to the captured stream. -/
theorem step_kept {a : Act} (hr : r.session.Kept) (hG : r.Recovers a) (h : r.step a = some r') :
    r'.session.Kept := by
  obtain ⟨fails, n, m, rest, rfl, hpending, hhandles⟩ | ⟨-, hreacts⟩ := step_session h
  · have hnext : r.next (.handle fails) = some (n, m) := by simp [next, hpending]
    have htake : (r.take n m rest).session.Kept := by
      rw [session_take]
      exact hr.congr rfl rfl rfl rfl id
    exact hhandles.kept htake (hG.welcome _ hnext) (hG.joined _ hnext)
  · exact hreacts.kept hr hG

/-- **Local media survive reconnects**, in every run in which the stream is captured while the room
is connected and the server says of each rejoin that it is one: while the room is connected, each
track of the stream has one sender at the current peer connection. -/
theorem media_survives {qoeEnabled : Bool} {as : List Act}
    (hG : Along step Recovers (new qoeEnabled) as)
    (hrun : run step (new qoeEnabled) as = some r) (hstate : r.state = .connected)
    {stream : Stream} (hstream : r.me.stream = some stream) :
    ∃ i pc, r.neg.live = some (i, pc) ∧ ∀ t ∈ stream.tracks, pc.senders.count (some t) = 1 := by
  have hnew : (new qoeEnabled).session.Kept := by
    refine ⟨⟨fun _ => False, nofun, nofun, fun _ => .of_none rfl, nofun, ?_, nofun⟩, nofun⟩
    rintro t ⟨stream, hs, -⟩
    cases hs
  have hkept := run_invariant (I := fun r => r.session.Kept)
    (fun _ _ _ hI hG hstep => step_kept hI hG hstep) hnew hG hrun
  obtain ⟨shared, hpub⟩ := hkept.published
  obtain ⟨⟨i, pc⟩, hlive, hmem⟩ := (hkept.ready hstate).held stream hstream
  refine ⟨i, pc, hlive, fun t ht => ?_⟩
  have hclean := hpub.clean pc (mem_of_getElem? (Negotiator.live_eq_some hlive).2.1)
  have hpos : 0 < pc.senders.count (some t) := count_pos_iff.2 (hmem t ht)
  have hle := hclean.once t
  omega

/-- A client connects and captures its camera and its microphone; then it loses its socket and joins
again, and the server has these replies. -/
def rejoins (replies : List ServerMessage) : List Act :=
  [Act.connect "room", Act.open 0, Act.message 0 (.welcome "alice" none), Act.handle false,
    Act.message 0 (.roomJoined { roomId := "room", sessionId := some "session" }),
    Act.handle false, Act.enable 1,
    Act.userMedia 0 (some { audio := some ⟨"mic", .audio⟩, video := some ⟨"cam", .video⟩ }),
    Act.close 0 1006, Act.timer, Act.open 1, Act.message 1 (.welcome "alice2" none),
    Act.handle false] ++
  replies.flatMap fun m => [Act.message 1 m, Act.handle false]

/-- The session is resumed. -/
theorem media_survives_resume :
    ∃ r ∈ run step (new false) (rejoins [.roomJoined { roomId := "room", reconnected := true }]),
      r.state = .connected ∧ ∃ stream ∈ r.me.stream, ∃ i pc, r.neg.live = some (i, pc) ∧
        ∀ t ∈ stream.tracks, pc.senders.count (some t) = 1 := by
  have hreach : ∃ r ∈ run step (new false)
      (rejoins [.roomJoined { roomId := "room", reconnected := true }]),
      r.state = .connected ∧ r.me.stream.isSome = true := by decide +kernel
  obtain ⟨r, hrun, hstate, hsome⟩ := hreach
  obtain ⟨stream, hstream⟩ := isSome_iff_exists.1 hsome
  exact ⟨r, hrun, hstate, stream, hstream, media_survives (by decide +kernel) hrun hstate hstream⟩

/-- The session is stale, and the client joins afresh: it is connected, and nothing is published. -/
theorem media_lost :
    ∃ r ∈ run step (new false) (rejoins [.session .stale, .roomJoined { roomId := "room" }]),
      r.state = .connected ∧
      r.me.stream = some { audio := some ⟨"mic", .audio⟩, video := some ⟨"cam", .video⟩ } ∧
      r.neg.live = some (1, { session := 1 }) := by
  decide +kernel

end Room

end PulseRTC.Sdk
