import PulseRTC.Sfu.Program

/-!
# The handles of a mirror

A publication of another node is mirrored in a room under its identifier. Everybody who mirrors it
gets a handle, and a handle closes the mirror by the identifier (`handles_independent_iff`): what is
asked of several handles of one publication holds of a step exactly if a handle that is closed is
the only one, or nothing is mirrored.
-/

namespace PulseRTC.Sfu.MirrorHandles

open Foundations Cluster List Finset

/-- The `remotePubs` of a room: what is mirrored under an identifier. -/
abbrev RemotePubs := GoMap PublicationId PublicationRef

/-- The map part of `addRemotePublication`: the publication that was there, or the new one. -/
def addRemotePublication (pubs : RemotePubs) (pubID : PublicationId) (pub : PublicationRef) :
    RemotePubs × PublicationRef :=
  match pubs.lookup pubID with
  | some existing => (pubs, existing)
  | none => (pubs.insert pubID pub, pub)

section

variable {pubs : RemotePubs} {pubID id : PublicationId} {pub x : PublicationRef}

/-- This is what a room of the SFU goes through. -/
theorem remotePubs_addRemote {s s' : SFU} {r : RoomRef} {p : ParticipantId} {new : List Instr}
    (h : s.addRemote r pubID p = some (s', new)) : (s'.rooms r).remotePubs =
      (addRemotePublication (s.rooms r).remotePubs pubID s.nextPublication).1 := by
  unfold SFU.addRemote at h
  unfold addRemotePublication
  split_ifs at h with _ hmem
  · obtain ⟨existing, hexisting⟩ := Finmap.mem_iff.1 hmem
    cases h
    rw [hexisting]
  · cases h
    rw [Finmap.lookup_eq_none.2 hmem]
    simp [SFU.onRoom, SFU.newPublication]

theorem remotePubs_removeRemote (s : SFU) (r : RoomRef) :
    ((s.removeRemote r pubID).1.rooms r).remotePubs = (s.rooms r).remotePubs.erase pubID := by
  unfold SFU.removeRemote
  split
  next hnone =>
    refine Finmap.ext_lookup fun id => ?_
    rw [GoMap.lookup_erase_eq]
    split_ifs with hid
    · exact hid ▸ hnone
    · rfl
  next => simp [SFU.onRoom]

/-- The publication that is returned is the one in the map. -/
theorem lookup_addRemotePublication : (addRemotePublication pubs pubID pub).1.lookup pubID =
    some (addRemotePublication pubs pubID pub).2 := by
  unfold addRemotePublication
  split
  next existing h => exact h
  next => exact Finmap.lookup_insert _

/-- Whatever was mirrored still is. -/
theorem lookup_addRemotePublication_of_some (h : pubs.lookup id = some x) :
    (addRemotePublication pubs pubID pub).1.lookup id = some x := by
  unfold addRemotePublication
  split
  next => exact h
  next hnone =>
    have hne : id ≠ pubID := by
      rintro rfl
      rw [hnone] at h
      cases h
    exact (Finmap.lookup_insert_of_ne _ hne).trans h

end

/-! ## Handles of one publication -/

/-- One publication of a room, with the handles that were returned for it: the publication of each,
those that were obtained since nothing was mirrored, and those that were closed. A publication has
the subscribers that are attached to it (`subSinks`). -/
structure Mirrored where
  remotePubs : RemotePubs
  published : ℕ := 0
  handles : List ℕ := []
  current : List ℕ := []
  closed : Finset ℕ := ∅
  subSinks : ℕ → Finset ParticipantId := fun _ => ∅

/-- The calls for this publication. Participants subscribe to the one that is visible. -/
inductive Call
  | add
  | close (i : ℕ)
  | subscribe (id : ParticipantId)
  | unsubscribe (id : ParticipantId)
  deriving DecidableEq

namespace Mirrored

variable (pubID : PublicationId)

/-- The publication that the room shows. -/
def visible (s : Mirrored) : Option ℕ := s.remotePubs.lookup pubID

/-- The subscribers of a publication change. -/
def attach (s : Mirrored) (f : Finset ParticipantId → Finset ParticipantId) : Mirrored :=
  match s.visible pubID with
  | some pub => { s with subSinks := Function.update s.subSinks pub (f (s.subSinks pub)) }
  | none => s

def step (s : Mirrored) : Call → Mirrored
  | .add =>
    let (pubs, pub) := addRemotePublication s.remotePubs pubID s.published
    { s with
      remotePubs := pubs, published := s.published + 1, handles := s.handles ++ [pub]
      current := s.current ++ [s.handles.length] }
  | .close i =>
    if i < s.handles.length then
      { s with
        remotePubs := s.remotePubs.erase pubID, current := [], closed := insert i s.closed }
    else s
  | .subscribe id => s.attach pubID (insert id)
  | .unsubscribe id => s.attach pubID (Finset.erase · id)

/-- Where a packet goes that is written through a handle. -/
def writeRTP (s : Mirrored) (i : ℕ) : Option (Finset ParticipantId) := s.handles[i]?.map s.subSinks

/-- What is asked of a call. The publication stays visible as long as one of its handles is open, a
packet written through such a handle reaches the subscribers of the visible publication, and a
handle of an earlier publication does not remove it. -/
structure Independent (s : Mirrored) (c : Call) : Prop where
  stays : (∃ i ∈ s.current, i ∉ (s.step pubID c).closed) →
    (s.step pubID c).visible pubID = s.visible pubID
  reaches : ∀ i ∈ s.current, i ∉ s.closed → s.writeRTP i = (s.visible pubID).map s.subSinks
  stale : ∀ i, c = .close i → s.handles[i]? ≠ s.visible pubID →
    (s.step pubID c).visible pubID = s.visible pubID

/-- A handle that is closed is the only one of the publication, or nothing is mirrored. -/
def OnlyHandle (s : Mirrored) (c : Call) : Prop :=
  ∀ i, c = .close i → i < s.handles.length → s.visible pubID = none ∨ ∀ j ∈ s.current, j = i

/-- The handles that were obtained since nothing was mirrored are open and stand for what is
visible. -/
structure Sound (s : Mirrored) : Prop where
  current : ∀ i ∈ s.current, s.handles[i]? = s.visible pubID ∧ i ∉ s.closed
  visible : s.visible pubID = none ↔ s.current = []
  closed : ∀ i ∈ s.closed, i < s.handles.length

variable {s : Mirrored}

theorem attach_rest (s : Mirrored) (f : Finset ParticipantId → Finset ParticipantId) :
    (s.attach pubID f).remotePubs = s.remotePubs ∧ (s.attach pubID f).handles = s.handles ∧
      (s.attach pubID f).current = s.current ∧ (s.attach pubID f).closed = s.closed := by
  unfold attach
  split <;> exact ⟨rfl, rfl, rfl, rfl⟩

theorem visible_attach (s : Mirrored) (f : Finset ParticipantId → Finset ParticipantId) :
    (s.attach pubID f).visible pubID = s.visible pubID := by
  rw [Mirrored.visible, (attach_rest pubID s f).1, Mirrored.visible]

theorem visible_close {i : ℕ} (hi : i < s.handles.length) :
    (s.step pubID (.close i)).visible pubID = none := by
  rw [Mirrored.step, if_pos hi]
  exact (GoMap.lookup_erase_eq _ _ _).trans (if_pos rfl)

variable {pubID}

theorem Sound.attach (h : s.Sound pubID) (f : Finset ParticipantId → Finset ParticipantId) :
    (s.attach pubID f).Sound pubID := by
  obtain ⟨-, hhandles, hcurrent, hclosed⟩ := attach_rest pubID s f
  have hvisible := visible_attach pubID s f
  refine ⟨?_, ?_, ?_⟩
  · rw [hcurrent, hhandles, hvisible, hclosed]
    exact h.current
  · rw [hvisible, hcurrent]
    exact h.visible
  · rw [hclosed, hhandles]
    exact h.closed

theorem Sound.step (h : s.Sound pubID) (c : Call) : (s.step pubID c).Sound pubID := by
  cases c with
  | subscribe id => exact h.attach _
  | unsubscribe id => exact h.attach (erase · id)
  | close i =>
    by_cases hi : i < s.handles.length
    · have hvisible := visible_close pubID hi
      rw [Mirrored.step, if_pos hi] at hvisible ⊢
      refine ⟨fun j hj => absurd hj List.not_mem_nil, iff_of_true hvisible rfl, fun j hj => ?_⟩
      rcases mem_insert.1 hj with rfl | hj
      · exact hi
      · exact h.closed j hj
    · rw [Mirrored.step, if_neg hi]
      exact h
  | add =>
    have hvisible : (s.step pubID .add).visible pubID =
        some (addRemotePublication s.remotePubs pubID s.published).2 :=
      lookup_addRemotePublication
    refine ⟨fun i hi => ?_, iff_of_false (by simp [hvisible]) (by simp [Mirrored.step]), fun i hi =>
      (h.closed i hi).trans_le (by simp [Mirrored.step])⟩
    rcases List.mem_append.1 hi with hi | hi
    · -- An earlier handle stands for what was visible, and this stays.
      obtain ⟨hpub, hopen⟩ := h.current i hi
      obtain ⟨pub, hpub'⟩ := Option.ne_none_iff_exists'.1
        (mt h.visible.1 (List.ne_nil_of_mem hi))
      rw [hpub'] at hpub
      have hstays : (s.step pubID .add).visible pubID = some pub :=
        lookup_addRemotePublication_of_some hpub'
      refine ⟨?_, hopen⟩
      rw [hstays]
      exact List.getElem?_append_left (List.getElem?_eq_some_iff.1 hpub).1 |>.trans hpub
    · rw [List.mem_singleton.1 hi, hvisible]
      exact ⟨List.getElem?_concat_length, fun hmem => (h.closed _ hmem).ne rfl⟩

theorem independent_iff (h : s.Sound pubID) (c : Call) :
    s.Independent pubID c ↔ s.OnlyHandle pubID c := by
  have hreaches (i : ℕ) (hi : i ∈ s.current) : s.writeRTP i = (s.visible pubID).map s.subSinks := by
    rw [writeRTP, (h.current i hi).1]
  constructor
  · rintro ⟨hstays, -, -⟩ i rfl hi
    rw [visible_close pubID hi] at hstays
    by_contra hnot
    obtain ⟨hne, j, hj, hji⟩ : s.visible pubID ≠ none ∧ ∃ j ∈ s.current, j ≠ i := by
      simpa using hnot
    refine hne (hstays ⟨j, hj, ?_⟩).symm
    rw [Mirrored.step, if_pos hi]
    simp [hji, (h.current j hj).2]
  · intro honly
    refine ⟨fun ⟨j, hj, hopen⟩ => ?_, fun i hi _ => hreaches i hi, ?_⟩
    · cases c with
      | add =>
        obtain ⟨pub, hpub⟩ := Option.ne_none_iff_exists'.1 (mt h.visible.1 (ne_nil_of_mem hj))
        exact (lookup_addRemotePublication_of_some hpub).trans hpub.symm
      | close i =>
        by_cases hi : i < s.handles.length
        · rcases honly i rfl hi with hnone | hall
          · rw [visible_close pubID hi, hnone]
          · rw [Mirrored.step, if_pos hi, hall j hj] at hopen
            exact absurd (mem_insert_self _ _) hopen
        · rw [Mirrored.step, if_neg hi]
      | subscribe id => exact visible_attach pubID s _
      | unsubscribe id => exact visible_attach pubID s (erase · id)
    · rintro i rfl hne
      by_cases hi : i < s.handles.length
      · rw [visible_close pubID hi, eq_comm, h.visible, eq_nil_iff_forall_not_mem]
        -- A handle of what is visible would be this one.
        intro j hj
        rcases honly i rfl hi with hnone | hall
        · exact absurd hj (h.visible.1 hnone ▸ not_mem_nil)
        · exact hne (hall j hj ▸ (h.current j hj).1)
      · rw [Mirrored.step, if_neg hi]

end Mirrored

/-- **When handles are independent.** After any calls for a publication, the next one is as it
should be exactly if it does not close one of several handles, nor one that was replaced. -/
theorem handles_independent_iff (pubID : PublicationId) (pubs : RemotePubs)
    (hnone : pubs.lookup pubID = none) (calls : List Call) (c : Call) :
    (calls.foldl (Mirrored.step pubID) { remotePubs := pubs }).Independent pubID c ↔
      (calls.foldl (Mirrored.step pubID) { remotePubs := pubs }).OnlyHandle pubID c := by
  have hsound : (calls.foldl (Mirrored.step pubID) { remotePubs := pubs }).Sound pubID := by
    induction calls using reverseRecOn with
    | nil =>
      exact ⟨fun i hi => absurd hi not_mem_nil, iff_of_true hnone rfl, fun i hi =>
        absurd hi (notMem_empty i)⟩
    | append_singleton calls c ih =>
      rw [foldl_append]
      exact ih.step c
  exact Mirrored.independent_iff hsound c

/-- The only handle of a publication that was mirrored again is closed. -/
theorem only_handle_independent :
    ([Call.add, .subscribe "p", .close 0, .add, .subscribe "p"].foldl (Mirrored.step "pub")
      { remotePubs := ∅ }).Independent "pub" (.close 1) :=
  (handles_independent_iff "pub" ∅ rfl _ (.close 1)).2 (by
    rintro i ⟨⟩ -
    exact .inr (by decide))

/-- One of two handles is closed. The publication is gone. -/
theorem two_handles_not_independent :
    ¬ ([Call.add, .add].foldl (Mirrored.step "pub") { remotePubs := ∅ }).Independent "pub"
      (.close 0) := by
  intro h
  have hstays := h.stays ⟨1, by decide, by decide⟩
  exact absurd hstays (by decide)

end PulseRTC.Sfu.MirrorHandles
