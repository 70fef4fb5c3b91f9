import PulseRTC.Signaling.Connections

/-!
# Forwarded frames stay in their room

`handleForward` looks for the target in the room of the sender on its own node, and asks for the
location of the target otherwise. The receiving node delivers by participant id alone, and the room
is compared on the sending node only, with that of a location record.

* `forward_stays_in_room`: whoever a forwarded frame is handed to is in the room of the sender, or
  has left it.
-/

namespace PulseRTC.Signaling.Connections

open Foundations Cluster Multiset Function List

namespace State

variable (s : State)

/-- The reference is that of a room with this id. -/
def IsRoom (room : RoomId) (ref : RoomRef) : Prop := ref < s.nextRoom ∧ (s.objects ref).id = room

def Been (c : ParticipantId) (room : RoomId) : Prop := room ∈ (s.clients c).been

/-- The sender that the frame names has called `handleForward` for it in this room. -/
def Forwarded (room : RoomId) (frame : Frame) : Prop := (frame.sender, room, frame) ∈ s.forwards

def InRoom (c : ParticipantId) (room : RoomId) : Prop :=
  ∃ ref < s.nextRoom, (s.objects ref).id = room ∧ c ∈ (s.objects ref).participants

/-- The client has been a participant of a room with this id, and is none any more. -/
def HasLeft (c : ParticipantId) (room : RoomId) : Prop := s.Been c room ∧ ¬ s.InRoom c room

variable {c q : ParticipantId} {room : RoomId} {ref ref' : RoomRef}

theorem id_add : ((s.add c ref).objects ref').id = (s.objects ref').id := by
  by_cases heq : ref' = ref
  · subst heq
    simp only [add, onClient, onRoom, update_self]
  · simp only [add, onClient, onRoom, update_of_ne heq]

theorem mem_participants_add : q ∈ ((s.add c ref).objects ref').participants ↔
    q ∈ (s.objects ref').participants ∨ q = c ∧ ref' = ref := by
  by_cases heq : ref' = ref
  · subst heq
    simp only [add, onClient, onRoom, update_self, Finset.mem_insert, and_true]
    exact or_comm
  · simp only [add, onClient, onRoom, update_of_ne heq, heq, and_false, or_false]

theorem been_add_of_ne (hne : q ≠ c) : ((s.add c ref).clients q).been = (s.clients q).been := by
  simp only [add, onClient, onRoom, update_of_ne hne]

theorem been_add_self :
    ((s.add c ref).clients c).been = (s.objects ref).id :: (s.clients c).been := by
  simp only [add, onClient, onRoom, update_self]

variable {node : NodeId}

theorem objects_newRoom_self : (s.newRoom node room).objects s.nextRoom = { id := room } :=
  update_self _ _ _

theorem objects_newRoom_of_ne (hne : ref ≠ s.nextRoom) :
    (s.newRoom node room).objects ref = s.objects ref :=
  update_of_ne hne _ _

end State

/-! ## What can change -/

/-- Rooms and connections change in no other way than by losing participants and rooms. -/
structure Quiet (s s' : State) : Prop where
  connected : s'.connected = s.connected
  been : ∀ c, (s'.clients c).been = (s.clients c).been
  rooms : ∀ node room, ∀ ref ∈ (s'.rooms node).lookup room, (s.rooms node).lookup room = some ref
  nextRoom : s'.nextRoom = s.nextRoom
  id : ∀ ref, (s'.objects ref).id = (s.objects ref).id
  participants : ∀ ref, (s'.objects ref).participants ⊆ (s.objects ref).participants
  registered : s'.registered = s.registered
  routed : s'.routed = s.routed
  forwards : s'.forwards = s.forwards

/-- What an instruction does to the rooms and to the records of the cluster. -/
inductive Effect (s : State) : Instr → State → Prop
  | quiet {i : Instr} {s' : State} (hquiet : Quiet s s') (hi : ∀ c room ref, i ≠ .add c room ref) :
    Effect s i s'
  | newRoom (c room) : Effect s (.getOrCreate c room) (s.newRoom (s.clients c).node room)
  | add (c room ref) : Effect s (.add c room ref) (s.add c ref)
  | register (c room) : Effect s (.register c room) (s.register c room)
  | forward (c type target payload) :
    Effect s (.handleForward c type target payload)
      { s with forwards := (c, (s.clients c).roomID, ⟨type, c, target, payload⟩) :: s.forwards }
  | route (c room frame) (loc : Location) (hloc : loc ∈ s.registered)
    (htarget : loc.participantID = frame.target) (hroom : loc.roomID = room) :
    Effect s (.locate c room frame) { s with routed := ⟨room, frame.target, frame⟩ :: s.routed }

section Effects

variable {s s' : State} {i : Instr} {new : List Instr}

theorem Quiet.refl (s : State) : Quiet s s :=
  ⟨rfl, fun _ => rfl, fun _ _ _ h => h, rfl, fun _ => rfl, fun _ => subset_rfl, rfl, rfl, rfl⟩

theorem Quiet.onClient (s : State) (q : ParticipantId) {f : Client → Client}
    (hf : ∀ y, (f y).been = y.been) : Quiet s (s.onClient q f) := by
  exact { Quiet.refl s with been := fun c => onClient_of_eq Client.been s q hf }

theorem Quiet.erase (s : State) (ref : RoomRef) (c : ParticipantId) :
    Quiet s (s.onRoom ref fun x => { x with participants := x.participants.erase c }) := by
  refine { Quiet.refl s with id := fun ref' => ?_, participants := fun ref' => ?_ }
  all_goals
    by_cases heq : ref' = ref
    · subst heq
      simp [State.onRoom, Finset.erase_subset]
    · simp [State.onRoom, heq]

theorem Quiet.removeParticipant (s : State) (c : ParticipantId) (room : RoomId) :
    Quiet s (s.removeParticipant c room) := by
  unfold State.removeParticipant
  split
  · exact Quiet.refl s
  · next ref _ =>
    have herase := Quiet.erase s ref c
    dsimp only
    split_ifs with hempty
    · refine { herase with rooms := fun node room' ref' href' => ?_ }
      dsimp only at href'
      by_cases hnode : node = (s.clients c).node
      · subst hnode
        rw [update_self, Option.mem_def, GoMap.lookup_erase_eq] at href'
        split_ifs at href'
        exact href'
      · rwa [update_of_ne hnode] at href'
    · exact herase

theorem Quiet.send (s : State) (c : ParticipantId) (frame : Frame) (x : Choice) :
    Quiet s (s.send c frame x) := by
  unfold State.send
  split_ifs
  · exact Quiet.refl s
  all_goals exact Quiet.onClient s c fun _ => rfl

theorem Does.effect (hdoes : Does s i s' new) : Effect s i s' := by
  cases hdoes with
  | refused h text =>
    refine .quiet (Quiet.onClient s _ fun _ => rfl) ?_
    rintro c room ref rfl
    cases h
  | newRoom c room h => exact .newRoom c room
  | add c room ref => exact .add c room ref
  | register c room => exact .register c room
  | forward c type target payload h => exact .forward c type target payload
  | route c room frame loc hloc htarget hroom => exact .route c room frame loc hloc htarget hroom
  | notAttached | setRoom | unsetRoom | ready | closeSend =>
    exact .quiet (Quiet.onClient s _ fun _ => rfl) fun _ _ _ h => nomatch h
  | remove c ref => exact .quiet (Quiet.erase s ref c) fun _ _ _ h => nomatch h
  | removeParticipant c room =>
    exact .quiet (Quiet.removeParticipant s c room) fun _ _ _ h => nomatch h
  | send c room frame x => exact .quiet (Quiet.send s c frame x) fun _ _ _ h => nomatch h
  | track | farewell | untrack =>
    exact .quiet { Quiet.refl s with } fun _ _ _ h => nomatch h
  | _ => exact .quiet (Quiet.refl s) fun _ _ _ h => nomatch h

end Effects

/-! ## What is known -/

/-- What was known of rooms, connections and frames is still known. -/
structure Extends (s s' : State) : Prop where
  room : ∀ {room ref}, s.IsRoom room ref → s'.IsRoom room ref
  been : ∀ {c room}, s.Been c room → s'.Been c room
  forwarded : ∀ {room frame}, s.Forwarded room frame → s'.Forwarded room frame

/-- What the instruction relies on. -/
def Instr.Ok (s : State) : Instr → Prop
  | .getOrCreate _ room => room ≠ ""
  | .add _ room ref => room ≠ "" ∧ s.IsRoom room ref
  | .setRoom c room ref => room ≠ "" ∧ s.IsRoom room ref ∧ s.Been c room
  | .track c room _ | .attach c room _ | .register c room => s.Been c room
  | .findRoom _ room frame | .locate _ room frame => s.Forwarded room frame
  | .findTarget _ room ref frame => s.IsRoom room ref ∧ s.Forwarded room frame
  | .deliver _ msg => s.Forwarded msg.roomID msg.payload ∧ s.Been msg.participantID msg.roomID
  | .send c room frame => s.Forwarded room frame ∧ s.Been c room
  | _ => True

/-- What holds of the rooms and the records of the cluster. -/
structure Facts (s : State) : Prop where
  rooms : ∀ node room, ∀ ref ∈ (s.rooms node).lookup room, s.IsRoom room ref
  participants : ∀ ref, ∀ c ∈ (s.objects ref).participants,
    ref < s.nextRoom ∧ s.Been c (s.objects ref).id
  blank : ∀ c ∉ s.connected, (s.clients c).been = []
  registered : ∀ loc ∈ s.registered, s.Been loc.participantID loc.roomID
  routed : ∀ msg ∈ s.routed,
    s.Forwarded msg.roomID msg.payload ∧ s.Been msg.participantID msg.roomID

variable {op : Op}

section Facts

variable {s s' : State} {P rest : Multiset Instr} {new : List Instr} {x : Choice} {i : Instr}
  {c : ParticipantId}

theorem Instr.Ok.mono (hext : Extends s s') (h : i.Ok s) : i.Ok s' := by
  cases i with
  | getOrCreate => exact h
  | add => exact ⟨h.1, hext.room h.2⟩
  | setRoom => exact ⟨h.1, hext.room h.2.1, hext.been h.2.2⟩
  | track | attach | register => exact hext.been h
  | findRoom | locate => exact hext.forwarded h
  | findTarget => exact ⟨hext.room h.1, hext.forwarded h.2⟩
  | deliver | send => exact ⟨hext.forwarded h.1, hext.been h.2⟩
  | _ => trivial

theorem Quiet.extends (h : Quiet s s') : Extends s s' := by
  refine ⟨fun {room ref} hroom => ?_, fun {c room} hbeen => ?_, fun {room frame} hfwd => ?_⟩
  · exact ⟨h.nextRoom ▸ hroom.1, (h.id ref).trans hroom.2⟩
  · rwa [State.Been, h.been c]
  · rwa [State.Forwarded, h.forwards]

theorem Effect.extends (heffect : Effect s i s') : Extends s s' := by
  cases heffect with
  | quiet hquiet hi => exact hquiet.extends
  | newRoom c room =>
    refine ⟨fun {room' ref} h => ⟨Nat.lt_succ_of_lt h.1, ?_⟩, id, id⟩
    rw [s.objects_newRoom_of_ne h.1.ne]
    exact h.2
  | add c room ref =>
    refine ⟨fun {room' ref'} h => ⟨h.1, s.id_add.trans h.2⟩, fun {c' room'} h => ?_, id⟩
    by_cases heq : c' = c
    · subst heq
      rw [State.Been, s.been_add_self]
      exact mem_cons_of_mem _ h
    · rwa [State.Been, s.been_add_of_ne heq]
  | register | route => exact ⟨id, id, id⟩
  | forward => exact ⟨id, id, fun h => mem_cons_of_mem _ h⟩

theorem Facts.quiet (h : Facts s) (hquiet : Quiet s s') : Facts s' := by
  have hext := hquiet.extends
  refine ⟨fun node room ref href => ?_, fun ref c hc => ?_, fun c hc => ?_, fun loc hloc => ?_,
    fun msg hmsg => ?_⟩
  · exact hext.room (h.rooms node room ref (hquiet.rooms node room ref href))
  · obtain ⟨hlt, hbeen⟩ := h.participants ref c (hquiet.participants ref hc)
    rw [hquiet.nextRoom, hquiet.id]
    exact ⟨hlt, hext.been hbeen⟩
  · rw [hquiet.connected] at hc
    rw [hquiet.been, h.blank c hc]
  · rw [hquiet.registered] at hloc
    exact hext.been (h.registered loc hloc)
  · rw [hquiet.routed] at hmsg
    obtain ⟨hfwd, hbeen⟩ := h.routed msg hmsg
    exact ⟨hext.forwarded hfwd, hext.been hbeen⟩

/-- A step keeps the facts. The client of a join is connected. -/
theorem Effect.facts (heffect : Effect s i s') (h : Facts s) (hi : i.Ok s)
    (hconn : ∀ c ∈ i.handler, c ∈ s.connected) : Facts s' := by
  have hext := heffect.extends
  cases heffect with
  | quiet hquiet _ => exact h.quiet hquiet
  | newRoom c room =>
    refine ⟨fun node room' ref href => ?_, fun ref q hq => ?_, h.blank, h.registered, h.routed⟩
    · by_cases hnode : node = (s.clients c).node
      · subst hnode
        simp only [State.newRoom, update_self, Option.mem_def, GoMap.lookup_insert_eq] at href
        split_ifs at href with hroom
        · cases href
          subst hroom
          exact ⟨Nat.lt_succ_self _, by rw [s.objects_newRoom_self]⟩
        · exact hext.room (h.rooms _ room' ref href)
      · simp only [State.newRoom, update_of_ne hnode] at href
        exact hext.room (h.rooms node room' ref href)
    · by_cases heq : ref = s.nextRoom
      · subst heq
        rw [s.objects_newRoom_self] at hq
        cases hq
      · rw [s.objects_newRoom_of_ne heq] at hq ⊢
        obtain ⟨hlt, hbeen⟩ := h.participants ref q hq
        exact ⟨Nat.lt_succ_of_lt hlt, hbeen⟩
  | add c room ref =>
    refine ⟨fun node room' ref' href => hext.room (h.rooms node room' ref' href),
      fun ref' q hq => ?_, fun q hq => ?_, fun loc hloc => hext.been (h.registered loc hloc),
      fun msg hmsg => ⟨(h.routed msg hmsg).1, hext.been (h.routed msg hmsg).2⟩⟩
    · rw [s.id_add]
      obtain hold | ⟨rfl, rfl⟩ := s.mem_participants_add.1 hq
      · obtain ⟨hlt, hbeen⟩ := h.participants ref' q hold
        exact ⟨hlt, hext.been hbeen⟩
      · refine ⟨hi.2.1, ?_⟩
        rw [State.Been, s.been_add_self]
        exact mem_cons_self
    · have hne : q ≠ c := by
        rintro rfl
        exact hq (hconn q rfl)
      rw [s.been_add_of_ne hne]
      exact h.blank q hq
  | register c room =>
    refine ⟨h.rooms, h.participants, h.blank, fun loc hloc => ?_, h.routed⟩
    obtain rfl | hloc := mem_cons.1 hloc
    · exact hi
    · exact h.registered loc hloc
  | forward c type target payload =>
    exact ⟨h.rooms, h.participants, h.blank, h.registered,
      fun msg hmsg => ⟨hext.forwarded (h.routed msg hmsg).1, (h.routed msg hmsg).2⟩⟩
  | route c room frame loc hloc htarget hroom =>
    refine ⟨h.rooms, h.participants, h.blank, h.registered, fun msg hmsg => ?_⟩
    obtain rfl | hmsg := mem_cons.1 hmsg
    · subst hroom
      exact ⟨hi, htarget ▸ h.registered loc hloc⟩
    · exact h.routed msg hmsg

/-- What an instruction leaves behind can rely on what it needs. -/
theorem Does.ok (hdoes : Does s i s' new) (h : Facts s) (hi : i.Ok s) : ∀ j ∈ new, j.Ok s' := by
  have hext := hdoes.effect.extends
  cases hdoes with
  | admitted c room hroom _ => exact forall_mem_singleton.2 hroom
  | foundRoom c room ref href => exact forall_mem_singleton.2 ⟨hi, h.rooms _ room ref href⟩
  | newRoom c room _ =>
    have hroom : (s.newRoom (s.clients c).node room).IsRoom room s.nextRoom :=
      ⟨Nat.lt_succ_self _, by rw [s.objects_newRoom_self]⟩
    exact forall_mem_singleton.2 ⟨hi, hroom⟩
  | add c room ref =>
    have hbeen : (s.add c ref).Been c room := by
      rw [State.Been, s.been_add_self, hi.2.2]
      exact mem_cons_self
    exact forall_mem_singleton.2 ⟨hi.1, hext.room hi.2, hbeen⟩
  | setRoom c room ref => exact forall_mem_singleton.2 (hext.been hi.2.2)
  | track | attached | deliver => exact forall_mem_singleton.2 hi
  | forward c type target payload _ => simp [Instr.Ok, State.Forwarded]
  | findRoom c room ref frame href =>
    exact forall_mem_singleton.2 ⟨h.rooms _ room ref href, hi⟩
  | findTarget c room ref frame hmem =>
    have hbeen := (h.participants ref frame.target hmem).2
    rw [hi.1.2] at hbeen
    exact forall_mem_cons.2 ⟨⟨hi.2, hbeen⟩, forall_mem_singleton.2 trivial⟩
  | elsewhere => exact forall_mem_singleton.2 hi.2
  | notFound | send | ready | closeSend => simp
  | farewell kind => cases kind <;> simp [Farewell.next, Instr.Ok]
  | _ => simp [Instr.Ok]

/-- An event starts instructions that can rely on what they need, and keeps the facts. -/
theorem launch_facts (h : Facts s) (hla : launch s op = some (s', new)) :
    Facts s' ∧ Extends s s' ∧ ∀ j ∈ new, j.Ok s' := by
  cases launch_starts hla with
  | connect q node hq =>
    -- a client that connects has been nowhere
    have hbeen (c : ParticipantId) (room : RoomId) (hc : s.Been c room) :
        room ∈ (update s.clients q { node } c).been := by
      have hne : c ≠ q := by
        rintro rfl
        rw [State.Been, h.blank c hq] at hc
        cases hc
      rwa [update_of_ne hne]
    refine ⟨⟨h.rooms, fun ref c hc => ?_, fun c hc => ?_, fun loc hloc => ?_, fun msg hmsg => ?_⟩,
      ⟨id, fun {c room} => hbeen c room, id⟩, by simp⟩
    · exact ⟨(h.participants ref c hc).1, hbeen c _ (h.participants ref c hc).2⟩
    · rw [Finset.mem_insert, not_or] at hc
      simpa [hc.1] using h.blank c hc.2
    · exact hbeen _ _ (h.registered loc hloc)
    · exact ⟨(h.routed msg hmsg).1, hbeen _ _ (h.routed msg hmsg).2⟩
  | join q | forward q | readEnds q | closeNow q =>
    exact ⟨h.quiet (Quiet.onClient s q fun _ => rfl),
      Quiet.extends (Quiet.onClient s q fun _ => rfl), by simp [Instr.Ok]⟩
  | deliver node msg hmsg =>
    exact ⟨h, ⟨id, id, id⟩, forall_mem_singleton.2 (h.routed msg hmsg)⟩
  | deliverDisconnect node q => exact ⟨h, ⟨id, id, id⟩, forall_mem_singleton.2 trivial⟩

end Facts

/-! ## Members -/

/-- How far the instruction has got with joining a room: its client is in no room, or in none but
the given one. -/
def Instr.stage : Instr → Option (ParticipantId × Option RoomRef)
  | .getOrCreate c _ | .add c _ _ | .unsetRoom c => some (c, none)
  | .setRoom c _ ref | .track c _ ref | .attach c _ ref | .remove c ref => some (c, some ref)
  | _ => none

/-- A participant of a room has this room as its own, or its join is about to set it. -/
structure Members (s : State) (P : Multiset Instr) : Prop where
  member : ∀ ref, ∀ c ∈ (s.objects ref).participants,
    ((s.clients c).roomID = (s.objects ref).id ∧ (s.objects ref).id ≠ "") ∨
      .setRoom c (s.objects ref).id ref ∈ P
  stage : ∀ i ∈ P, ∀ e ∈ i.stage, ∀ ref, e.1 ∈ (s.objects ref).participants → e.2 = some ref

section Members

variable {s s' : State} {P rest : Multiset Instr} {new : List Instr} {x : Choice} {i j : Instr}
  {c : ParticipantId} {ref : RoomRef}

theorem Instr.handler_of_stage {e : ParticipantId × Option RoomRef} (h : i.stage = some e) :
    i.handler = some e.1 := by
  cases i <;> cases h <;> rfl

/-- Only `Room.Add` adds a participant. -/
theorem Effect.participants_old (heffect : Effect s i s')
    (hc : c ∈ (s'.objects ref).participants) :
    c ∈ (s.objects ref).participants ∧ (s'.objects ref).id = (s.objects ref).id ∨
      ∃ room, i = .add c room ref := by
  cases heffect with
  | quiet hquiet _ => exact .inl ⟨hquiet.participants ref hc, hquiet.id ref⟩
  | newRoom q room =>
    by_cases heq : ref = s.nextRoom
    · subst heq
      rw [s.objects_newRoom_self] at hc
      cases hc
    · rw [s.objects_newRoom_of_ne heq] at hc ⊢
      exact .inl ⟨hc, rfl⟩
  | add q room ref' =>
    obtain hold | ⟨rfl, rfl⟩ := s.mem_participants_add.1 hc
    · exact .inl ⟨hold, s.id_add⟩
    · exact .inr ⟨room, rfl⟩
  | register | forward | route => exact .inl ⟨hc, rfl⟩

/-- Only a join sets the room of a client, and only a join that fails unsets it. -/
theorem Does.roomID (hdoes : Does s i s' new) (c : ParticipantId) :
    (s'.clients c).roomID = (s.clients c).roomID ∨
      (∃ room ref, i = .setRoom c room ref ∧ (s'.clients c).roomID = room) ∨ i = .unsetRoom c := by
  cases hdoes with
  | refused | notAttached | add | ready | closeSend =>
    exact .inl (onClient_of_eq Client.roomID _ _ fun _ => rfl)
  | setRoom q room ref =>
    by_cases heq : c = q
    · subst heq
      exact .inr (.inl ⟨room, ref, rfl, by simp⟩)
    · exact .inl (by simp [heq])
  | unsetRoom q =>
    by_cases heq : c = q
    · exact .inr (.inr (heq ▸ rfl))
    · exact .inl (by simp [heq])
  | send q room frame x =>
    unfold State.send
    split_ifs
    · exact .inl rfl
    all_goals exact .inl (onClient_of_eq Client.roomID s q fun _ => rfl)
  | removeParticipant q room =>
    rw [(removeParticipant_clients s q room).2.1]
    exact .inl rfl
  | _ => exact .inl rfl

/-- Nothing else joins a room for a client while an instruction of its join is to come. -/
theorem Pumps.not_mem_rest (h : Pumps s (i ::ₘ rest)) (hi : i.handler = some c)
    (hj : j.handler = some c) : j ∉ rest := by
  intro hmem
  have hzero := (h.of_handler hi).2
  exact tally_eq_zero.1 hzero j hmem hj

/-- A participant of a room keeps it as its own. -/
theorem exec_member (h : Members s (i ::ₘ rest)) (hi : i.Ok s)
    (hdoes : Does s i s' new) (hc : c ∈ (s'.objects ref).participants) :
    ((s'.clients c).roomID = (s'.objects ref).id ∧ (s'.objects ref).id ≠ "") ∨
      .setRoom c (s'.objects ref).id ref ∈ (new + rest : Multiset Instr) := by
  obtain ⟨hold, hid⟩ | ⟨room, rfl⟩ := hdoes.effect.participants_old hc
  · rw [hid]
    have hstage := h.stage i (mem_cons_self i rest)
    obtain hroom | ⟨room, ref', rfl, hroom⟩ | rfl := hdoes.roomID c
    · obtain ⟨hown, hne⟩ | hset := h.member ref c hold
      · exact .inl ⟨hroom.trans hown, hne⟩
      · obtain rfl | hrest := mem_cons.1 hset
        · -- the join sets the room now
          cases hdoes with
          | refused hno => cases hno
          | setRoom => exact .inl ⟨by simp, hi.1⟩
        · exact .inr (mem_add.2 (.inr hrest))
    · obtain rfl := Option.some.inj (hstage _ rfl ref hold)
      have hisRoom : (s.objects ref').id = room := hi.2.1.2
      rw [hisRoom]
      exact .inl ⟨hroom, hi.1⟩
    · exact absurd (hstage _ rfl ref hold) (by simp)
  · -- the participant is added now
    cases hdoes with
    | refused hno => cases hno
    | add =>
      rw [s.id_add, hi.2.2]
      exact .inr (by simp)

/-- A step leaves a join where it says. -/
theorem Does.stage (hdoes : Does s i s' new) (hpumps : Pumps s (i ::ₘ rest))
    (h : Members s (i ::ₘ rest)) : ∀ j ∈ new, ∀ e ∈ j.stage, ∀ ref,
      e.1 ∈ (s'.objects ref).participants → e.2 = some ref := by
  have hstage := h.stage i (mem_cons_self i rest)
  have heffect := hdoes.effect
  cases hdoes with
  | admitted c room hroom hfree =>
    refine forall_mem_singleton.2 ?_
    rintro _ ⟨⟩ ref hc
    -- whoever is in a room has it as its own, or is joining it, but this join only begins
    obtain ⟨hown, hne⟩ | hset := h.member ref c hc
    · exact absurd (hown.symm.trans hfree) hne
    · obtain heq | hrest := mem_cons.1 hset
      · cases heq
      · exact absurd hrest (hpumps.not_mem_rest rfl rfl)
  | foundRoom c room ref' _ | setRoom | track | notAttached => exact forall_mem_singleton.2 hstage
  | newRoom c room _ =>
    refine forall_mem_singleton.2 ?_
    rintro _ ⟨⟩ ref hc
    obtain ⟨hold, -⟩ | ⟨_, heq⟩ := heffect.participants_old hc
    · exact hstage _ rfl ref hold
    · cases heq
  | add c room ref' =>
    refine forall_mem_singleton.2 ?_
    rintro _ ⟨⟩ ref hc
    obtain ⟨hold, -⟩ | ⟨_, heq⟩ := heffect.participants_old hc
    · exact absurd (hstage _ rfl ref hold) (by simp)
    · cases heq
      rfl
  | remove c ref' =>
    refine forall_mem_singleton.2 ?_
    rintro _ ⟨⟩ ref hc
    obtain ⟨hold, -⟩ | ⟨_, heq⟩ := heffect.participants_old hc
    · obtain rfl := Option.some.inj (hstage _ rfl ref hold)
      simp [State.onRoom] at hc
    · cases heq
  | farewell kind => cases kind <;> simp [Farewell.next, Instr.stage]
  | _ => simp [Instr.stage]

theorem exec_members (hpumps : Pumps s (i ::ₘ rest)) (h : Members s (i ::ₘ rest)) (hi : i.Ok s)
    (hdoes : Does s i s' new) : Members s' (new + rest) := by
  refine ⟨fun ref c hc => exec_member h hi hdoes hc, fun j hj e he ref hc => ?_⟩
  obtain hj | hj := mem_new.1 hj
  · exact hdoes.stage hpumps h j hj e he ref hc
  · obtain ⟨hold, -⟩ | ⟨room, rfl⟩ := hdoes.effect.participants_old hc
    · exact h.stage j (mem_cons_of_mem hj) e he ref hold
    · exact absurd hj (hpumps.not_mem_rest rfl (Instr.handler_of_stage he))

theorem launch_members (hfacts : Facts s) (h : Members s P)
    (hla : launch s op = some (s', new)) : Members s' (new + P) := by
  have hstarts := launch_starts hla
  have hobjects : s'.objects = s.objects := by cases hstarts <;> rfl
  have hnew : ∀ j ∈ new, j.stage = none := by cases hstarts <;> simp [Instr.stage]
  have hroom (ref : RoomRef) (c : ParticipantId) (hc : c ∈ (s.objects ref).participants) :
      (s'.clients c).roomID = (s.clients c).roomID := by
    cases hstarts with
    | connect q node hq =>
      have hne : c ≠ q := by
        rintro rfl
        have hbeen := (hfacts.participants ref c hc).2
        rw [State.Been, hfacts.blank c hq] at hbeen
        cases hbeen
      simp [hne]
    | join | forward | readEnds | closeNow =>
      exact onClient_of_eq Client.roomID _ _ fun _ => rfl
    | deliver | deliverDisconnect => rfl
  refine ⟨fun ref c hc => ?_, fun j hj e he ref hc => ?_⟩
  · rw [hobjects] at hc ⊢
    rw [hroom ref c hc]
    exact (h.member ref c hc).imp_right fun hset => mem_add.2 (.inr hset)
  · rw [hobjects] at hc
    obtain hj | hj := mem_new.1 hj
    · rw [hnew j hj] at he
      cases he
    · exact h.stage j hj e he ref hc

end Members

/-! ## Runs -/

/-- What holds in every run. -/
structure Connected (s : State) (P : Multiset Instr) : Prop where
  pumps : Pumps s P
  facts : Facts s
  ok : ∀ i ∈ P, i.Ok s
  members : Members s P

theorem exec_connected {s s' : State} {i : Instr} {rest : Multiset Instr} {x : Choice}
    {new : List Instr} (h : Connected s (i ::ₘ rest)) (hex : exec s i x = some (s', new)) :
    Connected s' (new + rest) := by
  have hdoes := exec_does hex
  have hi := h.ok i (mem_cons_self i rest)
  have hconn : ∀ c ∈ i.handler, c ∈ s.connected := by
    intro c hc
    by_contra hno
    have hpump := (h.pumps.of_handler hc).1
    rw [h.pumps.connected c hno] at hpump
    cases hpump
  refine ⟨exec_pumps h.pumps hex, hdoes.effect.facts h.facts hi hconn, fun j hj => ?_,
    exec_members h.pumps h.members hi hdoes⟩
  obtain hj | hj := mem_new.1 hj
  · exact hdoes.ok h.facts hi j hj
  · exact (h.ok j (mem_cons_of_mem hj)).mono hdoes.effect.extends

theorem launch_connected {s s' : State} {P : Multiset Instr} {new : List Instr}
    (h : Connected s P) (hla : launch s op = some (s', new)) : Connected s' (new + P) := by
  obtain ⟨hfacts, hext, hnew⟩ := launch_facts h.facts hla
  refine ⟨launch_pumps h.pumps hla, hfacts, fun j hj => ?_, launch_members h.facts h.members hla⟩
  obtain hj | hj := mem_new.1 hj
  · exact hnew j hj
  · exact (h.ok j hj).mono hext

theorem run_connected {as : List Act} {t : System} (hrun : run step System.empty as = some t) :
    Connected t.shared t.pending := by
  refine Pool.run_inv_always (I := Connected) (fun s P op s' code => launch_connected)
    (fun s i rest x s' new => exec_connected) ?_ hrun
  refine ⟨⟨fun _ => rfl, fun _ _ => rfl⟩, ⟨?_, ?_, fun _ _ => rfl, ?_, ?_⟩, ?_, ⟨?_, ?_⟩⟩
  all_goals simp [System.empty, Pool.pending]

/-- **Forwarding never crosses rooms**: in every run of the cluster, a forwarded frame that is
handed to the `Send` of a client names the participant who forwarded it as its sender, and the
client is in the room it was forwarded in, or has left it. A client that is in a room has it as its
own, or is about to have it, as `Add` comes before `setRoom`. -/
theorem forward_stays_in_room (as : List Act) (t : System)
    (hrun : run step System.empty as = some t) (q : ParticipantId) (room : RoomId) (frame : Frame)
    (hsend : .send q room frame ∈ t.pending) :
    (∃ c, (c, room, frame) ∈ t.shared.forwards ∧ frame.sender = c) ∧
      (t.shared.InRoom q room ∧ ((t.shared.clients q).roomID = room ∨
          ∃ ref, .setRoom q room ref ∈ t.pending) ∨
        t.shared.HasLeft q room) := by
  have hinv := run_connected hrun
  obtain ⟨hfwd, hbeen⟩ := hinv.ok _ hsend
  refine ⟨⟨frame.sender, hfwd, rfl⟩, ?_⟩
  by_cases hin : t.shared.InRoom q room
  · refine .inl ⟨hin, ?_⟩
    obtain ⟨ref, -, rfl, hmem⟩ := hin
    exact (hinv.members.member ref q hmem).imp And.left fun hset => ⟨ref, hset⟩
  · exact .inr ⟨hbeen, hin⟩

/-- The offer that one client forwards to another. -/
def offer : Frame := ⟨"webrtc_offer", "a", "b", "sdp"⟩

/-- Two clients join a room on different nodes, one forwards an offer to the other, and the message
arrives. -/
def forwarded : List Act :=
  [Pool.Act.start (Op.connect "a" "n1"), Pool.Act.start (Op.connect "b" "n2"),
    Pool.Act.start (Op.join "a" "r")] ++ go 2 8 ++ [Pool.Act.start (Op.join "b" "r")] ++ go 3 8 ++
    [Pool.Act.start (Op.forward "a" "webrtc_offer" "b" "sdp")] ++ go 4 3 ++
    [Pool.Act.resume 4 { location := some ⟨"b", "r", "n2"⟩ },
      Pool.Act.start (Op.deliver "n2" ⟨"r", "b", offer⟩), Pool.Act.resume 5 ({} : Choice)]

theorem forward_stays_in_room_across_nodes : ∃ t ∈ run step System.empty forwarded,
    .send "b" "r" offer ∈ t.pending ∧
      (∃ c, (c, "r", offer) ∈ t.shared.forwards ∧ offer.sender = c) ∧
        (t.shared.InRoom "b" "r" ∧ ((t.shared.clients "b").roomID = "r" ∨
            ∃ ref, .setRoom "b" "r" ref ∈ t.pending) ∨
          t.shared.HasLeft "b" "r") := by
  refine exists_mem_and (by decide +kernel) fun t ht hsend => ?_
  exact forward_stays_in_room forwarded t ht "b" "r" offer hsend

end PulseRTC.Signaling.Connections
