import PulseRTC.Api.Creation

/-!
# Closing of rooms

Closing a room through the API, on one node: the registry of the API with its marker, the rooms of
the signaling core with their members, and the sockets that the core closes a moment after it has
told the members. The two lifecycles meet in `closeRoom`, which does nothing for a room that is
marked already, and in `roomStatus`, which asks for the marker first. The marker stays until a sweep
removes the record, and joins do not look at it.

A `closeRoom` call is a goroutine with five sections: it reads the record, asks the core for the
room, has the core tell the members, makes sure that there is a record, and marks it. Any number of
calls interleave between the sections, with joins, leaves and the other operations, which are one
step each. `Server.CloseRoom` takes a snapshot of the members and tells those of them that are still
there; it is one step, in which nobody leaves. What the core knows beyond the members (sessions,
generation) is the answer of the environment. `sent` logs the calls of `Send`; the buffer behind it
is not modelled.

* `closing_holds`: closing works as long as nobody joins a room between the snapshot of a close and
  the removal of its record.
-/

namespace PulseRTC.Api.Closing

open Foundations Cluster Creation Function Option Finset

/-- What the core knows about a room beyond its members. -/
structure Live where
  /-- There are sessions of the room. -/
  sessions : Bool := false
  recovering : Bool := false
  generation : ℤ := 0
  ownerNodeID : NodeId := ""
  deriving DecidableEq

/-- A goroutine of `CloseRoom` that sleeps: when it wakes, and whose sockets it closes. -/
structure Deferred where
  due : Time
  ids : Finset ParticipantId
  deriving DecidableEq

structure CloseRoomResponse where
  roomID : RoomId
  status : RoomStatus
  participantsNotified : ℕ
  deriving DecidableEq

/-- The registry, the core, and what has been observed: the notices sent, the sockets closed, the
order of the joins and of the last close of each room, the successful `closeRoom` calls with those
who were members from their start to their end, and the failed ones. A room of the core exists as
long as it has members. -/
structure State where
  now : Time := 0
  registry : RoomRegistry := {}
  rooms : RoomId → Finset ParticipantId := fun _ => ∅
  clients : Finset ParticipantId := ∅
  deferred : List Deferred := []
  clock : ℕ := 0
  sent : Finset (RoomId × ParticipantId) := ∅
  shut : Finset ParticipantId := ∅
  joinedAt : ParticipantId → ℕ := fun _ => 0
  lastClose : RoomId → Option ℕ := fun _ => none
  closes : List (CloseRoomResponse × Finset ParticipantId) := []
  failed : List (RoomId × APIError) := []

/-- A call of `closeRoom`, with the members of the room at its start. -/
structure Call where
  room : RoomId
  members : Finset ParticipantId
  deriving DecidableEq

/-- What comes next in a call of `closeRoom`. -/
inductive Instr
  /-- `core.Room`, with whether there is a record and whether it is marked. -/
  | coreRoom (c : Call) (known closed : Bool)
  /-- `core.CloseRoom`. -/
  | closeRoom (c : Call)
  /-- `EnsureExists`; `n` members have been told. -/
  | ensureExists (c : Call) (n : ℕ)
  | markClosed (c : Call) (n : ℕ)
  deriving DecidableEq

/-- The room of a call between its snapshot of the members and its end. -/
def Instr.closing : Instr → Option RoomId
  | .ensureExists c _ | .markClosed c _ => some c.room
  | .coreRoom .. | .closeRoom _ => none

namespace State

variable (s : State)

/-- `apiCore.Room`, of a room that no other node owns. -/
def coreRoom (room : RoomId) (x : Live) : CoreRoom where
  isThere := decide (s.rooms room).Nonempty || x.sessions
  generation := x.generation
  participants := (s.rooms room).card
  ownerNodeID := x.ownerNodeID
  recovering := x.recovering

/-- `Server.CloseRoom`. -/
def serverCloseRoom (room : RoomId) : State × ℕ :=
  if (s.rooms room).Nonempty then
    ({ s with
        sent := s.sent ∪ (s.rooms room).image fun id => (room, id)
        deferred := s.deferred ++ [⟨s.now + 250000000, s.rooms room⟩] },
      (s.rooms room).card)
  else (s, 0)

/-- A call of `closeRoom` returns success. -/
def returned (c : Call) (n : ℕ) : State :=
  { s with
    closes := s.closes ++ [(⟨c.room, .closed, n⟩, c.members ∩ s.rooms c.room)]
    lastClose := update s.lastClose c.room (some s.clock)
    clock := s.clock + 1 }

/-- `Service.getRoom`. -/
def getRoom (publicWSURL : String) (room : RoomId) (x : Live) :
    State × Except APIError RoomResponse :=
  let got := s.registry.get s.now room
  let s₁ := { s with registry := got.1 }
  if got.2.isNone ∧ (s.coreRoom room x).isThere = false then
    (s₁, .error (apiErr .roomNotFound "room not found"))
  else
    let record := got.2.getD { roomID := room, createdAt := s.now, lastSeen := 0 }
    (s₁, .ok (roomResponse publicWSURL record (s.coreRoom room x) false))

/-- `Service.createRoom`; the choice has the generated id and the walk over the metadata. -/
def createRoom (publicWSURL : String) (req : CreateRoomRequest) (c : Choice) (x : Live) :
    State × Except APIError RoomResponse :=
  match checkedRoomID req c with
  | .error e => (s, .error e)
  | .ok room =>
    let out := s.registry.getOrCreate s.now room req.metadata
    ({ s with registry := out.1 }, .ok (roomResponse publicWSURL out.2.1 (s.coreRoom room x) true))

end State

/-- What a section of `Service.closeRoom` does, and what comes next. -/
def exec (s : State) (i : Instr) (x : Live) : Option (State × List Instr) :=
  match i with
  | .coreRoom c known closed =>
    if known = false ∧ (s.coreRoom c.room x).isThere = false then
      some ({ s with failed := s.failed ++ [(c.room, apiErr .roomNotFound "room not found")] }, [])
    else if closed then some (s.returned c 0, [])
    else some (s, [.closeRoom c])
  | .closeRoom c =>
    let out := s.serverCloseRoom c.room
    some (out.1, [.ensureExists c out.2])
  | .ensureExists c n =>
    some ({ s with registry := s.registry.ensureExists s.now c.room }, [.markClosed c n])
  | .markClosed c n =>
    some ({ s with registry := (s.registry.markClosed s.now c.room).1 }.returned c n, [])

/-- The operations. -/
inductive Op
  | createRoom (req : CreateRoomRequest) (c : Choice)
  /-- `EnsureExists`, at the end of `mintToken`. -/
  | mintToken (room : RoomId)
  | getRoom (room : RoomId) (x : Live)
  /-- A call of `closeRoom` starts. -/
  | closeRoom (room : RoomId)
  /-- A new connection joins. -/
  | join (room : RoomId) (id : ParticipantId)
  /-- `disconnect`. -/
  | leave (room : RoomId) (id : ParticipantId)
  /-- The goroutine `i` of `CloseRoom` wakes up. -/
  | closeSockets (i : ℕ)
  | sweep
  | wait (d : ℕ)

/-- What an operation does, and the call that it starts. -/
def launch (s : State) : Op → Option (State × List Instr)
  | .createRoom req c => some ((s.createRoom "" req c {}).1, [])
  | .mintToken room => some ({ s with registry := s.registry.ensureExists s.now room }, [])
  | .getRoom room x => some ((s.getRoom "" room x).1, [])
  | .closeRoom room =>
    let got := s.registry.get s.now room
    some ({ s with registry := got.1 },
      [.coreRoom ⟨room, s.rooms room⟩ got.2.isSome (got.2.any RoomRecord.closed)])
  | .join room id =>
    -- a connection has an id of its own
    if id ∈ s.clients ∨ id ∈ s.shut then none
    else some ({ s with
      rooms := update s.rooms room (insert id (s.rooms room))
      clients := insert id s.clients
      joinedAt := update s.joinedAt id s.clock
      clock := s.clock + 1 }, [])
  | .leave room id =>
    if id ∈ s.rooms room then
      some ({ s with
        rooms := update s.rooms room ((s.rooms room).erase id)
        clients := s.clients.erase id
        shut := insert id s.shut }, [])
    else none
  | .closeSockets i =>
    s.deferred[i]?.bind fun d =>
      if d.due ≤ s.now then
        some ({ s with
          deferred := s.deferred.eraseIdx i
          shut := s.shut ∪ d.ids.filter fun id => id ∈ s.clients }, [])
      else none
  | .sweep => some ({ s with registry := s.registry.sweep s.now }, [])
  | .wait d => some ({ s with now := s.now + d }, [])

abbrev step : Pool State Instr → Pool.Act Op Live → Option (Pool State Instr) :=
  Pool.step launch exec

/-! ## The property -/

/-- The participant has been sent `room_closed`, and its socket is closed or waits for a goroutine
that closes it. -/
def State.Told (s : State) (room : RoomId) (id : ParticipantId) : Prop :=
  (room, id) ∈ s.sent ∧ (id ∈ s.shut ∨ id ∈ s.clients ∧ ∃ d ∈ s.deferred, id ∈ d.ids)

def State.Reopened (s : State) (room : RoomId) : Prop :=
  (s.rooms room).Nonempty ∧ ∀ c ∈ s.lastClose room, ∀ id ∈ s.rooms room, c < s.joinedAt id

/-- Closing a room closes it, and a room is not reported as closed to those who joined it later. -/
structure Holds (s : State) : Prop where
  told : ∀ c ∈ s.closes, ∀ id ∈ c.2, s.Told c.1.roomID id
  got : ∀ room, s.Reopened room → ∀ url x resp, (s.getRoom url room x).2 = .ok resp →
    resp.status ≠ .closed
  created : ∀ room, s.Reopened room → ∀ url req c x resp, checkedRoomID req c = .ok room →
    (s.createRoom url req c x).2 = .ok resp → resp.status ≠ .closed

/-- A join comes while the room is not marked, and no call is between its snapshot of the members
and the marking. -/
def Outside (s : State) (P : Multiset Instr) : Op → Prop
  | .join room _ => s.registry.marked room = false ∧ ∀ i ∈ P, i.closing ≠ some room
  | _ => True

instance (s : State) (P : Multiset Instr) (op : Op) : Decidable (Outside s P op) := by
  unfold Outside
  split <;> infer_instance

/-! ## The invariant -/

/-- What a call in progress relies on: that the members of a marked room have been told, and after
its snapshot that those who are there have been told. -/
def Instr.Fits (s : State) : Instr → Prop
  | .coreRoom c _ closed => closed = true → ∀ id ∈ c.members, s.Told c.room id
  | .closeRoom _ => True
  | .ensureExists c _ | .markClosed c _ => ∀ id ∈ s.rooms c.room, s.Told c.room id

/-- The members of a marked room have been told, and joined before its last close. -/
structure Sound (s : State) (P : Multiset Instr) : Prop where
  clients : ∀ room, ∀ id ∈ s.rooms room, id ∈ s.clients
  one : ∀ room room' id, id ∈ s.rooms room → id ∈ s.rooms room' → room = room'
  joined : ∀ room, ∀ id ∈ s.rooms room, s.joinedAt id < s.clock
  marked : ∀ room, s.registry.marked room = true →
    ∃ c, s.lastClose room = some c ∧ ∀ id ∈ s.rooms room, s.Told room id ∧ s.joinedAt id < c
  told : ∀ c ∈ s.closes, ∀ id ∈ c.2, s.Told c.1.roomID id
  calls : ∀ i ∈ P, i.Fits s

theorem roomStatus_ne_closed {record : Option RoomRecord} (h : record.any RoomRecord.closed = false)
    (cr : CoreRoom) : roomStatus record cr ≠ .closed := by
  unfold roomStatus
  rw [h, if_neg Bool.false_ne_true]
  split_ifs <;> exact nofun

variable {s s' : State} {room : RoomId} {id : ParticipantId} {P : Multiset Instr} {i : Instr}

theorem Sound.unmarked (h : Sound s P) (hre : s.Reopened room) :
    s.registry.marked room = false := by
  by_contra hne
  obtain ⟨c, hc, hmembers⟩ := h.marked room (by simpa using hne)
  obtain ⟨⟨id, hid⟩, hlater⟩ := hre
  exact lt_asymm (hmembers id hid).2 (hlater c hc id hid)

theorem sound_holds (h : Sound s P) : Holds s where
  told := h.told
  got room hre url x resp hresp := by
    have hclosed := s.registry.closed_get s.now room
    rw [h.unmarked hre] at hclosed
    simp only [State.getRoom] at hresp
    split_ifs at hresp
    obtain rfl := Except.ok.inj hresp
    apply roomStatus_ne_closed
    cases hgot : (s.registry.get s.now room).2 with
    | none => rfl
    | some record =>
      rw [hgot] at hclosed
      exact hclosed
  created room hre url req c x resp hroom hresp := by
    have hclosed := s.registry.closed_getOrCreate s.now room req.metadata
    rw [h.unmarked hre] at hclosed
    simp only [State.createRoom, hroom] at hresp
    obtain rfl := Except.ok.inj hresp
    apply roomStatus_ne_closed
    exact hclosed

/-! ## Steps -/

/-- Nothing is taken back: notices, closed sockets, and connections with a goroutine to close
them. -/
structure Kept (s s' : State) : Prop where
  sent : s.sent ⊆ s'.sent
  shut : s.shut ⊆ s'.shut
  deferred : ∀ id ∈ s.clients, ∀ d ∈ s.deferred, id ∈ d.ids →
    id ∈ s'.shut ∨ id ∈ s'.clients ∧ ∃ d ∈ s'.deferred, id ∈ d.ids

theorem Kept.told (h : Kept s s') (ht : s.Told room id) : s'.Told room id := by
  obtain ⟨hsent, hshut | ⟨hclient, d, hd, hid⟩⟩ := ht
  · exact ⟨h.sent hsent, .inl (h.shut hshut)⟩
  · exact ⟨h.sent hsent, h.deferred id hclient d hd hid⟩

/-- A call goes on if nobody joins its room after the snapshot. -/
theorem Kept.fits (h : Kept s s') (hi : i.Fits s)
    (hrooms : ∀ room, i.closing = some room → s'.rooms room ⊆ s.rooms room) : i.Fits s' := by
  cases i with
  | coreRoom c known closed => exact fun hc id hid => h.told (hi hc id hid)
  | closeRoom c => trivial
  | ensureExists c n => exact fun id hid => h.told (hi id (hrooms _ rfl hid))
  | markClosed c n => exact fun id hid => h.told (hi id (hrooms _ rfl hid))

/-- A step that concerns the records only, and marks none. -/
theorem Sound.of_registry (h : Sound s P) {registry : RoomRegistry} {now : Time}
    {failed : List (RoomId × APIError)} {new : List Instr}
    (hmarked : ∀ room, registry.marked room = true → s.registry.marked room = true)
    (hnew : ∀ j ∈ new, j.Fits s) :
    Sound { s with registry := registry, now := now, failed := failed } (new + P) where
  clients := h.clients
  one := h.one
  joined := h.joined
  marked room hm := h.marked room (hmarked room hm)
  told := h.told
  calls j hj := by
    rcases mem_new.1 hj with hj | hj
    · have := hnew j hj
      cases j <;> exact this
    · have := h.calls j hj
      cases j <;> exact this

/-- A step that leaves records and members alone, and takes nothing back. -/
theorem Sound.of_kept (h : Sound s P) {sent : Finset (RoomId × ParticipantId)}
    {shut : Finset ParticipantId} {deferred : List Deferred}
    (hkept : Kept s { s with sent := sent, shut := shut, deferred := deferred }) :
    Sound { s with sent := sent, shut := shut, deferred := deferred } P where
  clients := h.clients
  one := h.one
  joined := h.joined
  marked room hm := by
    obtain ⟨c, hc, hmembers⟩ := h.marked room hm
    exact ⟨c, hc, fun j hj => ⟨hkept.told (hmembers j hj).1, (hmembers j hj).2⟩⟩
  told c hc j hj := hkept.told (h.told c hc j hj)
  calls i hi := hkept.fits (h.calls i hi) fun _ _ => Finset.Subset.refl _

/-- After a join the members of a room are the old ones, and in `room` the new one. -/
theorem mem_joined {r : RoomId} {j : ParticipantId} {rooms : RoomId → Finset ParticipantId}
    (hj : j ∈ update rooms room (insert id (rooms room)) r) :
    j ∈ rooms r ∨ r = room ∧ j = id := by
  by_cases hr : r = room
  · subst hr
    rw [update_self] at hj
    exact (mem_insert.1 hj).elim (fun heq => .inr ⟨rfl, heq⟩) .inl
  · rw [update_of_ne hr] at hj
    exact .inl hj

theorem join_sound (h : Sound s P) (hfresh : id ∉ s.clients)
    (hroom : s.registry.marked room = false) (hcalls : ∀ i ∈ P, i.closing ≠ some room) :
    Sound { s with
      rooms := update s.rooms room (insert id (s.rooms room))
      clients := insert id s.clients
      joinedAt := update s.joinedAt id s.clock
      clock := s.clock + 1 } P := by
  have hold : ∀ r, ∀ j ∈ s.rooms r, update s.joinedAt id s.clock j = s.joinedAt j := by
    intro r j hj
    refine update_of_ne ?_ _ _
    rintro rfl
    exact hfresh (h.clients r j hj)
  have hkept : Kept s { s with
      rooms := update s.rooms room (insert id (s.rooms room))
      clients := insert id s.clients
      joinedAt := update s.joinedAt id s.clock
      clock := s.clock + 1 } :=
    ⟨Finset.Subset.refl _, Finset.Subset.refl _,
      fun _ hclient d hd hid => .inr ⟨mem_insert_of_mem hclient, d, hd, hid⟩⟩
  refine ⟨fun r j hj => ?_, fun r r' j hj hj' => ?_, fun r j hj => ?_, fun r hm => ?_,
    fun c hc j hj => hkept.told (h.told c hc j hj), fun i hi => hkept.fits (h.calls i hi) ?_⟩
  · rcases mem_joined hj with hj | ⟨-, rfl⟩
    · exact mem_insert_of_mem (h.clients r j hj)
    · exact mem_insert_self _ _
  · rcases mem_joined hj with hj | ⟨hr, hj⟩ <;> rcases mem_joined hj' with hj' | ⟨hr', hj'⟩
    · exact h.one r r' j hj hj'
    · exact absurd (hj' ▸ h.clients r j hj) hfresh
    · exact absurd (hj ▸ h.clients r' j hj') hfresh
    · exact hr.trans hr'.symm
  · rcases mem_joined hj with hj | ⟨-, rfl⟩
    · change update s.joinedAt id s.clock j < s.clock + 1
      rw [hold r j hj]
      exact (h.joined r j hj).trans (Nat.lt_succ_self _)
    · change update s.joinedAt j s.clock j < s.clock + 1
      rw [update_self]
      exact Nat.lt_succ_self _
  · obtain ⟨c, hc, hmembers⟩ := h.marked r hm
    refine ⟨c, hc, fun j hj => ?_⟩
    rcases mem_joined hj with hj | ⟨rfl, -⟩
    · obtain ⟨htold, hlt⟩ := hmembers j hj
      exact ⟨hkept.told htold, (hold r j hj).trans_lt hlt⟩
    · exact absurd (hroom.symm.trans hm) Bool.false_ne_true
  · intro r hr j hj
    rcases mem_joined hj with hj | ⟨rfl, -⟩
    · exact hj
    · exact absurd hr (hcalls i hi)

theorem leave_sound (h : Sound s P) (hid : id ∈ s.rooms room) :
    Sound { s with
      rooms := update s.rooms room ((s.rooms room).erase id)
      clients := s.clients.erase id
      shut := insert id s.shut } P := by
  have hmember : ∀ r, ∀ j ∈ update s.rooms room ((s.rooms room).erase id) r,
      j ∈ s.rooms r ∧ j ≠ id := by
    intro r j hj
    by_cases hr : r = room
    · subst hr
      rw [update_self] at hj
      exact ⟨mem_of_mem_erase hj, ne_of_mem_erase hj⟩
    · rw [update_of_ne hr] at hj
      refine ⟨hj, ?_⟩
      rintro rfl
      exact hr (h.one r room j hj hid)
  have hkept : Kept s { s with
      rooms := update s.rooms room ((s.rooms room).erase id)
      clients := s.clients.erase id
      shut := insert id s.shut } := by
    refine ⟨Finset.Subset.refl _, subset_insert _ _, fun j hclient d hd hjd => ?_⟩
    by_cases hj : j = id
    · subst hj
      exact .inl (mem_insert_self _ _)
    · exact .inr ⟨mem_erase.2 ⟨hj, hclient⟩, d, hd, hjd⟩
  refine ⟨fun r j hj => ?_, fun r r' j hj hj' => ?_, fun r j hj => ?_, fun r hm => ?_,
    fun c hc j hj => hkept.told (h.told c hc j hj),
    fun i hi => hkept.fits (h.calls i hi) fun r _ j hj => (hmember r j hj).1⟩
  · obtain ⟨hj, hne⟩ := hmember r j hj
    exact mem_erase.2 ⟨hne, h.clients r j hj⟩
  · exact h.one r r' j (hmember r j hj).1 (hmember r' j hj').1
  · exact h.joined r j (hmember r j hj).1
  · obtain ⟨c, hc, hmembers⟩ := h.marked r hm
    refine ⟨c, hc, fun j hj => ?_⟩
    obtain ⟨htold, hlt⟩ := hmembers j (hmember r j hj).1
    exact ⟨hkept.told htold, hlt⟩

theorem closeSockets_sound (h : Sound s P) {i : ℕ} {d : Deferred} (hd : s.deferred[i]? = some d) :
    Sound { s with
      deferred := s.deferred.eraseIdx i
      shut := s.shut ∪ d.ids.filter fun id => id ∈ s.clients } P := by
  refine h.of_kept ⟨Finset.Subset.refl _, subset_union_left, fun j hclient e he hje => ?_⟩
  -- the goroutine that closes the socket is this one, or still there
  obtain ⟨l, hl⟩ := List.mem_iff_getElem?.1 he
  by_cases hil : l = i
  · subst hil
    obtain rfl : d = e := mem_unique hd hl
    exact .inl (mem_union_right _ (mem_filter.2 ⟨hje, hclient⟩))
  · refine .inr ⟨hclient, e, ?_, hje⟩
    exact List.mem_eraseIdx_iff_getElem?.2 ⟨l, hil, hl⟩

theorem launch_sound {op : Op} {code : List Instr} (h : Sound s P) (hop : Outside s P op)
    (hs : launch s op = some (s', code)) : Sound s' (code + P) := by
  cases op with
  | createRoom req c =>
    cases hs
    simp only [State.createRoom]
    split
    · exact h.of_registry (fun _ hm => hm) (by simp)
    · exact h.of_registry (fun r hm => by simpa using hm) (by simp)
  | mintToken room =>
    cases hs
    exact h.of_registry (fun r hm => by simpa using hm) (by simp)
  | getRoom room x =>
    cases hs
    simp only [State.getRoom]
    split_ifs
    all_goals exact h.of_registry (fun r hm => by simpa using hm) (by simp)
  | closeRoom room =>
    cases hs
    refine h.of_registry (fun r hm => by simpa using hm) fun j hj => ?_
    obtain rfl := List.mem_singleton.1 hj
    -- a marked room: its members have been told before
    intro hclosed id hid
    obtain ⟨c, -, hmembers⟩ := h.marked room ((s.registry.closed_get s.now room).symm.trans hclosed)
    exact (hmembers id hid).1
  | join room id =>
    simp only [launch] at hs
    split_ifs at hs with hused
    cases hs
    simpa using join_sound h (fun hc => hused (.inl hc)) hop.1 hop.2
  | leave room id =>
    simp only [launch] at hs
    split_ifs at hs with hmember
    cases hs
    simpa using leave_sound h hmember
  | closeSockets i =>
    obtain ⟨d, hd, hdue⟩ := bind_eq_some_iff.1 hs
    split_ifs at hdue
    cases hdue
    simpa using closeSockets_sound h hd
  | sweep =>
    cases hs
    exact h.of_registry (fun r hm => s.registry.marked_sweep s.now hm) (by simp)
  | wait d =>
    cases hs
    exact h.of_registry (fun _ hm => hm) (by simp)

/-- A call returns when those who were there from its start have been told, and everyone in the
room if it is marked now; its close is the last one. -/
theorem returned_sound (h : Sound s P) (c : Call) (n : ℕ) {registry : RoomRegistry}
    (htold : ∀ id ∈ c.members ∩ s.rooms c.room, s.Told c.room id)
    (hmarked : ∀ r, r ≠ c.room → registry.marked r = true → s.registry.marked r = true)
    (hall : registry.marked c.room = true → ∀ id ∈ s.rooms c.room, s.Told c.room id) :
    Sound ({ s with registry := registry }.returned c n) P where
  clients := h.clients
  one := h.one
  joined r j hj := (h.joined r j hj).trans (Nat.lt_succ_self _)
  marked r hm := by
    by_cases hr : r = c.room
    · subst hr
      exact ⟨s.clock, update_self .., fun j hj => ⟨hall hm j hj, h.joined _ j hj⟩⟩
    · obtain ⟨c', hc', hmembers⟩ := h.marked r (hmarked r hr hm)
      exact ⟨c', (update_of_ne hr ..).trans hc', hmembers⟩
  told c' hc' j hj := by
    rcases mem_snoc.1 hc' with hc' | rfl
    · exact h.told c' hc' j hj
    · exact htold j hj
  calls i hi := by
    have := h.calls i hi
    cases i <;> exact this

/-- `Server.CloseRoom` tells every member. -/
theorem serverCloseRoom_sound (h : Sound s P) (room : RoomId) :
    Sound (s.serverCloseRoom room).1 P ∧
      ∀ id ∈ (s.serverCloseRoom room).1.rooms room, (s.serverCloseRoom room).1.Told room id := by
  unfold State.serverCloseRoom
  split_ifs with hmembers
  · refine ⟨h.of_kept ⟨subset_union_left, Finset.Subset.refl _, fun j hclient d hd hjd => ?_⟩,
      fun j hj => ⟨?_, .inr ⟨h.clients room j hj, _, List.mem_append_right _ List.mem_cons_self,
        hj⟩⟩⟩
    · exact .inr ⟨hclient, d, List.mem_append_left _ hd, hjd⟩
    · exact mem_union_right _ (mem_image.2 ⟨j, hj, rfl⟩)
  · exact ⟨h, fun j hj => absurd ⟨j, hj⟩ hmembers⟩

theorem Sound.cons (h : Sound s P) (hi : i.Fits s) : Sound s (i ::ₘ P) :=
  { h with calls := Multiset.forall_mem_cons.2 ⟨hi, h.calls⟩ }

theorem exec_sound {x : Live} {new : List Instr} (h : Sound s (i ::ₘ P))
    (hs : exec s i x = some (s', new)) : Sound s' (new + P) := by
  obtain ⟨hi, hcalls⟩ := Multiset.forall_mem_cons.1 h.calls
  have hrest : Sound s P := { h with calls := hcalls }
  cases i with
  | coreRoom c known closed =>
    simp only [exec] at hs
    split_ifs at hs with hunknown hclosed
    · cases hs
      exact hrest.of_registry (fun _ hm => hm) (by simp)
    · cases hs
      rw [Multiset.coe_nil, zero_add]
      refine returned_sound hrest c 0 (fun id hid => hi hclosed id (mem_inter.1 hid).1)
        (fun _ _ hm => hm) fun hm id hid => ?_
      obtain ⟨_, _, hmembers⟩ := hrest.marked c.room hm
      exact (hmembers id hid).1
    · cases hs
      exact hrest.cons trivial
  | closeRoom c =>
    cases hs
    obtain ⟨hsound, htold⟩ := serverCloseRoom_sound hrest c.room
    exact hsound.cons htold
  | ensureExists c n =>
    cases hs
    refine hrest.of_registry (fun r hm => by simpa using hm) fun j hj => ?_
    obtain rfl := List.mem_singleton.1 hj
    exact hi
  | markClosed c n =>
    cases hs
    rw [Multiset.coe_nil, zero_add]
    exact returned_sound hrest c n (fun id hid => hi id (mem_inter.1 hid).2)
      (fun r hr hm => s.registry.marked_markClosed s.now hm hr) fun _ => hi

/-! ## Every history -/

theorem sound_init (now : Time) (registry : RoomRegistry)
    (h : ∀ room, registry.marked room = false) : Sound { now := now, registry := registry } 0 where
  clients _ _ hid := absurd hid (notMem_empty _)
  one _ _ _ hid := absurd hid (notMem_empty _)
  joined _ _ hid := absurd hid (notMem_empty _)
  marked room hm := absurd ((h room).symm.trans hm) Bool.false_ne_true
  told _ hc := absurd hc List.not_mem_nil
  calls _ hi := absurd hi (Multiset.notMem_zero _)

/-- **Closing closes, unless a room is joined too late.** In every history, whatever the
interleaving of the `closeRoom` calls, in which nobody joins a room between the snapshot of a close
and the removal of its record: whenever `closeRoom` has returned success, everyone who was a member
from the start of the call to its end has been sent `room_closed`, and its socket is closed or about
to be; and in every state, no room that was last closed before any of its members joined is reported
as closed. -/
theorem closing_holds (now : Time) (registry : RoomRegistry) (as : List (Pool.Act Op Live))
    (p : Pool State Instr) (hregistry : ∀ room, registry.marked room = false)
    (hcond : Along step (Pool.Meets Outside fun _ _ _ _ => True)
      ⟨{ now := now, registry := registry }, []⟩ as)
    (h : run step ⟨{ now := now, registry := registry }, []⟩ as = some p) : Holds p.shared :=
  sound_holds (Pool.run_inv
    (fun s _ op s' new hs hop (hst : launch s op = some (s', new)) => launch_sound hs hop hst)
    (fun s i _ c s' new hs _ (hst : exec s i c = some (s', new)) => exec_sound hs hst)
    (sound_init now registry hregistry) hcond h)

/-- A call of `closeRoom`, the goroutine `i`, without anything in between. -/
def closeAll (room : RoomId) (i : ℕ) : List (Pool.Act Op Live) :=
  .start (.closeRoom room) :: List.replicate 4 (.resume i {})

/-- Two calls close the room at once; its member leaves, a sweep removes the record, and the room
is joined and closed again. -/
def closedTwice : List (Pool.Act Op Live) :=
  [.start (.createRoom { roomID := "r" } {}), .start (.join "r" "p"), .start (.closeRoom "r"),
    .start (.closeRoom "r"), .resume 2 {}, .resume 3 {}, .resume 2 {}, .resume 3 {}, .resume 3 {},
    .resume 3 {}, .resume 2 {}, .resume 2 {}, .start (.wait 250000000), .start (.closeSockets 0),
    .start (.leave "r" "p"), .start (.wait 400000000000), .start .sweep, .start (.join "r" "q")] ++
    closeAll "r" 10

theorem closing_holds_twice :
    ∃ p, run step ⟨{}, []⟩ closedTwice = some p ∧
      p.shared.closes = [(⟨"r", .closed, 1⟩, {"p"}), (⟨"r", .closed, 1⟩, {"p"}),
        (⟨"r", .closed, 1⟩, {"q"})] ∧ Holds p.shared := by
  obtain ⟨p, hp, hcloses⟩ : ∃ p ∈ run step ⟨{}, []⟩ closedTwice,
      p.shared.closes = [(⟨"r", .closed, 1⟩, {"p"}), (⟨"r", .closed, 1⟩, {"p"}),
        (⟨"r", .closed, 1⟩, {"q"})] := by
    decide +kernel
  have hcond : Along step (Pool.Meets Outside fun _ _ _ _ => True) ⟨{}, []⟩ closedTwice := by
    decide +kernel
  exact ⟨p, hp, hcloses, closing_holds 0 {} closedTwice p (fun _ => rfl) hcond hp⟩

/-- The room is closed, its member has left, and another participant joins. -/
def joinedAgain : List (Pool.Act Op Live) :=
  [.start (.createRoom { roomID := "r" } {}), .start (.join "r" "p")] ++ closeAll "r" 2 ++
    [.start (.wait 250000000), .start (.closeSockets 0), .start (.leave "r" "p"),
      .start (.join "r" "q")]

/-- **A closed room that is joined again stays closed for its members**: it is reported as closed
with `q` in it, and the next `closeRoom` returns success without telling `q`. -/
theorem closed_room_rejoined :
    (∃ p, run step ⟨{}, []⟩ joinedAgain = some p ∧ p.shared.Reopened "r" ∧
      (p.shared.getRoom "" "r" {}).2.toOption.map RoomResponse.status = some .closed) ∧
    ∃ p, run step ⟨{}, []⟩ (joinedAgain ++ [.start (.closeRoom "r"), .resume 7 {}]) = some p ∧
      (⟨"r", .closed, 0⟩, {"q"}) ∈ p.shared.closes ∧ ¬ p.shared.Told "r" "q" ∧
      ¬ Holds p.shared := by
  constructor
  · obtain ⟨p, hp, hmembers, hlater, hstatus⟩ : ∃ p ∈ run step ⟨{}, []⟩ joinedAgain,
        (p.shared.rooms "r").Nonempty ∧
        (∀ c ∈ p.shared.lastClose "r", ∀ id ∈ p.shared.rooms "r", c < p.shared.joinedAt id) ∧
        (p.shared.getRoom "" "r" {}).2.toOption.map RoomResponse.status = some .closed := by
      decide +kernel
    exact ⟨p, hp, ⟨hmembers, hlater⟩, hstatus⟩
  · obtain ⟨p, hp, hclose, hsent⟩ : ∃ p ∈ run step ⟨{}, []⟩
          (joinedAgain ++ [.start (.closeRoom "r"), .resume 7 {}]),
        (⟨"r", .closed, 0⟩, {"q"}) ∈ p.shared.closes ∧ ("r", "q") ∉ p.shared.sent := by
      decide +kernel
    have huntold : ¬ p.shared.Told "r" "q" := fun htold => hsent htold.1
    exact ⟨p, hp, hclose, huntold, fun h => huntold (h.told _ hclose "q" (mem_singleton_self _))⟩

end PulseRTC.Api.Closing
