import PulseRTC.Auth.Validator

/-!
# Rooms of the integration API

The node-local registry of the API: the records of rooms, with the marker of a room that was closed
through the API, and the cached responses of requests with an `Idempotency-Key`. Which room is live
is known to the core alone; `roomStatus` puts the two together.

Every function of the registry is one critical section, with the time at which it is entered. The
hash of a request body is a parameter, and a response is kept as the value that is encoded.
-/

namespace PulseRTC.Api

open Foundations Cluster GoMap

/-! ## Errors -/

/-- The codes of `errors.go` that the room endpoints use. -/
inductive ErrorCode
  | invalidRequest
  | forbidden
  | roomNotFound
  | roomOnOtherNode
  | idempotencyConflict
  | notConfigured
  | clusterStateUnavailable
  | internalError
  deriving DecidableEq

/-- `APIError`; the only extra field is `ownerNodeId`. -/
structure APIError where
  code : ErrorCode
  message : String
  ownerNodeID : Option NodeId := none
  deriving DecidableEq

def apiErr (code : ErrorCode) (message : String) : APIError := { code := code, message := message }

/-- `remoteErr`, of an `ErrRoomRemote`. -/
def remoteErr (owner : NodeId) : APIError :=
  { code := .roomOnOtherNode, message := "room is owned by another node",
    ownerNodeID := some owner }

/-! ## Validation -/

/-- `strings.TrimSpace`. -/
def trim (s : String) : String := String.ofList (Auth.trimSpace s.toList)

/-- `unicode.ToLower`, as far as it yields ASCII letters: two letters beyond ASCII do. -/
def toLower (c : Char) : Char :=
  if c = '\u212a' then 'k' else if c = '\u0130' then 'i' else c.toLower

def reservedMetadataKeys : List String :=
  ["token", "secret", "jwt", "password", "apikey", "api_key", "authorization"]

def maxMetadataBytes : ℕ := 4 * 1024

def maxRoomIDLen : ℕ := 128

/-- The characters of a room id. -/
def roomIDChar (c : Char) : Bool :=
  c = '-' || c = '_' || c = '.' || c = ':' || ('a' ≤ c && c ≤ 'z') || ('A' ≤ c && c ≤ 'Z') ||
    ('0' ≤ c && c ≤ '9')

def validateRoomID (id : String) : Except APIError Unit :=
  if id = "" then .error (apiErr .invalidRequest "roomId is required")
  else if maxRoomIDLen < id.utf8ByteSize then
    .error (apiErr .invalidRequest "roomId is too long")
  else if id.toList.all roomIDChar then .ok ()
  else .error (apiErr .invalidRequest "roomId contains an unsupported character")

/-- The metadata of a room; `none` is the `nil` map. -/
abbrev Metadata := Option (GoMap String String)

/-- The loop of `ValidateMetadata` over the keys in the order of the walk. -/
def validateWalk (md : GoMap String String) : ℕ → List String → Except APIError Unit
  | total, [] =>
    if maxMetadataBytes < total then .error (apiErr .invalidRequest "metadata exceeds 4KB")
    else .ok ()
  | total, k :: walk =>
    if String.ofList ((trim k).toList.map toLower) ∈ reservedMetadataKeys then
      .error (apiErr .invalidRequest ("metadata key '" ++ k ++ "' is reserved"))
    else validateWalk md (total + k.utf8ByteSize + ((md.lookup k).getD "").utf8ByteSize) walk

def validateMetadata (md : Metadata) (walk : List String) : Except APIError Unit :=
  match md with
  | none => .ok ()
  | some md => validateWalk md 0 walk

/-! ## Responses -/

inductive RoomStatus
  | active
  | empty
  | recovering
  | closed
  deriving DecidableEq

/-- `CoreRoom`: the live view of a room. -/
structure CoreRoom where
  isThere : Bool := false
  generation : ℤ := 0
  participants : ℕ := 0
  ownerNodeID : NodeId := ""
  recovering : Bool := false
  deriving DecidableEq

structure RoomRecord where
  roomID : RoomId
  metadata : Metadata := none
  createdAt : Time
  closed : Bool := false
  closedAt : Time := 0
  lastSeen : Time
  deriving DecidableEq

structure ConnectionInfo where
  serverURL : String
  roomID : RoomId
  deriving DecidableEq

structure RoomResponse where
  roomID : RoomId
  status : RoomStatus
  generation : ℤ
  participants : ℕ
  metadata : Metadata
  createdAt : Time
  ownerNodeID : NodeId
  connection : Option ConnectionInfo
  deriving DecidableEq

def roomStatus (record : Option RoomRecord) (cr : CoreRoom) : RoomStatus :=
  if record.any RoomRecord.closed then .closed
  else if cr.recovering then .recovering
  else if 0 < cr.participants then .active
  else .empty

/-- `Service.roomResponse`; `publicWSURL` is that of the configuration. -/
def roomResponse (publicWSURL : String) (record : RoomRecord) (cr : CoreRoom)
    (withConnection : Bool) : RoomResponse where
  roomID := record.roomID
  status := roomStatus (some record) cr
  generation := cr.generation
  participants := cr.participants
  metadata := record.metadata
  createdAt := record.createdAt
  ownerNodeID := cr.ownerNodeID
  connection :=
    if withConnection ∧ publicWSURL ≠ "" then some ⟨publicWSURL, record.roomID⟩ else none

/-! ## The registry -/

structure IdemEntry where
  bodyHash : String
  response : RoomResponse
  status : ℕ
  time : Time
  deriving DecidableEq

structure RoomRegistry where
  retention : Time := 5 * 60 * second
  idemTTL : Time := 10 * 60 * second
  rooms : GoMap RoomId RoomRecord := ∅
  idem : GoMap String IdemEntry := ∅

namespace RoomRegistry

variable (r : RoomRegistry) (now : Time)

/-- `GetOrCreate`: the record, and whether it is new. -/
def getOrCreate (roomID : RoomId) (metadata : Metadata) : RoomRegistry × RoomRecord × Bool :=
  match r.rooms.lookup roomID with
  | some record =>
    let record := { record with lastSeen := now }
    ({ r with rooms := r.rooms.insert roomID record }, record, false)
  | none =>
    let record : RoomRecord :=
      { roomID := roomID, metadata := metadata, createdAt := now, lastSeen := now }
    ({ r with rooms := r.rooms.insert roomID record }, record, true)

def ensureExists (roomID : RoomId) : RoomRegistry :=
  match r.rooms.lookup roomID with
  | some _ => r
  | none =>
    let record : RoomRecord := { roomID := roomID, createdAt := now, lastSeen := now }
    { r with rooms := r.rooms.insert roomID record }

def get (roomID : RoomId) : RoomRegistry × Option RoomRecord :=
  match r.rooms.lookup roomID with
  | none => (r, none)
  | some record =>
    let record := { record with lastSeen := now }
    ({ r with rooms := r.rooms.insert roomID record }, some record)

def markClosed (roomID : RoomId) : RoomRegistry × Bool :=
  match r.rooms.lookup roomID with
  | none => (r, false)
  | some record =>
    let record := { record with closed := true, closedAt := now, lastSeen := now }
    ({ r with rooms := r.rooms.insert roomID record }, true)

def marked (roomID : RoomId) : Bool := (r.rooms.lookup roomID).any RoomRecord.closed

/-- A record that `Sweep` keeps. -/
def kept (record : RoomRecord) : Bool :=
  if record.closed then now - record.closedAt ≤ r.retention else now - record.lastSeen ≤ r.retention

def sweep : RoomRegistry :=
  { r with
    rooms := GoMap.keep (r.kept now) r.rooms
    idem := GoMap.keep (fun e => now - e.time ≤ r.idemTTL) r.idem }

/-- What `idempotencyLookup` finds. -/
inductive Cached
  | miss
  | conflict
  | hit (response : RoomResponse) (status : ℕ)
  deriving DecidableEq

variable (hashBody : String → String)

def idempotencyLookup (key body : String) : Cached :=
  if key = "" then .miss
  else match r.idem.lookup key with
  | none => .miss
  | some e => if e.bodyHash ≠ hashBody body then .conflict else .hit e.response e.status

def idempotencyStore (key body : String) (response : RoomResponse) (status : ℕ) : RoomRegistry :=
  if key = "" then r
  else { r with idem := r.idem.insert key ⟨hashBody body, response, status, now⟩ }

/-! ### The cached responses -/

@[simp] theorem idem_getOrCreate (roomID : RoomId) (metadata : Metadata) :
    (r.getOrCreate now roomID metadata).1.idem = r.idem := by
  unfold getOrCreate
  split <;> rfl

@[simp] theorem idem_ensureExists (roomID : RoomId) :
    (r.ensureExists now roomID).idem = r.idem := by
  unfold ensureExists
  split <;> rfl

@[simp] theorem idem_get (roomID : RoomId) : (r.get now roomID).1.idem = r.idem := by
  unfold get
  split <;> rfl

@[simp] theorem idem_markClosed (roomID : RoomId) : (r.markClosed now roomID).1.idem = r.idem := by
  unfold markClosed
  split <;> rfl

/-- `Sweep` keeps a cached response within its lifetime. -/
theorem idem_sweep {key : String} {e : IdemEntry} (h : r.idem.lookup key = some e)
    (hage : now - e.time ≤ r.idemTTL) : (r.sweep now).idem.lookup key = some e := by
  change (keep _ r.idem).lookup key = some e
  rw [lookup_keep, h]
  exact Option.filter_some_pos (decide_eq_true hage)

theorem idem_sweep_none {key : String} (h : r.idem.lookup key = none) :
    (r.sweep now).idem.lookup key = none := by
  change (keep _ r.idem).lookup key = none
  rw [lookup_keep, h]
  rfl

theorem idempotencyLookup_miss {key body : String} (hkey : key ≠ "")
    (h : r.idempotencyLookup hashBody key body = .miss) : r.idem.lookup key = none := by
  unfold idempotencyLookup at h
  rw [if_neg hkey] at h
  cases hidem : r.idem.lookup key with
  | none => rfl
  | some e =>
    simp only [hidem] at h
    split_ifs at h

theorem idempotencyLookup_hit {key body : String} {response : RoomResponse} {status : ℕ}
    (h : r.idempotencyLookup hashBody key body = .hit response status) :
    ∃ e, r.idem.lookup key = some e ∧ e.response = response ∧ e.status = status := by
  unfold idempotencyLookup at h
  split_ifs at h
  cases hidem : r.idem.lookup key with
  | none =>
    simp only [hidem] at h
    cases h
  | some e =>
    simp only [hidem] at h
    split_ifs at h
    obtain ⟨hresponse, hstatus⟩ := Cached.hit.inj h
    exact ⟨e, rfl, hresponse, hstatus⟩

theorem idem_store (key body : String) (response : RoomResponse) (status : ℕ) {k : String}
    (hk : k ≠ "") :
    (r.idempotencyStore now hashBody key body response status).idem.lookup k =
      if k = key then some ⟨hashBody body, response, status, now⟩ else r.idem.lookup k := by
  unfold idempotencyStore
  split_ifs with hempty heq heq
  · exact absurd (heq.trans hempty) hk
  · rfl
  · rw [lookup_insert_eq, if_pos heq]
  · rw [lookup_insert_eq, if_neg heq]

/-! ### The marker -/

/-- A record in the place of another one with the same marker. -/
theorem marked_insert {roomID : RoomId} {record : RoomRecord}
    (h : r.marked roomID = record.closed) (room : RoomId) :
    ({ r with rooms := r.rooms.insert roomID record } : RoomRegistry).marked room =
      r.marked room := by
  unfold marked
  rw [lookup_insert_eq]
  split_ifs with heq
  · rw [heq, Option.any_some, ← h]
    rfl
  · rfl

@[simp] theorem marked_getOrCreate (roomID : RoomId) (metadata : Metadata) (room : RoomId) :
    (r.getOrCreate now roomID metadata).1.marked room = r.marked room := by
  unfold getOrCreate
  split
  · next record h => exact r.marked_insert (by simp [marked, h]) room
  · next h => exact r.marked_insert (by simp [marked, h]) room

@[simp] theorem marked_ensureExists (roomID room : RoomId) :
    (r.ensureExists now roomID).marked room = r.marked room := by
  unfold ensureExists
  split
  · rfl
  · next h => exact r.marked_insert (by simp [marked, h]) room

@[simp] theorem marked_get (roomID room : RoomId) :
    (r.get now roomID).1.marked room = r.marked room := by
  unfold get
  split
  · rfl
  · next record h => exact r.marked_insert (by simp [marked, h]) room

/-- `Get` and `GetOrCreate` return the record with its marker. -/
theorem closed_get (roomID : RoomId) :
    (r.get now roomID).2.any RoomRecord.closed = r.marked roomID := by
  unfold get marked
  split <;> next h => simp [h]

theorem closed_getOrCreate (roomID : RoomId) (metadata : Metadata) :
    (r.getOrCreate now roomID metadata).2.1.closed = r.marked roomID := by
  unfold getOrCreate marked
  split <;> next h => simp [h]

/-- `MarkClosed` marks no other room. -/
theorem marked_markClosed {roomID room : RoomId}
    (h : (r.markClosed now roomID).1.marked room = true) (hne : room ≠ roomID) :
    r.marked room = true := by
  unfold markClosed at h
  split at h
  · exact h
  · unfold marked at h ⊢
    rwa [lookup_insert_eq, if_neg hne] at h

/-- `Sweep` marks nothing. -/
theorem marked_sweep {room : RoomId} (h : (r.sweep now).marked room = true) :
    r.marked room = true := by
  unfold marked at h ⊢
  change ((keep _ r.rooms).lookup room).any _ = true at h
  rw [lookup_keep] at h
  cases hroom : r.rooms.lookup room with
  | none => simp [hroom] at h
  | some record =>
    rw [hroom, Option.filter_some] at h
    split_ifs at h
    · exact h
    · cases h

end RoomRegistry

end PulseRTC.Api
