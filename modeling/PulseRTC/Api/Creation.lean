import PulseRTC.Foundations.Goroutines
import PulseRTC.Api.Rooms

/-!
# Creation of rooms

`handleCreateRoom` with its three locked sections: the lookup of the `Idempotency-Key`, the creation
of the record, and the storing of the response. Each request is a goroutine, and any number of them
interleave between the sections, with the other calls of the registry in between. The clock, the
generated room id, the walk over the metadata and the answer of the core are those of the
environment; the JSON decoder and the hash of a body are parameters.

* `creation_idempotent`: one record, one event and one response for each key and body, if a request
  looks up its key only while no other one with it is under way.
-/

namespace PulseRTC.Api.Creation

open Foundations Cluster Multiset Option

structure CreateRoomRequest where
  roomID : String := ""
  metadata : Metadata := none
  deriving DecidableEq

/-- A request, with the credential that the middleware has accepted. -/
structure Request where
  apiKey : String
  /-- The header `Idempotency-Key`. -/
  header : String
  raw : String
  deriving DecidableEq

/-- The `Idempotency-Key` of a request. -/
def Request.key (q : Request) : String := trim q.header

/-- The parts of the server that are left open. -/
structure Server where
  hashBody : String → String
  /-- The strict JSON decoder, or its error. -/
  decode : String → Except String CreateRoomRequest
  publicWSURL : String := ""

/-- A successful response; `cachedFrom` is the credential behind a cached one. -/
structure Served where
  request : Request
  status : ℕ
  body : RoomResponse
  cachedFrom : Option String
  deriving DecidableEq

/-- The registry and the clock, with what has been observed: who stored a cached response, the
records made for requests, the `room.created` events, and the responses. -/
structure State where
  now : Time := 0
  registry : RoomRegistry := {}
  origin : GoMap String String := ∅
  created : List (Request × RoomId) := []
  events : List (Request × RoomId) := []
  served : List Served := []
  failed : List (Request × APIError) := []

/-- What comes next in a handler. -/
inductive Instr
  /-- `idempotencyLookup`. -/
  | lookup (q : Request) (req : CreateRoomRequest)
  /-- `createRoom`, up to `GetOrCreate`. -/
  | getOrCreate (q : Request) (req : CreateRoomRequest)
  /-- `core.Room`. -/
  | coreRoom (q : Request) (record : RoomRecord) (created : Bool)
  /-- `emit`. -/
  | emit (q : Request) (body : RoomResponse)
  /-- `idempotencyStore`. -/
  | store (q : Request) (body : RoomResponse) (created : Bool)
  deriving DecidableEq

/-- The request of a handler. -/
def Instr.request : Instr → Request
  | .lookup q _ | .getOrCreate q _ | .coreRoom q _ _ | .emit q _ | .store q _ _ => q

/-- The answers of the environment: the generated room id, the order of the walk over the metadata,
and the room as the core sees it, or the node that owns it. -/
structure Choice where
  generated : RoomId := ""
  walk : List String := []
  core : Except NodeId CoreRoom := .ok {}

/-- The keys of the metadata in some order. -/
def walks (md : Metadata) (walk : List String) : Prop :=
  walk.Nodup ∧ walk.toFinset = (md.getD ∅).keys

instance (md : Metadata) (walk : List String) : Decidable (walks md walk) :=
  inferInstanceAs (Decidable (_ ∧ _))

/-- The room id and the checks of `createRoom`. -/
def checkedRoomID (req : CreateRoomRequest) (x : Choice) : Except APIError RoomId := do
  let roomID := trim req.roomID
  if roomID = "" then
    validateMetadata req.metadata x.walk
    return x.generated
  else
    validateRoomID roomID
    validateMetadata req.metadata x.walk
    return roomID

/-- A request is answered with an error. -/
def State.fail (s : State) (q : Request) (e : APIError) : State :=
  { s with failed := s.failed ++ [(q, e)] }

/-- What an instruction does, and what comes next. -/
def exec (v : Server) (s : State) (i : Instr) (x : Choice) : Option (State × List Instr) :=
  match i with
  | .lookup q req =>
    match s.registry.idempotencyLookup v.hashBody q.key q.raw with
    | .miss => some (s, [.getOrCreate q req])
    | .conflict =>
      some (s.fail q (apiErr .idempotencyConflict "Idempotency-Key reused with a different body"),
        [])
    | .hit body status =>
      some ({ s with served := s.served ++ [⟨q, status, body, s.origin.lookup q.key⟩] }, [])
  | .getOrCreate q req =>
    if walks req.metadata x.walk then
      match checkedRoomID req x with
      | .error e => some (s.fail q e, [])
      | .ok roomID =>
        let out := s.registry.getOrCreate s.now roomID req.metadata
        some ({ s with
            registry := out.1
            created := if out.2.2 then s.created ++ [(q, roomID)] else s.created },
          [.coreRoom q out.2.1 out.2.2])
    else none
  | .coreRoom q record created =>
    match x.core with
    | .error owner => some (s.fail q (remoteErr owner), [])
    | .ok cr =>
      let body := roomResponse v.publicWSURL record cr true
      some (s, if created then [.emit q body] else [.store q body false])
  | .emit q body =>
    some ({ s with events := s.events ++ [(q, body.roomID)] }, [.store q body true])
  | .store q body created =>
    let status := if created then 201 else 200
    some ({ s with
        registry := s.registry.idempotencyStore s.now v.hashBody q.key q.raw body status
        origin := if q.key = "" then s.origin else s.origin.insert q.key q.apiKey
        served := s.served ++ [⟨q, status, body, none⟩] },
      [])

/-- What happens on its own: a request arrives, time passes, and the other calls of the registry. -/
inductive Op
  | request (q : Request)
  | wait (d : ℕ)
  | sweep
  | get (roomID : RoomId)
  | ensureExists (roomID : RoomId)
  | markClosed (roomID : RoomId)
  deriving DecidableEq

/-- An event, and the handler it starts. -/
def launch (v : Server) (s : State) : Op → Option (State × List Instr)
  | .request q =>
    -- an empty body is the empty request
    match if q.raw = "" then .ok {} else v.decode q.raw with
    | .error text => some (s.fail q (apiErr .invalidRequest ("invalid JSON: " ++ text)), [])
    | .ok req => some (s, [.lookup q req])
  | .wait d => some ({ s with now := s.now + d }, [])
  | .sweep => some ({ s with registry := s.registry.sweep s.now }, [])
  | .get roomID => some ({ s with registry := (s.registry.get s.now roomID).1 }, [])
  | .ensureExists roomID =>
    some ({ s with registry := s.registry.ensureExists s.now roomID }, [])
  | .markClosed roomID =>
    some ({ s with registry := (s.registry.markClosed s.now roomID).1 }, [])

abbrev step (v : Server) : Pool State Instr → Pool.Act Op Choice → Option (Pool State Instr) :=
  Pool.step (launch v) (exec v)

/-! ## The property -/

/-- The requests with key `k` and body `raw`. -/
def Request.is (k raw : String) (q : Request) : Bool := q.key = k && q.raw = raw

/-- The requests with key `k` and one body have made one record, one event and one response, and no
request with the key got a response that was cached for another caller. -/
structure Idempotent (k : String) (s : State) : Prop where
  records : ∀ raw, s.created.countP (fun c => c.1.is k raw) ≤ 1
  events : ∀ raw, s.events.countP (fun c => c.1.is k raw) ≤ 1
  responses : ∀ r ∈ s.served, ∀ r' ∈ s.served, r.request.key = k → r'.request.key = k →
    r.request.raw = r'.request.raw → r.status = r'.status ∧ r.body = r'.body
  caller : ∀ r ∈ s.served, r.request.key = k → ∀ a ∈ r.cachedFrom, a = r.request.apiKey

/-! ## The condition -/

/-- A handler with key `k` between its lookup and its end. -/
@[simp] def Instr.underway (k : String) : Instr → Bool
  | .lookup _ _ => false
  | i => i.request.key = k

/-- The requests with the key come from one caller, and a sweep comes within the lifetime of its
cached response. -/
def Arrives (k a : String) (s : State) (_ : Multiset Instr) : Op → Prop
  | .request q => q.key = k → q.apiKey = a
  | .sweep => ∀ e ∈ s.registry.idem.lookup k, s.now - e.time ≤ s.registry.idemTTL
  | _ => True

/-- A request with the key looks it up while no other one is under way, and the core serves the
room. -/
def Orderly (k : String) (_ : State) (P : Multiset Instr) (i : Instr) (x : Choice) : Prop :=
  match i with
  | .lookup q _ => q.key = k → P.countP (fun j => j.underway k) = 0
  | .coreRoom q _ _ => q.key = k → x.core.isOk = true
  | _ => True

instance (k a : String) (s : State) (P : Multiset Instr) (op : Op) :
    Decidable (Arrives k a s P op) := by
  unfold Arrives
  split <;> infer_instance

instance (k : String) (s : State) (P : Multiset Instr) (i : Instr) (x : Choice) :
    Decidable (Orderly k s P i x) := by
  unfold Orderly
  split <;> infer_instance

/-! ## The invariant -/

section Counts

variable (k : String)

/-- The records that a handler with the key has made, and not yet accounted for by a response. -/
@[simp] def Instr.made : Instr → ℕ
  | .coreRoom q _ created | .store q _ created => if q.key = k ∧ created = true then 1 else 0
  | .emit q _ => if q.key = k then 1 else 0
  | .lookup _ _ | .getOrCreate _ _ => 0

/-- The events that a handler with the key has emitted, and not yet accounted for. -/
@[simp] def Instr.emitted : Instr → ℕ
  | .store q _ created => if q.key = k ∧ created = true then 1 else 0
  | _ => 0

/-- How many entries of a log are about requests with the key. -/
def count (log : List (Request × RoomId)) : ℕ := log.countP fun c => c.1.key = k

/-- How many handlers with the key are under way. -/
def underway (P : Multiset Instr) : ℕ := P.countP fun i => i.underway k

theorem count_snoc (log : List (Request × RoomId)) (q : Request) (roomID : RoomId) :
    count k (log ++ [(q, roomID)]) = count k log + if q.key = k then 1 else 0 := by
  simp [count, List.countP_append, List.countP_singleton]

@[simp] theorem underway_cons (i : Instr) (P : Multiset Instr) :
    underway k (i ::ₘ P) = underway k P + if i.underway k = true then 1 else 0 :=
  countP_cons _ i P

variable {k}

/-- A weight of at most one for each handler under way. -/
theorem sum_le_underway {f : Instr → ℕ} (hf : ∀ i, f i ≤ if i.underway k = true then 1 else 0)
    (P : Multiset Instr) : (P.map f).sum ≤ underway k P := by
  induction P using Multiset.induction_on with
  | empty => exact Nat.le_refl 0
  | cons i P ih =>
    rw [Multiset.map_cons, Multiset.sum_cons, underway_cons]
    have := hf i
    omega

theorem Instr.made_le (i : Instr) : i.made k ≤ if i.underway k = true then 1 else 0 := by
  cases i <;> simp only [made, Instr.underway, Instr.request] <;>
    split_ifs <;> simp_all

theorem Instr.emitted_le (i : Instr) : i.emitted k ≤ if i.underway k = true then 1 else 0 := by
  cases i <;> simp only [emitted, Instr.underway, Instr.request] <;>
    split_ifs <;> simp_all

end Counts

/-- No response is cached under the key: what has been done is done by the handler under way. -/
structure Open (k : String) (s : State) (P : Multiset Instr) : Prop where
  created : count k s.created = (P.map (Instr.made k)).sum
  events : count k s.events = (P.map (Instr.emitted k)).sum
  served : ∀ r ∈ s.served, r.request.key ≠ k

/-- A response is cached under the key: nothing is under way, and every response is this one. -/
structure Done (k a : String) (s : State) (P : Multiset Instr) (e : IdemEntry) : Prop where
  idle : underway k P = 0
  created : count k s.created ≤ 1
  events : count k s.events ≤ 1
  served : ∀ r ∈ s.served, r.request.key = k →
    r.status = e.status ∧ r.body = e.response ∧ r.request.apiKey = a ∧ ∀ b ∈ r.cachedFrom, b = a
  origin : s.origin.lookup k = some a

structure Settled (k a : String) (s : State) (P : Multiset Instr) : Prop where
  one : underway k P ≤ 1
  caller : ∀ i ∈ P, i.request.key = k → i.request.apiKey = a
  before : s.registry.idem.lookup k = none → Open k s P
  after : ∀ e, s.registry.idem.lookup k = some e → Done k a s P e

variable {v : Server} {k a : String}

/-- Nothing changes for the requests with the key. -/
theorem Settled.of_same {s s' : State} {P P' : Multiset Instr} (h : Settled k a s P)
    (hidem : s'.registry.idem.lookup k = s.registry.idem.lookup k)
    (horigin : s'.origin.lookup k = s.origin.lookup k)
    (hcreated : count k s'.created = count k s.created)
    (hevents : count k s'.events = count k s.events)
    (hserved : ∀ r ∈ s'.served, r.request.key = k → r ∈ s.served)
    (hunder : underway k P' = underway k P)
    (hmade : (P'.map (Instr.made k)).sum = (P.map (Instr.made k)).sum)
    (hemitted : (P'.map (Instr.emitted k)).sum = (P.map (Instr.emitted k)).sum)
    (hcaller : ∀ i ∈ P', i.request.key = k → i.request.apiKey = a) : Settled k a s' P' where
  one := hunder.trans_le h.one
  caller := hcaller
  before hnone := by
    obtain ⟨hc, he, hs⟩ := h.before (hidem.symm.trans hnone)
    exact ⟨by rw [hcreated, hmade, hc], by rw [hevents, hemitted, he],
      fun r hr hkey => hs r (hserved r hr hkey) hkey⟩
  after e hsome := by
    obtain ⟨hi, hc, he, hs, ho⟩ := h.after e (hidem.symm.trans hsome)
    exact ⟨hunder.trans hi, hcreated.trans_le hc, hevents.trans_le he,
      fun r hr hkey => hs r (hserved r hr hkey) hkey, horigin.trans ho⟩

theorem settled_idempotent {s : State} {P : Multiset Instr} (h : Settled k a s P) :
    Idempotent k s := by
  have hbody : ∀ log : List (Request × RoomId), count k log ≤ 1 →
      ∀ raw, log.countP (fun c => c.1.is k raw) ≤ 1 := by
    intro log hlog raw
    refine (List.countP_mono_left fun c _ hc => ?_).trans hlog
    simp only [Request.is, Bool.and_eq_true, decide_eq_true_eq] at hc ⊢
    exact hc.1
  cases hidem : s.registry.idem.lookup k with
  | none =>
    obtain ⟨hc, he, hs⟩ := h.before hidem
    have hmade := (sum_le_underway Instr.made_le P).trans h.one
    have hemitted := (sum_le_underway Instr.emitted_le P).trans h.one
    exact ⟨hbody _ (hc.trans_le hmade), hbody _ (he.trans_le hemitted),
      fun r hr _ _ hkey => absurd hkey (hs r hr), fun r hr hkey => absurd hkey (hs r hr)⟩
  | some e =>
    obtain ⟨-, hc, he, hs, -⟩ := h.after e hidem
    refine ⟨hbody _ hc, hbody _ he, fun r hr r' hr' hkey hkey' _ => ?_, fun r hr hkey b hb => ?_⟩
    · obtain ⟨hstatus, hresponse, -⟩ := hs r hr hkey
      obtain ⟨hstatus', hresponse', -⟩ := hs r' hr' hkey'
      exact ⟨hstatus.trans hstatus'.symm, hresponse.trans hresponse'.symm⟩
    · obtain ⟨-, -, hcaller, hcached⟩ := hs r hr hkey
      exact (hcached b hb).trans hcaller.symm

/-! ## Events -/

theorem launch_settled (s : State) (P : Multiset Instr) (op : Op) (s' : State) (code : List Instr)
    (h : Settled k a s P) (hS : Arrives k a s P op) (hl : launch v s op = some (s', code)) :
    Settled k a s' (code + P) := by
  cases op with
  | request q =>
    simp only [launch] at hl
    split at hl
    · cases hl
      rw [coe_nil, zero_add]
      exact h.of_same rfl rfl rfl rfl (fun _ hr _ => hr) rfl rfl rfl h.caller
    · next req _ =>
      cases hl
      rw [coe_singleton, singleton_add]
      refine h.of_same rfl rfl rfl rfl (fun _ hr _ => hr) (by simp)
        (by simp) (by simp) ?_
      intro i hi hkey
      rcases mem_cons.1 hi with rfl | hi
      · exact hS hkey
      · exact h.caller i hi hkey
  | sweep =>
    cases hl
    rw [coe_nil, zero_add]
    refine h.of_same ?_ rfl rfl rfl (fun _ hr _ => hr) rfl rfl rfl h.caller
    cases hidem : s.registry.idem.lookup k with
    | none => exact s.registry.idem_sweep_none s.now hidem
    | some e => exact s.registry.idem_sweep s.now hidem (hS e hidem)
  | wait d =>
    cases hl
    rw [coe_nil, zero_add]
    exact h.of_same rfl rfl rfl rfl (fun _ hr _ => hr) rfl rfl rfl h.caller
  | get roomID | ensureExists roomID | markClosed roomID =>
    cases hl
    rw [coe_nil, zero_add]
    exact h.of_same (by simp) rfl rfl rfl (fun _ hr _ => hr) rfl rfl rfl h.caller

/-! ## Instructions -/

section Instructions

variable {s : State} {rest : Multiset Instr}

variable {s' : State} {q : Request} {x : Choice} {new : List Instr}

/-- The handler of an instruction ends, without having done anything for the key. -/
theorem Settled.drop {i : Instr} (h : Settled k a s (i ::ₘ rest)) (hmade : i.made k = 0)
    (hemitted : i.emitted k = 0) (hidem : s'.registry = s.registry) (horigin : s'.origin = s.origin)
    (hcreated : s'.created = s.created) (hevents : s'.events = s.events)
    (hserved : s'.served = s.served) : Settled k a s' rest where
  one := by
    have hone := h.one
    rw [underway_cons] at hone
    omega
  caller j hj := h.caller j (mem_cons_of_mem hj)
  before hnone := by
    obtain ⟨hc, he, hs⟩ := h.before (by rw [← hidem, hnone])
    rw [map_cons, sum_cons, hmade, zero_add] at hc
    rw [map_cons, sum_cons, hemitted, zero_add] at he
    exact ⟨by rw [hcreated, hc], by rw [hevents, he], by rwa [hserved]⟩
  after e hsome := by
    obtain ⟨hi, hc, he, hs, ho⟩ := h.after e (by rw [← hidem, hsome])
    rw [underway_cons] at hi
    exact ⟨by omega, by rwa [hcreated], by rwa [hevents], by rwa [hserved], by rwa [horigin]⟩

variable {req : CreateRoomRequest} {created : Bool} {body : RoomResponse}

theorem lookup_settled (hk : k ≠ "") (h : Settled k a s (.lookup q req ::ₘ rest))
    (hE : Orderly k s (.lookup q req ::ₘ rest) (.lookup q req) x)
    (hx : exec v s (.lookup q req) x = some (s', new)) : Settled k a s' (new + rest) := by
  simp only [exec] at hx
  have hrest : ∀ j ∈ rest, j.request.key = k → j.request.apiKey = a :=
    fun j hj => h.caller j (mem_cons_of_mem hj)
  split at hx
  · -- a miss: the handler is under way from here on
    next hmiss =>
    cases hx
    rw [coe_singleton, singleton_add]
    have hcaller : ∀ j ∈ Instr.getOrCreate q req ::ₘ rest, j.request.key = k →
        j.request.apiKey = a := by
      intro j hj hkey
      rcases mem_cons.1 hj with rfl | hj
      · exact h.caller (.lookup q req) (mem_cons_self _ _) hkey
      · exact hrest j hj hkey
    by_cases hq : q.key = k
    · have hidle : underway k (.lookup q req ::ₘ rest) = 0 := hE hq
      rw [underway_cons] at hidle
      have hnone : s.registry.idem.lookup k = none := by
        rw [hq] at hmiss
        exact s.registry.idempotencyLookup_miss v.hashBody hk hmiss
      obtain ⟨hc, he, hs⟩ := h.before hnone
      refine ⟨?_, hcaller, fun _ => ⟨by simpa using hc,
        by simpa using he, hs⟩, fun e hsome => ?_⟩
      · rw [underway_cons]
        split_ifs <;> omega
      · rw [hnone] at hsome
        cases hsome
    · exact h.of_same rfl rfl rfl rfl (fun _ hr _ => hr)
        (by simp [Instr.request, hq]) (by simp)
        (by simp) hcaller
  · cases hx
    rw [coe_nil, zero_add]
    exact h.drop rfl rfl rfl rfl rfl rfl rfl
  · next body status hhit =>
    cases hx
    rw [coe_nil, zero_add]
    by_cases hq : q.key = k
    · -- the cached response is that of the key, and its origin the caller
      rw [hq] at hhit
      obtain ⟨e, hidem, rfl, rfl⟩ := s.registry.idempotencyLookup_hit v.hashBody hhit
      have hown := h.caller (.lookup q req) (mem_cons_self _ _) hq
      have hone := h.one
      rw [underway_cons] at hone
      obtain ⟨hi, hc, he, hs, ho⟩ := h.after e hidem
      rw [underway_cons] at hi
      refine ⟨by omega, hrest, fun hnone => ?_, fun e' hsome => ?_⟩
      · have := hnone.symm.trans hidem
        cases this
      · obtain rfl : e = e' := mem_unique hidem hsome
        refine ⟨by omega, hc, he, fun r hr hkey => ?_, ho⟩
        rcases mem_snoc.1 hr with hr | rfl
        · exact hs r hr hkey
        · refine ⟨rfl, rfl, hown, fun b hb => ?_⟩
          change s.origin.lookup q.key = some b at hb
          rw [hq, ho] at hb
          exact (some.inj hb).symm
    · refine h.of_same rfl rfl rfl rfl (fun r hr hkey => ?_) (by simp)
        (by simp) (by simp) hrest
      rcases mem_snoc.1 hr with hr | rfl
      · exact hr
      · exact absurd hkey hq

/-- An instruction under way leaves one behind that carries what it has done. -/
theorem Settled.advance {i j : Instr} (h : Settled k a s (i ::ₘ rest))
    (hreq : j.request = i.request) (hunder : j.underway k = i.underway k)
    (hcreated : count k s'.created + i.made k = count k s.created + j.made k)
    (hevents : count k s'.events + i.emitted k = count k s.events + j.emitted k)
    (hi : i.underway k = false → j.made k = 0 ∧ i.made k = 0 ∧ j.emitted k = 0 ∧ i.emitted k = 0)
    (hidem : s'.registry.idem = s.registry.idem) (horigin : s'.origin = s.origin)
    (hserved : s'.served = s.served) : Settled k a s' (j ::ₘ rest) where
  one := by
    have hone := h.one
    rw [underway_cons] at hone ⊢
    rwa [hunder]
  caller l hl hkey := by
    rcases mem_cons.1 hl with rfl | hl
    · rw [hreq] at hkey ⊢
      exact h.caller i (mem_cons_self _ _) hkey
    · exact h.caller l (mem_cons_of_mem hl) hkey
  before hnone := by
    obtain ⟨hc, he, hs⟩ := h.before (by rw [← hidem, hnone])
    rw [map_cons, sum_cons] at hc he
    refine ⟨?_, ?_, by rwa [hserved]⟩ <;> rw [map_cons, sum_cons] <;> omega
  after e hsome := by
    obtain ⟨hidle, hc, he, hs, ho⟩ := h.after e (by rw [← hidem, hsome])
    rw [underway_cons] at hidle
    have hnot : i.underway k = false := by
      by_contra hne
      rw [if_pos (by simpa using hne)] at hidle
      omega
    obtain ⟨hj, hi', hje, hie⟩ := hi hnot
    refine ⟨?_, by omega, by omega, by rwa [hserved], by rwa [horigin]⟩
    rw [underway_cons, hunder]
    exact hidle

theorem getOrCreate_settled (h : Settled k a s (.getOrCreate q req ::ₘ rest))
    (hx : exec v s (.getOrCreate q req) x = some (s', new)) : Settled k a s' (new + rest) := by
  simp only [exec] at hx
  split_ifs at hx
  split at hx
  · cases hx
    rw [coe_nil, zero_add]
    exact h.drop rfl rfl rfl rfl rfl rfl rfl
  · next roomID _ =>
    cases hx
    rw [coe_singleton, singleton_add]
    refine h.advance rfl rfl ?_ rfl (fun hi => ?_) (by simp) rfl rfl
    · cases (s.registry.getOrCreate s.now roomID req.metadata).2.2 <;>
        simp [count_snoc]
    · have hq : q.key ≠ k := by
        simp only [Instr.underway, decide_eq_false_iff_not] at hi
        exact hi
      simp [hq]

theorem coreRoom_settled {record : RoomRecord}
    (h : Settled k a s (.coreRoom q record created ::ₘ rest))
    (hE : Orderly k s (.coreRoom q record created ::ₘ rest) (.coreRoom q record created) x)
    (hx : exec v s (.coreRoom q record created) x = some (s', new)) :
    Settled k a s' (new + rest) := by
  simp only [exec] at hx
  split at hx
  · next owner hcore =>
    cases hx
    have hq : q.key ≠ k := by
      intro hq
      have hok := hE hq
      rw [hcore] at hok
      cases hok
    rw [coe_nil, zero_add]
    exact h.drop (by simp [hq]) rfl rfl rfl rfl rfl rfl
  · next cr _ =>
    cases hx
    cases created with
    | true =>
      rw [if_pos rfl, coe_singleton, singleton_add]
      refine h.advance rfl rfl (by simp) rfl (fun hi => ?_) rfl rfl rfl
      have hq : q.key ≠ k := by
        simp only [Instr.underway, decide_eq_false_iff_not] at hi
        exact hi
      simp [hq]
    | false =>
      rw [if_neg Bool.false_ne_true, coe_singleton, singleton_add]
      exact h.advance rfl rfl (by simp) (by simp)
        (fun _ => by simp) rfl rfl rfl

theorem emit_settled (h : Settled k a s (.emit q body ::ₘ rest))
    (hx : exec v s (.emit q body) x = some (s', new)) : Settled k a s' (new + rest) := by
  simp only [exec] at hx
  cases hx
  rw [coe_singleton, singleton_add]
  refine h.advance rfl rfl (by simp) (by simp [count_snoc])
    (fun hi => ?_) rfl rfl rfl
  have hq : q.key ≠ k := by
    simp only [Instr.underway, decide_eq_false_iff_not] at hi
    exact hi
  simp [hq]

theorem store_settled (hk : k ≠ "") (h : Settled k a s (.store q body created ::ₘ rest))
    (hx : exec v s (.store q body created) x = some (s', new)) : Settled k a s' (new + rest) := by
  simp only [exec] at hx
  cases hx
  rw [coe_nil, zero_add]
  have hrest : ∀ j ∈ rest, j.request.key = k → j.request.apiKey = a :=
    fun j hj => h.caller j (mem_cons_of_mem hj)
  by_cases hq : q.key = k
  · -- the only handler under way stores its response, and none is left
    have hown := h.caller (.store q body created) (mem_cons_self _ _) hq
    have hunder : (Instr.store q body created).underway k = true := by
      simp only [Instr.underway, decide_eq_true_eq]
      exact hq
    have hone := h.one
    rw [underway_cons, if_pos hunder] at hone
    have hidle : underway k rest = 0 := by omega
    have hnone : s.registry.idem.lookup k = none := by
      cases hidem : s.registry.idem.lookup k with
      | none => rfl
      | some e =>
        have hzero := (h.after e hidem).idle
        rw [underway_cons, if_pos hunder] at hzero
        omega
    obtain ⟨hc, he, hs⟩ := h.before hnone
    have hcount : count k s.created ≤ 1 := by
      rw [hc]
      exact (sum_le_underway Instr.made_le _).trans h.one
    have hevents : count k s.events ≤ 1 := by
      rw [he]
      exact (sum_le_underway Instr.emitted_le _).trans h.one
    have hstored := s.registry.idem_store s.now v.hashBody q.key q.raw body
      (if created then 201 else 200) hk
    rw [if_pos hq.symm] at hstored
    refine ⟨hidle.trans_le (Nat.zero_le 1), hrest, fun hno => ?_, fun e hsome => ?_⟩
    · have := hstored.symm.trans hno
      cases this
    · obtain rfl := mem_unique hstored hsome
      refine ⟨hidle, hcount, hevents, fun r hr hkey => ?_, ?_⟩
      · rcases mem_snoc.1 hr with hr | rfl
        · exact absurd hkey (hs r hr)
        · exact ⟨rfl, rfl, hown, fun b hb => by cases hb⟩
      · dsimp only
        rw [if_neg (hq ▸ hk), GoMap.lookup_insert_eq, if_pos hq.symm, hown.symm]
        rfl
  · have hne : k ≠ q.key := fun heq => hq heq.symm
    refine h.of_same ?_ ?_ rfl rfl (fun r hr hkey => ?_)
      (by simp [Instr.request, hq]) (by simp [hq])
      (by simp [hq]) hrest
    · dsimp only
      rw [s.registry.idem_store s.now v.hashBody q.key q.raw body _ hk, if_neg hne]
    · dsimp only
      split_ifs
      · rfl
      · rw [GoMap.lookup_insert_eq, if_neg hne]
    · rcases mem_snoc.1 hr with hr | rfl
      · exact hr
      · exact absurd hkey hq

end Instructions

theorem exec_settled (hk : k ≠ "") (s : State) (i : Instr) (rest : Multiset Instr) (x : Choice)
    (s' : State) (new : List Instr) (h : Settled k a s (i ::ₘ rest))
    (hE : Orderly k s (i ::ₘ rest) i x) (hx : exec v s i x = some (s', new)) :
    Settled k a s' (new + rest) := by
  cases i with
  | lookup q req => exact lookup_settled hk h hE hx
  | getOrCreate q req => exact getOrCreate_settled h hx
  | coreRoom q record created => exact coreRoom_settled h hE hx
  | emit q body => exact emit_settled h hx
  | store q body created => exact store_settled hk h hx

/-! ## Every run -/

/-- **Creation is idempotent for orderly callers.** From any registry without a cached response for
the key, in every run in which the requests with the key come from one caller, each looks it up
while no other one is under way, the core serves their rooms and sweeps come within the lifetime of
the response: in every state reached, one record, one event and one response for each body. -/
theorem creation_idempotent (v : Server) (k a : String) (now : Time) (registry : RoomRegistry)
    (as : List (Pool.Act Op Choice)) (p : Pool State Instr) (hk : k ≠ "")
    (hidem : registry.idem.lookup k = none)
    (hcond : Along (step v) (Pool.Meets (Arrives k a) (Orderly k))
      ⟨{ now := now, registry := registry }, []⟩ as)
    (h : run (step v) ⟨{ now := now, registry := registry }, []⟩ as = some p) :
    Idempotent k p.shared := by
  have hinit : Settled k a { now := now, registry := registry } 0 := by
    refine ⟨Nat.zero_le 1, fun i hi => absurd hi (notMem_zero i),
      fun _ => ⟨rfl, rfl, fun r hr => absurd hr List.not_mem_nil⟩, fun e hsome => ?_⟩
    have := hidem.symm.trans hsome
    cases this
  exact settled_idempotent (Pool.run_inv launch_settled (exec_settled hk) hinit hcond h)

/-- A server whose bodies all decode to the empty request. -/
def anyRoom : Server where
  hashBody raw := raw
  decode _ := .ok {}

/-- A request with the key `k`, for a room with a generated id. -/
def retried : Request := { apiKey := "caller", header := "k", raw := "" }

/-- The request is handled to its end, and then sent again. -/
def oneAfterTheOther : List (Pool.Act Op Choice) :=
  [.start (.request retried), .resume 0 {}, .resume 0 { generated := "room_a" }, .resume 0 {},
    .resume 0 {}, .resume 0 {}, .start (.wait 1), .start (.request retried), .resume 2 {}]

theorem creation_idempotent_retried :
    ∃ p, run (step anyRoom) ⟨{}, []⟩ oneAfterTheOther = some p ∧ p.shared.served.length = 2 ∧
      Idempotent "k" p.shared := by
  refine exists_mem_and (by decide +kernel) fun p hp hserved => ?_
  have hcond : Along (step anyRoom) (Pool.Meets (Arrives "k" "caller") (Orderly "k")) ⟨{}, []⟩
      oneAfterTheOther := by
    decide +kernel
  exact creation_idempotent anyRoom "k" "caller" 0 {} oneAfterTheOther p (by decide) rfl hcond hp

/-- The request is sent twice, and both handlers look up the key before either stores. -/
def bothLookUp : List (Pool.Act Op Choice) :=
  [.start (.request retried), .start (.request retried), .resume 0 {}, .resume 1 {},
    .resume 0 { generated := "room_a" }, .resume 1 { generated := "room_b" }, .resume 0 {},
    .resume 1 {}, .resume 0 {}, .resume 1 {}, .resume 0 {}, .resume 1 {}]

/-- **Two rooms for one key**: each request makes a record and an event of its own. -/
theorem two_rooms_for_one_key :
    ∃ p, run (step anyRoom) ⟨{}, []⟩ bothLookUp = some p ∧ ¬ Idempotent "k" p.shared := by
  obtain ⟨p, hp, hcreated⟩ : ∃ p ∈ run (step anyRoom) ⟨{}, []⟩ bothLookUp,
      p.shared.created.countP (fun c => c.1.is "k" "") = 2 := by
    decide +kernel
  refine ⟨p, hp, fun h => ?_⟩
  have hone := h.records ""
  omega

end PulseRTC.Api.Creation
