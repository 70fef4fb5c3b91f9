import PulseRTC.Quality.Scoring

/-!
# The engine

The engine keeps a state for every stream: its last sample, a window of the last rates, and a
stabilizer that lets the status change only after the same verdict has come several times in a row.
`ingest` is what a sample does to it, with the event for a change of the status. `snapshot` is the
view of one participant; the mark of a recovering participant shows there (`reason_snapshot`), and
nothing but `setRecovering` and `forget` changes the marks.

A Go map is visited in some order, which `snapshot` has as an argument. The two instants of `ingest`
are those of its calls of `now`.
-/

namespace PulseRTC.Quality

open Foundations Cluster

/-! ## Windows -/

/-- The last rates of a stream, the newest at the end. -/
structure Window where
  buf : List Derived := []
  size : ℕ

/-- A window has room for at least one entry. -/
def newWindow (size : ℤ) : Window := { size := (max 1 size).toNat }

/-- The oldest rates leave a full window. -/
def Window.push (w : Window) (d : Derived) : Window :=
  let buf := w.buf ++ [d]
  { w with buf := buf.drop (buf.length - w.size) }

/-- The mean of a rate over the entries that have it. -/
def avg (buf : List Derived) (get : Derived → Option ℚ) : Option ℚ :=
  let values := buf.filterMap get
  if values = [] then none else some (values.sum / values.length)

/-- `mean`, of a window that is not empty. -/
def Window.mean (w : Window) : Derived :=
  let last := (w.buf.getLast?).getD {}
  { hasData := true
    enabled := last.enabled
    connState := last.connState
    iceState := last.iceState
    width := last.width
    height := last.height
    lossPct := avg w.buf Derived.lossPct
    bitrateBps := avg w.buf Derived.bitrateBps
    jitterMs := avg w.buf Derived.jitterMs
    rttMs := avg w.buf Derived.rttMs
    fps := avg w.buf Derived.fps
    frameDropPct := avg w.buf Derived.frameDropPct }

/-! ## Hysteresis -/

/-- `stabilizer`. Before its first verdict it has no candidate. -/
structure Stabilizer where
  stable : Status := .unknown
  candidate : Option Status := none
  streak : ℤ := 0
  degrade : ℤ
  recover : ℤ
  deriving DecidableEq

/-- `newStabilizer`. -/
def newStabilizer (cfg : Config) : Stabilizer :=
  { degrade := cfg.degradeSamples, recover := cfg.recoverSamples }

/-- How often a verdict has to come in a row. -/
def Stabilizer.need (s : Stabilizer) (raw : Status) : ℤ :=
  if 0 ≤ rank s.stable ∧ 0 ≤ rank raw ∧ rank raw < rank s.stable then s.recover else s.degrade

/-- `observe`, and whether the status has changed. -/
def Stabilizer.observe (s : Stabilizer) (raw : Status) : Stabilizer × Bool :=
  if raw = s.stable then ({ s with candidate := some s.stable, streak := 0 }, false)
  else
    let s :=
      if s.candidate = some raw then { s with streak := s.streak + 1 }
      else { s with candidate := some raw, streak := 1 }
    if s.need raw ≤ s.streak then
      ({ s with stable := raw, candidate := some raw, streak := 0 }, true)
    else (s, false)

/-! ## Events -/

/-- What an event tells. -/
inductive EventType
  | degraded
  | recovered
  | changed
  deriving DecidableEq

/-- The event of a changed status. -/
structure Event where
  type : EventType
  participantID : ParticipantId
  direction : Direction
  mediaType : Kind
  trackID : String
  «from» : Status
  status : Status
  reason : String
  «at» : Time
  deriving DecidableEq

/-- The event of a change, with the first problem as its reason. -/
def makeEvent (key : StreamKey) (old new : Status) (a : Analysis) (now : Time) : Event where
  type :=
    if rank old < 0 then .changed
    else if rank old < rank new then .degraded
    else if new = .good then .recovered
    else .changed
  participantID := key.participant
  direction := key.direction
  mediaType := key.kind
  trackID := key.trackID
  «from» := old
  status := new
  reason := ((a.problems.head?).map Problem.text).getD ""
  «at» := now

/-- An entry of the timeline of a stream. -/
structure HistoryPoint where
  «at» : Time
  status : Status
  deriving DecidableEq

/-! ## The engine -/

/-- `streamState`. -/
structure StreamState where
  prev : Option Sample := none
  win : Window
  stab : Stabilizer
  last : Analysis := { status := .unknown }
  history : List HistoryPoint := []
  updated : Time := 0

/-- `Engine`. Only marks that are set are kept. -/
structure Engine where
  cfg : Config
  streams : GoMap StreamKey StreamState := ∅
  recovering : Finset ParticipantId := ∅

namespace Engine

/-- `New`. Without a window size, the default configuration is used. -/
def new (cfg : Config) : Engine :=
  { cfg := if cfg.windowSamples = 0 then defaultConfig else cfg }

variable (e : Engine)

/-- The mark of a participant is set or removed. -/
def setRecovering (participantID : ParticipantId) (recovering : Bool) : Engine :=
  { e with
    recovering :=
      if recovering then insert participantID e.recovering
      else e.recovering.erase participantID }

/-- The state of a stream, which is made at its first sample. -/
def stream (key : StreamKey) : StreamState :=
  (e.streams.lookup key).getD { win := newWindow e.cfg.windowSamples, stab := newStabilizer e.cfg }

/-- `Ingest`, with the instants that it reads. -/
def ingest (s : Sample) (updated now : Time) : Engine × List Event :=
  let st := e.stream s.key
  let d := derive st.prev s
  let st := { st with prev := some s, updated := updated }
  if !d.hasData && d.enabled then ({ e with streams := e.streams.insert s.key st }, [])
  else
    let win := st.win.push d
    let verdict := analyze s.key.kind win.mean e.cfg
    let (stab, changed) := st.stab.observe verdict.status
    let history := if changed then st.history ++ [⟨now, stab.stable⟩] else st.history
    let history :=
      if changed then history.drop (history.length - e.cfg.historySize).toNat else history
    let new : StreamState :=
      { st with
        win := win, stab := stab, history := history
        last := { verdict with status := stab.stable } }
    ({ e with streams := e.streams.insert s.key new },
      if changed then [makeEvent s.key st.stab.stable stab.stable verdict now] else [])

/-- A participant leaves. -/
def forget (participantID : ParticipantId) : Engine :=
  { e with
    streams := e.streams.restrict fun k _ => k.participant != participantID
    recovering := e.recovering.erase participantID }

/-- The streams without a recent sample are dropped. -/
def prune (maxAge now : Time) : Engine :=
  { e with streams := e.streams.restrict fun _ st => !decide (st.updated < now - maxAge) }

end Engine

/-! ## Snapshots -/

/-- The verdict on a stream, as it is reported. -/
structure StreamQuality where
  direction : Direction := .unset
  kind : Kind
  trackID : String := ""
  status : Status
  score : ℤ := 0
  problems : List Problem := []
  metrics : GoMap String ℚ := ∅
  deriving DecidableEq

/-- The verdicts on a participant, as they are reported. -/
structure ParticipantQuality where
  participantID : ParticipantId
  connection : StreamQuality := { kind := .connection, status := .unknown }
  outbound : List StreamQuality := []
  inbound : List StreamQuality := []
  overall : Status := .unknown
  reason : String := ""
  timeline : List HistoryPoint := []
  deriving DecidableEq

/-- The kind, as it stands in a message. -/
def Kind.text : Kind → String
  | .audio => "audio"
  | .video => "video"
  | .connection => "connection"

/-- By kind, then by track. -/
def sortStreams (s : List StreamQuality) : List StreamQuality :=
  s.mergeSort fun a b =>
    if a.kind ≠ b.kind then a.kind.text < b.kind.text else !decide (b.trackID < a.trackID)

/-- The verdict of a stream. -/
def StreamState.quality (k : StreamKey) (st : StreamState) : StreamQuality where
  direction := k.direction
  kind := k.kind
  trackID := k.trackID
  status := st.last.status
  score := st.last.score
  problems := st.last.problems
  metrics := st.last.metrics

/-- One turn of the loop of `Snapshot`. -/
def ParticipantQuality.visit (pq : ParticipantQuality) (x : StreamKey × StreamState) :
    ParticipantQuality :=
  match x.1.kind, x.1.direction with
  | .connection, _ => { pq with connection := x.2.quality x.1, timeline := x.2.history }
  | _, .outbound => { pq with outbound := pq.outbound ++ [x.2.quality x.1] }
  | _, _ => { pq with inbound := pq.inbound ++ [x.2.quality x.1] }

/-- What the loop of `overall` has: the status of the connection and of audio, and that of video. -/
def legs (acc : Status × Status) (s : StreamQuality) : Status × Status :=
  match s.kind with
  | .audio => (worst acc.1 s.status, acc.2)
  | .video => (acc.1, worst acc.2 s.status)
  | .connection => acc

/-- The verdict on a participant. Poor video alone is only a warning. -/
def overall (pq : ParticipantQuality) : Status :=
  let (base, video) := (pq.outbound ++ pq.inbound).foldl legs (pq.connection.status, .unknown)
  if video = .poor then worst base .warning else worst base video

namespace Engine

variable (e : Engine)

/-- The streams of a participant, in the order in which a loop meets them. -/
def streamsOf (order : List StreamKey) (participantID : ParticipantId) :
    List (StreamKey × StreamState) :=
  order.filterMap fun k =>
    if k.participant = participantID then (e.streams.lookup k).map fun st => (k, st) else none

/-- The verdicts of a participant, whether it is recovering or not. -/
def verdicts (order : List StreamKey) (participantID : ParticipantId) : ParticipantQuality :=
  let pq := (e.streamsOf order participantID).foldl ParticipantQuality.visit
    { participantID := participantID }
  let pq := { pq with outbound := sortStreams pq.outbound, inbound := sortStreams pq.inbound }
  { pq with overall := overall pq }

/-- `Snapshot`. While the participant recovers, it is not poor. -/
def snapshot (order : List StreamKey) (participantID : ParticipantId) : ParticipantQuality :=
  let pq := e.verdicts order participantID
  if participantID ∈ e.recovering then
    { pq with
      overall := if pq.overall = .poor ∨ pq.overall = .unknown then .warning else pq.overall
      reason := "SESSION_RECOVERY" }
  else pq

/-- The keys of all streams, each once: what a loop over them can meet. -/
def Order (order : List StreamKey) : Prop := order.Nodup ∧ ∀ k, k ∈ order ↔ k ∈ e.streams

variable {e} {p : ParticipantId} {order : List StreamKey}

theorem reason_verdicts : (e.verdicts order p).reason = "" := by
  have hvisit (l : List (StreamKey × StreamState)) (pq : ParticipantQuality) :
      (l.foldl ParticipantQuality.visit pq).reason = pq.reason := by
    induction l generalizing pq with
    | nil => rfl
    | cons x l ih =>
      rw [List.foldl_cons, ih]
      unfold ParticipantQuality.visit
      split <;> rfl
  exact hvisit _ _

/-- The mark of a participant shows as the reason. -/
theorem reason_snapshot :
    (e.snapshot order p).reason = if p ∈ e.recovering then "SESSION_RECOVERY" else "" := by
  unfold snapshot
  split_ifs with h
  · rfl
  · exact reason_verdicts

theorem exists_order (e : Engine) : ∃ order, e.Order order :=
  ⟨e.streams.keys.toList, e.streams.keys.nodup_toList, fun k => by
    rw [Finset.mem_toList, Finmap.mem_keys]⟩

/-! ## Marks -/

/-- A sample marks nobody. -/
theorem recovering_ingest (s : Sample) (updated now : Time) :
    (e.ingest s updated now).1.recovering = e.recovering := by
  unfold ingest
  dsimp only
  split_ifs <;> rfl

theorem mem_setRecovering {q : ParticipantId} {recovering : Bool} :
    q ∈ (e.setRecovering p recovering).recovering ↔
      if q = p then recovering = true else q ∈ e.recovering := by
  unfold setRecovering
  cases recovering
  all_goals by_cases h : q = p <;> simp [h]

theorem mem_forget {q : ParticipantId} :
    q ∈ (e.forget p).recovering ↔ q ≠ p ∧ q ∈ e.recovering :=
  Finset.mem_erase

end Engine

end PulseRTC.Quality
