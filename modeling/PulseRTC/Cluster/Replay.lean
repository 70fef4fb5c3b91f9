import PulseRTC.Foundations.Runs
import PulseRTC.Cluster.Messages

/-!
# Replayed messages

A node accepts a message while its timestamp is in a window around the node's clock, and refuses
to dispatch a request id twice while it remembers it. The two meet only if a node remembers an id
for as long as it accepts the message.

* `dispatched_once`: no message is handed to a local component twice in the runs in which every
  accepted message is marked after its timestamp.
-/

namespace PulseRTC.Cluster.Replay

open Foundations

/-! ## The handler and its cache -/

/-- The lifetime of `newDedupCache`. -/
def dedupTTL (ttl : Time) : Time := if ttl ≤ 0 then 30 * second else ttl

/-- The handler as `NewWithState` builds it: the cache gets `MessageMaxAge` as its lifetime. -/
def newHandler (maxAge : Time) (maxSize : ℤ) (delivery : Option LocalDelivery)
    (media : Option (ClusterMessage → Option Error)) : Handler where
  maxAge := maxAge
  maxSize := maxSize
  dedupTTL := dedupTTL maxAge
  delivery := delivery
  media := media

/-- `dedupCache.sweep`. -/
def sweep (now : Time) (seen : GoMap String Time) : GoMap String Time :=
  GoMap.keep (fun exp => !decide (now > exp)) seen

/-- The dispatch of a message calls the local delivery or the media handler. -/
def invokes (h : Handler) (m : ClusterMessage) : Bool :=
  match m.type with
  | .media _ => h.media.isSome
  | .other _ => false
  | _ => h.delivery.isSome

/-- What `Handle` leaves behind: the seen ids, the message if it was handed to a local component,
the result. -/
structure Outcome where
  seen : GoMap String Time
  invoked : List ClusterMessage
  result : Option Error

/-- `Handle` on the node `self`: `Validate` reads the clock at `tv`, `markSeen` at `tm`. -/
def handleAt (h : Handler) (self : NodeId) (tv tm : Time) (seen : GoMap String Time)
    (m : ClusterMessage) : Outcome :=
  match m.validate tv h.maxAge h.maxSize with
  | some e => ⟨seen, [], some e⟩
  | none =>
    if m.targetNodeID ≠ self then
      ⟨seen, [], some { code := .clusterTargetMismatch,
                        message := "message addressed to a different node",
                        nodeID := m.targetNodeID }⟩
    else
      match markSeen h.dedupTTL tm seen m.requestID with
      | (seen', true) => ⟨seen', [], none⟩
      | (seen', false) => ⟨seen', if invokes h m then [m] else [], h.dispatch m⟩

/-- With one reading of the clock this is the handler of the router's model. -/
theorem handleAt_same (h : Handler) (self : NodeId) (now : Time) (seen : GoMap String Time)
    (m : ClusterMessage) :
    (handleAt h self now now seen m).seen = (h.handle self now seen m).seen ∧
      (handleAt h self now now seen m).result = (h.handle self now seen m).result := by
  unfold handleAt Handler.handle
  cases m.validate now h.maxAge h.maxSize with
  | some e => exact ⟨rfl, rfl⟩
  | none =>
    by_cases htarget : m.targetNodeID ≠ self
    · simp [htarget]
    · simp only [htarget, if_false]
      rcases markSeen h.dedupTTL now seen m.requestID with ⟨seen', _ | _⟩ <;> exact ⟨rfl, rfl⟩

/-- The envelope is valid at `tv` and addressed to the node. -/
def Accepted (h : Handler) (self : NodeId) (tv : Time) (m : ClusterMessage) : Prop :=
  m.validate tv h.maxAge h.maxSize = none ∧ m.targetNodeID = self

/-- What `Handle` can do: nothing, or mark an accepted message that is no duplicate. -/
theorem handleAt_cases (h : Handler) (self : NodeId) (tv tm : Time) (seen : GoMap String Time)
    (m : ClusterMessage) :
    ((handleAt h self tv tm seen m).seen = seen ∧ (handleAt h self tv tm seen m).invoked = []) ∨
    (Accepted h self tv m ∧ isDuplicate tm seen m.requestID = false ∧
      (handleAt h self tv tm seen m).seen = seen.insert m.requestID (tm + h.dedupTTL) ∧
      (handleAt h self tv tm seen m).invoked.Sublist [m]) := by
  unfold handleAt
  cases hv : m.validate tv h.maxAge h.maxSize with
  | some e => exact .inl ⟨rfl, rfl⟩
  | none =>
    by_cases htarget : m.targetNodeID ≠ self
    · simp [htarget]
    · simp only [htarget, if_false, markSeen_eq]
      cases hd : isDuplicate tm seen m.requestID with
      | true => exact .inl ⟨rfl, rfl⟩
      | false =>
        refine .inr ⟨⟨hv, not_not.1 htarget⟩, rfl, rfl, ?_⟩
        cases invokes h m with
        | true => exact List.Sublist.refl _
        | false => exact List.nil_sublist _

/-! ## Runs -/

/-- The last reading of the clock, the cache, and the messages handed to local components. -/
structure State where
  clock : Time
  seen : GoMap String Time := ∅
  invoked : List ClusterMessage := []

/-- A call of `Handle` with its two readings of the clock, or a sweep. -/
inductive Act
  | handle (m : ClusterMessage) (tv tm : Time)
  | sweep (t : Time)
  deriving DecidableEq

/-- One step of the node `self`. Two calls may overlap: `Validate` of one may read the clock before
`markSeen` of another. -/
def step (h : Handler) (self : NodeId) (s : State) : Act → Option State
  | .handle m tv tm =>
    if tv ≤ tm ∧ s.clock ≤ tm then
      let out := handleAt h self tv tm s.seen m
      some ⟨tm, out.seen, out.invoked ++ s.invoked⟩
    else none
  | .sweep t => if s.clock ≤ t then some { s with clock := t, seen := sweep t s.seen } else none

/-- The timestamp of a message, in nanoseconds. -/
def sentAt (m : ClusterMessage) : Time := m.timestamp * 1000000

/-- An accepted message is marked later than its timestamp says it was sent, and not later than
its age limit. -/
def InTime (h : Handler) (self : NodeId) (_ : State) : Act → Prop
  | .handle m tv tm =>
    Accepted h self tv m → sentAt m < tm ∧ tm ≤ sentAt m + h.maxAge
  | .sweep _ => True

/-- No message has been handed over twice, and each one handed over is still remembered beyond its
age limit, or beyond its age limit already. -/
structure Once (maxAge : Time) (s : State) : Prop where
  nodup : s.invoked.Nodup
  guarded : ∀ m ∈ s.invoked, (∃ exp, s.seen.lookup m.requestID = some exp ∧
    sentAt m + maxAge < exp) ∨ sentAt m + maxAge < s.clock

/-- A message that has been handed over and is no duplicate any more is beyond its age limit. -/
theorem Once.late {maxAge tm : Time} {s : State} (h : Once maxAge s) {m : ClusterMessage}
    (hm : m ∈ s.invoked) (hclock : s.clock ≤ tm)
    (hdup : isDuplicate tm s.seen m.requestID = false) : sentAt m + maxAge < tm := by
  rcases h.guarded m hm with ⟨exp, hexp, hlt⟩ | hlate
  · have hle : exp ≤ tm := by simpa [isDuplicate, hexp] using hdup
    exact lt_of_lt_of_le hlt hle
  · exact lt_of_lt_of_le hlate hclock

theorem step_once {maxAge : Time} (hpos : 0 < maxAge) {h : Handler} (hage : h.maxAge = maxAge)
    (httl : h.dedupTTL = maxAge) {self : NodeId} {s s' : State} {a : Act} (hs : Once maxAge s)
    (ha : InTime h self s a) (hstep : step h self s a = some s') : Once maxAge s' := by
  cases a with
  | sweep t =>
    simp only [step] at hstep
    split_ifs at hstep with hclock
    cases hstep
    refine ⟨hs.nodup, fun m hm => ?_⟩
    rcases hs.guarded m hm with ⟨exp, hexp, hlt⟩ | hlate
    · by_cases hgone : t > exp
      · exact .inr (hlt.trans hgone)
      · refine .inl ⟨exp, ?_, hlt⟩
        rw [sweep, GoMap.lookup_keep, hexp]
        simp [hgone]
    · exact .inr (lt_of_lt_of_le hlate hclock)
  | handle m tv tm =>
    simp only [step] at hstep
    split_ifs at hstep with hguard
    cases hstep
    rcases handleAt_cases h self tv tm s.seen m with ⟨hseen, hinv⟩ | ⟨hacc, hdup, hseen, hinv⟩
    · rw [hseen, hinv]
      exact ⟨hs.nodup, fun m' hm' => (hs.guarded m' hm').imp_right
        fun hlate => lt_of_lt_of_le hlate hguard.2⟩
    · obtain ⟨hafter, hwithin⟩ := ha hacc
      rw [hage] at hwithin
      -- one handed over before would be beyond its age limit
      have hnew : m ∉ s.invoked := fun hm => absurd (hs.late hm hguard.2 hdup) (not_lt.2 hwithin)
      have hsub := hinv.append_right s.invoked
      refine ⟨hsub.nodup (List.nodup_cons.2 ⟨hnew, hs.nodup⟩), fun m' hm' => ?_⟩
      have hmem : m' = m ∨ m' ∈ s.invoked := by simpa using hsub.subset hm'
      rw [hseen, httl, GoMap.lookup_insert_eq]
      split_ifs with hid
      · -- the entry now lives from `tm`, which is later than any message with this id was sent
        have hsent : sentAt m' < tm := by
          rcases hmem with rfl | hm'
          · exact hafter
          · exact (lt_add_of_pos_right _ hpos).trans (hs.late hm' hguard.2 (hid ▸ hdup))
        exact .inl ⟨tm + maxAge, rfl, add_lt_add_left hsent maxAge⟩
      · have hm'' : m' ∈ s.invoked := hmem.resolve_left fun heq => hid (heq ▸ rfl)
        exact (hs.guarded m' hm'').imp_right fun hlate => lt_of_lt_of_le hlate hguard.2

/-- **Messages are dispatched at most once**: in a run in which every accepted message is marked
after its timestamp and within its age limit, no message is handed to a local component by two
calls of `Handle`. -/
theorem dispatched_once (maxAge : Time) (hpos : 0 < maxAge) (maxSize : ℤ)
    (delivery : Option LocalDelivery) (media : Option (ClusterMessage → Option Error))
    (self : NodeId) (clock : Time) (as : List Act) (s : State)
    (hrun : run (step (newHandler maxAge maxSize delivery media) self) { clock := clock } as =
      some s)
    (hintime : Along (step (newHandler maxAge maxSize delivery media) self)
      (InTime (newHandler maxAge maxSize delivery media) self) { clock := clock } as) :
    ∀ m, s.invoked.count m ≤ 1 := by
  have httl : (newHandler maxAge maxSize delivery media).dedupTTL = maxAge :=
    if_neg (not_le.2 hpos)
  have honce : Once maxAge s :=
    run_invariant (fun _ _ _ hs hg hst => step_once hpos rfl httl hs hg hst)
      ⟨List.nodup_nil, fun _ hm => by simp at hm⟩ hintime hrun
  exact fun m => List.nodup_iff_count_le_one.1 honce.nodup m

/-- A node with a participant connected, and the default limits. -/
def defaultHandler : Handler :=
  newHandler (30 * second) (64 * 1024) (some (clusterDelivery fun _ => true)) none

/-- A message to that node, sent at `t` milliseconds. -/
def messageAt (t : ℤ) : ClusterMessage where
  type := .participantMessage
  requestID := "req-1"
  sourceNodeID := "a"
  targetNodeID := "b"
  timestamp := t
  participantID := "p"

/-- The message handled at two instants, in seconds, with a sweep in between. -/
def twice (m : ClusterMessage) (t₁ t₂ : ℤ) : List Act :=
  [Act.handle m (t₁ * second) (t₁ * second), Act.sweep (t₂ * second),
    Act.handle m (t₂ * second) (t₂ * second)]

/-- Sent at 100 s and handled at 101 s and at 130 s, the message is dispatched once. -/
theorem dispatched_once_in_time :
    ∃ s ∈ run (step defaultHandler "b") { clock := 0 } (twice (messageAt 100000) 101 130),
      s.invoked.count (messageAt 100000) ≤ 1 := by
  obtain ⟨s, hs⟩ : ∃ s, run (step defaultHandler "b") { clock := 0 }
      (twice (messageAt 100000) 101 130) = some s :=
    Option.isSome_iff_exists.1 (by decide +kernel)
  refine ⟨s, hs, dispatched_once (30 * second) (by decide) (64 * 1024) _ _ "b" 0 _ s hs ?_ _⟩
  refine Along.of_forall ?_
  simp only [twice, List.mem_cons, List.not_mem_nil, or_false]
  rintro a (rfl | rfl | rfl) t
  · exact fun _ => by decide
  · trivial
  · exact fun _ => by decide

/-- **A replay is dispatched**: the sender's clock is ten seconds ahead. The message is dispatched
at 90 s and its id forgotten at 120 s; at 125 s the message is still accepted, and dispatched
again. -/
theorem dispatched_twice :
    ∃ s ∈ run (step defaultHandler "b") { clock := 0 } (twice (messageAt 100000) 90 125),
      s.invoked.count (messageAt 100000) = 2 := by
  decide +kernel

end PulseRTC.Cluster.Replay
