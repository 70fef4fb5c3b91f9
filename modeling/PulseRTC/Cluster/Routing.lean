import PulseRTC.Cluster.Messages

/-!
# Routing to a participant

`participantRouter.Route` resolves the node of a participant from its cache or the locator, and
delivers the message locally or sends it to that node. When the answer is
`PARTICIPANT_NOT_FOUND` it looks the participant up once more and sends the same message, with the
same request id, to the node the locator names now.

The cluster is given by two `Env`s: what holds when `Route` makes its first attempt, and what holds
at the second. Both are arbitrary, and so are the cache of the router and the seen ids of all
nodes, as long as the request id is new.

* `route_truthful_iff`: success means that `DeliverToParticipant` was called for the message on some
  node and succeeded, exactly when the call is not `Misled`.
-/

namespace PulseRTC.Cluster.Routing

open Foundations Option

/-- The cluster at one attempt, as far as the router and the nodes read it. -/
structure Env where
  now : Time
  /-- `ParticipantLocator.Lookup`. -/
  locator : ParticipantId → Option NodeId
  stateHealthy : Bool := true
  nodeStale : NodeId → Bool := fun _ => false
  /-- The state in a node's registry record. -/
  registry : NodeId → Option NodeState
  /-- The nodes the transport reaches. -/
  nodes : NodeId → Option Handler
  /-- The local delivery of the routing node. -/
  delivery : Option LocalDelivery

structure CachedLoc where
  nodeID : NodeId
  exp : Time
  deriving DecidableEq

/-- The seen ids of every node. -/
abbrev Seen := NodeId → GoMap String Time

/-- What a send or a route leaves behind: the seen ids, the calls of `DeliverToParticipant` with
their node and result, and its own result. -/
structure Outcome where
  seen : Seen
  calls : List (NodeId × ClusterMessage × Option Error)
  result : Option Error

/-! ## The transport -/

/-- `InMemoryMessageTransport.Send`: the handler's result, unchanged. -/
def send (e : Env) (n : NodeId) (seen : Seen) (m : ClusterMessage) : Outcome :=
  match e.registry n with
  | none =>
    ⟨seen, [], some { code := .clusterNodeNotFound, message := "target node is not registered",
                      nodeID := n }⟩
  | some st =>
    if !st.acceptsSessions then
      ⟨seen, [], some { code := .clusterNodeUnavailable,
                        message := "target node is not accepting operations", nodeID := n }⟩
    else
      match e.nodes n with
      | none =>
        ⟨seen, [], some { code := .clusterNodeNotFound, message := "unknown node", nodeID := n }⟩
      | some h =>
        let r := h.handle n e.now (seen n) (m.to n)
        ⟨Function.update seen n r.seen, r.calls.map fun c => (n, c), r.result⟩

/-! ## The router -/

/-- `locationCache.get`. -/
def cacheGet (now : Time) (cache : GoMap ParticipantId CachedLoc) (id : ParticipantId) :
    Option NodeId :=
  match cache.lookup id with
  | some v => if now > v.exp then none else some v.nodeID
  | none => none

/-- `participantRouter.isStale`. -/
def isStale (self : NodeId) (e : Env) (n : NodeId) : Bool := n ≠ self && e.nodeStale n

/-- `participantRouter.resolve`. What it writes to the cache is not read again by the call. -/
def resolve (self : NodeId) (e : Env) (cache : GoMap ParticipantId CachedLoc)
    (id : ParticipantId) : Except Error NodeId :=
  match (cacheGet e.now cache id).filter fun n => !isStale self e n with
  | some n => .ok n
  | none =>
    if !e.stateHealthy then
      .error (plainError .clusterStateUnavailable "cannot resolve participant location")
    else
      match e.locator id with
      | none => .error (plainError .participantNotFound "participant not found")
      | some n =>
        if isStale self e n then
          .error { code := .participantStale, message := "participant's node is stale",
                   nodeID := n, participantID := id }
        else .ok n

/-- The local branch of both attempts. -/
def deliverLocal (self : NodeId) (e : Env) (seen : Seen) (m : ClusterMessage) : Outcome :=
  match e.delivery with
  | none =>
    ⟨seen, [], some (plainError .participantNotFound "no local delivery configured")⟩
  | some d => ⟨seen, [(self, m.to self, d.deliverToParticipant (m.to self))],
      d.deliverToParticipant (m.to self)⟩

/-- `participantRouter.routeAfterRefresh`. -/
def routeAfterRefresh (self : NodeId) (e : Env) (id : ParticipantId) (seen : Seen)
    (m : ClusterMessage) : Outcome :=
  match e.locator id with
  | none =>
    ⟨seen, [], some { code := .participantNotFound, message := "participant not found",
                      participantID := id }⟩
  | some n =>
    if isStale self e n then
      ⟨seen, [], some { code := .participantStale, message := "participant's node is stale",
                        nodeID := n, participantID := id }⟩
    else if n = self then deliverLocal self e seen m
    else send e n seen m

/-- `participantRouter.Route` on the node `self`; `e` is the cluster at the first attempt, `e'` at
the second. -/
def route (self : NodeId) (e e' : Env) (cache : GoMap ParticipantId CachedLoc) (seen : Seen)
    (id : ParticipantId) (m : ClusterMessage) : Outcome :=
  match resolve self e cache id with
  | .error err => ⟨seen, [], some err⟩
  | .ok n =>
    let first := if n = self then deliverLocal self e seen m else send e n seen m
    -- without a local delivery the local branch returns at once
    if isNotFound first.result && (n ≠ self || e.delivery.isSome) then
      let second := routeAfterRefresh self e' id first.seen m
      { second with calls := first.calls ++ second.calls }
    else first

/-- Success is truthful: if the outcome is a success, `DeliverToParticipant` was called for the
message on some node, and succeeded. -/
def Truthful (m : ClusterMessage) (o : Outcome) : Prop :=
  o.result = none → ∃ n, (n, m.to n, none) ∈ o.calls

/-! ## When success is not truthful -/

/-- The node `n` takes the message: it is registered and accepting, reachable, and the envelope is
valid there. -/
def Admits (e : Env) (n : NodeId) (h : Handler) (m : ClusterMessage) : Prop :=
  (∃ st, e.registry n = some st ∧ st.acceptsSessions = true) ∧ e.nodes n = some h ∧
    (m.to n).validate e.now h.maxAge h.maxSize = none

/-- A message that is not for a participant, answered with success. -/
def OffParticipant (h : Handler) (n : NodeId) (m : ClusterMessage) : Prop :=
  m.type.participantScoped = false ∧ h.dispatch (m.to n) = none

/-- The first attempt, at node `n`, ends in `PARTICIPANT_NOT_FOUND` and is made again. -/
def Misses (self : NodeId) (e : Env) (n : NodeId) (m : ClusterMessage) : Prop :=
  if n = self then
    ∃ d, e.delivery = some d ∧ isNotFound (d.deliverToParticipant (m.to self)) = true
  else ∃ h, Admits e n h m ∧ isNotFound (h.dispatch (m.to n)) = true

/-- The second attempt goes to node `n'`, after a first one at `n`, and is answered with success
without a delivery: the node still has the id in its cache, or the message is not for a
participant. -/
def Swallows (e e' : Env) (n n' : NodeId) (m : ClusterMessage) : Prop :=
  ∃ h', Admits e' n' h' m ∧
    ((n' = n ∧ ∃ h, e.nodes n = some h ∧ e'.now < e.now + h.dedupTTL) ∨ OffParticipant h' n' m)

/-- The inputs on which `Route` reports a success that is none. -/
def Misled (self : NodeId) (e e' : Env) (cache : GoMap ParticipantId CachedLoc)
    (id : ParticipantId) (m : ClusterMessage) : Prop :=
  ∃ n, resolve self e cache id = .ok n ∧
    ((n ≠ self ∧ ∃ h, Admits e n h m ∧ OffParticipant h n m) ∨
      (Misses self e n m ∧ ∃ n', e'.locator id = some n' ∧ isStale self e' n' = false ∧
        n' ≠ self ∧ Swallows e e' n n' m))

/-! ## One send -/

variable {h : Handler} {m : ClusterMessage} {e e' : Env} {n self : NodeId} {seen : Seen}
  {id : ParticipantId}

/-- A dispatch that succeeds is a delivery, unless the message is not for a participant. -/
theorem mem_calls_of_dispatch (hs : m.type.participantScoped = true) (hd : h.dispatch m = none) :
    (m, none) ∈ h.calls m := by
  unfold Handler.calls
  unfold Handler.dispatch at hd
  cases ht : m.type <;> simp only [ht, MessageType.participantScoped, reduceCtorEq] at hs hd ⊢
  all_goals
    cases hdel : h.delivery with
    | none => simp [hdel] at hd
    | some d =>
      simp only [hdel] at hd
      simp [hd]

theorem calls_eq_nil (hs : m.type.participantScoped = false) :
    h.calls m = [] := by
  simp [Handler.calls, hs]

/-- The result of a call is the result of the dispatch. -/
theorem dispatch_of_mem_calls {m' : ClusterMessage} {r : Option Error} (hm : (m', r) ∈ h.calls m) :
    h.dispatch m = r := by
  unfold Handler.calls at hm
  unfold Handler.dispatch
  cases ht : m.type <;> simp only [ht, MessageType.participantScoped, if_true, if_false,
    Bool.false_eq_true, List.not_mem_nil] at hm
  all_goals
    cases hdel : h.delivery with
    | none => simp [hdel] at hm
    | some d =>
      simp only [hdel, List.mem_singleton, Prod.mk.injEq] at hm
      exact hm.2.symm

/-- A node that does not take the message answers with an error other than
`PARTICIPANT_NOT_FOUND`. -/
theorem send_refused (seen : Seen) (hno : ∀ h, ¬ Admits e n h m) :
    (send e n seen m).result ≠ none ∧ isNotFound (send e n seen m).result = false := by
  unfold send
  cases hreg : e.registry n with
  | none => simp [isNotFound]
  | some st =>
    by_cases hst : st.acceptsSessions = true
    · cases hnode : e.nodes n with
      | none => simp [hst, isNotFound]
      | some h =>
        cases hv : (m.to n).validate e.now h.maxAge h.maxSize with
        | none => exact absurd ⟨⟨st, hreg, hst⟩, hnode, hv⟩ (hno h)
        | some err =>
          have hnf := validate_not_isNotFound (m.to n) e.now h.maxAge h.maxSize
          rw [hv] at hnf
          simp [hst, handle_invalid hv, hnf]
    · simp [hst, isNotFound]

theorem send_fresh (ha : Admits e n h m) (hd : isDuplicate e.now (seen n) m.requestID = false) :
    send e n seen m =
      ⟨Function.update seen n ((seen n).insert m.requestID (e.now + h.dedupTTL)),
        (h.calls (m.to n)).map fun c => (n, c), h.dispatch (m.to n)⟩ := by
  obtain ⟨⟨st, hreg, hst⟩, hnode, hv⟩ := ha
  simp [send, hreg, hst, hnode, handle_fresh hv hd]

theorem send_duplicate (ha : Admits e n h m) (hd : isDuplicate e.now (seen n) m.requestID = true) :
    send e n seen m = ⟨seen, [], none⟩ := by
  obtain ⟨⟨st, hreg, hst⟩, hnode, hv⟩ := ha
  simp [send, hreg, hst, hnode, handle_duplicate hv hd]

/-- The handler of a node that takes a message is the node's. -/
theorem Admits.unique {h' : Handler} (ha : Admits e n h m) (ha' : Admits e n h' m) : h = h' :=
  mem_unique ha.2.1 ha'.2.1

/-- A send is truthful unless the node answers a duplicate or a message that is not for a
participant. -/
theorem send_truthful_iff (e : Env) (n : NodeId) (seen : Seen) (m : ClusterMessage) :
    Truthful m (send e n seen m) ↔
      ¬ ∃ h, Admits e n h m ∧
        (isDuplicate e.now (seen n) m.requestID = true ∨ OffParticipant h n m) := by
  by_cases hex : ∃ h, Admits e n h m
  · obtain ⟨h, ha⟩ := hex
    cases hd : isDuplicate e.now (seen n) m.requestID with
    | true =>
      refine iff_of_false (fun ht => ?_) fun hno => hno ⟨h, ha, .inl rfl⟩
      rw [send_duplicate ha hd] at ht
      simpa using ht rfl
    | false =>
      rw [send_fresh ha hd]
      cases hs : m.type.participantScoped with
      | true =>
        refine iff_of_true (fun hnone => ?_) ?_
        · exact ⟨n, List.mem_map.2 ⟨_, mem_calls_of_dispatch hs hnone, rfl⟩⟩
        · rintro ⟨h', -, hdup | ⟨hoff, -⟩⟩
          · cases hdup
          · rw [hs] at hoff
            cases hoff
      | false =>
        have hcalls : h.calls (m.to n) = [] := calls_eq_nil hs
        constructor
        · rintro ht ⟨h', ha', hdup | ⟨-, hoff⟩⟩
          · cases hdup
          · rw [ha'.unique ha] at hoff
            simpa [hcalls] using ht hoff
        · exact fun hno hnone => absurd ⟨h, ha, .inr ⟨hs, hnone⟩⟩ hno
  · have hno : ∀ h, ¬ Admits e n h m := fun h ha => hex ⟨h, ha⟩
    refine iff_of_true (fun hnone => absurd hnone (send_refused seen hno).1) ?_
    rintro ⟨h, ha, -⟩
    exact hno h ha

theorem deliverLocal_truthful (self : NodeId) (e : Env) (seen : Seen) (m : ClusterMessage) :
    Truthful m (deliverLocal self e seen m) := by
  intro hnone
  unfold deliverLocal at hnone ⊢
  cases hdel : e.delivery with
  | none => simp [hdel] at hnone
  | some d =>
    simp only [hdel] at hnone
    exact ⟨self, by simp [hnone]⟩

/-- The second attempt is truthful unless its node answers a duplicate or a message that is not
for a participant. -/
theorem refresh_truthful_iff (self : NodeId) (e : Env) (id : ParticipantId) (seen : Seen)
    (m : ClusterMessage) :
    Truthful m (routeAfterRefresh self e id seen m) ↔
      ¬ ∃ n, e.locator id = some n ∧ isStale self e n = false ∧ n ≠ self ∧
        ∃ h, Admits e n h m ∧
          (isDuplicate e.now (seen n) m.requestID = true ∨ OffParticipant h n m) := by
  unfold routeAfterRefresh
  cases hloc : e.locator id with
  | none => simp [Truthful]
  | some n =>
    simp only [some.injEq]
    by_cases hst : isStale self e n = true
    · simp only [hst, if_true]
      refine iff_of_true (fun hnone => by cases hnone) ?_
      rintro ⟨n', rfl, hst', -⟩
      rw [hst] at hst'
      cases hst'
    · rw [if_neg hst]
      by_cases hself : n = self
      · rw [if_pos hself]
        refine iff_of_true (deliverLocal_truthful self e seen m) ?_
        rintro ⟨n', rfl, -, hne, -⟩
        exact hne hself
      · rw [if_neg hself, send_truthful_iff]
        refine not_congr ⟨fun h => ⟨n, rfl, by simpa using hst, hself, h⟩, ?_⟩
        rintro ⟨n', rfl, -, -, h⟩
        exact h

/-! ## The route -/

variable {calls : List (NodeId × ClusterMessage × Option Error)}
  {cache : GoMap ParticipantId CachedLoc}

/-- Calls that failed do not make a success truthful. -/
theorem truthful_append {o : Outcome} (hf : ∀ c ∈ calls, c.2.2 ≠ none) :
    Truthful m { o with calls := calls ++ o.calls } ↔ Truthful m o := by
  refine imp_congr_right fun _ => exists_congr fun n => ?_
  rw [List.mem_append, or_iff_right]
  exact fun hmem => hf _ hmem rfl

theorem isDuplicate_new {now : Time} {seen : GoMap String Time} {id : String}
    (h : seen.lookup id = none) : isDuplicate now seen id = false := by
  simp [isDuplicate, h]

theorem isDuplicate_marked {id : String} (hfresh : ∀ n, (seen n).lookup id = none) (n n' : NodeId)
    (exp now : Time) :
    isDuplicate now (Function.update seen n ((seen n).insert id exp) n') id = true ↔
      n' = n ∧ now < exp := by
  by_cases hn : n' = n
  · subst hn
    simp [isDuplicate]
  · simp [isDuplicate, hn, hfresh n']

/-- The second attempt after a failed first one at `n`, given which nodes have the id. -/
theorem retry_truthful_iff (hf : ∀ c ∈ calls, c.2.2 ≠ none)
    (hdup : ∀ n', n' ≠ self → (isDuplicate e'.now (seen n') m.requestID = true ↔
      n' = n ∧ ∃ h, e.nodes n = some h ∧ e'.now < e.now + h.dedupTTL)) :
    Truthful m { routeAfterRefresh self e' id seen m with
        calls := calls ++ (routeAfterRefresh self e' id seen m).calls } ↔
      ¬ ∃ n', e'.locator id = some n' ∧ isStale self e' n' = false ∧ n' ≠ self ∧
        Swallows e e' n n' m := by
  rw [truthful_append hf, refresh_truthful_iff]
  refine not_congr (exists_congr fun n' => and_congr_right fun _ => and_congr_right fun _ =>
    and_congr_right fun hne => ?_)
  unfold Swallows
  rw [hdup n' hne]

/-- A route whose first attempt is local. -/
theorem route_local_iff
    (hfresh : ∀ n, (seen n).lookup m.requestID = none) (hres : resolve self e cache id = .ok self) :
    Truthful m (route self e e' cache seen id m) ↔
      ¬ (Misses self e self m ∧ ∃ n', e'.locator id = some n' ∧ isStale self e' n' = false ∧
        n' ≠ self ∧ Swallows e e' self n' m) := by
  simp only [route, hres, if_true, Misses, ne_eq, not_true_eq_false, decide_false, Bool.false_or]
  cases hdel : e.delivery with
  | none =>
    simp only [isSome_none, Bool.and_false, Bool.false_eq_true, if_false]
    exact iff_of_true (deliverLocal_truthful self e seen m) (by simp)
  | some d =>
    simp only [isSome_some, Bool.and_true, some.injEq, exists_eq_left', deliverLocal, hdel]
    cases hnf : isNotFound (d.deliverToParticipant (m.to self)) with
    | false =>
      simp only [Bool.false_eq_true, if_false, false_and, not_false_eq_true, iff_true]
      exact fun hnone => ⟨self, by simpa using hnone.symm⟩
    | true =>
      simp only [if_true, true_and]
      refine retry_truthful_iff ?_ fun n' hne => ?_
      · rintro c hc hnone
        rw [List.mem_singleton.1 hc] at hnone
        simp only at hnone
        simp [hnone, isNotFound] at hnf
      · simp [isDuplicate_new (hfresh n'), hne]

/-- A route whose first attempt is at another node. -/
theorem route_remote_iff
    (hfresh : ∀ n, (seen n).lookup m.requestID = none) (hres : resolve self e cache id = .ok n)
    (hne : n ≠ self) : Truthful m (route self e e' cache seen id m) ↔
      ¬ ((∃ h, Admits e n h m ∧ OffParticipant h n m) ∨
        (Misses self e n m ∧ ∃ n', e'.locator id = some n' ∧ isStale self e' n' = false ∧
          n' ≠ self ∧ Swallows e e' n n' m)) := by
  have hnew : isDuplicate e.now (seen n) m.requestID = false := isDuplicate_new (hfresh n)
  simp only [route, hres, hne, if_false, ne_eq, not_false_eq_true, decide_true, Bool.true_or,
    Bool.and_true, Misses]
  by_cases hex : ∃ h, Admits e n h m
  · obtain ⟨h, ha⟩ := hex
    have hmiss : (∃ h, Admits e n h m ∧ isNotFound (h.dispatch (m.to n)) = true) ↔
        isNotFound (h.dispatch (m.to n)) = true :=
      ⟨fun ⟨h', ha', hnf⟩ => ha'.unique ha ▸ hnf, fun hnf => ⟨h, ha, hnf⟩⟩
    rw [hmiss]
    cases hnf : isNotFound (h.dispatch (m.to n)) with
    | false =>
      have hsend : isNotFound (send e n seen m).result = false := by rw [send_fresh ha hnew, hnf]
      simp only [hsend, Bool.false_eq_true, if_false, false_and, or_false]
      rw [send_truthful_iff, hnew]
      simp
    | true =>
      have hsend : isNotFound (send e n seen m).result = true := by rw [send_fresh ha hnew, hnf]
      have hoff : ¬ ∃ h, Admits e n h m ∧ OffParticipant h n m := by
        rintro ⟨h', ha', -, hnone⟩
        rw [ha'.unique ha] at hnone
        simp [hnone, isNotFound] at hnf
      simp only [hsend, if_true, true_and, hoff, false_or]
      refine retry_truthful_iff ?_ fun n' _ => ?_
      · rintro c hc hnone
        rw [send_fresh ha hnew] at hc
        obtain ⟨⟨m', r⟩, hmem, rfl⟩ := List.mem_map.1 hc
        obtain rfl : r = none := hnone
        simp [dispatch_of_mem_calls hmem, isNotFound] at hnf
      · rw [send_fresh ha hnew, isDuplicate_marked hfresh]
        simp [ha.2.1]
  · have hno : ∀ h, ¬ Admits e n h m := fun h ha => hex ⟨h, ha⟩
    obtain ⟨hres', hnf⟩ := send_refused seen hno
    simp only [hnf, Bool.false_eq_true, if_false]
    refine iff_of_true (fun hnone => absurd hnone hres') ?_
    rintro (⟨h, ha, -⟩ | ⟨⟨h, ha, -⟩, -⟩) <;> exact hno h ha

/-- **When a route is truthful**: for a message with a new request id, in any cluster, success
means a successful `DeliverToParticipant` exactly when the route is not `Misled`. -/
theorem route_truthful_iff (self : NodeId) (e e' : Env) (cache : GoMap ParticipantId CachedLoc)
    (seen : Seen) (id : ParticipantId) (m : ClusterMessage)
    (hfresh : ∀ n, (seen n).lookup m.requestID = none) :
    Truthful m (route self e e' cache seen id m) ↔ ¬ Misled self e e' cache id m := by
  unfold Misled
  cases hres : resolve self e cache id with
  | error err => simp [Truthful, route, hres]
  | ok n =>
    simp only [Except.ok.injEq, exists_eq_left']
    by_cases hself : n = self
    · subst hself
      rw [route_local_iff hfresh hres]
      simp
    · rw [route_remote_iff hfresh hres hself]
      simp [hself]

/-! ## A stale location -/

/-- Node `b` is `READY`, and the locator says that everybody is on it; `connected` is who is. -/
def onB (now : Time) (connected : ParticipantId → Bool) : Env where
  now := now
  locator _ := some "b"
  registry n := if n = "b" then some .ready else none
  nodes n := if n = "b" then some { delivery := some (clusterDelivery connected) } else none
  delivery := some (clusterDelivery fun _ => false)

/-- A message for the participant `p`, sent a thousand seconds after the epoch. -/
def toP : ClusterMessage where
  type := .participantMessage
  requestID := "q"
  sourceNodeID := "a"
  timestamp := 1000000
  participantID := "p"

/-- With `p` connected to `b`, the route from `a` is truthful. -/
theorem route_truthful_iff_connected :
    ¬ Misled "a" (onB (1000 * second) (· = "p")) (onB (1001 * second) (· = "p")) ∅ "p" toP := by
  refine (route_truthful_iff "a" _ _ ∅ (fun _ => ∅) "p" toP fun _ => rfl).1 fun _ => ⟨"b", ?_⟩
  decide +kernel

/-- **A lost message**: the locator still points at `b`, which no longer has `p`. The first attempt
is answered with `PARTICIPANT_NOT_FOUND`, the second, a second later, with the success of a
duplicate. -/
theorem lost_message :
    (route "a" (onB (1000 * second) fun _ => false) (onB (1001 * second) fun _ => false) ∅
        (fun _ => ∅) "p" toP).result = none ∧
    ¬ Truthful toP (route "a" (onB (1000 * second) fun _ => false)
        (onB (1001 * second) fun _ => false) ∅ (fun _ => ∅) "p" toP) := by
  have hresult : (route "a" (onB (1000 * second) fun _ => false)
      (onB (1001 * second) fun _ => false) ∅ (fun _ => ∅) "p" toP).result = none := by
    decide +kernel
  have hcalls : ∀ c ∈ (route "a" (onB (1000 * second) fun _ => false)
      (onB (1001 * second) fun _ => false) ∅ (fun _ => ∅) "p" toP).calls, c.2.2 ≠ none := by
    decide +kernel
  refine ⟨hresult, ?_⟩
  intro ht
  obtain ⟨n, hn⟩ := ht hresult
  exact hcalls _ hn rfl

end PulseRTC.Cluster.Routing
