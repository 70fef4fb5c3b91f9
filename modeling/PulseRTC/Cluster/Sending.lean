import PulseRTC.Cluster.Replay

/-!
# Sending with retries

`HTTPMessageTransport.Send` posts a message to a peer up to `retries() + 1` times, until a post is
answered with success or with an error that a retry would not fix. On the way a post may be lost
before the peer's `Handle` runs, or after it.

The peer marks the id of a message as seen before its component is called, and answers every later
post of the same message with success. So a post that is answered with success does not say that
the component succeeded, only that some post reached it: `retried_send_truthful_iff` says when a
successful `Send` means that the message was processed.
-/

namespace PulseRTC.Cluster.Sending

open Foundations Replay List

/-! ## The sender -/

/-- `transportDeps`: the limits of a transport. -/
structure TransportDeps where
  maxRetries : ℤ
  maxSize : ℤ
  deriving DecidableEq

def TransportDeps.retries (d : TransportDeps) : ℕ :=
  if d.maxRetries ≤ 0 then 2 else d.maxRetries.toNat

/-- `resolveReadyNode`, given the state in the node's registry record. -/
def resolveReadyNode (nodeID : NodeId) : Option NodeState → Option Error
  | none =>
    some { code := .clusterNodeNotFound, message := "target node is not registered", nodeID }
  | some state =>
    if state.acceptsSessions then none
    else some { code := .clusterNodeUnavailable,
                message := "target node is not accepting operations", nodeID }

/-- `Error.HTTPStatus`. -/
def httpStatus : ErrorCode → ℕ
  | .clusterMessageInvalid | .badRequest | .clusterMessageExpired => 400
  | .clusterUnauthorized => 401
  | .participantNotFound | .clusterNodeNotFound => 404
  | .clusterTargetMismatch | .ownershipConflict => 409
  | .clusterMessageTooLarge => 413
  | .clusterNodeUnavailable | .clusterStateUnavailable | .participantStale => 503
  | _ => 500

/-- The codes that `Send` does not retry. -/
def permanent : ErrorCode → Bool
  | .clusterMessageInvalid | .clusterMessageTooLarge | .clusterMessageExpired
  | .clusterTargetMismatch | .participantNotFound | .clusterUnauthorized => true
  | _ => false

/-! ## The peer -/

/-- The peer during a `Send`: its limits, and its local components at each attempt. -/
structure Peer where
  maxAge : Time := 30 * second
  maxSize : ℤ := 64 * 1024
  delivery : ℕ → Option LocalDelivery
  media : ℕ → Option (ClusterMessage → Option Error)

/-- The handler of the peer at an attempt. -/
def Peer.handler (p : Peer) (i : ℕ) : Handler :=
  newHandler p.maxAge p.maxSize (p.delivery i) (p.media i)

/-- What the attempts leave behind at the peer: its seen ids, and the results of the calls of its
delivery or media handler for the message. -/
structure PeerState where
  seen : GoMap String Time
  invoked : List (Option Error) := []

/-- `Handle` at the peer, with its two readings of the clock. -/
def Peer.handle (p : Peer) (self : NodeId) (m : ClusterMessage) (i : ℕ) (tv tm : Time)
    (s : PeerState) : PeerState × Option Error :=
  let out := handleAt (p.handler i) self tv tm s.seen m
  (⟨out.seen, s.invoked ++ out.invoked.map fun _ => out.result⟩, out.result)

/-! ## The attempts -/

/-- What becomes of a post. -/
inductive Fate
  /-- Lost before `Handle` runs; the request times out or fails. -/
  | lostBefore (timedOut : Bool)
  /-- `Handle` runs, the answer is lost. -/
  | lostAfter (tv tm : Time) (timedOut : Bool)
  /-- `Handle` runs, and its result is the answer. -/
  | answered (tv tm : Time)
  deriving DecidableEq

/-- An attempt; `cancelled` if the context is done in the pause before it. -/
structure Attempt where
  cancelled : Bool := false
  fate : Fate
  deriving DecidableEq

/-- The result of `post`: success, an `Error`, or an error of the network. -/
inductive Posted
  | ok
  | failed (e : Error)
  | network
  deriving DecidableEq

/-- The result of a post without an answer. -/
def unanswered (timedOut : Bool) : Posted :=
  if timedOut then .failed (plainError .clusterNodeUnavailable "request timed out") else .network

/-- The result of an answered post. -/
def answer : Option Error → Posted
  | none => .ok
  | some e =>
    .failed (plainError e.code ("peer returned " ++ toString (httpStatus e.code)))

/-- `post`, with what the attempt does at the peer. -/
def post (p : Peer) (nodeID : NodeId) (m : ClusterMessage) (i : ℕ) (fate : Fate)
    (s : PeerState) : PeerState × Posted :=
  match fate with
  | .lostBefore timedOut => (s, unanswered timedOut)
  | .lostAfter tv tm timedOut => ((p.handle nodeID m i tv tm s).1, unanswered timedOut)
  | .answered tv tm =>
    ((p.handle nodeID m i tv tm s).1, answer (p.handle nodeID m i tv tm s).2)

/-- The error after the last attempt. -/
def lastError (nodeID : NodeId) : Posted → Error
  | .failed e => e
  | .ok | .network =>
    { code := .clusterNodeUnavailable, message := "remote node unreachable", nodeID }

/-- The loop of `Send`: the attempts left, the number of the next one, the last result. -/
def attempts (p : Peer) (nodeID : NodeId) (m : ClusterMessage) (net : ℕ → Attempt) :
    ℕ → ℕ → Posted → PeerState → PeerState × Option Error
  | 0, _, last, s => (s, some (lastError nodeID last))
  | k + 1, i, _, s =>
    if 0 < i ∧ (net i).cancelled then
      (s, some { code := .clusterNodeUnavailable, message := "context cancelled during retry",
                 nodeID })
    else
      match post p nodeID m i (net i).fate s with
      | (s', .ok) => (s', none)
      | (s', .failed e) =>
        if permanent e.code then (s', some e) else attempts p nodeID m net k (i + 1) (.failed e) s'
      | (s', .network) => attempts p nodeID m net k (i + 1) .network s'

/-- `HTTPMessageTransport.Send`, given the registry's answer and the length of the encoded message
(`none` if it cannot be encoded). -/
def send (d : TransportDeps) (p : Peer) (nodeID : NodeId) (registry : Option NodeState)
    (encode : ClusterMessage → Option ℕ) (m : ClusterMessage) (net : ℕ → Attempt)
    (seen : GoMap String Time) : PeerState × Option Error :=
  match resolveReadyNode nodeID registry with
  | some e => (⟨seen, []⟩, some e)
  | none =>
    match encode (m.to nodeID) with
    | none => (⟨seen, []⟩, some (plainError .clusterMessageInvalid "cannot encode message"))
    | some size =>
      if 0 < d.maxSize ∧ d.maxSize < size then
        (⟨seen, []⟩, some (plainError .clusterMessageTooLarge "message exceeds cluster max size"))
      else attempts p nodeID (m.to nodeID) net (d.retries + 1) 0 .network ⟨seen, []⟩

/-! ## One call of `Handle` -/

variable {m : ClusterMessage} {p : Peer} {n : NodeId}

/-- A component that succeeds was called. -/
theorem invokes_of_dispatch {h : Handler} (hd : h.dispatch m = none) :
    invokes h m = true := by
  unfold Handler.dispatch at hd
  unfold invokes
  cases ht : m.type with
  | media t => cases hm : h.media <;> simp [ht, hm] at hd ⊢
  | participantMessage | participantDisconnect | participantControl | roomEvent | other text =>
    cases hm : h.delivery <;> simp [ht, hm] at hd ⊢

section Handle

variable (p : Peer) (n : NodeId) (m : ClusterMessage) (i : ℕ) (tv tm : Time) (s : PeerState)

/-- What `Handle` does with a message addressed to the node: refuse it, answer a duplicate, or mark
its id and call the component. -/
theorem handle_cases :
    (∃ e, (m.to n).validate tv p.maxAge p.maxSize = some e ∧
      p.handle n (m.to n) i tv tm s = (s, some e)) ∨
    ((m.to n).validate tv p.maxAge p.maxSize = none ∧
      isDuplicate tm s.seen m.requestID = true ∧ p.handle n (m.to n) i tv tm s = (s, none)) ∨
    ((m.to n).validate tv p.maxAge p.maxSize = none ∧ isDuplicate tm s.seen m.requestID = false ∧
      p.handle n (m.to n) i tv tm s =
        (⟨s.seen.insert m.requestID (tm + dedupTTL p.maxAge), s.invoked ++
            if invokes (p.handler i) (m.to n) then [(p.handler i).dispatch (m.to n)] else []⟩,
          (p.handler i).dispatch (m.to n))) := by
  have htarget : ¬ (m.to n).targetNodeID ≠ n := fun h => h rfl
  have hid : (m.to n).requestID = m.requestID := rfl
  unfold Peer.handle handleAt
  cases hv : (m.to n).validate tv p.maxAge p.maxSize with
  | some e =>
    refine .inl ⟨e, rfl, ?_⟩
    simp [Peer.handler, newHandler, hv]
  | none =>
    have hv' : (m.to n).validate tv (p.handler i).maxAge (p.handler i).maxSize = none := hv
    refine .inr ?_
    simp only [hv', htarget, if_false, markSeen_eq, hid]
    cases hd : isDuplicate tm s.seen m.requestID with
    | true => exact .inl ⟨trivial, rfl, by simp⟩
    | false =>
      refine .inr ⟨trivial, rfl, ?_⟩
      cases invokes (p.handler i) (m.to n) <;> simp [Peer.handler, newHandler]

end Handle

theorem not_isDuplicate {now : Time} {seen : GoMap String Time} {id : String}
    (h : seen.lookup id = none) : isDuplicate now seen id = false := by
  unfold isDuplicate
  rw [h]

theorem dedupTTL_pos (maxAge : Time) : 0 < dedupTTL maxAge := by
  unfold dedupTTL
  split_ifs with h
  · decide
  · exact not_le.1 h

/-! ## The attempts of a `Send` -/

section Attempts

variable {p : Peer} {n : NodeId} {m : ClusterMessage} {net : ℕ → Attempt}

/-- What a post does at the peer: nothing, or one call of `Handle`; and it succeeds only on the
answer of a `Handle` that did. -/
theorem post_cases (i : ℕ) (fate : Fate) (s : PeerState) :
    ((post p n m i fate s).1 = s ∧ (post p n m i fate s).2 ≠ .ok) ∨
    ∃ tv tm, (post p n m i fate s).1 = (p.handle n m i tv tm s).1 ∧
      ((post p n m i fate s).2 = .ok → (p.handle n m i tv tm s).2 = none) := by
  have hlost : ∀ b, unanswered b ≠ .ok := by
    intro b
    cases b <;> exact nofun
  cases fate with
  | lostBefore b => exact .inl ⟨rfl, hlost b⟩
  | lostAfter tv tm b => exact .inr ⟨tv, tm, rfl, fun h => absurd h (hlost b)⟩
  | answered tv tm =>
    refine .inr ⟨tv, tm, rfl, ?_⟩
    intro h
    cases hr : (p.handle n m i tv tm s).2 with
    | none => rfl
    | some e =>
      simp only [post, hr, answer] at h
      cases h

/-- The rule for the loop: what each of the posts keeps holds when one of them is answered with
success, and so at the end of a `Send` that succeeds. -/
theorem attempts_ok {N : ℕ} {I : ℕ → PeerState → Prop} {R : PeerState → Prop}
    (hkeep : ∀ i s, i < N → I i s → I (i + 1) (post p n m i (net i).fate s).1)
    (hok : ∀ i s, i < N → I i s → (post p n m i (net i).fate s).2 = .ok →
      R (post p n m i (net i).fate s).1) :
    ∀ k i last s, i + k ≤ N → I i s → (attempts p n m net k i last s).2 = none →
      R (attempts p n m net k i last s).1 := by
  intro k
  induction k with
  | zero => exact fun _ _ _ _ _ h => by cases h
  | succ k ih =>
    intro i last s hi hI h
    unfold attempts at h ⊢
    split_ifs at h ⊢ with hcancel
    rcases hpost : post p n m i (net i).fate s with ⟨s', r⟩
    have hI' := hkeep i s (by omega) hI
    have hR := hok i s (by omega) hI
    rw [hpost] at hI' hR
    simp only [hpost] at h ⊢
    cases r with
    | ok => exact hR rfl
    | network => exact ih _ _ _ (by omega) hI' h
    | failed e =>
      simp only at h ⊢
      split_ifs at h ⊢ with hperm
      exact ih _ _ _ (by omega) hI' h

end Attempts

def Processed (m : ClusterMessage) (s : PeerState) : Prop :=
  s.seen.lookup m.requestID ≠ none → none ∈ s.invoked

section Posts

variable {p : Peer} {n : NodeId} {m : ClusterMessage} {i : ℕ} {fate : Fate} {s : PeerState}

/-- A post keeps that, if the component does not fail on the message. -/
theorem post_processed (hd : (p.handler i).dispatch (m.to n) = none) (hs : Processed m s) :
    Processed m (post p n (m.to n) i fate s).1 := by
  rcases post_cases (p := p) (n := n) (m := m.to n) i fate s with ⟨hsame, -⟩ | ⟨tv, tm, hpost, -⟩
  · rw [hsame]
    exact hs
  rw [hpost]
  rcases handle_cases p n m i tv tm s with ⟨e, -, h⟩ | ⟨-, -, h⟩ | ⟨-, -, h⟩
  · rw [h]
    exact hs
  · rw [h]
    exact hs
  · rw [h, hd, if_pos (invokes_of_dispatch hd)]
    exact fun _ => mem_append_right _ (mem_singleton.2 rfl)

/-- A post that succeeds on a message seen only if processed leaves it processed. -/
theorem mem_invoked_of_post (hs : Processed m s) (hok : (post p n (m.to n) i fate s).2 = .ok) :
    none ∈ (post p n (m.to n) i fate s).1.invoked := by
  rcases post_cases (p := p) (n := n) (m := m.to n) i fate s with ⟨-, hno⟩ | ⟨tv, tm, hpost, hres⟩
  · exact absurd hok hno
  have hnone := hres hok
  rw [hpost]
  rcases handle_cases p n m i tv tm s with ⟨e, -, h⟩ | ⟨-, hdup, h⟩ | ⟨-, -, h⟩
  · rw [h] at hnone
    cases hnone
  · rw [h]
    refine hs fun hlookup => ?_
    rw [not_isDuplicate hlookup] at hdup
    cases hdup
  · rw [h] at hnone ⊢
    simp only at hnone
    rw [hnone, if_pos (invokes_of_dispatch hnone)]
    exact mem_append_right _ (mem_singleton.2 rfl)

/-- A post of a message that the peer never accepts does not succeed. -/
theorem post_ne_ok (hv : ∀ tv, (m.to n).validate tv p.maxAge p.maxSize ≠ none) :
    (post p n (m.to n) i fate s).2 ≠ .ok := by
  intro hok
  rcases post_cases (p := p) (n := n) (m := m.to n) i fate s with ⟨-, hno⟩ | ⟨tv, tm, -, hres⟩
  · exact hno hok
  rcases handle_cases p n m i tv tm s with ⟨e, -, h⟩ | ⟨hacc, -⟩ | ⟨hacc, -⟩
  · have hnone := hres hok
    rw [h] at hnone
    cases hnone
  · exact hv tv hacc
  · exact hv tv hacc

end Posts

/-! ## A failure that is taken for a success -/

/-- The first posts are lost, then one reaches the peer and its answer is lost, and the next one
is answered. -/
def lossy (i : ℕ) (t : Time) (j : ℕ) : Attempt where
  fate := if j < i then .lostBefore false else if j = i then .lostAfter t t false
    else .answered t t

/-- The answer to the message marked at the lossy post is that to a duplicate. -/
theorem attempts_lossy {i : ℕ} {t : Time} (hv : (m.to n).validate t p.maxAge p.maxSize = none)
    (hd : (p.handler i).dispatch (m.to n) ≠ none) {s : PeerState}
    (hfresh : s.seen.lookup m.requestID = none) (hno : none ∉ s.invoked) :
    ∀ l j k last, j + l = i → l + 2 ≤ k →
      (attempts p n (m.to n) (lossy i t) k j last s).2 = none ∧
        none ∉ (attempts p n (m.to n) (lossy i t) k j last s).1.invoked := by
  intro l
  induction l with
  | zero =>
    intro j k last hj hk
    obtain rfl : j = i := by omega
    obtain ⟨k, rfl⟩ : ∃ k', k = k' + 2 := ⟨k - 2, by omega⟩
    rcases handle_cases p n m j t t s with ⟨e, he, -⟩ | ⟨-, hdup, -⟩ | ⟨-, -, h⟩
    · rw [hv] at he
      cases he
    · rw [not_isDuplicate hfresh] at hdup
      cases hdup
    -- the id is marked, the component fails, and the next post finds the id
    set s' : PeerState := (p.handle n (m.to n) j t t s).1 with hs'
    have hseen : s'.seen.lookup m.requestID = some (t + dedupTTL p.maxAge) := by
      rw [hs', h]
      simp
    have hinvoked : none ∉ s'.invoked := by
      rw [hs', h]
      simp only [mem_append, not_or]
      refine ⟨hno, ?_⟩
      split_ifs
      · exact fun hmem => hd (mem_singleton.1 hmem).symm
      · exact not_mem_nil
    have hdup : isDuplicate t s'.seen m.requestID = true := by
      simp [isDuplicate, hseen, dedupTTL_pos]
    have hagain : p.handle n (m.to n) (j + 1) t t s' = (s', none) := by
      rcases handle_cases p n m (j + 1) t t s' with ⟨e, he, -⟩ | ⟨-, -, h⟩ | ⟨-, hnot, -⟩
      · rw [hv] at he
        cases he
      · exact h
      · rw [hdup] at hnot
        cases hnot
    have hlost : post p n (m.to n) j (lossy j t j).fate s = (s', .network) := by
      simp [lossy, post, unanswered, hs']
    have hanswered : post p n (m.to n) (j + 1) (lossy j t (j + 1)).fate s' = (s', .ok) := by
      rw [show (lossy j t (j + 1)).fate = .answered t t by simp [lossy]]
      simp [post, hagain, answer]
    have hgoes : ∀ i, ¬ (0 < i ∧ (lossy j t i).cancelled = true) := by simp [lossy]
    simp only [attempts, if_neg (hgoes _), hlost, hanswered]
    exact ⟨trivial, hinvoked⟩
  | succ l ih =>
    intro j k last hj hk
    obtain ⟨k, rfl⟩ : ∃ k', k = k' + 1 := ⟨k - 1, by omega⟩
    have hfate : (lossy i t j).fate = .lostBefore false := if_pos (by omega)
    unfold attempts
    rw [if_neg (by simp [lossy])]
    simp only [hfate, post, unanswered]
    exact ih (j + 1) k _ (by omega) (by omega)

/-! ## What a successful `Send` means -/

/-- `Send` fails before its first attempt. -/
def Refused (d : TransportDeps) (nodeID : NodeId) (registry : Option NodeState)
    (encode : ClusterMessage → Option ℕ) (m : ClusterMessage) : Prop :=
  resolveReadyNode nodeID registry ≠ none ∨
    ∀ size, encode (m.to nodeID) = some size → 0 < d.maxSize ∧ d.maxSize < size

variable {encode : ClusterMessage → Option ℕ} {registry : Option NodeState} {d : TransportDeps}

theorem send_of_refused (h : Refused d n registry encode m) (net : ℕ → Attempt)
    (seen : GoMap String Time) : (send d p n registry encode m net seen).2 ≠ none := by
  unfold send
  cases hr : resolveReadyNode n registry with
  | some e => exact nofun
  | none =>
    have hsize := h.resolve_left (fun hne => hne hr)
    cases he : encode (m.to n) with
    | none => exact nofun
    | some size =>
      simp only [if_pos (hsize size he)]
      exact nofun

theorem send_of_not_refused (h : ¬ Refused d n registry encode m) (net : ℕ → Attempt)
    (seen : GoMap String Time) : send d p n registry encode m net seen =
      attempts p n (m.to n) net (d.retries + 1) 0 .network ⟨seen, []⟩ := by
  unfold Refused at h
  push Not at h
  obtain ⟨hr, size, he, hsize⟩ := h
  unfold send
  simp only [hr, he]
  rw [if_neg (by omega)]

/-- **What a successful `Send` means.** For a message with a fresh id, a successful `Send` says
that the peer's delivery or media handler was called for the message and succeeded, whatever the
network does, exactly if `Send` is refused anyhow, the peer accepts the message at no time, or the
component does not fail on it at any attempt that can be followed by another. -/
theorem retried_send_truthful_iff (d : TransportDeps) (p : Peer) (n : NodeId)
    (registry : Option NodeState) (encode : ClusterMessage → Option ℕ) (m : ClusterMessage)
    (seen : GoMap String Time) (hfresh : seen.lookup m.requestID = none) :
    (∀ net : ℕ → Attempt, (send d p n registry encode m net seen).2 = none →
      none ∈ (send d p n registry encode m net seen).1.invoked) ↔
    Refused d n registry encode m ∨
      (∀ t, (m.to n).validate t p.maxAge p.maxSize ≠ none) ∨
      ∀ i < d.retries, (p.handler i).dispatch (m.to n) = none := by
  constructor
  · intro htrue
    by_contra hno
    push Not at hno
    obtain ⟨hgoes, ⟨t, hv⟩, i, hi, hd⟩ := hno
    have hlossy := attempts_lossy hv hd (s := ⟨seen, []⟩) hfresh not_mem_nil i 0
      (d.retries + 1) .network (by omega) (by omega)
    have hsend := htrue (lossy i t)
    rw [send_of_not_refused hgoes] at hsend
    exact hlossy.2 (hsend hlossy.1)
  · intro h net hnone
    by_cases hgoes : Refused d n registry encode m
    · exact absurd hnone (send_of_refused hgoes net seen)
    rw [send_of_not_refused hgoes] at hnone ⊢
    rcases h.resolve_left hgoes with hv | hd
    · exact attempts_ok (N := d.retries + 1) (I := fun _ _ => True)
        (R := fun s => none ∈ s.invoked) (fun _ _ _ _ => trivial)
        (fun i s _ _ hok => absurd hok (post_ne_ok hv)) _ _ _ _ (by omega) trivial hnone
    · refine attempts_ok (N := d.retries + 1)
        (I := fun i s => i ≤ d.retries → Processed m s) (R := fun s => none ∈ s.invoked) ?_ ?_
        _ _ _ _ (by omega) ?_ hnone
      · intro i s hi hs hnext
        exact post_processed (hd i (by omega)) (hs (by omega))
      · intro i s hi hs hok
        exact mem_invoked_of_post (hs (by omega)) hok
      · exact fun _ hlookup => absurd hfresh hlookup

/-- The default number of retries. -/
def defaultDeps : TransportDeps := ⟨0, 64 * 1024⟩

/-- A peer with the participant `u` connected, and no media bridge. -/
def peerU : Peer where
  delivery := fun _ => some (clusterDelivery fun id => id = "u")
  media := fun _ => none

/-- A message for `u`. -/
def messageU : ClusterMessage where
  type := .participantMessage
  requestID := "q"
  sourceNodeID := "a"
  timestamp := 1000
  participantID := "u"

/-- A message to a participant who stays connected is processed when `Send` succeeds, here at the
first post. -/
theorem send_truthful_connected :
    (send defaultDeps peerU "b" (some .ready) (fun _ => some 200) messageU
        (fun _ => { fate := .answered (2 * second) (2 * second) }) ∅).2 = none ∧
    none ∈ (send defaultDeps peerU "b" (some .ready) (fun _ => some 200) messageU
        (fun _ => { fate := .answered (2 * second) (2 * second) }) ∅).1.invoked := by
  have hsent : (send defaultDeps peerU "b" (some .ready) (fun _ => some 200) messageU
      (fun _ => { fate := .answered (2 * second) (2 * second) }) ∅).2 = none := by decide +kernel
  refine ⟨hsent, ?_⟩
  exact (retried_send_truthful_iff defaultDeps peerU "b" (some .ready) (fun _ => some 200)
    messageU ∅ (by simp)).2 (.inr (.inr fun _ _ => by rfl)) _ hsent

/-- A media request to a peer with its media bridge disabled: no post is lost, the first one is
answered with an error and the second one, a duplicate, with success. Nothing was called. -/
theorem send_ok_unprocessed :
    (send defaultDeps peerU "b" (some .ready) (fun _ => some 200)
        { messageU with type := .media .subscribe }
        (fun _ => { fate := .answered (2 * second) (2 * second) }) ∅).2 = none ∧
    (send defaultDeps peerU "b" (some .ready) (fun _ => some 200)
        { messageU with type := .media .subscribe }
        (fun _ => { fate := .answered (2 * second) (2 * second) }) ∅).1.invoked = [] := by
  decide +kernel

end PulseRTC.Cluster.Sending
