import PulseRTC.Cluster.Messages

/-!
# The calls of `Route`

`Route` on one node, with the calls it makes on the way: the location cache, the failure detector,
the health of the state backend, the participant locator, its local delivery, and the transport.
What they answer in each of the two passes of `Route` is the environment `Env` of the call. Each of
them is asked at most once in a pass, so it has an answer to everything that `Route` can ask.

A lookup in Redis folds an error into absence (`located`). The first resolution asks for the
health of the backend before it looks up, the refresh after a failed attempt does not; and neither
can tell a failed lookup from a missing record.

* `routes_carefully`: there are at most two attempts, none to a node that its last check in the
  call found stale, and the cache is not read after an attempt.
* `fails_closed_iff`: when `PARTICIPANT_NOT_FOUND` says what it means.
-/

namespace PulseRTC.Cluster.RouteCalls

open List

/-! ## The environment -/

/-- What is answered around one lookup and the attempt after it. -/
structure Pass where
  /-- The node that the locator's record of the participant names, if there is one. -/
  record : Option NodeId
  /-- The lookup fails: an error of Redis, or a value that does not decode. -/
  fails : Bool := false
  /-- `nodeStale`. -/
  stale : NodeId → Bool := fun _ => false
  /-- `delivery() != nil`. -/
  delivery : Bool := true
  /-- What `DeliverToParticipant`, on the node itself, or `transport.Send` returns. -/
  answer : NodeId → Option Error := fun _ => none

/-- The environment of a call. The locator's record may change in the course of it: `records` has
all that it was, and with them what it was at the two lookups. -/
structure Env where
  /-- `cache.get`: the node of a live entry. -/
  cache : Option NodeId := none
  /-- `nodeStale`, for the node of the cache. -/
  cacheStale : NodeId → Bool := fun _ => false
  healthy : Bool := true
  first : Pass
  second : Pass
  records : List (Option NodeId)
  first_mem : first.record ∈ records
  second_mem : second.record ∈ records

/-- `redisParticipantLocator.Lookup`: an error, or a value that does not decode, reads as no
record. -/
def Pass.located (p : Pass) : Option NodeId := if p.fails then none else p.record

/-- A call that the router makes, with its answer. -/
inductive Event
  | cacheGet (n : Option NodeId)
  | cachePut (n : NodeId)
  | invalidate
  /-- `nodeStale`. -/
  | stale (n : NodeId) (b : Bool)
  /-- `stateHealthy`. -/
  | healthy (b : Bool)
  /-- `locator.Lookup`. -/
  | lookup (n : Option NodeId)
  /-- `delivery() != nil`. -/
  | delivery (b : Bool)
  /-- `DeliverToParticipant` of the local delivery. -/
  | deliver (d : Option Error)
  /-- `transport.Send`. -/
  | send (n : NodeId) (d : Option Error)
  deriving DecidableEq

/-! ## The router -/

/-- `participantRouter`: its node, and whether it has a failure detector and a health check. -/
structure Router where
  self : NodeId
  detector : Bool := true
  health : Bool := true
  deriving DecidableEq

namespace Router

variable (r : Router) (id : ParticipantId)

/-- `isStale`; like all that follow, with the calls made before it and after it. -/
def isStale (stale : NodeId → Bool) (n : NodeId) (tr : List Event) : Bool × List Event :=
  if n ≠ r.self ∧ r.detector = true then (stale n, tr ++ [.stale n (stale n)]) else (false, tr)

/-- An authoritative lookup with its staleness check, as in `resolve` and in `routeAfterRefresh`;
`absent` is the error for a missing record. -/
def lookupNode (absent : Error) (p : Pass) (tr : List Event) :
    Except Error NodeId × List Event :=
  match p.located with
  | none => (.error absent, tr ++ [.lookup none])
  | some n =>
    let checked := r.isStale p.stale n (tr ++ [.lookup (some n)])
    if checked.1 then
      (.error { code := .participantStale, message := "participant's node is stale",
                nodeID := n, participantID := id }, checked.2)
    else (.ok n, checked.2 ++ [.cachePut n])

/-- The end of `resolve`, past the cache. -/
def resolveFresh (env : Env) (tr : List Event) : Except Error NodeId × List Event :=
  let absent := plainError .participantNotFound "participant not found"
  if r.health then
    if env.healthy then r.lookupNode id absent env.first (tr ++ [.healthy true])
    else
      (.error (plainError .clusterStateUnavailable "cannot resolve participant location"),
        tr ++ [.healthy false])
  else r.lookupNode id absent env.first tr

def resolve (env : Env) : Except Error NodeId × List Event :=
  match env.cache with
  | none => r.resolveFresh id env [.cacheGet none]
  | some n =>
    let checked := r.isStale env.cacheStale n [.cacheGet (some n)]
    if checked.1 then r.resolveFresh id env (checked.2 ++ [.invalidate]) else (.ok n, checked.2)

/-- One attempt at a node, local or remote; an error means that there was nothing to try. -/
def tryNode (p : Pass) (n : NodeId) (tr : List Event) :
    Except Error (Option Error) × List Event :=
  if n = r.self then
    if p.delivery then (.ok (p.answer n), tr ++ [.delivery true] ++ [.deliver (p.answer n)])
    else
      (.error (plainError .participantNotFound "no local delivery configured"),
        tr ++ [.delivery false])
  else (.ok (p.answer n), tr ++ [.send n (p.answer n)])

def routeAfterRefresh (p : Pass) (tr : List Event) : Option Error × List Event :=
  let found := r.lookupNode id
    { code := .participantNotFound, message := "participant not found", participantID := id } p tr
  match found.1 with
  | .error e => (some e, found.2)
  | .ok n =>
    let tried := r.tryNode p n found.2
    match tried.1 with
    | .error e => (some e, tried.2)
    | .ok d => (d, tried.2)

def route (env : Env) : Option Error × List Event :=
  let found := r.resolve id env
  match found.1 with
  | .error e => (some e, found.2)
  | .ok n =>
    let tried := r.tryNode env.first n found.2
    match tried.1 with
    | .error e => (some e, tried.2)
    | .ok d =>
      if isNotFound d then r.routeAfterRefresh id env.second (tried.2 ++ [.invalidate])
      else (d, tried.2)

end Router

/-! ## What the calls are to do -/

/-- The delivery attempt that an event is: its node and its result. -/
def attempt (r : Router) : Event → Option (NodeId × Option Error)
  | .deliver d => some (r.self, d)
  | .send n d => some (n, d)
  | _ => none

/-- The delivery attempts of a call, in order. -/
def attempts (r : Router) (tr : List Event) : List (NodeId × Option Error) :=
  tr.filterMap (attempt r)

/-- The staleness check of a node that an event is, with its answer. -/
def check (n : NodeId) : Event → Option Bool
  | .stale m b => if m = n then some b else none
  | _ => none

/-- The answer of the last staleness check of a node. -/
def lastCheck (n : NodeId) (tr : List Event) : Option Bool := (tr.filterMap (check n)).getLast?

/-- No send goes to a node that its last check found stale, and the cache is not read after an
attempt. -/
structure Careful (r : Router) (tr : List Event) : Prop where
  sends : ∀ pre n d post, tr = pre ++ .send n d :: post → lastCheck n pre ≠ some true
  uncached : ∀ pre e post, tr = pre ++ e :: post → (attempt r e).isSome = true →
    ∀ c, .cacheGet c ∉ post

structure Guarded (r : Router) (tr : List Event) : Prop extends Careful r tr where
  two : (attempts r tr).length ≤ 2

/-- `PARTICIPANT_NOT_FOUND` says what it means: the locator really had no record at some point, or
a node that the record named said so at the last attempt. -/
def Truthful (r : Router) (env : Env) (tr : List Event) (res : Option Error) : Prop :=
  isNotFound res = true → none ∈ env.records ∨
    ∃ n d, (attempts r tr).getLast? = some (n, d) ∧ isNotFound d = true ∧ some n ∈ env.records

/-! ## The inputs that mislead a call -/

/-- The check of a node finds it stale. -/
def Router.Bars (r : Router) (stale : NodeId → Bool) (n : NodeId) : Prop :=
  n ≠ r.self ∧ r.detector = true ∧ stale n = true

/-- The cache names no node, or a stale one, and the backend is not known to be unusable. -/
def Router.LooksUp (r : Router) (env : Env) : Prop :=
  (∀ n ∈ env.cache, r.Bars env.cacheStale n) ∧ (r.health = true → env.healthy = true)

/-- The node is named by the cache, or else by a record that can be looked up, and is not stale. -/
def Router.Targets (r : Router) (env : Env) (n : NodeId) : Prop :=
  (env.cache = some n ∧ ¬ r.Bars env.cacheStale n) ∨
    (r.LooksUp env ∧ env.first.located = some n ∧ ¬ r.Bars env.first.stale n)

/-- A lookup fails, or the node itself is to deliver and has no local delivery: at first, or after
a node that the record never named has answered that it does not have the participant. -/
inductive Router.Misled (r : Router) (env : Env) : Prop
  | lookup (h : r.LooksUp env) (hfails : env.first.fails = true)
  | delivery (h : r.Targets env r.self) (hnone : env.first.delivery = false)
  | refresh (n : NodeId) (h : r.Targets env n) (htry : n = r.self → env.first.delivery = true)
      (hd : isNotFound (env.first.answer n) = true) (hn : some n ∉ env.records)
      (hsecond : env.second.fails = true ∨
        env.second.located = some r.self ∧ env.second.delivery = false)

variable {r : Router} {id : ParticipantId} {n : NodeId} {tr : List Event} {e : Event}

/-! ## One more call -/

@[simp] theorem attempts_snoc : attempts r (tr ++ [e]) = attempts r tr ++ (attempt r e).toList := by
  unfold attempts
  rw [filterMap_append]
  cases h : attempt r e <;> simp [h]

@[simp] theorem lastCheck_snoc : lastCheck n (tr ++ [e]) = (check n e).or (lastCheck n tr) := by
  unfold lastCheck
  rw [filterMap_append, getLast?_append]
  cases h : check n e <;> simp [h]

/-- The events before one that stands in a list with one more event. -/
theorem snoc_split {e' : Event} {pre post : List Event} (h : tr ++ [e] = pre ++ e' :: post) :
    (post = [] ∧ e' = e ∧ pre = tr) ∨ ∃ post', post = post' ++ [e] ∧ tr = pre ++ e' :: post' := by
  rcases eq_nil_or_concat post with rfl | ⟨post', x, rfl⟩
  · obtain ⟨h₁, h₂⟩ := append_inj' h rfl
    exact .inl ⟨rfl, (cons.inj h₂).1.symm, h₁.symm⟩
  · rw [concat_eq_append, ← cons_append, ← append_assoc] at h
    obtain ⟨h₁, h₂⟩ := append_inj' h rfl
    obtain ⟨rfl, -⟩ := cons.inj h₂
    exact .inr ⟨post', concat_eq_append, h₁⟩

/-- The calls are careful, and checks are made only by a router with a failure detector. -/
structure Sound (r : Router) (tr : List Event) : Prop extends Careful r tr where
  unchecked : r.detector = false → ∀ n, lastCheck n tr = none

theorem Sound.snoc (h : Sound r tr) (hget : ∀ c, e ≠ .cacheGet c)
    (hsend : ∀ n d, e = .send n d → lastCheck n tr ≠ some true)
    (hcheck : r.detector = false → ∀ n, check n e = none) : Sound r (tr ++ [e]) where
  sends pre n d post heq := by
    rcases snoc_split heq with ⟨-, he, rfl⟩ | ⟨post', -, htr⟩
    · exact hsend n d he.symm
    · exact h.sends pre n d post' htr
  uncached pre e' post heq he' c := by
    rcases snoc_split heq with ⟨rfl, -, -⟩ | ⟨post', rfl, htr⟩
    · exact not_mem_nil
    · rw [mem_append, mem_singleton]
      rintro (hmem | hmem)
      · exact h.uncached pre e' post' htr he' c hmem
      · exact hget c hmem.symm
  unchecked hdet n := by
    rw [lastCheck_snoc, hcheck hdet, h.unchecked hdet]
    rfl

/-- A first call that is a look into the cache. -/
theorem sound_cacheGet (c : Option NodeId) : Sound r [.cacheGet c] where
  sends pre n d post heq := by
    cases pre <;> simp at heq
  uncached pre e post heq he := by
    cases pre with
    | nil =>
      obtain ⟨rfl, -⟩ := cons.inj heq
      cases he
    | cons _ pre => simp at heq
  unchecked _ _ := rfl

/-- The node is the router's own, or its last check did not find it stale. -/
def Clear (r : Router) (n : NodeId) (tr : List Event) : Prop :=
  n ≠ r.self → lastCheck n tr ≠ some true

/-! ## The parts of `Route` keep it -/

section Parts

variable {stale : NodeId → Bool} {p : Pass} {absent : Error}

theorem isStale_eq_true_iff (r : Router) (stale : NodeId → Bool) (n : NodeId) (tr : List Event) :
    (r.isStale stale n tr).1 = true ↔ r.Bars stale n := by
  unfold Router.isStale Router.Bars
  split_ifs with h
  · simp [h.1, h.2]
  · simp only [false_iff]
    exact fun hb => h ⟨hb.1, hb.2.1⟩

theorem isStale_sound (stale : NodeId → Bool) (n : NodeId) (h : Sound r tr) :
    Sound r (r.isStale stale n tr).2 ∧ attempts r (r.isStale stale n tr).2 = attempts r tr ∧
      (¬ r.Bars stale n → Clear r n (r.isStale stale n tr).2) := by
  unfold Router.isStale
  split_ifs with hcheck
  · refine ⟨h.snoc (by simp) (by simp) (by simp [hcheck.2]), by simp [attempt], fun hb hn => ?_⟩
    have hfalse : stale n ≠ true := fun ht => hb ⟨hn, hcheck.2, ht⟩
    simpa [check] using hfalse
  · refine ⟨h, rfl, fun _ hn => ?_⟩
    have hdet : r.detector = false := by
      simpa using fun ht => hcheck ⟨hn, ht⟩
    simp [h.unchecked hdet n]

theorem lookupNode_ok_iff :
    (r.lookupNode id absent p tr).1 = .ok n ↔ p.located = some n ∧ ¬ r.Bars p.stale n := by
  unfold Router.lookupNode
  cases hl : p.located with
  | none => simp
  | some m =>
    dsimp only
    rw [← isStale_eq_true_iff r p.stale n (tr ++ [.lookup (some m)])]
    split_ifs with hb
    · simp only [Option.some.injEq, false_iff, not_and, not_not]
      rintro rfl
      exact hb
    · simp only [Except.ok.injEq, Option.some.injEq, iff_self_and]
      rintro rfl
      exact hb

/-- A lookup ends in `PARTICIPANT_NOT_FOUND` exactly when it reads as no record. -/
theorem lookupNode_notFound_iff (habs : absent.code = .participantNotFound) :
    (∃ e, (r.lookupNode id absent p tr).1 = .error e ∧ isNotFound (some e) = true) ↔
      p.located = none := by
  unfold Router.lookupNode
  cases hl : p.located with
  | none => simp [isNotFound, habs]
  | some m =>
    dsimp only
    split_ifs <;> simp [isNotFound]

theorem lookupNode_sound (id : ParticipantId) (absent : Error) (p : Pass) (n : NodeId)
    (h : Sound r tr) :
    Sound r (r.lookupNode id absent p tr).2 ∧
      attempts r (r.lookupNode id absent p tr).2 = attempts r tr ∧
      ((r.lookupNode id absent p tr).1 = .ok n → Clear r n (r.lookupNode id absent p tr).2) := by
  have hlook : ∀ m, Sound r (tr ++ [.lookup m]) := fun m =>
    h.snoc (by simp) (by simp) (by simp [check])
  unfold Router.lookupNode
  cases hl : p.located with
  | none => exact ⟨hlook _, by simp [attempt], by simp⟩
  | some m =>
    obtain ⟨hsound, hattempts, hclear⟩ := isStale_sound p.stale m (hlook m)
    have hbars := isStale_eq_true_iff r p.stale m (tr ++ [.lookup (some m)])
    dsimp only
    split_ifs with hb
    · exact ⟨hsound, by simpa [attempt] using hattempts, by simp⟩
    · refine ⟨hsound.snoc (by simp) (by simp) (by simp [check]), ?_, fun hn => ?_⟩
      · simpa [attempt] using hattempts
      · obtain rfl : m = n := by simpa using hn
        intro hself
        simpa [check] using hclear (hbars.not.1 hb) hself

theorem tryNode_fst (r : Router) (p : Pass) (n : NodeId) (tr : List Event) :
    (r.tryNode p n tr).1 =
      if n = r.self ∧ p.delivery = false then
        .error (plainError .participantNotFound "no local delivery configured")
      else .ok (p.answer n) := by
  unfold Router.tryNode
  split_ifs <;> simp_all

theorem tryNode_sound (h : Sound r tr) (hclear : Clear r n tr) : Sound r (r.tryNode p n tr).2 := by
  unfold Router.tryNode
  have hdelivery : ∀ b, Sound r (tr ++ [.delivery b]) := fun b =>
    h.snoc (by simp) (by simp) (by simp [check])
  split_ifs with hself hp
  · exact (hdelivery true).snoc (by simp) (by simp) (by simp [check])
  · exact hdelivery false
  · refine h.snoc (by simp) ?_ (by simp [check])
    rintro m d heq
    obtain ⟨rfl, -⟩ := Event.send.inj heq
    exact hclear hself

/-- An attempt is made unless there is nothing to try. -/
theorem attempts_tryNode (r : Router) (p : Pass) (n : NodeId) (tr : List Event) :
    attempts r (r.tryNode p n tr).2 = attempts r tr ++
      if n = r.self ∧ p.delivery = false then [] else [(n, p.answer n)] := by
  unfold Router.tryNode
  split_ifs <;> simp_all [attempts, attempt, filterMap_cons]

end Parts

variable {env : Env}

/-! ## The first resolution -/

theorem resolveFresh_sound (id : ParticipantId) (env : Env) (n : NodeId) (h : Sound r tr) :
    Sound r (r.resolveFresh id env tr).2 ∧
      attempts r (r.resolveFresh id env tr).2 = attempts r tr ∧
      ((r.resolveFresh id env tr).1 = .ok n → Clear r n (r.resolveFresh id env tr).2) := by
  have hhealth : ∀ b, Sound r (tr ++ [.healthy b]) := fun b =>
    h.snoc (by simp) (by simp) (by simp [check])
  unfold Router.resolveFresh
  dsimp only
  split_ifs
  · simpa [attempt] using lookupNode_sound id _ env.first n (hhealth true)
  · exact ⟨hhealth false, by simp [attempt], by simp⟩
  · exact lookupNode_sound id _ env.first n h

theorem resolve_sound (r : Router) (id : ParticipantId) (env : Env) (n : NodeId) :
    Sound r (r.resolve id env).2 ∧ attempts r (r.resolve id env).2 = [] ∧
      ((r.resolve id env).1 = .ok n → Clear r n (r.resolve id env).2) := by
  unfold Router.resolve
  cases hc : env.cache with
  | none => exact resolveFresh_sound id env n (sound_cacheGet none)
  | some m =>
    obtain ⟨hsound, hattempts, hclear⟩ :=
      isStale_sound env.cacheStale m (sound_cacheGet (r := r) (some m))
    have hbars := isStale_eq_true_iff r env.cacheStale m [.cacheGet (some m)]
    dsimp only
    split_ifs with hb
    · obtain ⟨hs, ha, hok⟩ := resolveFresh_sound id env n
        (hsound.snoc (e := .invalidate) (by simp) (by simp) (by simp [check]))
      refine ⟨hs, ?_, hok⟩
      rw [ha, attempts_snoc, hattempts]
      rfl
    · refine ⟨hsound, hattempts, fun hn => ?_⟩
      obtain rfl : m = n := by simpa using hn
      exact hclear (hbars.not.1 hb)

/-- Past the cache `resolve` looks up, or stops at a backend that is not usable. -/
theorem resolveFresh_cases (r : Router) (id : ParticipantId) (env : Env) (tr : List Event) :
    ((r.health = true → env.healthy = true) ∧ ∃ tr', r.resolveFresh id env tr =
      r.lookupNode id (plainError .participantNotFound "participant not found") env.first tr') ∨
    (¬ (r.health = true → env.healthy = true) ∧ (r.resolveFresh id env tr).1 =
      .error (plainError .clusterStateUnavailable "cannot resolve participant location")) := by
  unfold Router.resolveFresh
  dsimp only
  split_ifs with hh he
  · exact .inl ⟨fun _ => he, _, rfl⟩
  · exact .inr ⟨fun h => he (h hh), rfl⟩
  · exact .inl ⟨fun h => absurd h hh, _, rfl⟩

/-- `resolve` takes the node of the cache, or goes on past it. -/
theorem resolve_cases (r : Router) (id : ParticipantId) (env : Env) :
    (∃ n, env.cache = some n ∧ ¬ r.Bars env.cacheStale n ∧ (r.resolve id env).1 = .ok n) ∨
    ((∀ n ∈ env.cache, r.Bars env.cacheStale n) ∧
      ∃ tr, r.resolve id env = r.resolveFresh id env tr) := by
  unfold Router.resolve
  cases hc : env.cache with
  | none => exact .inr ⟨by simp, _, rfl⟩
  | some m =>
    have hbars := isStale_eq_true_iff r env.cacheStale m [.cacheGet (some m)]
    dsimp only
    split_ifs with hb
    · exact .inr ⟨by simpa using hbars.1 hb, _, rfl⟩
    · exact .inl ⟨m, rfl, hbars.not.1 hb, rfl⟩

theorem resolve_ok_iff (id : ParticipantId) : (r.resolve id env).1 = .ok n ↔ r.Targets env n := by
  unfold Router.Targets Router.LooksUp
  rcases resolve_cases r id env with ⟨m, hm, hb, heq⟩ | ⟨hbar, tr, heq⟩
  · rw [heq, hm]
    simp only [Except.ok.injEq, Option.some.injEq]
    constructor
    · rintro rfl
      exact .inl ⟨rfl, hb⟩
    · rintro (⟨rfl, -⟩ | ⟨⟨hbar, -⟩, -⟩)
      · rfl
      · exact absurd (hbar m rfl) hb
  · have hno : ¬ (env.cache = some n ∧ ¬ r.Bars env.cacheStale n) := fun h => h.2 (hbar n h.1)
    rw [heq]
    rcases resolveFresh_cases r id env tr with ⟨hh, tr', heq'⟩ | ⟨hh, heq'⟩
    · rw [heq', lookupNode_ok_iff]
      simp only [hno, false_or]
      exact ⟨fun h => ⟨⟨hbar, hh⟩, h⟩, fun h => h.2⟩
    · rw [heq']
      simp only [reduceCtorEq, hno, false_or, false_iff]
      exact fun h => hh h.1.2

theorem resolve_notFound_iff (id : ParticipantId) :
    (∃ e, (r.resolve id env).1 = .error e ∧ isNotFound (some e) = true) ↔
      r.LooksUp env ∧ env.first.located = none := by
  unfold Router.LooksUp
  rcases resolve_cases r id env with ⟨m, hm, hb, heq⟩ | ⟨hbar, tr, heq⟩
  · rw [heq]
    simp only [reduceCtorEq, false_and, exists_false, false_iff]
    exact fun h => hb (h.1.1 m hm)
  · rw [heq]
    rcases resolveFresh_cases r id env tr with ⟨hh, tr', heq'⟩ | ⟨hh, heq'⟩
    · rw [heq', lookupNode_notFound_iff rfl]
      exact ⟨fun h => ⟨⟨hbar, hh⟩, h⟩, fun h => h.2⟩
    · rw [heq']
      refine ⟨?_, fun h => absurd h.1.2 hh⟩
      rintro ⟨e, he, hnf⟩
      cases he
      cases hnf

/-! ## The refresh -/

/-- How `routeAfterRefresh` ends: with an attempt at the node that the record names, or without
one, at a lookup that reads as no record, a missing local delivery or a stale node. -/
theorem refresh_cases (id : ParticipantId) (p : Pass) (hsound : Sound r tr) :
    Sound r (r.routeAfterRefresh id p tr).2 ∧
    ((∃ n, p.located = some n ∧ (r.routeAfterRefresh id p tr).1 = p.answer n ∧
        ¬ (n = r.self ∧ p.delivery = false) ∧
        attempts r (r.routeAfterRefresh id p tr).2 = attempts r tr ++ [(n, p.answer n)]) ∨
      attempts r (r.routeAfterRefresh id p tr).2 = attempts r tr ∧
        (isNotFound (r.routeAfterRefresh id p tr).1 = true ↔
          p.located = none ∨ p.located = some r.self ∧ p.delivery = false)) := by
  let absent : Error :=
    { code := .participantNotFound, message := "participant not found", participantID := id }
  have hlook := fun n => lookupNode_sound id absent p n hsound
  have hok : ∀ n, (r.lookupNode id absent p tr).1 = .ok n ↔
      p.located = some n ∧ ¬ r.Bars p.stale n := fun _ => lookupNode_ok_iff
  have hnone : (∃ e, (r.lookupNode id absent p tr).1 = .error e ∧ isNotFound (some e) = true) ↔
      p.located = none := lookupNode_notFound_iff rfl
  unfold Router.routeAfterRefresh
  change _ ∧ _
  generalize r.lookupNode id absent p tr = found at hlook hok hnone ⊢
  obtain ⟨v, tr'⟩ := found
  cases v with
  | error e =>
    refine ⟨(hlook r.self).1, .inr ⟨(hlook r.self).2.1, ?_⟩⟩
    have hself : p.located ≠ some r.self := fun hl =>
      nomatch (hok r.self).2 ⟨hl, fun hb => hb.1 rfl⟩
    simpa [hself] using hnone
  | ok n =>
    obtain ⟨hs, hattempts, hclear⟩ := hlook n
    obtain ⟨hl, -⟩ := (hok n).1 rfl
    have htried := tryNode_fst r p n tr'
    have hsound' := tryNode_sound (p := p) hs (hclear rfl)
    have hcalls := attempts_tryNode r p n tr'
    dsimp only at hattempts ⊢
    split_ifs at htried hcalls with hmissing
    · rw [htried]
      refine ⟨hsound', .inr ⟨by simpa [hattempts] using hcalls, ?_⟩⟩
      obtain ⟨rfl, hd⟩ := hmissing
      simp [hl, hd, isNotFound, plainError]
    · rw [htried]
      exact ⟨hsound', .inl ⟨n, hl, rfl, hmissing, by rw [hcalls, hattempts]⟩⟩

/-! ## Every call -/

/-- The courses of `Route`: it finds no node, or has nothing to try, or its attempt is the last
one, or it goes on with `routeAfterRefresh`. -/
inductive Course (r : Router) (id : ParticipantId) (env : Env) : Option Error × List Event → Prop
  | unresolved (e : Error) (tr : List Event) (h : (r.resolve id env).1 = .error e)
      (hs : Sound r tr) (ha : attempts r tr = []) : Course r id env (some e, tr)
  | missing (e : Error) (tr : List Event) (h : r.Targets env r.self)
      (hnone : env.first.delivery = false) (he : isNotFound (some e) = true) (hs : Sound r tr)
      (ha : attempts r tr = []) : Course r id env (some e, tr)
  | tried (n : NodeId) (tr : List Event) (h : r.Targets env n)
      (htry : n = r.self → env.first.delivery = true)
      (hd : isNotFound (env.first.answer n) = false) (hs : Sound r tr)
      (ha : attempts r tr = [(n, env.first.answer n)]) : Course r id env (env.first.answer n, tr)
  | refreshed (n : NodeId) (tr : List Event) (h : r.Targets env n)
      (htry : n = r.self → env.first.delivery = true)
      (hd : isNotFound (env.first.answer n) = true) (hs : Sound r tr)
      (ha : attempts r tr = [(n, env.first.answer n)]) :
    Course r id env (r.routeAfterRefresh id env.second tr)

theorem route_course (r : Router) (id : ParticipantId) (env : Env) :
    Course r id env (r.route id env) := by
  have hres := resolve_sound r id env
  unfold Router.route
  dsimp only
  cases hv : (r.resolve id env).1 with
  | error e => exact .unresolved e _ hv (hres r.self).1 (hres r.self).2.1
  | ok n =>
    obtain ⟨hs, hattempts, hclear⟩ := hres n
    have htarget := (resolve_ok_iff id).1 hv
    have htried := tryNode_fst r env.first n (r.resolve id env).2
    have hsound := tryNode_sound (p := env.first) hs (hclear hv)
    have hcalls := attempts_tryNode r env.first n (r.resolve id env).2
    rw [hattempts, nil_append] at hcalls
    dsimp only
    split_ifs at htried hcalls with hmissing
    · rw [htried]
      obtain ⟨rfl, hnone⟩ := hmissing
      exact .missing _ _ htarget hnone rfl hsound hcalls
    · have htry : n = r.self → env.first.delivery = true := by simpa using hmissing
      rw [htried]
      dsimp only
      split_ifs with hd
      · refine .refreshed n _ htarget htry hd ?_ ?_
        · exact hsound.snoc (by simp) (by simp) (by simp [check])
        · rw [attempts_snoc, hcalls]
          rfl
      · exact .tried n _ htarget htry (by simpa using hd) hsound hcalls

/-- **Routing is bounded and careful**, whatever the answers. -/
theorem routes_carefully (r : Router) (id : ParticipantId) (env : Env) :
    Guarded r (r.route id env).2 := by
  have hcourse := route_course r id env
  generalize r.route id env = out at hcourse ⊢
  cases hcourse with
  | unresolved e tr h hs ha => exact ⟨hs.toCareful, by simp [ha]⟩
  | missing e tr h hnone he hs ha => exact ⟨hs.toCareful, by simp [ha]⟩
  | tried n tr h htry hd hs ha => exact ⟨hs.toCareful, by simp [ha]⟩
  | refreshed n tr h htry hd hs ha =>
    obtain ⟨hsound, ⟨m, -, -, -, hcalls⟩ | ⟨hcalls, -⟩⟩ := refresh_cases id env.second hs
    · exact ⟨hsound.toCareful, by simp [hcalls, ha]⟩
    · exact ⟨hsound.toCareful, by simp [hcalls, ha]⟩

/-! ## What `PARTICIPANT_NOT_FOUND` means -/

/-- With a record there all along, a lookup reads as no record exactly if it fails. -/
theorem located_eq_none_iff {p : Pass} (hp : p.record ∈ env.records) (h : none ∉ env.records) :
    p.located = none ↔ p.fails = true := by
  have hrecord : p.record ≠ none := fun heq => h (heq ▸ hp)
  unfold Pass.located
  split_ifs with hf <;> simp [hf, hrecord]

theorem mem_records_of_located {p : Pass} (hp : p.record ∈ env.records) (h : p.located = some n) :
    some n ∈ env.records := by
  unfold Pass.located at h
  split_ifs at h
  exact h ▸ hp

/-- Only one node is tried first, and then the first lookup has not failed. -/
theorem misled_iff (h : r.Targets env n) :
    r.Misled env ↔ n = r.self ∧ env.first.delivery = false ∨
      (n = r.self → env.first.delivery = true) ∧ isNotFound (env.first.answer n) = true ∧
        some n ∉ env.records ∧
        (env.second.fails = true ∨ env.second.located = some r.self ∧ env.second.delivery = false)
    := by
  have hv := (resolve_ok_iff "").2 h
  have hunique : ∀ m, r.Targets env m → n = m := fun m hm =>
    Except.ok.inj (hv.symm.trans ((resolve_ok_iff "").2 hm))
  constructor
  · rintro (⟨hl, hfails⟩ | ⟨ht, hnone⟩ | ⟨m, hm, htry, hd, hn, hsecond⟩)
    · obtain ⟨e, he, -⟩ := (resolve_notFound_iff "").2
        ⟨hl, by simp [Pass.located, hfails]⟩
      cases hv.symm.trans he
    · exact .inl ⟨hunique _ ht, hnone⟩
    · obtain rfl := hunique m hm
      exact .inr ⟨htry, hd, hn, hsecond⟩
  · rintro (⟨rfl, hnone⟩ | ⟨htry, hd, hn, hsecond⟩)
    · exact .delivery h hnone
    · exact .refresh n h htry hd hn hsecond

/-- **When routing fails closed.** Whatever the cache, the locator, the failure detector and the
transport answer: at most two attempts are made, none to a node its last check found stale, the
cache is not read after an attempt, and `PARTICIPANT_NOT_FOUND` says what it means, exactly if the
locator had no record at some point or the inputs do not mislead the call. -/
theorem fails_closed_iff (r : Router) (id : ParticipantId) (env : Env) :
    (Guarded r (r.route id env).2 ∧ Truthful r env (r.route id env).2 (r.route id env).1) ↔
      (none ∉ env.records → ¬ r.Misled env) := by
  rw [and_iff_right (routes_carefully r id env)]
  by_cases hrecord : none ∈ env.records
  · exact ⟨fun _ h => absurd hrecord h, fun _ _ => .inl hrecord⟩
  unfold Truthful
  simp only [hrecord, false_or, not_false_eq_true, forall_true_left]
  have hcourse := route_course r id env
  generalize r.route id env = out at hcourse ⊢
  cases hcourse with
  | unresolved e tr h hs ha =>
    have hnf : isNotFound (some e) = true ↔ r.LooksUp env ∧ env.first.fails = true := by
      rw [← located_eq_none_iff env.first_mem hrecord, ← resolve_notFound_iff id, h]
      simp
    have hno : ∀ n, ¬ r.Targets env n := fun n ht =>
      nomatch h.symm.trans ((resolve_ok_iff id).2 ht)
    simp only [ha, getLast?_nil, reduceCtorEq, false_and, exists_false, imp_false, hnf]
    refine not_congr ⟨fun hm => .lookup hm.1 hm.2, ?_⟩
    rintro (⟨hl, hfails⟩ | ⟨ht, -⟩ | ⟨m, hm, -⟩)
    · exact ⟨hl, hfails⟩
    · exact absurd ht (hno _)
    · exact absurd hm (hno m)
  | missing e tr h hnone he hs ha =>
    simp [ha, he, misled_iff h, hnone]
  | tried n tr h htry hd hs ha =>
    simp only [hd, Bool.false_eq_true, false_imp_iff, true_iff, misled_iff h, false_and, and_false,
      or_false]
    rintro ⟨hself, hnone⟩
    exact Bool.false_ne_true (hnone.symm.trans (htry hself))
  | refreshed n tr h htry hd hs ha =>
    obtain ⟨-, ⟨m, hl, hres, hmissing, hcalls⟩ | ⟨hcalls, hnf⟩⟩ :=
      refresh_cases id env.second hs
    · refine iff_of_true (fun hnf => ?_) ?_
      · rw [hcalls, ha]
        exact ⟨m, _, rfl, hres ▸ hnf, mem_records_of_located env.second_mem hl⟩
      · rw [misled_iff h]
        rintro (⟨hself, hnone⟩ | ⟨-, -, -, hfails | ⟨hself, hnone⟩⟩)
        · exact Bool.false_ne_true (hnone.symm.trans (htry hself))
        · simp [Pass.located, hfails] at hl
        · exact hmissing ⟨Option.some.inj (hl.symm.trans hself), hnone⟩
    · -- the attempt before the refresh is the last one
      have hlast : (∃ m d, (attempts r (r.routeAfterRefresh id env.second tr).2).getLast? =
          some (m, d) ∧ isNotFound d = true ∧ some m ∈ env.records) ↔ some n ∈ env.records := by
        rw [hcalls, ha]
        simp [hd]
      have hno : ¬ (n = r.self ∧ env.first.delivery = false) := fun hm =>
        Bool.false_ne_true (hm.2.symm.trans (htry hm.1))
      rw [hlast, hnf, located_eq_none_iff env.second_mem hrecord, misled_iff h, or_iff_right hno]
      simp only [hd, true_and, not_and]
      exact ⟨fun hin _ hn hsecond => hn (hin hsecond),
        fun hall hsecond => by_contra fun hn => hall htry hn hsecond⟩

/-- The cached node no longer has the participant, whose record names another node all along, and
the lookup of the refresh fails. -/
def misread : Env where
  cache := some "b"
  first := { record := some "c"
             answer := fun _ => some (plainError .participantNotFound "participant not found") }
  second := { record := some "c", fails := true }
  records := [some "c"]
  first_mem := mem_singleton_self _
  second_mem := mem_singleton_self _

theorem failed_refresh_reads_not_found :
    isNotFound (Router.route { self := "a" } "p" misread).1 = true ∧
      ¬ Truthful { self := "a" } misread (Router.route { self := "a" } "p" misread).2
        (Router.route { self := "a" } "p" misread).1 := by
  refine ⟨by decide, fun h => ?_⟩
  rcases h (by decide) with hnone | ⟨n, d, hlast, -, hn⟩
  · cases mem_singleton.1 hnone
  · have hb : (attempts { self := "a" } (Router.route { self := "a" } "p" misread).2).getLast?.map
        Prod.fst = some "b" := by decide
    rw [hlast] at hb
    obtain rfl : n = "b" := Option.some.inj hb
    exact absurd (mem_singleton.1 hn) (by decide)

end PulseRTC.Cluster.RouteCalls
