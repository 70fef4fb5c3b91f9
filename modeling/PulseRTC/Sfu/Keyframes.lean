import PulseRTC.Cluster.Node
import PulseRTC.Foundations.Goroutines

/-!
# Keyframe requests toward a publisher

New subscribers, the feedback of subscribers and the resyncs of send queues ask a publication for a
keyframe (`requestKeyframe`), from as many goroutines as there are callers. The request reads the
clock, loads the time of the last one, and goes on only if a second has passed and its
compare-and-swap finds the time it loaded. Feedback of subscribers on other nodes comes in through
`DeliverRTCPToPublisher`, which writes to the publisher without asking the limiter.

A packet written to the publisher is kept with the clock reading of the request it belongs to.

* `Granted` are the readings whose request has won its swap, written already or not: no two of them
  are within a second. `rate_limited` follows for runs without keyframe requests of other nodes.
-/

namespace PulseRTC.Sfu.Keyframes

open Foundations Cluster Multiset

def keyframeRateLimit : Time := second

/-- A picture loss indication, with the clock reading of the request it was written for. -/
structure Pli where
  mediaSSRC : ℕ
  asked : Time
  deriving DecidableEq

/-- The packets of an RTCP message, as far as they are told apart. -/
inductive Feedback
  | pictureLossIndication
  | fullIntraRequest
  | other
  deriving DecidableEq

/-- A publication, the clock, and what was written to its publisher and to the node it comes
from. -/
structure Feed where
  video : Bool
  remote : Bool
  ssrc : ℕ
  lastKeyframe : Time
  clock : Time
  toPublisher : List Pli
  toOrigin : List Pli
  deriving DecidableEq

/-- A publication nobody has asked for a keyframe yet. -/
def fresh (video remote : Bool) (ssrc : ℕ) (clock : Time) : Feed :=
  ⟨video, remote, ssrc, 0, clock, [], []⟩

/-- Somebody asks for a keyframe, a node sends feedback (`none` if it cannot be unmarshalled), or
time passes. -/
inductive Op
  | requestKeyframe
  | deliverRTCPToPublisher (pkts : Option (List Feedback))
  | tick (d : ℕ)
  deriving DecidableEq

inductive Instr
  | readClock
  | load (now : Time)
  | compareAndSwap (last now : Time)
  | writeRTCP (now : Time)
  /-- the lookups of `DeliverRTCPToPublisher`, in a call made at the time `asked` -/
  | deliver (pkts : Option (List Feedback)) (asked : Time)
  | forward (asked : Time)
  deriving DecidableEq

def launch (s : Feed) : Op → Option (Feed × List Instr)
  | .requestKeyframe => some (s, if s.video then [.readClock] else [])
  | .deliverRTCPToPublisher pkts => some (s, [.deliver pkts s.clock])
  | .tick d => some ({ s with clock := s.clock + d }, [])

/-- The packets that ask for a keyframe. -/
def keyframeRequests (pkts : Option (List Feedback)) : List Feedback :=
  (pkts.getD []).filter fun pkt => pkt ≠ .other

/-- One instruction; `found` says whether the room has the publisher, and for a publication of
another node whether there is a way back to it. -/
def exec (s : Feed) : Instr → Bool → Option (Feed × List Instr)
  | .readClock, _ => some (s, [.load s.clock])
  | .load now, _ =>
    some (s, if now - s.lastKeyframe < keyframeRateLimit then []
      else [.compareAndSwap s.lastKeyframe now])
  | .compareAndSwap last now, _ =>
    if s.lastKeyframe = last then some ({ s with lastKeyframe := now }, [.writeRTCP now])
    else some (s, [])
  | .writeRTCP now, found =>
    if found then
      if s.remote then some ({ s with toOrigin := s.toOrigin ++ [⟨s.ssrc, now⟩] }, [])
      else some ({ s with toPublisher := s.toPublisher ++ [⟨s.ssrc, now⟩] }, [])
    else some (s, [])
  | .deliver pkts asked, found =>
    if found ∧ s.remote = false then
      some (s, (keyframeRequests pkts).map fun _ => .forward asked)
    else some (s, [])
  | .forward asked, _ =>
    some ({ s with toPublisher := s.toPublisher ++ [⟨s.ssrc, asked⟩] }, [])

/-- Two clock readings are a second apart. -/
def Apart (a b : Time) : Prop := keyframeRateLimit ≤ b - a ∨ keyframeRateLimit ≤ a - b

instance (a b : Time) : Decidable (Apart a b) := inferInstanceAs (Decidable (_ ∨ _))

/-- The requests of any two packets are a second apart. -/
def RateLimited (s : Feed) : Prop := s.toPublisher.Pairwise fun a b => Apart a.asked b.asked

instance (s : Feed) : Decidable (RateLimited s) :=
  inferInstanceAs (Decidable (s.toPublisher.Pairwise fun a b => Apart a.asked b.asked))

/-! ## The limiter -/

/-- The reading of a request that has won its swap. -/
def won : Instr → Option Time
  | .writeRTCP now => some now
  | _ => none

/-- The readings of the requests that were let through. -/
def granted (s : Feed) (P : Multiset Instr) : Multiset Time :=
  (s.toPublisher.map Pli.asked : List Time) + P.filterMap won

/-- No two readings are within a second. -/
def Spread (M : Multiset Time) : Prop :=
  M.Nodup ∧ ∀ a ∈ M, ∀ b ∈ M, a ≠ b → Apart a b

theorem Spread.mono {M M' : Multiset Time} (h : Spread M) (hle : M' ≤ M) : Spread M' :=
  ⟨nodup_of_le hle h.1, fun a ha b hb =>
    h.2 a (mem_of_le hle ha) b (mem_of_le hle hb)⟩

variable {now : Time} {new : List Instr}

/-- A reading a second after all others can be added. -/
theorem Spread.cons {M : Multiset Time} (h : Spread M)
    (hnow : ∀ t ∈ M, keyframeRateLimit ≤ now - t) : Spread (now ::ₘ M) := by
  have hpos : 0 < keyframeRateLimit := by decide
  refine ⟨nodup_cons.2 ⟨fun hmem => ?_, h.1⟩, ?_⟩
  · have hself := hnow now hmem
    rw [Int.sub_self] at hself
    exact absurd hself (Int.not_le.2 hpos)
  · intro a ha b hb hne
    rcases mem_cons.1 ha with rfl | ha'
    · rcases mem_cons.1 hb with rfl | hb'
      · exact absurd rfl hne
      · exact .inr (hnow b hb')
    · rcases mem_cons.1 hb with rfl | hb'
      · exact .inl (hnow a ha')
      · exact h.2 a ha' b hb' hne

/-- An instruction of a request has passed the checks before it, and nothing goes around the
limiter. -/
def Checked : Instr → Prop
  | .compareAndSwap last now => keyframeRateLimit ≤ now - last
  | .forward _ => False
  | .readClock | .load _ | .writeRTCP _ | .deliver _ _ => True

structure Limited (s : Feed) (P : Multiset Instr) : Prop where
  spread : Spread (granted s P)
  upTo : ∀ t ∈ granted s P, t ≤ s.lastKeyframe
  checked : ∀ i ∈ P, Checked i

/-- No keyframe request of another node reaches the publisher. -/
def Routed (_ : Feed) (_ : Multiset Instr) : Instr → Bool → Prop
  | .deliver pkts _, found => found = true → keyframeRequests pkts = []
  | .readClock, _ | .load _, _ | .compareAndSwap _ _, _ | .writeRTCP _, _ | .forward _, _ => True

instance (s : Feed) (P : Multiset Instr) (i : Instr) (found : Bool) :
    Decidable (Routed s P i found) := by
  unfold Routed
  split <;> infer_instance

variable {s s' : Feed} {P rest : Multiset Instr}

/-- What is left behind has won no swap, and what was let through was so before. -/
theorem Limited.quiet (h : Limited s P) (hrest : rest ≤ P)
    (hnew : ∀ j ∈ new, won j = none ∧ Checked j) (hgranted : granted s' rest ≤ granted s P)
    (hlast : s'.lastKeyframe = s.lastKeyframe) : Limited s' (new + rest) := by
  have hsame : granted s' (new + rest) = granted s' rest := by
    have hnone : (new : Multiset Instr).filterMap won = 0 := by
      rw [filterMap_coe, List.filterMap_eq_nil_iff.2 fun j hj => (hnew j hj).1]
      rfl
    rw [granted, granted, filterMap_add, hnone, zero_add]
  refine ⟨?_, ?_, ?_⟩
  · rw [hsame]
    exact h.spread.mono hgranted
  · intro t ht
    rw [hsame] at ht
    rw [hlast]
    exact h.upTo t (mem_of_le hgranted ht)
  · intro j hj
    rcases mem_new.1 hj with hj | hj
    · exact (hnew j hj).2
    · exact h.checked j (mem_of_le hrest hj)

theorem granted_mono (s : Feed) (hrest : rest ≤ P) :
    granted s rest ≤ granted s P :=
  add_le_add_right (filterMap_le_filterMap won hrest) _

/-- The packet is written, and its reading is where it was. -/
theorem granted_write (s : Feed) (now : Time) (rest : Multiset Instr) :
    granted { s with toPublisher := s.toPublisher ++ [⟨s.ssrc, now⟩] } rest =
      granted s (.writeRTCP now ::ₘ rest) := by
  rw [granted, granted, filterMap_cons_some won _ _ rfl, List.map_append, ← coe_add, add_assoc]
  rfl

theorem Limited.start {op : Op} {code : List Instr} (h : Limited s P)
    (hop : launch s op = some (s', code)) : Limited s' (code + P) := by
  cases op with
  | requestKeyframe =>
    cases hop
    refine h.quiet le_rfl (fun j hj => ?_) le_rfl rfl
    split_ifs at hj with hvideo
    · rw [List.mem_singleton.1 hj]
      exact ⟨rfl, trivial⟩
    · exact absurd hj List.not_mem_nil
  | deliverRTCPToPublisher pkts =>
    cases hop
    refine h.quiet le_rfl (fun j hj => ?_) le_rfl rfl
    rw [List.mem_singleton.1 hj]
    exact ⟨rfl, trivial⟩
  | tick d =>
    cases hop
    exact h.quiet le_rfl (fun j hj => absurd hj List.not_mem_nil) le_rfl rfl

/-- A swap that is won puts its reading a second after all that were let through. -/
theorem Limited.swap (h : Limited s (.compareAndSwap s.lastKeyframe now ::ₘ rest)) :
    Limited { s with lastKeyframe := now } ((([.writeRTCP now] : List Instr) : Multiset Instr) +
      rest) := by
  have hpos : 0 < keyframeRateLimit := by decide
  have hgap : keyframeRateLimit ≤ now - s.lastKeyframe := h.checked _ (mem_cons_self _ _)
  have hgranted : granted { s with lastKeyframe := now }
      ((([.writeRTCP now] : List Instr) : Multiset Instr) + rest) = now ::ₘ granted s rest := by
    rw [coe_singleton, singleton_add, granted, granted, filterMap_cons_some won _ _ rfl, add_cons]
  have hle : granted s rest ≤ granted s (.compareAndSwap s.lastKeyframe now ::ₘ rest) :=
    granted_mono s (le_cons_self _ _)
  have hupTo : ∀ t ∈ granted s rest, t ≤ s.lastKeyframe := fun t ht =>
    h.upTo t (mem_of_le hle ht)
  refine ⟨?_, ?_, ?_⟩
  · rw [hgranted]
    refine (h.spread.mono hle).cons fun t ht => hgap.trans ?_
    exact Int.sub_le_sub_left (hupTo t ht) now
  · intro t ht
    rw [hgranted] at ht
    rcases mem_cons.1 ht with rfl | ht
    · exact le_rfl
    · exact (hupTo t ht).trans (Int.le_of_sub_nonneg (hpos.le.trans hgap))
  · intro j hj
    rcases mem_new.1 hj with hj | hj
    · rw [List.mem_singleton.1 hj]
      trivial
    · exact h.checked j (mem_cons_of_mem hj)

theorem Limited.exec {i : Instr} {found : Bool} (h : Limited s (i ::ₘ rest))
    (hE : Routed s (i ::ₘ rest) i found) (hex : exec s i found = some (s', new)) :
    Limited s' (new + rest) := by
  have hrest : rest ≤ i ::ₘ rest := le_cons_self rest i
  -- an instruction that leaves the state as it is, and what it leaves behind
  have hquiet : ∀ new : List Instr, (∀ j ∈ new, won j = none ∧ Checked j) →
      Limited s (new + rest) := fun new hnew =>
    h.quiet hrest hnew (granted_mono s hrest) rfl
  have hnothing : Limited s ((([] : List Instr) : Multiset Instr) + rest) :=
    hquiet [] fun j hj => absurd hj List.not_mem_nil
  cases i with
  | readClock =>
    cases hex
    refine hquiet _ fun j hj => ?_
    rw [List.mem_singleton.1 hj]
    exact ⟨rfl, trivial⟩
  | load now =>
    cases hex
    refine hquiet _ fun j hj => ?_
    split_ifs at hj with hearly
    · exact absurd hj List.not_mem_nil
    · rw [List.mem_singleton.1 hj]
      exact ⟨rfl, Int.not_lt.1 hearly⟩
  | compareAndSwap last now =>
    simp only [Keyframes.exec] at hex
    split_ifs at hex with hlast
    · cases hex
      subst hlast
      exact h.swap
    · cases hex
      exact hnothing
  | writeRTCP now =>
    simp only [Keyframes.exec] at hex
    split_ifs at hex with hfound hremote
    · cases hex
      exact h.quiet hrest (fun j hj => absurd hj List.not_mem_nil) (granted_mono s hrest) rfl
    · cases hex
      exact h.quiet hrest (fun j hj => absurd hj List.not_mem_nil) (granted_write s now rest).le rfl
    · cases hex
      exact hnothing
  | deliver pkts asked =>
    simp only [Keyframes.exec] at hex
    split_ifs at hex with hfound
    · cases hex
      rw [hE hfound.1]
      exact hnothing
    · cases hex
      exact hnothing
  | forward asked => exact absurd (h.checked _ (mem_cons_self _ _)) id

/-- In every run in which no keyframe request of another node reaches the publisher, any two packets
written to it belong to requests a second apart. -/
theorem rate_limited (video remote : Bool) (ssrc : ℕ) (clock : Time)
    (acts : List (Pool.Act Op Bool)) (p : Pool Feed Instr)
    (hrouted : Along (Pool.step launch exec) (Pool.Meets (fun _ _ _ => True) Routed)
      ⟨fresh video remote ssrc clock, []⟩ acts)
    (hrun : run (Pool.step launch exec) ⟨fresh video remote ssrc clock, []⟩ acts = some p) :
    RateLimited p.shared := by
  have hlimited : Limited p.shared p.pending := by
    refine Pool.run_inv (fun s P op s' code hs _ hop => hs.start hop)
      (fun s i rest found s' new hs hE hex => hs.exec hE hex) ?_ hrouted hrun
    refine ⟨⟨nodup_zero, fun a ha => ?_⟩, fun t ht => ?_, fun j hj => ?_⟩
    · exact absurd ha (notMem_zero a)
    · exact absurd ht (notMem_zero t)
    · exact absurd hj (notMem_zero j)
  have hspread : Spread ((p.shared.toPublisher.map Pli.asked : List Time) : Multiset Time) :=
    hlimited.spread.mono (le_add_right _ _)
  have hnodup : (p.shared.toPublisher.map Pli.asked).Nodup := coe_nodup.1 hspread.1
  refine List.pairwise_map.1 (hnodup.pairwise_of_forall_ne fun a ha b hb hne => ?_)
  exact hspread.2 a (mem_coe.2 ha) b (mem_coe.2 hb) hne

/-- Two subscribers ask at once and the second loses the swap; a second later one more asks. -/
def twoAsk : List (Pool.Act Op Bool) :=
  [.start .requestKeyframe, .start .requestKeyframe, .resume 0 true, .resume 1 true, .resume 0 true,
    .resume 1 true, .resume 0 true, .resume 1 true, .resume 0 true, .start (.tick 1000000000),
    .start .requestKeyframe, .resume 3 true, .resume 3 true, .resume 3 true, .resume 3 true]

theorem rate_limited_twoAsk :
    ∃ p, run (Pool.step launch exec) ⟨fresh true false 7 second, []⟩ twoAsk = some p ∧
      p.shared.toPublisher = [⟨7, second⟩, ⟨7, 2 * second⟩] ∧ RateLimited p.shared := by
  refine exists_mem_and (by decide +kernel) fun p hp _ => ?_
  refine rate_limited true false 7 second twoAsk p ?_ hp
  decide +kernel

/-- A node sends a picture loss indication, and a subscriber asks at the same time. -/
def feedbackAndRequest : List (Pool.Act Op Bool) :=
  [.start (.deliverRTCPToPublisher (some [.pictureLossIndication])), .resume 0 true,
    .resume 0 true, .start .requestKeyframe, .resume 1 true, .resume 1 true, .resume 1 true,
    .resume 1 true]

/-- Both packets are written to the publisher. -/
theorem unlimited_feedback :
    ∃ p, run (Pool.step launch exec) ⟨fresh true false 7 second, []⟩ feedbackAndRequest = some p ∧
      ¬ RateLimited p.shared := by
  change ∃ p ∈ (_ : Option _), _
  decide +kernel

end PulseRTC.Sfu.Keyframes
