import PulseRTC.Cluster.FailureDetector

/-!
# What the failure detector concludes from its scans

The detector of one node over a whole history of scans, each with the answer of `backendOK` and
whatever the registry lists. All that `scan` keeps about a node is its two marks, the first miss
and the stale mark, and a scan moves the marks of each listed node on its own: `judge` is that
move, and `mark_scan` says that the loop over the listing is `judge` at every listed node.

`Since` is the meaning of the first miss: the scan it was taken at listed the node as late or
`OFFLINE`, and no scan since that could trust its backend saw the node in order. A stale mark needs
the grace period since that scan (`detector_sound`).
-/

namespace PulseRTC.Cluster

open Foundations List

namespace FailureDetector

/-- What a detector works with: the window of the registry, its own grace period, and its node. -/
structure Watching where
  nodeTTL : Time
  grace : Time
  self : NodeId
  deriving DecidableEq

/-- One pass of `scan`: the instant, the answer of `backendOK` and the listing of the registry,
which has one record for a node. -/
structure Scan where
  now : Time
  backendOK : Bool
  nodes : List NodeInfo
  one : ∀ n ∈ nodes, ∀ m ∈ nodes, n.id = m.id → n = m

/-- The node is listed, and late or `OFFLINE`. -/
def Scan.Misses (c : Watching) (s : Scan) (x : NodeId) : Prop :=
  ∃ n ∈ s.nodes, n.id = x ∧ missing c.nodeTTL s.now n = true

/-- The node is listed, and neither late nor `OFFLINE`. -/
def Scan.Sees (c : Watching) (s : Scan) (x : NodeId) : Prop :=
  ∃ n ∈ s.nodes, n.id = x ∧ missing c.nodeTTL s.now n = false

/-- The node is absent from the listing, late or `OFFLINE`. -/
def Scan.Lacks (c : Watching) (s : Scan) (x : NodeId) : Prop :=
  (∀ n ∈ s.nodes, n.id ≠ x) ∨ s.Misses c x

def scanned (c : Watching) (d : FailureDetector) (s : Scan) : FailureDetector × List NodeFailure :=
  scan c.nodeTTL c.grace c.self s.backendOK s.nodes s.now d

/-- The detector after a history of scans. -/
def after (c : Watching) (d : FailureDetector) (ss : List Scan) : FailureDetector :=
  ss.foldl (fun d s => (scanned c d s).1) d

/-- The nodes that `onStale` is called for at a scan, in order. -/
def fired (c : Watching) (d : FailureDetector) (s : Scan) : List NodeId :=
  (scanned c d s).2.map NodeFailure.nodeID

/-- The nodes that `onStale` is called for during a history of scans, in order. -/
def allFired (c : Watching) : FailureDetector → List Scan → List NodeId
  | _, [] => []
  | d, s :: ss => fired c d s ++ allFired c (scanned c d s).1 ss

@[simp] theorem after_snoc (c : Watching) (d : FailureDetector) (ss : List Scan) (s : Scan) :
    after c d (ss ++ [s]) = (scanned c (after c d ss) s).1 := by
  simp [after]

/-! ## The marks of one node -/

/-- What the detector keeps about one node. -/
structure Mark where
  firstMissed : Option Time := none
  stale : Option NodeFailure := none
  deriving DecidableEq

def mark (d : FailureDetector) (x : NodeId) : Mark := ⟨d.firstMissed.lookup x, d.stale.lookup x⟩

/-- The marks of a node after the visit of its record. -/
def judge (c : Watching) (now : Time) (n : NodeInfo) (m : Mark) : Mark :=
  if n.id = c.self ∨ missing c.nodeTTL now n = false then {}
  else if now - m.firstMissed.getD now < c.grace then ⟨some (m.firstMissed.getD now), m.stale⟩
  else
    ⟨some (m.firstMissed.getD now),
      some (m.stale.getD ⟨n.id, n.state, n.lastSeen, now - n.lastSeen⟩)⟩

/-- The stale mark is set between the two. -/
def Mark.fires (m m' : Mark) : ℕ := if m.stale = none ∧ m'.stale ≠ none then 1 else 0

@[simp] theorem Mark.fires_self (m : Mark) : m.fires m = 0 := by
  simp [Mark.fires]

theorem judge_judge (c : Watching) (now : Time) (n : NodeInfo) (m : Mark) :
    judge c now n (judge c now n m) = judge c now n m := by
  unfold judge
  split_ifs with hclear hgrace <;> simp_all

theorem mark_clear (d : FailureDetector) (id x : NodeId) :
    (d.clear id).mark x = if x = id then {} else d.mark x := by
  unfold mark clear
  split_ifs with hx
  · subst hx
    simp
  · simp [hx]

theorem mark_noteMissed (d : FailureDetector) (now : Time) (id x : NodeId) :
    (d.noteMissed now id).mark x =
      if x = id then ⟨some ((d.mark id).firstMissed.getD now), (d.mark id).stale⟩
      else d.mark x := by
  unfold noteMissed mark
  split_ifs with hx
  · subst hx
    cases hm : d.firstMissed.lookup x with
    | none => simp
    | some t => simp [hm]
  · cases hm : d.firstMissed.lookup id with
    | none => simp [hx]
    | some t => simp

theorem mark_insert (d : FailureDetector) (id x : NodeId) (f : NodeFailure) :
    ({ d with stale := d.stale.insert id f } : FailureDetector).mark x =
      if x = id then ⟨(d.mark id).firstMissed, some f⟩ else d.mark x := by
  unfold mark
  split_ifs with hx
  · subst hx
    simp
  · simp [hx]

/-- A visit moves the marks of the visited node, and reports it when that sets its stale mark. -/
theorem visit_spec (c : Watching) (now : Time) (acc : FailureDetector × List NodeFailure)
    (n : NodeInfo) (x : NodeId) :
    (visit c.nodeTTL c.grace c.self now acc n).1.mark x =
        (if x = n.id then judge c now n (acc.1.mark x) else acc.1.mark x) ∧
      ((visit c.nodeTTL c.grace c.self now acc n).2.map NodeFailure.nodeID).count x =
        (acc.2.map NodeFailure.nodeID).count x +
          (acc.1.mark x).fires ((visit c.nodeTTL c.grace c.self now acc n).1.mark x) := by
  obtain ⟨d, newly⟩ := acc
  have hclear : (d.clear n.id).mark x = (if x = n.id then {} else d.mark x) ∧
      ((newly.map NodeFailure.nodeID).count x) = (newly.map NodeFailure.nodeID).count x +
        (d.mark x).fires ((d.clear n.id).mark x) := by
    refine ⟨mark_clear d n.id x, ?_⟩
    rw [mark_clear]
    split_ifs <;> simp [Mark.fires]
  unfold visit
  simp only
  by_cases hself : n.id = c.self
  · rw [if_pos hself]
    simpa [judge, hself] using hclear
  rw [if_neg hself]
  by_cases hmiss : missing c.nodeTTL now n = true
  swap
  · rw [Bool.not_eq_true] at hmiss
    simpa [judge, hmiss] using hclear
  have hnoted := mark_noteMissed d now n.id
  have hfirst : ((d.noteMissed now n.id).firstMissed.lookup n.id).getD 0 =
      (d.mark n.id).firstMissed.getD now := by
    have h := congrArg Mark.firstMissed (hnoted n.id)
    rw [if_pos rfl] at h
    rw [show (d.noteMissed now n.id).firstMissed.lookup n.id = _ from h]
    rfl
  have hstale : (d.noteMissed now n.id).stale.lookup n.id = (d.mark n.id).stale := by
    have h := congrArg Mark.stale (hnoted n.id)
    rwa [if_pos rfl] at h
  rw [hmiss, Bool.not_true, if_neg Bool.false_ne_true, hfirst]
  by_cases hgrace : now - (d.mark n.id).firstMissed.getD now < c.grace
  · rw [if_pos hgrace]
    rw [hnoted]
    by_cases hx : x = n.id
    · subst hx
      simp [judge, hself, hmiss, hgrace, Mark.fires]
    · simp [hx]
  rw [if_neg hgrace]
  cases hold : (d.mark n.id).stale with
  | some f =>
    rw [hold] at hstale
    simp only [hstale]
    rw [hnoted]
    by_cases hx : x = n.id
    · subst hx
      simp [judge, hself, hmiss, hgrace, hold, Mark.fires]
    · simp [hx]
  | none =>
    rw [hold] at hstale
    simp only [hstale]
    rw [mark_insert, hnoted, hnoted]
    by_cases hx : x = n.id
    · subst hx
      simp [judge, hself, hmiss, hgrace, hold, Mark.fires]
    · simp [hx, Ne.symm hx]

variable {x : NodeId} {n : NodeInfo} {c : Watching} {d : FailureDetector} {s : Scan} {now t : Time}
  {m : Mark} {ss : List Scan}

/-- The loop of `scan` over a listing without `x`. -/
theorem foldl_visit_unlisted (c : Watching) (now : Time) {nodes : List NodeInfo}
    (hnone : ∀ m ∈ nodes, m.id ≠ x) (acc : FailureDetector × List NodeFailure) :
    (nodes.foldl (visit c.nodeTTL c.grace c.self now) acc).1.mark x = acc.1.mark x ∧
      ((nodes.foldl (visit c.nodeTTL c.grace c.self now) acc).2.map NodeFailure.nodeID).count x =
        (acc.2.map NodeFailure.nodeID).count x := by
  induction nodes generalizing acc with
  | nil => exact ⟨rfl, rfl⟩
  | cons m nodes ih =>
    obtain ⟨hmark, hcount⟩ := visit_spec c now acc m x
    rw [if_neg (Ne.symm (hnone m mem_cons_self))] at hmark
    rw [hmark, Mark.fires_self] at hcount
    obtain ⟨ihmark, ihcount⟩ := ih (fun m' hm' => hnone m' (mem_cons_of_mem _ hm'))
      (visit c.nodeTTL c.grace c.self now acc m)
    exact ⟨ihmark.trans hmark, ihcount.trans hcount⟩

/-- The loop of `scan` over a listing in which every record of `x` is `n`. -/
theorem foldl_visit_spec (c : Watching) (now : Time) (hn : n.id = x) {nodes : List NodeInfo}
    (hone : ∀ m ∈ nodes, m.id = x → m = n) (acc : FailureDetector × List NodeFailure) :
    (nodes.foldl (visit c.nodeTTL c.grace c.self now) acc).1.mark x =
        (if n ∈ nodes then judge c now n (acc.1.mark x) else acc.1.mark x) ∧
      ((nodes.foldl (visit c.nodeTTL c.grace c.self now) acc).2.map NodeFailure.nodeID).count x =
        (acc.2.map NodeFailure.nodeID).count x + (acc.1.mark x).fires
          ((nodes.foldl (visit c.nodeTTL c.grace c.self now) acc).1.mark x) := by
  induction nodes generalizing acc with
  | nil => simp
  | cons m nodes ih =>
    obtain ⟨hmark, hcount⟩ := visit_spec c now acc m x
    obtain ⟨ihmark, ihcount⟩ := ih (fun m' hm' => hone m' (mem_cons_of_mem _ hm'))
      (visit c.nodeTTL c.grace c.self now acc m)
    rw [foldl_cons, ihcount, hcount]
    by_cases hx : m.id = x
    · -- a second record of the node, equal to the first, finds its marks already moved
      obtain rfl := hone m mem_cons_self hx
      rw [if_pos hx.symm] at hmark
      have hsame : (nodes.foldl (visit c.nodeTTL c.grace c.self now)
          (visit c.nodeTTL c.grace c.self now acc m)).1.mark x = judge c now m (acc.1.mark x) := by
        rw [ihmark, hmark, judge_judge, ite_self]
      rw [hsame, hmark, if_pos mem_cons_self, Mark.fires_self]
      exact ⟨rfl, rfl⟩
    · rw [if_neg (Ne.symm hx)] at hmark
      have hne : n ≠ m := fun h => hx (h ▸ hn)
      rw [hmark, Mark.fires_self, ihmark, hmark]
      simp [mem_cons, hne]

/-- A scan that cannot trust the backend moves no mark and reports nothing. -/
theorem scanned_unknown (h : s.backendOK = false) :
    (scanned c d s).1.stale = d.stale ∧ (scanned c d s).1.firstMissed = d.firstMissed ∧
      fired c d s = [] := by
  simp [scanned, fired, scan, h]

/-- **A scan, node by node**: with a trusted backend the marks of a listed node are judged on its
record, those of any other node stay; and a node is reported exactly when its stale mark is set. -/
theorem mark_scan (c : Watching) (d : FailureDetector) (s : Scan) (x : NodeId) :
    ((scanned c d s).1.mark x = d.mark x ∧ (s.backendOK = true → ∀ n ∈ s.nodes, n.id ≠ x) ∨
      s.backendOK = true ∧ ∃ n ∈ s.nodes, n.id = x ∧
        (scanned c d s).1.mark x = judge c s.now n (d.mark x)) ∧
    (fired c d s).count x = (d.mark x).fires ((scanned c d s).1.mark x) := by
  cases hok : s.backendOK with
  | false =>
    obtain ⟨hstale, hfirst, hfired⟩ := scanned_unknown (c := c) (d := d) hok
    have hmark : (scanned c d s).1.mark x = d.mark x := by
      unfold mark
      rw [hstale, hfirst]
    exact ⟨.inl ⟨hmark, fun h => absurd h Bool.false_ne_true⟩, by simp [hmark, hfired]⟩
  | true =>
    have hscan : scanned c d s = s.nodes.foldl (visit c.nodeTTL c.grace c.self s.now)
        ({ d with backendKnwn := true }, []) := by
      simp [scanned, scan, hok]
    have hd : ({ d with backendKnwn := true } : FailureDetector).mark x = d.mark x := rfl
    by_cases hlisted : ∃ n ∈ s.nodes, n.id = x
    · obtain ⟨n, hn, hx⟩ := hlisted
      obtain ⟨hmark, hcount⟩ := foldl_visit_spec c s.now hx
        (fun m hm hmx => s.one m hm n hn (hmx.trans hx.symm)) ({ d with backendKnwn := true }, [])
      rw [if_pos hn, ← hscan, hd] at hmark
      rw [← hscan, hd] at hcount
      refine ⟨.inr ⟨rfl, n, hn, hx, hmark⟩, ?_⟩
      simpa [fired] using hcount
    · have hnone : ∀ n ∈ s.nodes, n.id ≠ x := fun n hn hx => hlisted ⟨n, hn, hx⟩
      obtain ⟨hmark, hcount⟩ := foldl_visit_unlisted c s.now hnone
        ({ d with backendKnwn := true }, [])
      rw [← hscan, hd] at hmark
      rw [← hscan] at hcount
      refine ⟨.inl ⟨hmark, fun _ => hnone⟩, ?_⟩
      rw [hmark, Mark.fires_self]
      exact hcount

/-! ## One scan -/

/-- The stale mark of a node is set only past the grace period from its first miss, or from the
scan itself if that is the first miss. -/
theorem judge_fires (h : m.fires (judge c now n m) ≠ 0) :
    n.id ≠ c.self ∧ missing c.nodeTTL now n = true ∧
      c.grace ≤ now - m.firstMissed.getD now := by
  unfold Mark.fires at h
  obtain ⟨hold, hnew⟩ : m.stale = none ∧ (judge c now n m).stale ≠ none := by
    by_contra hno
    exact h (if_neg hno)
  unfold judge at hnew
  split_ifs at hnew with hclear hgrace
  · exact absurd rfl hnew
  · exact absurd hold hnew
  · rw [not_or, Bool.not_eq_false] at hclear
    exact ⟨hclear.1, hclear.2, not_lt.1 hgrace⟩

/-- A first miss on record after a visit was there before or is the visit, and the visited record
is late or `OFFLINE`. -/
theorem judge_firstMissed (h : (judge c now n m).firstMissed = some t) :
    missing c.nodeTTL now n = true ∧ (m.firstMissed = some t ∨ t = now) := by
  have hcases : ∀ o : Option Time, some (o.getD now) = some t → o = some t ∨ t = now := by
    rintro (_ | t') heq
    · exact .inr (Option.some.inj heq).symm
    · exact .inl heq
  unfold judge at h
  split_ifs at h with hclear hgrace
  all_goals
    rw [not_or, Bool.not_eq_false] at hclear
    exact ⟨hclear.2, hcases _ h⟩

/-- A stale mark goes only at a visit of the detector's own node or of a record in order. -/
theorem judge_keeps (hother : n.id ≠ c.self) (hmiss : missing c.nodeTTL now n = true)
    (h : m.stale ≠ none) :
    (judge c now n m).stale ≠ none := by
  unfold judge
  rw [if_neg (by simp [hother, hmiss])]
  split_ifs
  · exact h
  · exact Option.some_ne_none _

/-- A scan that reports a node or sets its stale mark. -/
theorem scanned_fires (h : (d.mark x).fires ((scanned c d s).1.mark x) ≠ 0) :
    s.backendOK = true ∧ x ≠ c.self ∧ s.Misses c x ∧
      c.grace ≤ s.now - (d.mark x).firstMissed.getD s.now := by
  rcases (mark_scan c d s x).1 with ⟨hsame, -⟩ | ⟨hok, n, hn, rfl, hmark⟩
  · rw [hsame, Mark.fires_self] at h
    exact absurd rfl h
  · rw [hmark] at h
    obtain ⟨hother, hmiss, hgrace⟩ := judge_fires h
    exact ⟨hok, hother, ⟨n, hn, rfl, hmiss⟩, hgrace⟩

/-! ## Histories of scans -/

/-- Since the scan at `t` no scan with a trusted backend saw the node in order. -/
def Since (c : Watching) (ss : List Scan) (x : NodeId) (t : Time) : Prop :=
  ∃ early j late, ss = early ++ j :: late ∧ j.now = t ∧
    ∀ u ∈ j :: late, u.backendOK = true → u.Lacks c x

theorem Since.snoc (h : Since c ss x t) (hs : s.backendOK = true → s.Lacks c x) :
    Since c (ss ++ [s]) x t := by
  obtain ⟨early, j, late, rfl, ht, hlacks⟩ := h
  refine ⟨early, j, late ++ [s], by simp, ht, ?_⟩
  intro u hu
  rcases mem_cons.1 hu with rfl | hu
  · exact hlacks u mem_cons_self
  rcases mem_snoc.1 hu with hu | rfl
  · exact hlacks u (mem_cons_of_mem _ hu)
  · exact hs

theorem Since.last (hs : s.backendOK = true → s.Lacks c x) : Since c (ss ++ [s]) x s.now :=
  ⟨ss, s, [], rfl, rfl, by simpa using hs⟩

/-- **The meaning of the first miss**: it is the time of a scan since which no scan with a trusted
backend saw the node in order. -/
theorem firstMissed_since (h : ((after c {} ss).mark x).firstMissed = some t) : Since c ss x t := by
  induction ss using reverseRecOn generalizing t with
  | nil => exact absurd h (by simp [mark, after])
  | append_singleton ss s ih =>
    rw [after_snoc] at h
    rcases (mark_scan c (after c {} ss) s x).1 with ⟨hsame, hnone⟩ | ⟨hok, n, hn, hx, hmark⟩
    · rw [hsame] at h
      exact (ih h).snoc fun hok => .inl (hnone hok)
    · rw [hmark] at h
      obtain ⟨hmiss, hold | rfl⟩ := judge_firstMissed h
      · exact (ih hold).snoc fun _ => .inr ⟨n, hn, hx, hmiss⟩
      · exact Since.last fun _ => .inr ⟨n, hn, hx, hmiss⟩

/-- The stale mark of a node is there, as a number. -/
def Mark.held (m : Mark) : ℕ := if m.stale = none then 0 else 1

/-- Unless a scan with a trusted backend sees the node in order, its stale mark stays, and the
node is reported when the mark is set. -/
theorem fires_add_held_le (hother : x ≠ c.self) (hs : ¬ (s.backendOK = true ∧ s.Sees c x)) :
    (d.mark x).fires ((scanned c d s).1.mark x) + (d.mark x).held ≤
      ((scanned c d s).1.mark x).held := by
  rcases (mark_scan c d s x).1 with ⟨hsame, -⟩ | ⟨hok, n, hn, rfl, hmark⟩
  · rw [hsame, Mark.fires_self, Nat.zero_add]
  · have hmiss : missing c.nodeTTL s.now n = true := by
      by_contra hno
      exact hs ⟨hok, n, hn, rfl, Bool.not_eq_true _ ▸ hno⟩
    have hkeeps := judge_keeps (m := d.mark n.id) hother hmiss
    rw [hmark]
    unfold Mark.fires Mark.held
    split_ifs <;> simp_all

/-- `onStale` is called at most once for a node over scans none of which sees it in order, and not
at all while its mark is there. -/
theorem count_allFired_le {mid : List Scan} (hmid : ∀ u ∈ mid, ¬ (u.backendOK = true ∧ u.Sees c x))
    (d : FailureDetector) :
    (allFired c d mid).count x ≤ 1 := by
  by_cases hother : x = c.self
  · -- the detector never reports its own node
    suffices hzero : (allFired c d mid).count x = 0 by omega
    clear hmid
    induction mid generalizing d with
    | nil => rfl
    | cons s mid ih =>
      rw [allFired, count_append, ih, (mark_scan c d s x).2]
      by_contra hne
      exact (scanned_fires (fun h => hne (by omega))).2.1 hother
  suffices hle : (allFired c d mid).count x + (d.mark x).held ≤ 1 by omega
  induction mid generalizing d with
  | nil =>
    simp only [allFired, count_nil, Mark.held]
    split_ifs <;> omega
  | cons s mid ih =>
    have hstep := fires_add_held_le (d := d) hother (hmid s mem_cons_self)
    have hrest := ih (fun u hu => hmid u (mem_cons_of_mem _ hu)) (scanned c d s).1
    rw [allFired, count_append, (mark_scan c d s x).2]
    omega

/-- **The verdicts of the detector are sound.** Take any history of scans from the start and one
more scan. If that scan sets the stale mark of a node or reports it, the backend was trusted, the
node is another one, listed and late or `OFFLINE`, and some scan at least the grace period ago is
such that no scan from it on with a trusted backend saw the node in order. Over such scans it is
reported at most once, and a scan that cannot trust the backend moves no marks. -/
theorem detector_sound (c : Watching) (pre : List Scan) (s : Scan) (x : NodeId) :
    (((after c {} pre).stale.lookup x = none ∧
          (after c {} (pre ++ [s])).stale.lookup x ≠ none ∨ x ∈ fired c (after c {} pre) s) →
        s.backendOK = true ∧ x ≠ c.self ∧ s.Misses c x ∧
        ∃ early j late, pre ++ [s] = early ++ j :: late ∧ c.grace ≤ s.now - j.now ∧
          ∀ u ∈ j :: late, u.backendOK = true → u.Lacks c x) ∧
    (∀ mid : List Scan, (∀ u ∈ mid, ¬ (u.backendOK = true ∧ u.Sees c x)) →
        (allFired c (after c {} pre) mid).count x ≤ 1) ∧
    (s.backendOK = false → (after c {} (pre ++ [s])).stale = (after c {} pre).stale ∧
        (after c {} (pre ++ [s])).firstMissed = (after c {} pre).firstMissed) := by
  refine ⟨?_, fun mid hmid => count_allFired_le hmid _, ?_⟩
  · intro hmarked
    have hfires : ((after c {} pre).mark x).fires
        ((scanned c (after c {} pre) s).1.mark x) ≠ 0 := by
      rcases hmarked with ⟨hold, hnew⟩ | hfired
      · rw [after_snoc] at hnew
        unfold Mark.fires
        rw [if_pos ⟨hold, hnew⟩]
        exact one_ne_zero
      · rw [← (mark_scan c (after c {} pre) s x).2]
        exact (count_pos_iff.2 hfired).ne'
    obtain ⟨hok, hother, hmisses, hgrace⟩ := scanned_fires hfires
    refine ⟨hok, hother, hmisses, ?_⟩
    obtain ⟨early, j, late, heq, ht, hlacks⟩ :
        Since c (pre ++ [s]) x (((after c {} pre).mark x).firstMissed.getD s.now) := by
      cases hfirst : ((after c {} pre).mark x).firstMissed with
      | none => exact Since.last fun _ => .inr hmisses
      | some t => exact (firstMissed_since hfirst).snoc fun _ => .inr hmisses
    exact ⟨early, j, late, heq, ht ▸ hgrace, hlacks⟩
  · intro hbad
    rw [after_snoc]
    exact ⟨(scanned_unknown hbad).1, (scanned_unknown hbad).2.1⟩

/-- A registry window of 15 s and a grace period of 5 s, seen from node `a`. -/
def watchingA : Watching := ⟨15 * second, 5 * second, "a"⟩

theorem lateB_named : ("b" : NodeId) ≠ "" := by decide

/-- A scan that lists only node `b`, last seen at 0 s. -/
def lateB (now : Time) : Scan where
  now := now
  backendOK := true
  nodes := [⟨"b", .ready, 0, lateB_named⟩]
  one := by
    intro n hn m hm _
    rw [List.mem_singleton.1 hn, List.mem_singleton.1 hm]

/-- A node last seen at 0 s is late at 20 s and reported at 25 s, five seconds after its first
miss. -/
theorem detector_sound_late :
    "b" ∈ fired watchingA (after watchingA {} [lateB (20 * second)]) (lateB (25 * second)) ∧
    ∃ early j late, [lateB (20 * second)] ++ [lateB (25 * second)] = early ++ j :: late ∧
      watchingA.grace ≤ (lateB (25 * second)).now - j.now ∧
      ∀ u ∈ j :: late, u.backendOK = true → u.Lacks watchingA "b" := by
  have hfired :
      "b" ∈ fired watchingA (after watchingA {} [lateB (20 * second)]) (lateB (25 * second)) := by
    decide +kernel
  exact ⟨hfired, ((detector_sound watchingA _ _ "b").1 (.inr hfired)).2.2.2⟩

end FailureDetector

end PulseRTC.Cluster
