import Mathlib.Algebra.BigOperators.Group.Finset.Basic
import PulseRTC.Sfu.Locks

/-!
# The life of a subscription

A subscription is attached under the lock of its subscriber, then held in the map of the
subscriber, then retired, and then its queue is closed. It is in exactly one of these stages
(`Life.stage`), the first and the third of which are a pending instruction; the counters of the SFU
differ from the stages by the counts still to be made.
-/

namespace PulseRTC.Sfu

open Foundations Cluster Multiset

/-- The subscription that is being retired. -/
@[simp] def Instr.retires : Instr → Option SubscriptionRef
  | .detachLoad sub | .detachSwap sub _ | .closeQueue sub => some sub
  | _ => none

/-- The subscriptions still to be counted as made. -/
@[simp] def Instr.made : Instr → ℕ
  | .countMade => 1
  | _ => 0

/-- The subscriptions still to be counted as removed. -/
@[simp] def Instr.removed : Instr → ℕ
  | .countRemoved n => n
  | _ => 0

/-- The subscription is in the map of its subscriber. -/
def Objects.Held (s : Objects) (sub : SubscriptionRef) : Prop :=
  (s.participants (s.subscriptions sub).subscriberID).subscriptions.lookup
    (s.publications (s.subscriptions sub).publication).id = some sub

instance (s : Objects) (sub : SubscriptionRef) : Decidable (s.Held sub) :=
  inferInstanceAs (Decidable (_ = _))

theorem Maps.held_iff {s : Objects} (h : Maps s) {sub : SubscriptionRef} :
    s.Held sub ↔ ∃ p id, (s.participants p).subscriptions.lookup id = some sub := by
  refine ⟨fun hheld => ⟨_, _, hheld⟩, ?_⟩
  rintro ⟨p, id, hlook⟩
  obtain ⟨-, rfl, rfl⟩ := h.subscriptions p id sub hlook
  exact hlook

/-! ## Stages -/

/-- Whether the subscription is being retired or is closed, as a number. -/
def retired (s : SFU) (P : Multiset Instr) (x : SubscriptionRef) : ℕ :=
  tally Instr.retires x P + (s.subscriptions x).closed.toNat

/-- A subscription that was made is being attached, is held or is retired. -/
structure Life (s : SFU) (P : Multiset Instr) : Prop where
  stage : ∀ x, tally Instr.attaches x P + (if s.Held x then 1 else 0) + retired s P x =
    if x < s.nextSubscription then 1 else 0
  made : s.subscriptionsMade + ((P.map Instr.made).sum : ℕ) = s.nextSubscription
  removed : s.subscriptionsRemoved + ((P.map Instr.removed).sum : ℕ) =
    (∑ x ∈ Finset.range s.nextSubscription, retired s P x : ℕ)

theorem Instr.attaches_of_plain {i : Instr} (h : i.plain = true) : i.attaches = none :=
  Instr.attaches_eq_none (Instr.locks_eq_none h)

theorem Instr.retires_of_plain {i : Instr} (h : i.plain = true) : i.retires = none := by
  cases i <;> first | rfl | cases h

theorem Instr.made_of_plain (i : Instr) (h : i.plain = true) : i.made = 0 := by
  cases i <;> first | rfl | cases h

theorem Instr.removed_of_plain (i : Instr) (h : i.plain = true) : i.removed = 0 := by
  cases i <;> first | rfl | cases h

theorem sum_working {g : Instr → ℕ} (hg : ∀ i, i.plain = true → g i = 0) (P : Multiset Instr) :
    ((working P).map g).sum = (P.map g).sum := by
  induction P using Multiset.induction with
  | empty => rfl
  | cons i P ih =>
    cases hi : i.plain with
    | true => rw [working_cons hi, ih, Multiset.map_cons, Multiset.sum_cons, hg i hi, Nat.zero_add]
    | false =>
      rw [working_cons_of_busy hi, Multiset.map_cons, Multiset.sum_cons, Multiset.map_cons,
        Multiset.sum_cons, ih]

namespace Life

variable {s s' : SFU} {P P' rest : Multiset Instr} {i : Instr} {new : List Instr} {c : Choice}
  {p : ParticipantId} {pub : PublicationRef} {sub : SubscriptionRef}

section Step

variable (h : Life s P) (hatt : ∀ x, tally Instr.attaches x P' = tally Instr.attaches x P)
  (hnext : s'.nextSubscription = s.nextSubscription)
  (hmade : s'.subscriptionsMade + ((P'.map Instr.made).sum : ℕ) =
    s.subscriptionsMade + ((P.map Instr.made).sum : ℕ))

include h hatt hnext hmade

/-- Held subscriptions `l` are being retired. -/
theorem retire {l : List SubscriptionRef} (hl : l.Nodup) (hmem : ∀ x ∈ l, s.Held x)
    (hheld : ∀ x, s'.Held x ↔ s.Held x ∧ x ∉ l)
    (hret : ∀ x, retired s' P' x = retired s P x + l.count x)
    (hremoved : s'.subscriptionsRemoved + ((P'.map Instr.removed).sum : ℕ) =
      s.subscriptionsRemoved + ((P.map Instr.removed).sum : ℕ) + l.length) : Life s' P' := by
  refine ⟨fun x => ?_, ?_, ?_⟩
  · have hstage := h.stage x
    rw [hatt, hret, hnext, if_congr (hheld x) rfl rfl]
    by_cases hx : x ∈ l
    · rw [if_pos (hmem x hx)] at hstage
      rw [if_neg fun hand => hand.2 hx, List.count_eq_one_of_mem hl hx]
      omega
    · rw [if_congr (and_iff_left hx) rfl rfl, List.count_eq_zero_of_not_mem hx]
      exact hstage
  · rw [hmade, hnext, h.made]
  · have hrange : ∀ x ∈ (l : Multiset SubscriptionRef), x ∈ Finset.range s.nextSubscription := by
      intro x hx
      have hstage := h.stage x
      rw [if_pos (hmem x hx)] at hstage
      by_contra hge
      rw [if_neg fun hlt => hge (Finset.mem_range.2 hlt)] at hstage
      omega
    have hsum := sum_count_eq_card hrange
    simp only [coe_count, coe_card] at hsum
    rw [hremoved, h.removed, hnext]
    simp only [hret, Finset.sum_add_distrib, hsum]
    omega

/-- A step that moves no subscription to another stage. -/
theorem keep (hret : ∀ x, retired s' P' x = retired s P x) (hheld : ∀ x, s'.Held x ↔ s.Held x)
    (hremoved : s'.subscriptionsRemoved + ((P'.map Instr.removed).sum : ℕ) =
      s.subscriptionsRemoved + ((P.map Instr.removed).sum : ℕ)) : Life s' P' :=
  h.retire hatt hnext hmade List.nodup_nil (List.forall_mem_nil _) (by simpa using hheld) hret
    (by simpa using hremoved)

end Step

theorem held_iff (hmaps : Maps s.toObjects) (hmaps' : Maps s'.toObjects)
    (hparts : ∀ p, (s'.participants p).subscriptions = (s.participants p).subscriptions)
    (x : SubscriptionRef) : s'.Held x ↔ s.Held x := by
  rw [hmaps.held_iff, hmaps'.held_iff]
  simp only [hparts]

/-- A quiet step. -/
theorem quiet (h : Life s P) (hmaps : Maps s.toObjects) (hmaps' : Maps s'.toObjects)
    (hq : Quiet s s' new) (hP : working P' = working P) : Life s' P' := by
  refine h.keep (fun x => ?_) hq.nextSubscription ?_ (fun x => ?_)
    (held_iff hmaps hmaps' (hq.participantSubs hmaps)) ?_
  · rw [← tally_working (fun _ => Instr.attaches_of_plain), hP,
      tally_working (fun _ => Instr.attaches_of_plain)]
  · rw [hq.subscriptionsMade, ← sum_working Instr.made_of_plain, hP,
      sum_working Instr.made_of_plain]
  · rw [retired, retired, ← tally_working (fun _ => Instr.retires_of_plain), hP,
      tally_working (fun _ => Instr.retires_of_plain), hq.subscriptions]
  · rw [hq.subscriptionsRemoved, ← sum_working Instr.removed_of_plain, hP,
      sum_working Instr.removed_of_plain]

/-- A plain instruction that does nothing. -/
theorem skip (h : Life s (i ::ₘ rest)) (hmaps : Maps s.toObjects) (hi : i.plain = true) :
    Life s (([] : List Instr) + rest) := by
  have hq : Quiet s s [] := .of_plain (by simp)
  refine h.quiet hmaps hmaps hq ?_
  rw [working_cons hi, working_new hq.plain]

/-- An instruction is replaced by one with the same subscription. -/
theorem pass (h : Life s (i ::ₘ rest)) (hmaps : Maps s.toObjects) (hmaps' : Maps s'.toObjects)
    {j : Instr} (hatt : j.attaches = i.attaches) (hret : j.retires = i.retires)
    (hmade : j.made = i.made) (hremoved : j.removed = i.removed)
    (hparts : s'.participants = s.participants)
    (hclosed : ∀ x, (s'.subscriptions x).closed = (s.subscriptions x).closed)
    (hnext : s'.nextSubscription = s.nextSubscription)
    (hcounts : s'.subscriptionsMade = s.subscriptionsMade ∧
      s'.subscriptionsRemoved = s.subscriptionsRemoved) :
    Life s' (([j] : List Instr) + rest) := by
  rw [coe_singleton, singleton_add]
  refine h.keep (fun x => ?_) hnext ?_ (fun x => ?_)
    (held_iff hmaps hmaps' fun p => by rw [hparts]) ?_
  · rw [tally_cons, tally_cons, hatt]
  · rw [map_cons, map_cons, hmade, hcounts.1]
  · rw [retired, retired, tally_cons, tally_cons, hret, hclosed]
  · rw [map_cons, map_cons, hremoved, hcounts.2]

/-- A new subscription is being attached. -/
theorem subscribe (h : Life s (.subscribe p pub ::ₘ rest)) (hmaps : Maps s.toObjects)
    (hmaps' : Maps s'.toObjects) (hex : Executes s c (.subscribe p pub) s' new) :
    Life s' (new + rest) := by
  cases hex with
  | notSubscribed => exact h.skip hmaps rfl
  | subscribe => ?_
  have hheld := held_iff hmaps hmaps' fun q => by
    by_cases heq : q = p
    · subst heq
      simp
    · simp [heq]
  set s' := (s.newSubscription { subscriberID := p, publication := pub }).onParticipant p
    (fun x => { x with mu := true })
  set new : List Instr :=
    [.attach p s.nextSubscription, .countMade, .send p (.subscriptionAdded pub)]
  have hnext : s'.nextSubscription = s.nextSubscription + 1 := rfl
  have hatt x : tally Instr.attaches x (new + rest) =
      tally Instr.attaches x (.subscribe p pub ::ₘ rest) +
        if s.nextSubscription = x then 1 else 0 := by
    simp [new, Nat.add_comm]
  have hret : ∀ x, x ≠ s.nextSubscription → retired s' (new + rest) x =
      retired s (.subscribe p pub ::ₘ rest) x := by
    intro x hx
    simp [retired, s', new, hx]
  -- nobody has seen the new one before
  have hfresh := h.stage s.nextSubscription
  rw [if_neg (Nat.lt_irrefl _)] at hfresh
  have hret' : retired s' (new + rest) s.nextSubscription = 0 := by
    have : retired s (.subscribe p pub ::ₘ rest) s.nextSubscription = 0 := by omega
    simpa [retired, s', new] using
      Nat.eq_zero_of_add_eq_zero_right this
  refine ⟨fun x => ?_, ?_, ?_⟩
  · have hstage := h.stage x
    rw [hatt, if_congr (hheld x) rfl rfl, hnext]
    by_cases hx : x = s.nextSubscription
    · subst hx
      rw [hret', if_pos rfl, if_pos (Nat.lt_succ_self _)]
      omega
    · have hlt : x < s.nextSubscription + 1 ↔ x < s.nextSubscription :=
        Nat.lt_succ_iff_lt_or_eq.trans (or_iff_left hx)
      rw [hret x hx, if_neg (Ne.symm hx), if_congr hlt rfl rfl]
      exact hstage
  · have hmade := h.made
    simp [new, s'] at hmade ⊢
    omega
  · rw [hnext, Finset.sum_range_succ, hret', Finset.sum_congr rfl fun x hx =>
      hret x (Finset.mem_range.1 hx).ne]
    simpa [new, s'] using h.removed

/-- An attached subscription is held. -/
theorem record (h : Life s (.record p sub ::ₘ rest))
    (hlocks : Locks s.toObjects (.record p sub ::ₘ rest))
    (hwf : WellFormed s.toObjects (.record p sub ::ₘ rest)) : Life (s.record p sub) rest := by
  have hmem : Instr.record p sub ∈ Instr.record p sub ::ₘ rest := mem_cons_self _ _
  obtain ⟨hlt, hp⟩ := hwf.ok _ hmem
  have hnone := hlocks.absent _ hmem sub rfl
  rw [hp] at hnone
  have hheld x : (s.record p sub).Held x ↔ x = sub ∨ s.Held x := by
    by_cases hx : x = sub
    · subst hx
      simp [Objects.Held, hp]
    · rw [or_iff_right hx]
      unfold Objects.Held
      by_cases hq : (s.subscriptions x).subscriberID = p
      · simp only [SFU.record, SFU.onParticipant, hq, Function.update_self, GoMap.lookup_insert_eq]
        split_ifs with hid
        · rw [hid, hnone]
          simp [Ne.symm hx]
        · rfl
      · simp [hq]
  have hret x : retired (s.record p sub) rest x = retired s (.record p sub ::ₘ rest) x := by
    simp [retired]
  have hatt x : tally Instr.attaches x (.record p sub ::ₘ rest) =
      tally Instr.attaches x rest + if sub = x then 1 else 0 := by
    simp
  refine ⟨fun x => ?_, ?_, ?_⟩
  · have hstage := h.stage x
    rw [hatt] at hstage
    rw [hret, if_congr (hheld x) rfl rfl]
    by_cases hx : x = sub
    · subst hx
      rw [if_pos rfl] at hstage
      rw [if_pos (.inl rfl)]
      change _ = if x < s.nextSubscription then 1 else 0
      split_ifs at hstage ⊢ <;> omega
    · rw [if_neg (Ne.symm hx)] at hstage
      rw [if_congr (or_iff_right hx) rfl rfl]
      exact hstage
  · simpa using h.made
  · simp only [hret]
    simpa using h.removed

/-- A subscription that is given up. -/
theorem unsubscribe {id : PublicationId} (h : Life s (.unsubscribe p id ::ₘ rest))
    (hmaps : Maps s.toObjects) (hex : Executes s c (.unsubscribe p id) s' new) :
    Life s' (new + rest) := by
  cases hex with
  | notHeld => exact h.skip hmaps rfl
  | unsubscribe _ _ sub _ hsub => ?_
  refine h.retire (fun x => ?_) rfl ?_ (List.nodup_singleton sub) (fun x hx => ?_) (fun x => ?_)
    (fun x => ?_) ?_
  · simp
  · simp
  · rw [List.mem_singleton.1 hx]
    exact hmaps.held_iff.2 ⟨p, id, hsub⟩
  · obtain ⟨-, hp, hid⟩ := hmaps.subscriptions p id sub hsub
    rw [List.mem_singleton]
    unfold Objects.Held
    by_cases hq : (s.subscriptions x).subscriberID = p
    · simp only [SFU.onParticipant, hq, Function.update_self, GoMap.lookup_erase_eq]
      split_ifs with heq
      · rw [heq, hsub]
        simp [eq_comm]
      · refine (and_iff_left ?_).symm
        rintro rfl
        exact heq hid
    · refine Iff.trans (by simp [hq]) (and_iff_left ?_).symm
      rintro rfl
      exact hq hp
  · simp [retired, List.count_singleton]
    omega
  · simp
    omega

/-- Everything a participant holds is given up when it is closed. -/
theorem close (h : Life s (.close p ::ₘ rest)) (hmaps : Maps s.toObjects)
    (hex : Executes s c (.close p) s' new) : Life s' (new + rest) := by
  cases hex with
  | closedBefore => exact h.skip hmaps rfl
  | close _ _ _ hall => ?_
  have hmem : ∀ x, x ∈ c.subscriptions ↔
      ∃ id, (s.participants p).subscriptions.lookup id = some x := by
    intro x
    rw [← mem_coe, hall]
    exact GoMap.mem_values
  refine h.retire (l := c.subscriptions) (fun x => ?_) rfl ?_ ?_ (fun x hx => ?_) (fun x => ?_)
    (fun x => ?_) ?_
  · have hzero : tally Instr.attaches x ((c.subscriptions.map Instr.detachLoad : List Instr) :
        Multiset Instr) = 0 := by
      refine tally_eq_zero.2 fun j hj => ?_
      obtain ⟨y, -, rfl⟩ := List.mem_map.1 (mem_coe.1 hj)
      simp
    simp [hzero]
  · have hzero : Instr.made ∘ Instr.detachLoad = fun _ => 0 := rfl
    simp [hzero]
  · rw [← coe_nodup, hall]
    refine GoMap.nodup_values fun id id' x hx hx' => ?_
    exact (hmaps.subscriptions p id x hx).2.2.symm.trans (hmaps.subscriptions p id' x hx').2.2
  · obtain ⟨id, hlook⟩ := (hmem x).1 hx
    exact hmaps.held_iff.2 ⟨p, id, hlook⟩
  · rw [hmem]
    unfold Objects.Held
    by_cases hq : (s.subscriptions x).subscriberID = p
    · simpa [hq] using fun hlook => ⟨_, hlook⟩
    · refine Iff.trans (by simp [hq]) (and_iff_left ?_).symm
      rintro ⟨id, hlook⟩
      exact hq (hmaps.subscriptions p id x hlook).2.1
  · have hcount := tally_coe_map (f := Instr.retires) (g := Instr.detachLoad) (a := x)
      (fun _ => rfl) c.subscriptions
    simp [retired, hcount]
    omega
  · have hzero : Instr.removed ∘ Instr.detachLoad = fun _ => 0 := rfl
    simp [hzero]
    omega

theorem closeQueue (h : Life s (.closeQueue sub ::ₘ rest)) (hmaps : Maps s.toObjects)
    (hmaps' : Maps (s.onSubscription sub fun x => { x with closed := true }).toObjects) :
    Life (s.onSubscription sub fun x => { x with closed := true }) rest := by
  refine h.keep (fun x => ?_) rfl ?_ (fun x => ?_) (held_iff hmaps hmaps' fun _ => rfl) ?_
  · simp
  · simp
  · by_cases hx : x = sub
    · subst hx
      -- it was not closed before, since it was still being retired
      have hstage := h.stage x
      have hret : retired s (.closeQueue x ::ₘ rest) x =
          tally Instr.retires x rest + 1 + (s.subscriptions x).closed.toNat := by
        simp [retired]
      rw [hret] at hstage ⊢
      simp only [retired, SFU.onSubscription, Function.update_self, Bool.toNat_true]
      split_ifs at hstage <;> omega
    · simp [retired, hx, Ne.symm hx]
  · simp

end Life

section Life

variable {s s' : SFU} {P rest : Multiset Instr} {i : Instr} {new : List Instr} {c : Choice}

/-- **Every instruction moves subscriptions on by at most one stage**, and keeps the counters. -/
theorem exec_life (h : Life s (i ::ₘ rest)) (hlocks : Locks s.toObjects (i ::ₘ rest))
    (hwf : WellFormed s.toObjects (i ::ₘ rest)) (hmaps' : Maps s'.toObjects)
    (hex : exec s i c = some (s', new)) : Life s' (new + rest) := by
  have hmaps := hwf.maps
  cases hquiet : i.quiet with
  | true =>
    have hq := exec_quiet hquiet hex
    refine h.quiet hmaps hmaps' hq ?_
    rw [working_new hq.plain, working_cons (Instr.plain_of_quiet hquiet)]
  | false =>
    have hex := exec_executes hex
    cases i with
    | subscribe => exact h.subscribe hmaps hmaps' hex
    | unsubscribe => exact h.unsubscribe hmaps hex
    | close => exact h.close hmaps hex
    | record =>
      cases hex
      simpa using h.record hlocks hwf
    | closeQueue =>
      cases hex
      simpa using h.closeQueue hmaps hmaps'
    | attach p sub =>
      cases hex
      refine h.pass hmaps hmaps' rfl rfl rfl rfl rfl (fun x => ?_) rfl ⟨rfl, rfl⟩
      by_cases hx : x = sub
      · simp [hx]
      · simp [hx]
    | attachLoad | attachSwap | detachLoad | detachSwap =>
      cases hex <;> exact h.pass hmaps hmaps' rfl rfl rfl rfl rfl (fun _ => rfl) rfl ⟨rfl, rfl⟩
    | countMade =>
      cases hex
      refine h.keep (fun x => ?_) rfl ?_ (fun x => ?_) (fun _ => Iff.rfl) ?_
      · simp
      · simp only [Instr.made, coe_nil, zero_add, map_cons, sum_cons]
        omega
      · simp [retired]
      · simp
    | countRemoved n =>
      cases hex
      refine h.keep (fun x => ?_) rfl ?_ (fun x => ?_) (fun _ => Iff.rfl) ?_
      · simp
      · simp
      · simp [retired]
      · simp only [Instr.removed, coe_nil, zero_add, map_cons, sum_cons]
        omega
    | _ => cases hquiet

theorem launch_life {op : Op} {code : List Instr} (h : Life s P) (hmaps : Maps s.toObjects)
    (hmaps' : Maps s'.toObjects) (hla : launch s op = some (s', code)) : Life s' (code + P) := by
  have hq := launch_quiet hla
  exact h.quiet hmaps hmaps' hq (working_new hq.plain P)

end Life

end PulseRTC.Sfu
