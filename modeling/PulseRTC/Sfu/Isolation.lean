import Mathlib.Algebra.BigOperators.Group.Finset.Piecewise
import PulseRTC.Sfu.Bookkeeping
import PulseRTC.Sfu.Presence

/-!
# Media isolation

A publication forwards its packets to the queues in its sink list, which `attachSink` and `detach`
change with compare-and-swap loops while other goroutines do the same. `Sinks` says what the lists
hold at any time: a queue is listed exactly from the swap of its attachment to the swap of its
detachment (`Sinks.listed`). Sink ids are taken once and tell the subscriptions of a publication
apart, so a detachment takes out its own queue and no other.

`sinks_exactly_held`: when nothing is in progress, the sink list of a publication is exactly the
queues of the subscriptions held to it, all of them by participants of its own room.
-/

namespace PulseRTC.Sfu

open Foundations Cluster Multiset List Option Prod

/-! ## What the sink lists hold -/

/-- The subscription whose queue is not yet, or no longer, listed. -/
@[simp] def Instr.unlisted : Instr → Option SubscriptionRef
  | .attach _ sub | .attachLoad _ sub | .attachSwap _ sub _ | .closeQueue sub => some sub
  | _ => none

/-- The subscription that has taken its sink id and is still being attached. -/
@[simp] def Instr.numbered : Instr → Option SubscriptionRef
  | .attachLoad _ sub | .attachSwap _ sub _ | .record _ sub => some sub
  | _ => none

/-- What a compare-and-swap loop has loaded, and for which subscription. -/
@[simp] def Instr.loaded : Instr → Option (SubscriptionRef × Cell (ℕ × SubscriptionRef))
  | .attachSwap _ sub cur | .detachSwap sub cur => some (sub, cur)
  | _ => none

/-- Sink ids tell the subscriptions of a publication apart; the lists hold the queues of attached
subscriptions under their sink ids; and every loaded value was the list at some time. -/
structure Sinks (s : SFU) (P : Multiset Instr) : Prop where
  bound : ∀ x < s.nextSubscription,
    (s.subscriptions x).sink ≤ (s.publications (s.subscriptions x).publication).subSeq
  distinct : ∀ x < s.nextSubscription, ∀ y < s.nextSubscription,
    (s.subscriptions x).publication = (s.subscriptions y).publication →
      (s.subscriptions x).sink = (s.subscriptions y).sink → (s.subscriptions x).sink ≠ 0 → x = y
  entry : ∀ pub < s.nextPublication, ∀ e ∈ (s.publications pub).subSinks.list,
    e.2 < s.nextSubscription ∧ (s.subscriptions e.2).publication = pub ∧
      (s.subscriptions e.2).sink = e.1 ∧ e.1 ≠ 0
  listed : ∀ x < s.nextSubscription, ((s.sinks x).list.map Prod.snd).count x +
    (tally Instr.unlisted x P + (s.subscriptions x).closed.toNat) = 1
  numbered : ∀ i ∈ P, ∀ x, i.numbered = some x → (s.subscriptions x).sink ≠ 0
  loaded : ∀ i ∈ P, ∀ x cur, i.loaded = some (x, cur) → (s.sinks x).Coherent cur
  nil : ∀ pub < s.nextPublication,
    (s.publications pub).subSinks.version = 0 → (s.publications pub).subSinks.list = []

variable {i : Instr} {x : SubscriptionRef} {s : SFU}

theorem Instr.Ok.loaded_lt {s : Objects} (hok : i.Ok s) {cur : Cell (ℕ × SubscriptionRef)}
    (h : i.loaded = some (x, cur)) :
    x < s.nextSubscription := by
  cases i with
  | attachSwap p sub c =>
    obtain ⟨rfl, -⟩ := mk.inj (some.inj h)
    exact hok.1
  | detachSwap sub c =>
    obtain ⟨rfl, -⟩ := mk.inj (some.inj h)
    exact hok
  | _ => cases h

theorem Instr.Ok.numbered_lt {s : Objects} (hok : i.Ok s) (h : i.numbered = some x) :
    x < s.nextSubscription := by
  cases i with
  | attachLoad p sub | attachSwap p sub c | record p sub =>
    cases h
    exact hok.1
  | _ => cases h

theorem Instr.unlisted_of_plain (h : i.plain = true) : i.unlisted = none := by
  cases i <;> first | rfl | cases h

theorem Instr.numbered_of_plain (h : i.plain = true) : i.numbered = none := by
  cases i <;> first | rfl | cases h

theorem Instr.loaded_of_plain (h : i.plain = true) : i.loaded = none := by
  cases i <;> first | rfl | cases h

theorem Instr.attaches_or_retires (h : i.unlisted = some x) :
    i.attaches = some x ∨ i.retires = some x := by
  cases i with
  | attach p sub | attachLoad p sub | attachSwap p sub => exact .inl h
  | closeQueue sub => exact .inr h
  | _ => cases h

/-- Whoever retires a subscription is alone with it, and its queue is not closed yet. -/
theorem Life.alone {rest : Multiset Instr} (h : Life s (i ::ₘ rest)) (hi : i.retires = some x) :
    tally Instr.unlisted x rest = 0 ∧ (s.subscriptions x).closed = false := by
  have hstage := h.stage x
  rw [retired, tally_cons, tally_cons, if_pos hi] at hstage
  have hatt : tally Instr.attaches x rest = 0 := by
    split_ifs at hstage <;> omega
  have hret : tally Instr.retires x rest = 0 := by
    split_ifs at hstage <;> omega
  have hclosed : (s.subscriptions x).closed.toNat = 0 := by
    split_ifs at hstage <;> omega
  refine ⟨tally_eq_zero.2 fun j hj hsub => ?_, Bool.toNat_eq_zero.1 hclosed⟩
  rcases Instr.attaches_or_retires hsub with hj' | hj'
  · exact tally_eq_zero.1 hatt j hj hj'
  · exact tally_eq_zero.1 hret j hj hj'

namespace Sinks

variable {s s' : SFU} {P P' rest : Multiset Instr} {i : Instr} {new : List Instr} {c : Choice}
  {p : ParticipantId} {pub : PublicationRef} {sub : SubscriptionRef}

section Step

variable (hext : Extends s.toObjects s'.toObjects) (hmaps' : Maps s'.toObjects)

include hext hmaps'

/-- A step that changes no sink list and no sink id. New subscriptions and publications have
none. -/
theorem keep (h : Sinks s P) (hwf : WellFormed s.toObjects P)
    (hsink : ∀ x < s.nextSubscription, (s'.subscriptions x).sink = (s.subscriptions x).sink)
    (hpub : ∀ pub < s'.nextPublication,
      (pub < s.nextPublication ∧ (s'.publications pub).books = (s.publications pub).books) ∨
        (s.nextPublication ≤ pub ∧ (s'.publications pub).books = ({}, 0)))
    (hfresh : ∀ x, s.nextSubscription ≤ x → x < s'.nextSubscription →
      (s'.subscriptions x).sink = 0 ∧
        tally Instr.unlisted x P' + (s'.subscriptions x).closed.toNat = 1)
    (hlisted : ∀ x < s.nextSubscription,
      tally Instr.unlisted x P' + (s'.subscriptions x).closed.toNat =
        tally Instr.unlisted x P + (s.subscriptions x).closed.toNat)
    (hnumbered : ∀ j ∈ P', ∀ x, j.numbered = some x → ∃ i ∈ P, i.numbered = some x)
    (hloaded : ∀ j ∈ P', ∀ x cur, j.loaded = some (x, cur) →
      (∃ i ∈ P, i.loaded = some (x, cur)) ∨ (x < s.nextSubscription ∧ cur = s.sinks x)) :
    Sinks s' P' := by
  -- what is known of a publication there was before
  have hbooks : ∀ pub < s.nextPublication,
      (s'.publications pub).subSinks = (s.publications pub).subSinks ∧
        (s'.publications pub).subSeq = (s.publications pub).subSeq := by
    intro pub hlt
    rcases hpub pub (hlt.trans_le hext.nextPublication) with ⟨-, heq⟩ | ⟨hle, -⟩
    · exact mk.inj heq
    · exact absurd hlt (Nat.not_lt.2 hle)
  have hmade : ∀ x < s.nextSubscription, (s.subscriptions x).publication < s.nextPublication :=
    fun x hx => (hwf.maps.fits x hx).1.made
  have hsinks : ∀ x < s.nextSubscription, s'.sinks x = s.sinks x := by
    intro x hx
    rw [SFU.sinks, hext.target hx, (hbooks _ (hmade x hx)).1]
    rfl
  have hentry : ∀ pub < s'.nextPublication, ∀ e ∈ (s'.publications pub).subSinks.list,
      e.2 < s.nextSubscription ∧ (s.subscriptions e.2).publication = pub ∧
        (s.subscriptions e.2).sink = e.1 ∧ e.1 ≠ 0 := by
    intro pub hlt e he
    rcases hpub pub hlt with ⟨hlt', -⟩ | ⟨-, heq⟩
    · rw [(hbooks pub hlt').1] at he
      exact h.entry pub hlt' e he
    · have hnil : (s'.publications pub).subSinks = {} := congrArg fst heq
      simp [hnil] at he
  constructor
  case bound =>
    intro x hx
    rcases Nat.lt_or_ge x s.nextSubscription with hlt | hge
    · rw [hsink x hlt, hext.target hlt, (hbooks _ (hmade x hlt)).2]
      exact h.bound x hlt
    · rw [(hfresh x hge hx).1]
      exact Nat.zero_le _
  case distinct =>
    intro x hx y hy hxy heq hne
    rcases Nat.lt_or_ge x s.nextSubscription with hltx | hge
    · rcases Nat.lt_or_ge y s.nextSubscription with hlty | hge
      · rw [hext.target hltx, hext.target hlty] at hxy
        rw [hsink x hltx, hsink y hlty] at heq
        rw [hsink x hltx] at hne
        exact h.distinct x hltx y hlty hxy heq hne
      · rw [heq, (hfresh y hge hy).1] at hne
        exact absurd rfl hne
    · exact absurd (hfresh x hge hx).1 hne
  case entry =>
    intro pub hlt e he
    obtain ⟨hlt', htarget, hid, hne⟩ := hentry pub hlt e he
    refine ⟨hlt'.trans_le hext.nextSubscription, ?_, ?_, hne⟩
    · rw [hext.target hlt', htarget]
    · rw [hsink _ hlt', hid]
  case listed =>
    intro x hx
    rcases Nat.lt_or_ge x s.nextSubscription with hlt | hge
    · rw [hsinks x hlt, hlisted x hlt]
      exact h.listed x hlt
    · rw [(hfresh x hge hx).2, Nat.add_eq_right, List.count_eq_zero]
      intro hmem
      obtain ⟨e, he, rfl⟩ := List.mem_map.1 hmem
      obtain ⟨hlt, -⟩ := hentry _ (hmaps'.fits e.2 hx).1.made e he
      exact absurd hlt (Nat.not_lt.2 hge)
  case numbered =>
    intro j hj x hx
    obtain ⟨i, hi, hx⟩ := hnumbered j hj x hx
    rw [hsink x ((hwf.ok i hi).numbered_lt hx)]
    exact h.numbered i hi x hx
  case loaded =>
    intro j hj x cur hx
    rcases hloaded j hj x cur hx with ⟨i, hi, hx⟩ | ⟨hlt, rfl⟩
    · rw [hsinks x ((hwf.ok i hi).loaded_lt hx)]
      exact h.loaded i hi x cur hx
    · rw [hsinks x hlt]
      exact Cell.Coherent.refl _
  case nil =>
    intro pub hlt hver
    rcases hpub pub hlt with ⟨hlt', -⟩ | ⟨-, heq⟩
    · rw [(hbooks pub hlt').1] at hver ⊢
      exact h.nil pub hlt' hver
    · have hnil : (s'.publications pub).subSinks = {} := congrArg fst heq
      rw [hnil]

/-- A quiet step. -/
theorem quiet (h : Sinks s P) (hwf : WellFormed s.toObjects P)
    (hq : Quiet s s' new) (hP : working P' = working P) : Sinks s' P' := by
  have hold : ∀ j ∈ P', j.plain = false → j ∈ P := by
    intro j hj hplain
    have hmem := mem_working.2 ⟨hj, hplain⟩
    rw [hP] at hmem
    exact (mem_working.1 hmem).1
  refine h.keep hext hmaps' hwf (fun x _ => by rw [hq.subscriptions]) hq.publication
    (fun x hge hlt => ?_) (fun x _ => ?_) (fun j hj x hx => ?_) (fun j hj x cur hx => .inl ?_)
  · rw [hq.nextSubscription] at hlt
    exact absurd hlt (Nat.not_lt.2 hge)
  · rw [hq.subscriptions, ← tally_working (fun _ => Instr.unlisted_of_plain), hP,
      tally_working (fun _ => Instr.unlisted_of_plain)]
  · refine ⟨j, hold j hj (Bool.eq_false_iff.2 fun hplain => ?_), hx⟩
    rw [Instr.numbered_of_plain hplain] at hx
    cases hx
  · refine ⟨j, hold j hj (Bool.eq_false_iff.2 fun hplain => ?_), hx⟩
    rw [Instr.loaded_of_plain hplain] at hx
    cases hx

/-- A step with no new subscription that touches no publication, and whose instructions are left
without a sink id or a loaded value of their own. -/
theorem next (h : Sinks s (i ::ₘ rest)) (hwf : WellFormed s.toObjects (i ::ₘ rest))
    (hsink : ∀ x, (s'.subscriptions x).sink = (s.subscriptions x).sink)
    (hpub : s'.publications = s.publications ∧ s'.nextPublication = s.nextPublication)
    (hnext : s'.nextSubscription = s.nextSubscription)
    (hlisted : ∀ x < s.nextSubscription,
      tally Instr.unlisted x new + (s'.subscriptions x).closed.toNat =
        tally Instr.unlisted x {i} + (s.subscriptions x).closed.toNat)
    (hnumbered : ∀ j ∈ new, ∀ x, j.numbered = some x → i.numbered = some x)
    (hloaded : ∀ j ∈ new, ∀ x cur, j.loaded = some (x, cur) →
      x < s.nextSubscription ∧ cur = s.sinks x) : Sinks s' (new + rest) := by
  refine h.keep hext hmaps' hwf (fun x _ => hsink x) (fun pub hlt => .inl ?_)
    (fun x hge hlt => ?_) (fun x hx => ?_) (fun j hj x hx => ?_) fun j hj x cur hx => ?_
  · rw [hpub.2] at hlt
    rw [hpub.1]
    exact ⟨hlt, rfl⟩
  · rw [hnext] at hlt
    exact absurd hlt (Nat.not_lt.2 hge)
  · have hstep := hlisted x hx
    rw [tally_add, ← singleton_add, tally_add]
    omega
  · rcases mem_new.1 hj with hj | hj
    · exact ⟨i, mem_cons_self i rest, hnumbered j hj x hx⟩
    · exact ⟨j, mem_cons_of_mem hj, hx⟩
  · rcases mem_new.1 hj with hj | hj
    · exact .inr (hloaded j hj x cur hx)
    · exact .inl ⟨j, mem_cons_of_mem hj, hx⟩

/-- A new subscription is not listed. -/
theorem subscribe (h : Sinks s (.subscribe p pub ::ₘ rest))
    (hlife : Life s (.subscribe p pub ::ₘ rest))
    (hwf : WellFormed s.toObjects (.subscribe p pub ::ₘ rest))
    (hs' : s' = (s.newSubscription { subscriberID := p, publication := pub }).onParticipant p
      fun x => { x with mu := true }) :
    Sinks s' (([.attach p s.nextSubscription, .countMade, .send p (.subscriptionAdded pub)] :
      List Instr) + rest) := by
  subst hs'
  have hold {j : Instr} (hj : j ∈ (([.attach p s.nextSubscription, .countMade,
      .send p (.subscriptionAdded pub)] : List Instr) : Multiset Instr) + rest)
      (hx : j.numbered ≠ none ∨ j.loaded ≠ none) : j ∈ .subscribe p pub ::ₘ rest := by
    simp only [mem_add, mem_coe, List.mem_cons, List.not_mem_nil, or_false] at hj
    rcases hj with (rfl | rfl | rfl) | hj
    · simp at hx
    · simp at hx
    · simp at hx
    · exact mem_cons_of_mem hj
  refine h.keep hext hmaps' hwf (fun x hx => ?_) (fun _ hlt => .inl ⟨hlt, rfl⟩)
    (fun x hge hlt => ?_) (fun x hx => ?_) (fun j hj x hx => ⟨j, hold hj (.inl ?_), hx⟩)
    fun j hj x cur hx => .inl ⟨j, hold hj (.inr ?_), hx⟩
  · simp [hx.ne]
  · obtain rfl : x = s.nextSubscription := Nat.le_antisymm (Nat.lt_succ_iff.1 hlt) hge
    have hstage := hlife.stage s.nextSubscription
    rw [if_neg (Nat.lt_irrefl _), retired] at hstage
    have hzero : tally Instr.unlisted s.nextSubscription rest = 0 := by
      refine tally_eq_zero.2 fun j hj hsub => ?_
      have hj' : j ∈ Instr.subscribe p pub ::ₘ rest := mem_cons_of_mem hj
      rcases Instr.attaches_or_retires hsub with hsub | hsub
      all_goals
        have := tally_pos.2 ⟨j, hj', hsub⟩
        omega
    simp [hzero]
  · simp [hx.ne, hx.ne']
  · exact ne_none_iff_exists'.2 ⟨x, hx⟩
  · exact ne_none_iff_exists'.2 ⟨_, hx⟩

end Step

/-- A subscription takes the next sink id of its publication. -/
theorem attach (h : Sinks s (.attach p sub ::ₘ rest))
    (hwf : WellFormed s.toObjects (.attach p sub ::ₘ rest)) :
    Sinks (s.attach p sub).1 (([.attachLoad p sub] : List Instr) + rest) := by
  obtain ⟨hsub, -⟩ := hwf.ok _ (mem_cons_self _ _)
  rw [coe_singleton, singleton_add]
  set s' := (s.attach p sub).1 with hs'
  -- the new id is larger than all before
  have hother : ∀ x, x ≠ sub → s'.subscriptions x = s.subscriptions x := fun x hx => by
    simp [hs', hx]
  have hself : s'.subscriptions sub = { s.subscriptions sub with
      sink := (s.publications (s.subscriptions sub).publication).subSeq + 1 } := by
    simp [hs']
  have htarget x : (s'.subscriptions x).publication = (s.subscriptions x).publication := by
    by_cases hx : x = sub <;> simp [hs', hx]
  have hclosed x : (s'.subscriptions x).closed = (s.subscriptions x).closed := by
    by_cases hx : x = sub <;> simp [hs', hx]
  have hlist pub : (s'.publications pub).subSinks = (s.publications pub).subSinks := by
    by_cases hpub : pub = (s.subscriptions sub).publication <;> simp [hs', hpub]
  have hseq : (s'.publications (s.subscriptions sub).publication).subSeq =
      (s.publications (s.subscriptions sub).publication).subSeq + 1 := by
    simp [hs']
  have hseq' : ∀ pub, pub ≠ (s.subscriptions sub).publication →
      (s'.publications pub).subSeq = (s.publications pub).subSeq := fun pub hpub => by
    simp [hs', hpub]
  have hsinks x : s'.sinks x = s.sinks x := by
    rw [SFU.sinks, htarget, hlist]
    rfl
  have hcount : sub ∉ (s.sinks sub).list.map snd := by
    have hlisted := h.listed sub hsub
    rw [tally_cons, if_pos (by rfl)] at hlisted
    exact count_eq_zero.1 (by omega)
  constructor
  case bound =>
    intro x hx
    rw [htarget]
    by_cases heq : x = sub
    · rw [heq, hself, hseq]
    · rw [hother x heq]
      refine (h.bound x hx).trans ?_
      by_cases hpub : (s.subscriptions x).publication = (s.subscriptions sub).publication
      · rw [hpub, hseq]
        exact Nat.le_succ _
      · rw [hseq' _ hpub]
  case distinct =>
    intro x hx y hy hxy heq hne
    rw [htarget, htarget] at hxy
    by_cases hxs : x = sub
    · by_cases hys : y = sub
      · rw [hxs, hys]
      · rw [hxs, hself, hother y hys] at heq
        have hle := h.bound y hy
        rw [← hxy, hxs, ← heq] at hle
        exact absurd hle (Nat.not_succ_le_self _)
    · by_cases hys : y = sub
      · rw [hys, hself, hother x hxs] at heq
        have hle := h.bound x hx
        rw [hxy, hys, heq] at hle
        exact absurd hle (Nat.not_succ_le_self _)
      · rw [hother x hxs, hother y hys] at heq
        rw [hother x hxs] at hne
        exact h.distinct x hx y hy hxy heq hne
  case entry =>
    intro pub hlt e he
    rw [hlist] at he
    obtain ⟨hlt', hpub, hid, hne⟩ := h.entry pub hlt e he
    have hsub' : e.2 ≠ sub := by
      intro heq
      refine hcount (mem_map.2 ⟨e, ?_, heq⟩)
      rw [SFU.sinks, ← heq, hpub]
      exact he
    refine ⟨hlt', ?_, ?_, hne⟩
    · rw [htarget, hpub]
    · rw [hother _ hsub', hid]
  case listed =>
    intro x hx
    have hlisted := h.listed x hx
    rw [hsinks, hclosed, tally_cons]
    rw [tally_cons] at hlisted
    exact hlisted
  case numbered =>
    intro j hj x hx
    by_cases heq : x = sub
    · rw [heq, hself]
      exact Nat.succ_ne_zero _
    · rw [hother x heq]
      rcases mem_cons.1 hj with rfl | hj
      · exact absurd (some.inj hx).symm heq
      · exact h.numbered j (mem_cons_of_mem hj) x hx
  case loaded =>
    intro j hj x cur hx
    rw [hsinks]
    rcases mem_cons.1 hj with rfl | hj
    · cases hx
    · exact h.loaded j (mem_cons_of_mem hj) x cur hx
  case nil =>
    intro pub hlt hver
    rw [hlist] at hver ⊢
    exact h.nil pub hlt hver

variable {cur : Cell (ℕ × SubscriptionRef)}

/-- A swap that succeeds stores the next list of one publication. -/
theorem swapped (h : Sinks s (i ::ₘ rest)) (hsub : sub < s.nextSubscription)
    {cell : Cell (ℕ × SubscriptionRef)} {l : List (ℕ × SubscriptionRef)}
    (hswap : (s.sinks sub).swap cur l = some cell) {j : Instr}
    (hentry : ∀ e ∈ cell.list, e ∈ (s.sinks sub).list ∨
      (e = ((s.subscriptions sub).sink, sub) ∧ (s.subscriptions sub).sink ≠ 0))
    (hlisted : ∀ x < s.nextSubscription,
      (s.subscriptions x).publication = (s.subscriptions sub).publication →
        (cell.list.map Prod.snd).count x + tally Instr.unlisted x {j} =
          ((s.sinks sub).list.map Prod.snd).count x + tally Instr.unlisted x {i})
    (hj : ∀ x, j.unlisted = some x ∨ i.unlisted = some x → x = sub)
    (hnumbered : ∀ x, j.numbered = some x → i.numbered = some x) (hloaded : j.loaded = none) :
    Sinks (s.onPublication (s.subscriptions sub).publication fun x => { x with subSinks := cell })
      (([j] : List Instr) + rest) := by
  rw [coe_singleton, singleton_add]
  set s' := s.onPublication (s.subscriptions sub).publication fun x => { x with subSinks := cell }
    with hs'
  have hself : (s'.publications (s.subscriptions sub).publication).subSinks = cell := by
    simp [hs']
  have hother : ∀ pub, pub ≠ (s.subscriptions sub).publication →
      (s'.publications pub).subSinks = (s.publications pub).subSinks := fun pub hpub => by
    simp [hs', hpub]
  have hseq pub : (s'.publications pub).subSeq = (s.publications pub).subSeq := by
    by_cases hpub : pub = (s.subscriptions sub).publication <;> simp [hs', hpub]
  have hsame {x} (hpub : (s.subscriptions x).publication = (s.subscriptions sub).publication) :
      s'.sinks x = cell ∧ s.sinks x = s.sinks sub := by
    rw [SFU.sinks, SFU.sinks, SFU.sinks, ← hpub]
    exact ⟨hpub ▸ hself, rfl⟩
  constructor
  case bound =>
    intro x hx
    rw [hseq]
    exact h.bound x hx
  case distinct => exact h.distinct
  case entry =>
    intro pub hlt e he
    by_cases hpub : pub = (s.subscriptions sub).publication
    · subst hpub
      rw [hself] at he
      rcases hentry e he with he | ⟨rfl, hne⟩
      · exact h.entry _ hlt e he
      · exact ⟨hsub, rfl, rfl, hne⟩
    · rw [hother pub hpub] at he
      exact h.entry pub hlt e he
  case listed =>
    intro x hx
    have hold := h.listed x hx
    rw [tally_cons] at hold ⊢
    by_cases hpub : (s.subscriptions x).publication = (s.subscriptions sub).publication
    · obtain ⟨hcell, hsinks⟩ := hsame hpub
      have hstep := hlisted x hx hpub
      rw [tally_singleton, tally_singleton] at hstep
      rw [hcell]
      rw [hsinks] at hold
      change _ + (_ + (s.subscriptions x).closed.toNat) = 1
      omega
    · have hne : x ≠ sub := fun heq => hpub (by rw [heq])
      rw [if_neg fun hx' => hne (hj x (.inr hx'))] at hold
      rw [show s'.sinks x = s.sinks x from hother _ hpub, if_neg fun hx' => hne (hj x (.inl hx'))]
      exact hold
  case numbered =>
    intro k hk x hx
    rcases mem_cons.1 hk with rfl | hk
    · exact h.numbered i (mem_cons_self _ _) x (hnumbered x hx)
    · exact h.numbered k (mem_cons_of_mem hk) x hx
  case loaded =>
    intro k hk x old hx
    rcases mem_cons.1 hk with rfl | hk
    · rw [hloaded] at hx
      cases hx
    · have hcoh := h.loaded k (mem_cons_of_mem hk) x old hx
      by_cases hpub : (s.subscriptions x).publication = (s.subscriptions sub).publication
      · obtain ⟨hcell, hsinks⟩ := hsame hpub
        rw [hcell]
        rw [hsinks] at hcoh
        exact hcoh.swap hswap
      · rwa [show s'.sinks x = s.sinks x from hother _ hpub]
  case nil =>
    intro pub hlt hver
    by_cases hpub : pub = (s.subscriptions sub).publication
    · subst hpub
      rw [hself] at hver
      exact absurd hver (Cell.swap_version hswap)
    · rw [hother pub hpub] at hver ⊢
      exact h.nil pub hlt hver

/-- The swap of `attachSink` lists the queue. -/
theorem attachSwap (h : Sinks s (.attachSwap p sub cur ::ₘ rest))
    (hwf : WellFormed s.toObjects (.attachSwap p sub cur ::ₘ rest))
    (hswap : (s.sinks sub).swap cur (cur.list ++ [((s.subscriptions sub).sink, sub)]) = some cell) :
    Sinks (s.onPublication (s.subscriptions sub).publication fun x => { x with subSinks := cell })
      (([.record p sub] : List Instr) + rest) := by
  have hmem : Instr.attachSwap p sub cur ∈ Instr.attachSwap p sub cur ::ₘ rest :=
    mem_cons_self _ _
  obtain ⟨hsub, -⟩ := hwf.ok _ hmem
  obtain ⟨rfl, hlist⟩ := Cell.swap_eq_some (h.loaded _ hmem sub cur rfl) hswap
  refine h.swapped hsub hswap (fun e he => ?_) (fun x _ _ => ?_) (fun x hx => ?_)
    (fun _ hx => hx) rfl
  · rw [hlist] at he
    rcases List.mem_append.1 he with he | he
    · exact .inl he
    · exact .inr ⟨List.mem_singleton.1 he, h.numbered _ hmem sub rfl⟩
  · rw [hlist]
    simp [List.count_singleton]
  · rcases hx with hx | hx
    · cases hx
    · exact (some.inj hx).symm

/-- The swap of `detach` takes out the queue and no other. -/
theorem detachSwap (h : Sinks s (.detachSwap sub cur ::ₘ rest))
    (hlife : Life s (.detachSwap sub cur ::ₘ rest))
    (hwf : WellFormed s.toObjects (.detachSwap sub cur ::ₘ rest))
    (hswap : (s.sinks sub).swap cur
      (cur.list.filter fun e => e.1 ≠ (s.subscriptions sub).sink) = some cell) :
    Sinks (s.onPublication (s.subscriptions sub).publication fun x => { x with subSinks := cell })
      (([.closeQueue sub] : List Instr) + rest) := by
  have hmem : Instr.detachSwap sub cur ∈ Instr.detachSwap sub cur ::ₘ rest :=
    mem_cons_self _ _
  have hsub : sub < s.nextSubscription := hwf.ok _ hmem
  have hmade := (hwf.maps.fits sub hsub).1.made
  obtain ⟨rfl, hlist⟩ := Cell.swap_eq_some (h.loaded _ hmem sub cur rfl) hswap
  refine h.swapped hsub hswap (fun e he => ?_) (fun x hx hpub => ?_) (fun x hx => ?_)
    (fun _ hx => by cases hx) rfl
  · rw [hlist] at he
    exact .inl (List.mem_of_mem_filter he)
  · have hentry := h.entry _ hmade
    rw [hlist]
    by_cases heq : x = sub
    · subst heq
      -- its own entry, of which there is exactly one, has its sink id
      obtain ⟨hzero, hclosed⟩ := hlife.alone (x := x) rfl
      have hlisted := h.listed x hsub
      rw [tally_cons, hzero, hclosed] at hlisted
      have hout : x ∉ ((s.sinks x).list.filter fun e => e.1 ≠ (s.subscriptions x).sink).map
          snd := by
        intro hx
        obtain ⟨e, he, rfl⟩ := List.mem_map.1 hx
        obtain ⟨he, hne⟩ := List.mem_filter.1 he
        exact absurd (hentry e he).2.2.1.symm (by simpa using hne)
      rw [List.count_eq_zero.2 hout]
      simpa using hlisted.symm
    · -- the entries of another subscription have another sink id
      have hkeep : (((s.sinks sub).list.filter fun e => e.1 ≠ (s.subscriptions sub).sink).map
          snd).count x = ((s.sinks sub).list.map snd).count x := by
        rw [List.count_eq_countP, List.count_eq_countP, List.countP_map, List.countP_filter,
          List.countP_map]
        refine List.countP_congr fun e he => ?_
        obtain ⟨hlt, htarget, hid, hne⟩ := hentry e he
        simp only [Function.comp_apply, beq_iff_eq, ne_eq, decide_not, Bool.and_eq_true,
          Bool.not_eq_eq_eq_not, Bool.not_true, decide_eq_false_iff_not, and_iff_left_iff_imp]
        rintro rfl hsink
        exact heq (h.distinct e.2 hlt sub hsub htarget (hid.trans hsink) (hid ▸ hne))
      rw [hkeep]
      simp [Ne.symm heq]
  · rcases hx with hx | hx
    · exact (some.inj hx).symm
    · cases hx

/-- `detach` finds a list: the queue is in it. -/
theorem version_ne (h : Sinks s (.detachLoad sub ::ₘ rest))
    (hlife : Life s (.detachLoad sub ::ₘ rest))
    (hwf : WellFormed s.toObjects (.detachLoad sub ::ₘ rest)) : (s.sinks sub).version ≠ 0 := by
  intro hver
  have hsub : sub < s.nextSubscription := hwf.ok _ (mem_cons_self _ _)
  obtain ⟨hzero, hclosed⟩ := hlife.alone (x := sub) rfl
  have hlisted := h.listed sub hsub
  have hnil : (s.sinks sub).list = [] := h.nil _ (hwf.maps.fits sub hsub).1.made hver
  simp [hnil, hzero, hclosed] at hlisted

end Sinks

variable {code : List Instr} {op : Op}

section Exec

variable {s s' : SFU} {P rest : Multiset Instr} {i : Instr} {new : List Instr} {c : Choice}

/-- Every instruction keeps the sink lists in order. -/
theorem exec_sinks (h : Sinks s (i ::ₘ rest)) (hlife : Life s (i ::ₘ rest))
    (hwf : WellFormed s.toObjects (i ::ₘ rest)) (hext : Extends s.toObjects s'.toObjects)
    (hmaps' : Maps s'.toObjects) (hex : exec s i c = some (s', new)) : Sinks s' (new + rest) := by
  cases hquiet : i.quiet with
  | true =>
    have hq := exec_quiet hquiet hex
    refine h.quiet hext hmaps' hwf hq ?_
    rw [working_new hq.plain, working_cons (Instr.plain_of_quiet hquiet)]
  | false =>
    cases exec_executes hex with
    | subscribe => exact h.subscribe hext hmaps' hlife hwf rfl
    | attach => exact h.attach hwf
    | attachSwap _ _ _ _ hswap => exact h.attachSwap hwf hswap
    | detachSwap _ _ _ hswap => exact h.detachSwap hlife hwf hswap
    | detachNil sub hnil => exact absurd hnil (h.version_ne hlife hwf)
    | attachLoad p sub =>
      obtain ⟨hsub, -⟩ := hwf.ok _ (mem_cons_self _ _)
      refine h.next hext hmaps' hwf (fun _ => rfl) ⟨rfl, rfl⟩ rfl (fun x _ => ?_)
        (by simp) (by simpa using hsub)
      simp
    | detachLoad sub =>
      have hsub : sub < s.nextSubscription := hwf.ok _ (mem_cons_self _ _)
      refine h.next hext hmaps' hwf (fun _ => rfl) ⟨rfl, rfl⟩ rfl (fun x _ => ?_)
        (by simp) (by simpa using hsub)
      simp
    | closeQueue sub =>
      obtain ⟨-, hclosed⟩ := hlife.alone (x := sub) rfl
      refine h.next hext hmaps' hwf (fun x => ?_) ⟨rfl, rfl⟩ rfl (fun x _ => ?_) (by simp) (by simp)
      all_goals by_cases heq : x = sub
      · simp [heq]
      · simp [heq]
      · subst heq
        simp [hclosed]
      · simp [heq, Ne.symm heq]
    | close p =>
      have hnew : ∀ j ∈ c.subscriptions.map Instr.detachLoad ++
          [.countRemoved c.subscriptions.length],
          j.unlisted = none ∧ j.numbered = none ∧ j.loaded = none := by
        intro j hj
        rcases mem_snoc.1 hj with hj | rfl
        · obtain ⟨sub, -, rfl⟩ := mem_map.1 hj
          exact ⟨rfl, rfl, rfl⟩
        · exact ⟨rfl, rfl, rfl⟩
      refine h.next hext hmaps' hwf (fun _ => rfl) ⟨rfl, rfl⟩ rfl (fun x _ => ?_)
        (fun j hj x hx => ?_) (fun j hj x cur hx => ?_)
      · rw [tally_eq_zero.2 fun j hj hx => ?_]
        · simp
        · rw [(hnew j (mem_coe.1 hj)).1] at hx
          cases hx
      · rw [(hnew j hj).2.1] at hx
        cases hx
      · rw [(hnew j hj).2.2] at hx
        cases hx
    | notSubscribed | attachFails | record | countMade | notHeld | unsubscribe | detachFails
    | countRemoved | closedBefore =>
      refine h.next hext hmaps' hwf (fun _ => rfl) ⟨rfl, rfl⟩ rfl (fun x _ => ?_)
        (by simp) (by simp)
      simp
    | _ => cases hquiet

theorem launch_sinks (h : Sinks s P) (hwf : WellFormed s.toObjects P)
    (hext : Extends s.toObjects s'.toObjects) (hmaps' : Maps s'.toObjects)
    (hla : launch s op = some (s', code)) : Sinks s' (code + P) := by
  have hq := launch_quiet hla
  exact h.quiet hext hmaps' hwf hq (working_new hq.plain P)

end Exec

/-! ## Whole runs -/

/-- Everything the books of the SFU keep. -/
structure Books (s : SFU) (P : Multiset Instr) : Prop where
  wellFormed : WellFormed s.toObjects P
  locks : Locks s.toObjects P
  presence : Presence s.toObjects P
  life : Life s P
  sinks : Sinks s P

theorem books_empty : Books {} 0 where
  wellFormed := wellFormed_empty
  locks := ⟨by simp, by simp, by simp, by simp⟩
  presence := ⟨by simp, by simp, by simp⟩
  life := ⟨fun x => by simp [retired, Objects.Held], by simp, by simp⟩
  sinks := ⟨by simp, by simp, by simp, by simp, by simp, by simp, by simp⟩

theorem exec_books {s' : SFU} {rest : Multiset Instr} {c : Choice} {new : List Instr}
    (h : Books s (i ::ₘ rest)) (hex : exec s i c = some (s', new)) : Books s' (new + rest) := by
  obtain ⟨hwf, hext⟩ := exec_wellFormed h.wellFormed hex
  exact ⟨hwf, exec_locks h.locks h.wellFormed hext hex,
    exec_presence h.presence h.wellFormed.maps hex,
    exec_life h.life h.locks h.wellFormed hwf.maps hex,
    exec_sinks h.sinks h.life h.wellFormed hext hwf.maps hex⟩

theorem launch_books {s' : SFU} {P : Multiset Instr} (h : Books s P)
    (hla : launch s op = some (s', code)) : Books s' (code + P) := by
  obtain ⟨hwf, hext⟩ := launch_wellFormed h.wellFormed hla
  exact ⟨hwf, launch_locks h.locks h.wellFormed hext hla, launch_presence h.presence hla,
    launch_life h.life h.wellFormed.maps hwf.maps hla,
    launch_sinks h.sinks h.wellFormed hext hwf.maps hla⟩

/-- **The books are kept in every run.** -/
theorem run_books {as : List Act} {t : System} (hrun : run step System.empty as = some t) :
    Books t.shared t.pending :=
  Pool.run_inv_always (I := Books) (fun _ _ _ _ _ h => launch_books h)
    (fun _ _ _ _ _ _ h => exec_books h) books_empty hrun

/-! ## When nothing is in progress -/

/-- The queues a publication forwards to. -/
def SFU.queues (s : SFU) (pub : PublicationRef) : List SubscriptionRef :=
  (s.publications pub).subSinks.list.map Prod.snd

/-- The participant is open and has the subscription. -/
def SFU.HeldBy (s : SFU) (p : ParticipantId) (x : SubscriptionRef) : Prop :=
  (s.participants p).closed = false ∧ ∃ id, (s.participants p).subscriptions.lookup id = some x

/-- How many subscriptions the participants hold. -/
def SFU.numHeld (s : SFU) : ℕ := ∑ p ∈ s.joined, (s.participants p).subscriptions.keys.card

section Idle

variable {s : SFU}

variable {x : SubscriptionRef} {pub : PublicationRef}

theorem Books.heldBy_iff {P : Multiset Instr} (h : Books s P) :
    (∃ p, s.HeldBy p x) ↔ s.Held x := by
  rw [h.wellFormed.maps.held_iff]
  constructor
  · rintro ⟨p, -, id, hlook⟩
    exact ⟨p, id, hlook⟩
  · rintro ⟨p, id, hlook⟩
    refine ⟨p, Bool.eq_false_iff.2 fun hclosed => ?_, id, hlook⟩
    rw [h.locks.empty p hclosed] at hlook
    cases hlook

theorem Books.count_queues (h : Books s 0) (hx : x < s.nextSubscription) :
    (if s.Held x then 1 else 0) + (s.subscriptions x).closed.toNat = 1 ∧
      (s.queues (s.subscriptions x).publication).count x = if s.Held x then 1 else 0 := by
  have hstage := h.life.stage x
  have hlisted := h.sinks.listed x hx
  simp only [tally_zero, retired, Nat.zero_add, if_pos hx] at hstage hlisted
  exact ⟨hstage, by rw [SFU.queues]; exact Nat.add_right_cancel (hlisted.trans hstage.symm)⟩

theorem Books.target_of_mem (h : Books s 0) (hpub : pub < s.nextPublication)
    (hx : x ∈ s.queues pub) :
    x < s.nextSubscription ∧ (s.subscriptions x).publication = pub := by
  obtain ⟨e, he, rfl⟩ := mem_map.1 hx
  obtain ⟨hlt, htarget, -⟩ := h.sinks.entry pub hpub e he
  exact ⟨hlt, htarget⟩

theorem Books.nodup_queues (h : Books s 0) (hpub : pub < s.nextPublication) :
    (s.queues pub).Nodup := by
  refine nodup_iff_count_le_one.2 fun x => ?_
  by_cases hx : x ∈ s.queues pub
  · obtain ⟨hlt, rfl⟩ := h.target_of_mem hpub hx
    rw [(h.count_queues hlt).2]
    split_ifs <;> omega
  · rw [count_eq_zero_of_not_mem hx]
    exact Nat.zero_le _

theorem Books.mem_queues_iff (h : Books s 0) (hpub : pub < s.nextPublication) :
    x ∈ s.queues pub ↔ (s.subscriptions x).publication = pub ∧ s.Held x := by
  constructor
  · intro hx
    obtain ⟨hlt, rfl⟩ := h.target_of_mem hpub hx
    refine ⟨rfl, ?_⟩
    by_contra hheld
    have hcount := (h.count_queues hlt).2
    rw [if_neg hheld] at hcount
    exact count_eq_zero.1 hcount hx
  · rintro ⟨rfl, hheld⟩
    obtain ⟨hlt, -⟩ := h.wellFormed.maps.subscriptions _ _ x hheld
    have hcount := (h.count_queues hlt).2
    rw [if_pos hheld] at hcount
    exact count_pos_iff.1 (by omega)

theorem Books.numHeld_eq {P : Multiset Instr} (h : Books s P) :
    s.numHeld = ((Finset.range s.nextSubscription).filter fun x => s.Held x).card := by
  have hmaps := h.wellFormed.maps
  rw [Finset.card_eq_sum_card_fiberwise (f := fun x => (s.subscriptions x).subscriberID)
    (t := s.joined)]
  · refine Finset.sum_congr rfl fun p _ => ?_
    symm
    refine Finset.card_bij (fun x _ => (s.publications (s.subscriptions x).publication).id) ?_ ?_ ?_
    · intro x hx
      simp only [Finset.mem_filter, Finset.mem_range] at hx
      obtain ⟨⟨-, hheld⟩, rfl⟩ := hx
      exact Finmap.mem_keys.2 (Finmap.mem_iff.2 ⟨x, hheld⟩)
    · intro x hx y hy heq
      simp only [Finset.mem_filter, Finset.mem_range] at hx hy
      obtain ⟨⟨-, hx⟩, rfl⟩ := hx
      obtain ⟨⟨-, hy⟩, hp⟩ := hy
      rw [Objects.Held, hp, ← heq] at hy
      exact mem_unique hx hy
    · intro id hid
      obtain ⟨x, hlook⟩ := Finmap.mem_iff.1 (Finmap.mem_keys.1 hid)
      obtain ⟨hlt, hp, hid'⟩ := hmaps.subscriptions p id x hlook
      refine ⟨x, ?_, hid'⟩
      simp only [Finset.mem_filter, Finset.mem_range]
      exact ⟨⟨hlt, hmaps.held_iff.2 ⟨p, id, hlook⟩⟩, hp⟩
  · intro x hx
    have hx' := (Finset.mem_filter.1 hx).1
    exact (hmaps.fits x (Finset.mem_range.1 hx')).1.joined

theorem Books.counters (h : Books s 0) :
    s.subscriptionsMade - s.subscriptionsRemoved = s.numHeld := by
  have hmade := h.life.made
  have hremoved := h.life.removed
  simp only [map_zero, sum_zero] at hmade hremoved
  have hsum : ∑ x ∈ Finset.range s.nextSubscription, ((if s.Held x then 1 else 0) + retired s 0 x) =
      s.nextSubscription := by
    rw [Finset.sum_const_nat (m := 1), Finset.card_range, Nat.mul_one]
    intro x hx
    simpa [retired] using (h.count_queues (Finset.mem_range.1 hx)).1
  rw [Finset.sum_add_distrib, ← Finset.card_filter, ← h.numHeld_eq] at hsum
  omega

end Idle

/-- **Media isolation and bookkeeping.** When nothing is in progress, the queues a publication
forwards to are, without duplicates, those of the subscriptions to it that open participants hold;
these are in its room, may subscribe and are not its publisher. A subscription that is held no
longer has its queue closed and is in no list, and the counters differ by the number of
subscriptions held. -/
theorem sinks_exactly_held {as : List Act} {t : System}
    (hrun : run step System.empty as = some t) (hidle : t.Idle) :
    (∀ pub < t.shared.nextPublication, (t.shared.queues pub).Nodup ∧ ∀ x, x ∈ t.shared.queues pub ↔
        (t.shared.subscriptions x).publication = pub ∧ ∃ p, t.shared.HeldBy p x) ∧
    (∀ p x, t.shared.HeldBy p x →
      let pub := t.shared.publications (t.shared.subscriptions x).publication
      p ∈ (t.shared.rooms pub.room).participants ∧ (t.shared.participants p).room = pub.room ∧
        (t.shared.participants p).perms.subscribe = true ∧ pub.participantID ≠ p) ∧
    (∀ x < t.shared.nextSubscription, (¬ ∃ p, t.shared.HeldBy p x) →
      (t.shared.subscriptions x).closed = true ∧
        ∀ pub < t.shared.nextPublication, x ∉ t.shared.queues pub) ∧
    t.shared.subscriptionsMade - t.shared.subscriptionsRemoved = t.shared.numHeld := by
  have h := run_books hrun
  rw [hidle.pending_eq] at h
  refine ⟨fun pub hpub => ⟨h.nodup_queues hpub, fun x => ?_⟩, ?_, fun x hx hheld => ?_, h.counters⟩
  · rw [h.heldBy_iff]
    exact h.mem_queues_iff hpub
  · rintro p x ⟨hopen, id, hlook⟩
    obtain ⟨hlt, rfl, -⟩ := h.wellFormed.maps.subscriptions p id x hlook
    obtain ⟨hfits, hperm⟩ := h.wellFormed.maps.fits x hlt
    refine ⟨?_, hfits.room, hperm, hfits.other⟩
    rw [← hfits.room]
    rcases h.presence.stays _ hfits.joined with hin | hclosed | hpend
    · exact hin
    · rw [hopen] at hclosed
      cases hclosed
    · exact absurd hpend (notMem_zero _)
  · rw [h.heldBy_iff] at hheld
    have hstage := (h.count_queues hx).1
    rw [if_neg hheld, Nat.zero_add] at hstage
    refine ⟨Bool.toNat_eq_one.1 hstage, fun pub hpub hmem => hheld ?_⟩
    exact ((h.mem_queues_iff hpub).1 hmem).2

/-- `a` publishes, `b` and `c` receive it, and `c` opts out again. -/
def call : List Act :=
  [Pool.Act.start (Op.join "a" 0 fullPermissions), Pool.Act.start (Op.join "b" 0 fullPermissions),
    Pool.Act.start (Op.join "c" 0 fullPermissions), Pool.Act.start (Op.onTrack "a" "cam")] ++
  go 3 3 ++ [Pool.Act.resume 3 { participants := ["b", "c"] }] ++ go 3 19 ++
  [Pool.Act.start (Op.unsubscribe "c" "cam")] ++ go 4 7

theorem sinks_exactly_held_call : ∃ t ∈ run step System.empty call, t.Idle ∧
    t.shared.queues 0 = [0] ∧ (t.shared.queues 0).Nodup ∧
      t.shared.subscriptionsMade - t.shared.subscriptionsRemoved = t.shared.numHeld := by
  have hrun : ∃ t ∈ run step System.empty call, t.Idle ∧ t.shared.queues 0 = [0] ∧
      0 < t.shared.nextPublication := by
    decide +kernel
  obtain ⟨t, hrun, hidle, hqueues, hpub⟩ := hrun
  obtain ⟨hlists, -, -, hcount⟩ := sinks_exactly_held hrun hidle
  exact ⟨t, hrun, hidle, hqueues, (hlists 0 hpub).1, hcount⟩

/-! ## Permissions

What a token allows is checked when a track arrives, when a subscription is asked for and before an
automatic one; other goroutines move between the check and what it guards. -/

/-- The participant has joined the room and may publish. -/
def MayPublish (s : Objects) (p : ParticipantId) (r : RoomRef) : Prop :=
  p ∈ s.joined ∧ (s.participants p).room = r ∧ (s.participants p).perms.publish = true

/-- The publications of this node, and the tracks on their way, are of participants that may
publish. -/
structure Licensed (s : Objects) (P : Multiset Instr) : Prop where
  made : ∀ pub < s.nextPublication, (s.publications pub).remote = false →
    MayPublish s (s.publications pub).participantID (s.publications pub).room
  pending : ∀ p id, .publish p id ∈ P → ∃ r, MayPublish s p r

section Steps

variable {s s' : SFU} {P rest : Multiset Instr} {i : Instr} {c : Choice} {new : List Instr}
  (hext : Extends s.toObjects s'.toObjects)

include hext

theorem MayPublish.mono {p : ParticipantId} {r : RoomRef} (h : MayPublish s.toObjects p r) :
    MayPublish s'.toObjects p r := by
  obtain ⟨hp, hroom, hperm⟩ := h
  refine ⟨hext.joined hp, ?_, ?_⟩
  · rw [hext.room hp, hroom]
  · rw [hext.perms hp, hperm]

theorem Licensed.made_mono (h : Licensed s.toObjects P) {pub : PublicationRef}
    (hpub : pub < s.nextPublication) (hlocal : (s'.publications pub).remote = false) :
    MayPublish s'.toObjects (s'.publications pub).participantID (s'.publications pub).room := by
  rw [hext.pubRemote hpub] at hlocal
  rw [hext.publisher hpub, hext.pubRoom hpub]
  exact (h.made pub hpub hlocal).mono hext

theorem exec_licensed (h : Licensed s.toObjects (i ::ₘ rest))
    (hex : exec s i c = some (s', new)) : Licensed s'.toObjects (new + rest) := by
  refine ⟨fun pub hlt hlocal => ?_, fun p id hmem => ?_⟩
  · rcases Nat.lt_or_ge pub s.nextPublication with hpub | hge
    · exact h.made_mono hext hpub hlocal
    · obtain ⟨rfl, -, ⟨p, id, rfl⟩ | ⟨r, id, q, rfl⟩⟩ := exec_made hex hge hlt
      · obtain ⟨r, hmay⟩ := h.pending p id (mem_cons_self _ _)
        obtain ⟨hp, -, hperm⟩ := hmay.mono hext
        cases exec_executes hex
        simp_all [MayPublish]
      · cases exec_executes hex with
        | mirrored => exact absurd hlt (Nat.not_lt.2 hge)
        | addRemote => simp at hlocal
  · rcases mem_new.1 hmem with hmem | hmem
    · -- only an arriving track leads to `publish`
      cases exec_executes hex with
      | subscribeFound _ _ _ _ _ hnew => rcases hnew with ⟨rfl, -⟩ | rfl <;> simp at hmem
      | _ => simp at hmem
    · exact (h.pending p id (mem_cons_of_mem hmem)).imp fun r hmay => hmay.mono hext

theorem launch_licensed {op : Op} (h : Licensed s.toObjects P)
    (hla : launch s op = some (s', new)) : Licensed s'.toObjects (new + P) := by
  refine ⟨fun pub hlt hlocal => h.made_mono hext ?_ hlocal, fun p id hmem => ?_⟩
  · cases launch_starts hla <;> exact hlt
  · rcases mem_new.1 hmem with hmem | hmem
    · cases launch_starts hla with
      | onTrack q id' hq =>
        cases List.mem_singleton.1 hmem
        rw [launch, if_neg (not_not.2 hq)] at hla
        split_ifs at hla with hperm
        · exact ⟨_, hq, rfl, hperm⟩
        · simp at hla
      | _ => simp at hmem
    · exact (h.pending p id hmem).imp fun r hmay => hmay.mono hext

end Steps

/-- **Permissions are enforced.** In every state of every run, a publication of this node is of a
participant of its room that may publish; and every queue a publication forwards to, also that of a
mirror, is of another participant of its room, which may subscribe. -/
theorem permissions_enforced {as : List Act} {t : System}
    (hrun : run step System.empty as = some t) {pub : PublicationRef}
    (hpub : pub < t.shared.nextPublication) :
    let s := t.shared
    let x := s.publications pub
    (x.remote = false → MayPublish s.toObjects x.participantID x.room) ∧
    ∀ sub ∈ s.queues pub,
      let p := (s.subscriptions sub).subscriberID
      p ∈ s.joined ∧ (s.participants p).room = x.room ∧
        (s.participants p).perms.subscribe = true ∧ p ≠ x.participantID := by
  have hall : Books t.shared t.pending ∧ Licensed t.shared.toObjects t.pending := by
    refine Pool.run_inv_always (I := fun s P => Books s P ∧ Licensed s.toObjects P)
      (fun s P op s' code h hla => ⟨launch_books h.1 hla, ?_⟩)
      (fun s i rest c s' new h hex => ⟨exec_books h.1 hex, ?_⟩)
      ⟨books_empty, by simp [System.empty], by simp [System.empty, Pool.pending]⟩ hrun
    · exact launch_licensed (launch_wellFormed h.1.wellFormed hla).2 h.2 hla
    · exact exec_licensed (exec_wellFormed h.1.wellFormed hex).2 h.2 hex
  obtain ⟨hbooks, hlicensed⟩ := hall
  refine ⟨hlicensed.made pub hpub, fun sub hsub => ?_⟩
  obtain ⟨e, he, rfl⟩ := List.mem_map.1 hsub
  obtain ⟨hlt, rfl, -⟩ := hbooks.sinks.entry pub hpub e he
  obtain ⟨hfits, hperm⟩ := hbooks.wellFormed.maps.fits e.2 hlt
  exact ⟨hfits.joined, hfits.room, hperm, hfits.other.symm⟩

theorem permissions_enforced_call : ∃ t ∈ run step System.empty (call.take 16),
    ∃ sub ∈ t.shared.queues 0,
      (t.shared.participants (t.shared.subscriptions sub).subscriberID).perms.subscribe = true := by
  have hrun : ∃ t ∈ run step System.empty (call.take 16),
      0 ∈ t.shared.queues 0 ∧ 0 < t.shared.nextPublication := by
    decide +kernel
  obtain ⟨t, hrun, hmem, hpub⟩ := hrun
  obtain ⟨-, hsub⟩ := permissions_enforced hrun hpub
  exact ⟨t, hrun, 0, hmem, (hsub 0 hmem).2.2.1⟩

end PulseRTC.Sfu
