import PulseRTC.Sfu.Isolation

/-!
# No subscription outlives its publication

`Subscribe`, the notice of a new publication and the bootstrap find a publication first and
subscribe to it in a later critical section; retiring a publication takes it off its list first and
unsubscribes the participants one after another later. A subscription that is held or attached is
therefore to a publication that is live, or whose removal has still to reach the subscriber
(`Covered`) — as long as this is so when `subscribe` begins.

* `subscription_live`: then no subscription outlives its publication.
-/

namespace PulseRTC.Sfu

open Foundations Cluster Multiset

/-- The removal of the publication has still to reach the participant. -/
def Retiring (s : Objects) (P : Multiset Instr) (p : ParticipantId) (pub : PublicationRef) : Prop :=
  Instr.onPublicationRemoved pub ∈ P ∨ Instr.unsubscribe p (s.publications pub).id ∈ P ∨
    (s.Listed pub ∧ Instr.retireAll (s.publications pub).participantID ∈ P)

/-- The publication is live, or its removal has still to reach the participant. -/
def Covered (s : Objects) (P : Multiset Instr) (p : ParticipantId) (pub : PublicationRef) : Prop :=
  s.Live pub ∨ Retiring s P p pub

instance (s : Objects) (P : Multiset Instr) (p : ParticipantId) (pub : PublicationRef) :
    Decidable (Retiring s P p pub) := inferInstanceAs (Decidable (_ ∨ _))

instance (s : Objects) (P : Multiset Instr) (p : ParticipantId) (pub : PublicationRef) :
    Decidable (Covered s P p pub) := inferInstanceAs (Decidable (_ ∨ _))

/-! ## Covered publications -/

section Covered

variable {s s' : SFU} {P rest : Multiset Instr} {new : List Instr} {c : Choice} {i : Instr}
  {p : ParticipantId} {pub : PublicationRef}

/-- A publication stays covered until the participant is unsubscribed from it. -/
theorem exec_covered (hmaps : Maps s.toObjects) (hmaps' : Maps s'.toObjects)
    (hext : Extends s.toObjects s'.toObjects) (hex : exec s i c = some (s', new))
    (hfits : Fits s.toObjects p pub)
    (hp : p ∈ (s'.rooms (s'.publications pub).room).participants)
    (h : Covered s.toObjects (i ::ₘ rest) p pub) :
    Covered s'.toObjects (new + rest) p pub ∨ i = .unsubscribe p (s.publications pub).id := by
  have hid := hext.pubID hfits.made
  have hown := hext.publisher hfits.made
  have hroom := hext.pubRoom hfits.made
  have hnew {j : Instr} (hj : j ∈ new) : j ∈ (new : Multiset Instr) + rest :=
    mem_add.2 (.inl (mem_coe.2 hj))
  have hrest {j : Instr} (hj : j ∈ rest) : j ∈ (new : Multiset Instr) + rest :=
    mem_add.2 (.inr hj)
  rcases h with (⟨hmem, hlisted⟩ | hmirrored) | hremoved | hunsub | ⟨hlisted, hretire⟩
  · left
    rcases exec_listed hmaps hmaps' hex hlisted with hlisted | hremoved
    · rcases exec_member hex hmem with hmem | hretire
      · refine .inl (.inl ⟨?_, hlisted⟩)
        rw [hown, hroom]
        exact hmem
      · refine .inr (.inr (.inr ⟨hlisted, ?_⟩))
        rw [hown]
        exact hnew hretire
    · exact .inr (.inl (hnew hremoved))
  · left
    rcases exec_mirrored hmaps hmaps' hex hmirrored with hmirrored | hremoved
    · exact .inl (.inr hmirrored)
    · exact .inr (.inl (hnew hremoved))
  · left
    rcases mem_cons.1 hremoved with rfl | hremoved
    · -- whoever is in the room is in the snapshot
      cases exec_executes hex with
      | onPublicationRemoved _ hall =>
        have hmem : p ∈ c.participants :=
          (mem_of_coe_eq hall).2 (Finset.mem_erase.2 ⟨hfits.other.symm, hp⟩)
        refine .inr (.inr (.inl (hnew ?_)))
        simp only [List.mem_append, List.mem_flatMap]
        exact .inl ⟨p, hmem, List.mem_cons_self⟩
    · exact .inr (.inl (hrest hremoved))
  · rcases mem_cons.1 hunsub with rfl | hunsub
    · exact .inr rfl
    · refine .inl (.inr (.inr (.inl ?_)))
      rw [hid]
      exact hrest hunsub
  · left
    rcases mem_cons.1 hretire with rfl | hretire
    · cases exec_executes hex with
      | retireAll _ hall =>
        have hmem : pub ∈ c.publications := by
          rw [← mem_coe, hall]
          exact GoMap.mem_values.2 ⟨_, hlisted⟩
        exact .inr (.inl (hnew (List.mem_map.2 ⟨pub, hmem, rfl⟩)))
    · rcases exec_listed hmaps hmaps' hex hlisted with hlisted | hremoved
      · refine .inr (.inr (.inr ⟨hlisted, ?_⟩))
        rw [hown]
        exact hrest hretire
      · exact .inr (.inl (hnew hremoved))

theorem launch_covered {op : Op} (hmaps : Maps s.toObjects) (hmaps' : Maps s'.toObjects)
    (hext : Extends s.toObjects s'.toObjects) (hla : launch s op = some (s', new))
    (hpub : pub < s.nextPublication) (h : Covered s.toObjects P p pub) :
    Covered s'.toObjects (new + P) p pub := by
  obtain ⟨hlisted', hmirrored', hmembers⟩ := launch_live hmaps hmaps' hla pub
  have hP {j : Instr} (hj : j ∈ P) : j ∈ (new : Multiset Instr) + P := mem_add.2 (.inr hj)
  rw [Covered, Objects.Live, Retiring, hext.pubID hpub, hext.publisher hpub, hext.pubRoom hpub]
  rcases h with (⟨hmem, hlisted⟩ | hmirrored) | hremoved | hunsub | ⟨hlisted, hretire⟩
  · exact .inl (.inl ⟨(hmembers _).1 hmem, hlisted'.2 hlisted⟩)
  · exact .inl (.inr (hmirrored'.2 hmirrored))
  · exact .inr (.inl (hP hremoved))
  · exact .inr (.inr (.inl (hP hunsub)))
  · exact .inr (.inr (.inr ⟨hlisted'.2 hlisted, hP hretire⟩))

end Covered

/-! ## Where subscriptions come from -/

def Objects.Active (s : Objects) (P : Multiset Instr) (x : SubscriptionRef) : Prop :=
  s.Held x ∨ ∃ j ∈ P, j.attaches = some x

section Origin

variable {s s' : SFU} {P rest : Multiset Instr} {new : List Instr} {c : Choice} {i : Instr}
  {x : SubscriptionRef}

/-- What is held or being attached after a step was so before, or has just been made. -/
theorem exec_origin (hmaps : Maps s.toObjects) (hmaps' : Maps s'.toObjects)
    (hex : exec s i c = some (s', new)) (h : s'.Held x ∨ ∃ j ∈ new, j.attaches = some x) :
    s.Held x ∨ i.attaches = some x ∨ ∃ p pub, i = .subscribe p pub ∧
      x = s.nextSubscription ∧ s'.subscriptions x = { subscriberID := p, publication := pub } := by
  rcases h with hheld | ⟨j, hj, hx⟩
  · obtain ⟨q, id, hlook⟩ := hmaps'.held_iff.1 hheld
    cases exec_holds hmaps hex with
    | same hsame =>
      rw [hsame] at hlook
      exact .inl (hmaps.held_iff.2 ⟨q, id, hlook⟩)
    | record p sub hsubs =>
      rw [hsubs] at hlook
      split_ifs at hlook
      · exact .inr (.inl hlook)
      · exact .inl (hmaps.held_iff.2 ⟨q, id, hlook⟩)
    | unsubscribe p id' hsubs | close p hsubs =>
      rw [hsubs] at hlook
      split_ifs at hlook
      exact .inl (hmaps.held_iff.2 ⟨q, id, hlook⟩)
  cases hquiet : i.quiet with
  | true =>
    rw [Instr.attaches_of_plain ((exec_quiet hquiet hex).plain j hj)] at hx
    cases hx
  | false =>
    cases exec_executes hex with
    | subscribe p pub =>
      simp only [List.mem_cons, List.not_mem_nil, or_false] at hj
      rcases hj with rfl | rfl | rfl
      · cases hx
        exact .inr (.inr ⟨p, pub, rfl, rfl, by simp⟩)
      · cases hx
      · cases hx
    | attach | attachLoad | attachFails | attachSwap =>
      rw [List.mem_singleton.1 hj] at hx
      exact .inr (.inl hx)
    | close p =>
      rcases mem_snoc.1 hj with hj | rfl
      · obtain ⟨sub, -, rfl⟩ := List.mem_map.1 hj
        cases hx
      · cases hx
    | unsubscribe =>
      simp only [List.mem_cons, List.not_mem_nil, or_false] at hj
      rcases hj with rfl | rfl | rfl <;> cases hx
    | detachNil | detachLoad | detachFails | detachSwap =>
      rw [List.mem_singleton.1 hj] at hx
      cases hx
    | notSubscribed | record | countMade | notHeld | closeQueue | countRemoved | closedBefore =>
      cases hj
    | _ => cases hquiet

theorem WellFormed.active_lt {s : Objects} (hwf : WellFormed s P) (h : s.Active P x) :
    x < s.nextSubscription := by
  rcases h with hheld | ⟨j, hj, hx⟩
  · exact (hwf.maps.subscriptions _ _ x hheld).1
  · exact ((hwf.ok j hj).locks_eq hx).1

/-- What is active after a step was so before, or `subscribe` has just made it. -/
theorem exec_active_old (hmaps : Maps s.toObjects) (hmaps' : Maps s'.toObjects)
    (hex : exec s i c = some (s', new)) (h : s'.Active (new + rest) x) :
    s.Active (i ::ₘ rest) x ∨ ∃ p pub, i = .subscribe p pub ∧
      s'.subscriptions x = { subscriberID := p, publication := pub } := by
  have hnew : (s'.Held x ∨ ∃ j ∈ new, j.attaches = some x) ∨ ∃ j ∈ rest, j.attaches = some x := by
    rcases h with hheld | ⟨j, hj, hx⟩
    · exact .inl (.inl hheld)
    · rcases mem_new.1 hj with hj | hj
      · exact .inl (.inr ⟨j, hj, hx⟩)
      · exact .inr ⟨j, hj, hx⟩
  rcases hnew with hnew | ⟨j, hj, hx⟩
  · rcases exec_origin hmaps hmaps' hex hnew with hheld | hi | ⟨p, pub, rfl, -, hsub⟩
    · exact .inl (.inl hheld)
    · exact .inl (.inr ⟨i, mem_cons_self i rest, hi⟩)
    · exact .inr ⟨p, pub, rfl, hsub⟩
  · exact .inl (.inr ⟨j, mem_cons_of_mem hj, hx⟩)

/-- What is held stays so until the participant is unsubscribed or closed. -/
theorem exec_held (hmaps : Maps s.toObjects) (hmaps' : Maps s'.toObjects)
    (hlocks : Locks s.toObjects (i ::ₘ rest)) (hok : i.Ok s.toObjects)
    (hex : exec s i c = some (s', new)) (h : s.Held x) :
    s'.Held x ∨ i = .unsubscribe (s.subscriptions x).subscriberID
        (s.publications (s.subscriptions x).publication).id ∨
      i = .close (s.subscriptions x).subscriberID := by
  obtain ⟨q, id, hlook⟩ := hmaps.held_iff.1 h
  have hkeep (hsame : (s'.participants q).subscriptions.lookup id =
      (s.participants q).subscriptions.lookup id) : s'.Held x :=
    hmaps'.held_iff.2 ⟨q, id, hsame.trans hlook⟩
  obtain ⟨-, rfl, rfl⟩ := hmaps.subscriptions q id x hlook
  cases exec_holds hmaps hex with
  | same hsame => exact .inl (hkeep (by rw [hsame]))
  | record p sub hsubs =>
    have habsent := hlocks.absent _ (mem_cons_self _ _) sub rfl
    rw [hok.2] at habsent
    refine .inl (hkeep ?_)
    rw [hsubs, if_neg]
    rintro ⟨hq, hid⟩
    rw [hq, hid, habsent] at hlook
    cases hlook
  | unsubscribe p id' hsubs =>
    by_cases heq : (s.subscriptions x).subscriberID = p ∧
        (s.publications (s.subscriptions x).publication).id = id'
    · obtain ⟨rfl, rfl⟩ := heq
      exact .inr (.inl rfl)
    · exact .inl (hkeep (by rw [hsubs, if_neg heq]))
  | close p hsubs =>
    by_cases heq : (s.subscriptions x).subscriberID = p
    · subst heq
      exact .inr (.inr rfl)
    · exact .inl (hkeep (by rw [hsubs, if_neg heq]))

/-- What is active stays so until the participant is unsubscribed or closed. -/
theorem exec_active (hwf : WellFormed s.toObjects (i ::ₘ rest)) (hmaps' : Maps s'.toObjects)
    (hlocks : Locks s.toObjects (i ::ₘ rest)) (hex : exec s i c = some (s', new))
    (h : s.Active (i ::ₘ rest) x) :
    s'.Active (new + rest) x ∨ i = .unsubscribe (s.subscriptions x).subscriberID
        (s.publications (s.subscriptions x).publication).id ∨
      i = .close (s.subscriptions x).subscriberID := by
  have hnew {j : Instr} (hj : j ∈ new) : j ∈ (new : Multiset Instr) + rest :=
    mem_add.2 (.inl (mem_coe.2 hj))
  rcases h with hheld | ⟨j, hj, hx⟩
  · exact (exec_held hwf.maps hmaps' hlocks (hwf.ok i (mem_cons_self i rest)) hex
      hheld).imp_left .inl
  left
  rcases mem_cons.1 hj with rfl | hj
  · cases exec_executes hex with
    | attach | attachLoad | attachFails | attachSwap =>
      exact .inr ⟨_, hnew (List.mem_singleton_self _), hx⟩
    | record p sub =>
      obtain rfl : sub = x := Option.some.inj hx
      refine .inl (hmaps'.held_iff.2 ⟨p, (s.publications (s.subscriptions sub).publication).id, ?_⟩)
      simp only [SFU.record, SFU.onParticipant, Function.update_self]
      exact Finmap.lookup_insert _
    | _ => cases hx
  · exact .inr ⟨j, mem_add.2 (.inr hj), hx⟩

/-- After `unsubscribe`, the participant has no active subscription of that id. -/
theorem unsubscribe_inactive {p : ParticipantId} {id : PublicationId}
    (hbooks : Books s (.unsubscribe p id ::ₘ rest))
    (hex : Executes s c (.unsubscribe p id) s' new)
    (hp : (s.subscriptions x).subscriberID = p)
    (hid : (s.publications (s.subscriptions x).publication).id = id) :
    ¬ s'.Active (new + rest) x := by
  have hwf := hbooks.wellFormed
  have hmu : (s.participants p).mu = false := by
    cases hex <;> assumption
  -- nothing is being attached, since the lock is free
  have hfree (j : Instr) (hj : j ∈ rest) : j.attaches ≠ some x := by
    intro hjx
    have hheld := hbooks.locks.mu_of_attaches hwf (mem_cons_of_mem hj) hjx
    rw [hp, hmu] at hheld
    cases hheld
  rintro (hheld | ⟨j, hj, hjx⟩)
  · cases hex with
    | notHeld _ _ _ hnone =>
      rw [Objects.Held, hp, hid, hnone] at hheld
      cases hheld
    | unsubscribe =>
      simp only [Objects.Held, SFU.onParticipant, hp, Function.update_self] at hheld
      rw [hid] at hheld
      simp at hheld
  · rcases mem_new.1 hj with hj | hj
    · cases hex with
      | notHeld => simp at hj
      | unsubscribe =>
        simp only [List.mem_cons, List.not_mem_nil, or_false] at hj
        rcases hj with rfl | rfl | rfl <;> cases hjx
    · exact hfree j hj hjx

/-- Events change nothing about the active subscriptions. -/
theorem launch_active {op : Op} (hwf : WellFormed s.toObjects P) (hmaps' : Maps s'.toObjects)
    (hla : launch s op = some (s', new)) : s'.Active (new + P) x ↔ s.Active P x := by
  have hq := launch_quiet hla
  have hheld := Life.held_iff hwf.maps hmaps' (hq.participantSubs hwf.maps) x
  refine or_congr hheld ⟨?_, ?_⟩
  · rintro ⟨j, hj, hx⟩
    rcases mem_new.1 hj with hj | hj
    · rw [Instr.attaches_of_plain (hq.plain j hj)] at hx
      cases hx
    · exact ⟨j, hj, hx⟩
  · rintro ⟨j, hj, hx⟩
    exact ⟨j, mem_add.2 (.inr hj), hx⟩

end Origin

/-! ## Whole runs -/

/-- Every subscription of a participant in the room is to a covered publication. -/
def Cover (s : Objects) (P : Multiset Instr) : Prop :=
  ∀ x, s.Active P x →
    (s.subscriptions x).subscriberID ∈
      (s.rooms (s.publications (s.subscriptions x).publication).room).participants →
    Covered s P (s.subscriptions x).subscriberID (s.subscriptions x).publication

/-- The participant and the publication of a `subscribe` that begins. -/
def Instr.subscribing : Instr → Option (ParticipantId × PublicationRef)
  | .subscribe p pub => some (p, pub)
  | _ => none

/-- `subscribe` begins while the publication is live, or while its removal has still to reach the
subscriber. -/
def FindsLive (s : SFU) (P : Multiset Instr) (i : Instr) (_ : Choice) : Prop :=
  ∀ x ∈ i.subscribing, Covered s.toObjects P x.1 x.2

instance (s : SFU) (P : Multiset Instr) (i : Instr) (c : Choice) : Decidable (FindsLive s P i c) :=
  inferInstanceAs (Decidable (∀ _, _))

section Runs

variable {s s' : SFU} {P rest : Multiset Instr} {new : List Instr} {c : Choice} {i : Instr}

theorem exec_cover (h : Cover s.toObjects (i ::ₘ rest)) (hbooks : Books s (i ::ₘ rest))
    (hlive : FindsLive s (i ::ₘ rest) i c) (hex : exec s i c = some (s', new)) :
    Cover s'.toObjects (new + rest) := by
  have hwf := hbooks.wellFormed
  obtain ⟨hwf', hext⟩ := exec_wellFormed hwf hex
  intro x hx hmem
  rcases exec_active_old hwf.maps hwf'.maps hex hx with hactive | ⟨p, pub, rfl, hsub⟩
  · have hlt := hwf.active_lt hactive
    have hfits := (hwf.maps.fits x hlt).1
    rw [hext.subscriber hlt, hext.target hlt] at hmem ⊢
    have hold := exec_members_subset hex _ hmem
    rw [hext.pubRoom hfits.made] at hold
    rcases exec_covered hwf.maps hwf'.maps hext hex hfits hmem (h x hactive hold) with
      hcovered | hunsub
    · exact hcovered
    · subst hunsub
      exact absurd hx (unsubscribe_inactive hbooks (exec_executes hex) rfl rfl)
  · obtain ⟨hfits, -⟩ := hwf.ok _ (mem_cons_self _ rest)
    rw [hsub] at hmem ⊢
    exact (exec_covered hwf.maps hwf'.maps hext hex hfits hmem
      (hlive (p, pub) rfl)).resolve_right (by simp)

theorem launch_cover {op : Op} {code : List Instr} (h : Cover s.toObjects P) (hbooks : Books s P)
    (hla : launch s op = some (s', code)) : Cover s'.toObjects (code + P) := by
  have hwf := hbooks.wellFormed
  obtain ⟨hwf', hext⟩ := launch_wellFormed hwf hla
  intro x hx hmem
  have hactive := (launch_active hwf hwf'.maps hla).1 hx
  have hlt := hwf.active_lt hactive
  have hfits := (hwf.maps.fits x hlt).1
  rw [hext.subscriber hlt, hext.target hlt] at hmem ⊢
  rw [hext.pubRoom hfits.made] at hmem
  obtain ⟨-, -, hmembers⟩ := launch_live hwf.maps hwf'.maps hla (s.subscriptions x).publication
  exact launch_covered hwf.maps hwf'.maps hext hla hfits.made
    (h x hactive ((hmembers _).2 _ hmem hfits.joined))

end Runs

/-- **No subscription outlives its publication**, if no `subscribe` begins after the removal of the
publication has reached the subscriber: when nothing is in progress, every subscription held by a
participant in a room is to a publication that is live in that room. -/
theorem subscription_live {as : List Act} {t : System}
    (hlive : Along step (Pool.Meets (fun _ _ _ => True) FindsLive) System.empty as)
    (hrun : run step System.empty as = some t) (hidle : t.Idle) :
    ∀ r, ∀ p ∈ (t.shared.rooms r).participants, ∀ id x,
      (t.shared.participants p).subscriptions.lookup id = some x →
        (t.shared.publications (t.shared.subscriptions x).publication).room = r ∧
          t.shared.Live (t.shared.subscriptions x).publication := by
  have h : Books t.shared t.pending ∧ Cover t.shared.toObjects t.pending := by
    refine Pool.run_inv (I := fun s P => Books s P ∧ Cover s.toObjects P)
      (fun s P op s' code h _ hla => ⟨launch_books h.1 hla, launch_cover h.2 h.1 hla⟩)
      (fun s i rest c s' new h hlive hex =>
        ⟨exec_books h.1 hex, exec_cover h.2 h.1 hlive hex⟩) ⟨books_empty, ?_⟩ hlive hrun
    rintro x (hheld | ⟨j, hj, -⟩)
    · simp [Objects.Held, System.empty] at hheld
    · simp [Pool.pending, System.empty] at hj
  rw [hidle.pending_eq] at h
  obtain ⟨hbooks, hcover⟩ := h
  have hmaps := hbooks.wellFormed.maps
  intro r p hp id x hlook
  obtain ⟨hlt, hsub, -⟩ := hmaps.subscriptions p id x hlook
  have hroom : (t.shared.publications (t.shared.subscriptions x).publication).room = r := by
    rw [← (hmaps.fits x hlt).1.room, hsub]
    exact (hmaps.members r p hp).2
  refine ⟨hroom, ?_⟩
  have hcovered := hcover x (.inl (hmaps.held_iff.2 ⟨p, id, hlook⟩)) (by rw [hsub, hroom]; exact hp)
  rcases hcovered with hlive | hremoved | hunsub | ⟨-, hretire⟩
  · exact hlive
  · exact absurd hremoved (notMem_zero _)
  · exact absurd hunsub (notMem_zero _)
  · exact absurd hretire (notMem_zero _)

theorem subscription_live_call : ∃ t ∈ run step System.empty call, t.Idle ∧
    (t.shared.participants "b").subscriptions.lookup "cam" = some 0 ∧
      t.shared.Live (t.shared.subscriptions 0).publication := by
  have hlive : Along step (Pool.Meets (fun _ _ _ => True) FindsLive) System.empty call := by
    decide +kernel
  have hrun : ∃ t ∈ run step System.empty call, t.Idle ∧ "b" ∈ (t.shared.rooms 0).participants ∧
      (t.shared.participants "b").subscriptions.lookup "cam" = some 0 := by
    decide +kernel
  obtain ⟨t, hrun, hidle, hmem, hlook⟩ := hrun
  exact ⟨t, hrun, hidle, hlook, (subscription_live hlive hrun hidle 0 "b" hmem "cam" 0 hlook).2⟩

/-- `b` is about to subscribe to the publication of `a`, which `a` takes back meanwhile. -/
def retiredMeanwhile : List Act :=
  [Pool.Act.start (Op.join "a" 0 fullPermissions), Pool.Act.start (Op.join "b" 0 fullPermissions),
    Pool.Act.start (Op.onTrack "a" "cam")] ++
  go 2 3 ++ [Pool.Act.resume 2 { participants := ["b"] }] ++ go 2 2 ++
  [Pool.Act.start (Op.unpublish "a" "cam")] ++ go 3 1 ++
  [Pool.Act.resume 3 { participants := ["b"] }] ++ go 3 3 ++ go 2 8

/-- **A subscription can outlive its publication**: nothing is in progress, `b` is in the room and
holds a subscription to a publication that is listed nowhere. -/
theorem subscription_outlives : ∃ t ∈ run step System.empty retiredMeanwhile, t.Idle ∧
    "b" ∈ (t.shared.rooms 0).participants ∧
      (t.shared.participants "b").subscriptions.lookup "cam" = some 0 ∧
        ¬ t.shared.Live (t.shared.subscriptions 0).publication := by
  decide +kernel

end PulseRTC.Sfu
