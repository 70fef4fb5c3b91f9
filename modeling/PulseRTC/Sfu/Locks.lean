import PulseRTC.Sfu.WellFormed

/-!
# Locks

The lock of a participant is held exactly as long as an instruction of an attachment is pending
(`Locks.lock`), and nothing else touches the maps of the participant meanwhile.

Most instructions have nothing to do with subscriptions: a step is `Quiet` if it changes neither the
maps, locks and counters of subscriptions nor the sinks of publications, and leaves only `plain`
instructions behind.
-/

namespace PulseRTC.Sfu

open Foundations Cluster Multiset Function

/-- The participant whose lock is held until the instruction has been executed. -/
@[simp] def Instr.locks : Instr → Option ParticipantId
  | .attach p _ | .attachLoad p _ | .attachSwap p _ _ | .record p _ => some p
  | _ => none

/-- The subscription that is being attached. -/
@[simp] def Instr.attaches : Instr → Option SubscriptionRef
  | .attach _ sub | .attachLoad _ sub | .attachSwap _ sub _ | .record _ sub => some sub
  | _ => none

/-- The instruction carries no subscription, no lock and no count. -/
def Instr.plain : Instr → Bool
  | .attach .. | .attachLoad .. | .attachSwap .. | .record .. | .countMade | .detachLoad _
  | .detachSwap .. | .closeQueue _ | .countRemoved _ => false
  | _ => true

/-- The instruction neither carries a subscription nor makes, removes or drops one. -/
def Instr.quiet : Instr → Bool
  | .subscribe .. | .unsubscribe .. | .close _ => false
  | i => i.plain

/-! ## Steps that leave the books alone -/

/-- The lock, the subscriptions and the end of a participant. -/
def Participant.books (x : Participant) : Bool × GoMap PublicationId SubscriptionRef × Bool :=
  (x.mu, x.subscriptions, x.closed)

/-- The sinks of a publication and the last sink id. -/
def Publication.books (x : Publication) : Cell (ℕ × SubscriptionRef) × ℕ := (x.subSinks, x.subSeq)

/-- Nothing changes about subscriptions, locks, sinks and counters, and only plain instructions are
left behind. -/
structure Quiet (s s' : SFU) (new : List Instr) : Prop where
  plain : ∀ j ∈ new, j.plain = true
  joined : s.joined ⊆ s'.joined
  participant : ∀ p, (s'.participants p).books = (s.participants p).books ∨
    (p ∉ s.joined ∧ (s'.participants p).books = (false, ∅, false))
  publication : ∀ pub < s'.nextPublication,
    (pub < s.nextPublication ∧ (s'.publications pub).books = (s.publications pub).books) ∨
      (s.nextPublication ≤ pub ∧ (s'.publications pub).books = ({}, 0))
  subscriptions : s'.subscriptions = s.subscriptions
  nextSubscription : s'.nextSubscription = s.nextSubscription
  subscriptionsMade : s'.subscriptionsMade = s.subscriptionsMade
  subscriptionsRemoved : s'.subscriptionsRemoved = s.subscriptionsRemoved

section Quiet

variable {s s' : SFU} {new : List Instr} {c : Choice}

/-- Only instructions are left behind, and messages sent. -/
theorem Quiet.of_objects (hobj : s'.toObjects = s.toObjects)
    (hmade : s'.subscriptionsMade = s.subscriptionsMade)
    (hremoved : s'.subscriptionsRemoved = s.subscriptionsRemoved)
    (hplain : ∀ j ∈ new, j.plain = true) : Quiet s s' new := by
  refine ⟨hplain, ?_, fun p => .inl ?_, fun pub hlt => .inl ?_, ?_, ?_, hmade, hremoved⟩
  · rw [hobj]
  · rw [hobj]
  · rw [hobj] at hlt ⊢
    exact ⟨hlt, rfl⟩
  · rw [hobj]
  · rw [hobj]

theorem Quiet.of_plain (hplain : ∀ j ∈ new, j.plain = true) : Quiet s s new :=
  .of_objects rfl rfl rfl hplain

theorem Quiet.onParticipant (p : ParticipantId) {f : Participant → Participant}
    (hf : ∀ x, (f x).books = x.books) (hplain : ∀ j ∈ new, j.plain = true) :
    Quiet s (s.onParticipant p f) new := by
  refine ⟨hplain, subset_rfl, fun q => .inl ?_, fun pub hlt => .inl ⟨hlt, rfl⟩, rfl, rfl, rfl, rfl⟩
  by_cases heq : q = p
  · subst heq
    simp [hf]
  · simp [heq]

theorem Quiet.onPublication (pub : PublicationRef) {f : Publication → Publication}
    (hf : ∀ x, (f x).books = x.books) (hplain : ∀ j ∈ new, j.plain = true) :
    Quiet s (s.onPublication pub f) new := by
  refine ⟨hplain, subset_rfl, fun _ => .inl rfl, fun ref hlt => .inl ⟨hlt, ?_⟩, rfl, rfl, rfl, rfl⟩
  by_cases heq : ref = pub
  · subst heq
    simp [hf]
  · simp [heq]

theorem Quiet.onRoom (r : RoomRef) (f : Room → Room) (hplain : ∀ j ∈ new, j.plain = true) :
    Quiet s (s.onRoom r f) new :=
  ⟨hplain, subset_rfl, fun _ => .inl rfl, fun _ hlt => .inl ⟨hlt, rfl⟩, rfl, rfl, rfl, rfl⟩

theorem Quiet.newPublication {pub : Publication} (hpub : pub.books = ({}, 0)) :
    Quiet s (s.newPublication pub) [] := by
  refine ⟨by simp, subset_rfl, fun _ => .inl rfl, fun ref hlt => ?_, rfl, rfl, rfl, rfl⟩
  rcases Nat.lt_succ_iff_lt_or_eq.1 hlt with hlt | rfl
  · exact .inl ⟨hlt, by simp [hlt.ne]⟩
  · exact .inr ⟨le_rfl, by simpa using hpub⟩

theorem Quiet.newParticipant {p : ParticipantId} (hp : p ∉ s.joined) (r : RoomRef)
    (perms : Permissions) : Quiet s (s.newParticipant p r perms) [] := by
  refine ⟨by simp, Finset.subset_insert _ _, fun q => ?_, fun _ hlt => .inl ⟨hlt, rfl⟩, rfl, rfl,
    rfl, rfl⟩
  by_cases heq : q = p
  · subst heq
    exact .inr ⟨hp, by simp [Participant.books]⟩
  · exact .inl (by simp [heq])

theorem Quiet.trans {t : SFU} (h : Quiet s s' []) (h' : Quiet s' t new)
    (hnext : t.nextPublication = s'.nextPublication) : Quiet s t new := by
  refine ⟨h'.plain, h.joined.trans h'.joined, fun p => ?_, fun pub hlt => ?_,
    h'.subscriptions.trans h.subscriptions, h'.nextSubscription.trans h.nextSubscription,
    h'.subscriptionsMade.trans h.subscriptionsMade,
    h'.subscriptionsRemoved.trans h.subscriptionsRemoved⟩
  · rcases h'.participant p with heq | ⟨hp, heq⟩
    · rw [heq]
      exact h.participant p
    · exact .inr ⟨fun hmem => hp (h.joined hmem), heq⟩
  · rcases h'.publication pub hlt with ⟨hlt', heq⟩ | ⟨hle, -⟩
    · rcases h.publication pub hlt' with ⟨hlt'', heq'⟩ | ⟨hle, heq'⟩
      · exact .inl ⟨hlt'', heq.trans heq'⟩
      · exact .inr ⟨hle, heq.trans heq'⟩
    · rw [hnext] at hlt
      exact absurd hlt (Nat.not_lt.2 hle)

variable {i : Instr}

/-- The instructions that are always quiet. -/
theorem exec_quiet (hi : i.quiet = true) (hex : exec s i c = some (s', new)) :
    Quiet s s' new := by
  cases exec_executes hex with
  | publish p =>
    exact (Quiet.newPublication rfl).trans
      (.onParticipant p (fun _ => rfl) (by simp [Instr.plain])) rfl
  | ingest pub => exact .onPublication pub (fun _ => rfl) (by simp)
  | onPublicationAdded | onPublicationRemoved =>
    refine .of_plain fun j hj => ?_
    simp only [List.mem_append, List.mem_flatMap, List.mem_cons, List.not_mem_nil, or_false] at hj
    rcases hj with ⟨p, -, rfl | rfl⟩ | rfl <;> rfl
  | removePublication p | optOut p => exact .onParticipant p (fun _ => rfl) (by simp [Instr.plain])
  | subscribeFound p pub new _ _ hnew =>
    refine .onParticipant p (fun _ => rfl) ?_
    rcases hnew with ⟨rfl, -⟩ | rfl <;> simp [Instr.plain]
  | notFound p =>
    have hfail : Quiet s (s.fail p "publication not found in this room") [] :=
      .of_objects rfl rfl rfl (by simp)
    exact hfail.trans (.onParticipant p (fun _ => rfl) (by simp)) rfl
  | leave r | removeRemote r => exact .onRoom r _ (by simp [Instr.plain])
  | addRemote r =>
    exact (Quiet.newPublication rfl).trans (.onRoom r _ (by simp [Instr.plain])) rfl
  | subscribe | attach | attachLoad | attachFails | attachSwap | record | countMade | unsubscribe
  | detachNil | detachLoad | detachFails | detachSwap | closeQueue | countRemoved | close =>
    cases hi
  | _ => exact .of_objects rfl rfl rfl (by simp [Instr.plain])

/-- An event never touches the books. -/
theorem launch_quiet {op : Op} (hla : launch s op = some (s', new)) : Quiet s s' new := by
  cases launch_starts hla with
  | join p r perms hp => exact (Quiet.newParticipant hp r perms).trans (.onRoom r _ (by simp)) rfl
  | connected p | reconnected p => exact .onParticipant p (fun _ => rfl) (by simp [Instr.plain])
  | trackEnds pub => exact .onPublication pub (fun _ => rfl) (by simp [Instr.plain])
  | _ => exact .of_objects rfl rfl rfl (by simp [Instr.plain])

/-- The pending instructions that are not plain. -/
def working (P : Multiset Instr) : Multiset Instr := P.filter fun i => i.plain = false

theorem working_new (hplain : ∀ j ∈ new, j.plain = true) (P : Multiset Instr) :
    working (new + P) = working P := by
  rw [working, filter_add, filter_eq_nil.2, zero_add, working]
  exact fun j hj => by simp [hplain j (mem_coe.1 hj)]

theorem working_cons (hplain : i.plain = true) (P : Multiset Instr) :
    working (i ::ₘ P) = working P :=
  filter_cons_of_neg _ (by simp [hplain])

theorem working_cons_of_busy (hbusy : i.plain = false) (P : Multiset Instr) :
    working (i ::ₘ P) = i ::ₘ working P :=
  filter_cons_of_pos _ hbusy

theorem Instr.plain_of_quiet (h : i.quiet = true) : i.plain = true := by
  cases i <;> first | rfl | cases h

theorem tally_working {α : Type*} [DecidableEq α] {f : Instr → Option α}
    (hf : ∀ i, i.plain = true → f i = none) (a : α) (P : Multiset Instr) :
    tally f a (working P) = tally f a P := by
  rw [tally, working, countP_filter, tally]
  refine countP_congr rfl fun i _ => ?_
  cases hi : i.plain with
  | true => simp [hf i hi]
  | false => simp

theorem mem_working {P : Multiset Instr} : i ∈ working P ↔ i ∈ P ∧ i.plain = false :=
  mem_filter

theorem Quiet.participantSubs (h : Quiet s s' new) (hmaps : Maps s.toObjects) (p : ParticipantId) :
    (s'.participants p).subscriptions = (s.participants p).subscriptions := by
  rcases h.participant p with heq | ⟨hp, heq⟩
  · exact congrArg (fun x => x.2.1) heq
  · have hempty : (s'.participants p).subscriptions = ∅ := congrArg (fun x => x.2.1) heq
    rw [hempty]
    refine (Finmap.ext_lookup fun id => ?_).symm
    rw [Finmap.lookup_empty, Option.eq_none_iff_forall_ne_some]
    intro sub hlook
    obtain ⟨hlt, rfl, -⟩ := hmaps.subscriptions p id sub hlook
    exact hp (hmaps.fits sub hlt).1.joined

/-- What an instruction does to the subscriptions of the participants. -/
inductive Holds (s s' : Objects) : Instr → Prop
  | same {i : Instr} (h : ∀ q, (s'.participants q).subscriptions =
      (s.participants q).subscriptions) : Holds s s' i
  | record (p sub) (h : ∀ q id, (s'.participants q).subscriptions.lookup id =
      if q = p ∧ id = (s.publications (s.subscriptions sub).publication).id then some sub
      else (s.participants q).subscriptions.lookup id) : Holds s s' (.record p sub)
  | unsubscribe (p id') (h : ∀ q id, (s'.participants q).subscriptions.lookup id =
      if q = p ∧ id = id' then none else (s.participants q).subscriptions.lookup id) :
    Holds s s' (.unsubscribe p id')
  | close (p) (h : ∀ q id, (s'.participants q).subscriptions.lookup id =
      if q = p then none else (s.participants q).subscriptions.lookup id) : Holds s s' (.close p)

theorem exec_holds (hmaps : Maps s.toObjects) (hex : exec s i c = some (s', new)) :
    Holds s.toObjects s'.toObjects i := by
  cases hquiet : i.quiet with
  | true => exact .same ((exec_quiet hquiet hex).participantSubs hmaps)
  | false =>
    cases exec_executes hex with
    | subscribe p =>
      refine .same fun q => ?_
      by_cases heq : q = p <;> simp [heq]
    | record p sub =>
      refine .record p sub fun q id => ?_
      by_cases heq : q = p <;>
        simp [GoMap.lookup_insert_eq, heq]
    | unsubscribe p id' =>
      refine .unsubscribe p id' fun q id => ?_
      by_cases heq : q = p <;> simp [GoMap.lookup_erase_eq, heq]
    | close p =>
      refine .close p fun q id => ?_
      by_cases heq : q = p <;> simp [heq]
    | notSubscribed | attach | attachLoad | attachFails | attachSwap | countMade | notHeld
    | detachNil | detachLoad | detachFails | detachSwap | closeQueue | countRemoved
    | closedBefore => exact .same fun _ => rfl
    | _ => cases hquiet

end Quiet

/-! ## Locks -/

/-- A lock is held as long as its attachment is pending; meanwhile the participant stays open and
without the subscription. A closed participant has no subscriptions. -/
structure Locks (s : Objects) (P : Multiset Instr) : Prop where
  lock : ∀ p, tally Instr.locks p P = if (s.participants p).mu then 1 else 0
  absent : ∀ i ∈ P, ∀ sub, i.attaches = some sub →
    (s.participants (s.subscriptions sub).subscriberID).subscriptions.lookup
      (s.publications (s.subscriptions sub).publication).id = none
  isOpen : ∀ i ∈ P, ∀ sub, i.attaches = some sub →
    (s.participants (s.subscriptions sub).subscriberID).closed = false
  empty : ∀ p, (s.participants p).closed = true → (s.participants p).subscriptions = ∅

variable {i : Instr}

theorem Instr.attaches_eq_none (h : i.locks = none) : i.attaches = none := by
  cases i <;> first | rfl | cases h

theorem Instr.locks_eq_none (h : i.plain = true) : i.locks = none := by
  cases i <;> first | rfl | cases h

theorem Instr.Ok.locks_eq {s : Objects} (hok : i.Ok s) {sub : SubscriptionRef}
    (h : i.attaches = some sub) :
    sub < s.nextSubscription ∧ i.locks = some (s.subscriptions sub).subscriberID := by
  cases i with
  | attach p x | attachLoad p x | attachSwap p x | record p x =>
    cases h
    exact ⟨hok.1, congrArg some hok.2.symm⟩
  | _ => cases h

theorem Instr.Ok.joined_of_locks {s : Objects} (hok : i.Ok s) (hmaps : Maps s) {p : ParticipantId}
    (h : i.locks = some p) : p ∈ s.joined := by
  cases i with
  | attach q x | attachLoad q x | attachSwap q x | record q x =>
    cases h
    rw [← hok.2]
    exact (hmaps.fits x hok.1).1.joined
  | _ => cases h

namespace Locks

variable {s s' : Objects} {P P' rest : Multiset Instr} {i : Instr} {new : List Instr}

/-- While an attachment is pending, the lock is held. -/
theorem mu_of_attaches (h : Locks s P) (hwf : WellFormed s P) (hi : i ∈ P)
    {sub : SubscriptionRef} (hsub : i.attaches = some sub) :
    (s.participants (s.subscriptions sub).subscriberID).mu = true := by
  by_contra hmu
  have hzero := h.lock (s.subscriptions sub).subscriberID
  rw [if_neg hmu, tally_eq_zero] at hzero
  exact hzero i hi ((hwf.ok i hi).locks_eq hsub).2

/-- Instructions without a lock come and go. -/
theorem tally_locks_new (hnew : ∀ j ∈ new, j.locks = none) (p : ParticipantId) :
    tally Instr.locks p ((new : Multiset Instr) + rest) = tally Instr.locks p rest := by
  rw [tally_add, tally_eq_zero.2, Nat.zero_add]
  intro j hj
  rw [hnew j (mem_coe.1 hj)]
  exact Option.some_ne_none p |>.symm

section Step

variable (hext : Extends s s') (hmu : ∀ p, (s'.participants p).mu = (s.participants p).mu)
  (hheld : ∀ p, (s.participants p).mu = true →
    (s'.participants p).subscriptions = (s.participants p).subscriptions ∧
      (s'.participants p).closed = (s.participants p).closed)
  (hempty : ∀ p, (s'.participants p).closed = true → (s'.participants p).subscriptions = ∅)

include hext hmu hheld hempty

/-- A step that leaves the locks with their attachments, and changes no participant whose lock is
held. -/
theorem keep (h : Locks s P) (hwf : WellFormed s P)
    (hold : ∀ j ∈ P', ∀ sub, j.attaches = some sub → ∃ i ∈ P, i.attaches = some sub)
    (htally : ∀ p, tally Instr.locks p P' = tally Instr.locks p P) : Locks s' P' := by
  constructor
  case lock =>
    intro p
    rw [htally, hmu, h.lock]
  case absent =>
    intro j hj sub hsub
    obtain ⟨i, hi, hsub⟩ := hold j hj sub hsub
    obtain ⟨hlt, -⟩ := (hwf.ok i hi).locks_eq hsub
    rw [hext.subscriber hlt, hext.target hlt, hext.pubID (hwf.maps.fits sub hlt).1.made,
      (hheld _ (h.mu_of_attaches hwf hi hsub)).1]
    exact h.absent i hi sub hsub
  case isOpen =>
    intro j hj sub hsub
    obtain ⟨i, hi, hsub⟩ := hold j hj sub hsub
    obtain ⟨hlt, -⟩ := (hwf.ok i hi).locks_eq hsub
    rw [hext.subscriber hlt, (hheld _ (h.mu_of_attaches hwf hi hsub)).2]
    exact h.isOpen i hi sub hsub
  case empty => exact hempty

/-- A step outside an attachment: it changes no lock, and no participant whose lock is held. -/
theorem next (h : Locks s (i ::ₘ rest)) (hwf : WellFormed s (i ::ₘ rest)) (hi : i.locks = none)
    (hnew : ∀ j ∈ new, j.locks = none) : Locks s' (new + rest) := by
  refine h.keep hext hmu hheld hempty hwf ?_ fun p => ?_
  · intro j hj sub hsub
    rcases mem_new.1 hj with hj | hj
    · rw [Instr.attaches_eq_none (hnew j hj)] at hsub
      cases hsub
    · exact ⟨j, mem_cons_of_mem hj, hsub⟩
  · rw [tally_locks_new hnew, tally_cons, hi]
    simp

end Step

/-- A step that has nothing to do with locks. -/
theorem quiet {s s' : SFU} (h : Locks s.toObjects P) (hwf : WellFormed s.toObjects P)
    (hext : Extends s.toObjects s'.toObjects) (hq : Quiet s s' new)
    (hP : working P' = working P) : Locks s'.toObjects P' := by
  have hmu : ∀ p, (s'.participants p).mu = (s.participants p).mu := by
    intro p
    rcases hq.participant p with heq | ⟨hp, heq⟩
    · exact congrArg Prod.fst heq
    · have hfree : (s'.participants p).mu = false := congrArg Prod.fst heq
      rw [hfree]
      symm
      by_contra hmu
      have hlock := h.lock p
      rw [if_pos (by simpa using hmu)] at hlock
      obtain ⟨i, hi, hlocks⟩ := tally_pos.1 (by omega : 0 < tally Instr.locks p P)
      exact hp ((hwf.ok i hi).joined_of_locks hwf.maps hlocks)
  refine h.keep hext hmu (fun p hp => ⟨hq.participantSubs hwf.maps p, ?_⟩) ?_ hwf ?_ fun p => ?_
  · rcases hq.participant p with heq | ⟨-, heq⟩
    · exact congrArg (fun x => x.2.2) heq
    · have hfree : (s'.participants p).mu = false := congrArg Prod.fst heq
      rw [← hmu p, hfree] at hp
      cases hp
  · intro p hclosed
    rcases hq.participant p with heq | ⟨-, heq⟩
    · rw [hq.participantSubs hwf.maps p]
      exact h.empty p ((congrArg (fun x => x.2.2) heq).symm.trans hclosed)
    · exact congrArg (fun x => x.2.1) heq
  · intro j hj sub hsub
    have hplain : j.plain = false := by
      cases hplain : j.plain with
      | true => rw [Instr.attaches_eq_none (Instr.locks_eq_none hplain)] at hsub; cases hsub
      | false => rfl
    have hmem := mem_working.2 ⟨hj, hplain⟩
    rw [hP] at hmem
    exact ⟨j, (mem_working.1 hmem).1, hsub⟩
  · rw [← tally_working (fun _ => Instr.locks_eq_none), hP,
      tally_working (fun _ => Instr.locks_eq_none)]

/-- A step that changes no lock and no map of subscriptions. -/
theorem same (h : Locks s (i ::ₘ rest)) (hwf : WellFormed s (i ::ₘ rest)) (hext : Extends s s')
    (hi : i.locks = none) (hnew : ∀ j ∈ new, j.locks = none)
    (hpart : ∀ p, (s'.participants p).books = (s.participants p).books) :
    Locks s' (new + rest) := by
  have hmu p : (s'.participants p).mu = (s.participants p).mu := congrArg Prod.fst (hpart p)
  have hsubs p : (s'.participants p).subscriptions = (s.participants p).subscriptions :=
    congrArg (fun x => x.2.1) (hpart p)
  have hclosed p : (s'.participants p).closed = (s.participants p).closed :=
    congrArg (fun x => x.2.2) (hpart p)
  refine h.next hext hmu (fun p _ => ⟨hsubs p, hclosed p⟩) (fun p hend => ?_) hwf hi hnew
  rw [hclosed p] at hend
  rw [hsubs p]
  exact h.empty p hend

/-- A step of an attachment that goes on. -/
theorem pass (h : Locks s (i ::ₘ rest)) (hwf : WellFormed s (i ::ₘ rest)) (hext : Extends s s')
    {j : Instr} (hlocks : j.locks = i.locks) (hattaches : j.attaches = i.attaches)
    (hpart : s'.participants = s.participants) : Locks s' (([j] : List Instr) + rest) := by
  refine h.keep hext (fun p => by rw [hpart]) (fun p _ => by rw [hpart]; exact ⟨rfl, rfl⟩)
    (by rw [hpart]; exact h.empty) hwf ?_ fun p => ?_
  · intro k hk sub hsub
    rw [coe_singleton, singleton_add] at hk
    rcases mem_cons.1 hk with rfl | hk
    · exact ⟨i, mem_cons_self i rest, hattaches ▸ hsub⟩
    · exact ⟨k, mem_cons_of_mem hk, hsub⟩
  · rw [coe_singleton, singleton_add, tally_cons, tally_cons, hlocks]

end Locks

section Locks

variable {s s' : SFU} {P rest : Multiset Instr} {i : Instr} {new : List Instr} {c : Choice}
  {p : ParticipantId} {pub : PublicationRef} {sub : SubscriptionRef}

/-- `subscribe` takes a free lock. -/
theorem subscribe_locks (h : Locks s.toObjects (.subscribe p pub ::ₘ rest))
    (hwf : WellFormed s.toObjects (.subscribe p pub ::ₘ rest))
    (hmu : (s.participants p).mu = false) (hopen : (s.participants p).closed = false)
    (hnone : (s.participants p).subscriptions.lookup (s.publications pub).id = none) :
    Locks ((s.newSubscription { subscriberID := p, publication := pub }).onParticipant p
        fun x => { x with mu := true }).toObjects
      (([.attach p s.nextSubscription, .countMade, .send p (.subscriptionAdded pub)] :
        List Instr) + rest) := by
  have hfree : tally Instr.locks p rest = 0 := by
    simpa [hmu] using h.lock p
  -- the other attachments are of other participants, and of older subscriptions
  have hother : ∀ j ∈ rest, ∀ ref, j.attaches = some ref →
      ref < s.nextSubscription ∧ (s.subscriptions ref).subscriberID ≠ p := by
    intro j hj ref href
    obtain ⟨hlt, hlocks⟩ := (hwf.ok j (mem_cons_of_mem hj)).locks_eq href
    exact ⟨hlt, fun heq => tally_eq_zero.1 hfree j hj (heq ▸ hlocks)⟩
  constructor
  case lock =>
    intro q
    by_cases hq : q = p
    · subst hq
      simp [hfree]
    · have hlock := h.lock q
      simp only [tally_cons, Instr.locks] at hlock
      simpa [hq, Ne.symm hq] using hlock
  case absent =>
    intro j hj ref href
    simp only [mem_add, mem_coe, List.mem_cons, List.not_mem_nil, or_false] at hj
    rcases hj with (rfl | rfl | rfl) | hj
    · cases href
      simp only [SFU.onParticipant, SFU.newSubscription]
      rw [update_self, update_self]
      exact hnone
    · cases href
    · cases href
    · obtain ⟨hlt, hne⟩ := hother j hj ref href
      simp only [SFU.onParticipant, SFU.newSubscription]
      rw [update_of_ne hlt.ne, update_of_ne hne]
      exact h.absent j (mem_cons_of_mem hj) ref href
  case isOpen =>
    intro j hj ref href
    simp only [mem_add, mem_coe, List.mem_cons, List.not_mem_nil, or_false] at hj
    rcases hj with (rfl | rfl | rfl) | hj
    · cases href
      simpa using hopen
    · cases href
    · cases href
    · obtain ⟨hlt, hne⟩ := hother j hj ref href
      simpa [hlt.ne, hne] using
        h.isOpen j (mem_cons_of_mem hj) ref href
  case empty =>
    intro q hq
    by_cases heq : q = p
    · subst heq
      simp [hopen] at hq
    · simp only [SFU.onParticipant, SFU.newSubscription, update_of_ne heq] at hq ⊢
      exact h.empty q hq

/-- `record` gives the lock back. -/
theorem record_locks (h : Locks s.toObjects (.record p sub ::ₘ rest))
    (hwf : WellFormed s.toObjects (.record p sub ::ₘ rest)) :
    Locks (s.record p sub).toObjects rest := by
  have hmem : Instr.record p sub ∈ Instr.record p sub ::ₘ rest := mem_cons_self _ _
  obtain ⟨-, hp⟩ := hwf.ok _ hmem
  have hopen := h.isOpen _ hmem sub rfl
  rw [hp] at hopen
  have hlock := h.lock p
  have hfree : tally Instr.locks p rest = 0 := by
    rw [tally_cons, if_pos (by rfl)] at hlock
    split_ifs at hlock
    omega
  have hother : ∀ j ∈ rest, ∀ ref, j.attaches = some ref →
      (s.subscriptions ref).subscriberID ≠ p := by
    intro j hj ref href heq
    obtain ⟨-, hlocks⟩ := (hwf.ok j (mem_cons_of_mem hj)).locks_eq href
    exact tally_eq_zero.1 hfree j hj (heq ▸ hlocks)
  constructor
  case lock =>
    intro q
    by_cases hq : q = p
    · subst hq
      simpa using hfree
    · simpa [hq, Ne.symm hq] using h.lock q
  case absent =>
    intro j hj ref href
    simpa [hother j hj ref href] using
      h.absent j (mem_cons_of_mem hj) ref href
  case isOpen =>
    intro j hj ref href
    simpa [hother j hj ref href] using
      h.isOpen j (mem_cons_of_mem hj) ref href
  case empty =>
    intro q hq
    by_cases heq : q = p
    · subst heq
      simp [hopen] at hq
    · simp only [SFU.record, SFU.onParticipant, update_of_ne heq] at hq ⊢
      exact h.empty q hq

/-- Every instruction keeps the locks in order. -/
theorem exec_locks (h : Locks s.toObjects (i ::ₘ rest)) (hwf : WellFormed s.toObjects (i ::ₘ rest))
    (hext : Extends s.toObjects s'.toObjects) (hex : exec s i c = some (s', new)) :
    Locks s'.toObjects (new + rest) := by
  cases hquiet : i.quiet with
  | true =>
    have hq := exec_quiet hquiet hex
    refine h.quiet hwf hext hq ?_
    rw [working_new hq.plain, working_cons (Instr.plain_of_quiet hquiet)]
  | false =>
    cases exec_executes hex with
    | subscribe p pub hmu hopen hnone => exact subscribe_locks h hwf hmu hopen hnone
    | record => simpa using record_locks h hwf
    | attach | attachLoad | attachFails | attachSwap => exact h.pass hwf hext rfl rfl rfl
    | unsubscribe p id sub hmu hsub =>
      refine h.next hext (fun q => ?_) (fun q hq => ?_) (fun q hq => ?_) hwf rfl (by simp)
      all_goals by_cases heq : q = p
      · simp [heq]
      · simp [heq]
      · rw [heq, hmu] at hq
        cases hq
      · simp [heq]
      · -- a closed participant has no subscription to give up
        subst heq
        simp only [SFU.onParticipant, update_self] at hq
        simp [h.empty q hq] at hsub
      · simp only [SFU.onParticipant, update_of_ne heq] at hq ⊢
        exact h.empty q hq
    | close p hmu =>
      refine h.next hext (fun q => ?_) (fun q hq => ?_) (fun q hq => ?_) hwf rfl ?new
      case new =>
        intro j hj
        rcases mem_snoc.1 hj with hj | rfl
        · obtain ⟨sub, -, rfl⟩ := List.mem_map.1 hj
          rfl
        · rfl
      all_goals by_cases heq : q = p
      · simp [heq]
      · simp [heq]
      · rw [heq, hmu] at hq
        cases hq
      · simp [heq]
      · simp [heq]
      · simp only [SFU.onParticipant, update_of_ne heq] at hq ⊢
        exact h.empty q hq
    | notSubscribed | notHeld | closedBefore | detachNil | detachLoad | detachFails | detachSwap
    | closeQueue | countMade | countRemoved =>
      exact h.same hwf hext rfl (by simp) fun _ => rfl
    | _ => cases hquiet

/-- Events leave the locks alone. -/
theorem launch_locks {op : Op} {code : List Instr} (h : Locks s.toObjects P)
    (hwf : WellFormed s.toObjects P) (hext : Extends s.toObjects s'.toObjects)
    (hla : launch s op = some (s', code)) : Locks s'.toObjects (code + P) := by
  have hq := launch_quiet hla
  exact h.quiet hwf hext hq (working_new hq.plain P)

end Locks

end PulseRTC.Sfu
