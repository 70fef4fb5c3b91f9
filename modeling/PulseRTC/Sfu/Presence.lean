import PulseRTC.Sfu.WellFormed

/-!
# Who is there, and what is published

A participant that has joined is in its room until it leaves, and whoever has left is closed or
about to be (`Presence`). A publication is live while its publisher is in the room and lists it, or
while it is in the room as a mirror (`Objects.Live`).

Few instructions change this: a step `Stays` if nobody joins, leaves or is closed, and is `Still` if
moreover no publication is listed or taken off a list. What the others do to the lists is said once,
by `exec_lists`.
-/

namespace PulseRTC.Sfu

open Foundations Cluster Multiset Function Option GoMap

/-! ## Steps that change neither -/

/-- Nobody joins, leaves or is closed. -/
structure Stays (s s' : Objects) (new : List Instr) : Prop where
  joined : s'.joined = s.joined
  members : ∀ r, (s'.rooms r).participants = (s.rooms r).participants
  participant : ∀ p, (s'.participants p).closed = (s.participants p).closed ∧
    (s'.participants p).room = (s.participants p).room
  new : ∀ p, Instr.close p ∉ new ∧ Instr.retireAll p ∉ new

/-- Nor does anybody publish or retire anything. -/
structure Still (s s' : Objects) (new : List Instr) : Prop extends Stays s s' new where
  publications : ∀ p, (s'.participants p).publications = (s.participants p).publications
  remotePubs : ∀ r, (s'.rooms r).remotePubs = (s.rooms r).remotePubs
  nextPublication : s'.nextPublication = s.nextPublication

variable {op : Op} {p : ParticipantId} {r : RoomRef}

section Stays

variable {s s' : SFU} {new : List Instr} {c : Choice} {i : Instr}

theorem Still.of_eq (hj : s'.joined = s.joined) (hr : s'.rooms = s.rooms)
    (hp : s'.participants = s.participants) (hn : s'.nextPublication = s.nextPublication)
    (hnew : ∀ p, Instr.close p ∉ new ∧ Instr.retireAll p ∉ new) :
    Still s.toObjects s'.toObjects new :=
  ⟨⟨hj, fun r => by rw [hr], fun p => by rw [hp]; exact ⟨rfl, rfl⟩, hnew⟩,
    fun p => by rw [hp], fun r => by rw [hr], hn⟩

variable {f : Participant → Participant}

theorem Stays.onParticipant (s : SFU) (p : ParticipantId)
    (hf : ∀ x, (f x).closed = x.closed ∧ (f x).room = x.room)
    (hnew : ∀ p, Instr.close p ∉ new ∧ Instr.retireAll p ∉ new) :
    Stays s.toObjects (s.onParticipant p f).toObjects new := by
  refine ⟨rfl, fun _ => rfl, fun q => ?_, hnew⟩
  by_cases heq : q = p
  · subst heq
    simpa using hf _
  · simp [heq]

theorem Still.onParticipant (s : SFU) (p : ParticipantId)
    (hf : ∀ x, (f x).closed = x.closed ∧ (f x).room = x.room)
    (hpubs : ∀ x, (f x).publications = x.publications)
    (hnew : ∀ p, Instr.close p ∉ new ∧ Instr.retireAll p ∉ new) :
    Still s.toObjects (s.onParticipant p f).toObjects new := by
  refine ⟨Stays.onParticipant s p hf hnew, fun q => ?_, fun _ => rfl, rfl⟩
  by_cases heq : q = p
  · subst heq
    simpa using hpubs _
  · simp [heq]

theorem Stays.onRoom (s : SFU) (r : RoomRef) {f : Room → Room}
    (hf : ∀ x, (f x).participants = x.participants)
    (hnew : ∀ p, Instr.close p ∉ new ∧ Instr.retireAll p ∉ new) :
    Stays s.toObjects (s.onRoom r f).toObjects new := by
  refine ⟨rfl, fun q => ?_, fun _ => ⟨rfl, rfl⟩, hnew⟩
  by_cases heq : q = r
  · subst heq
    simpa using hf _
  · simp [heq]

/-- What was made first is not a participant. -/
theorem Stays.after {t : SFU} (h : Stays t.toObjects s'.toObjects new) (hj : t.joined = s.joined)
    (hr : t.rooms = s.rooms) (hp : t.participants = s.participants) :
    Stays s.toObjects s'.toObjects new := by
  refine ⟨h.joined.trans hj, fun r => ?_, fun p => ?_, h.new⟩
  · rw [h.members, hr]
  · rw [← hp]
    exact h.participant p

theorem Still.after {t : SFU} (h : Still t.toObjects s'.toObjects new) (hj : t.joined = s.joined)
    (hr : t.rooms = s.rooms) (hp : t.participants = s.participants)
    (hn : t.nextPublication = s.nextPublication) : Still s.toObjects s'.toObjects new := by
  refine ⟨h.toStays.after hj hr hp, fun p => ?_, fun r => ?_, h.nextPublication.trans hn⟩
  · rw [← hp]
    exact h.publications p
  · rw [← hr]
    exact h.remotePubs r

/-- Only these change who is there, or what is published. -/
def Instr.moves : Instr → Bool
  | .leave .. | .close _ | .publish .. | .removePublication .. | .addRemote .. | .removeRemote .. =>
    true
  | _ => false

theorem exec_still (hi : i.moves = false) (hex : exec s i c = some (s', new)) :
    Still s.toObjects s'.toObjects new := by
  cases exec_executes hex with
  | subscribe p | notFound p =>
    exact .after (.onParticipant _ p (fun _ => ⟨rfl, rfl⟩) (fun _ => rfl) (by simp)) rfl rfl rfl rfl
  | unsubscribe p | optOut p | record p =>
    exact .onParticipant _ p (fun _ => ⟨rfl, rfl⟩) (fun _ => rfl) (by simp)
  | subscribeFound p pub new _ _ hnew =>
    refine .onParticipant _ p (fun _ => ⟨rfl, rfl⟩) (fun _ => rfl) ?_
    rcases hnew with ⟨rfl, -⟩ | rfl <;> simp
  | publish | removePublication | leave | close | addRemote | removeRemote => cases hi
  | _ => exact .of_eq rfl rfl rfl rfl (by simp)

/-- Only `leave` and `close` change who is there. -/
theorem exec_stays (hex : exec s i c = some (s', new)) :
    (∃ r p, i = .leave r p) ∨ (∃ p, i = .close p) ∨
      (∀ p, Instr.close p ≠ i) ∧ Stays s.toObjects s'.toObjects new := by
  cases hmoves : i.moves with
  | false =>
    refine .inr (.inr ⟨?_, (exec_still hmoves hex).toStays⟩)
    rintro p rfl
    cases hmoves
  | true =>
    cases exec_executes hex with
    | leave r p | notIn r p => exact .inl ⟨r, p, rfl⟩
    | close p | closedBefore p => exact .inr (.inl ⟨p, rfl⟩)
    | publish p =>
      exact .inr (.inr ⟨by simp,
        .after (.onParticipant _ p (fun _ => ⟨rfl, rfl⟩) (by simp)) rfl rfl rfl⟩)
    | removePublication p =>
      exact .inr (.inr ⟨by simp, .onParticipant _ p (fun _ => ⟨rfl, rfl⟩) (by simp)⟩)
    | addRemote r =>
      exact .inr (.inr ⟨by simp, .after (.onRoom _ r (fun _ => rfl) (by simp)) rfl rfl rfl⟩)
    | removeRemote r => exact .inr (.inr ⟨by simp, .onRoom _ r (fun _ => rfl) (by simp)⟩)
    | notPublished | mirrored | notMirrored =>
      exact .inr (.inr ⟨by simp, (Still.of_eq rfl rfl rfl rfl (by simp)).toStays⟩)
    | _ => cases hmoves

/-- Of the events, only `join` changes anything, for somebody new. -/
theorem launch_still (hla : launch s op = some (s', new)) :
    (∃ p r perms, op = .join p r perms ∧ p ∉ s.joined ∧ new = [] ∧
      s' = (s.newParticipant p r perms).onRoom r
        fun x => { x with participants := insert p x.participants }) ∨
    Still s.toObjects s'.toObjects new := by
  cases launch_starts hla with
  | join p r perms hp => exact .inl ⟨p, r, perms, rfl, hp, rfl, rfl⟩
  | connected p | reconnected p =>
    exact .inr (.onParticipant s p (fun _ => ⟨rfl, rfl⟩) (fun _ => rfl) (by simp))
  | _ => exact .inr (.of_eq rfl rfl rfl rfl (by simp))

end Stays

/-! ## Presence -/

/-- Who has joined is in its room until it leaves; then it is closed, or will be. -/
structure Presence (s : Objects) (P : Multiset Instr) : Prop where
  stays : ∀ p ∈ s.joined, p ∈ (s.rooms (s.participants p).room).participants ∨
    (s.participants p).closed = true ∨ Instr.close p ∈ P
  gone : ∀ p r, (s.participants p).closed = true ∨ Instr.close p ∈ P ∨ Instr.retireAll p ∈ P →
    p ∉ (s.rooms r).participants
  known : ∀ p, Instr.close p ∈ P ∨ Instr.retireAll p ∈ P → p ∈ s.joined

section Presence

variable {s s' : SFU} {P P' rest : Multiset Instr} {new : List Instr} {c : Choice} {i : Instr}

theorem Presence.same (h : Presence s.toObjects P) (hstays : Stays s.toObjects s'.toObjects new)
    (hclose : ∀ p, Instr.close p ∈ P' ↔ Instr.close p ∈ P)
    (hretire : ∀ p, Instr.retireAll p ∈ P' → Instr.retireAll p ∈ P) : Presence s'.toObjects P' := by
  refine ⟨fun p hp => ?_, fun p r hp => ?_, fun p hp => ?_⟩
  · rw [hstays.members, (hstays.participant p).1, (hstays.participant p).2, hclose]
    rw [hstays.joined] at hp
    exact h.stays p hp
  · rw [hstays.members]
    rw [(hstays.participant p).1, hclose] at hp
    exact h.gone p r (hp.imp_right (Or.imp_right (hretire p)))
  · rw [hclose] at hp
    rw [hstays.joined]
    exact h.known p (hp.imp_right (hretire p))

theorem leave_presence (h : Presence s.toObjects (.leave r p ::ₘ rest)) (hmaps : Maps s.toObjects)
    (hex : Executes s c (.leave r p) s' new) : Presence s'.toObjects (new + rest) := by
  cases hex with
  | notIn =>
    have hstill : Still s.toObjects s.toObjects [] := .of_eq rfl rfl rfl rfl (by simp)
    exact h.same hstill.toStays (by simp) (by simp)
  | leave _ _ hmem => ?_
  obtain ⟨hjoined, hroom⟩ := hmaps.members r p hmem
  have hpend : ∀ q,
      Instr.close q ∈ (([.retireAll p, .close p] : List Instr) : Multiset Instr) + rest ∨
        Instr.retireAll q ∈ (([.retireAll p, .close p] : List Instr) : Multiset Instr) + rest →
      q = p ∨ (Instr.close q ∈ .leave r p ::ₘ rest ∨ Instr.retireAll q ∈ .leave r p ::ₘ rest) := by
    intro q hq
    simp only [mem_add, mem_coe, List.mem_cons, reduceCtorEq, List.not_mem_nil,
      Instr.close.injEq, Instr.retireAll.injEq, or_false, false_or] at hq
    rcases hq with (rfl | hq) | rfl | hq
    · exact .inl rfl
    · exact .inr (.inl (mem_cons_of_mem hq))
    · exact .inl rfl
    · exact .inr (.inr (mem_cons_of_mem hq))
  have hsub : ∀ q r', q ∈ ((s.onRoom r fun x =>
      { x with participants := x.participants.erase p }).rooms r').participants →
        q ≠ p ∧ q ∈ (s.rooms r').participants := by
    intro q r' hq
    by_cases hr : r' = r
    · subst hr
      simpa using hq
    · simp only [SFU.onRoom, update_of_ne hr] at hq
      refine ⟨?_, hq⟩
      rintro rfl
      exact hr ((hmaps.members r' q hq).2.symm.trans hroom)
  refine ⟨fun q hq => ?_, fun q r' hq hmem' => ?_, fun q hq => ?_⟩
  · by_cases heq : q = p
    · exact .inr (.inr (by simp [heq]))
    · rcases h.stays q hq with hin | hclosed | hpend
      · left
        by_cases hr : (s.participants q).room = r
        · simpa [hr, heq] using hin
        · simpa [hr] using hin
      · exact .inr (.inl hclosed)
      · exact .inr (.inr (mem_add.2 (.inr (by simpa using hpend))))
  · obtain ⟨hne, hmem'⟩ := hsub q r' hmem'
    refine h.gone q r' ?_ hmem'
    rcases hq with hclosed | hq
    · exact .inl hclosed
    · exact .inr ((hpend q hq).resolve_left hne)
  · rcases hpend q hq with rfl | hq
    · exact hjoined
    · exact h.known q hq

theorem close_presence (h : Presence s.toObjects (.close p ::ₘ rest))
    (hex : Executes s c (.close p) s' new) : Presence s'.toObjects (new + rest) := by
  -- afterwards it is closed, if it was not already
  have hend : s'.joined = s.joined ∧ s'.rooms = s.rooms ∧
      (∀ q, (s'.participants q).room = (s.participants q).room ∧
        ((s'.participants q).closed = true ↔ q = p ∨ (s.participants q).closed = true)) ∧
      ∀ q, Instr.close q ∉ new ∧ Instr.retireAll q ∉ new := by
    cases hex with
    | closedBefore _ _ hclosed =>
      refine ⟨rfl, rfl, fun q => ⟨rfl, .inr, ?_⟩, by simp⟩
      rintro (rfl | hq)
      · exact hclosed
      · exact hq
    | close =>
      refine ⟨rfl, rfl, fun q => ?_, by simp⟩
      by_cases heq : q = p <;> simp [heq]
  obtain ⟨hjoined, hrooms, hpart, hnew⟩ := hend
  have hpend : ∀ q, Instr.close q ∈ (new : Multiset Instr) + rest ∨
      Instr.retireAll q ∈ (new : Multiset Instr) + rest →
        Instr.close q ∈ .close p ::ₘ rest ∨ Instr.retireAll q ∈ .close p ::ₘ rest := by
    intro q hq
    simp only [mem_add, mem_coe, (hnew q).1, (hnew q).2, false_or] at hq
    exact hq.imp mem_cons_of_mem mem_cons_of_mem
  refine ⟨fun q hq => ?_, fun q r hq => ?_, fun q hq => ?_⟩
  · rw [hjoined] at hq
    rw [hrooms, (hpart q).1, (hpart q).2]
    rcases h.stays q hq with hin | hclosed | hpend
    · exact .inl hin
    · exact .inr (.inl (.inr hclosed))
    · rcases mem_cons.1 hpend with heq | hpend
      · exact .inr (.inl (.inl (Instr.close.inj heq)))
      · exact .inr (.inr (mem_add.2 (.inr hpend)))
  · rw [(hpart q).2] at hq
    rw [hrooms]
    refine h.gone q r ?_
    rcases hq with (rfl | hclosed) | hq
    · exact .inr (.inl (mem_cons_self _ _))
    · exact .inl hclosed
    · exact .inr (hpend q hq)
  · rw [hjoined]
    exact h.known q (hpend q hq)

theorem exec_presence (h : Presence s.toObjects (i ::ₘ rest)) (hmaps : Maps s.toObjects)
    (hex : exec s i c = some (s', new)) : Presence s'.toObjects (new + rest) := by
  obtain ⟨r, p, rfl⟩ | ⟨p, rfl⟩ | ⟨hne, hstays⟩ := exec_stays hex
  · exact leave_presence h hmaps (exec_executes hex)
  · exact close_presence h (exec_executes hex)
  · refine h.same hstays (fun p => ?_) fun p hp => ?_
    · simp [hne p, (hstays.new p).1]
    · rcases mem_new.1 hp with hp | hp
      · exact absurd hp (hstays.new p).2
      · exact mem_cons_of_mem hp

theorem join_presence {perms : Permissions} (h : Presence s.toObjects P) (hp : p ∉ s.joined) :
    Presence ((s.newParticipant p r perms).onRoom r
      fun x => { x with participants := insert p x.participants }).toObjects P := by
  refine ⟨fun q hq => ?_, fun q r' hq hmem => ?_, fun q hq => ?_⟩
  · by_cases heq : q = p
    · subst heq
      simp
    · have hq' : q ∈ s.joined := by simpa [heq] using hq
      simp only [SFU.newParticipant, SFU.onRoom, update_of_ne heq]
      rcases h.stays q hq' with hin | hrest
      · left
        by_cases hr : (s.participants q).room = r
        · simpa [hr, heq] using hin
        · simpa [hr] using hin
      · exact .inr hrest
  · have hmem' : q = p ∨ q ∈ (s.rooms r').participants := by
      by_cases hr : r' = r
      · subst hr
        simpa using hmem
      · right
        simpa [hr] using hmem
    by_cases heq : q = p
    · subst heq
      rcases hq with hclosed | hpend
      · simp at hclosed
      · exact hp (h.known q hpend)
    · simp only [SFU.newParticipant, SFU.onRoom, update_of_ne heq] at hq
      exact h.gone q r' hq (hmem'.resolve_left heq)
  · exact Finset.mem_insert_of_mem (h.known q hq)

theorem launch_presence {code : List Instr} (h : Presence s.toObjects P)
    (hla : launch s op = some (s', code)) : Presence s'.toObjects (code + P) := by
  obtain ⟨p, r, perms, -, hp, rfl, rfl⟩ | hstill := launch_still hla
  · rw [coe_nil, zero_add]
    exact join_presence h hp
  · refine h.same hstill.toStays (fun p => ?_) fun p hp => ?_
    · simp [(hstill.new p).1]
    · simpa [(hstill.new p).2] using hp

end Presence

/-! ## Live publications -/

/-- The publisher lists the publication. -/
def Objects.Listed (s : Objects) (pub : PublicationRef) : Prop :=
  (s.participants (s.publications pub).participantID).publications.lookup
    (s.publications pub).id = some pub

def Objects.Mirrored (s : Objects) (pub : PublicationRef) : Prop :=
  (s.rooms (s.publications pub).room).remotePubs.lookup (s.publications pub).id = some pub

def Objects.Live (s : Objects) (pub : PublicationRef) : Prop :=
  ((s.publications pub).participantID ∈ (s.rooms (s.publications pub).room).participants ∧
    s.Listed pub) ∨ s.Mirrored pub

instance (s : Objects) (pub : PublicationRef) : Decidable (s.Listed pub) :=
  inferInstanceAs (Decidable (_ = _))

instance (s : Objects) (pub : PublicationRef) : Decidable (s.Mirrored pub) :=
  inferInstanceAs (Decidable (_ = _))

instance (s : Objects) (pub : PublicationRef) : Decidable (s.Live pub) :=
  inferInstanceAs (Decidable (_ ∨ _))

section Live

variable {s s' : SFU} {new : List Instr} {c : Choice} {i : Instr} {pub : PublicationRef}

theorem Maps.listed_iff {s : Objects} (h : Maps s) :
    s.Listed pub ↔ ∃ p id, (s.participants p).publications.lookup id = some pub := by
  refine ⟨fun hlisted => ⟨_, _, hlisted⟩, ?_⟩
  rintro ⟨p, id, hlook⟩
  have hpub := h.publications p id pub hlook
  rw [Objects.Listed, hpub.pubID, hpub.publisher]
  exact hlook

theorem Maps.mirrored_iff {s : Objects} (h : Maps s) :
    s.Mirrored pub ↔ ∃ r id, (s.rooms r).remotePubs.lookup id = some pub := by
  refine ⟨fun hmirrored => ⟨_, _, hmirrored⟩, ?_⟩
  rintro ⟨r, id, hlook⟩
  obtain ⟨-, rfl, rfl, -⟩ := h.remotePubs r id pub hlook
  exact hlook

/-- What an instruction can do to the lists of the participants and to the mirrors in the rooms. -/
inductive Lists (s s' : Objects) (new : List Instr) : Instr → Prop
  | same {i : Instr}
    (hpubs : ∀ q, (s'.participants q).publications = (s.participants q).publications)
    (hremote : ∀ r, (s'.rooms r).remotePubs = (s.rooms r).remotePubs)
    (hnext : s'.nextPublication = s.nextPublication) : Lists s s' new i
  | publish (p : ParticipantId) (id : PublicationId)
    (hfresh : ∀ pub < s.nextPublication, (s.publications pub).id ≠ id)
    (hpubs : ∀ q, (s'.participants q).publications =
      if q = p then (s.participants q).publications.insert id s.nextPublication
      else (s.participants q).publications)
    (hremote : ∀ r, (s'.rooms r).remotePubs = (s.rooms r).remotePubs)
    (hnext : s'.nextPublication = s.nextPublication + 1)
    (hnew : .onPublicationAdded s.nextPublication ∈ new) : Lists s s' new (.publish p id)
  | removePublication (p : ParticipantId) (id : PublicationId) (ref : PublicationRef)
    (href : (s.participants p).publications.lookup id = some ref)
    (hpubs : ∀ q, (s'.participants q).publications =
      if q = p then (s.participants q).publications.erase id else (s.participants q).publications)
    (hremote : ∀ r, (s'.rooms r).remotePubs = (s.rooms r).remotePubs)
    (hnext : s'.nextPublication = s.nextPublication)
    (hnew : .onPublicationRemoved ref ∈ new) : Lists s s' new (.removePublication p id)
  | addRemote (r : RoomRef) (id : PublicationId) (p : ParticipantId)
    (hnone : (s.rooms r).remotePubs.lookup id = none)
    (hpubs : ∀ q, (s'.participants q).publications = (s.participants q).publications)
    (hremote : ∀ r', (s'.rooms r').remotePubs =
      if r' = r then (s.rooms r').remotePubs.insert id s.nextPublication
      else (s.rooms r').remotePubs)
    (hnext : s'.nextPublication = s.nextPublication + 1)
    (hnew : .onPublicationAdded s.nextPublication ∈ new) : Lists s s' new (.addRemote r id p)
  | removeRemote (r : RoomRef) (id : PublicationId) (ref : PublicationRef)
    (href : (s.rooms r).remotePubs.lookup id = some ref)
    (hpubs : ∀ q, (s'.participants q).publications = (s.participants q).publications)
    (hremote : ∀ r', (s'.rooms r').remotePubs =
      if r' = r then (s.rooms r').remotePubs.erase id else (s.rooms r').remotePubs)
    (hnext : s'.nextPublication = s.nextPublication)
    (hnew : .onPublicationRemoved ref ∈ new) : Lists s s' new (.removeRemote r id)

theorem publications_onParticipant (s : SFU) (p q : ParticipantId) (f : Participant → Participant) :
    ((s.onParticipant p f).participants q).publications =
      if q = p then (f (s.participants q)).publications else (s.participants q).publications := by
  by_cases heq : q = p <;> simp [heq]

theorem remotePubs_onRoom (s : SFU) (r r' : RoomRef) (f : Room → Room) :
    ((s.onRoom r f).rooms r').remotePubs =
      if r' = r then (f (s.rooms r')).remotePubs else (s.rooms r').remotePubs := by
  by_cases heq : r' = r <;> simp [heq]

/-- **What one instruction does to the lists.** -/
theorem exec_lists (hex : exec s i c = some (s', new)) : Lists s.toObjects s'.toObjects new i := by
  cases hmoves : i.moves with
  | false =>
    have hstill := exec_still hmoves hex
    exact .same hstill.publications hstill.remotePubs hstill.nextPublication
  | true =>
    cases exec_executes hex with
    | publish p id _ hfresh =>
      exact .publish p id hfresh (fun q => publications_onParticipant _ p q _) (fun _ => rfl) rfl
        (by simp)
    | removePublication p id ref _ href =>
      exact .removePublication p id ref href (fun q => publications_onParticipant s p q _)
        (fun _ => rfl) rfl (by simp)
    | addRemote r id p _ hnone =>
      exact .addRemote r id p hnone (fun _ => rfl) (fun r' => remotePubs_onRoom _ r r' _) rfl
        (by simp)
    | removeRemote r id ref href =>
      exact .removeRemote r id ref href (fun _ => rfl) (fun r' => remotePubs_onRoom s r r' _) rfl
        (by simp)
    | leave r p =>
      refine .same (fun _ => rfl) (fun r' => ?_) rfl
      rw [remotePubs_onRoom, ite_self]
    | close p =>
      refine .same (fun q => ?_) (fun _ => rfl) rfl
      rw [publications_onParticipant, ite_self]
    | notPublished | mirrored | notMirrored | notIn | closedBefore =>
      exact .same (fun _ => rfl) (fun _ => rfl) rfl
    | _ => cases hmoves

section Exec

variable (hmaps : Maps s.toObjects) (hmaps' : Maps s'.toObjects)
  (hex : exec s i c = some (s', new))

include hmaps hmaps' hex

/-- A publication is on the list of its publisher until `removePublication` takes it off. -/
theorem exec_listed (h : s.Listed pub) : s'.Listed pub ∨ Instr.onPublicationRemoved pub ∈ new := by
  rw [hmaps.listed_iff] at h
  rw [hmaps'.listed_iff]
  obtain ⟨p, id, hlook⟩ := h
  cases exec_lists hex with
  | same hpubs | addRemote _ _ _ _ hpubs | removeRemote _ _ _ _ hpubs =>
    exact .inl ⟨p, id, (hpubs p).symm ▸ hlook⟩
  | publish q id' hfresh hpubs =>
    have hne : id ≠ id' := by
      rintro rfl
      have hpub := hmaps.publications p id pub hlook
      exact hfresh pub hpub.1 hpub.pubID
    refine .inl ⟨p, id, ?_⟩
    rw [hpubs, lookup_ite_insert, if_neg fun h => hne h.2]
    exact hlook
  | removePublication q id' ref href hpubs _ _ hnew =>
    by_cases hmatch : p = q ∧ id = id'
    · obtain ⟨rfl, rfl⟩ := hmatch
      obtain rfl := mem_unique href hlook
      exact .inr hnew
    · refine .inl ⟨p, id, ?_⟩
      rw [hpubs, lookup_ite_erase, if_neg hmatch]
      exact hlook

/-- A mirror is in its room until its handle is closed. -/
theorem exec_mirrored (h : s.Mirrored pub) :
    s'.Mirrored pub ∨ Instr.onPublicationRemoved pub ∈ new := by
  rw [hmaps.mirrored_iff] at h
  rw [hmaps'.mirrored_iff]
  obtain ⟨r, id, hlook⟩ := h
  cases exec_lists hex with
  | same _ hremote | publish _ _ _ _ hremote | removePublication _ _ _ _ _ hremote =>
    exact .inl ⟨r, id, (hremote r).symm ▸ hlook⟩
  | addRemote r' id' q hnone _ hremote =>
    refine .inl ⟨r, id, ?_⟩
    rw [hremote, lookup_ite_insert, if_neg]
    · exact hlook
    · rintro ⟨rfl, rfl⟩
      rw [hnone] at hlook
      cases hlook
  | removeRemote r' id' ref href _ hremote _ hnew =>
    by_cases hmatch : r = r' ∧ id = id'
    · obtain ⟨rfl, rfl⟩ := hmatch
      obtain rfl := mem_unique href hlook
      exact .inr hnew
    · refine .inl ⟨r, id, ?_⟩
      rw [hremote, lookup_ite_erase, if_neg hmatch]
      exact hlook

theorem exec_listed_old (hpub : pub < s.nextPublication) (h : s'.Listed pub) : s.Listed pub := by
  rw [hmaps'.listed_iff] at h
  rw [hmaps.listed_iff]
  obtain ⟨p, id, hlook⟩ := h
  refine ⟨p, id, ?_⟩
  cases exec_lists hex with
  | same hpubs | addRemote _ _ _ _ hpubs | removeRemote _ _ _ _ hpubs =>
    rw [hpubs] at hlook
    exact hlook
  | publish q id' _ hpubs =>
    rw [hpubs, lookup_ite_insert] at hlook
    split_ifs at hlook
    · exact absurd (some.inj hlook) hpub.ne'
    · exact hlook
  | removePublication q id' _ _ hpubs =>
    rw [hpubs, lookup_ite_erase] at hlook
    split_ifs at hlook
    exact hlook

theorem exec_mirrored_old (hpub : pub < s.nextPublication) (h : s'.Mirrored pub) :
    s.Mirrored pub := by
  rw [hmaps'.mirrored_iff] at h
  rw [hmaps.mirrored_iff]
  obtain ⟨r, id, hlook⟩ := h
  refine ⟨r, id, ?_⟩
  cases exec_lists hex with
  | same _ hremote | publish _ _ _ _ hremote | removePublication _ _ _ _ _ hremote =>
    rw [hremote] at hlook
    exact hlook
  | addRemote r' id' q _ _ hremote =>
    rw [hremote, lookup_ite_insert] at hlook
    split_ifs at hlook
    · exact absurd (some.inj hlook) hpub.ne'
    · exact hlook
  | removeRemote r' id' _ _ _ hremote =>
    rw [hremote, lookup_ite_erase] at hlook
    split_ifs at hlook
    exact hlook

end Exec

section

variable (hex : exec s i c = some (s', new))

include hex

/-- Publications are made by `publish` and `addRemote`, and announced next. -/
theorem exec_made (hge : s.nextPublication ≤ pub) (hlt : pub < s'.nextPublication) :
    pub = s.nextPublication ∧ Instr.onPublicationAdded pub ∈ new ∧
      ((∃ p id, i = .publish p id) ∨ ∃ r id q, i = .addRemote r id q) := by
  cases exec_lists hex with
  | same _ _ hnext | removePublication _ _ _ _ _ _ hnext | removeRemote _ _ _ _ _ _ hnext =>
    rw [hnext] at hlt
    exact absurd hlt (Nat.not_lt.2 hge)
  | publish p id _ _ _ hnext hnew =>
    rw [hnext] at hlt
    obtain rfl : pub = s.nextPublication := Nat.le_antisymm (Nat.lt_succ_iff.1 hlt) hge
    exact ⟨rfl, hnew, .inl ⟨p, id, rfl⟩⟩
  | addRemote r id q _ _ _ hnext hnew =>
    rw [hnext] at hlt
    obtain rfl : pub = s.nextPublication := Nat.le_antisymm (Nat.lt_succ_iff.1 hlt) hge
    exact ⟨rfl, hnew, .inr ⟨r, id, q, rfl⟩⟩

/-- Of the instructions, only `leave` changes who is in a room. -/
theorem exec_members (r : RoomRef) : (s'.rooms r).participants = (s.rooms r).participants ∨
      ∃ q, (s'.rooms r).participants = (s.rooms r).participants.erase q ∧
        Instr.retireAll q ∈ new := by
  obtain ⟨r', q, rfl⟩ | ⟨q, rfl⟩ | ⟨-, hstays⟩ := exec_stays hex
  · cases exec_executes hex with
    | notIn => exact .inl rfl
    | leave =>
      by_cases hr : r = r'
      · subst hr
        exact .inr ⟨q, by simp, by simp⟩
      · exact .inl (by simp [hr])
  · cases exec_executes hex <;> exact .inl rfl
  · exact .inl (hstays.members r)

/-- Who is in a room stays there until it leaves. -/
theorem exec_member (h : p ∈ (s.rooms r).participants) :
    p ∈ (s'.rooms r).participants ∨ Instr.retireAll p ∈ new := by
  obtain hsame | ⟨q, herase, hnew⟩ := exec_members hex r
  · rw [hsame]
    exact .inl h
  · by_cases hp : p = q
    · exact .inr (hp ▸ hnew)
    · rw [herase]
      exact .inl (Finset.mem_erase.2 ⟨hp, h⟩)

/-- No instruction lets anybody into a room. -/
theorem exec_members_subset (r : RoomRef) :
    (s'.rooms r).participants ⊆ (s.rooms r).participants := by
  obtain hsame | ⟨q, herase, -⟩ := exec_members hex r
  · rw [hsame]
  · rw [herase]
    exact Finset.erase_subset q _

end

/-- An old publication does not come to life again. -/
theorem exec_live_old (hmaps : Maps s.toObjects) (hmaps' : Maps s'.toObjects)
    (hext : Extends s.toObjects s'.toObjects) (hex : exec s i c = some (s', new))
    (hpub : pub < s.nextPublication) (h : s'.Live pub) : s.Live pub := by
  rcases h with ⟨hmem, hlisted⟩ | hmirrored
  · rw [hext.publisher hpub, hext.pubRoom hpub] at hmem
    exact .inl ⟨exec_members_subset hex _ hmem, exec_listed_old hmaps hmaps' hex hpub hlisted⟩
  · exact .inr (exec_mirrored_old hmaps hmaps' hex hpub hmirrored)

theorem Maps.live_lt {s : Objects} (h : Maps s) (hlive : s.Live pub) : pub < s.nextPublication := by
  rcases hlive with ⟨-, hlisted⟩ | hmirrored
  · exact (h.publications _ _ pub hlisted).1
  · exact (h.remotePubs _ _ pub hmirrored).1

theorem Maps.live_unique {s : Objects} (h : Maps s) {pub' : PublicationRef} (hlive : s.Live pub)
    (hlive' : s.Live pub') (hroom : (s.publications pub).room = (s.publications pub').room)
    (hid : (s.publications pub).id = (s.publications pub').id) : pub = pub' := by
  have hlt := h.live_lt hlive
  have hlt' := h.live_lt hlive'
  rcases hlive with ⟨-, hlisted⟩ | hmirrored
  · exact h.unique pub hlt pub' hlt' hid (h.publications _ _ pub hlisted).pubRemote
  rcases hlive' with ⟨-, hlisted'⟩ | hmirrored'
  · exact (h.unique pub' hlt' pub hlt hid.symm (h.publications _ _ pub' hlisted').pubRemote).symm
  · rw [Objects.Mirrored, hroom, hid] at hmirrored
    exact mem_unique hmirrored hmirrored'

/-- An event changes no list, and lets in only somebody new. -/
theorem launch_live (hmaps : Maps s.toObjects) (hmaps' : Maps s'.toObjects)
    (hla : launch s op = some (s', new)) (pub : PublicationRef) :
    (s'.Listed pub ↔ s.Listed pub) ∧ (s'.Mirrored pub ↔ s.Mirrored pub) ∧
      ∀ r, (s.rooms r).participants ⊆ (s'.rooms r).participants ∧
        ∀ q ∈ (s'.rooms r).participants, q ∈ s.joined → q ∈ (s.rooms r).participants := by
  rw [hmaps.listed_iff, hmaps'.listed_iff, hmaps.mirrored_iff, hmaps'.mirrored_iff]
  obtain ⟨p, r, perms, -, hp, rfl, rfl⟩ | hstill := launch_still hla
  · refine ⟨⟨?_, ?_⟩, exists_congr fun r' => ?_, fun r' => ?_⟩
    · rintro ⟨q, id, hlook⟩
      by_cases heq : q = p
      · simp [heq] at hlook
      · exact ⟨q, id, by simpa [heq] using hlook⟩
    · rintro ⟨q, id, hlook⟩
      have hne : q ≠ p := by
        rintro rfl
        exact hp (hmaps.publications q id pub hlook).2.1
      exact ⟨q, id, by simpa [hne] using hlook⟩
    · by_cases hr : r' = r <;> simp [hr]
    · by_cases hr : r' = r
      · subst hr
        simp only [SFU.newParticipant, SFU.onRoom, update_self]
        refine ⟨Finset.subset_insert _ _, fun q hq hjoined => ?_⟩
        exact (Finset.mem_insert.1 hq).resolve_left fun heq => hp (heq ▸ hjoined)
      · simp +contextual [hr]
  · refine ⟨exists_congr fun p => ?_, exists_congr fun r => ?_, fun r => ?_⟩
    · rw [hstill.publications]
    · rw [hstill.remotePubs]
    · rw [hstill.members]
      exact ⟨subset_rfl, fun q hq _ => hq⟩

/-- Events bring no publication to life. -/
theorem launch_live_old (hmaps : Maps s.toObjects) (hmaps' : Maps s'.toObjects)
    (hext : Extends s.toObjects s'.toObjects) (hla : launch s op = some (s', new))
    (h : s'.Live pub) : s.Live pub := by
  obtain ⟨hlisted, hmirrored, hmembers⟩ := launch_live hmaps hmaps' hla pub
  rcases h with ⟨hmem, hlist⟩ | hmirror
  · obtain ⟨hlt, hjoined, -⟩ := hmaps.publications _ _ pub (hlisted.1 hlist)
    rw [hext.publisher hlt, hext.pubRoom hlt] at hmem
    exact .inl ⟨(hmembers _).2 _ hmem hjoined, hlisted.1 hlist⟩
  · exact .inr (hmirrored.1 hmirror)

/-- No event makes a publication. -/
theorem launch_nextPublication (hla : launch s op = some (s', new)) :
    s'.nextPublication = s.nextPublication := by
  obtain ⟨p, r, perms, -, -, -, rfl⟩ | hstill := launch_still hla
  · rfl
  · exact hstill.nextPublication

end Live

end PulseRTC.Sfu
