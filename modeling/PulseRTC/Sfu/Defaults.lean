import PulseRTC.Sfu.Liveness
import PulseRTC.Sfu.Retirement

/-!
# Everybody receives everyone

By default a participant is subscribed to every publication of its room: to those that are there
when its connection is established (`bootstrap`) and to those that come later
(`onPublicationAdded`), unless its last explicit operation was `Unsubscribe`. `bootstrap` lists the
publications of the other participants; it does not look at the mirrors in the room.

* `receives_everyone`: so it is if nobody joins a room that has mirrors, and the critical sections
  for one publication id do not overtake each other (`InTurn`).
-/

namespace PulseRTC.Sfu

open Foundations Cluster Multiset Function

/-! ## What a participant has decided -/

/-- The opt-outs and explicit operations of a participant, and whether it was bootstrapped. -/
def Participant.choices (x : Participant) :
    Finset PublicationId × GoMap PublicationId Bool × Bool :=
  (x.optedOut, x.explicit, x.bootstrapped)

/-- The participant whose explicit operation is decided. -/
def Instr.decides : Instr → Option ParticipantId
  | .subscribeFound p _ | .optOut p _ | .findAmong p _ _ => some p
  | _ => none

section Choices

variable {s s' : SFU} {new : List Instr} {c : Choice} {i : Instr} {q : ParticipantId}

theorem choices_onParticipant (s : SFU) (p : ParticipantId) {f : Participant → Participant}
    (hf : p = q → ∀ x, (f x).choices = x.choices) :
    ((s.onParticipant p f).participants q).choices = (s.participants q).choices := by
  by_cases heq : q = p
  · subst heq
    simpa using hf rfl _
  · simp [heq]

/-- Nothing else changes what the participant has decided. -/
theorem exec_choices (hi : i.decides ≠ some q) (hex : exec s i c = some (s', new)) :
    (s'.participants q).choices = (s.participants q).choices := by
  cases exec_executes hex with
  | publish p | subscribe p | removePublication p | unsubscribe p | record p | close p =>
    exact choices_onParticipant _ p fun _ _ => rfl
  | subscribeFound p | optOut p =>
    exact choices_onParticipant _ p fun heq => absurd (congrArg some heq) hi
  | notFound p =>
    exact choices_onParticipant (s.fail p _) p fun heq => absurd (congrArg some heq) hi
  | _ => rfl

/-- What an instruction can decide for a participant, and what it leaves of it. -/
inductive Decides (s : SFU) (q : ParticipantId) : Instr → Participant → Prop
  | nothing {i : Instr} {y : Participant} (hout : y.optedOut = (s.participants q).optedOut)
    (hexplicit : y.explicit = (s.participants q).explicit) : Decides s q i y
  | subscribes {y : Participant} (pub : PublicationRef)
    (hother : (s.publications pub).participantID ≠ q)
    (hout : y.optedOut = (s.participants q).optedOut.erase (s.publications pub).id)
    (hexplicit : y.explicit = (s.participants q).explicit.insert (s.publications pub).id true) :
    Decides s q (.subscribeFound q pub) y
  /-- A `Subscribe` to what is not there is an operation, too. -/
  | misses {y : Participant} (id : PublicationId)
    (hnone : (s.rooms (s.participants q).room).remotePubs.lookup id = none)
    (hout : y.optedOut = (s.participants q).optedOut)
    (hexplicit : y.explicit = (s.participants q).explicit.insert id true) :
    Decides s q (.findAmong q id []) y
  | optsOut {y : Participant} (id : PublicationId)
    (hout : y.optedOut = insert id (s.participants q).optedOut)
    (hexplicit : y.explicit = (s.participants q).explicit.insert id false) :
    Decides s q (.optOut q id) y

/-- **What one instruction decides.** None takes part in the event of an established connection. -/
theorem exec_decides (hex : exec s i c = some (s', new)) (q : ParticipantId) :
    Decides s q i (s'.participants q) ∧
      (s'.participants q).bootstrapped = (s.participants q).bootstrapped := by
  by_cases hi : i.decides = some q
  · cases exec_executes hex with
    | subscribeFound p pub _ hother =>
      cases hi
      simp only [SFU.onParticipant, update_self]
      exact ⟨.subscribes pub hother rfl rfl, trivial⟩
    | optOut p id =>
      cases hi
      simp only [SFU.onParticipant, update_self]
      exact ⟨.optsOut id rfl rfl, trivial⟩
    | notFound p id hnone =>
      cases hi
      simp only [SFU.onParticipant, update_self]
      exact ⟨.misses id hnone rfl rfl, rfl⟩
    | subscribeOwn | found | findAmong | foundRemote => exact ⟨.nothing rfl rfl, rfl⟩
    | _ => cases hi
  · have hsame := exec_choices hi hex
    exact ⟨.nothing (congrArg Prod.fst hsame) (congrArg (fun x => x.2.1) hsame),
      congrArg (fun x => x.2.2) hsame⟩

variable {id : PublicationId}

/-- An opt-out is taken back by an explicit `Subscribe` only. -/
theorem exec_optedOut (hex : exec s i c = some (s', new)) (h : id ∈ (s.participants q).optedOut) :
    id ∈ (s'.participants q).optedOut ∨ ∃ pub, i = .subscribeFound q pub ∧
      (s.publications pub).id = id ∧ (s.publications pub).participantID ≠ q := by
  have hdecides := (exec_decides hex q).1
  generalize s'.participants q = y at *
  cases hdecides with
  | nothing hout => exact .inl (hout ▸ h)
  | subscribes pub hother hout =>
    by_cases heq : (s.publications pub).id = id
    · exact .inr ⟨pub, rfl, heq, hother⟩
    · rw [hout]
      exact .inl (Finset.mem_erase.2 ⟨Ne.symm heq, h⟩)
  | misses id' hnone hout => exact .inl (hout ▸ h)
  | optsOut id' hout =>
    rw [hout]
    exact .inl (Finset.mem_insert_of_mem h)

/-- An opt-out is made by `Unsubscribe` only. -/
theorem exec_optedOut_old (hex : exec s i c = some (s', new))
    (h : id ∈ (s'.participants q).optedOut) :
    id ∈ (s.participants q).optedOut ∨ i = .optOut q id := by
  have hdecides := (exec_decides hex q).1
  generalize s'.participants q = y at *
  cases hdecides with
  | nothing hout | misses id' hnone hout => exact .inl (hout ▸ h)
  | subscribes pub hother hout =>
    rw [hout] at h
    exact .inl (Finset.mem_of_mem_erase h)
  | optsOut id' hout =>
    rw [hout] at h
    obtain rfl | hold := Finset.mem_insert.1 h
    · exact .inr rfl
    · exact .inl hold

/-- An `unsubscribe` comes from `Unsubscribe` or from the removal of a publication. -/
theorem exec_unsubscribes (hex : exec s i c = some (s', new)) (h : Instr.unsubscribe q id ∈ new) :
    i = .optOut q id ∨ ∃ pub, i = .onPublicationRemoved pub ∧ id = (s.publications pub).id ∧
      q ∈ s.othersOf (s.publications pub).room (s.publications pub).participantID := by
  cases exec_executes hex with
  | optOut p id' =>
    obtain ⟨rfl, rfl⟩ := Instr.unsubscribe.inj (List.mem_singleton.1 h)
    exact .inl rfl
  | onPublicationRemoved pub hall =>
    right
    simp only [List.mem_append, List.mem_flatMap, List.mem_cons, List.not_mem_nil, or_false,
      reduceCtorEq, Instr.unsubscribe.injEq] at h
    obtain ⟨p, hp, rfl, rfl⟩ := h
    exact ⟨pub, rfl, rfl, (mem_of_coe_eq hall).1 hp⟩
  | subscribeFound _ _ _ _ _ hnew => rcases hnew with ⟨rfl, -⟩ | rfl <;> simp at h
  | _ => simp at h

/-- A new participant has decided nothing; the event of an established connection only starts the
bootstrap. -/
theorem launch_choices {op : Op} (hla : launch s op = some (s', new)) (q : ParticipantId) :
    ((s'.participants q).optedOut = (s.participants q).optedOut ∧
      (s'.participants q).explicit = (s.participants q).explicit ∧
      ((s'.participants q).bootstrapped = (s.participants q).bootstrapped ∨
        Instr.bootstrap q ∈ new)) ∨
    (q ∉ s.joined ∧ (s'.participants q).choices = (∅, ∅, false)) := by
  cases launch_starts hla with
  | join p r perms hp =>
    by_cases heq : q = p
    · subst heq
      exact .inr ⟨hp, by simp [Participant.choices]⟩
    · simp [heq]
  | connected p _ hboot | reconnected p _ hboot =>
    left
    by_cases heq : q = p
    · subst heq
      simp [hboot]
    · simp [heq]
  | _ => exact .inl ⟨rfl, rfl, .inl rfl⟩

end Choices

/-! ## Ids whose publication is gone -/

def Gone (s : Objects) (r : RoomRef) (id : PublicationId) : Prop :=
  (∃ pub < s.nextPublication, (s.publications pub).id = id) ∧
    ∀ pub, s.Live pub → (s.publications pub).room = r → (s.publications pub).id ≠ id

theorem Maps.not_mirrored {s : Objects} {pub : PublicationRef} (h : Maps s)
    (hlocal : (s.publications pub).remote = false) : ¬ s.Mirrored pub := by
  intro hmirrored
  obtain ⟨-, -, -, hremote⟩ := h.remotePubs _ _ pub hmirrored
  cases hremote.symm.trans hlocal

section Gone

variable {s s' : SFU} {P rest : Multiset Instr} {new : List Instr} {c : Choice} {i : Instr}
  {r : RoomRef} {id : PublicationId} {pub : PublicationRef}

/-- An id that is gone comes back as a mirror only. -/
theorem exec_gone (hmaps : Maps s.toObjects) (hmaps' : Maps s'.toObjects)
    (hext : Extends s.toObjects s'.toObjects) (hex : exec s i c = some (s', new))
    (h : Gone s.toObjects r id) :
    Gone s'.toObjects r id ∨ ∃ q, i = .addRemote r id q := by
  obtain ⟨⟨old, hold, rfl⟩, hnone⟩ := h
  by_cases hadd : ∃ q, i = .addRemote r (s.publications old).id q
  · exact .inr hadd
  refine .inl ⟨⟨old, hold.trans_le hext.nextPublication, hext.pubID hold⟩, ?_⟩
  intro pub hlive hroom hid
  have hlt' := hmaps'.live_lt hlive
  rcases Nat.lt_or_ge pub s.nextPublication with hlt | hge
  · rw [hext.pubRoom hlt] at hroom
    rw [hext.pubID hlt] at hid
    exact hnone pub (exec_live_old hmaps hmaps' hext hex hlt hlive) hroom hid
  · obtain ⟨rfl, -, ⟨p, id, rfl⟩ | ⟨r', id, q, rfl⟩⟩ := exec_made hex hge hlt'
    · cases exec_executes hex with
      | publish _ _ _ hfresh =>
        refine hfresh old hold (hid.symm.trans ?_)
        simp
    · cases exec_executes hex with
      | mirrored => exact absurd hlt' (Nat.not_lt.2 hge)
      | addRemote =>
        simp only [SFU.onRoom, SFU.newPublication, update_self] at hid hroom
        exact hadd ⟨q, by rw [← hid, ← hroom]⟩

/-- Events bring no publication back. -/
theorem launch_gone {op : Op} (hmaps : Maps s.toObjects) (hmaps' : Maps s'.toObjects)
    (hext : Extends s.toObjects s'.toObjects) (hla : launch s op = some (s', new))
    (h : Gone s.toObjects r id) : Gone s'.toObjects r id := by
  obtain ⟨⟨old, hold, rfl⟩, hnone⟩ := h
  refine ⟨⟨old, hold.trans_le hext.nextPublication, hext.pubID hold⟩, fun pub hlive => ?_⟩
  have hlt := hmaps'.live_lt hlive
  rw [launch_nextPublication hla] at hlt
  rw [hext.pubRoom hlt, hext.pubID hlt]
  exact hnone pub (launch_live_old hmaps hmaps' hext hla hlive)

/-- Whatever is taken off a list or out of a room is gone, and so is what a departing participant
leaves behind. -/
theorem exec_removes (hpres : Presence s.toObjects (i ::ₘ rest)) (hmaps : Maps s.toObjects)
    (hmaps' : Maps s'.toObjects) (hext : Extends s.toObjects s'.toObjects)
    (hex : exec s i c = some (s', new)) (h : Instr.onPublicationRemoved pub ∈ new) :
    Gone s'.toObjects (s'.publications pub).room (s'.publications pub).id := by
  -- a publication of this node that is not live is the only one of its id
  have hlocal {p : ParticipantId} {id : PublicationId}
      (hlook : (s.participants p).publications.lookup id = some pub) (hdead : ¬ s'.Live pub) :
      Gone s'.toObjects (s'.publications pub).room (s'.publications pub).id := by
    have hpub := (hmaps.publications p id pub hlook).mono hext
    refine ⟨⟨pub, hpub.1, rfl⟩, fun ref hlive _ hid => hdead ?_⟩
    rwa [hmaps'.unique pub hpub.1 ref (hmaps'.live_lt hlive) hid.symm hpub.pubRemote]
  cases hloud : i.loud with
  | false => cases (exec_mute hloud hex).new _ h
  | true =>
    cases exec_executes hex with
    | removePublication p id ref _ hlook =>
      obtain rfl : pub = ref := Instr.onPublicationRemoved.inj (List.mem_singleton.1 h)
      have hpub := hmaps.publications p id pub hlook
      refine hlocal hlook ?_
      rintro (⟨-, hlisted⟩ | hmirrored)
      · simp only [Objects.Listed, SFU.onParticipant, hpub.publisher, update_self]
          at hlisted
        rw [hpub.pubID] at hlisted
        simp at hlisted
      · exact hmaps.not_mirrored hpub.pubRemote hmirrored
    | retireAll p hall =>
      obtain ⟨ref, hmem, heq⟩ := List.mem_map.1 h
      obtain rfl : ref = pub := Instr.onPublicationRemoved.inj heq
      obtain ⟨id, hlook⟩ := GoMap.exists_lookup hall hmem
      have hpub := hmaps.publications p id ref hlook
      refine hlocal hlook ?_
      rintro (⟨hmem, -⟩ | hmirrored)
      · rw [hpub.publisher] at hmem
        exact hpres.gone p _ (.inr (.inr (mem_cons_self _ _))) hmem
      · exact hmaps.not_mirrored hpub.pubRemote hmirrored
    | removeRemote r id ref hlook =>
      obtain rfl : pub = ref := Instr.onPublicationRemoved.inj (List.mem_singleton.1 h)
      obtain ⟨hlt, rfl, rfl, hremote⟩ := hmaps.remotePubs r id pub hlook
      refine ⟨⟨pub, hlt, rfl⟩, fun ref hlive hroom hid => ?_⟩
      have hlt' := hmaps'.live_lt hlive
      rcases hlive with ⟨-, hlisted⟩ | hmirrored
      · have href := hmaps'.publications _ _ ref hlisted
        obtain rfl := hmaps'.unique ref hlt' pub hlt hid href.pubRemote
        cases hremote.symm.trans href.pubRemote
      · rw [Objects.Mirrored, hroom, hid] at hmirrored
        simp at hmirrored
    | notPublished | notMirrored | onPublicationRemoved | send | notFired | firePublicationEvent =>
      simp at h
    | _ => cases hloud

end Gone

/-! ## Conditions on a schedule -/

/-- The participant and the publication that an explicit `Subscribe` has found. -/
def Instr.resubscribing : Instr → Option (ParticipantId × PublicationRef)
  | .subscribeFound p pub => some (p, pub)
  | _ => none

/-- The participant and the id of a `Subscribe` that has found no publisher. -/
def Instr.missing : Instr → Option (ParticipantId × PublicationId)
  | .findAmong p id [] => some (p, id)
  | _ => none

/-- The room and the id of a mirror that is about to be made. -/
def Instr.mirroring : Instr → Option (RoomRef × PublicationId)
  | .addRemote r id _ => some (r, id)
  | _ => none

/-- The instruction is part of the removal of a publication with the id from the room. -/
def Instr.Removes (s : Objects) (r : RoomRef) (id : PublicationId) : Instr → Prop
  | .onPublicationRemoved pub => (s.publications pub).room = r ∧ (s.publications pub).id = id
  | .unsubscribe p id' =>
    (s.participants p).room = r ∧ id' = id ∧ id ∉ (s.participants p).optedOut
  | _ => False

instance (s : Objects) (r : RoomRef) (id : PublicationId) (i : Instr) :
    Decidable (i.Removes s r id) := by
  unfold Instr.Removes
  split <;> infer_instance

/-- The critical sections for one publication id do not overtake each other: `subscribe` finds its
publication live and not opted out of, and its track is taken; an explicit `Subscribe` finds a live
publication, whose removal is not on the way, or fails for an id that was not opted out of; and a
mirror comes back only after the last removal of its id has reached everybody. -/
def InTurn (s : SFU) (P : Multiset Instr) (i : Instr) (c : Choice) : Prop :=
  (∀ x ∈ i.subscribing, c.addTrack = true ∧ Covered s.toObjects P x.1 x.2 ∧
    (s.publications x.2).id ∉ (s.participants x.1).optedOut) ∧
  (∀ x ∈ i.resubscribing, (s.publications x.2).participantID ≠ x.1 →
    s.Live x.2 ∧ Instr.unsubscribe x.1 (s.publications x.2).id ∉ P) ∧
  (∀ x ∈ i.missing, x.2 ∈ (s.participants x.1).optedOut →
    x.2 ∈ (s.rooms (s.participants x.1).room).remotePubs) ∧
  ∀ x ∈ i.mirroring, ∀ j ∈ P, ¬ j.Removes s.toObjects x.1 x.2

instance (s : SFU) (P : Multiset Instr) (i : Instr) (c : Choice) : Decidable (InTurn s P i c) :=
  inferInstanceAs (Decidable (_ ∧ _))

def Op.joins : Op → Option RoomRef
  | .join _ r _ => some r
  | _ => none

/-- A subscription is declared fatal. -/
def Op.fatal : Op → Bool
  | .subscriptionFatal .. => true
  | _ => false

/-- Nobody joins a room that has mirrors, and no subscription is declared fatal. -/
def NoMirrorsYet (s : SFU) (_ : Multiset Instr) (op : Op) : Prop :=
  op.fatal = false ∧ ∀ r ∈ op.joins, (s.rooms r).remotePubs.keys = ∅

instance (s : SFU) (P : Multiset Instr) (op : Op) : Decidable (NoMirrorsYet s P op) :=
  inferInstanceAs (Decidable (_ ∧ _))

/-! ## The invariant -/

/-- The participant is subscribed to the publication, has opted out of it, or its subscription is
on the way. -/
inductive Served (s : Objects) (P : Multiset Instr) (p : ParticipantId) (pub : PublicationRef) :
    Prop
  | subscribed (x : SubscriptionRef) (hactive : s.Active P x)
    (hp : (s.subscriptions x).subscriberID = p) (hpub : (s.subscriptions x).publication = pub)
  | optedOut (h : (s.publications pub).id ∈ (s.participants p).optedOut)
  | announced (h : Instr.onPublicationAdded pub ∈ P)
  | checking (h : Instr.maybeAutoSubscribe p pub ∈ P)
  | subscribing (h : Instr.subscribe p pub ∈ P)
  | bootstrapping (hlocal : (s.publications pub).remote = false)
    (h : (s.participants p).bootstrapped = false ∨ Instr.bootstrap p ∈ P ∨
      Instr.bootstrapFrom p (s.publications pub).participantID ∈ P)

/-- What a participant receives, and what it has opted out of. -/
structure Defaults (s : SFU) (P : Multiset Instr) : Prop where
  cover : Cover s.toObjects P
  removed : ∀ pub, Instr.onPublicationRemoved pub ∈ P →
    Gone s.toObjects (s.publications pub).room (s.publications pub).id
  unsubscribed : ∀ p id, Instr.unsubscribe p id ∈ P →
    id ∈ (s.participants p).optedOut ∨ Gone s.toObjects (s.participants p).room id
  respected : ∀ x, s.Active P x →
    (s.publications (s.subscriptions x).publication).id ∈
      (s.participants (s.subscriptions x).subscriberID).optedOut →
    Instr.unsubscribe (s.subscriptions x).subscriberID
      (s.publications (s.subscriptions x).publication).id ∈ P
  explicit : ∀ p id, (s.participants p).explicit.lookup id = some false ↔
    id ∈ (s.participants p).optedOut
  served : ∀ p pub, p ∈ (s.rooms (s.publications pub).room).participants →
    (s.participants p).perms.subscribe = true → s.Live pub →
    (s.publications pub).participantID ≠ p → Served s.toObjects P p pub

section Defaults

variable {s s' : SFU} {P rest : Multiset Instr} {new : List Instr} {c : Choice} {i : Instr}
  {p : ParticipantId} {pub : PublicationRef}

section

variable (h : Defaults s P) (hmaps : Maps s.toObjects)
  (hp : p ∈ (s.rooms (s.publications pub).room).participants) (hlive : s.Live pub)

include h hmaps hp hlive

/-- A subscription of the right id is to the live publication, or about to be removed. -/
theorem Defaults.of_mem (hmem : (s.publications pub).id ∈ (s.participants p).subscriptions) :
    Instr.unsubscribe p (s.publications pub).id ∈ P ∨
      ∃ x, s.Held x ∧ (s.subscriptions x).subscriberID = p ∧
        (s.subscriptions x).publication = pub := by
  obtain ⟨x, hlook⟩ := Finmap.mem_iff.1 hmem
  have hheld : s.Held x := hmaps.held_iff.2 ⟨p, _, hlook⟩
  obtain ⟨hlt, hsub, hid⟩ := hmaps.subscriptions p _ x hlook
  have hroom : (s.publications (s.subscriptions x).publication).room =
      (s.publications pub).room := by
    rw [← (hmaps.fits x hlt).1.room, hsub, (hmaps.members _ p hp).2]
  have hcovered := h.cover x (.inl hheld) (by rw [hsub, hroom]; exact hp)
  rw [hsub] at hcovered
  rcases hcovered with hlive' | hremoved | hunsub | ⟨hlisted, -⟩
  · exact .inr ⟨x, hheld, hsub, hmaps.live_unique hlive' hlive hroom hid⟩
  · exact absurd hid.symm ((h.removed _ hremoved).2 pub hlive hroom.symm)
  · exact .inl (hid ▸ hunsub)
  · have hown := hmaps.publications _ _ _ hlisted
    exact .inr ⟨x, hheld, hsub, hmaps.unique _ hown.1 pub (hmaps.live_lt hlive) hid hown.pubRemote⟩

theorem Defaults.optedOut_of_mem (hmem : Instr.unsubscribe p (s.publications pub).id ∈ P) :
    (s.publications pub).id ∈ (s.participants p).optedOut := by
  refine (h.unsubscribed p _ hmem).resolve_right fun hgone => ?_
  exact hgone.2 pub hlive (hmaps.members _ p hp).2.symm rfl

end

/-! ### Steps -/

theorem defaults_empty : Defaults {} 0 where
  cover := by
    rintro x (hheld | ⟨j, hj, -⟩)
    · simp [Objects.Held] at hheld
    · simp at hj
  removed := by simp
  unsubscribed := by simp
  respected := by simp
  explicit := by simp
  served := by simp

section Exec

variable (h : Defaults s (i ::ₘ rest)) (hbooks : Books s (i ::ₘ rest))
  (hturn : InTurn s (i ::ₘ rest) i c) (hex : exec s i c = some (s', new))

include h hbooks hturn hex

theorem exec_removed : ∀ pub, Instr.onPublicationRemoved pub ∈ (new : Multiset Instr) + rest →
      Gone s'.toObjects (s'.publications pub).room (s'.publications pub).id := by
  obtain ⟨hwf', hext⟩ := exec_wellFormed hbooks.wellFormed hex
  have hmaps := hbooks.wellFormed.maps
  intro pub hmem
  rcases mem_new.1 hmem with hnew | hrest
  · exact exec_removes hbooks.presence hmaps hwf'.maps hext hex hnew
  · have hpend := mem_cons_of_mem (b := i) hrest
    have hlt : pub < s.nextPublication := hbooks.wellFormed.ok _ hpend
    rw [hext.pubRoom hlt, hext.pubID hlt]
    rcases exec_gone hmaps hwf'.maps hext hex (h.removed pub hpend) with hgone | ⟨q, rfl⟩
    · exact hgone
    · exact absurd ⟨rfl, rfl⟩ (hturn.2.2.2 _ rfl _ hpend)

theorem exec_unsubscribed : ∀ p id, Instr.unsubscribe p id ∈ (new : Multiset Instr) + rest →
      id ∈ (s'.participants p).optedOut ∨ Gone s'.toObjects (s'.participants p).room id := by
  obtain ⟨hwf', hext⟩ := exec_wellFormed hbooks.wellFormed hex
  have hmaps := hbooks.wellFormed.maps
  intro p id hmem
  rcases mem_new.1 hmem with hnew | hrest
  · rcases exec_unsubscribes hex hnew with rfl | ⟨pub, rfl, rfl, hp⟩
    · cases exec_executes hex
      exact .inl (by simp)
    · cases exec_executes hex
      right
      rw [(fits_of_othersOf hmaps (hbooks.wellFormed.ok _ (mem_cons_self _ _)) hp).room]
      exact h.removed pub (mem_cons_self _ _)
  · have hpend := mem_cons_of_mem (b := i) hrest
    have hjoined : p ∈ s.joined := hbooks.wellFormed.ok _ hpend
    rw [hext.room hjoined]
    rcases h.unsubscribed p id hpend with hout | hgone
    · rcases exec_optedOut hex hout with hout | ⟨pub, rfl, rfl, hother⟩
      · exact .inl hout
      · exact absurd hpend (hturn.2.1 _ rfl hother).2
    · rcases exec_gone hmaps hwf'.maps hext hex hgone with hgone | ⟨q, rfl⟩
      · exact .inr hgone
      · by_cases hout : id ∈ (s.participants p).optedOut
        · exact .inl ((exec_optedOut hex hout).resolve_right (by simp))
        · exact absurd ⟨rfl, rfl, hout⟩ (hturn.2.2.2 _ rfl _ hpend)

theorem exec_respected : ∀ x, s'.Active (new + rest) x →
      (s'.publications (s'.subscriptions x).publication).id ∈
        (s'.participants (s'.subscriptions x).subscriberID).optedOut →
      Instr.unsubscribe (s'.subscriptions x).subscriberID
        (s'.publications (s'.subscriptions x).publication).id ∈ (new : Multiset Instr) + rest := by
  have hwf := hbooks.wellFormed
  obtain ⟨hwf', hext⟩ := exec_wellFormed hwf hex
  intro x hx hout
  rcases exec_active_old hwf.maps hwf'.maps hex hx with hactive | ⟨p, pub, rfl, hsub⟩
  · have hlt := hwf.active_lt hactive
    rw [hext.subscriber hlt, hext.target hlt, hext.pubID (hwf.maps.fits x hlt).1.made] at hout ⊢
    rcases exec_optedOut_old hex hout with hout | rfl
    · rcases mem_cons.1 (h.respected x hactive hout) with rfl | hpend
      · exact absurd hx (unsubscribe_inactive hbooks (exec_executes hex) rfl rfl)
      · exact mem_add.2 (.inr hpend)
    · cases exec_executes hex
      simp
  · obtain ⟨-, -, hfree⟩ := hturn.1 (p, pub) rfl
    have hmade := (hwf.ok _ (mem_cons_self _ _)).1.made
    rw [hsub, hext.pubID hmade] at hout
    exact absurd ((exec_optedOut_old hex hout).resolve_right (by simp)) hfree

omit hbooks in
theorem exec_explicit (p : ParticipantId) (id : PublicationId) :
    (s'.participants p).explicit.lookup id = some false ↔ id ∈ (s'.participants p).optedOut := by
  have hold := h.explicit p id
  have hdecides := (exec_decides hex p).1
  generalize s'.participants p = y at *
  cases hdecides with
  | nothing hout hexplicit =>
    rw [hout, hexplicit]
    exact hold
  | subscribes pub hother hout hexplicit =>
    rw [hout, hexplicit, GoMap.lookup_insert_eq, Finset.mem_erase]
    split_ifs with heq
    · simp [heq]
    · rw [hold]
      exact (and_iff_right heq).symm
  | misses id' hnone hout hexplicit =>
    have hfree : id' ∉ (s.participants p).optedOut := fun hmem =>
      Finmap.lookup_eq_none.1 hnone (hturn.2.2.1 (p, id') rfl hmem)
    rw [hout, hexplicit, GoMap.lookup_insert_eq]
    split_ifs with heq
    · subst heq
      simp [hfree]
    · exact hold
  | optsOut id' hout hexplicit =>
    rw [hout, hexplicit, GoMap.lookup_insert_eq, Finset.mem_insert]
    split_ifs with heq
    · simp [heq]
    · rw [hold]
      exact (or_iff_right heq).symm

/-- One step on the way to a subscription, or the subscription itself, follows the other. -/
theorem exec_served : ∀ p pub, p ∈ (s'.rooms (s'.publications pub).room).participants →
      (s'.participants p).perms.subscribe = true → s'.Live pub →
      (s'.publications pub).participantID ≠ p → Served s'.toObjects (new + rest) p pub := by
  have hwf := hbooks.wellFormed
  obtain ⟨hwf', hext⟩ := exec_wellFormed hwf hex
  have hmaps := hwf.maps
  have hnew {j : Instr} (hj : j ∈ new) : j ∈ (new : Multiset Instr) + rest := mem_new.2 (.inl hj)
  have hrest {j : Instr} (hj : j ∈ rest) : j ∈ (new : Multiset Instr) + rest := mem_new.2 (.inr hj)
  intro p pub hp' hperm' hlive' hother'
  rcases Nat.lt_or_ge pub s.nextPublication with hlt | hge
  swap
  · exact .announced (hnew (exec_made hex hge (hwf'.maps.live_lt hlive')).2.1)
  have hid := hext.pubID hlt
  rw [hext.pubRoom hlt] at hp'
  rw [hext.publisher hlt] at hother'
  have hp := exec_members_subset hex _ hp'
  obtain ⟨hjoined, hroom⟩ := hmaps.members _ p hp
  rw [hext.perms hjoined] at hperm'
  have hlive := exec_live_old hmaps hwf'.maps hext hex hlt hlive'
  have hclosed : (s.participants p).closed ≠ true :=
    fun hclosed => hbooks.presence.gone p _ (.inl hclosed) hp
  -- a subscription of its id is to the live publication
  have hsame (hmem : (s.publications pub).id ∈ (s.participants p).subscriptions) (heq : s' = s) :
      Served s'.toObjects (new + rest) p pub := by
    subst heq
    rcases h.of_mem hmaps hp hlive hmem with hunsub | ⟨x, hheld, hsub, hpub⟩
    · exact .optedOut (h.optedOut_of_mem hmaps hp hlive hunsub)
    · exact .subscribed x (.inl hheld) hsub hpub
  cases h.served p pub hp hperm' hlive hother' with
  | subscribed x hactive hsub hpub =>
    have hx := hwf.active_lt hactive
    rcases exec_active hwf hwf'.maps hbooks.locks hex hactive with hactive | hunsub | hclose
    · exact .subscribed x hactive ((hext.subscriber hx).trans hsub) ((hext.target hx).trans hpub)
    · rw [hsub, hpub] at hunsub
      subst hunsub
      have hout := h.optedOut_of_mem hmaps hp hlive (mem_cons_self _ rest)
      refine .optedOut ?_
      rw [hid]
      exact (exec_optedOut hex hout).resolve_right (by simp)
    · rw [hsub] at hclose
      subst hclose
      exact absurd hp (hbooks.presence.gone p _ (.inr (.inl (mem_cons_self _ rest))))
  | optedOut hout =>
    rcases exec_optedOut hex hout with hout | ⟨ref, rfl, href, hown⟩
    · refine .optedOut ?_
      rw [hid]
      exact hout
    · -- the explicit `Subscribe` has found this very publication
      obtain ⟨hfound, hpend⟩ := hturn.2.1 _ rfl hown
      obtain ⟨-, -, -, hrefroom⟩ := hwf.ok _ (mem_cons_self _ rest)
      obtain rfl : ref = pub :=
        hmaps.live_unique hfound hlive (hrefroom.symm.trans hroom) href
      have hnew' : (s.publications ref).id ∈ (s.participants p).subscriptions ∨
          Instr.subscribe p ref ∈ new := by
        cases exec_executes hex with
        | subscribeOwn _ _ hown' => exact absurd hown' hown
        | subscribeFound _ _ _ _ _ hnew => exact hnew.imp And.right fun h => by simp [h]
      rcases hnew' with hmem | hmem
      · obtain ⟨x, hheld, hsub, hpub⟩ := (h.of_mem hmaps hp hlive hmem).resolve_left hpend
        have hx := hwf.active_lt (.inl hheld)
        refine .subscribed x ?_ ((hext.subscriber hx).trans hsub) ((hext.target hx).trans hpub)
        exact (exec_active hwf hwf'.maps hbooks.locks hex (.inl hheld)).resolve_right (by simp)
      · exact .subscribing (hnew hmem)
  | announced hpend =>
    rcases mem_cons.1 hpend with rfl | hpend
    · cases exec_executes hex with
      | onPublicationAdded _ hall =>
        have hmem : p ∈ c.participants :=
          (mem_of_coe_eq hall).2 (Finset.mem_erase.2 ⟨hother'.symm, hp⟩)
        refine .checking (hnew ?_)
        simp only [List.mem_append, List.mem_flatMap]
        exact .inl ⟨p, hmem, by simp⟩
    · exact .announced (hrest hpend)
  | checking hpend =>
    rcases mem_cons.1 hpend with rfl | hpend
    · cases exec_executes hex with
      | notAutoSubscribed _ _ hskip =>
        rcases hskip with hdenied | hout | hmem | hclosed'
        · cases hdenied.symm.trans hperm'
        · exact .optedOut hout
        · exact hsame hmem rfl
        · exact absurd hclosed' hclosed
      | maybeAutoSubscribe => exact .subscribing (hnew (List.mem_singleton_self _))
    · exact .checking (hrest hpend)
  | subscribing hpend =>
    rcases mem_cons.1 hpend with rfl | hpend
    · cases exec_executes hex with
      | notSubscribed _ _ _ hskip =>
        rcases hskip with hclosed' | hmem | hfail
        · exact absurd hclosed' hclosed
        · exact hsame hmem rfl
        · cases hfail.symm.trans (hturn.1 _ rfl).1
      | subscribe =>
        refine .subscribed s.nextSubscription (.inr ⟨_, hnew List.mem_cons_self, rfl⟩) ?_ ?_ <;>
          simp
    · exact .subscribing (hrest hpend)
  | bootstrapping hlocal hboot =>
    have hlocal' := (hext.pubRemote hlt).trans hlocal
    have hown := hext.publisher hlt
    -- a live publication of this node is listed by a publisher in the room
    have hlisted : (s.publications pub).participantID ∈
        (s.rooms (s.publications pub).room).participants ∧ s.Listed pub :=
      hlive.resolve_right (hmaps.not_mirrored hlocal)
    rcases hboot with hboot | hboot | hboot
    · exact .bootstrapping hlocal' (.inl ((exec_decides hex p).2.trans hboot))
    · rcases mem_cons.1 hboot with rfl | hboot
      · cases exec_executes hex with
        | bootstrap _ hall =>
          refine .bootstrapping hlocal (.inr (.inr (hnew (List.mem_map.2 ⟨_, ?_, rfl⟩))))
          refine (mem_of_coe_eq hall).2 (Finset.mem_erase.2 ⟨hother', ?_⟩)
          rw [hroom]
          exact hlisted.1
      · exact .bootstrapping hlocal' (.inr (.inl (hrest hboot)))
    · rcases mem_cons.1 hboot with rfl | hboot
      · cases exec_executes hex with
        | bootstrapFrom _ _ hall =>
          have hmem : pub ∈ c.publications := by
            rw [← mem_coe, hall]
            exact GoMap.mem_values.2 ⟨_, hlisted.2⟩
          exact .checking (hnew (List.mem_map.2 ⟨pub, hmem, rfl⟩))
      · refine .bootstrapping hlocal' (.inr (.inr ?_))
        rw [hown]
        exact hrest hboot

theorem exec_defaults : Defaults s' (new + rest) where
  cover := exec_cover h.cover hbooks (fun x hx => (hturn.1 x hx).2.1) hex
  removed := exec_removed h hbooks hturn hex
  unsubscribed := exec_unsubscribed h hbooks hturn hex
  respected := exec_respected h hbooks hturn hex
  explicit := exec_explicit h hturn hex
  served := exec_served h hbooks hturn hex

end Exec

/-! ### Events -/

variable {op : Op}

theorem launch_comes {r : RoomRef} (hmaps : Maps s.toObjects) (hla : launch s op = some (s', new))
    (hp : p ∉ s.joined) (hmem : p ∈ (s'.rooms r).participants) : ∃ perms, op = .join p r perms := by
  have hnone : p ∉ (s.rooms r).participants := fun hmem => hp (hmaps.members r p hmem).1
  obtain ⟨q, r', perms, rfl, -, -, rfl⟩ | hstill := launch_still hla
  · by_cases hr : r = r'
    · subst hr
      simp only [SFU.onRoom, SFU.newParticipant, update_self, Finset.mem_insert] at hmem
      obtain rfl := hmem.resolve_right hnone
      exact ⟨perms, rfl⟩
    · simp only [SFU.onRoom, SFU.newParticipant, update_of_ne hr] at hmem
      exact absurd hmem hnone
  · rw [hstill.members] at hmem
    exact absurd hmem hnone

theorem launch_served (h : Defaults s P) (hbooks : Books s P) (hyet : NoMirrorsYet s P op)
    (hla : launch s op = some (s', new)) :
    ∀ p pub, p ∈ (s'.rooms (s'.publications pub).room).participants →
      (s'.participants p).perms.subscribe = true → s'.Live pub →
      (s'.publications pub).participantID ≠ p → Served s'.toObjects (new + P) p pub := by
  have hwf := hbooks.wellFormed
  obtain ⟨hwf', hext⟩ := launch_wellFormed hwf hla
  have hP {j : Instr} (hj : j ∈ P) : j ∈ (new : Multiset Instr) + P := mem_add.2 (.inr hj)
  intro p pub hp' hperm' hlive' hother'
  have hlive := launch_live_old hwf.maps hwf'.maps hext hla hlive'
  have hlt := hwf.maps.live_lt hlive
  have hid := hext.pubID hlt
  have hown := hext.publisher hlt
  rw [hext.pubRoom hlt] at hp'
  rw [hown] at hother'
  by_cases hjoined : p ∈ s.joined
  · obtain ⟨hout, -, hboot⟩ := (launch_choices hla p).resolve_right fun hnew => hnew.1 hjoined
    have hp := ((launch_live hwf.maps hwf'.maps hla pub).2.2 _).2 p hp' hjoined
    rw [hext.perms hjoined] at hperm'
    cases h.served p pub hp hperm' hlive hother' with
    | subscribed x hactive hsub hpub =>
      have hx := hwf.active_lt hactive
      exact .subscribed x ((launch_active hwf hwf'.maps hla).2 hactive)
        ((hext.subscriber hx).trans hsub) ((hext.target hx).trans hpub)
    | optedOut hmem =>
      refine .optedOut ?_
      rw [hid, hout]
      exact hmem
    | announced hpend => exact .announced (hP hpend)
    | checking hpend => exact .checking (hP hpend)
    | subscribing hpend => exact .subscribing (hP hpend)
    | bootstrapping hlocal hpend =>
      refine .bootstrapping ((hext.pubRemote hlt).trans hlocal) ?_
      rw [hown]
      rcases hpend with hpend | hpend | hpend
      · rcases hboot with hboot | hboot
        · exact .inl (hboot.trans hpend)
        · exact .inr (.inl (mem_new.2 (.inl hboot)))
      · exact .inr (.inl (hP hpend))
      · exact .inr (.inr (hP hpend))
  · -- the publications of this node are left to the bootstrap, and there are no mirrors
    obtain ⟨perms, rfl⟩ := launch_comes hwf.maps hla hjoined hp'
    have hempty := hyet.2 _ rfl
    refine .bootstrapping ((hext.pubRemote hlt).trans ?_) (.inl ?_)
    · rcases hlive with ⟨-, hlisted⟩ | hmirrored
      · exact (hwf.maps.publications _ _ pub hlisted).pubRemote
      · have hlook : (s.rooms (s.publications pub).room).remotePubs.lookup
            (s.publications pub).id = some pub := hmirrored
        have hmem := Finmap.mem_keys.2 (Finmap.mem_of_lookup_eq_some hlook)
        rw [hempty] at hmem
        exact absurd hmem (Finset.notMem_empty _)
    · cases launch_starts hla
      simp

/-- An event starts no `unsubscribe`, unless a subscription is declared fatal. -/
theorem launch_unsubscribes {id : PublicationId} (hop : op.fatal = false)
    (hla : launch s op = some (s', new)) : Instr.unsubscribe p id ∉ new := by
  cases launch_starts hla with
  | subscriptionFatal => cases hop
  | _ => simp

theorem launch_defaults (h : Defaults s P) (hbooks : Books s P) (hyet : NoMirrorsYet s P op)
    (hla : launch s op = some (s', new)) :
    Defaults s' (new + P) := by
  have hwf := hbooks.wellFormed
  obtain ⟨hwf', hext⟩ := launch_wellFormed hwf hla
  refine ⟨launch_cover h.cover hbooks hla, fun pub hmem => ?_, fun p id hmem => ?_,
    fun x hx hout => ?_, fun p id => ?_, launch_served h hbooks hyet hla⟩
  · rcases mem_new.1 hmem with hnew | hpend
    · cases (launch_mute hla).new _ hnew
    · have hlt : pub < s.nextPublication := hwf.ok _ hpend
      rw [hext.pubRoom hlt, hext.pubID hlt]
      exact launch_gone hwf.maps hwf'.maps hext hla (h.removed pub hpend)
  · rcases mem_new.1 hmem with hnew | hpend
    · exact absurd hnew (launch_unsubscribes hyet.1 hla)
    · have hjoined : p ∈ s.joined := hwf.ok _ hpend
      obtain ⟨hout, -, -⟩ := (launch_choices hla p).resolve_right fun hnew => hnew.1 hjoined
      rw [hout, hext.room hjoined]
      exact (h.unsubscribed p id hpend).imp_right (launch_gone hwf.maps hwf'.maps hext hla)
  · have hactive := (launch_active hwf hwf'.maps hla).1 hx
    have hlt := hwf.active_lt hactive
    have hfits := (hwf.maps.fits x hlt).1
    rw [hext.subscriber hlt, hext.target hlt, hext.pubID hfits.made] at hout ⊢
    obtain ⟨hsame, -, -⟩ :=
      (launch_choices hla (s.subscriptions x).subscriberID).resolve_right fun hnew =>
        hnew.1 hfits.joined
    rw [hsame] at hout
    exact mem_add.2 (.inr (h.respected x hactive hout))
  · rcases launch_choices hla p with ⟨hout, hexplicit, -⟩ | ⟨-, hfresh⟩
    · rw [hout, hexplicit]
      exact h.explicit p id
    · have hout : (s'.participants p).optedOut = ∅ := congrArg Prod.fst hfresh
      have hexplicit : (s'.participants p).explicit = ∅ := congrArg (fun x => x.2.1) hfresh
      rw [hout, hexplicit]
      simp

end Defaults

/-! ## Whole runs -/

/-- **Everybody receives everyone**, if nobody joins a room that has mirrors and the critical
sections for one publication id come one after another. When nothing is in progress, a participant
with the permission to subscribe, whose connection is established, holds a subscription to a live
publication of its room that is not its own exactly if its last explicit operation for it was not
`Unsubscribe`. -/
theorem receives_everyone {as : List Act} {t : System}
    (hturn : Along step (Pool.Meets NoMirrorsYet InTurn) System.empty as)
    (hrun : run step System.empty as = some t) (hidle : t.Idle) :
    ∀ r, ∀ p ∈ (t.shared.rooms r).participants,
      (t.shared.participants p).perms.subscribe = true →
      (t.shared.participants p).bootstrapped = true →
      ∀ pub, t.shared.Live pub → (t.shared.publications pub).room = r →
        (t.shared.publications pub).participantID ≠ p →
        ((∃ x, (t.shared.participants p).subscriptions.lookup (t.shared.publications pub).id =
            some x ∧ (t.shared.subscriptions x).publication = pub) ↔
          (t.shared.participants p).explicit.lookup (t.shared.publications pub).id ≠
            some false) := by
  have h : Books t.shared t.pending ∧ Defaults t.shared t.pending := by
    refine Pool.run_inv (I := fun s P => Books s P ∧ Defaults s P)
      (fun s P op s' code h hyet hla => ⟨launch_books h.1 hla, launch_defaults h.2 h.1 hyet hla⟩)
      (fun s i rest c s' new h hturn hex =>
        ⟨exec_books h.1 hex, exec_defaults h.2 h.1 hturn hex⟩) ⟨books_empty, ?_⟩ hturn hrun
    exact defaults_empty
  rw [hidle.pending_eq] at h
  obtain ⟨hbooks, hdefaults⟩ := h
  have hmaps := hbooks.wellFormed.maps
  rintro r p hp hperm hboot pub hlive rfl hother
  constructor
  · rintro ⟨x, hlook, hpub⟩ hexplicit
    obtain ⟨-, hsub, -⟩ := hmaps.subscriptions p _ x hlook
    have hout := (hdefaults.explicit p _).1 hexplicit
    have hpend := hdefaults.respected x (.inl (hmaps.held_iff.2 ⟨p, _, hlook⟩))
      (by rw [hsub, hpub]; exact hout)
    exact notMem_zero _ hpend
  · intro hexplicit
    cases hdefaults.served p pub hp hperm hlive hother with
    | subscribed x hactive hsub hpub =>
      obtain hheld | ⟨j, hj, -⟩ := hactive
      · refine ⟨x, ?_, hpub⟩
        rw [Objects.Held, hsub, hpub] at hheld
        exact hheld
      · exact absurd hj (notMem_zero _)
    | optedOut hout => exact absurd ((hdefaults.explicit p _).2 hout) hexplicit
    | announced hpend | checking hpend | subscribing hpend =>
      exact absurd hpend (notMem_zero _)
    | bootstrapping hlocal hpend =>
      rcases hpend with hpend | hpend | hpend
      · cases hpend.symm.trans hboot
      all_goals exact absurd hpend (notMem_zero _)

/-- `a` publishes a camera and a screen, `b` joins and connects, and opts out of the screen. -/
def optedOutOfScreen : List Act :=
  [Pool.Act.start (Op.join "a" 0 fullPermissions), Pool.Act.start (Op.onTrack "a" "cam")] ++
  go 1 5 ++ [Pool.Act.start (Op.onTrack "a" "screen")] ++ go 2 5 ++
  [Pool.Act.start (Op.join "b" 0 fullPermissions), Pool.Act.start (Op.connected "b"),
    Pool.Act.resume 4 { participants := ["a"] },
    Pool.Act.resume 4 { publications := [0, 1] }] ++ go 4 16 ++
  [Pool.Act.start (Op.unsubscribe "b" "screen")] ++ go 5 7

theorem receives_everyone_optedOut : ∃ t ∈ run step System.empty optedOutOfScreen, t.Idle ∧
    (∃ x, (t.shared.participants "b").subscriptions.lookup "cam" = some x ∧
      (t.shared.subscriptions x).publication = 0) ∧
    ¬ ∃ x, (t.shared.participants "b").subscriptions.lookup "screen" = some x ∧
      (t.shared.subscriptions x).publication = 1 := by
  have hturn : Along step (Pool.Meets NoMirrorsYet InTurn) System.empty optedOutOfScreen := by
    decide +kernel
  have hrun : ∃ t ∈ run step System.empty optedOutOfScreen, t.Idle ∧
      "b" ∈ (t.shared.rooms 0).participants ∧
      (t.shared.participants "b").perms.subscribe = true ∧
      (t.shared.participants "b").bootstrapped = true ∧
      (∀ pub < 2, t.shared.Live pub ∧ (t.shared.publications pub).room = 0 ∧
        (t.shared.publications pub).participantID ≠ "b") ∧
      ((t.shared.publications 0).id = "cam" ∧ (t.shared.publications 1).id = "screen") ∧
      (t.shared.participants "b").explicit.lookup "cam" = none ∧
      (t.shared.participants "b").explicit.lookup "screen" = some false := by
    decide +kernel
  obtain ⟨t, hrun, hidle, hmem, hperm, hboot, hpubs, ⟨hid, hid'⟩, hnone, hout⟩ := hrun
  have hreceives := receives_everyone hturn hrun hidle 0 "b" hmem hperm hboot
  obtain ⟨hcam, hroom, hother⟩ := hpubs 0 Nat.zero_lt_two
  obtain ⟨hscreen, hroom', hother'⟩ := hpubs 1 Nat.one_lt_two
  have hyes := hreceives 0 hcam hroom hother
  have hno := hreceives 1 hscreen hroom' hother'
  rw [hid, hnone] at hyes
  rw [hid', hout] at hno
  exact ⟨t, hrun, hidle, hyes.2 (by simp), fun hsub => hno.1 hsub rfl⟩

/-- A camera is mirrored into a room; then `a` joins it and connects. -/
def joinedLater : List Act :=
  [Pool.Act.start (Op.addRemotePublication 0 "cam" "x")] ++ go 0 3 ++
  [Pool.Act.start (Op.join "a" 0 fullPermissions), Pool.Act.start (Op.connected "a")] ++ go 2 1

/-- **A mirror can be missed**: nothing is in progress, and `a`, who is connected and has not opted
out of anything, holds no subscription to the live mirror. -/
theorem misses_mirror : ∃ t ∈ run step System.empty joinedLater, t.Idle ∧
    "a" ∈ (t.shared.rooms 0).participants ∧
    (t.shared.participants "a").perms.subscribe = true ∧
    (t.shared.participants "a").bootstrapped = true ∧
    t.shared.Live 0 ∧ (t.shared.publications 0).static = ("cam", "x", 0, true) ∧
    (t.shared.participants "a").explicit.lookup "cam" = none ∧
    (t.shared.participants "a").subscriptions.lookup "cam" = none := by
  decide +kernel

end PulseRTC.Sfu
