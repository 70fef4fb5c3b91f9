import PulseRTC.Sfu.Steps

/-!
# What holds of the objects of the SFU at any time

The room and permissions of a participant, the id, publisher and room of a publication and the two
ends of a subscription are fixed when the object is made (`Extends`), so what an instruction was
left behind with stays true until it is executed (`Instr.Ok`). The maps of rooms and participants
hold what their keys say (`Maps`).

`exec_wellFormed` and `launch_wellFormed`: no instruction and no event breaks this.
-/

namespace PulseRTC.Sfu

open Foundations Cluster Function List GoMap

/-! ## What never changes -/

def Participant.static (x : Participant) : RoomRef × Permissions := (x.room, x.perms)

/-- The id, publisher and room of a publication, and whether it is a mirror. -/
def Publication.static (x : Publication) : PublicationId × ParticipantId × RoomRef × Bool :=
  (x.id, x.participantID, x.room, x.remote)

/-- The two ends of a subscription. -/
def Subscription.static (x : Subscription) : ParticipantId × PublicationRef :=
  (x.subscriberID, x.publication)

/-- Objects may be added; of those there are, the static part stays. -/
structure Extends (s s' : Objects) : Prop where
  joined : s.joined ⊆ s'.joined
  participant : ∀ p ∈ s.joined, (s'.participants p).static = (s.participants p).static
  nextPublication : s.nextPublication ≤ s'.nextPublication
  publication : ∀ pub < s.nextPublication,
    (s'.publications pub).static = (s.publications pub).static
  nextSubscription : s.nextSubscription ≤ s'.nextSubscription
  subscription : ∀ sub < s.nextSubscription,
    (s'.subscriptions sub).static = (s.subscriptions sub).static

namespace Extends

variable {s s' t : Objects}

theorem refl (s : Objects) : Extends s s :=
  ⟨subset_rfl, fun _ _ => rfl, le_rfl, fun _ _ => rfl, le_rfl, fun _ _ => rfl⟩

theorem trans (h : Extends s s') (h' : Extends s' t) : Extends s t where
  joined := h.joined.trans h'.joined
  participant p hp := (h'.participant p (h.joined hp)).trans (h.participant p hp)
  nextPublication := h.nextPublication.trans h'.nextPublication
  publication pub hpub :=
    (h'.publication pub (hpub.trans_le h.nextPublication)).trans (h.publication pub hpub)
  nextSubscription := h.nextSubscription.trans h'.nextSubscription
  subscription sub hsub :=
    (h'.subscription sub (hsub.trans_le h.nextSubscription)).trans (h.subscription sub hsub)

variable (h : Extends s s') {p : ParticipantId} {pub : PublicationRef} {sub : SubscriptionRef}
include h

theorem room (hp : p ∈ s.joined) : (s'.participants p).room = (s.participants p).room :=
  congrArg Prod.fst (h.participant p hp)

theorem perms (hp : p ∈ s.joined) : (s'.participants p).perms = (s.participants p).perms :=
  congrArg Prod.snd (h.participant p hp)

theorem pubID (hpub : pub < s.nextPublication) :
    (s'.publications pub).id = (s.publications pub).id :=
  congrArg Prod.fst (h.publication pub hpub)

theorem publisher (hpub : pub < s.nextPublication) :
    (s'.publications pub).participantID = (s.publications pub).participantID :=
  congrArg (fun x => x.2.1) (h.publication pub hpub)

theorem pubRoom (hpub : pub < s.nextPublication) :
    (s'.publications pub).room = (s.publications pub).room :=
  congrArg (fun x => x.2.2.1) (h.publication pub hpub)

theorem pubRemote (hpub : pub < s.nextPublication) :
    (s'.publications pub).remote = (s.publications pub).remote :=
  congrArg (fun x => x.2.2.2) (h.publication pub hpub)

theorem subscriber (hsub : sub < s.nextSubscription) :
    (s'.subscriptions sub).subscriberID = (s.subscriptions sub).subscriberID :=
  congrArg Prod.fst (h.subscription sub hsub)

theorem target (hsub : sub < s.nextSubscription) :
    (s'.subscriptions sub).publication = (s.subscriptions sub).publication :=
  congrArg Prod.snd (h.subscription sub hsub)

end Extends

section Updates

variable (s : SFU)

theorem extends_onParticipant (p : ParticipantId) {f : Participant → Participant}
    (hf : ∀ x, (f x).static = x.static) : Extends s.toObjects (s.onParticipant p f).toObjects where
  __ := Extends.refl s.toObjects
  participant q _ := by
    by_cases heq : q = p
    · subst heq
      simp [hf]
    · simp [heq]

theorem extends_onPublication (pub : PublicationRef) {f : Publication → Publication}
    (hf : ∀ x, (f x).static = x.static) :
    Extends s.toObjects (s.onPublication pub f).toObjects where
  __ := Extends.refl s.toObjects
  publication ref _ := by
    by_cases heq : ref = pub
    · subst heq
      simp [hf]
    · simp [heq]

theorem extends_onSubscription (sub : SubscriptionRef) {f : Subscription → Subscription}
    (hf : ∀ x, (f x).static = x.static) :
    Extends s.toObjects (s.onSubscription sub f).toObjects where
  __ := Extends.refl s.toObjects
  subscription ref _ := by
    by_cases heq : ref = sub
    · subst heq
      simp [hf]
    · simp [heq]

theorem extends_onRoom (r : RoomRef) (f : Room → Room) :
    Extends s.toObjects (s.onRoom r f).toObjects where
  __ := Extends.refl s.toObjects

theorem extends_newParticipant {p : ParticipantId} (hp : p ∉ s.joined) (r : RoomRef)
    (perms : Permissions) : Extends s.toObjects (s.newParticipant p r perms).toObjects where
  __ := Extends.refl s.toObjects
  joined := Finset.subset_insert _ _
  participant q hq := by
    have hne : q ≠ p := fun heq => hp (heq ▸ hq)
    simp [hne]

theorem extends_newPublication (pub : Publication) :
    Extends s.toObjects (s.newPublication pub).toObjects where
  __ := Extends.refl s.toObjects
  nextPublication := Nat.le_succ _
  publication ref hlt := by simp [hlt.ne]

theorem extends_newSubscription (sub : Subscription) :
    Extends s.toObjects (s.newSubscription sub).toObjects where
  __ := Extends.refl s.toObjects
  nextSubscription := Nat.le_succ _
  subscription ref hlt := by simp [hlt.ne]

end Updates

/-! ## Maps and pending instructions -/

/-- The participant is in the room of the publication and not its publisher. -/
structure Fits (s : Objects) (p : ParticipantId) (pub : PublicationRef) : Prop where
  joined : p ∈ s.joined
  made : pub < s.nextPublication
  room : (s.participants p).room = (s.publications pub).room
  other : (s.publications pub).participantID ≠ p

/-- The participant has published `pub` with the id `id`. -/
def Publishes (s : Objects) (p : ParticipantId) (id : PublicationId) (pub : PublicationRef) :
    Prop :=
  pub < s.nextPublication ∧ p ∈ s.joined ∧
    (s.publications pub).static = (id, p, (s.participants p).room, false)

namespace Publishes

variable {s : Objects} {p : ParticipantId} {id : PublicationId} {pub : PublicationRef}
  (h : Publishes s p id pub)
include h

theorem pubID : (s.publications pub).id = id := congrArg Prod.fst h.2.2

theorem publisher : (s.publications pub).participantID = p := congrArg (fun x => x.2.1) h.2.2

theorem pubRoom : (s.publications pub).room = (s.participants p).room :=
  congrArg (fun x => x.2.2.1) h.2.2

theorem pubRemote : (s.publications pub).remote = false := congrArg (fun x => x.2.2.2) h.2.2

end Publishes

/-- `pub` is a mirror in the room `r` with the id `id`. -/
def Mirrors (s : Objects) (r : RoomRef) (id : PublicationId) (pub : PublicationRef) : Prop :=
  pub < s.nextPublication ∧ (s.publications pub).id = id ∧ (s.publications pub).room = r ∧
    (s.publications pub).remote = true

/-- `sub` is a subscription of the participant to a publication with the id `id`. -/
def Subscribes (s : Objects) (p : ParticipantId) (id : PublicationId) (sub : SubscriptionRef) :
    Prop :=
  sub < s.nextSubscription ∧ (s.subscriptions sub).subscriberID = p ∧
    (s.publications (s.subscriptions sub).publication).id = id

/-- The maps hold what their keys say. -/
structure Maps (s : Objects) : Prop where
  members : ∀ r p, p ∈ (s.rooms r).participants → p ∈ s.joined ∧ (s.participants p).room = r
  publications : ∀ p id pub, (s.participants p).publications.lookup id = some pub →
    Publishes s p id pub
  remotePubs : ∀ r id pub, (s.rooms r).remotePubs.lookup id = some pub → Mirrors s r id pub
  subscriptions : ∀ p id sub, (s.participants p).subscriptions.lookup id = some sub →
    Subscribes s p id sub
  fits : ∀ sub < s.nextSubscription,
    Fits s (s.subscriptions sub).subscriberID (s.subscriptions sub).publication ∧
      (s.participants (s.subscriptions sub).subscriberID).perms.subscribe = true
  unique : ∀ a < s.nextPublication, ∀ b < s.nextPublication,
    (s.publications a).id = (s.publications b).id → (s.publications a).remote = false → a = b

/-- What an instruction was left behind with. -/
@[simp] def Instr.Ok (s : Objects) : Instr → Prop
  | .publish p _ | .bootstrap p | .optOut p _ | .unsubscribe p _ => p ∈ s.joined
  | .ingest pub | .onPublicationAdded pub | .onPublicationRemoved pub
  | .firePublicationEvent _ pub => pub < s.nextPublication
  | .maybeAutoSubscribe p pub => Fits s p pub
  | .subscribe p pub => Fits s p pub ∧ (s.participants p).perms.subscribe = true
  | .attach p sub | .attachLoad p sub | .attachSwap p sub _ | .record p sub =>
    sub < s.nextSubscription ∧ (s.subscriptions sub).subscriberID = p
  | .detachLoad sub | .detachSwap sub _ | .closeQueue sub => sub < s.nextSubscription
  | .bootstrapFrom p q =>
    p ∈ s.joined ∧ q ∈ s.joined ∧ (s.participants q).room = (s.participants p).room ∧ q ≠ p
  | .findPublication p _ => p ∈ s.joined ∧ (s.participants p).perms.subscribe = true
  | .findAmong p _ l => p ∈ s.joined ∧ (s.participants p).perms.subscribe = true ∧
    ∀ q ∈ l, q ∈ s.joined ∧ (s.participants q).room = (s.participants p).room
  | .subscribeFound p pub => p ∈ s.joined ∧ (s.participants p).perms.subscribe = true ∧
    pub < s.nextPublication ∧ (s.participants p).room = (s.publications pub).room
  | _ => True

/-- The maps hold what their keys say, and every instruction still to be executed has what it was
left behind with. -/
structure WellFormed (s : Objects) (P : Multiset Instr) : Prop where
  maps : Maps s
  ok : ∀ i ∈ P, i.Ok s

variable {i : Instr} {rest : Multiset Instr}

section Kept

variable {s s' : Objects} (h : Extends s s')
include h

variable {pub : PublicationRef}

theorem Fits.mono {p : ParticipantId} (hfits : Fits s p pub) :
    Fits s' p pub where
  joined := h.joined hfits.joined
  made := hfits.made.trans_le h.nextPublication
  room := by rw [h.room hfits.joined, h.pubRoom hfits.made, hfits.room]
  other := by
    rw [h.publisher hfits.made]
    exact hfits.other

theorem Publishes.mono {p : ParticipantId} {id : PublicationId} (hpub : Publishes s p id pub) :
    Publishes s' p id pub := by
  obtain ⟨hlt, hp, hstatic⟩ := hpub
  refine ⟨hlt.trans_le h.nextPublication, h.joined hp, ?_⟩
  rw [h.publication pub hlt, hstatic, h.room hp]

theorem Mirrors.mono {r : RoomRef} {id : PublicationId} (hpub : Mirrors s r id pub) :
    Mirrors s' r id pub := by
  obtain ⟨hlt, hid, hroom, hremote⟩ := hpub
  refine ⟨hlt.trans_le h.nextPublication, ?_, ?_, ?_⟩
  · rw [h.pubID hlt, hid]
  · rw [h.pubRoom hlt, hroom]
  · rw [h.pubRemote hlt, hremote]

theorem Instr.Ok.mono (hok : i.Ok s) : i.Ok s' := by
  cases i with
  | publish | bootstrap | optOut | unsubscribe => exact h.joined hok
  | ingest | onPublicationAdded | onPublicationRemoved | firePublicationEvent =>
    exact lt_of_lt_of_le hok h.nextPublication
  | maybeAutoSubscribe => exact Fits.mono h hok
  | subscribe p pub =>
    refine ⟨hok.1.mono h, ?_⟩
    rw [h.perms hok.1.joined]
    exact hok.2
  | attach p sub | attachLoad p sub | attachSwap p sub | record p sub =>
    refine ⟨hok.1.trans_le h.nextSubscription, ?_⟩
    rw [h.subscriber hok.1]
    exact hok.2
  | detachLoad | detachSwap | closeQueue => exact lt_of_lt_of_le hok h.nextSubscription
  | bootstrapFrom p q =>
    obtain ⟨hp, hq, hroom, hne⟩ := hok
    refine ⟨h.joined hp, h.joined hq, ?_, hne⟩
    rw [h.room hp, h.room hq, hroom]
  | findPublication p id =>
    refine ⟨h.joined hok.1, ?_⟩
    rw [h.perms hok.1]
    exact hok.2
  | findAmong p id l =>
    obtain ⟨hp, hperm, hl⟩ := hok
    refine ⟨h.joined hp, by rw [h.perms hp]; exact hperm, fun q hq => ?_⟩
    obtain ⟨hq, hroom⟩ := hl q hq
    exact ⟨h.joined hq, by rw [h.room hp, h.room hq, hroom]⟩
  | subscribeFound p pub =>
    obtain ⟨hp, hperm, hlt, hroom⟩ := hok
    refine ⟨h.joined hp, by rw [h.perms hp]; exact hperm, hlt.trans_le h.nextPublication, ?_⟩
    rw [h.room hp, h.pubRoom hlt, hroom]
  | _ => trivial

end Kept

/-! ## The updates keep the maps -/

namespace Maps

variable {s : SFU} (h : Maps s.toObjects)
include h

variable {s' : Objects}

/-- A subscription that fits and has its place keeps it. -/
theorem subscribes_mono (hext : Extends s.toObjects s') {p : ParticipantId} {id : PublicationId}
    {sub : SubscriptionRef} (hsub : Subscribes s.toObjects p id sub) :
    Subscribes s' p id sub := by
  obtain ⟨hlt, hp, hid⟩ := hsub
  refine ⟨hlt.trans_le hext.nextSubscription, by rw [hext.subscriber hlt, hp], ?_⟩
  rw [hext.target hlt, hext.pubID (h.fits sub hlt).1.made, hid]

theorem fits_mono (hext : Extends s.toObjects s') {sub : SubscriptionRef}
    (hlt : sub < s.nextSubscription) :
    Fits s' (s'.subscriptions sub).subscriberID (s'.subscriptions sub).publication ∧
      (s'.participants (s'.subscriptions sub).subscriberID).perms.subscribe = true := by
  obtain ⟨hfits, hperm⟩ := h.fits sub hlt
  rw [hext.subscriber hlt, hext.target hlt, hext.perms hfits.joined]
  exact ⟨hfits.mono hext, hperm⟩

theorem unique_mono (hext : Extends s.toObjects s')
    (hnext : s'.nextPublication = s.nextPublication) :
    ∀ a < s'.nextPublication, ∀ b < s'.nextPublication,
      (s'.publications a).id = (s'.publications b).id → (s'.publications a).remote = false →
        a = b := by
  rw [hnext]
  intro a ha b hb hid hremote
  rw [hext.pubID ha, hext.pubID hb] at hid
  rw [hext.pubRemote ha] at hremote
  exact h.unique a ha b hb hid hremote

/-- What the maps hold they held before, or it is what the key says. -/
theorem step (hext : Extends s.toObjects s')
    (hmem : ∀ r p, p ∈ (s'.rooms r).participants →
      p ∈ (s.rooms r).participants ∨ p ∈ s'.joined ∧ (s'.participants p).room = r)
    (hpubs : ∀ p id pub, (s'.participants p).publications.lookup id = some pub →
      (s.participants p).publications.lookup id = some pub ∨ Publishes s' p id pub)
    (hremote : ∀ r id pub, (s'.rooms r).remotePubs.lookup id = some pub →
      (s.rooms r).remotePubs.lookup id = some pub ∨ Mirrors s' r id pub)
    (hsubs : ∀ p id sub, (s'.participants p).subscriptions.lookup id = some sub →
      (s.participants p).subscriptions.lookup id = some sub ∨ Subscribes s' p id sub)
    (hfits : ∀ sub < s'.nextSubscription, s.nextSubscription ≤ sub →
      Fits s' (s'.subscriptions sub).subscriberID (s'.subscriptions sub).publication ∧
        (s'.participants (s'.subscriptions sub).subscriberID).perms.subscribe = true)
    (hunique : ∀ a < s'.nextPublication, ∀ b < s'.nextPublication,
      (s'.publications a).id = (s'.publications b).id → (s'.publications a).remote = false →
        a = b) : Maps s' where
  members r p hp := by
    refine (hmem r p hp).elim (fun hp => ?_) id
    obtain ⟨hjoined, hroom⟩ := h.members r p hp
    exact ⟨hext.joined hjoined, (hext.room hjoined).trans hroom⟩
  publications p id pub hlook :=
    (hpubs p id pub hlook).elim (fun hlook => (h.publications p id pub hlook).mono hext) fun h => h
  remotePubs r id pub hlook :=
    (hremote r id pub hlook).elim (fun hlook => (h.remotePubs r id pub hlook).mono hext) fun h => h
  subscriptions p id sub hlook :=
    (hsubs p id sub hlook).elim
      (fun hlook => h.subscribes_mono hext (h.subscriptions p id sub hlook)) fun h => h
  fits sub hlt := (lt_or_ge sub s.nextSubscription).elim (h.fits_mono hext) (hfits sub hlt)
  unique := hunique

/-- A participant changes its maps. -/
theorem onParticipant (p : ParticipantId) {f : Participant → Participant}
    (hf : ∀ x, (f x).static = x.static)
    (hpubs : ∀ id pub, (f (s.participants p)).publications.lookup id = some pub →
      Publishes s.toObjects p id pub)
    (hsubs : ∀ id sub, (f (s.participants p)).subscriptions.lookup id = some sub →
      Subscribes s.toObjects p id sub) : Maps (s.onParticipant p f).toObjects := by
  have hext := extends_onParticipant s p hf
  refine h.step hext (fun _ _ => .inl) (fun q id pub hlook => ?_) (fun _ _ _ => .inl)
    (fun q id sub hlook => ?_) (fun sub hlt hle => absurd hlt hle.not_gt) (h.unique_mono hext rfl)
  all_goals
    by_cases heq : q = p
    · subst heq
      simp only [SFU.onParticipant, update_self] at hlook
      first
        | exact .inr ((hpubs id pub hlook).mono hext)
        | exact .inr (h.subscribes_mono hext (hsubs id sub hlook))
    · simp only [SFU.onParticipant, update_of_ne heq] at hlook
      exact .inl hlook

/-- A publication or a subscription changes in what is not static. -/
theorem of_same (hext : Extends s.toObjects s') (hrooms : s'.rooms = s.rooms)
    (hparts : s'.participants = s.participants) (hpub : s'.nextPublication = s.nextPublication)
    (hsub : s'.nextSubscription = s.nextSubscription) : Maps s' := by
  refine h.step hext ?_ ?_ ?_ ?_ (fun sub hlt hle => absurd (hsub ▸ hlt) hle.not_gt)
    (h.unique_mono hext hpub)
  · exact fun r p hp => .inl (hrooms ▸ hp)
  · exact fun p id pub hlook => .inl (hparts ▸ hlook)
  · exact fun r id pub hlook => .inl (hrooms ▸ hlook)
  · exact fun p id sub hlook => .inl (hparts ▸ hlook)

theorem onPublication (pub : PublicationRef) {f : Publication → Publication}
    (hf : ∀ x, (f x).static = x.static) : Maps (s.onPublication pub f).toObjects :=
  h.of_same (extends_onPublication s pub hf) rfl rfl rfl rfl

theorem onSubscription (sub : SubscriptionRef) {f : Subscription → Subscription}
    (hf : ∀ x, (f x).static = x.static) : Maps (s.onSubscription sub f).toObjects :=
  h.of_same (extends_onSubscription s sub hf) rfl rfl rfl rfl

/-- A room loses a participant, or changes its mirrors. -/
theorem onRoom (r : RoomRef) {f : Room → Room}
    (hmem : ∀ p ∈ (f (s.rooms r)).participants, p ∈ s.joined ∧ (s.participants p).room = r)
    (hremote : ∀ id pub, (f (s.rooms r)).remotePubs.lookup id = some pub →
      Mirrors s.toObjects r id pub) : Maps (s.onRoom r f).toObjects := by
  have hext := extends_onRoom s r f
  refine h.step hext (fun r' p hp => ?_) (fun _ _ _ => .inl) (fun r' id pub hlook => ?_)
    (fun _ _ _ => .inl) (fun sub hlt hle => absurd hlt hle.not_gt) (h.unique_mono hext rfl)
  · by_cases heq : r' = r
    · subst heq
      simp only [SFU.onRoom, update_self] at hp
      exact .inr (hmem p hp)
    · simp only [SFU.onRoom, update_of_ne heq] at hp
      exact .inl hp
  · by_cases heq : r' = r
    · subst heq
      simp only [SFU.onRoom, update_self] at hlook
      exact .inr ((hremote id pub hlook).mono hext)
    · simp only [SFU.onRoom, update_of_ne heq] at hlook
      exact .inl hlook

theorem newParticipant {p : ParticipantId} (hp : p ∉ s.joined) (r : RoomRef)
    (perms : Permissions) : Maps (s.newParticipant p r perms).toObjects := by
  have hext := extends_newParticipant s hp r perms
  refine h.step hext (fun _ _ => .inl) (fun q id pub hlook => ?_) (fun _ _ _ => .inl)
    (fun q id sub hlook => ?_) (fun sub hlt hle => absurd hlt hle.not_gt) (h.unique_mono hext rfl)
  all_goals
    by_cases heq : q = p
    · simp [heq] at hlook
    · simp only [SFU.newParticipant, update_of_ne heq] at hlook
      exact .inl hlook

/-- A new publication, whose id is new or that of former mirrors. -/
theorem newPublication (pub : Publication)
    (hid : ∀ ref < s.nextPublication, (s.publications ref).id = pub.id →
      (s.publications ref).remote = true ∧ pub.remote = true) :
    Maps (s.newPublication pub).toObjects := by
  refine h.step (extends_newPublication s pub) (fun _ _ => .inl) (fun _ _ _ => .inl)
    (fun _ _ _ => .inl) (fun _ _ _ => .inl) (fun sub hlt hle => absurd hlt hle.not_gt) ?_
  intro a ha b hb heq hlocal
  change a < s.nextPublication + 1 at ha
  change b < s.nextPublication + 1 at hb
  -- the new one is told from the others by its id, unless it is a mirror
  rcases Nat.lt_succ_iff_lt_or_eq.1 ha with ha | rfl <;>
    rcases Nat.lt_succ_iff_lt_or_eq.1 hb with hb | rfl
  · simp only [SFU.newPublication, update_of_ne ha.ne, update_of_ne hb.ne] at heq hlocal
    exact h.unique a ha b hb heq hlocal
  · simp only [SFU.newPublication, update_of_ne ha.ne, update_self]
      at heq hlocal
    have := (hid a ha heq).1
    simp [hlocal] at this
  · simp only [SFU.newPublication, update_of_ne hb.ne, update_self]
      at heq hlocal
    have := (hid b hb heq.symm).2
    simp [hlocal] at this
  · rfl

theorem newSubscription (sub : Subscription)
    (hfits : Fits s.toObjects sub.subscriberID sub.publication)
    (hperm : (s.participants sub.subscriberID).perms.subscribe = true) :
    Maps (s.newSubscription sub).toObjects := by
  have hext := extends_newSubscription s sub
  refine h.step hext (fun _ _ => .inl) (fun _ _ _ => .inl) (fun _ _ _ => .inl) (fun _ _ _ => .inl)
    (fun ref hlt hle => ?_) (h.unique_mono hext rfl)
  obtain rfl := Nat.eq_of_lt_succ_of_not_lt hlt hle.not_gt
  simp only [SFU.newSubscription, update_self]
  exact ⟨hfits.mono hext, hperm⟩

end Maps

/-! ## The steps -/

/-- What a step has to give. -/
structure Sound (s s' : SFU) (new : List Instr) : Prop where
  grows : Extends s.toObjects s'.toObjects
  maps : Maps s'.toObjects
  ok : ∀ j ∈ new, j.Ok s'.toObjects

variable {s : SFU}

namespace Maps

variable {p : ParticipantId} {f : Participant → Participant} {pub : PublicationRef}
  {g : Publication → Publication} {new : List Instr} (h : Maps s.toObjects)
  (hok : ∀ j ∈ new, j.Ok s.toObjects)
include h hok

theorem sound : Sound s s new := ⟨Extends.refl _, h, hok⟩

/-- A participant changes its maps, and what is left behind was sound before. -/
theorem soundParticipant (hf : ∀ x, (f x).static = x.static)
    (hpubs : ∀ id pub, (f (s.participants p)).publications.lookup id = some pub →
      Publishes s.toObjects p id pub)
    (hsubs : ∀ id sub, (f (s.participants p)).subscriptions.lookup id = some sub →
      Subscribes s.toObjects p id sub) : Sound s (s.onParticipant p f) new :=
  have hext := extends_onParticipant s p hf
  ⟨hext, h.onParticipant p hf hpubs hsubs, fun j hj => (hok j hj).mono hext⟩

theorem soundPublication (hg : ∀ x, (g x).static = x.static) :
    Sound s (s.onPublication pub g) new :=
  have hext := extends_onPublication s pub hg
  ⟨hext, h.onPublication pub hg, fun j hj => (hok j hj).mono hext⟩

end Maps

section Exec

variable {s s' : SFU} {new : List Instr} {c : Choice} {p q : ParticipantId} {r : RoomRef}
  {id : PublicationId} {pub : PublicationRef} {sub : SubscriptionRef}

variable {l : List ParticipantId}

theorem mem_of_coe_eq {m : Finset ParticipantId}
    (hl : (l : Multiset ParticipantId) = m.val) : p ∈ l ↔ p ∈ m := by
  rw [← Multiset.mem_coe, hl, Finset.mem_val]

theorem Publishes.fits (hpub : Publishes s.toObjects q id pub) (hp : p ∈ s.joined)
    (hroom : (s.participants q).room = (s.participants p).room) (hne : q ≠ p) :
    Fits s.toObjects p pub where
  joined := hp
  made := hpub.1
  room := by rw [hpub.pubRoom, hroom]
  other := by
    rw [hpub.publisher]
    exact hne

section Sound

variable (h : Maps s.toObjects)

include h

theorem publish_sound (hp : p ∈ s.joined)
    (hex : Executes s c (.publish p id) s' new) : Sound s s' new := by
  cases hex with
  | publish _ _ _ hfresh =>
    set pub : Publication := { id, participantID := p, room := (s.participants p).room } with hpub
    have hnew : Maps (s.newPublication pub).toObjects :=
      h.newPublication pub fun ref hlt heq => absurd heq (hfresh ref hlt)
    have hmade : Publishes (s.newPublication pub).toObjects p id s.nextPublication :=
      ⟨Nat.lt_succ_self _, hp, by simp [Publication.static, hpub]⟩
    refine ⟨(extends_newPublication s pub).trans (extends_onParticipant _ p fun _ => rfl),
      hnew.onParticipant p (fun _ => rfl) ?_ (hnew.subscriptions p), ?_⟩
    · intro id' ref hlook
      obtain ⟨rfl, rfl⟩ | ⟨-, hlook⟩ := lookup_insert_eq_some.1 hlook
      · exact hmade
      · exact hnew.publications p id' ref hlook
    · rw [forall_mem_cons, forall_mem_cons, forall_mem_singleton]
      exact ⟨trivial, Nat.lt_succ_self _, Nat.lt_succ_self _⟩

/-- Everybody in a snapshot of the room of a publication without its publisher fits it. -/
theorem fits_of_othersOf (hpub : pub < s.nextPublication)
    (hp : p ∈ s.othersOf (s.publications pub).room (s.publications pub).participantID) :
    Fits s.toObjects p pub := by
  obtain ⟨hne, hmem⟩ := Finset.mem_erase.1 hp
  obtain ⟨hjoined, hroom⟩ := h.members _ p hmem
  exact ⟨hjoined, hpub, hroom, hne.symm⟩

theorem onPublicationAdded_sound (hpub : pub < s.nextPublication)
    (hex : Executes s c (.onPublicationAdded pub) s' new) : Sound s s' new := by
  cases hex with
  | onPublicationAdded _ hall =>
    refine h.sound fun j hj => ?_
    simp only [mem_append, mem_flatMap, mem_cons, not_mem_nil, or_false] at hj
    rcases hj with ⟨p, hp, rfl | rfl⟩ | rfl
    · trivial
    · exact fits_of_othersOf h hpub ((mem_of_coe_eq hall).1 hp)
    · exact hpub

theorem subscribe_sound (hfits : Fits s.toObjects p pub)
    (hperm : (s.participants p).perms.subscribe = true)
    (hex : Executes s c (.subscribe p pub) s' new) : Sound s s' new := by
  cases hex with
  | notSubscribed => exact h.sound (forall_mem_nil _)
  | subscribe =>
    have hnew := h.newSubscription { subscriberID := p, publication := pub } hfits hperm
    refine ⟨(extends_newSubscription s _).trans (extends_onParticipant _ p fun _ => rfl),
      hnew.onParticipant p (fun _ => rfl) (hnew.publications p) (hnew.subscriptions p), ?_⟩
    rw [forall_mem_cons, forall_mem_cons, forall_mem_singleton]
    have hself := update_self s.nextSubscription { subscriberID := p, publication := pub }
      s.subscriptions
    exact ⟨⟨Nat.lt_succ_self _, congrArg Subscription.subscriberID hself⟩, trivial, trivial⟩

theorem record_sound (hlt : sub < s.nextSubscription)
    (hp : (s.subscriptions sub).subscriberID = p) : Sound s (s.record p sub) [] := by
  rw [SFU.record]
  refine h.soundParticipant (forall_mem_nil _) (fun _ => rfl) (h.publications p) ?_
  intro id ref hlook
  obtain ⟨rfl, rfl⟩ | ⟨-, hlook⟩ := lookup_insert_eq_some.1 hlook
  · exact ⟨hlt, hp, rfl⟩
  · exact h.subscriptions p id ref hlook

theorem removePublication_sound
    (hex : Executes s c (.removePublication p id) s' new) : Sound s s' new := by
  cases hex with
  | notPublished => exact h.sound (forall_mem_nil _)
  | removePublication _ _ pub _ hpub =>
    refine h.soundParticipant ?_ (fun _ => rfl) (fun id' ref hlook => ?_) (h.subscriptions p)
    · exact forall_mem_singleton.2 (h.publications p id pub hpub).1
    · exact h.publications p id' ref (lookup_erase_eq_some.1 hlook).2

theorem onPublicationRemoved_sound (hpub : pub < s.nextPublication)
    (hex : Executes s c (.onPublicationRemoved pub) s' new) : Sound s s' new := by
  cases hex with
  | onPublicationRemoved _ hall =>
    refine h.sound fun j hj => ?_
    simp only [mem_append, mem_flatMap, mem_cons, not_mem_nil, or_false] at hj
    rcases hj with ⟨p, hp, rfl | rfl⟩ | rfl
    · exact (fits_of_othersOf h hpub ((mem_of_coe_eq hall).1 hp)).joined
    · trivial
    · exact hpub

theorem unsubscribe_sound (hex : Executes s c (.unsubscribe p id) s' new) : Sound s s' new := by
  cases hex with
  | notHeld => exact h.sound (forall_mem_nil _)
  | unsubscribe _ _ sub _ hsub =>
    refine h.soundParticipant ?_ (fun _ => rfl) (h.publications p) fun id' ref hlook => ?_
    · rw [forall_mem_cons, forall_mem_cons, forall_mem_singleton]
      exact ⟨(h.subscriptions p id sub hsub).1, trivial, trivial⟩
    · exact h.subscriptions p id' ref (lookup_erase_eq_some.1 hlook).2

theorem bootstrap_sound (hp : p ∈ s.joined)
    (hex : Executes s c (.bootstrap p) s' new) : Sound s s' new := by
  cases hex with
  | bootstrap _ hall =>
    refine h.sound fun j hj => ?_
    obtain ⟨q, hq, rfl⟩ := mem_map.1 hj
    obtain ⟨hne, hmem⟩ := Finset.mem_erase.1 ((mem_of_coe_eq hall).1 hq)
    obtain ⟨hjoined, hroom⟩ := h.members _ q hmem
    exact ⟨hp, hjoined, hroom, hne⟩

theorem bootstrapFrom_sound (hok : (Instr.bootstrapFrom p q).Ok s.toObjects)
    (hex : Executes s c (.bootstrapFrom p q) s' new) : Sound s s' new := by
  cases hex with
  | bootstrapFrom _ _ hall =>
    obtain ⟨hp, -, hroom, hne⟩ := hok
    refine h.sound fun j hj => ?_
    obtain ⟨pub, hpub, rfl⟩ := mem_map.1 hj
    obtain ⟨id, hlook⟩ := exists_lookup hall hpub
    exact (h.publications q id pub hlook).fits hp hroom hne

theorem findAmong_sound (hok : (Instr.findAmong p id l).Ok s.toObjects)
    (hex : Executes s c (.findAmong p id l) s' new) : Sound s s' new := by
  obtain ⟨hp, hperm, hl⟩ := hok
  cases hex with
  | found _ _ q rest pub hlook =>
    have hpub := h.publications q id pub hlook
    refine h.sound (forall_mem_singleton.2 ⟨hp, hperm, hpub.1, ?_⟩)
    rw [hpub.pubRoom, (hl q mem_cons_self).2]
  | findAmong _ _ q =>
    refine h.sound (forall_mem_singleton.2 ⟨hp, hperm, fun x hx => ?_⟩)
    exact hl x (mem_cons_of_mem q hx)
  | foundRemote _ _ pub hlook =>
    obtain ⟨hlt, -, hroom, -⟩ := h.remotePubs _ id pub hlook
    exact h.sound (forall_mem_singleton.2 ⟨hp, hperm, hlt, hroom.symm⟩)
  | notFound =>
    have hfail : Maps (s.fail p "publication not found in this room").toObjects := h
    exact ⟨extends_onParticipant (s.fail p "publication not found in this room") p fun _ => rfl,
      hfail.onParticipant p (fun _ => rfl) (h.publications p) (h.subscriptions p), by simp⟩

theorem subscribeFound_sound (hok : (Instr.subscribeFound p pub).Ok s.toObjects)
    (hex : Executes s c (.subscribeFound p pub) s' new) : Sound s s' new := by
  obtain ⟨hp, hperm, hlt, hroom⟩ := hok
  cases hex with
  | subscribeOwn => exact ⟨Extends.refl _, h, by simp⟩
  | subscribeFound _ _ new hother _ hnew =>
    refine h.soundParticipant ?_ (fun _ => rfl) (h.publications p) (h.subscriptions p)
    rcases hnew with ⟨rfl, -⟩ | rfl
    · exact forall_mem_singleton.2 trivial
    · exact forall_mem_singleton.2 ⟨⟨hp, hlt, hroom, hother⟩, hperm⟩

theorem leave_sound (hex : Executes s c (.leave r p) s' new) : Sound s s' new := by
  cases hex with
  | notIn => exact h.sound (forall_mem_nil _)
  | leave =>
    refine ⟨extends_onRoom s r _, h.onRoom r ?_ (h.remotePubs r), by simp⟩
    exact fun q hq => h.members r q (Finset.mem_of_mem_erase hq)

theorem retireAll_sound (hex : Executes s c (.retireAll p) s' new) : Sound s s' new := by
  cases hex with
  | retireAll _ hall =>
    refine h.sound fun j hj => ?_
    obtain ⟨pub, hpub, rfl⟩ := mem_map.1 hj
    obtain ⟨id, hlook⟩ := exists_lookup hall hpub
    exact (h.publications p id pub hlook).1

theorem close_sound (hex : Executes s c (.close p) s' new) : Sound s s' new := by
  cases hex with
  | closedBefore => exact h.sound (forall_mem_nil _)
  | close _ _ _ hall =>
    refine h.soundParticipant (fun j hj => ?_) (fun _ => rfl) (h.publications p) (by simp)
    rcases mem_snoc.1 hj with hj | rfl
    · obtain ⟨sub, hsub, rfl⟩ := mem_map.1 hj
      obtain ⟨id, hlook⟩ := exists_lookup hall hsub
      exact (h.subscriptions p id sub hlook).1
    · trivial

theorem addRemote_sound (hex : Executes s c (.addRemote r id q) s' new) : Sound s s' new := by
  cases hex with
  | mirrored => exact h.sound (forall_mem_nil _)
  | addRemote _ _ _ hids =>
    set pub : Publication := { id, participantID := q, room := r, remote := true } with hpub
    have hnew : Maps (s.newPublication pub).toObjects :=
      h.newPublication pub fun ref hlt heq => ⟨hids ref hlt heq, rfl⟩
    refine ⟨(extends_newPublication s pub).trans (extends_onRoom _ r _),
      hnew.onRoom r (hnew.members r) ?_, by simp⟩
    intro id' ref hlook
    obtain ⟨rfl, rfl⟩ | ⟨-, hlook⟩ := lookup_insert_eq_some.1 hlook
    · exact ⟨Nat.lt_succ_self _, by simp [hpub]⟩
    · exact hnew.remotePubs r id' ref hlook

theorem removeRemote_sound (hex : Executes s c (.removeRemote r id) s' new) : Sound s s' new := by
  cases hex with
  | notMirrored => exact h.sound (forall_mem_nil _)
  | removeRemote _ _ pub hlook =>
    refine ⟨extends_onRoom s r _, h.onRoom r (h.members r) ?_, ?_⟩
    · exact fun id' ref hlook' => h.remotePubs r id' ref (lookup_erase_eq_some.1 hlook').2
    · simpa using (h.remotePubs r id pub hlook).1

theorem attach_sound (hlt : sub < s.nextSubscription)
    (hp : (s.subscriptions sub).subscriberID = p) :
    Sound s (s.attach p sub).1 [.attachLoad p sub] := by
  have hext := extends_onPublication s (s.subscriptions sub).publication
    (f := fun x => { x with
      subSeq := (s.publications (s.subscriptions sub).publication).subSeq + 1 }) fun _ => rfl
  have hpub := h.onPublication (s.subscriptions sub).publication
    (f := fun x => { x with
      subSeq := (s.publications (s.subscriptions sub).publication).subSeq + 1 }) fun _ => rfl
  refine ⟨hext.trans (extends_onSubscription _ sub fun _ => rfl),
    hpub.onSubscription sub fun _ => rfl, ?_⟩
  intro j hj
  obtain rfl := mem_singleton.1 hj
  exact ⟨hlt, by simp [hp]⟩

/-- **An instruction keeps the maps**, and leaves sound instructions behind. -/
theorem exec_sound (hok : i.Ok s.toObjects)
    (hex : exec s i c = some (s', new)) : Sound s s' new := by
  have hex := exec_executes hex
  cases i with
  | publish => exact publish_sound h hok hex
  | onPublicationAdded => exact onPublicationAdded_sound h hok hex
  | subscribe => exact subscribe_sound h hok.1 hok.2 hex
  | removePublication => exact removePublication_sound h hex
  | onPublicationRemoved => exact onPublicationRemoved_sound h hok hex
  | unsubscribe => exact unsubscribe_sound h hex
  | bootstrap => exact bootstrap_sound h hok hex
  | bootstrapFrom => exact bootstrapFrom_sound h hok hex
  | findAmong => exact findAmong_sound h hok hex
  | subscribeFound => exact subscribeFound_sound h hok hex
  | leave => exact leave_sound h hex
  | retireAll => exact retireAll_sound h hex
  | close => exact close_sound h hex
  | addRemote => exact addRemote_sound h hex
  | removeRemote => exact removeRemote_sound h hex
  | maybeAutoSubscribe =>
    cases hex with
    | notAutoSubscribed => exact h.sound (forall_mem_nil _)
    | maybeAutoSubscribe _ _ hperm =>
      exact h.sound (forall_mem_singleton.2 ⟨hok, hperm⟩)
  | findPublication p id =>
    cases hex with
    | findPublication _ _ hall =>
      refine h.sound (forall_mem_singleton.2 ⟨hok.1, hok.2, fun q hq => ?_⟩)
      exact h.members _ q ((mem_of_coe_eq hall).1 hq)
  | optOut p id =>
    cases hex
    exact h.soundParticipant (forall_mem_singleton.2 hok) (fun _ => rfl) (h.publications p)
      (h.subscriptions p)
  | record =>
    cases hex
    exact record_sound h hok.1 hok.2
  | attach =>
    cases hex
    exact attach_sound h hok.1 hok.2
  | attachSwap | detachSwap =>
    cases hex
    · exact h.sound (forall_mem_singleton.2 hok)
    · exact h.soundPublication (forall_mem_singleton.2 hok) fun _ => rfl
  | attachLoad | detachLoad =>
    cases hex <;> exact h.sound (forall_mem_singleton.2 hok)
  | ingest pub =>
    cases hex
    exact h.soundPublication (forall_mem_nil _) fun _ => rfl
  | closeQueue sub =>
    cases hex
    exact ⟨extends_onSubscription s sub fun _ => rfl, h.onSubscription sub fun _ => rfl, by simp⟩
  | firePublicationEvent | countMade | countRemoved | send =>
    cases hex <;> exact ⟨Extends.refl _, h, by simp⟩

theorem join_sound (hp : p ∉ s.joined) (perms : Permissions) :
    Sound s ((s.newParticipant p r perms).onRoom r
      fun x => { x with participants := insert p x.participants }) [] := by
  have hnew := h.newParticipant hp r perms
  refine ⟨(extends_newParticipant s hp r perms).trans (extends_onRoom _ r _),
    hnew.onRoom r ?_ (hnew.remotePubs r), by simp⟩
  intro q hq
  rcases Finset.mem_insert.1 hq with rfl | hq
  · simp
  · exact hnew.members r q hq

/-- **An event keeps the maps**, and starts with sound instructions. -/
theorem launch_sound {op : Op} (hla : launch s op = some (s', new)) : Sound s s' new := by
  cases launch_starts hla with
  | join p r perms hp => exact join_sound h hp perms
  | connected p hp =>
    exact h.soundParticipant (forall_mem_singleton.2 hp) (fun _ => rfl) (h.publications p)
      (h.subscriptions p)
  | reconnected p hp =>
    exact h.soundParticipant (forall_mem_nil _) (fun _ => rfl) (h.publications p)
      (h.subscriptions p)
  | trackEnds pub =>
    exact h.soundPublication (forall_mem_singleton.2 trivial) fun _ => rfl
  | subscribe p id hp hperm => exact h.sound (forall_mem_singleton.2 ⟨hp, hperm⟩)
  | subscribeDenied p id => exact ⟨Extends.refl _, h, by simp⟩
  | onTrack p id hp | unsubscribe p id hp | subscriptionFatal p id hp =>
    exact h.sound (forall_mem_singleton.2 hp)
  | publishDenied | unpublish | leave | addRemotePublication | closeRemote =>
    exact h.sound (by simp)

end Sound

end Exec

/-! ## Runs -/

/-- A step keeps well-formedness if it keeps the maps and leaves sound instructions. -/
theorem Sound.wellFormed {s' : SFU} {new : List Instr}
    (h : Sound s s' new) (hrest : ∀ j ∈ rest, j.Ok s.toObjects) :
    WellFormed s'.toObjects (new + rest) ∧ Extends s.toObjects s'.toObjects := by
  refine ⟨⟨h.maps, fun j hj => ?_⟩, h.grows⟩
  rcases mem_new.1 hj with hj | hj
  · exact h.ok j hj
  · exact (hrest j hj).mono h.grows

theorem exec_wellFormed {s' : SFU} {c : Choice}
    {new : List Instr} (h : WellFormed s.toObjects (i ::ₘ rest))
    (hex : exec s i c = some (s', new)) :
    WellFormed s'.toObjects (new + rest) ∧ Extends s.toObjects s'.toObjects := by
  obtain ⟨hi, hrest⟩ := Multiset.forall_mem_cons.1 h.ok
  exact (exec_sound h.maps hi hex).wellFormed hrest

theorem launch_wellFormed {s' : SFU} {op : Op} {P : Multiset Instr} {code : List Instr}
    (h : WellFormed s.toObjects P) (hla : launch s op = some (s', code)) :
    WellFormed s'.toObjects (code + P) ∧ Extends s.toObjects s'.toObjects :=
  (launch_sound h.maps hla).wellFormed h.ok

theorem wellFormed_empty : WellFormed ({} : SFU).toObjects 0 := by
  refine ⟨⟨?_, ?_, ?_, ?_, ?_, ?_⟩, ?_⟩ <;> simp

end PulseRTC.Sfu
