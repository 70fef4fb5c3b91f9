import PulseRTC.Sfu.Isolation

/-!
# The end of a publication

A publication of this node ends when `removePublication` takes it off the list of its publisher: by
`Unpublish` or at the end of its ingest loop, whichever comes first. That leaves one notice behind,
which tells everybody else in the room and fires the publication event hook. `Leave` sends the same
notice for every publication that is still listed, but takes none off the list, so the ingest loop
sends another one when the connection is closed.

* `publication_ends_once`: as long as nobody leaves with a publication on its list, the hook is
  fired once for each, and everybody told once.
-/

namespace PulseRTC.Sfu

open Foundations Cluster Multiset

/-! ## Steps that announce no end -/

/-- The publication whose end the instruction announces. -/
@[simp] def Instr.ends : Instr → Option PublicationRef
  | .onPublicationRemoved pub | .firePublicationEvent false pub
  | .send _ (.publicationRemoved pub) => some pub
  | _ => none

/-- Only these announce the end of a publication, or leave such instructions behind. -/
def Instr.loud : Instr → Bool
  | .removePublication .. | .onPublicationRemoved _ | .send .. | .firePublicationEvent ..
  | .retireAll _ | .removeRemote .. => true
  | _ => false

/-- Nothing is announced. -/
structure Mute (s s' : SFU) (new : List Instr) : Prop where
  outbox : s'.outbox = s.outbox
  hooks : s'.hooks = s.hooks
  new : ∀ j ∈ new, j.ends = none

theorem Instr.ends_eq_none {i : Instr} (h : i.loud = false) : i.ends = none := by
  cases i <;> first | rfl | cases h

variable {op : Op}

section Mute

variable {s s' : SFU} {new : List Instr} {c : Choice} {i : Instr}

theorem exec_mute (hi : i.loud = false) (hex : exec s i c = some (s', new)) : Mute s s' new := by
  cases exec_executes hex with
  | onPublicationAdded =>
    refine ⟨rfl, rfl, fun j hj => ?_⟩
    simp only [List.mem_append, List.mem_flatMap, List.mem_cons, List.not_mem_nil, or_false] at hj
    rcases hj with ⟨p, -, rfl | rfl⟩ | rfl <;> rfl
  | subscribeFound _ _ new _ _ hnew =>
    refine ⟨rfl, rfl, ?_⟩
    rcases hnew with ⟨rfl, -⟩ | rfl <;> simp
  | close =>
    refine ⟨rfl, rfl, fun j hj => ?_⟩
    rcases mem_snoc.1 hj with hj | rfl
    · obtain ⟨sub, -, rfl⟩ := List.mem_map.1 hj
      rfl
    · rfl
  | onPublicationRemoved | removePublication | send | notFired | firePublicationEvent | retireAll
  | removeRemote => cases hi
  | _ => exact ⟨rfl, rfl, by simp⟩

/-- No event announces the end of a publication. -/
theorem launch_mute (hla : launch s op = some (s', new)) : Mute s s' new := by
  cases launch_starts hla <;> exact ⟨rfl, rfl, by simp⟩

end Mute

/-! ## Announcements -/

/-- How many announcements are still to come: the publication is listed, or a notice pending. -/
def toEnd (s : SFU) (P : Multiset Instr) (pub : PublicationRef) : ℕ :=
  (if s.Listed pub then 1 else 0) + P.count (.onPublicationRemoved pub)

/-- How often the hook has been fired for the end of the publication, or will be. -/
def fired (s : SFU) (P : Multiset Instr) (pub : PublicationRef) : ℕ :=
  P.count (.firePublicationEvent false pub) + s.hooks.count (false, pub)

/-- How often the participant has been told of the end of the publication, or will be. -/
def told (s : SFU) (P : Multiset Instr) (p : ParticipantId) (pub : PublicationRef) : ℕ :=
  P.count (.send p (.publicationRemoved pub)) + s.outbox.count (p, .publicationRemoved pub)

/-- The participant whose departure lists its publications. -/
def Instr.departs : Instr → Option ParticipantId
  | .retireAll p => some p
  | _ => none

/-- Nobody leaves with a publication on its list. -/
def LeavesNothing (s : SFU) (_ : Multiset Instr) (i : Instr) (_ : Choice) : Prop :=
  ∀ p ∈ i.departs, (s.participants p).publications.keys = ∅

instance (s : SFU) (P : Multiset Instr) (i : Instr) (c : Choice) :
    Decidable (LeavesNothing s P i c) := inferInstanceAs (Decidable (∀ _, _))

section Announcements

variable {s s' : SFU} {rest P : Multiset Instr} {new : List Instr} {c : Choice} {i j : Instr}
  {pub : PublicationRef} {q : ParticipantId}

theorem count_new (hnew : ∀ k ∈ new, k.ends = none) (hj : j.ends ≠ none) (P : Multiset Instr) :
    ((new : Multiset Instr) + P).count j = P.count j := by
  rw [count_add, count_eq_zero_of_notMem, Nat.zero_add]
  exact fun hmem => hj (hnew j (mem_coe.1 hmem))

theorem count_old (hi : i.ends = none) (hj : j.ends ≠ none) (P : Multiset Instr) :
    (i ::ₘ P).count j = P.count j := by
  refine count_cons_of_ne ?_ P
  rintro rfl
  exact hj hi

/-- A step that announces nothing and changes no list. -/
theorem Mute.same (h : Mute s s' new) (P P' : Multiset Instr)
    (hlisted : s'.Listed pub ↔ s.Listed pub)
    (hcount : ∀ j : Instr, j.ends ≠ none → P'.count j = P.count j) :
    toEnd s' P' pub = toEnd s P pub ∧ fired s' P' pub = fired s P pub ∧
      ∀ q, told s' P' q pub = told s P q pub := by
  refine ⟨?_, ?_, fun q => ?_⟩
  · rw [toEnd, toEnd, if_congr hlisted rfl rfl, hcount _ (by simp)]
  · rw [fired, fired, hcount _ (by simp), h.hooks]
  · rw [told, told, hcount _ (by simp), h.outbox]

/-- A snapshot of the room tells everybody in it once. -/
theorem count_told (l : List ParticipantId) (id : PublicationId) (ref : PublicationRef) :
    (l.flatMap fun p => [Instr.unsubscribe p id, .send p (.publicationRemoved ref)]).count
        (.send q (.publicationRemoved pub)) = if ref = pub then l.count q else 0 := by
  induction l with
  | nil => simp
  | cons p l ih =>
    rw [List.flatMap_cons, List.count_append, ih]
    by_cases href : ref = pub <;> by_cases hp : p = q <;> simp [href, hp, Nat.add_comm]

theorem count_untold (l : List ParticipantId) (id : PublicationId) (ref : PublicationRef)
    (hj : ∀ p e, j ≠ .send p e) (hj' : ∀ p id, j ≠ .unsubscribe p id) :
    (l.flatMap fun p => [Instr.unsubscribe p id, .send p (.publicationRemoved ref)]).count j =
      0 := by
  rw [List.count_eq_zero]
  intro hmem
  simp only [List.mem_flatMap, List.mem_cons, List.not_mem_nil, or_false] at hmem
  obtain ⟨p, -, rfl | rfl⟩ := hmem
  · exact hj' p id rfl
  · exact hj p _ rfl

theorem count_append_one (l : List Instr) (k : Instr) (P : Multiset Instr) :
    (((l ++ [k] : List Instr) : Multiset Instr) + P).count j =
      l.count j + (if k = j then 1 else 0) + P.count j := by
  rw [count_add, coe_count, List.count_append, List.count_singleton]
  simp only [beq_iff_eq]

theorem count_cons_eq (k : Instr) (P : Multiset Instr) :
    (k ::ₘ P).count j = P.count j + if k = j then 1 else 0 := by
  rw [count_cons, if_congr eq_comm rfl rfl]

/-- A notice fires the hook, and tells everybody in the snapshot. -/
theorem notice_counts {ref : PublicationRef}
    (hex : Executes s c (.onPublicationRemoved ref) s' new) (rest : Multiset Instr)
    (pub : PublicationRef) :
    toEnd s' (new + rest) pub + (if ref = pub then 1 else 0) =
        toEnd s (.onPublicationRemoved ref ::ₘ rest) pub ∧
      fired s' (new + rest) pub = fired s (.onPublicationRemoved ref ::ₘ rest) pub +
        (if ref = pub then 1 else 0) ∧
      ∀ q, told s' (new + rest) q pub = told s (.onPublicationRemoved ref ::ₘ rest) q pub +
        if ref = pub ∧ q ∈ s.othersOf (s.publications ref).room (s.publications ref).participantID
          then 1 else 0 := by
  cases hex with
  | onPublicationRemoved _ hall => ?_
  refine ⟨?_, ?_, fun q => ?_⟩
  · rw [toEnd, toEnd, count_append_one, count_cons_eq, count_untold _ _ _ (by simp) (by simp)]
    simp only [reduceCtorEq, if_false, Instr.onPublicationRemoved.injEq]
    omega
  · rw [fired, fired, count_append_one, count_cons_eq, count_untold _ _ _ (by simp) (by simp)]
    simp only [reduceCtorEq, if_false, Instr.firePublicationEvent.injEq, true_and]
    omega
  · have hcount : c.participants.count q = if q ∈ s.othersOf (s.publications ref).room
        (s.publications ref).participantID then 1 else 0 := by
      rw [← coe_count, hall, count_eq_of_nodup (Finset.nodup _)]
      rfl
    rw [told, told, count_append_one, count_cons_eq, count_told, hcount, ite_and]
    simp only [reduceCtorEq]
    omega

/-- What is taken from the announcements to come is on its way, or made. -/
structure Announces (s s' : SFU) (P P' : Multiset Instr) (pub : PublicationRef) : Prop where
  hook : toEnd s' P' pub + fired s' P' pub = toEnd s P pub + fired s P pub
  grows : ∀ q, told s P q pub ≤ told s' P' q pub
  atMost : ∀ q, toEnd s' P' pub + told s' P' q pub ≤ toEnd s P pub + told s P q pub
  others : ∀ q ∈ s.othersOf (s.publications pub).room (s.publications pub).participantID,
    toEnd s' P' pub + told s' P' q pub = toEnd s P pub + told s P q pub
  publisher : pub < s.nextPublication →
    told s' P' (s.publications pub).participantID pub =
      told s P (s.publications pub).participantID pub

theorem Announces.of_same {P' : Multiset Instr}
    (h : toEnd s' P' pub = toEnd s P pub ∧ fired s' P' pub = fired s P pub ∧
      ∀ q, told s' P' q pub = told s P q pub) : Announces s s' P P' pub := by
  obtain ⟨hend, hfired, htold⟩ := h
  refine ⟨by rw [hend, hfired], fun q => ?_, fun q => ?_, fun q _ => ?_, fun _ => htold _⟩
  · rw [htold]
  · rw [hend, htold]
  · rw [hend, htold]

/-- An instruction that finds nothing to do. -/
theorem Announces.skip (hi : i.ends = none) :
    Announces s s (i ::ₘ rest) (([] : List Instr) + rest) pub := by
  have hmute : Mute s s [] := ⟨rfl, rfl, by simp⟩
  refine .of_same (hmute.same _ _ Iff.rfl fun j hj => ?_)
  rw [count_new hmute.new hj, count_old hi hj]

/-- `removePublication` turns a listed publication into a notice. -/
theorem remove_announces {p : ParticipantId} {id : PublicationId} (hmaps : Maps s.toObjects)
    (hmaps' : Maps s'.toObjects) (hback : s'.Listed pub → s.Listed pub)
    (hex : exec s (.removePublication p id) c = some (s', new)) :
    Announces s s' (.removePublication p id ::ₘ rest) (new + rest) pub := by
  have hkeep : s.Listed pub → s'.Listed pub ∨ Instr.onPublicationRemoved pub ∈ new :=
    exec_listed hmaps hmaps' hex
  cases exec_executes hex with
  | notPublished => exact .skip rfl
  | removePublication _ _ ref _ href => ?_
  rw [coe_singleton, singleton_add]
  have hother (j : Instr) (hj : ∀ ref, j ≠ .onPublicationRemoved ref)
      (hj' : ∀ p id, j ≠ .removePublication p id) :
      (Instr.onPublicationRemoved ref ::ₘ rest).count j =
        (Instr.removePublication p id ::ₘ rest).count j := by
    rw [count_cons_of_ne (hj _), count_cons_of_ne (hj' _ _)]
  refine .of_same ⟨?_, ?_, fun q => ?_⟩
  · rw [toEnd, toEnd, count_cons_eq, count_cons_eq]
    simp only [Instr.onPublicationRemoved.injEq, reduceCtorEq, if_false]
    by_cases heq : ref = pub
    · subst heq
      have hid := (hmaps.publications p id ref href).pubID
      have hown := (hmaps.publications p id ref href).publisher
      have hbefore : s.Listed ref := hmaps.listed_iff.2 ⟨p, id, href⟩
      have hafter : ¬ (s.onParticipant p fun x =>
          { x with publications := x.publications.erase id }).Listed ref := by
        simp only [Objects.Listed, SFU.onParticipant]
        rw [hown, hid, Function.update_self, Finmap.lookup_erase]
        exact (Option.some_ne_none ref).symm
      rw [if_neg hafter, if_pos hbefore, if_pos rfl]
      omega
    · have hiff := Iff.intro hback fun h => (hkeep h).resolve_right (by simpa using Ne.symm heq)
      rw [if_congr hiff rfl rfl, if_neg heq]
  · rw [fired, hother _ (by simp) (by simp)]
    rfl
  · rw [told, hother _ (by simp) (by simp)]
    rfl

/-- **Every announcement is made once.** Who is not in the room is not told. -/
theorem exec_announces (hwf : WellFormed s.toObjects (i ::ₘ rest)) (hmaps' : Maps s'.toObjects)
    (hleaves : LeavesNothing s (i ::ₘ rest) i c) (hex : exec s i c = some (s', new))
    (hpub : pub < s.nextPublication ∨ s'.nextPublication ≤ pub)
    (hlocal : pub < s.nextPublication → (s.publications pub).remote = false) :
    Announces s s' (i ::ₘ rest) (new + rest) pub := by
  have hmaps := hwf.maps
  have hback : s'.Listed pub → s.Listed pub := by
    rcases hpub with hlt | hge
    · exact exec_listed_old hmaps hmaps' hex hlt
    · exact fun h => absurd (hmaps'.publications _ _ pub h).1 (Nat.not_lt.2 hge)
  cases hloud : i.loud with
  | false =>
    have hmute := exec_mute hloud hex
    refine .of_same (hmute.same _ _ ⟨hback, fun h => ?_⟩ fun j hj => ?_)
    · refine (exec_listed hmaps hmaps' hex h).resolve_right fun hmem => ?_
      cases hmute.new _ hmem
    · rw [count_new hmute.new hj, count_old (Instr.ends_eq_none hloud) hj]
  | true =>
    have hexec := exec_executes hex
    cases i with
    | onPublicationRemoved ref =>
      obtain ⟨hend, hfired, htold⟩ := notice_counts hexec rest pub
      by_cases href : ref = pub
      · subst href
        rw [if_pos rfl] at hend hfired
        simp only [true_and] at htold
        refine ⟨by omega, fun q => ?_, fun q => ?_, fun q hq => ?_, fun _ => ?_⟩
        · rw [htold q]
          exact Nat.le_add_right _ _
        · have htold := htold q
          split_ifs at htold <;> omega
        · have htold := htold q
          rw [if_pos hq] at htold
          omega
        · rw [htold, SFU.othersOf, if_neg (Finset.notMem_erase _ _), Nat.add_zero]
      · refine .of_same ⟨?_, ?_, fun q => ?_⟩
        · rw [if_neg href] at hend
          exact hend
        · rw [hfired, if_neg href, Nat.add_zero]
        · rw [htold, if_neg fun hand => href hand.1, Nat.add_zero]
    | removePublication p id => exact remove_announces hmaps hmaps' hback hex
    | send p event =>
      cases hexec
      refine .of_same ⟨?_, ?_, fun q => ?_⟩
      · change (if s.Listed pub then 1 else 0) + _ = _
        rw [toEnd]
        simp
      · simp [fired, SFU.send]
      · rw [told, told, count_cons_eq]
        simp [SFU.send, List.count_singleton]
        omega
    | firePublicationEvent added ref =>
      have hsame : s'.toObjects = s.toObjects ∧ s'.outbox = s.outbox ∧ new = [] := by
        cases hexec <;> exact ⟨rfl, rfl, rfl⟩
      obtain ⟨hobjects, houtbox, rfl⟩ := hsame
      refine .of_same ⟨?_, ?_, fun q => ?_⟩
      · rw [toEnd, toEnd, hobjects]
        simp
      · rw [fired, fired, count_cons_eq, coe_nil, zero_add]
        have hiff : Instr.firePublicationEvent added ref = .firePublicationEvent false pub ↔
            (added, ref) = (false, pub) := by simp
        rw [if_congr hiff rfl rfl]
        cases hexec with
        | notFired _ _ hremote =>
          -- the hook is not fired for a mirror, which `pub` is not
          have hne : (added, ref) ≠ (false, pub) := by
            rintro heq
            have hlt : ref < s.nextPublication := hwf.ok _ (mem_cons_self _ rest)
            obtain ⟨-, rfl⟩ := Prod.mk.inj heq
            rw [hlocal hlt] at hremote
            cases hremote
          rw [if_neg hne, Nat.add_zero]
        | firePublicationEvent =>
          simp only [List.count_append, List.count_singleton, beq_iff_eq]
          omega
      · rw [told, told, houtbox]
        simp
    | retireAll p =>
      cases hexec with
      | retireAll _ hall =>
        have hnone : c.publications = [] := by
          have hkeys := hleaves p rfl
          rw [← coe_eq_zero, hall, ← card_eq_zero, GoMap.card_values, hkeys]
          rfl
        rw [hnone]
        exact .skip rfl
    | removeRemote r id =>
      cases hexec with
      | notMirrored => exact .skip rfl
      | removeRemote _ _ ref href => ?_
      have hne : ref ≠ pub := by
        rintro rfl
        obtain ⟨hlt, -, -, hremote⟩ := hmaps.remotePubs r id ref href
        rw [hlocal hlt] at hremote
        cases hremote
      have hiff := Iff.intro hback fun h =>
        (exec_listed hmaps hmaps' hex h).resolve_right (by simpa using Ne.symm hne)
      refine .of_same ⟨?_, ?_, fun q => ?_⟩
      · rw [toEnd, toEnd, if_congr hiff rfl rfl, coe_singleton, singleton_add,
          count_cons_eq, count_cons_eq]
        simp [hne]
      · simp [fired]
      · simp [told]
    | _ => cases hloud

/-- A publication that appears is listed, unless it is a mirror. -/
theorem exec_newPublication (hmaps' : Maps s'.toObjects) (hex : exec s i c = some (s', new))
    (hge : s.nextPublication ≤ pub) (hlt : pub < s'.nextPublication) :
    (s'.publications pub).remote = true ∨ (s'.Listed pub ∧ i.loud = false) := by
  obtain ⟨rfl, -, ⟨p, id, rfl⟩ | ⟨r, id, q, rfl⟩⟩ := exec_made hex hge hlt
  · cases exec_executes hex
    refine .inr ⟨hmaps'.listed_iff.2 ⟨p, id, ?_⟩, rfl⟩
    simp
  · cases exec_executes hex with
    | mirrored => exact absurd hlt (Nat.not_lt.2 hge)
    | addRemote => exact .inl (by simp)

/-- A publication of this node has one end, announced to nobody twice and not to its publisher. -/
def Ends (s : SFU) (P : Multiset Instr) : Prop :=
  ∀ pub, (pub < s.nextPublication → (s.publications pub).remote = false) →
    toEnd s P pub + fired s P pub = (if pub < s.nextPublication then 1 else 0) ∧
      (∀ q, toEnd s P pub + told s P q pub ≤ if pub < s.nextPublication then 1 else 0) ∧
      (pub < s.nextPublication → told s P (s.publications pub).participantID pub = 0)

theorem exec_ends (h : Ends s (i ::ₘ rest)) (hwf : WellFormed s.toObjects (i ::ₘ rest))
    (hleaves : LeavesNothing s (i ::ₘ rest) i c) (hex : exec s i c = some (s', new)) :
    Ends s' (new + rest) := by
  obtain ⟨hwf', hext⟩ := exec_wellFormed hwf hex
  intro pub hlocal
  have hlocal' (hlt : pub < s.nextPublication) : (s.publications pub).remote = false :=
    (hext.pubRemote hlt).symm.trans (hlocal (hlt.trans_le hext.nextPublication))
  obtain ⟨honce, hmost, hown⟩ := h pub hlocal'
  by_cases hnew : s.nextPublication ≤ pub ∧ pub < s'.nextPublication
  · -- a new publication: nothing was announced, and it is listed
    obtain ⟨hge, hlt⟩ := hnew
    rw [if_neg (Nat.not_lt.2 hge)] at honce
    obtain ⟨hlisted, hloud⟩ := (exec_newPublication hwf'.maps hex hge hlt).resolve_left
      (by rw [hlocal hlt]; exact Bool.false_ne_true)
    have hmute := exec_mute hloud hex
    have hcount (j : Instr) (hj : j.ends ≠ none) :
        ((new : Multiset Instr) + rest).count j = (i ::ₘ rest).count j := by
      rw [count_new hmute.new hj, count_old (Instr.ends_eq_none hloud) hj]
    have hend : toEnd s' (new + rest) pub = 1 := by
      rw [toEnd, if_pos hlisted, hcount _ (by simp)]
      rw [toEnd] at honce
      omega
    have hfired : fired s' (new + rest) pub = fired s (i ::ₘ rest) pub := by
      rw [fired, fired, hcount _ (by simp), hmute.hooks]
    have htold q : told s' (new + rest) q pub = told s (i ::ₘ rest) q pub := by
      rw [told, told, hcount _ (by simp), hmute.outbox]
    have hzero q : told s (i ::ₘ rest) q pub = 0 := by
      have hq := hmost q
      rw [if_neg (Nat.not_lt.2 hge)] at hq
      omega
    rw [if_pos hlt, hend]
    refine ⟨by omega, fun q => ?_, fun _ => ?_⟩
    · rw [htold q, hzero q]
    · rw [htold, hzero]
  · have hpub : pub < s.nextPublication ∨ s'.nextPublication ≤ pub := by
      rcases Nat.lt_or_ge pub s.nextPublication with hlt | hge
      · exact .inl hlt
      · exact .inr (Nat.not_lt.1 fun hlt => hnew ⟨hge, hlt⟩)
    have hann := exec_announces hwf hwf'.maps hleaves hex hpub hlocal'
    have hiff : pub < s'.nextPublication ↔ pub < s.nextPublication := by
      have hle := hext.nextPublication
      exact ⟨fun hlt => hpub.resolve_right (Nat.not_le.2 hlt), fun hlt => hlt.trans_le hle⟩
    rw [if_congr hiff rfl rfl]
    refine ⟨hann.hook.trans honce, fun q => (hann.atMost q).trans (hmost q), fun hlt => ?_⟩
    rw [hiff] at hlt
    rw [hext.publisher hlt, hann.publisher hlt]
    exact hown hlt

theorem launch_same (hwf : WellFormed s.toObjects P)
    (hla : launch s op = some (s', new)) (pub : PublicationRef) :
    toEnd s' (new + P) pub = toEnd s P pub ∧ fired s' (new + P) pub = fired s P pub ∧
      ∀ q, told s' (new + P) q pub = told s P q pub := by
  obtain ⟨hwf', -⟩ := launch_wellFormed hwf hla
  have hmute := launch_mute hla
  exact hmute.same P _ (launch_live hwf.maps hwf'.maps hla pub).1
    fun j hj => count_new hmute.new hj P

theorem launch_ends (h : Ends s P) (hwf : WellFormed s.toObjects P)
    (hla : launch s op = some (s', new)) : Ends s' (new + P) := by
  obtain ⟨-, hext⟩ := launch_wellFormed hwf hla
  intro pub hlocal
  obtain ⟨hend, hfired, htold⟩ := launch_same hwf hla pub
  rw [launch_nextPublication hla] at hlocal ⊢
  rw [hend, hfired]
  obtain ⟨honce, hmost, hown⟩ := h pub fun hlt =>
    (hext.pubRemote hlt).symm.trans (hlocal hlt)
  refine ⟨honce, fun q => by rw [htold q]; exact hmost q, fun hlt => ?_⟩
  rw [htold, hext.publisher hlt]
  exact hown hlt

end Announcements

/-! ## Whole runs -/

def SFU.audience (s : SFU) (pub : PublicationRef) : Finset ParticipantId :=
  s.othersOf (s.publications pub).room (s.publications pub).participantID

/-- The publication of this node, and what is known of it at any time. -/
structure Ending (s : SFU) (P : Multiset Instr) (pub : PublicationRef) : Prop where
  wellFormed : WellFormed s.toObjects P
  ends : Ends s P
  made : pub < s.nextPublication
  isLocal : (s.publications pub).remote = false

section Runs

variable {s s' : SFU} {rest P : Multiset Instr} {new : List Instr} {c : Choice} {i : Instr}
  {pub : PublicationRef} {q : ParticipantId}

theorem Ending.exec (h : Ending s (i ::ₘ rest) pub) (hleaves : LeavesNothing s (i ::ₘ rest) i c)
    (hex : exec s i c = some (s', new)) :
    Ending s' (new + rest) pub ∧ Announces s s' (i ::ₘ rest) (new + rest) pub ∧
      s'.audience pub ⊆ s.audience pub := by
  obtain ⟨hwf', hext⟩ := exec_wellFormed h.wellFormed hex
  refine ⟨⟨hwf', exec_ends h.ends h.wellFormed hleaves hex, h.made.trans_le hext.nextPublication,
    ?_⟩, ?_, ?_⟩
  · exact (hext.pubRemote h.made).trans h.isLocal
  · exact exec_announces h.wellFormed hwf'.maps hleaves hex (.inl h.made) fun _ => h.isLocal
  · rw [SFU.audience, hext.pubRoom h.made, hext.publisher h.made]
    exact Finset.erase_subset_erase _ (exec_members_subset hex _)

theorem Ending.launch (h : Ending s P pub) (hla : launch s op = some (s', new)) :
    Ending s' (new + P) pub ∧
      (toEnd s' (new + P) pub = toEnd s P pub ∧ fired s' (new + P) pub = fired s P pub ∧
        ∀ q, told s' (new + P) q pub = told s P q pub) ∧
      ∀ q ∈ s'.audience pub, q ∈ s.joined → q ∈ s.audience pub := by
  obtain ⟨hwf', hext⟩ := launch_wellFormed h.wellFormed hla
  refine ⟨⟨hwf', launch_ends h.ends h.wellFormed hla, h.made.trans_le hext.nextPublication, ?_⟩,
    launch_same h.wellFormed hla pub, fun q hq hjoined => ?_⟩
  · exact (hext.pubRemote h.made).trans h.isLocal
  · rw [SFU.audience, hext.pubRoom h.made, hext.publisher h.made] at hq
    obtain ⟨hne, hmem⟩ := Finset.mem_erase.1 hq
    obtain ⟨-, -, hmembers⟩ := launch_live h.wellFormed.maps hwf'.maps hla pub
    exact Finset.mem_erase.2 ⟨hne, (hmembers _).2 q hmem hjoined⟩

variable {as : List Act} {t t' : System}

section Runs

variable (hleaves : Along step (Pool.Meets (fun _ _ _ => True) LeavesNothing) t as)
  (hrun : run step t as = some t') (h : Ending t.shared t.pending pub)

include hleaves hrun h

/-- A publication keeps its publisher, and is not listed again. -/
theorem run_ending : Ending t'.shared t'.pending pub ∧
      (t'.shared.publications pub).participantID = (t.shared.publications pub).participantID ∧
        (t'.shared.Listed pub → t.shared.Listed pub) := by
  refine Pool.run_inv (I := fun s P => Ending s P pub ∧
    (s.publications pub).participantID = (t.shared.publications pub).participantID ∧
      (s.Listed pub → t.shared.Listed pub)) ?_ ?_ ⟨h, rfl, id⟩ hleaves hrun
  · rintro s P op s' code ⟨h, hown, hlisted⟩ - hla
    obtain ⟨hwf', hext⟩ := launch_wellFormed h.wellFormed hla
    refine ⟨(h.launch hla).1, (hext.publisher h.made).trans hown, fun hlist => hlisted ?_⟩
    exact (launch_live h.wellFormed.maps hwf'.maps hla pub).1.1 hlist
  · rintro s i rest c s' new ⟨h, hown, hlisted⟩ hleaves hex
    obtain ⟨hwf', hext⟩ := exec_wellFormed h.wellFormed hex
    refine ⟨(h.exec hleaves hex).1, (hext.publisher h.made).trans hown, fun hlist => hlisted ?_⟩
    exact exec_listed_old h.wellFormed.maps hwf'.maps hex h.made hlist

/-- As long as somebody stays in the room, its announcement is to come, on its way or made. -/
theorem run_told (hq : q ∈ t.shared.joined)
    (heq : toEnd t.shared t.pending pub + told t.shared t.pending q pub = 1)
    (hmem : q ∈ t'.shared.audience pub) :
    toEnd t'.shared t'.pending pub + told t'.shared t'.pending q pub = 1 := by
  suffices hinv : Ending t'.shared t'.pending pub ∧ q ∈ t'.shared.joined ∧
      (q ∈ t'.shared.audience pub →
        toEnd t'.shared t'.pending pub + told t'.shared t'.pending q pub = 1) from hinv.2.2 hmem
  refine Pool.run_inv (I := fun s P => Ending s P pub ∧ q ∈ s.joined ∧
    (q ∈ s.audience pub → toEnd s P pub + told s P q pub = 1)) ?_ ?_ ⟨h, hq, fun _ => heq⟩
    hleaves hrun
  · rintro s P op s' code ⟨h, hq, heq⟩ - hla
    obtain ⟨h', ⟨hend, -, htold⟩, haudience⟩ := h.launch hla
    obtain ⟨-, hext⟩ := launch_wellFormed h.wellFormed hla
    refine ⟨h', hext.joined hq, fun hmem => ?_⟩
    rw [hend, htold]
    exact heq (haudience q hmem hq)
  · rintro s i rest c s' new ⟨h, hq, heq⟩ hleaves hex
    obtain ⟨h', hann, haudience⟩ := h.exec hleaves hex
    obtain ⟨-, hext⟩ := exec_wellFormed h.wellFormed hex
    refine ⟨h', hext.joined hq, fun hmem => ?_⟩
    exact (hann.others q (haudience hmem)).trans (heq (haudience hmem))

/-- Once somebody has been told, or will be, that stays so and nothing else is to come. -/
theorem run_done (htold : told t.shared t.pending q pub = 1) :
    Ending t'.shared t'.pending pub ∧ told t'.shared t'.pending q pub = 1 := by
  refine Pool.run_inv (I := fun s P => Ending s P pub ∧ told s P q pub = 1) ?_ ?_ ⟨h, htold⟩
    hleaves hrun
  · rintro s P op s' code ⟨h, htold⟩ - hla
    obtain ⟨h', ⟨-, -, hsame⟩, -⟩ := h.launch hla
    exact ⟨h', (hsame q).trans htold⟩
  · rintro s i rest c s' new ⟨h, htold⟩ hleaves hex
    obtain ⟨h', hann, -⟩ := h.exec hleaves hex
    refine ⟨h', Nat.le_antisymm ?_ (htold ▸ hann.grows q)⟩
    have hmost := (h'.ends pub fun _ => h'.isLocal).2.1 q
    rw [if_pos h'.made] at hmost
    omega

end Runs

theorem ending_of_run
    (hleaves : Along step (Pool.Meets (fun _ _ _ => True) LeavesNothing) System.empty as)
    (hrun : run step System.empty as = some t) :
    WellFormed t.shared.toObjects t.pending ∧ Ends t.shared t.pending := by
  refine Pool.run_inv (I := fun s P => WellFormed s.toObjects P ∧ Ends s P)
    (fun s P op s' code h _ hla => ⟨(launch_wellFormed h.1 hla).1, launch_ends h.2 h.1 hla⟩)
    (fun s i rest c s' new h hleaves hex =>
      ⟨(exec_wellFormed h.1 hex).1, exec_ends h.2 h.1 hleaves hex⟩)
    ⟨wellFormed_empty, fun pub _ => ?_⟩ hleaves hrun
  simp [toEnd, fired, told, System.empty, Pool.pending, Objects.Listed]

end Runs

/-- **Each publication ends exactly once**, if nobody leaves with a publication on its list. Let a
publication be listed at `t₁`, taken off the list and its notice executed by `t₂`, and let nothing
about its end be pending at `t₃`. Then the hook has been fired once with `added = false`; the
participants that were in the room from `t₁` to `t₂` have been told once, except for the publisher,
who is not told. -/
theorem publication_ends_once {before during after : List Act} {t₁ t₂ t₃ : System}
    {pub : PublicationRef}
    (hleaves : Along step (Pool.Meets (fun _ _ _ => True) LeavesNothing) System.empty
      (before ++ (during ++ after)))
    (h₁ : run step System.empty before = some t₁) (h₂ : run step t₁ during = some t₂)
    (h₃ : run step t₂ after = some t₃) (hlisted : t₁.shared.Listed pub)
    (hremoved : ¬ t₂.shared.Listed pub ∧ Instr.onPublicationRemoved pub ∉ t₂.pending)
    (hdone : ∀ i ∈ t₃.pending, i.ends ≠ some pub) :
    t₃.shared.hooks.count (false, pub) = 1 ∧
      (∀ q ∈ t₁.shared.audience pub, q ∈ t₂.shared.audience pub →
        t₃.shared.outbox.count (q, .publicationRemoved pub) = 1) ∧
      t₃.shared.outbox.count
        ((t₁.shared.publications pub).participantID, .publicationRemoved pub) = 0 := by
  obtain ⟨hleaves₁, hleaves⟩ := hleaves.append
  obtain ⟨hleaves₂, hleaves⟩ := (hleaves t₁ h₁).append
  have hleaves₃ := hleaves t₂ h₂
  obtain ⟨hwf, hends⟩ := ending_of_run hleaves₁ h₁
  have hpub := hwf.maps.publications _ _ pub hlisted
  have hending₁ : Ending t₁.shared t₁.pending pub := ⟨hwf, hends, hpub.1, hpub.pubRemote⟩
  obtain ⟨hending₂, hown₂, -⟩ := run_ending hleaves₂ h₂ hending₁
  obtain ⟨hending₃, hown₃, hlisted₃⟩ := run_ending hleaves₃ h₃ hending₂
  -- at the end nothing is pending any more
  have hzero (j : Instr) (hj : j.ends = some pub) : t₃.pending.count j = 0 :=
    count_eq_zero_of_notMem fun hmem => hdone j hmem hj
  obtain ⟨honce, -, hpublisher⟩ := hending₃.ends pub fun _ => hending₃.isLocal
  refine ⟨?_, fun q hq₁ hq₂ => ?_, ?_⟩
  · rw [toEnd, fired, if_neg fun h => hremoved.1 (hlisted₃ h), hzero _ rfl, hzero _ rfl,
      if_pos hending₃.made] at honce
    omega
  · have heq₁ : toEnd t₁.shared t₁.pending pub + told t₁.shared t₁.pending q pub = 1 := by
      have hmost := (hends pub fun _ => hending₁.isLocal).2.1 q
      rw [if_pos hpub.1] at hmost
      have hone : 1 ≤ toEnd t₁.shared t₁.pending pub := by
        rw [toEnd, if_pos hlisted]
        exact Nat.le_add_right _ _
      omega
    have hjoined : q ∈ t₁.shared.joined :=
      (hwf.maps.members _ q (Finset.mem_of_mem_erase hq₁)).1
    have heq₂ := run_told hleaves₂ h₂ hending₁ hjoined heq₁ hq₂
    rw [toEnd, if_neg hremoved.1, count_eq_zero_of_notMem hremoved.2] at heq₂
    have htold := (run_done hleaves₃ h₃ hending₂ (q := q) (by omega)).2
    rw [told, hzero _ rfl, Nat.zero_add] at htold
    exact htold
  · have htold := hpublisher hending₃.made
    rw [hown₃, hown₂] at htold
    exact Nat.eq_zero_of_add_eq_zero_left htold

/-- `a` publishes with `b` in the room, and takes it back; the ingest loop ends later. -/
def unpublished : List Act × List Act × List Act :=
  ([Pool.Act.start (Op.join "a" 0 fullPermissions), Pool.Act.start (Op.join "b" 0 fullPermissions),
    Pool.Act.start (Op.onTrack "a" "cam")] ++
    go 2 3 ++ [Pool.Act.resume 2 { participants := ["b"] }] ++ go 2 10,
  [Pool.Act.start (Op.unpublish "a" "cam")] ++ go 3 1 ++
    [Pool.Act.resume 3 { participants := ["b"] }],
  go 3 8 ++ [Pool.Act.start (Op.trackEnds 0)] ++ go 4 1)

theorem publication_ends_once_unpublished :
    ∃ t₁ ∈ run step System.empty unpublished.1, ∃ t₂ ∈ run step t₁ unpublished.2.1,
      ∃ t₃ ∈ run step t₂ unpublished.2.2, t₃.Idle ∧ t₃.shared.hooks.count (false, 0) = 1 ∧
        t₃.shared.outbox.count ("b", .publicationRemoved 0) = 1 := by
  have hleaves : Along step (Pool.Meets (fun _ _ _ => True) LeavesNothing) System.empty
      (unpublished.1 ++ (unpublished.2.1 ++ unpublished.2.2)) := by
    decide +kernel
  have hrun : ∃ t₁ ∈ run step System.empty unpublished.1, t₁.shared.Listed 0 ∧
      "b" ∈ t₁.shared.audience 0 ∧ ∃ t₂ ∈ run step t₁ unpublished.2.1,
        (¬ t₂.shared.Listed 0 ∧ Instr.onPublicationRemoved 0 ∉ t₂.pending) ∧
          "b" ∈ t₂.shared.audience 0 ∧ ∃ t₃ ∈ run step t₂ unpublished.2.2, t₃.Idle := by
    decide +kernel
  obtain ⟨t₁, h₁, hlisted, hb₁, t₂, h₂, hremoved, hb₂, t₃, h₃, hidle⟩ := hrun
  obtain ⟨hhook, htold, -⟩ := publication_ends_once hleaves h₁ h₂ h₃ hlisted hremoved fun i hi => by
    rw [hidle.pending_eq] at hi
    exact absurd hi (notMem_zero i)
  exact ⟨t₁, h₁, t₂, h₂, t₃, h₃, hidle, hhook, htold "b" hb₁ hb₂⟩

/-- `a` publishes with `b` in the room, and leaves; the ingest loop ends when the connection of `a`
is closed. -/
def leftWithTrack : List Act :=
  unpublished.1 ++ [Pool.Act.start (Op.leave 0 "a")] ++ go 3 1 ++
  [Pool.Act.resume 3 { publications := [0] }, Pool.Act.resume 3 { participants := ["b"] }] ++
  go 3 10 ++ [Pool.Act.start (Op.trackEnds 0)] ++ go 4 1 ++
  [Pool.Act.resume 4 { participants := ["b"] }] ++ go 4 3

/-- **A publication can end twice**: `b` is in the room all the time, everything has finished, and
`b` has been told twice and the hook fired twice. -/
theorem publication_ends_twice : ∃ t ∈ run step System.empty leftWithTrack, t.Idle ∧
    (t.shared.publications 0).loop = .ended ∧ ¬ t.shared.Listed 0 ∧
      t.shared.outbox.count ("b", .publicationRemoved 0) = 2 ∧
        t.shared.hooks.count (false, 0) = 2 := by
  decide +kernel

end PulseRTC.Sfu
