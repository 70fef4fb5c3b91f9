import PulseRTC.Signaling.Sessions
import PulseRTC.Foundations.Lists
import PulseRTC.Foundations.Runs

/-!
# Fencing of sessions

The session registry over whole histories of `Open`, `MarkRecovering`, `Close` and `SweepExpired`,
and of the three calls that change intents. Every `Open` uses a new physical id, and
`MarkRecovering` and `Close` name the identity and the room the physical id was opened with.

* `Ledger` is the registry with what the callers know: the arguments of the calls of `Open`, and
  the history of what was returned. `Consistent` connects the two.
* `registry_fenced`: if different identities and rooms have different keys, session ids are new and
  generations do not overflow, then generations fence resumes.
-/

namespace PulseRTC.Signaling

open Foundations Cluster List GoMap

namespace SessionRegistry

/-! ## The registry -/

/-- The maps and the session objects refer to each other. -/
structure Coherent (r : SessionRegistry) : Prop where
  bound : ∀ phys ref, r.byPhys.lookup phys = some ref →
    ∃ sess, r.objects[ref]? = some sess ∧ sess.participantID = phys ∧ sess.state ≠ .closed
  alive : ∀ (ref : ℕ) sess, r.objects[ref]? = some sess → sess.state ≠ .closed →
    r.byPhys.lookup sess.participantID = some ref
  primary : ∀ key phys, r.primary.lookup key = some phys → ∃ ref sess,
    r.byPhys.lookup phys = some ref ∧ r.objects[ref]? = some sess ∧
      sessionKey sess.logicalID sess.roomID = key

variable {r r' : SessionRegistry} {key : String} {phys : ParticipantId} {ref : ℕ} {sess : Session}

@[simp] theorem drop_objects : (r.drop key phys ref sess).objects =
    r.objects.set ref { sess with state := .closed } := by
  unfold drop clearPrimary
  split_ifs <;> rfl

@[simp] theorem drop_byPhys : (r.drop key phys ref sess).byPhys = r.byPhys.erase phys := by
  unfold drop clearPrimary
  split_ifs <;> rfl

theorem drop_primary {key' : String} {phys' : ParticipantId}
    (h : (r.drop key phys ref sess).primary.lookup key' = some phys') :
    r.primary.lookup key' = some phys' ∧ ¬ (key' = key ∧ phys' = phys) := by
  unfold drop clearPrimary at h
  split_ifs at h with hcur
  · have hlook : (r.primary.erase key).lookup key' = some phys' := h
    rw [lookup_erase_eq] at hlook
    split_ifs at hlook with hkey
    exact ⟨hlook, fun heq => hkey heq.1⟩
  · have hlook : r.primary.lookup key' = some phys' := h
    refine ⟨hlook, ?_⟩
    rintro ⟨rfl, rfl⟩
    have hget : (r.primary.lookup key').getD "" = phys' := by rw [hlook, Option.getD_some]
    exact hcur hget

/-- A session object is bound to one physical id. -/
theorem Coherent.bound_unique (h : r.Coherent) {p q : ParticipantId}
    (hp : r.byPhys.lookup p = some ref) (hq : r.byPhys.lookup q = some ref) : p = q := by
  obtain ⟨sess, hsess, rfl, -⟩ := h.bound p ref hp
  obtain ⟨sess', hsess', rfl, -⟩ := h.bound q ref hq
  rw [Option.mem_unique hsess hsess']

theorem Coherent.find_eq (h : r.Coherent) (hlook : r.byPhys.lookup phys = some ref) :
    ∃ sess, r.find phys = some (ref, sess) ∧ r.objects[ref]? = some sess ∧
      sess.participantID = phys ∧ sess.state ≠ .closed := by
  obtain ⟨sess, hsess, hphys, hstate⟩ := h.bound phys ref hlook
  exact ⟨sess, by simp [find, hlook, hsess], hsess, hphys, hstate⟩

/-- `MarkRecovering` marks the session that the physical id is bound to. -/
theorem Coherent.markRecovering_eq (h : r.Coherent) (hlook : r.byPhys.lookup phys = some ref)
    (now : Time) : ∃ sess, r.objects[ref]? = some sess ∧ sess.state ≠ .closed ∧
      r.markRecovering now phys =
        (r.update ref { sess with state := .recovering, recoveryStartedAt := some now }, true) := by
  obtain ⟨sess, hfind, hsess, -, hstate⟩ := h.find_eq hlook
  refine ⟨sess, hsess, hstate, ?_⟩
  simp only [markRecovering, hfind, hstate, if_false]

theorem markRecovering_none (hlook : r.byPhys.lookup phys = none) (now : Time) :
    r.markRecovering now phys = (r, false) := by
  simp [markRecovering, find, hlook]

/-- `Close` closes the session that the physical id is bound to. -/
theorem Coherent.close_eq (h : r.Coherent) (hlook : r.byPhys.lookup phys = some ref)
    (logicalID : String) (roomID : RoomId) : ∃ sess, r.find phys = some (ref, sess) ∧
      r.close logicalID roomID phys = r.drop (sessionKey logicalID roomID) phys ref sess := by
  obtain ⟨sess, hfind, -⟩ := h.find_eq hlook
  exact ⟨sess, hfind, by simp only [close, hfind]⟩

theorem close_none (hlook : r.byPhys.lookup phys = none) (logicalID : String) (roomID : RoomId) :
    r.close logicalID roomID phys = r := by
  simp [close, find, hlook]

/-- Another physical id is bound to another object. -/
theorem Coherent.ne_iff (h : r.Coherent) (hlook : r.byPhys.lookup phys = some ref)
    {q : ParticipantId} {ref' : ℕ} (hq : r.byPhys.lookup q = some ref') :
    q ≠ phys ↔ ref' ≠ ref := by
  refine not_congr ⟨?_, ?_⟩
  · rintro rfl
    exact Option.mem_unique hq hlook
  · rintro rfl
    exact h.bound_unique hq hlook

/-- The key of the session that a current physical id is bound to. -/
theorem Coherent.key_eq (h : r.Coherent) (hprimary : r.primary.lookup key = some phys)
    (hlook : r.byPhys.lookup phys = some ref) (hsess : r.objects[ref]? = some sess) :
    sessionKey sess.logicalID sess.roomID = key := by
  obtain ⟨ref', sess', hlook', hsess', hkey⟩ := h.primary key phys hprimary
  obtain rfl := Option.mem_unique hlook hlook'
  rwa [Option.mem_unique hsess hsess']

/-- One object is written, and the other ones stay bound to their physical ids. -/
theorem Coherent.put (h : r.Coherent) {new : Session} (hself : r'.objects[ref]? = some new)
    (hothers : ∀ ref' ≠ ref, r'.objects[ref']? = r.objects[ref']?)
    (hbyPhys : ∀ q ref', r'.byPhys.lookup q = some ref' ↔
      ref' = ref ∧ q = new.participantID ∧ new.state ≠ .closed ∨
        ref' ≠ ref ∧ r.byPhys.lookup q = some ref')
    (hprimary : ∀ key q, r'.primary.lookup key = some q →
      q = new.participantID ∧ new.state ≠ .closed ∧ sessionKey new.logicalID new.roomID = key ∨
        r.primary.lookup key = some q ∧ r.byPhys.lookup q ≠ some ref) : r'.Coherent := by
  refine ⟨fun q ref' hq => ?_, fun ref' sess hsess hstate => ?_, fun key q hq => ?_⟩
  · rcases (hbyPhys q ref').1 hq with ⟨rfl, rfl, hopen⟩ | ⟨hne, hold⟩
    · exact ⟨new, hself, rfl, hopen⟩
    · rw [hothers ref' hne]
      exact h.bound q ref' hold
  · rw [hbyPhys]
    by_cases heq : ref' = ref
    · subst heq
      obtain rfl := Option.mem_unique hself hsess
      exact .inl ⟨rfl, rfl, hstate⟩
    · rw [hothers ref' heq] at hsess
      exact .inr ⟨heq, h.alive ref' sess hsess hstate⟩
  · rcases hprimary key q hq with ⟨rfl, hopen, hkey⟩ | ⟨hold, hother⟩
    · exact ⟨ref, new, (hbyPhys _ _).2 (.inl ⟨rfl, rfl, hopen⟩), hself, hkey⟩
    · obtain ⟨ref', sess, hbound, hsess, hkey⟩ := h.primary key q hold
      have hne : ref' ≠ ref := fun heq => hother (heq ▸ hbound)
      exact ⟨ref', sess, (hbyPhys _ _).2 (.inr ⟨hne, hbound⟩), (hothers ref' hne).trans hsess, hkey⟩

theorem Coherent.drop (h : r.Coherent) (hfind : r.find phys = some (ref, sess)) :
    (r.drop (sessionKey sess.logicalID sess.roomID) phys ref sess).Coherent := by
  obtain ⟨hlt, hlook, hsess⟩ := find_lt hfind
  refine h.put (drop_objects ▸ getElem?_set_self hlt) (fun ref' hne => ?_) (fun q ref' => ?_)
    fun key q hq => .inr ?_
  · rw [drop_objects, getElem?_set_ne hne.symm]
  · rw [drop_byPhys, lookup_erase_eq]
    by_cases hq : r.byPhys.lookup q = some ref'
    · simpa [hq] using h.ne_iff hlook hq
    · simp [hq]
  · obtain ⟨hold, hother⟩ := drop_primary hq
    refine ⟨hold, fun hbound => ?_⟩
    obtain rfl := h.bound_unique hbound hlook
    exact hother ⟨(h.key_eq hold hbound hsess).symm, rfl⟩

/-- An object is replaced by one that is bound in the same way. -/
theorem Coherent.update (h : r.Coherent) {sess' : Session} (hsess : r.objects[ref]? = some sess)
    (hstate : sess.state ≠ .closed) (hphys : sess'.participantID = sess.participantID)
    (hkey : sessionKey sess'.logicalID sess'.roomID = sessionKey sess.logicalID sess.roomID)
    (hstate' : sess'.state ≠ .closed) : (r.update ref sess').Coherent := by
  have hlook : r.byPhys.lookup sess'.participantID = some ref := by
    rw [hphys]
    exact h.alive ref sess hsess hstate
  refine h.put (List.getElem?_set_self (List.getElem?_eq_some_iff.1 hsess).1)
    (fun ref' hne => List.getElem?_set_ne hne.symm) (fun q ref' => ?_) fun key q hq => ?_
  · by_cases heq : ref' = ref
    · subst heq
      simp only [true_and, hstate', ne_eq, not_false_eq_true, and_true, not_true_eq_false,
        false_and, or_false]
      exact ⟨fun hq => h.bound_unique hq hlook, fun hq => hq ▸ hlook⟩
    · simp [heq, SessionRegistry.update]
  · by_cases hbound : r.byPhys.lookup q = some ref
    · obtain rfl := h.bound_unique hbound hlook
      exact .inl ⟨rfl, hstate', hkey.trans (h.key_eq hq hbound hsess)⟩
    · exact .inr ⟨hq, hbound⟩

/-! ### `Open` -/

variable {now : Time} {uuid logicalID : String} {roomID : RoomId} {node : NodeId}
  {resume : Option ResumeInfo} {res : Except SessionError OpenResult}

/-- What `Open` can do. -/
inductive Opens (r : SessionRegistry) (now : Time) (uuid logicalID : String) (roomID : RoomId)
    (phys : ParticipantId) (node : NodeId) :
    Option ResumeInfo → SessionRegistry → Except SessionError OpenResult → Prop
  | created : Opens r now uuid logicalID roomID phys node none
      ((r.create phys (fresh now uuid logicalID roomID phys node)).setPrimary
        (sessionKey logicalID roomID) phys)
      (.ok { session := fresh now uuid logicalID roomID phys node })
  | refused (info : ResumeInfo) (err : SessionError) :
    Opens r now uuid logicalID roomID phys node (some info) r (.error err)
  | resumed (info : ResumeInfo) (prevPhys : ParticipantId) (ref : ℕ) (prev : Session)
    (hprimary : r.primary.lookup (sessionKey logicalID roomID) = some prevPhys)
    (hfind : r.find prevPhys = some (ref, prev)) (hid : prev.sessionID = info.sessionID)
    (hgen : info.generation ≠ 0 → prev.generation ≤ info.generation) (r' : SessionRegistry)
    (out : OpenResult) (hobjects : r'.objects = r.objects.set ref (reconnect prev now phys node))
    (hbyPhys : r'.byPhys = (r.byPhys.erase prevPhys).insert phys ref)
    (hprimary' : r'.primary = r.primary.insert (sessionKey logicalID roomID) phys)
    (hout : out.session = reconnect prev now phys node) :
    Opens r now uuid logicalID roomID phys node (some info) r' (.ok out)

theorem create_objects (phys : ParticipantId) (hne : ref ≠ r.objects.length) :
    (r.create phys sess).objects[ref]? = r.objects[ref]? := by
  rw [create, getElem?_append]
  split_ifs with hlt
  · rfl
  · rw [getElem?_eq_none (by simp; omega), getElem?_eq_none (not_lt.1 hlt)]

theorem openSession_opens
    (h : r.openSession now uuid logicalID roomID phys node resume = (r', res)) :
    Opens r now uuid logicalID roomID phys node resume r' res := by
  cases resume with
  | none =>
    cases h
    exact .created
  | some info =>
    unfold openSession at h
    dsimp only at h
    cases hc : r.checkResume (sessionKey logicalID roomID) info with
    | error err =>
      rw [hc] at h
      cases h
      exact .refused info err
    | ok found =>
      obtain ⟨prevPhys, ref, prev⟩ := found
      rw [hc] at h
      cases h
      obtain ⟨hprimary, hfind⟩ := checkResume_ok hc
      obtain ⟨hid, hgen⟩ := checkResume_fenced hc
      have hlook : (r.update ref (reconnect prev now phys node)).byPhys.lookup prevPhys =
          some ref :=
        (find_lt hfind).2.1
      obtain ⟨hobjects, hprim, hbyPhys⟩ := rebind_eq phys hlook
      refine .resumed info prevPhys ref prev hprimary hfind hid hgen _ _ hobjects hbyPhys ?_ rfl
      rw [setPrimary, hprim]
      rfl

theorem Opens.coherent (hopens : Opens r now uuid logicalID roomID phys node resume r' res)
    (h : r.Coherent) (hnew : r.byPhys.lookup phys = none) : r'.Coherent := by
  -- whoever is bound already has another physical id
  have hother {q : ParticipantId} {ref : ℕ} (hq : r.byPhys.lookup q = some ref) : q ≠ phys := by
    rintro rfl
    rw [hnew] at hq
    cases hq
  cases hopens with
  | created =>
    refine h.put getElem?_concat_length (fun ref' hne => ?_) (fun q ref' => ?_)
      fun key q hq => ?_
    · exact create_objects phys hne
    · simp only [setPrimary, create, lookup_insert_eq]
      by_cases heq : q = phys
      · subst heq
        simp [hnew, fresh, eq_comm]
      · simp only [heq, if_false, fresh, false_and, and_false, false_or]
        exact ⟨fun hq => ⟨(r.lt_length q ref' hq).ne, hq⟩, And.right⟩
    · simp only [setPrimary, create, lookup_insert_eq] at hq
      split_ifs at hq with heq
      · cases hq
        exact .inl ⟨rfl, ne_of_beq_false rfl, heq.symm⟩
      · refine .inr ⟨hq, fun hbound => ?_⟩
        exact (r.lt_length q _ hbound).ne rfl
  | refused => exact h
  | resumed info prevPhys ref prev hprimary hfind hid hgen r' out hobjects hbyPhys hprimary' hout =>
    obtain ⟨hlt, hlook, hprev⟩ := find_lt hfind
    refine h.put (hobjects ▸ getElem?_set_self hlt) (fun ref' hne => ?_) (fun q ref' => ?_)
      fun key q hq => ?_
    · rw [hobjects, getElem?_set_ne hne.symm]
    · rw [hbyPhys, lookup_insert_eq, lookup_erase_eq]
      by_cases heq : q = phys
      · subst heq
        simp [hnew, reconnect, eq_comm]
      · by_cases hq : r.byPhys.lookup q = some ref'
        · simpa [heq, hq, reconnect] using h.ne_iff hlook hq
        · simp [heq, hq, reconnect]
    · rw [hprimary', lookup_insert_eq] at hq
      split_ifs at hq with heq
      · cases hq
        exact .inl ⟨rfl, ne_of_beq_false rfl, (h.key_eq hprimary hlook hprev).trans heq.symm⟩
      · refine .inr ⟨hq, fun hbound => heq ?_⟩
        obtain rfl := h.bound_unique hbound hlook
        rw [← h.key_eq hq hbound hprev, h.key_eq hprimary hlook hprev]

/-! ### `SweepExpired` -/

/-- What the loop makes of a session. -/
def swept (cutoff : Time) (order : List ParticipantId) (sess : Session) : Session :=
  if sess.participantID ∈ order ∧ Expired cutoff sess then { sess with state := .closed } else sess

variable {cutoff : Time} {order : List ParticipantId}

theorem swept_cons (h : ¬ (sess.participantID = phys ∧ Expired cutoff sess)) :
    (sess.participantID ∈ phys :: order ∧ Expired cutoff sess ↔
        sess.participantID ∈ order ∧ Expired cutoff sess) ∧
      swept cutoff (phys :: order) sess = swept cutoff order sess := by
  have hiff : sess.participantID ∈ phys :: order ∧ Expired cutoff sess ↔
      sess.participantID ∈ order ∧ Expired cutoff sess := by
    rw [mem_cons]
    tauto
  exact ⟨hiff, by simp only [swept, hiff]⟩

/-- An expired session is found under its physical id. -/
theorem Coherent.find_expired (h : r.Coherent) (hsess : r.objects[ref]? = some sess)
    (hexp : Expired cutoff sess) :
    r.find sess.participantID = some (ref, sess) := by
  have hopen : sess.state ≠ .closed := by
    rw [hexp.1]
    decide
  have hlook := h.alive ref sess hsess hopen
  simp [find, hlook, hsess]

/-- What the loop leaves: the sessions that have expired are closed. -/
def SweptTo (cutoff : Time) (order : List ParticipantId) (r : SessionRegistry)
    (out : SessionRegistry × List ℕ) : Prop :=
  out.1.Coherent ∧
    (∀ ref : ℕ, out.1.objects[ref]? = (r.objects[ref]?).map (swept cutoff order)) ∧
    ∀ ref, ref ∈ out.2 ↔ ∃ sess, r.objects[ref]? = some sess ∧
      sess.participantID ∈ order ∧ Expired cutoff sess

variable {out : SessionRegistry × List ℕ}

/-- A physical id under which nothing has expired makes no difference. -/
theorem SweptTo.skip (h : SweptTo cutoff order r out)
    (hno : ∀ {ref : ℕ} {sess : Session}, r.objects[ref]? = some sess →
      ¬ (sess.participantID = phys ∧ Expired cutoff sess)) :
    SweptTo cutoff (phys :: order) r out := by
  obtain ⟨hcoh, hobjects, hmem⟩ := h
  refine ⟨hcoh, fun ref => ?_, fun ref => ?_⟩
  · rw [hobjects]
    exact Option.map_congr fun sess hsess => (swept_cons (hno hsess)).2.symm
  · rw [hmem]
    refine exists_congr fun sess => and_congr_right fun hsess => ?_
    exact (swept_cons (hno hsess)).1.symm

/-- The loop binds nothing. -/
theorem SweptTo.byPhys (h : SweptTo cutoff order r out)
    (hr : r.Coherent) (hlook : out.1.byPhys.lookup phys = some ref) :
    r.byPhys.lookup phys = some ref := by
  obtain ⟨sess', hsess', rfl, hopen⟩ := h.1.bound phys ref hlook
  obtain ⟨sess, hsess, rfl⟩ := Option.map_eq_some_iff.1 ((h.2.1 ref).symm.trans hsess')
  unfold swept at hopen ⊢
  split_ifs at hopen with hexp
  · exact absurd rfl hopen
  · rw [if_neg hexp]
    exact hr.alive ref sess hsess hopen

/-- The loop closes the sessions that have expired, and closes them once. -/
theorem Coherent.sweep (h : r.Coherent) (cutoff : Time) (order : List ParticipantId) :
    SweptTo cutoff order r (sweep cutoff r order) := by
  induction order generalizing r with
  | nil =>
    refine ⟨h, fun ref => ?_, fun ref => by simp [SessionRegistry.sweep]⟩
    have hid : swept cutoff [] = id := funext fun sess => by simp [swept]
    rw [hid, Option.map_id, id, SessionRegistry.sweep]
  | cons phys order ih =>
    unfold SessionRegistry.sweep
    cases hfind : r.find phys with
    | none =>
      have hno {ref : ℕ} {sess : Session} (hsess : r.objects[ref]? = some sess) :
          ¬ (sess.participantID = phys ∧ Expired cutoff sess) := by
        rintro ⟨rfl, hexp⟩
        rw [h.find_expired hsess hexp] at hfind
        cases hfind
      exact (ih h).skip hno
    | some found =>
      obtain ⟨ref, s⟩ := found
      obtain ⟨hlt, hlook, hs⟩ := find_lt hfind
      have honly {ref' : ℕ} {sess : Session} (hsess : r.objects[ref']? = some sess)
          (hexp : sess.participantID = phys ∧ Expired cutoff sess) : ref' = ref ∧ sess = s := by
        obtain ⟨rfl, hexp⟩ := hexp
        have heq := (h.find_expired hsess hexp).symm.trans hfind
        exact Prod.mk.inj (Option.some.inj heq)
      dsimp only
      split_ifs with hexp
      · obtain ⟨hcoh, hobjects, hmem⟩ := ih (h.drop hfind)
        have hphys : s.participantID = phys := by
          obtain ⟨sess, hsess, hphys, -⟩ := h.bound phys ref hlook
          rwa [Option.mem_unique hs hsess]
        refine ⟨hcoh, fun ref' => ?_, fun ref' => ?_⟩
        · rw [hobjects, drop_objects]
          by_cases heq : ref = ref'
          · subst heq
            rw [getElem?_set_self hlt, hs]
            simp [swept, hphys, hexp]
          · rw [getElem?_set_ne heq]
            refine Option.map_congr fun sess hsess => ?_
            refine (swept_cons fun hboth => heq ?_).2.symm
            exact (honly hsess hboth).1.symm
        · rw [mem_cons, hmem, drop_objects]
          by_cases heq : ref = ref'
          · subst heq
            refine iff_of_true (.inl rfl) ⟨s, hs, ?_, hexp⟩
            rw [hphys]
            exact mem_cons_self
          · rw [getElem?_set_ne heq, or_iff_right (Ne.symm heq)]
            refine exists_congr fun sess => and_congr_right fun hsess => ?_
            refine (swept_cons fun hboth => heq ?_).1.symm
            exact (honly hsess hboth).1.symm
      · have hno {ref' : ℕ} {sess : Session} (hsess : r.objects[ref']? = some sess) :
            ¬ (sess.participantID = phys ∧ Expired cutoff sess) := by
          intro hboth
          obtain ⟨rfl, rfl⟩ := honly hsess hboth
          exact hexp hboth.2
        exact (ih h).skip hno

end SessionRegistry

/-! ## The ledger -/

/-- A call of the registry. The loop of `SweepExpired` meets the physical ids in some order. -/
inductive Call
  | openSession (uuid logicalID : String) (roomID : RoomId) (phys : ParticipantId) (node : NodeId)
    (resume : Option ResumeInfo)
  | markRecovering (logicalID : String) (roomID : RoomId) (phys : ParticipantId)
  | close (logicalID : String) (roomID : RoomId) (phys : ParticipantId)
  | sweepExpired (order : List ParticipantId)
  | updatePublishIntent (logicalID : String) (roomID : RoomId) (ti : TrackIntent)
  | removePublishIntent (logicalID : String) (roomID : RoomId) (trackID : String)
  | updateSubIntent (logicalID : String) (roomID : RoomId) (si : SubIntent)
  deriving DecidableEq

/-- What a call has done to a session object. -/
inductive Event
  /-- `Open` has returned the session, with this generation. -/
  | opened (ref : ℕ) (sessionID : String) (generation : ℕ) (resume : Option ResumeInfo)
  | marked (ref : ℕ) (time : Time)
  | closed (ref : ℕ)
  deriving DecidableEq

/-- The session object of an event. -/
def Event.ref : Event → ℕ
  | .opened ref _ _ _ | .marked ref _ | .closed ref => ref

/-- The time at which the event marks its session as recovering. -/
def Event.parks : Event → Option Time
  | .marked _ time => some time
  | .opened .. | .closed _ => none

/-- When the session was marked as recovering for the last time, if it was neither resumed nor
closed since. The last event comes first. -/
def parkedSince : List Event → ℕ → Option Time
  | [], _ => none
  | event :: history, ref =>
    if event.ref = ref then event.parks else parkedSince history ref

/-- The registry, and what its callers know: the time of the last call, the identity and the room
that each physical id was opened with, and what has happened so far. -/
structure Ledger where
  registry : SessionRegistry
  clock : Time
  openedWith : GoMap ParticipantId (String × RoomId)
  history : List Event

namespace Ledger

open SessionRegistry

/-- Nothing has happened yet. -/
def empty (clock : Time) : Ledger := ⟨SessionRegistry.empty, clock, ∅, []⟩

/-- What a call of `Open` for the physical id leaves in the history. -/
def noteOpen (history : List Event) (phys : ParticipantId) (resume : Option ResumeInfo)
    (out : SessionRegistry × Except SessionError OpenResult) : List Event :=
  match out.1.byPhys.lookup phys, out.2 with
  | some ref, .ok res => .opened ref res.session.sessionID res.session.generation resume :: history
  | _, _ => history

/-- A call at the instant `now`, with a physical id that is new or named as it was opened. -/
def call (timeout : Time) (l : Ledger) (now : Time) : Call → Option Ledger
  | .openSession uuid logicalID roomID phys node resume =>
    if (l.openedWith.lookup phys).isSome then none
    else
      let out := l.registry.openSession now uuid logicalID roomID phys node resume
      some
        { registry := out.1
          clock := now
          openedWith := l.openedWith.insert phys (logicalID, roomID)
          history := noteOpen l.history phys resume out }
  | .markRecovering logicalID roomID phys =>
    if l.openedWith.lookup phys ≠ some (logicalID, roomID) then none
    else
      let out := l.registry.markRecovering now phys
      let marks := (l.registry.byPhys.lookup phys).toList.map fun ref => Event.marked ref now
      some
        { l with
          registry := out.1
          clock := now
          history := if out.2 then marks ++ l.history else l.history }
  | .close logicalID roomID phys =>
    if l.openedWith.lookup phys ≠ some (logicalID, roomID) then none
    else
      let closes := (l.registry.byPhys.lookup phys).toList.map Event.closed
      some
        { l with
          registry := l.registry.close logicalID roomID phys
          clock := now
          history := closes ++ l.history }
  | .sweepExpired order =>
    if order.toFinset ≠ l.registry.byPhys.keys then none
    else
      let out := l.registry.sweepExpired timeout now order
      some
        { l with
          registry := out.1
          clock := now
          history := out.2.map Event.closed ++ l.history }
  | .updatePublishIntent logicalID roomID ti =>
    some { l with registry := l.registry.updatePublishIntent logicalID roomID ti, clock := now }
  | .removePublishIntent logicalID roomID trackID =>
    let registry := l.registry.removePublishIntent logicalID roomID trackID
    some { l with registry := registry, clock := now }
  | .updateSubIntent logicalID roomID si =>
    some { l with registry := l.registry.updateSubIntent logicalID roomID si, clock := now }

/-- One call, at a time that is not before that of the last one. -/
def step (timeout : Time) (l : Ledger) (a : Time × Call) : Option Ledger :=
  if a.1 < l.clock then none else l.call timeout a.1 a.2

/-! ## Consistency -/

/-- `later` comes after `earlier`: generations of a session grow, and a resume does not present one
that is smaller than what was returned. -/
def Fences : Event → Event → Prop
  | .opened _ id gen resume, .opened _ id' gen' _ => id = id' →
      gen' < gen ∧ ∀ info ∈ resume, info.generation ≠ 0 → gen' ≤ info.generation
  | _, _ => True

def Noted (r : SessionRegistry) : Event → Prop
  | .opened ref id gen resume => (∀ info ∈ resume, info.sessionID = id) ∧
      ∃ sess, r.objects[ref]? = some sess ∧ sess.sessionID = id ∧ gen ≤ sess.generation
  | .marked ref _ | .closed ref => ref < r.objects.length

/-- Registry and history agree. -/
structure Consistent (l : Ledger) : Prop where
  coherent : l.registry.Coherent
  owners : ∀ phys ref sess, l.registry.byPhys.lookup phys = some ref →
    l.registry.objects[ref]? = some sess →
      l.openedWith.lookup phys = some (sess.logicalID, sess.roomID)
  keys : ∀ p q a b, l.openedWith.lookup p = some a → l.openedWith.lookup q = some b →
    sessionKey a.1 a.2 = sessionKey b.1 b.2 → a = b
  ids : ∀ (i j : ℕ) a b, l.registry.objects[i]? = some a → l.registry.objects[j]? = some b →
    a.sessionID = b.sessionID → i = j
  parked : ∀ (ref : ℕ) sess, l.registry.objects[ref]? = some sess →
    (sess.state = .recovering → parkedSince l.history ref = sess.recoveryStartedAt ∧
      sess.recoveryStartedAt ≠ none) ∧
    (sess.state ≠ .recovering → parkedSince l.history ref = none)
  noted : ∀ event ∈ l.history, Noted l.registry event
  fenced : l.history.Pairwise Fences

/-- The session is the same but for its state and its intents. -/
structure Kept (sess sess' : Session) : Prop where
  sessionID : sess'.sessionID = sess.sessionID
  logicalID : sess'.logicalID = sess.logicalID
  roomID : sess'.roomID = sess.roomID
  generation : sess'.generation = sess.generation

variable {l l' : Ledger} {timeout now : Time} {ref : ℕ} {sess : Session} {phys : ParticipantId}

theorem Kept.refl (sess : Session) : Kept sess sess := ⟨rfl, rfl, rfl, rfl⟩

variable {events : List Event} {logicalID : String} {roomID : RoomId} {order : List ParticipantId}
  {resume : Option ResumeInfo}

variable {history : List Event} {event : Event} {id : String}

theorem parkedSince_skip (h : ∀ event ∈ events, event.ref ≠ ref) :
    parkedSince (events ++ history) ref = parkedSince history ref := by
  induction events with
  | nil => rfl
  | cons event events ih =>
    rw [cons_append, parkedSince, if_neg (h event mem_cons_self)]
    exact ih fun e he => h e (mem_cons_of_mem event he)

theorem parkedSince_closed {refs : List ℕ} (h : ref ∈ refs) :
    parkedSince (refs.map Event.closed ++ history) ref = none := by
  induction refs with
  | nil => cases h
  | cons ref' refs ih =>
    rw [map_cons, cons_append, parkedSince]
    split_ifs with heq
    · rfl
    · obtain rfl | h := mem_cons.1 h
      · exact absurd rfl heq
      · exact ih h

/-- A call that opens nothing changes the states or intents of sessions, and notes what it has
done. -/
structure Touches (l l' : Ledger) (events : List Event) : Prop where
  openedWith : l'.openedWith = l.openedWith
  byPhys : ∀ phys ref, l'.registry.byPhys.lookup phys = some ref →
    l.registry.byPhys.lookup phys = some ref
  back : ∀ (ref : ℕ) sess', l'.registry.objects[ref]? = some sess' →
    ∃ sess, l.registry.objects[ref]? = some sess ∧ Kept sess sess'
  forth : ∀ (ref : ℕ) sess, l.registry.objects[ref]? = some sess →
    ∃ sess', l'.registry.objects[ref]? = some sess' ∧ Kept sess sess'
  history : l'.history = events ++ l.history
  events : ∀ event ∈ events, (∀ ref id gen resume, event ≠ .opened ref id gen resume) ∧
    event.ref < l'.registry.objects.length

theorem Fences.of_not_opened
    (h : ∀ ref id gen resume, event ≠ .opened ref id gen resume) (other : Event) :
    Fences event other := by
  cases event with
  | opened ref id gen resume => exact absurd rfl (h ref id gen resume)
  | marked | closed => trivial

/-- The objects of earlier events are still there. -/
theorem Noted.mono {r r' : SessionRegistry} (h : Noted r event)
    (hget : ∀ (ref : ℕ) old, r.objects[ref]? = some old → ∃ new, r'.objects[ref]? = some new ∧
      new.sessionID = old.sessionID ∧ old.generation ≤ new.generation) : Noted r' event := by
  have hlt {ref : ℕ} (hlt : ref < r.objects.length) : ref < r'.objects.length := by
    obtain ⟨new, hnew, -⟩ := hget ref _ (List.getElem?_eq_getElem hlt)
    exact (List.getElem?_eq_some_iff.1 hnew).1
  cases event with
  | opened ref id gen resume =>
    obtain ⟨hresume, old, hold, hid, hgen⟩ := h
    obtain ⟨new, hnew, hsame, hle⟩ := hget ref old hold
    exact ⟨hresume, new, hnew, hsame.trans hid, hgen.trans hle⟩
  | marked | closed => exact hlt h

/-- Consistency is kept, if the states agree with the history. -/
theorem Consistent.touch (h : Consistent l) (htouch : Touches l l' events)
    (hcoh : l'.registry.Coherent)
    (hparked : ∀ (ref : ℕ) sess, l'.registry.objects[ref]? = some sess →
      (sess.state = .recovering → parkedSince l'.history ref = sess.recoveryStartedAt ∧
        sess.recoveryStartedAt ≠ none) ∧
      (sess.state ≠ .recovering → parkedSince l'.history ref = none)) :
    Consistent l' := by
  refine ⟨hcoh, fun phys ref sess' hbound hsess' => ?_, ?_, fun i j a b ha hb hid => ?_, hparked,
    fun event hevent => ?_, ?_⟩
  · obtain ⟨sess, hsess, hkept⟩ := htouch.back ref sess' hsess'
    rw [htouch.openedWith, hkept.logicalID, hkept.roomID]
    exact h.owners phys ref sess (htouch.byPhys phys ref hbound) hsess
  · rw [htouch.openedWith]
    exact h.keys
  · obtain ⟨a₀, ha₀, hka⟩ := htouch.back i a ha
    obtain ⟨b₀, hb₀, hkb⟩ := htouch.back j b hb
    exact h.ids i j a₀ b₀ ha₀ hb₀ (hka.sessionID.symm.trans (hid.trans hkb.sessionID))
  · rw [htouch.history] at hevent
    obtain hnew | hold := mem_append.1 hevent
    · obtain ⟨hno, hlt⟩ := htouch.events event hnew
      cases event with
      | opened ref id gen resume => exact absurd rfl (hno ref id gen resume)
      | marked | closed => exact hlt
    · refine (h.noted event hold).mono fun ref sess hsess => ?_
      obtain ⟨sess', hsess', hkept⟩ := htouch.forth ref sess hsess
      exact ⟨sess', hsess', hkept.sessionID, hkept.generation.ge⟩
  · rw [htouch.history, pairwise_append]
    have hno (event : Event) (hevent : event ∈ events) (other : Event) : Fences event other :=
      Fences.of_not_opened (htouch.events event hevent).1 other
    exact ⟨pairwise_of_forall_mem_list fun a ha b _ => hno a ha b, h.fenced,
      fun a ha b _ => hno a ha b⟩

/-! ### The end of a session -/

/-- One object changes. -/
theorem Touches.one (sess' : Session) (hsess : l.registry.objects[ref]? = some sess)
    (hkept : Kept sess sess') (hopened : l'.openedWith = l.openedWith)
    (hbyPhys : ∀ phys ref, l'.registry.byPhys.lookup phys = some ref →
      l.registry.byPhys.lookup phys = some ref)
    (hobjects : l'.registry.objects = l.registry.objects.set ref sess')
    (hhistory : l'.history = events ++ l.history)
    (hevents : ∀ event ∈ events, (∀ ref id gen resume, event ≠ .opened ref id gen resume) ∧
      event.ref = ref) : Touches l l' events := by
  have hlt := (List.getElem?_eq_some_iff.1 hsess).1
  refine ⟨hopened, hbyPhys, fun ref' new hnew => ?_, fun ref' old hold => ?_, hhistory,
    fun event hevent => ⟨(hevents event hevent).1, ?_⟩⟩
  · rw [hobjects, List.getElem?_set] at hnew
    split_ifs at hnew with heq
    · cases hnew
      exact ⟨sess, heq ▸ hsess, hkept⟩
    · exact ⟨new, hnew, Kept.refl new⟩
  · rw [hobjects]
    by_cases heq : ref = ref'
    · subst heq
      obtain rfl := Option.mem_unique hsess hold
      exact ⟨sess', List.getElem?_set_self hlt, hkept⟩
    · exact ⟨old, by rwa [List.getElem?_set_ne heq], Kept.refl old⟩
  · rw [hobjects, List.length_set, (hevents event hevent).2]
    exact hlt

/-- One object changes its state, and the history says so. -/
theorem Consistent.one (h : Consistent l) (sess' : Session) (event : Event)
    (hsess : l.registry.objects[ref]? = some sess) (hkept : Kept sess sess')
    (hcoh : l'.registry.Coherent) (hopened : l'.openedWith = l.openedWith)
    (hbyPhys : ∀ phys ref, l'.registry.byPhys.lookup phys = some ref →
      l.registry.byPhys.lookup phys = some ref)
    (hobjects : l'.registry.objects = l.registry.objects.set ref sess')
    (hhistory : l'.history = event :: l.history) (hevent : event.ref = ref)
    (hno : ∀ ref id gen resume, event ≠ .opened ref id gen resume)
    (hparked : (sess'.state = .recovering → event.parks = sess'.recoveryStartedAt ∧
        sess'.recoveryStartedAt ≠ none) ∧ (sess'.state ≠ .recovering → event.parks = none)) :
    Consistent l' ∧ ∃ events, Touches l l' events := by
  have htouch : Touches l l' [event] :=
    .one sess' hsess hkept hopened hbyPhys hobjects hhistory
      (List.forall_mem_singleton.2 ⟨hno, hevent⟩)
  refine ⟨h.touch htouch hcoh fun ref' new hnew => ?_, [event], htouch⟩
  rw [hobjects, List.getElem?_set] at hnew
  rw [hhistory, parkedSince, hevent]
  split_ifs at hnew with heq
  · cases hnew
    rwa [if_pos heq]
  · rw [if_neg heq]
    exact h.parked ref' new hnew

/-- Nothing has happened. -/
theorem Touches.none (hreg : l'.registry = l.registry) (hopened : l'.openedWith = l.openedWith)
    (hhistory : l'.history = l.history) : Touches l l' [] := by
  refine ⟨hopened, fun _ _ => hreg ▸ id, fun ref sess hsess => ?_, fun ref sess hsess => ?_,
    hhistory, nofun⟩
  all_goals exact ⟨sess, hreg ▸ hsess, Kept.refl sess⟩

theorem Consistent.none (h : Consistent l) (hreg : l'.registry = l.registry)
    (hopened : l'.openedWith = l.openedWith) (hhistory : l'.history = l.history) :
    Consistent l' ∧ ∃ events, Touches l l' events := by
  have htouch := Touches.none hreg hopened hhistory
  refine ⟨h.touch htouch (hreg ▸ h.coherent) fun ref sess hsess => ?_, [], htouch⟩
  rw [hhistory]
  exact h.parked ref sess (hreg ▸ hsess)

theorem call_markRecovering (h : Consistent l)
    (hcall : l.call timeout now (.markRecovering logicalID roomID phys) = some l') :
    Consistent l' ∧ ∃ events, Touches l l' events := by
  obtain ⟨hopened, hcall⟩ := Option.ite_none_left_eq_some.1 hcall
  cases hcall
  cases hlook : l.registry.byPhys.lookup phys with
  | none =>
    have hout := markRecovering_none hlook now
    exact h.none (by rw [hout]) rfl (by rw [hout]; rfl)
  | some ref =>
    obtain ⟨sess, hsess, hstate, hout⟩ := h.coherent.markRecovering_eq hlook now
    rw [hout]
    refine h.one { sess with state := .recovering, recoveryStartedAt := some now }
      (.marked ref now) hsess ⟨rfl, rfl, rfl, rfl⟩ ?_ rfl (fun _ _ => id) rfl rfl rfl
      nofun ⟨fun _ => ⟨rfl, nofun⟩, fun hne => absurd rfl hne⟩
    exact h.coherent.update hsess hstate rfl rfl nofun

theorem call_close (h : Consistent l)
    (hcall : l.call timeout now (.close logicalID roomID phys) = some l') :
    Consistent l' ∧ ∃ events, Touches l l' events := by
  obtain ⟨hopened, hcall⟩ := Option.ite_none_left_eq_some.1 hcall
  cases hcall
  cases hlook : l.registry.byPhys.lookup phys with
  | none =>
    have hout := close_none hlook logicalID roomID
    exact h.none hout rfl rfl
  | some ref =>
    obtain ⟨sess, hfind, hout⟩ := h.coherent.close_eq hlook logicalID roomID
    have hsess := (find_lt hfind).2.2
    -- the caller names the identity and the room of the session
    have hpair := h.owners phys ref sess hlook hsess
    obtain ⟨rfl, rfl⟩ := Prod.mk.inj (Option.some.inj ((not_not.1 hopened).symm.trans hpair))
    refine h.one { sess with state := .closed } (.closed ref) hsess ⟨rfl, rfl, rfl, rfl⟩
      ?_ rfl (fun q ref' hq => ?_) ?_ rfl rfl nofun ⟨nofun, fun _ => rfl⟩
    · rw [hout]
      exact h.coherent.drop hfind
    · rw [hout, drop_byPhys, lookup_erase_eq] at hq
      split_ifs at hq
      exact hq
    · rw [hout, drop_objects]

theorem kept_swept {cutoff : Time} (sess : Session) :
    Kept sess (swept cutoff order sess) := by
  unfold swept
  split_ifs
  · exact ⟨rfl, rfl, rfl, rfl⟩
  · exact Kept.refl sess

/-- What `SweepExpired` makes of the sessions. -/
theorem call_sweepExpired (h : Consistent l)
    (hcall : l.call timeout now (.sweepExpired order) = some l') :
    (Consistent l' ∧ ∃ events, Touches l l' events) ∧
      (0 < timeout → ∀ ref : ℕ, l'.registry.objects[ref]? = (l.registry.objects[ref]?).map
        (swept (now - timeout) order)) := by
  obtain ⟨horder, hcall⟩ := Option.ite_none_left_eq_some.1 hcall
  cases hcall
  unfold sweepExpired
  by_cases htimeout : timeout ≤ 0
  · rw [if_pos htimeout]
    exact ⟨h.none rfl rfl rfl, fun hpos => absurd hpos (not_lt.2 htimeout)⟩
  · rw [if_neg htimeout]
    have hswept := h.coherent.sweep (now - timeout) order
    generalize SessionRegistry.sweep (now - timeout) l.registry order = out at *
    have ⟨hcoh, hobjects, hmem⟩ := hswept
    refine ⟨?_, fun _ => hobjects⟩
    have htouch : Touches l { l with
        registry := out.1, clock := now, history := out.2.map Event.closed ++ l.history }
        (out.2.map Event.closed) := by
      refine ⟨rfl, fun _ _ => hswept.byPhys h.coherent, fun ref new hnew => ?_,
        fun ref old hold => ?_, rfl, fun event hevent => ?_⟩
      · obtain ⟨old, hold, rfl⟩ := Option.map_eq_some_iff.1 ((hobjects ref).symm.trans hnew)
        exact ⟨old, hold, kept_swept old⟩
      · exact ⟨_, (hobjects ref).trans (congrArg _ hold), kept_swept old⟩
      · obtain ⟨ref, href, rfl⟩ := List.mem_map.1 hevent
        refine ⟨nofun, ?_⟩
        obtain ⟨old, hold, -⟩ := (hmem ref).1 href
        have hnew := (hobjects ref).trans (congrArg _ hold)
        exact (List.getElem?_eq_some_iff.1 hnew).1
    refine ⟨h.touch htouch hcoh fun ref new hnew => ?_, _, htouch⟩
    obtain ⟨old, hold, rfl⟩ := Option.map_eq_some_iff.1 ((hobjects ref).symm.trans hnew)
    by_cases href : ref ∈ out.2
    · obtain ⟨sess, hsess, hexpired⟩ := (hmem ref).1 href
      obtain rfl := Option.mem_unique hsess hold
      rw [swept, if_pos hexpired]
      exact ⟨nofun, fun _ => parkedSince_closed href⟩
    · have hno : ¬ (old.participantID ∈ order ∧ Expired (now - timeout) old) :=
        fun hexpired => href ((hmem ref).2 ⟨old, hold, hexpired⟩)
      rw [swept, if_neg hno, parkedSince_skip]
      · exact h.parked ref old hold
      · intro event hevent heq
        obtain ⟨ref', href', rfl⟩ := List.mem_map.1 hevent
        exact href (heq ▸ href')

/-! ### Intents -/

/-- The current session of an identity in a room changes its intents. -/
theorem Consistent.intents (h : Consistent l) {fn : Session → Session}
    (hfn : ∀ s, ∃ pubs subs, fn s = { s with publish := pubs, subscribe := subs })
    (hl' : l' = { l with registry := l.registry.withSession logicalID roomID fn, clock := now }) :
    Consistent l' ∧ ∃ events, Touches l l' events := by
  unfold withSession at hl'
  split at hl'
  · subst hl'
    exact h.none rfl rfl rfl
  · next ref sess hfound =>
    obtain ⟨phys, -, hfind⟩ := Option.bind_eq_some_iff.1 hfound
    obtain ⟨-, hlook, hsess⟩ := find_lt hfind
    obtain ⟨_, hsess', -, hstate⟩ := h.coherent.bound phys ref hlook
    obtain rfl := Option.mem_unique hsess hsess'
    obtain ⟨pubs, subs, hfn⟩ := hfn sess
    rw [hfn] at hl'
    have htouch : Touches l l' [] := by
      subst hl'
      exact .one { sess with publish := pubs, subscribe := subs } hsess ⟨rfl, rfl, rfl, rfl⟩ rfl
        (fun _ _ => id) rfl rfl nofun
    subst hl'
    refine ⟨h.touch htouch (h.coherent.update hsess hstate rfl rfl hstate) fun ref' new hnew => ?_,
      [], htouch⟩
    rw [update, List.getElem?_set] at hnew
    split_ifs at hnew with heq
    · cases hnew
      exact heq ▸ h.parked ref sess hsess
    · exact h.parked ref' new hnew

/-! ### `Open` -/

/-- What distinguishes sessions: no other identity and room has the key of these, a session that is
created has a new id, and the generation of a session that is resumed does not overflow. -/
def Distinct (l : Ledger) (a : Time × Call) : Prop :=
  match a.2 with
  | .openSession uuid logicalID roomID phys node resume =>
    (∀ pair ∈ GoMap.values l.openedWith,
      sessionKey pair.1 pair.2 = sessionKey logicalID roomID → pair = (logicalID, roomID)) ∧
    (resume = none → ∀ sess ∈ l.registry.objects, sess.sessionID ≠
      (fresh a.1 uuid logicalID roomID phys node).sessionID) ∧
    (∀ info ∈ resume, ∀ sess ∈ l.registry.objects,
      sess.sessionID = info.sessionID → sess.generation + 1 < 2 ^ 64)
  | _ => True

instance (l : Ledger) : DecidablePred (Distinct l) := by
  intro a
  unfold Distinct
  split <;> infer_instance

/-- `Open` creates a session, leaves the registry as it is, or resumes a session: the generation
grows by one, and the intents stay. -/
inductive Opened (l l' : Ledger) : Prop
  | created (sess : Session)
    (hobjects : l'.registry.objects = l.registry.objects ++ [sess])
    (hhistory : l'.history =
      .opened l.registry.objects.length sess.sessionID sess.generation none :: l.history)
  | refused (hregistry : l'.registry = l.registry) (hhistory : l'.history = l.history)
  | resumed (ref : ℕ) (prev sess : Session) (info : ResumeInfo)
    (hprev : l.registry.objects[ref]? = some prev)
    (hobjects : l'.registry.objects = l.registry.objects.set ref sess)
    (hhistory : l'.history = .opened ref sess.sessionID sess.generation (some info) :: l.history)
    (hgen : sess.generation = prev.generation + 1)
    (hintents : sess.publish = prev.publish ∧ sess.subscribe = prev.subscribe)

/-- A session is returned: a new one, or one whose generation has grown. -/
theorem Consistent.returned (h : Consistent l) (hcoh : l'.registry.Coherent)
    (hkeys : ∀ p q a b, l'.openedWith.lookup p = some a → l'.openedWith.lookup q = some b →
      sessionKey a.1 a.2 = sessionKey b.1 b.2 → a = b)
    (hopened : ∀ q ≠ phys, l'.openedWith.lookup q = l.openedWith.lookup q)
    (hpair : l'.openedWith.lookup phys = some (sess.logicalID, sess.roomID))
    (hbyPhys : ∀ q ref', l'.registry.byPhys.lookup q = some ref' →
      q = phys ∧ ref' = ref ∨ q ≠ phys ∧ ref' ≠ ref ∧ l.registry.byPhys.lookup q = some ref')
    (hself : l'.registry.objects[ref]? = some sess)
    (hothers : ∀ ref' ≠ ref, l'.registry.objects[ref']? = l.registry.objects[ref']?)
    (hhistory : l'.history = .opened ref sess.sessionID sess.generation resume :: l.history)
    (hstate : sess.state ≠ .recovering)
    (hid : ∀ ref' old, ref' ≠ ref → l.registry.objects[ref']? = some old →
      old.sessionID ≠ sess.sessionID)
    (hgrow : ∀ old, l.registry.objects[ref]? = some old → old.sessionID = sess.sessionID ∧
      old.generation < sess.generation ∧
        ∀ info ∈ resume, info.generation ≠ 0 → old.generation ≤ info.generation)
    (hresume : ∀ info ∈ resume, info.sessionID = sess.sessionID) : Consistent l' := by
  refine ⟨hcoh, fun q ref' new hq hnew => ?_, hkeys, fun i j a b ha hb hab => ?_,
    fun ref' new hnew => ?_, fun event hevent => ?_, ?_⟩
  · obtain ⟨rfl, rfl⟩ | ⟨hne, hne', hold⟩ := hbyPhys q ref' hq
    · rwa [← Option.mem_unique hself hnew]
    · rw [hothers ref' hne'] at hnew
      rw [hopened q hne]
      exact h.owners q ref' new hold hnew
  · by_cases hi : i = ref
    · subst hi
      by_cases hj : j = i
      · exact hj.symm
      · obtain rfl := Option.mem_unique hself ha
        rw [hothers j hj] at hb
        exact absurd hab.symm (hid j b hj hb)
    · rw [hothers i hi] at ha
      by_cases hj : j = ref
      · subst hj
        obtain rfl := Option.mem_unique hself hb
        exact absurd hab (hid i a hi ha)
      · rw [hothers j hj] at hb
        exact h.ids i j a b ha hb hab
  · rw [hhistory, parkedSince, Event.ref]
    by_cases heq : ref = ref'
    · subst heq
      obtain rfl := Option.mem_unique hself hnew
      rw [if_pos rfl]
      exact ⟨fun hrec => absurd hrec hstate, fun _ => rfl⟩
    · rw [if_neg heq]
      exact h.parked ref' new (hothers ref' (Ne.symm heq) ▸ hnew)
  · rw [hhistory] at hevent
    obtain rfl | hevent := mem_cons.1 hevent
    · exact ⟨hresume, sess, hself, rfl, le_rfl⟩
    · refine (h.noted event hevent).mono fun ref' old hold => ?_
      by_cases heq : ref' = ref
      · subst heq
        obtain ⟨hsame, hlt, -⟩ := hgrow old hold
        exact ⟨sess, hself, hsame.symm, hlt.le⟩
      · exact ⟨old, (hothers ref' heq).trans hold, rfl, le_rfl⟩
  · rw [hhistory, pairwise_cons]
    refine ⟨fun event hevent => ?_, h.fenced⟩
    have hnoted := h.noted event hevent
    cases event with
    | opened ref' id gen resume' =>
      rintro rfl
      obtain ⟨-, old, hold, hsame, hgen⟩ := hnoted
      have heq : ref' = ref := by
        by_contra hne
        exact hid ref' old hne hold hsame
      subst heq
      obtain ⟨-, hlt, hinfo⟩ := hgrow old hold
      exact ⟨hgen.trans_lt hlt, fun info hmem hne => hgen.trans (hinfo info hmem hne)⟩
    | marked | closed => trivial

theorem call_openSession (h : Consistent l) {uuid : String} {node : NodeId}
    (hdistinct : Distinct l (now, .openSession uuid logicalID roomID phys node resume))
    (hcall : l.call timeout now (.openSession uuid logicalID roomID phys node resume) = some l') :
    Consistent l' ∧ Opened l l' := by
  obtain ⟨hfresh, hcall⟩ := Option.ite_none_left_eq_some.1 hcall
  cases hcall
  rw [Option.not_isSome_iff_eq_none] at hfresh
  obtain ⟨hkeys, hids, hgens⟩ := hdistinct
  -- a physical id that is bound was opened before
  have hbound {q : ParticipantId} {ref : ℕ} (hq : l.registry.byPhys.lookup q = some ref) :
      q ≠ phys := by
    rintro rfl
    obtain ⟨sess, hsess, -⟩ := h.coherent.bound q ref hq
    rw [h.owners q ref sess hq hsess] at hfresh
    cases hfresh
  have hnone : l.registry.byPhys.lookup phys = none := by
    rw [Option.eq_none_iff_forall_ne_some]
    exact fun ref hq => hbound hq rfl
  have hothers (q : ParticipantId) (hq : q ≠ phys) :
      (l.openedWith.insert phys (logicalID, roomID)).lookup q = l.openedWith.lookup q := by
    rw [lookup_insert_eq, if_neg hq]
  have hpairs (p q : ParticipantId) (a b : String × RoomId)
      (ha : (l.openedWith.insert phys (logicalID, roomID)).lookup p = some a)
      (hb : (l.openedWith.insert phys (logicalID, roomID)).lookup q = some b)
      (hkey : sessionKey a.1 a.2 = sessionKey b.1 b.2) : a = b := by
    rw [lookup_insert_eq] at ha hb
    split_ifs at ha hb
    · exact (Option.some.inj ha).symm.trans (Option.some.inj hb)
    · cases ha
      exact (hkeys b (mem_values.2 ⟨q, hb⟩) hkey.symm).symm
    · cases hb
      exact hkeys a (mem_values.2 ⟨p, ha⟩) hkey
    · exact h.keys p q a b ha hb hkey
  generalize hout : l.registry.openSession now uuid logicalID roomID phys node resume = out
  obtain ⟨r', res⟩ := out
  have hopens := openSession_opens hout
  have hcoh := hopens.coherent h.coherent hnone
  cases hopens with
  | created =>
    have hhist : noteOpen l.history phys none (((l.registry.create phys
        (fresh now uuid logicalID roomID phys node)).setPrimary
          (sessionKey logicalID roomID) phys),
        .ok { session := fresh now uuid logicalID roomID phys node }) =
        .opened l.registry.objects.length
          (fresh now uuid logicalID roomID phys node).sessionID 1 none ::
            l.history := by
      simp [noteOpen, setPrimary, create, fresh]
    refine ⟨?_, .created _ rfl hhist⟩
    have hlen : l.registry.objects[l.registry.objects.length]? = none :=
      getElem?_eq_none le_rfl
    refine h.returned hcoh hpairs hothers (Finmap.lookup_insert _) (fun q ref' hq => ?_)
      getElem?_concat_length (fun ref' hne => ?_) hhist
      (ne_of_beq_false rfl) (fun ref' old _ hold => ?_) (fun old hold => ?_) (by simp)
    · simp only [setPrimary, create, lookup_insert_eq] at hq
      split_ifs at hq with heq
      · exact .inl ⟨heq, (Option.some.inj hq).symm⟩
      · exact .inr ⟨heq, (l.registry.lt_length q ref' hq).ne, hq⟩
    · exact create_objects phys hne
    · exact hids rfl old (mem_of_getElem? hold)
    · rw [hlen] at hold
      cases hold
  | refused info err =>
    refine ⟨⟨hcoh, fun q ref sess hq hsess => ?_, hpairs, h.ids, ?_, ?_, ?_⟩, .refused rfl ?_⟩
    · rw [hothers q (hbound hq)]
      exact h.owners q ref sess hq hsess
    all_goals simp only [noteOpen, hnone]
    · exact h.parked
    · exact h.noted
    · exact h.fenced
  | resumed info prevPhys ref prev hprimary hfind hid hgen r' out hobjects hbyPhys hprimary'
      hsession =>
    obtain ⟨hlt, hlook, hprev⟩ := find_lt hfind
    have hgrows : (reconnect prev now phys node).generation =
        prev.generation + 1 :=
      Nat.mod_eq_of_lt (hgens info rfl prev (mem_of_getElem? hprev) hid)
    have hhist : noteOpen l.history phys (some info) (r', .ok out) =
        .opened ref (reconnect prev now phys node).sessionID
          (reconnect prev now phys node).generation (some info) :: l.history := by
      simp only [noteOpen, hbyPhys, Finmap.lookup_insert, hsession]
    refine ⟨?_, .resumed ref prev _ info hprev hobjects hhist hgrows ⟨rfl, rfl⟩⟩
    have hself : r'.objects[ref]? = some (reconnect prev now phys node) := by
      rw [hobjects, getElem?_set_self hlt]
    -- the session is one of the caller's, as no other pair has the key
    have hpair : (prev.logicalID, prev.roomID) = (logicalID, roomID) := by
      have howner := h.owners prevPhys ref prev hlook hprev
      obtain ⟨ref₀, prev₀, hbound₀, hprev₀, hkey₀⟩ := h.coherent.primary _ prevPhys hprimary
      obtain rfl := Option.mem_unique hlook hbound₀
      obtain rfl := Option.mem_unique hprev hprev₀
      exact hkeys _ (mem_values.2 ⟨prevPhys, howner⟩) hkey₀
    refine h.returned hcoh hpairs hothers ?_ (fun q ref' hq => ?_) hself (fun ref' hne => ?_) hhist
      (ne_of_beq_false rfl) (fun ref' old hne hold hsame => ?_) (fun old hold => ?_)
      ?_
    · rw [Finmap.lookup_insert]
      exact congrArg some hpair.symm
    · rw [hbyPhys, lookup_insert_eq, lookup_erase_eq] at hq
      split_ifs at hq with heq hprevq
      · exact .inl ⟨heq, (Option.some.inj hq).symm⟩
      · refine .inr ⟨heq, ?_, hq⟩
        rintro rfl
        exact hprevq (h.coherent.bound_unique hq hlook)
    · rw [hobjects, getElem?_set_ne (Ne.symm hne)]
    · exact hne (h.ids ref' ref old prev hold hprev hsame)
    · obtain rfl := Option.mem_unique hprev hold
      refine ⟨rfl, by omega, ?_⟩
      rintro _ ⟨⟩ hne
      exact hgen hne
    · rintro _ ⟨⟩
      exact hid.symm

/-! ## Whole histories -/

/-- Every current physical id is that of an identity and a room that were opened, and it is bound to
a session of theirs that is not closed. -/
def PrimaryLive (l : Ledger) : Prop :=
  (∀ key phys, l.registry.primary.lookup key = some phys →
    ∃ pair ∈ GoMap.values l.openedWith, sessionKey pair.1 pair.2 = key) ∧
  ∀ pair ∈ GoMap.values l.openedWith, ∀ phys,
    l.registry.primary.lookup (sessionKey pair.1 pair.2) = some phys →
      ∃ ref sess, l.registry.find phys = some (ref, sess) ∧ sess.state ≠ .closed ∧
        sess.logicalID = pair.1 ∧ sess.roomID = pair.2 ∧ sess.participantID = phys

/-- A session object is bound to at most one physical id. -/
def BoundOnce (l : Ledger) : Prop :=
  ∀ p q ref, l.registry.byPhys.lookup p = some ref → l.registry.byPhys.lookup q = some ref → p = q

/-- An `Open` that fails changes nothing. -/
def RefusesCleanly (l : Ledger) : Prop :=
  ∀ now uuid logicalID roomID phys node resume r' err,
    l.registry.openSession now uuid logicalID roomID phys node resume = (r', .error err) →
      r' = l.registry

/-- The event is a resume that has presented this session id and this generation. -/
def Presents (id : String) (generation : ℕ) : Event → Prop
  | .opened _ _ _ resume => resume = some ⟨id, generation⟩
  | .marked .. | .closed _ => False

instance (id : String) (generation : ℕ) : DecidablePred (Presents id generation) := by
  intro e
  unfold Presents
  split <;> infer_instance

/-- After `Open` has returned a generation of a session, at most one resume that presents it is
accepted, and none once a larger one was returned. -/
def Fenced (l : Ledger) : Prop :=
  ∀ later earlier ref id gen resume, l.history = later ++ .opened ref id gen resume :: earlier →
    1 ≤ gen →
      later.countP (Presents id gen) ≤ 1 ∧
      ∀ last mid id' gen' resume', later = last ++ .opened ref id' gen' resume' :: mid →
        gen < gen' → last.countP (Presents id gen) = 0

/-- Generations never decrease; they grow by one at a resume, which leaves the intents alone. -/
def Grows (l l' : Ledger) : Prop :=
  ∀ (ref : ℕ) sess, l.registry.objects[ref]? = some sess →
    ∃ sess', l'.registry.objects[ref]? = some sess' ∧ sess.generation ≤ sess'.generation ∧
      ∀ id gen info, l'.history = .opened ref id gen (some info) :: l.history →
        sess'.generation = sess.generation + 1 ∧ sess'.publish = sess.publish ∧
          sess'.subscribe = sess.subscribe

/-- The sessions that are closed are those that were marked as recovering before `cutoff`, and
neither resumed nor closed since. -/
def Sweeps (l l' : Ledger) (cutoff : Time) : Prop :=
  ∀ (ref : ℕ) sess, l.registry.objects[ref]? = some sess →
    ∃ sess', l'.registry.objects[ref]? = some sess' ∧
      (sess.state ≠ .closed ∧ sess'.state = .closed ↔
        ∃ since, parkedSince l.history ref = some since ∧ since < cutoff)

theorem Consistent.primaryLive (h : Consistent l) : l.PrimaryLive := by
  refine ⟨fun key p hp => ?_, fun pair hpair p hp => ?_⟩
  · obtain ⟨ref, sess, hbound, hsess, hkey⟩ := h.coherent.primary key p hp
    exact ⟨_, mem_values.2 ⟨p, h.owners p ref sess hbound hsess⟩, hkey⟩
  · obtain ⟨q, hq⟩ := mem_values.1 hpair
    obtain ⟨ref, sess, hbound, hsess, hkey⟩ := h.coherent.primary _ p hp
    obtain ⟨sess', hfind, hsess', hphys, hstate⟩ := h.coherent.find_eq hbound
    obtain rfl := Option.mem_unique hsess hsess'
    obtain rfl := h.keys p q _ pair (h.owners p ref sess hbound hsess) hq hkey
    exact ⟨ref, sess, hfind, hstate, rfl, rfl, hphys⟩

theorem Noted.presented {r : SessionRegistry} {gen : ℕ}
    (h : Noted r event) (hp : Presents id gen event) :
    ∃ ref gen', event = .opened ref id gen' (some ⟨id, gen⟩) := by
  cases event with
  | opened ref id' gen' resume =>
    obtain rfl : resume = some ⟨id, gen⟩ := hp
    obtain rfl : id = id' := h.1 _ rfl
    exact ⟨ref, gen', rfl⟩
  | marked | closed => cases hp

/-- Of two events that present one generation of a session, at most one comes after that generation
was returned. -/
theorem Consistent.fence (h : Consistent l) {later earlier : List Event} {gen : ℕ}
    (hhistory : l.history = later ++ .opened ref id gen resume :: earlier) (hpos : 1 ≤ gen) :
    (∀ last mid id' gen' resume', later = last ++ .opened ref id' gen' resume' :: mid →
      gen < gen' → ∀ event ∈ last, ¬ Presents id gen event) ∧
    later.Pairwise fun a b => ¬ (Presents id gen a ∧ Presents id gen b) := by
  have hfenced := h.fenced
  rw [hhistory, pairwise_append] at hfenced
  obtain ⟨hlater, -, hboth⟩ := hfenced
  have hmem {event : Event} (hevent : event ∈ later) : Noted l.registry event := by
    refine h.noted event ?_
    rw [hhistory]
    exact mem_append_left _ hevent
  have hself : Noted l.registry (.opened ref id gen resume) := by
    refine h.noted _ ?_
    rw [hhistory]
    exact mem_append_right _ mem_cons_self
  refine ⟨?_, hlater.imp_of_mem ?_⟩
  · rintro last mid id' gen' resume' rfl hlt event hevent hpresents
    -- the session has one id, and the larger generation was returned before the event
    have hid : id' = id := by
      obtain ⟨-, sess, hsess, rfl, -⟩ := hself
      obtain ⟨-, sess', hsess', rfl, -⟩ := hmem (mem_append_right last mem_cons_self)
      rw [Option.mem_unique hsess hsess']
    have hfence := (pairwise_append.1 hlater).2.2 event hevent _ mem_cons_self
    obtain ⟨_, _, rfl⟩ := (hmem (mem_append_left _ hevent)).presented hpresents
    have hle := (hfence hid.symm).2 _ rfl (Nat.ne_of_gt hpos)
    exact absurd hle (not_le.2 hlt)
  · rintro a b ha hb hfence ⟨hpa, hpb⟩
    obtain ⟨_, _, rfl⟩ := (hmem ha).presented hpa
    obtain ⟨_, _, rfl⟩ := (hmem hb).presented hpb
    have hlt := (hboth _ hb _ mem_cons_self rfl).1
    have hle := (hfence rfl).2 _ rfl (Nat.ne_of_gt hpos)
    exact absurd hle (not_le.2 hlt)

theorem Consistent.fenced_resumes (h : Consistent l) : l.Fenced := by
  intro later earlier ref id gen resume hhistory hpos
  obtain ⟨hlarger, honce⟩ := h.fence hhistory hpos
  refine ⟨countP_le_one honce, fun last mid id' gen' resume' hlater hlt => ?_⟩
  rw [countP_eq_zero]
  intro event hevent
  simpa using hlarger last mid id' gen' resume' hlater hlt event hevent

theorem Touches.grows (h : Touches l l' events) : Grows l l' := by
  intro ref sess hsess
  obtain ⟨sess', hsess', hkept⟩ := h.forth ref sess hsess
  refine ⟨sess', hsess', hkept.generation.ge, fun id gen info hhistory => ?_⟩
  rw [h.history] at hhistory
  cases events with
  | nil => exact absurd hhistory (cons_ne_self _ _).symm
  | cons event events =>
    obtain ⟨rfl, -⟩ := cons.inj hhistory
    exact absurd rfl ((h.events _ mem_cons_self).1 ref id gen (some info))

theorem Opened.grows (h : Opened l l') : Grows l l' := by
  intro ref sess hsess
  have hlt := (List.getElem?_eq_some_iff.1 hsess).1
  cases h with
  | created new hobjects hhistory =>
    refine ⟨sess, ?_, le_rfl, fun id gen info hhist => ?_⟩
    · rwa [hobjects, List.getElem?_append_left hlt]
    · obtain ⟨heq, -⟩ := List.cons.inj (hhistory.symm.trans hhist)
      cases heq
  | refused hregistry hhistory =>
    refine ⟨sess, hregistry ▸ hsess, le_rfl, fun id gen info hhist => ?_⟩
    exact absurd (hhistory.symm.trans hhist) (List.cons_ne_self _ _).symm
  | resumed ref' prev new info' hprev hobjects hhistory hgen hintents =>
    by_cases heq : ref' = ref
    · subst heq
      obtain rfl := Option.mem_unique hprev hsess
      refine ⟨new, ?_, by omega, fun _ _ _ _ => ⟨hgen, hintents⟩⟩
      rw [hobjects, List.getElem?_set_self hlt]
    · refine ⟨sess, ?_, le_rfl, fun id gen info hhist => ?_⟩
      · rwa [hobjects, List.getElem?_set_ne heq]
      · obtain ⟨heq', -⟩ := List.cons.inj (hhistory.symm.trans hhist)
        exact absurd (Event.opened.inj heq').1 heq

/-- A call keeps the ledger consistent, and generations grow. -/
theorem step_consistent (h : Consistent l) {a : Time × Call} (hdistinct : l.Distinct a)
    (hstep : l.step timeout a = some l') : Consistent l' ∧ Grows l l' := by
  obtain ⟨now, c⟩ := a
  unfold step at hstep
  split_ifs at hstep
  cases c with
  | openSession uuid logicalID roomID phys node resume =>
    obtain ⟨hcons, hopened⟩ := call_openSession h hdistinct hstep
    exact ⟨hcons, hopened.grows⟩
  | markRecovering logicalID roomID phys =>
    obtain ⟨hcons, events, htouch⟩ := call_markRecovering h hstep
    exact ⟨hcons, htouch.grows⟩
  | close logicalID roomID phys =>
    obtain ⟨hcons, events, htouch⟩ := call_close h hstep
    exact ⟨hcons, htouch.grows⟩
  | sweepExpired order =>
    obtain ⟨⟨hcons, events, htouch⟩, -⟩ := call_sweepExpired h hstep
    exact ⟨hcons, htouch.grows⟩
  | updatePublishIntent | removePublishIntent | updateSubIntent =>
    refine (h.intents (fun s => ?_) (Option.some.inj hstep).symm).imp_right
      fun ⟨events, htouch⟩ => htouch.grows
    (repeat' split) <;> exact ⟨_, _, rfl⟩

/-- `SweepExpired` closes what has been recovering since before the cutoff. -/
theorem step_sweeps (h : Consistent l) (hpos : 0 < timeout)
    (hstep : l.step timeout (now, .sweepExpired order) = some l') :
    Sweeps l l' (now - timeout) := by
  unfold step at hstep
  split_ifs at hstep
  have hobjects := (call_sweepExpired h hstep).2 hpos
  have horder := not_not.1 (Option.ite_none_left_eq_some.1 hstep).1
  intro ref sess hsess
  refine ⟨_, (hobjects ref).trans (congrArg _ hsess), ?_⟩
  obtain ⟨hrec, hnot⟩ := h.parked ref sess hsess
  by_cases hstate : sess.state = .recovering
  · -- it is bound to a physical id, which the loop meets
    obtain ⟨hparked, hsome⟩ := hrec hstate
    have hopen : sess.state ≠ .closed := by
      rw [hstate]
      decide
    have hmem : sess.participantID ∈ order := by
      rw [← mem_toFinset, horder, Finmap.mem_keys]
      exact Finmap.mem_of_lookup_eq_some (h.coherent.alive ref sess hsess hopen)
    obtain ⟨since, hsince⟩ := Option.ne_none_iff_exists'.1 hsome
    have hexp : Expired (now - timeout) sess ↔ since < now - timeout := by
      simp [Expired, hstate, hsince]
    rw [hparked, hsince]
    by_cases hlt : since < now - timeout
    · rw [swept, if_pos ⟨hmem, hexp.2 hlt⟩]
      exact iff_of_true ⟨hopen, rfl⟩ ⟨since, rfl, hlt⟩
    · rw [swept, if_neg fun hboth => hlt (hexp.1 hboth.2)]
      refine iff_of_false (fun hboth => hopen hboth.2) ?_
      rintro ⟨_, ⟨⟩, hlt'⟩
      exact hlt hlt'
  · rw [hnot hstate, swept, if_neg fun hboth => hstate hboth.2.1]
    refine iff_of_false (fun hboth => hboth.1 hboth.2) ?_
    rintro ⟨_, ⟨⟩, -⟩

theorem empty_consistent (start : Time) : Consistent (empty start) := by
  refine ⟨⟨?_, ?_, ?_⟩, ?_, ?_, ?_, ?_, ?_, List.Pairwise.nil⟩
  all_goals simp [empty, SessionRegistry.empty]

/-- **Sessions are fenced** in every history of calls that meet `Distinct`: the current physical id
of an identity in a room is bound to a session of theirs that is not closed, a session is bound
once, a refused `Open` changes nothing, generations fence resumes and grow by one at each of them,
and `SweepExpired` closes the sessions that have been recovering for longer than the timeout. -/
theorem registry_fenced (timeout start : Time) (as : List (Time × Call)) (l : Ledger)
    (hdistinct : Along (step timeout) Distinct (empty start) as)
    (hrun : run (step timeout) (empty start) as = some l) :
    l.PrimaryLive ∧ l.BoundOnce ∧ l.RefusesCleanly ∧ l.Fenced ∧
      (∀ a l', l.Distinct a → l.step timeout a = some l' → Grows l l') ∧
      (0 < timeout → ∀ now order l', l.step timeout (now, .sweepExpired order) = some l' →
        Sweeps l l' (now - timeout)) := by
  have h : Consistent l := run_invariant (I := Consistent)
    (fun l a l' h hd hstep => (step_consistent h hd hstep).1) (empty_consistent start) hdistinct
    hrun
  refine ⟨h.primaryLive, fun p q ref hp hq => h.coherent.bound_unique hp hq, ?_, h.fenced_resumes,
    fun a l' hd hstep => (step_consistent h hd hstep).2,
    fun hpos now order l' hstep => step_sweeps h hpos hstep⟩
  intro now uuid logicalID roomID phys node resume r' err hopen
  exact (openSession_error hopen).1

/-- A session is opened and publishes, its connection is lost, and it is resumed on another one. -/
def resumes : List (Time × Call) :=
  [(0, .openSession "0123456789abcdef" "ana" "room" "p1" "n1" none),
    (1, .updatePublishIntent "ana" "room" ⟨"mic", "audio", false⟩),
    (1, .markRecovering "ana" "room" "p1"),
    (2, .openSession "f" "ana" "room" "p2" "n1" (some ⟨"sess-0123456789ab", 1⟩))]

theorem registry_fenced_resumes : ∃ l ∈ run (step second) (empty 0) resumes,
    (l.history.length = 3 ∧ ∀ sess ∈ l.registry.objects, "mic" ∈ sess.publish) ∧
      l.PrimaryLive ∧ l.BoundOnce ∧ l.RefusesCleanly ∧ l.Fenced ∧
      (∀ a l', l.Distinct a → l.step second a = some l' → Grows l l') ∧
      (0 < second → ∀ now order l', l.step second (now, .sweepExpired order) = some l' →
        Sweeps l l' (now - second)) := by
  refine exists_mem_and (by decide +kernel) fun l hl _ => ?_
  exact registry_fenced second 0 resumes l (by decide +kernel) hl

/-- Two identities whose keys are the same: one opens a session, and the other one resumes it. -/
def impersonates : List (Time × Call) :=
  [(0, .openSession "0123456789abcdef" "a" "b\x00c" "p1" "n1" none),
    (1, .openSession "f" "a\x00b" "c" "p2" "n1" (some ⟨"sess-0123456789ab", 1⟩))]

/-- The current physical id of the second identity in its room is bound to the session of the first
one in another room. -/
theorem registry_unfenced : ∃ l ∈ run (step second) (empty 0) impersonates,
    ("a\x00b", "c") ∈ GoMap.values l.openedWith ∧
      l.registry.primary.lookup (sessionKey "a\x00b" "c") = some "p2" ∧
        ∃ found ∈ l.registry.find "p2", found.2.logicalID = "a" ∧ found.2.roomID = "b\x00c" := by
  decide +kernel

end Ledger

end PulseRTC.Signaling
