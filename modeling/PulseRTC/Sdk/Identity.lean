import PulseRTC.Sdk.Session

/-!
# The own publications

A room knows the publications of its own participant by the id that `welcome` has given to it, and
it keeps that id twice. The store takes it from every `welcome`, and the local participant only from
the first one of a session, as it is kept across reconnects. The server derives a new id for every
connection, so after a reconnect the two differ.

A run notes the id of the last `welcome` (`stepNoting`).

* While the ids stay the same, the echo of a publication reaches the local participant, and no
  event of its own makes a remote participant: `own_recognised`.
* After a reconnect with a new id, the echo is lost: `own_unrecognised`.
-/

namespace PulseRTC.Sdk

open Foundations Option

/-! ## The last `welcome` -/

/-- The id that a `welcome` carries. -/
def ServerMessage.welcomed : ServerMessage → Option String
  | .welcome id _ => some id
  | _ => none

/-- The message is a publication event. -/
def ServerMessage.isPublication : ServerMessage → Bool
  | .publication _ => true
  | _ => false

namespace Room

/-- The id of the last `welcome`, after a step. -/
def lastWelcome (r : Room) (a : Act) (last : Option String) : Option String :=
  ((r.next a).bind fun x => x.2.welcomed).or last

/-- A step, and the id of the last `welcome`. -/
def stepNoting (x : Room × Option String) (a : Act) : Option (Room × Option String) :=
  (x.1.step a).map fun r => (r, x.1.lastWelcome a x.2)

/-- Every `welcome` of a session carries the id of the first one, and publication events are
handled after it. -/
def KeepsIdentity (x : Room × Option String) (a : Act) : Prop :=
  ∀ y ∈ x.1.next a,
    (∀ id ∈ y.2.welcomed, x.1.me.identity = "" ∨ x.1.me.identity = id) ∧
      (y.2.isPublication = true → x.1.store.localIdentity.isSome = true)

instance (x : Room × Option String) (a : Act) : Decidable (KeepsIdentity x a) :=
  inferInstanceAs (Decidable (∀ _, _))

end Room

namespace Session

variable {s s' : Session} {last : Option String}

/-- The two ids agree, with each other and with the last `welcome`. -/
def Agrees (s : Session) (last : Option String) : Prop :=
  ∀ id, s.store.localIdentity = some id → s.me.identity = id ∧ last = some id

theorem Agrees.congr (h : s.Agrees last) (hstore : s'.store.localIdentity = s.store.localIdentity)
    (hme : s'.me.identity = s.me.identity) : s'.Agrees last := by
  intro id hid
  rw [hme]
  exact h id (hstore.symm.trans hid)

variable {x : LocalParticipant × Negotiator}

theorem identity_setLocal {i : ℕ} (hx : x.1.identity = (s.locals i).identity) :
    (s.setLocal i x).me.identity = s.me.identity := by
  unfold setLocal me
  dsimp only
  by_cases hi : s.self = i
  · rw [hi, Function.update_self, hx]
  · rw [Function.update_of_ne hi]

theorem Agrees.setLocal (h : s.Agrees last) {i : ℕ}
    (hx : x.1.identity = (s.locals i).identity) : (s.setLocal i x).Agrees last :=
  h.congr rfl (identity_setLocal hx)

theorem Agrees.loses (h : s.Agrees last) (hlose : s.Loses s') : s'.Agrees last := by
  cases hlose with
  | fades => exact h
  | closes => exact h

theorem Agrees.down : s.down.Agrees last := nofun

end Session

namespace Room

variable {r r' : Room} {last : Option String}

variable {n : ℕ} {fails : Bool} {m : ServerMessage}

theorem agrees_own {m : PublicationEvent} (h : r.session.Agrees last) :
    (r.onOwnPublication n m).session.Agrees last := by
  unfold onOwnPublication
  split
  · dsimp only
    refine Session.Agrees.setLocal h ?_
    split_ifs
    · exact (r.me.same_onScreenPublicationAdded _ _ _).identity
    · exact (r.me.same_onPublicationAdded _ _ _).identity
  · exact h.setLocal (r.me.same_onPublicationRemoved r.neg m.publicationId).identity
  · exact h.setLocal (r.me.same_onPublicationMuted m.publicationId m.muted).identity

/-- A `welcome` that carries the identity of the local participant, or is the first one. -/
theorem agrees_welcome {id : String} {name : Option String}
    {st : ConnectionState} (hid : r.me.identity = "" ∨ r.me.identity = id) :
    ({ ((({ r with store := r.store.applyWelcome id } : Room).greet id name).createPc n
      fails).session with state := st } : Session).Agrees (some id) := by
  intro id' hid'
  have hstore : ((({ r with store := r.store.applyWelcome id } : Room).greet id name).createPc n
      fails).store.localIdentity = some id := by
    unfold greet createPc
    split_ifs <;> rfl
  obtain rfl : id = id' := mem_unique hstore hid'
  refine ⟨?_, rfl⟩
  show (({ r with store := r.store.applyWelcome id } : Room).greet id name).me.identity = id
  unfold greet
  rw [show ({ r with store := r.store.applyWelcome id } : Room).me = r.me from rfl]
  split_ifs with hnew
  · simp [me]
  · have hsame := (r.me.same_resetForReconnect r.neg).identity
    simpa [me, setLocal] using hsame.trans (hid.resolve_left hnew)

theorem welcomed_eq_none (h : m.isWelcome = false) : m.welcomed = none := by
  cases m with
  | welcome => cases h
  | _ => rfl

/-- What a message does to the identities. -/
theorem Handles.agrees {s : Session} (h : Handles r n fails m s) (hr : r.session.Agrees last)
    (hid : ∀ id ∈ m.welcomed, r.me.identity = "" ∨ r.me.identity = id) :
    s.Agrees (m.welcomed.or last) := by
  cases h with
  | idle hm =>
    rw [welcomed_eq_none hm]
    exact hr
  | welcome => exact agrees_welcome (hid _ rfl)
  | joined => exact hr.congr (ParticipantStore.localIdentity_applyRoomJoined _) rfl
  | rejoined =>
    exact hr.congr (ParticipantStore.localIdentity_applyRoomJoined _)
      (Session.identity_setLocal (r.me.same_addTracks r.neg).identity)
  | store hm hstore =>
    rw [welcomed_eq_none hm]
    exact hr.congr hstore rfl
  | own => exact agrees_own hr
  | denied => exact hr.setLocal (r.me.same_onPublishDenied r.neg).identity
  | stale => exact hr
  | down hm => exact .down
  | redirected hlose =>
    have hclosed := Session.Agrees.loses
      (s := { r.session with wire := r.session.wire.close }) hr hlose
    exact hclosed

/-- What anything else does to the identities. -/
theorem Reacts.agrees {a : Act} {s : Session} (h : Reacts r a s) (hr : r.session.Agrees last) :
    s.Agrees last := by
  cases h with
  | idle | connect | opened | message | timer | spoken | collected => exact hr
  | down => exact .down
  | closed hlose =>
    exact Session.Agrees.loses (s := { r.session with wire := r.session.wire.shut _ }) hr hlose
  | enabled => exact hr.setLocal rfl
  | userMedia => exact hr.setLocal ((r.locals _).same_onUserMedia r.neg _).identity
  | setKind => exact hr.setLocal ((r.locals _).same_setKind _ _).identity
  | displayMedia => exact hr.setLocal ((r.locals _).same_onDisplayMedia r.neg _ _).identity
  | stopScreen => exact hr.setLocal ((r.locals _).same_teardownScreen r.neg).identity
  | store hstore => exact hr.congr hstore rfl

/-- What a step does to the identities. -/
theorem stepNoting_agrees {x x' : Room × Option String} {a : Act} (hx : x.1.session.Agrees x.2)
    (hG : KeepsIdentity x a) (h : stepNoting x a = some x') : x'.1.session.Agrees x'.2 := by
  obtain ⟨r', hstep, rfl⟩ := map_eq_some_iff.1 h
  obtain ⟨fails, n, m, rest, rfl, hpending, hhandles⟩ | ⟨hturn, hreacts⟩ := step_session hstep
  · have hnext : x.1.next (.handle fails) = some (n, m) := by simp [next, hpending]
    have hlast : x.1.lastWelcome (.handle fails) x.2 = m.welcomed.or x.2 := by
      simp [lastWelcome, hnext]
    rw [hlast]
    refine hhandles.agrees ?_ (hG _ hnext).1
    rw [session_take]
    exact hx
  · have hlast : x.1.lastWelcome a x.2 = x.2 := by
      unfold lastWelcome
      cases a with
      | handle => cases hturn
      | _ => rfl
    rw [hlast]
    exact hreacts.agrees hx

/-! ## The echo -/

theorem echo_settles {p : LocalParticipant} {kind : Kind} {track : Track} (publicationId : String)
    (session : ℕ) (htrack : p.stream.bind (·.first kind) = some track) :
    publicationId ∈ (p.onPublicationAdded kind publicationId session).publications ∧
      (∀ w ∈ p.waiters kind,
        (w, true) ∈ (p.onPublicationAdded kind publicationId session).settled) ∧
      (p.onPublicationAdded kind publicationId session).waiters kind = none := by
  unfold LocalParticipant.onPublicationAdded LocalParticipant.flushPub
  simp only [Function.update_self, htrack]
  unfold LocalParticipant.settle
  dsimp only
  split
  · next hwaiter => simp [hwaiter]
  · next w hwaiter => simp [hwaiter]

/-- **The own publications are recognised**, in every run in which the `welcome`s of a session carry
one id and publication events are handled after a `welcome`. -/
theorem own_recognised {qoeEnabled fails : Bool} {as : List Act} {w : String} {n : ℕ}
    {m : PublicationEvent} {rest : List (ℕ × ServerMessage)}
    (hG : Along stepNoting KeepsIdentity (new qoeEnabled, none) (as ++ [.handle fails]))
    (hrun : run stepNoting (new qoeEnabled, none) as = some (r, some w))
    (hpending : r.pending = (n, .publication m) :: rest) (hw : m.participantId = w)
    (hstep : r.step (.handle fails) = some r') :
    (m.type = .added → m.source ≠ some .screen →
      ∀ track, r.me.stream.bind (·.first m.kind) = some track →
        m.publicationId ∈ r'.me.publications ∧
          (∀ waiter ∈ r.me.waiters m.kind, (waiter, true) ∈ r'.me.settled) ∧
          r'.me.waiters m.kind = none) ∧
    ∀ p, p ∈ r'.store.remote ↔ p ∈ r.store.remote := by
  obtain ⟨hbefore, hlast⟩ := hG.snoc
  have hagrees : r.session.Agrees (some w) :=
    run_invariant (I := fun x => x.1.session.Agrees x.2)
      (fun _ _ _ hI hG hstep => stepNoting_agrees hI hG hstep) nofun hbefore hrun
  have hnext : r.next (.handle fails) = some (n, .publication m) := by simp [next, hpending]
  obtain ⟨id, hid⟩ := isSome_iff_exists.1 ((hlast _ hrun _ hnext).2 rfl)
  obtain ⟨hme, hlast⟩ := hagrees id hid
  obtain rfl : w = id := some.inj hlast
  obtain ⟨n', m', rest', hp, rfl⟩ := turn_of_step hstep
  obtain ⟨⟨rfl, rfl⟩, rfl⟩ : (n = n' ∧ .publication m = m') ∧ rest = rest' := by
    simpa using hpending.symm.trans hp
  -- The event is one of the local participant, which `take` leaves alone.
  have hown : (r.take n (.publication m) rest).onMessage n (.publication m) fails =
      (r.take n (.publication m) rest).onOwnPublication n m := if_pos (hw.trans hme.symm)
  have hself : (r.take n (.publication m) rest).me = r.me := rfl
  rw [hown]
  constructor
  · intro hadded hsource track htrack
    have hecho := echo_settles m.publicationId n htrack
    unfold onOwnPublication
    rw [hadded]
    dsimp only
    rw [if_neg hsource, hself]
    simpa [me, setLocal] using hecho
  · intro p
    unfold onOwnPublication
    split <;> rfl

/-- A client connects as `id`, and captures its microphone. -/
def publishes (id : String) : List Act :=
  [.connect "room", .open 0, .message 0 (.welcome id none), .handle false,
    .message 0 (.roomJoined { roomId := "room" }), .handle false, .enable 1,
    .userMedia 0 (some { audio := some ⟨"mic", .audio⟩ })]

/-- The client loses its socket, reconnects as `id` and hears of its publication. -/
def republishes (id : String) : List Act :=
  [.close 0 1006, .timer, .open 1, .message 1 (.welcome id none), .handle false,
    .message 1 (.roomJoined { roomId := "room", reconnected := true }), .handle false,
    .message 1 (.publication ⟨.added, "pub", id, .audio, none, false⟩)]

/-- The echo after a reconnect with the same id. -/
theorem own_recognised_again :
    ∃ x ∈ run stepNoting (new true, none) (publishes "alice" ++ republishes "alice"),
      ∃ r' ∈ x.1.step (.handle false), "pub" ∈ r'.me.publications ∧
        ∀ p, p ∈ r'.store.remote ↔ p ∈ x.1.store.remote := by
  have hreach :
      ∃ x ∈ run stepNoting (new true, none) (publishes "alice" ++ republishes "alice"),
        x.2 = some "alice" ∧
          x.1.pending = [(1, .publication ⟨.added, "pub", "alice", .audio, none, false⟩)] ∧
          x.1.me.stream.bind (·.first .audio) = some ⟨"mic", .audio⟩ ∧
          (x.1.step (.handle false)).isSome = true := by decide +kernel
  obtain ⟨⟨r, last⟩, hrun, rfl, hpending, htrack, hsome⟩ := hreach
  obtain ⟨r', hstep⟩ := isSome_iff_exists.1 hsome
  obtain ⟨hecho, hremote⟩ := own_recognised (by decide +kernel) hrun hpending rfl hstep
  exact ⟨_, hrun, r', hstep, (hecho rfl nofun _ htrack).1, hremote⟩

/-- The client reconnects, as the server does, with another id: the echo of its publication does
not reach the local participant, and the promise that waits for it is not settled. -/
theorem own_unrecognised :
    ∃ x ∈ run stepNoting (new true, none)
        (publishes "alice" ++ republishes "alice-2" ++ [.handle false]),
      x.2 = some "alice-2" ∧ x.1.me.stream.bind (·.first .audio) = some ⟨"mic", .audio⟩ ∧
        "pub" ∉ x.1.me.publications ∧ (x.1.me.waiters .audio).isSome = true ∧
        x.1.me.settled = [] := by
  decide +kernel

end Room

end PulseRTC.Sdk
