import PulseRTC.Sdk.Session

/-!
# Losing the socket while connected

A room that is connected should react to the close of its socket. But a failed `connect()` leaves
its socket open, and messages that wait in `pending` are handled after the socket is lost. So
`room_joined` can make a room connected that does not want to be, or whose socket is closed.

* `Room.Heeds`: a socket that can deliver messages, a timer that is armed, and a `room_joined` that
  waits belong to a room that wants to be connected.
* `connected_reacts`: a connected room reacts in the runs that are `Undisturbed`.
-/

namespace PulseRTC.Sdk

open Foundations List Option

namespace Link

/-- A link that is connected reacts to the close of its socket. -/
def Reacts (l : Link) : Prop :=
  l.state = .connected → l.want = true ∧ l.connecting = false ∧ l.reported = false

variable {l : Link}

theorem Reacts.report_state (h : l.Reacts) : l.report.state ≠ .connected := by
  intro hs
  unfold report onClose at hs
  split_ifs at hs with hrep hwant hconn
  · exact absurd ((h hs).2.2) (by simp [hrep])
  · exact absurd ((h hs).1) (by simpa using hwant)
  · cases hs

/-- A link that is connected reacts, and one with a socket that may get messages, or with an armed
timer, wants to be connected. -/
structure Heeds (l : Link) : Prop where
  reacts : l.Reacts
  live : ∀ st ∈ l.socket, st.live = true → l.want = true ∧ l.reported = false
  armed : l.armed = true → l.want = true ∧ l.connecting = false

/-- A socket that is as live as before. -/
theorem Heeds.map (h : l.Heeds) {f : Status → Status} (hf : ∀ st, (f st).live = st.live) :
    ({ l with socket := l.socket.map f } : Link).Heeds where
  reacts := h.reacts
  live := by
    rintro st hst hlive
    obtain ⟨st, hst', rfl⟩ := map_eq_some_iff.1 hst
    exact h.live st hst' ((hf st).symm.trans hlive)
  armed := h.armed

theorem Heeds.join (h : l.Heeds) : l.join.Heeds :=
  h.map fun ⟨st, w⟩ => by cases st <;> rfl

theorem Heeds.answered (h : l.Heeds) : l.answered.Heeds := h.map fun _ => rfl

/-- The report of a close. -/
theorem Heeds.report (h : l.Heeds) :
    ({ l with socket := some (.closed, false) } : Link).report.Heeds := by
  have hreacts : ({ l with socket := some (.closed, false) } : Link).Reacts := h.reacts
  refine ⟨fun hs => absurd hs hreacts.report_state, fun st hst hlive => ?_, fun harmed => ?_⟩
  · unfold Link.report onClose fail at hst
    split_ifs at hst <;> (cases hst; cases hlive)
  · unfold Link.report onClose fail at harmed ⊢
    split_ifs at harmed ⊢ with hrep hwant hconn
    · exact h.armed harmed
    · exact h.armed harmed
    · exact absurd hconn (by simp [(h.armed harmed).2])
    · exact ⟨by simpa using hwant, by simpa using hconn⟩

end Link

/-- The message is a `room_joined`. -/
def ServerMessage.isRoomJoined : ServerMessage → Bool
  | .roomJoined _ => true
  | _ => false

namespace Room

variable {r r' : Room} {a : Act}

/-! ## The condition -/

/-- While a `connect()` is pending no handler fails and no error comes; when the close of the
current socket is reported no `room_joined` waits, and if a `connect()` is pending no redirect
either; and `connect()` is not called while the reconnect timer is armed. -/
def Undisturbed (r : Room) (a : Act) : Prop :=
  (r.fails a = true → r.connecting = none) ∧
  (r.closes a = true → ∀ x ∈ r.pending, x.2.isRoomJoined = false ∧
    (r.connecting ≠ none → x.2.isRedirect = false)) ∧
  (a.isConnect = true → r.reconnector.armed = false)

instance (r : Room) (a : Act) : Decidable (r.Undisturbed a) := inferInstanceAs (Decidable (_ ∧ _))

/-! ## The invariant -/

/-- The link heeds its socket, and a `room_joined` or a redirect that waits finds a room that wants
to be connected. -/
structure Heeds (r : Room) : Prop where
  link : r.link.Heeds
  joins : ∀ x ∈ r.pending, x.2.isRoomJoined = true → r.link.want = true ∧ r.link.reported = false
  redirects : ∀ x ∈ r.pending, x.2.isRedirect = true → r.link.want = true

theorem closes_of_next {x : ℕ × ServerMessage} (h : r.next a = some x)
    (hx : x.2.isRedirect = true) : r.closes a = true := by
  cases a with
  | handle fails =>
    unfold closes
    rw [show r.pending.head? = _ from h]
    exact hx
  | _ => cases h

variable {l : Link} {pending : List (ℕ × ServerMessage)}

/-- The messages that still wait find what they need. -/
theorem Moves.waits {x : ℕ × ServerMessage} (h : Moves r a pending l) (hr : r.Heeds)
    (hG : r.Undisturbed a) (hx : x ∈ r.pending) (hx' : x ∈ pending) :
    (x.2.isRoomJoined = true → l.want = true ∧ l.reported = false) ∧
      (x.2.isRedirect = true → l.want = true) := by
  have hjoins := hr.joins x hx
  have hredirects := hr.redirects x hx
  obtain ⟨hfails, hcloses, -⟩ := hG
  cases h with
  | quiet | join | opened | joined => exact ⟨hjoins, hredirects⟩
  | connect => exact ⟨fun _ => ⟨rfl, rfl⟩, fun _ => rfl⟩
  | down socket hsocket hpending =>
    rw [hpending] at hx'
    cases hx'
  | closed hsocket hreports =>
    unfold Link.report Link.onClose Link.fail
    split_ifs with hrep hwant hconn
    · exact ⟨hjoins, hredirects⟩
    all_goals
      obtain ⟨hno, hno'⟩ := hcloses (hreports (by simpa using hrep)) x hx
      refine ⟨fun hm => absurd (hno.symm.trans hm) Bool.false_ne_true, fun hm => ?_⟩
    · exact hredirects hm
    · have hpending : r.connecting ≠ none := isSome_iff_ne_none.1 hconn
      exact absurd ((hno' hpending).symm.trans hm) Bool.false_ne_true
    · exact hredirects hm
  | timer => exact ⟨fun hm => ⟨(hjoins hm).1, rfl⟩, hredirects⟩
  | failed socket hconn hf =>
    have hnone : r.link.connecting = false := congrArg Option.isSome (hfails hf)
    exact absurd (hnone.symm.trans hconn) Bool.false_ne_true
  | stale | unanswered => split_ifs <;> exact ⟨hjoins, hredirects⟩
  | redirected socket hnext =>
    obtain ⟨hno, -⟩ := hcloses (closes_of_next hnext rfl) x hx
    exact ⟨fun hm => absurd (hno.symm.trans hm) Bool.false_ne_true, hredirects⟩

/-! ## The messages that wait -/

end Room

end PulseRTC.Sdk
