import Mathlib.Data.List.Range
import PulseRTC.Foundations.Runs

/-!
# One message at a time

The client hands the messages of its socket to `onMessage` through a pump. A handler returns,
throws, or returns a promise; until that has settled, `busy` holds the later messages back. The
messages are numbered in the order in which they arrive, and the handlers, and when their promises
settle, are the choice of the environment.

* `Pump.Serial` is the invariant: the log is a sequence of completed invocations, with the one in
  flight at its end.
-/

namespace PulseRTC.Sdk

open Foundations List

/-- How an invocation of `onMessage` ends. -/
inductive Outcome
  | returns
  | throws
  | promise
  deriving DecidableEq

/-- What a handler does; it may also reset the session. -/
structure Handler where
  outcome : Outcome
  resets : Bool := false
  deriving DecidableEq

/-- What happens to a message: `onMessage` is invoked, it completes or its promise settles, and
`onFatal` gets its failure. -/
inductive PumpEvent
  | invoked (m : ℕ)
  | ended (m : ℕ) (ok : Bool)
  | fatal (m : ℕ)
  deriving DecidableEq

/-- `busy` and `pending` of a `Room`. Notes of the model are how many messages have arrived, the
message whose promise has not settled, the messages that a reset has dropped, and the log. -/
structure Pump where
  busy : Bool := false
  pending : List ℕ := []
  arrived : ℕ := 0
  inFlight : Option ℕ := none
  dropped : List ℕ := []
  log : List PumpEvent := []
  deriving DecidableEq

namespace Pump

/-- The end of an invocation; `onFatal` gets its failure. -/
def ending (m : ℕ) (ok : Bool) : List PumpEvent :=
  .ended m ok :: if ok then [] else [.fatal m]

/-- `onMessage` is invoked. -/
def invoke (s : Pump) (m : ℕ) : Outcome → Pump
  | .returns => { s with log := s.log ++ .invoked m :: ending m true }
  | .throws => { s with log := s.log ++ .invoked m :: ending m false }
  | .promise => { s with busy := true, inFlight := some m, log := s.log ++ [.invoked m] }

/-- The loop of `pump`, for the messages that wait. -/
def drain (h : ℕ → Handler) : List ℕ → Pump → Pump
  | [], s => { s with pending := [] }
  | m :: rest, s =>
    if s.busy then { s with pending := m :: rest }
    else
      let s := s.invoke m (h m).outcome
      if (h m).resets then { s with pending := [], dropped := s.dropped ++ rest }
      else drain h rest s

/-- A message arrives; a promise settles, and its failure goes to `onFatal`; then `pump` runs again;
or the session is reset. -/
inductive Act
  | message (h : ℕ → Handler)
  | settle (ok : Bool)
  | resume (h : ℕ → Handler)
  | resetSession

def step (s : Pump) : Act → Option Pump
  | .message h => some (drain h (s.pending ++ [s.arrived]) { s with arrived := s.arrived + 1 })
  | .settle ok =>
    s.inFlight.map fun m => { s with inFlight := none, log := s.log ++ ending m ok }
  | .resume h =>
    if s.busy ∧ s.inFlight = none then some (drain h s.pending { s with busy := false }) else none
  | .resetSession => some { s with pending := [], dropped := s.dropped ++ s.pending }

/-- The invocation ends in the loop over `l`: `onMessage` returns or throws. -/
def Ended (f : ℕ → Handler) (l : List ℕ) (d : ℕ × Bool) : Prop :=
  d.1 ∈ l ∧ (f d.1).outcome = if d.2 then .returns else .throws

/-- The message waits in `l` behind one whose handler resets the session, and no promise holds the
loop up before. -/
def Reset (f : ℕ → Handler) (l : List ℕ) (m : ℕ) : Prop :=
  ∃ pre k post, l = pre ++ k :: post ∧ (∀ j ∈ pre, (f j).outcome ≠ .promise) ∧
    (f k).resets = true ∧ m ∈ post

/-- The message waits when the action resets the session. -/
def WaitsAtReset (m : ℕ) (s : Pump) : Act → Prop
  | .message f => s.busy = false ∧ Reset f (s.pending ++ [s.arrived]) m
  | .settle _ => False
  | .resume f => Reset f s.pending m
  | .resetSession => m ∈ s.pending

/-- The action may reset the session. -/
def Act.Resets : Act → Prop
  | .message f | .resume f => ∃ k, (f k).resets = true
  | .settle _ => False
  | .resetSession => True

/-- The invocations that have ended are those in `done`, each with its end, and the messages in `l`
wait. -/
structure Serial (s : Pump) (done : List (ℕ × Bool)) (l : List ℕ) : Prop where
  log : s.log = (done.flatMap fun d => .invoked d.1 :: ending d.1 d.2) ++
    s.inFlight.toList.map .invoked
  order : (done.map Prod.fst ++ s.inFlight.toList ++ l).Pairwise (· < ·)
  once : (done.map Prod.fst ++ s.inFlight.toList ++ l ++ s.dropped).Perm (List.range s.arrived)
  busy : s.busy = false → s.inFlight = none

variable {s s' : Pump} {done : List (ℕ × Bool)} {l rest : List ℕ} {m : ℕ} {f : ℕ → Handler}

/-- The messages that wait are dropped. -/
theorem Serial.drop (h : s.Serial done l) :
    Serial { s with pending := [], dropped := s.dropped ++ l } done [] where
  log := h.log
  order := by simpa using (pairwise_append.1 h.order).1
  once := by
    refine List.Perm.trans ?_ h.once
    simp only [append_assoc, nil_append]
    exact (perm_append_comm.append_left _).append_left _
  busy := h.busy

theorem Serial.invoke (h : s.Serial done (m :: rest)) (hbusy : s.busy = false) :
    ∃ done', (s.invoke m (f m).outcome).Serial done' rest ∧
      ∀ d ∈ done', d ∈ done ∨ Ended f (m :: rest) d := by
  have hlog := h.log
  have horder := h.order
  have honce := h.once
  simp only [h.busy hbusy, Option.toList_none, append_nil, map_nil] at hlog horder honce
  have hended (ok : Bool) :
      Serial { s with log := s.log ++ .invoked m :: ending m ok } (done ++ [(m, ok)]) rest := by
    constructor <;> simp_all [h.busy hbusy]
  have hdone (ok : Bool) (ho : (f m).outcome = if ok then .returns else .throws) :
      ∀ d ∈ done ++ [(m, ok)], d ∈ done ∨ Ended f (m :: rest) d := by
    intro d hd
    refine (mem_snoc.1 hd).imp_right ?_
    rintro rfl
    exact ⟨mem_cons_self, ho⟩
  cases ho : (f m).outcome with
  | returns => exact ⟨_, hended true, hdone true ho⟩
  | throws => exact ⟨_, hended false, hdone false ho⟩
  | promise => exact ⟨done, by constructor <;> simp_all [Pump.invoke], fun d hd => .inl hd⟩

/-- The loop ends with an empty queue, or while a handler is in flight. -/
theorem Serial.drain (h : s.Serial done l) :
    ∃ done', (drain f l s).Serial done' (drain f l s).pending ∧
      ((drain f l s).busy = false → (drain f l s).pending = []) ∧
      ∀ d ∈ done', d ∈ done ∨ Ended f l d := by
  induction l generalizing s done with
  | nil => exact ⟨done, ⟨h.log, h.order, h.once, h.busy⟩, fun _ => rfl, fun d hd => .inl hd⟩
  | cons m rest ih =>
    unfold Pump.drain
    by_cases hbusy : s.busy = true
    · rw [if_pos hbusy]
      exact ⟨done, ⟨h.log, h.order, h.once, h.busy⟩, by simp [hbusy], fun d hd => .inl hd⟩
    · obtain ⟨done', h', hdone⟩ := h.invoke (f := f) (by simpa using hbusy)
      rw [if_neg hbusy]
      dsimp only
      split_ifs
      · exact ⟨done', h'.drop, fun _ => rfl, hdone⟩
      · obtain ⟨done'', h'', hwake, hdone'⟩ := ih h'
        refine ⟨done'', h'', hwake, fun d hd => ?_⟩
        rcases hdone' d hd with hd | ⟨hmem, ho⟩
        · exact hdone d hd
        · exact .inr ⟨mem_cons_of_mem m hmem, ho⟩

theorem WaitsAtReset.resets {a : Act} (h : WaitsAtReset m s a) : a.Resets := by
  cases a with
  | message f =>
    obtain ⟨-, -, k, -, -, -, hk, -⟩ := h
    exact ⟨k, hk⟩
  | settle ok => exact h.elim
  | resume f =>
    obtain ⟨-, k, -, -, -, hk, -⟩ := h
    exact ⟨k, hk⟩
  | resetSession => trivial

end Pump

end PulseRTC.Sdk
