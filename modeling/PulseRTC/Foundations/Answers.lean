import Mathlib.Data.List.Basic

/-!
# Machines that answer

A sequential component is a machine that takes one input at a time, moves to a new state and
gives an answer. Two machines that are related by `R`, and whose answers agree exactly when a
condition `C` holds, give the same answers to a list of inputs exactly when `C` holds at every
one of them (`answers_eq_iff`). The condition may follow the inputs on a state of its own, the
record `g`.
-/

namespace PulseRTC.Foundations

variable {σ τ γ α β : Type*}

/-- The answers of a machine to a list of inputs. -/
def answers (exec : σ → α → σ × β) : σ → List α → List β
  | _, [] => []
  | s, a :: as => (exec s a).2 :: answers exec (exec s a).1 as

/-- The condition `C` holds at every input, with the record updated by `next`. -/
def AtEach (next : γ → α → γ) (C : γ → α → Prop) : γ → List α → Prop
  | _, [] => True
  | g, a :: as => C g a ∧ AtEach next C (next g a) as

/-- **Answers agree exactly as long as the condition holds.** -/
theorem answers_eq_iff {f : σ → α → σ × β} {h : τ → α → τ × β} {next : γ → α → γ}
    {C : γ → α → Prop} {R : σ → τ → γ → Prop}
    (hans : ∀ s t g a, R s t g → ((f s a).2 = (h t a).2 ↔ C g a))
    (hnext : ∀ s t g a, R s t g → R (f s a).1 (h t a).1 (next g a))
    {s : σ} {t : τ} {g : γ} (hR : R s t g) (as : List α) :
    answers f s as = answers h t as ↔ AtEach next C g as := by
  induction as generalizing s t g with
  | nil => simp [answers, AtEach]
  | cons a as ih =>
    simp only [answers, AtEach, List.cons.injEq]
    rw [hans s t g a hR, ih (hnext s t g a hR)]

end PulseRTC.Foundations
