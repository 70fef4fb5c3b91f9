import Mathlib.Data.Finset.Defs
import Mathlib.Data.List.Induction

/-!
# Runs of a step function

An interleaved system is a partial step function `step : σ → α → Option σ`: an action says which
party moves next (and how its environment answers), and `none` says that the action is not
enabled. A run is a list of actions; this module is what every later proof about runs uses.

* `run step s as` is the state after the actions `as`, executable, so a concrete run is a
  computation.
* `Along step G s as`: every action of the run is taken in a state where the condition `G` holds
  of state and action.

`run_invariant` is the invariant rule (the step keeps `I` under the condition `G`, so a run along
`G` keeps it), and `run_history` its form for an invariant that speaks about the run so far.
`MovesOne` is for systems of arbitrarily many parties whose steps each move one of them: a condition
on all parties can be looked up for those that the run names.
-/

namespace PulseRTC.Foundations

open List Option

theorem mem_snoc {α : Type*} {l : List α} {a x : α} : x ∈ l ++ [a] ↔ x ∈ l ∨ x = a := by
  rw [mem_append, mem_singleton]

/-- What is evaluated of an optional value, with what follows from it. -/
theorem exists_mem_and {α : Type*} {o : Option α} {P Q : α → Prop} (hP : ∃ a ∈ o, P a)
    (hQ : ∀ a ∈ o, P a → Q a) : ∃ a ∈ o, P a ∧ Q a := by
  obtain ⟨a, ha, h⟩ := hP
  exact ⟨a, ha, h, hQ a ha h⟩

variable {σ α : Type*} (step : σ → α → Option σ)

/-- The state after a list of actions; `none` once an action is not enabled. -/
def run : σ → List α → Option σ
  | s, [] => some s
  | s, a :: as => (step s a).bind fun s' => run s' as

@[simp] theorem run_nil (s : σ) : run step s [] = some s := rfl

@[simp] theorem run_cons (s : σ) (a : α) (as : List α) :
    run step s (a :: as) = (step s a).bind fun s' => run step s' as := rfl

variable {s s' t : σ} {as bs : List α} {a : α}

theorem run_cons_eq_some :
    run step s (a :: as) = some s' ↔ ∃ t, step s a = some t ∧ run step t as = some s' := by
  rw [run_cons, bind_eq_some_iff]

theorem run_append (s : σ) (as bs : List α) :
    run step s (as ++ bs) = (run step s as).bind fun s' => run step s' bs := by
  induction as generalizing s with
  | nil => rfl
  | cons a as ih =>
    cases h : step s a with
    | none => simp [h]
    | some t => simp [h, ih t]

theorem run_append_eq_some :
    run step s (as ++ bs) = some s' ↔ ∃ t, run step s as = some t ∧ run step t bs = some s' := by
  rw [run_append, bind_eq_some_iff]

theorem run_snoc_eq_some :
    run step s (as ++ [a]) = some s' ↔ ∃ t, run step s as = some t ∧ step t a = some s' := by
  rw [run_append_eq_some]
  refine exists_congr fun t => and_congr_right fun _ => ?_
  cases h : step t a <;> simp [h]

/-! ## Conditions along a run -/

/-- Every action is taken in a state where `G` holds of state and action. -/
def Along (G : σ → α → Prop) : σ → List α → Prop
  | _, [] => True
  | s, a :: as => G s a ∧ ∀ s', step s a = some s' → Along G s' as

instance decidableAlong (G : σ → α → Prop) [∀ s a, Decidable (G s a)] :
    ∀ (s : σ) (as : List α), Decidable (Along step G s as)
  | _, [] => isTrue trivial
  | s, a :: as =>
    match h : step s a with
    | none => decidable_of_iff (G s a) (by simp [Along, h])
    | some t =>
      have := decidableAlong G t as
      decidable_of_iff (G s a ∧ Along step G t as) (by simp [Along, h])

/-- Some action is taken in a state where `Q` holds of state and action. -/
def Sometime (Q : σ → α → Prop) (s : σ) (as : List α) : Prop :=
  ∃ pre a post t, as = pre ++ a :: post ∧ run step s pre = some t ∧ Q t a

/-- The run passes through a state where `P` holds. -/
def Passed (P : σ → Prop) (s : σ) (as : List α) : Prop :=
  ∃ pre post t, as = pre ++ post ∧ run step s pre = some t ∧ P t

variable {step} {G H Q : σ → α → Prop} {I P : σ → Prop}

theorem Along.append (h : Along step G s (as ++ bs)) :
    Along step G s as ∧ ∀ t, run step s as = some t → Along step G t bs := by
  induction as generalizing s with
  | nil =>
    refine ⟨trivial, ?_⟩
    intro t ht
    obtain rfl : s = t := some.inj ht
    exact h
  | cons a as ih =>
    refine ⟨⟨h.1, fun s' hs' => (ih (h.2 s' hs')).1⟩, ?_⟩
    intro t ht
    obtain ⟨s', hs', ht'⟩ := (run_cons_eq_some step).1 ht
    exact (ih (h.2 s' hs')).2 t ht'

theorem Along.snoc (h : Along step G s (as ++ [a])) :
    Along step G s as ∧ ∀ t, run step s as = some t → G t a :=
  ⟨h.append.1, fun t ht => (h.append.2 t ht).1⟩

theorem Along.of_forall (h : ∀ a ∈ as, ∀ t, G t a) : Along step G s as := by
  induction as generalizing s with
  | nil => trivial
  | cons a as ih =>
    exact ⟨h a mem_cons_self s, fun _ _ => ih fun b hb => h b (mem_cons_of_mem _ hb)⟩

theorem Along.and (hG : Along step G s as) (hH : Along step H s as) :
    Along step (fun s a => G s a ∧ H s a) s as := by
  induction as generalizing s with
  | nil => trivial
  | cons a as ih => exact ⟨⟨hG.1, hH.1⟩, fun s' hs' => ih (hG.2 s' hs') (hH.2 s' hs')⟩

/-- A condition that follows from another one in the states the run goes through. -/
theorem Along.of_invariant (hstep : ∀ s a s', I s → H s a → step s a = some s' → I s')
    (himp : ∀ s a, I s → H s a → G s a) (hI : I s) (h : Along step H s as) :
    Along step G s as := by
  induction as generalizing s with
  | nil => trivial
  | cons a as ih =>
    exact ⟨himp s a hI h.1, fun s' hs' => ih (hstep s a s' hI h.1 hs') (h.2 s' hs')⟩

theorem Sometime.extend (h : Sometime step Q s as) (a : α) : Sometime step Q s (as ++ [a]) := by
  obtain ⟨pre, b, post, t, rfl, ht, hQ⟩ := h
  exact ⟨pre, b, post ++ [a], t, by simp, ht, hQ⟩

theorem Sometime.last (ht : run step s as = some t) (hQ : Q t a) :
    Sometime step Q s (as ++ [a]) :=
  ⟨as, a, [], t, rfl, ht, hQ⟩

/-- An action of a longer run was taken before its last one, or is the last one. -/
theorem Sometime.snoc (h : Sometime step Q s (as ++ [a])) :
    Sometime step Q s as ∨ ∃ t, run step s as = some t ∧ Q t a := by
  obtain ⟨pre, b, post, t, heq, ht, hQ⟩ := h
  rcases eq_nil_or_concat post with rfl | ⟨post, c, rfl⟩
  · obtain ⟨rfl, rfl⟩ := append_singleton_inj.1 heq
    exact .inr ⟨t, ht, hQ⟩
  · rw [concat_eq_append, ← cons_append, ← append_assoc] at heq
    obtain ⟨rfl, -⟩ := append_singleton_inj.1 heq
    exact .inl ⟨pre, b, post, t, rfl, ht, hQ⟩

theorem Passed.extend (h : Passed step P s as) (a : α) : Passed step P s (as ++ [a]) := by
  obtain ⟨pre, post, t, rfl, ht, hP⟩ := h
  exact ⟨pre, post ++ [a], t, by simp, ht, hP⟩

theorem Passed.last (ht : run step s as = some t) (hP : P t) : Passed step P s as :=
  ⟨as, [], t, by simp, ht, hP⟩

/-! ## The invariant rules -/

/-- **The invariant rule**: what every step under the condition `G` keeps, a run along `G`
keeps. -/
theorem run_invariant (hstep : ∀ s a s', I s → G s a → step s a = some s' → I s') (hI : I s)
    (hG : Along step G s as) (h : run step s as = some s') : I s' := by
  induction as generalizing s with
  | nil =>
    obtain rfl : s = s' := some.inj h
    exact hI
  | cons a as ih =>
    obtain ⟨t, ht, hrun⟩ := (run_cons_eq_some step).1 h
    exact ih (hstep s a t hI hG.1 ht) (hG.2 t ht) hrun

/-- The invariant rule with no condition on the actions. -/
theorem run_invariant_always (hstep : ∀ s a s', I s → step s a = some s' → I s') (hI : I s)
    (h : run step s as = some s') : I s' := by
  refine run_invariant (G := fun _ _ => True) (fun s a s' hI _ => hstep s a s' hI) hI ?_ h
  exact Along.of_forall fun _ _ _ => trivial

variable {s₀ : σ} {J : List α → σ → Prop}

/-- **The history rule**: an invariant that also speaks about the actions taken so far. -/
theorem run_history (h₀ : J [] s₀)
    (hstep : ∀ as s a s', run step s₀ as = some s → J as s → G s a → step s a = some s' →
      J (as ++ [a]) s')
    (hG : Along step G s₀ as) (h : run step s₀ as = some s) : J as s := by
  induction as using reverseRecOn generalizing s with
  | nil =>
    obtain rfl : s₀ = s := some.inj h
    exact h₀
  | append_singleton as a ih =>
    obtain ⟨t, ht, hs⟩ := (run_snoc_eq_some step).1 h
    obtain ⟨hG', hGa⟩ := hG.snoc
    exact hstep as t a s ht (ih hG' ht) (hGa t ht) hs

/-- The history rule with no condition on the actions. -/
theorem run_history_always (h₀ : J [] s₀)
    (hstep : ∀ as s a s', run step s₀ as = some s → J as s → step s a = some s' → J (as ++ [a]) s')
    (h : run step s₀ as = some s) : J as s := by
  refine run_history (G := fun _ _ => True) h₀ (fun as s a s' hrun hJ _ => ?_) ?_ h
  · exact hstep as s a s' hrun hJ
  · exact Along.of_forall fun _ _ _ => trivial

/-! ## Parties -/

section Parties

variable {ι π : Type*} (step : σ → α → Option σ) (who : α → ι) (place : σ → ι → π)

/-- A step moves no party but its own. -/
def MovesOne : Prop :=
  ∀ s a s', step s a = some s' → ∀ i, i ≠ who a → place s' i = place s i

/-- The parties outside `ids` are all at the place `p`. -/
def Within (p : π) (ids : Finset ι) (s : σ) : Prop := ∀ i, i ∉ ids → place s i = p

variable {step who place} {p : π} {ids : Finset ι}

theorem MovesOne.step_within (hone : MovesOne step who place) (h : Within place p ids s)
    (ha : who a ∈ ids) (hstep : step s a = some s') : Within place p ids s' := by
  intro i hi
  have hne : i ≠ who a := fun heq => hi (heq ▸ ha)
  rw [hone s a s' hstep i hne]
  exact h i hi

theorem MovesOne.run_within (hone : MovesOne step who place) (h : Within place p ids s)
    (has : ∀ a ∈ as, who a ∈ ids) (hrun : run step s as = some s') : Within place p ids s' :=
  run_invariant (G := fun _ a => who a ∈ ids) (fun _ _ _ hs ha hst => hone.step_within hs ha hst) h
    (Along.of_forall fun a ha _ => has a ha) hrun

/-- A condition that can be looked up for the parties that move alone. -/
theorem MovesOne.along (hone : MovesOne step who place)
    (himp : ∀ s a, Within place p ids s → H s a → G s a) (hs : Within place p ids s)
    (h : Along step (fun s a => who a ∈ ids ∧ H s a) s as) : Along step G s as :=
  Along.of_invariant (fun _ _ _ hw ha hst => hone.step_within hw ha.1 hst)
    (fun s a hw ha => himp s a hw ha.2) hs h

end Parties

end PulseRTC.Foundations
