import Mathlib.Algebra.Order.Group.Multiset
import PulseRTC.Foundations.Runs

/-!
# Goroutines

A concurrent program as a pool of goroutines over a shared state. A goroutine is the list of
instructions it has still to execute; an instruction is one critical section or one atomic
operation, and leaves behind the instructions that come next. An event of the environment starts a
goroutine; which one moves, and how the environment answers it, is the choice of the schedule.

* `Pool.step` is the step function of such a pool, given what the events start (`launch`) and what
  the instructions do (`exec`).
* `Pool.pending` is everything that is still to be executed, by whichever goroutine: a multiset.
* `Pool.run_inv`: an invariant of the shared state and the pending instructions is kept by every
  schedule if every event and every instruction keeps it, under conditions on them (`Pool.Meets`).
-/

namespace PulseRTC.Foundations

open Multiset

/-- What is pending after an instruction: the ones it leaves behind, or what was. -/
theorem mem_new {ι : Type*} {new : List ι} {rest : Multiset ι} {j : ι} :
    j ∈ (new : Multiset ι) + rest ↔ j ∈ new ∨ j ∈ rest := by
  rw [mem_add, mem_coe]

/-- The shared state, and what each goroutine has still to execute. -/
@[ext] structure Pool (σ ι : Type*) where
  shared : σ
  tasks : List (List ι)

namespace Pool

/-- An event of the environment, or the next instruction of the goroutine `i`, which the environment
answers with `c`. -/
inductive Act (ω χ : Type*)
  | start (op : ω)
  | resume (i : ℕ) (c : χ)
  deriving DecidableEq

variable {σ ι ω χ : Type*}

/-- Everything that is still to be executed. -/
def pending (p : Pool σ ι) : Multiset ι := (p.tasks.flatten : Multiset ι)

/-- The next instruction of a goroutine. -/
def next (p : Pool σ ι) (i : ℕ) : Option ι := p.tasks[i]?.bind List.head?

/-- No goroutine has anything to do. -/
def Idle (p : Pool σ ι) : Prop := ∀ task ∈ p.tasks, task = []

instance [DecidableEq ι] (p : Pool σ ι) : Decidable p.Idle := inferInstanceAs (Decidable (∀ _, _))

variable (launch : σ → ω → Option (σ × List ι)) (exec : σ → ι → χ → Option (σ × List ι))

/-- The goroutine `i` executes its next instruction. -/
def advance (p : Pool σ ι) (i : ℕ) (c : χ) : Option (Pool σ ι) :=
  match p.tasks[i]? with
  | some (instr :: rest) =>
    (exec p.shared instr c).map fun out => ⟨out.1, p.tasks.set i (out.2 ++ rest)⟩
  | _ => none

def step (p : Pool σ ι) : Act ω χ → Option (Pool σ ι)
  | .start op => (launch p.shared op).map fun out => ⟨out.1, p.tasks ++ [out.2]⟩
  | .resume i c => p.advance exec i c

variable {p p' : Pool σ ι}

theorem Idle.pending_eq (h : p.Idle) : p.pending = 0 := by
  have hnil : p.tasks.flatten = [] := List.flatten_eq_nil_iff.2 h
  simp [pending, hnil]

variable {launch exec}

/-- An event adds the instructions of the goroutine it starts. -/
theorem step_start {op : ω} (h : step launch exec p (.start op) = some p') :
    ∃ code : List ι, launch p.shared op = some (p'.shared, code) ∧
      p'.pending = code + p.pending := by
  obtain ⟨⟨s, code⟩, hlaunch, rfl⟩ := Option.map_eq_some_iff.1 h
  refine ⟨code, hlaunch, ?_⟩
  simp only [pending, List.flatten_append, List.flatten_singleton, coe_add, coe_eq_coe]
  exact List.perm_append_comm

/-- An instruction is replaced by those that come next. -/
theorem step_resume {i : ℕ} {c : χ} (h : step launch exec p (.resume i c) = some p') :
    ∃ (instr : ι) (new : List ι) (rest : Multiset ι), p.next i = some instr ∧
      exec p.shared instr c = some (p'.shared, new) ∧ p.pending = instr ::ₘ rest ∧
        p'.pending = new + rest := by
  change p.advance exec i c = some p' at h
  unfold advance at h
  split at h
  · next instr rest htask =>
    obtain ⟨⟨s, new⟩, hexec, rfl⟩ := Option.map_eq_some_iff.1 h
    obtain ⟨hlt, hget⟩ := List.getElem?_eq_some_iff.1 htask
    -- the other goroutines are those before and those after it
    have hsplit : p.tasks = p.tasks.take i ++ (instr :: rest) :: p.tasks.drop (i + 1) := by
      rw [← hget, List.getElem_cons_drop, List.take_append_drop]
    have hflat : p.tasks.flatten = (p.tasks.take i).flatten ++
        instr :: (rest ++ (p.tasks.drop (i + 1)).flatten) := by
      conv_lhs => rw [hsplit]
      simp
    have hset : p.tasks.set i (new ++ rest) =
        p.tasks.take i ++ (new ++ rest) :: p.tasks.drop (i + 1) :=
      List.set_eq_take_cons_drop (new ++ rest) hlt
    refine ⟨instr, new, (((p.tasks.take i).flatten ++ (rest ++
      (p.tasks.drop (i + 1)).flatten) : List ι) : Multiset ι), ?_, hexec, ?_, ?_⟩
    · simp [next, htask]
    · rw [pending, hflat, cons_coe, coe_eq_coe]
      exact List.perm_middle
    · simp only [pending, hset, List.flatten_append, List.flatten_cons, coe_add,
        coe_eq_coe, List.append_assoc]
      exact List.perm_append_comm_assoc _ _ _
  · cases h

/-- A condition on a schedule: `S` holds of an event and the state it comes in, `E` of an
instruction, the answer to it and the state it is executed in. -/
def Meets (S : σ → Multiset ι → ω → Prop) (E : σ → Multiset ι → ι → χ → Prop) (p : Pool σ ι) :
    Act ω χ → Prop
  | .start op => S p.shared p.pending op
  | .resume i c => ∀ instr ∈ p.next i, E p.shared p.pending instr c

instance (S : σ → Multiset ι → ω → Prop) (E : σ → Multiset ι → ι → χ → Prop)
    [∀ s P op, Decidable (S s P op)] [∀ s P instr c, Decidable (E s P instr c)] (p : Pool σ ι) :
    ∀ a : Act ω χ, Decidable (Meets S E p a)
  | .start op => inferInstanceAs (Decidable (S p.shared p.pending op))
  | .resume _ _ => inferInstanceAs (Decidable (∀ _, _))

section Invariants

variable {I : σ → Multiset ι → Prop} {S : σ → Multiset ι → ω → Prop}
  {E : σ → Multiset ι → ι → χ → Prop}

variable {as : List (Act ω χ)}

/-- **The invariant rule for pools**, under a condition on the schedule. -/
theorem run_inv
    (hstart : ∀ s P op s' code, I s P → S s P op → launch s op = some (s', code) → I s' (code + P))
    (hexec : ∀ s instr rest c s' new, I s (instr ::ₘ rest) → E s (instr ::ₘ rest) instr c →
      exec s instr c = some (s', new) → I s' (new + rest))
    (hI : I p.shared p.pending) (hG : Along (step launch exec) (Meets S E) p as)
    (h : run (step launch exec) p as = some p') : I p'.shared p'.pending := by
  refine run_invariant (I := fun p : Pool σ ι => I p.shared p.pending) ?_ hI hG h
  intro p a p' hI hG hstep
  cases a with
  | start op =>
    obtain ⟨code, hlaunch, hpend⟩ := step_start hstep
    rw [hpend]
    exact hstart p.shared p.pending op p'.shared code hI hG hlaunch
  | resume i c =>
    obtain ⟨instr, new, rest, hnext, hex, hpend, hpend'⟩ := step_resume hstep
    have hE : E p.shared p.pending instr c := hG instr hnext
    rw [hpend] at hI hE
    rw [hpend']
    exact hexec p.shared instr rest c p'.shared new hI hE hex

/-- The invariant rule for pools, for every schedule. -/
theorem run_inv_always
    (hstart : ∀ s P op s' code, I s P → launch s op = some (s', code) → I s' (code + P))
    (hexec : ∀ s instr rest c s' new, I s (instr ::ₘ rest) →
      exec s instr c = some (s', new) → I s' (new + rest))
    (hI : I p.shared p.pending)
    (h : run (step launch exec) p as = some p') : I p'.shared p'.pending := by
  refine run_inv (S := fun _ _ _ => True) (E := fun _ _ _ _ => True)
    (fun s P op s' code hs _ => hstart s P op s' code hs)
    (fun s instr rest c s' new hs _ => hexec s instr rest c s' new hs) hI ?_ h
  refine Along.of_forall fun a _ p => ?_
  cases a with
  | start op => trivial
  | resume i c => exact fun _ _ => trivial

end Invariants

/-! ## One goroutine -/

/-- What stands behind the next instructions of the goroutines has `Q` if this is so of all that
events and instructions leave behind. -/
theorem run_tails {Q : ι → Prop} {as : List (Act ω χ)}
    (hstart : ∀ s op s' code, launch s op = some (s', code) → ∀ j ∈ code.tail, Q j)
    (hexec : ∀ s instr c s' new, exec s instr c = some (s', new) → ∀ j ∈ new.tail, Q j)
    (hp : ∀ task ∈ p.tasks, ∀ j ∈ task.tail, Q j)
    (h : run (step launch exec) p as = some p') : ∀ task ∈ p'.tasks, ∀ j ∈ task.tail, Q j := by
  refine run_invariant_always
    (I := fun p : Pool σ ι => ∀ task ∈ p.tasks, ∀ j ∈ task.tail, Q j) ?_ hp h
  intro p a p' hp hstep task htask j hj
  cases a with
  | start op =>
    obtain ⟨⟨s, code⟩, hlaunch, rfl⟩ := Option.map_eq_some_iff.1 hstep
    rcases mem_snoc.1 htask with htask | rfl
    · exact hp task htask j hj
    · exact hstart _ _ _ _ hlaunch j hj
  | resume i c =>
    change p.advance exec i c = some p' at hstep
    unfold advance at hstep
    split at hstep
    · next instr rest hi =>
      obtain ⟨⟨s, new⟩, hex, rfl⟩ := Option.map_eq_some_iff.1 hstep
      rcases List.mem_or_eq_of_mem_set htask with htask | rfl
      · exact hp task htask j hj
      · have hrest := hp _ (List.mem_of_getElem? hi)
        cases new with
        | nil => exact hrest j (List.mem_of_mem_tail hj)
        | cons k new =>
          rcases List.mem_append.1 hj with hj | hj
          · exact hexec _ _ _ _ _ hex j hj
          · exact hrest j hj
    · cases hstep

/-- A goroutine moves if its next instruction can be executed. -/
theorem step_isSome {i : ℕ} {instr : ι} {c : χ} (hnext : p.next i = some instr)
    (hex : (exec p.shared instr c).isSome) : (step launch exec p (.resume i c)).isSome := by
  obtain ⟨task, htask, hhead⟩ := Option.bind_eq_some_iff.1 hnext
  obtain ⟨rest, rfl⟩ := List.head?_eq_some_iff.1 hhead
  change (p.advance exec i c).isSome
  simpa [advance, htask] using hex

end Pool

/-! ## Counting pending instructions -/

section Tally

variable {ι α β : Type*} [DecidableEq α]

/-- How many instructions carry `a`, if `f` says what an instruction carries. -/
def tally (f : ι → Option α) (a : α) (P : Multiset ι) : ℕ := P.countP fun i => f i = some a

variable (f : ι → Option α) (a : α)

@[simp] theorem tally_zero : tally f a 0 = 0 := rfl

@[simp] theorem tally_singleton (i : ι) : tally f a {i} = if f i = some a then 1 else 0 := by
  rw [tally, ← cons_zero, countP_cons, countP_zero, Nat.zero_add]

@[simp] theorem tally_cons (i : ι) (P : Multiset ι) :
    tally f a (i ::ₘ P) = tally f a P + if f i = some a then 1 else 0 :=
  countP_cons _ i P

@[simp] theorem tally_add (P Q : Multiset ι) : tally f a (P + Q) = tally f a P + tally f a Q :=
  countP_add _ P Q

@[simp] theorem tally_coe_nil : tally f a (([] : List ι) : Multiset ι) = 0 := rfl

@[simp] theorem tally_coe_cons (i : ι) (l : List ι) :
    tally f a ((i :: l : List ι) : Multiset ι) =
      tally f a (l : Multiset ι) + if f i = some a then 1 else 0 :=
  tally_cons f a i l

@[simp] theorem tally_coe_append (l l' : List ι) :
    tally f a ((l ++ l' : List ι) : Multiset ι) =
      tally f a (l : Multiset ι) + tally f a (l' : Multiset ι) := by
  rw [← coe_add, tally_add]

variable {f a}

variable {P : Multiset ι}

theorem tally_eq_zero : tally f a P = 0 ↔ ∀ i ∈ P, f i ≠ some a :=
  countP_eq_zero

theorem tally_pos : 0 < tally f a P ↔ ∃ i ∈ P, f i = some a :=
  countP_pos

/-- One instruction for each element of a list. -/
theorem tally_coe_map {g : α → ι} (hg : ∀ b, f (g b) = some b) (l : List α) :
    tally f a ((l.map g : List ι) : Multiset ι) = l.count a := by
  induction l with
  | nil => rfl
  | cons b l ih =>
    rw [List.map_cons, tally_coe_cons, ih, hg, List.count_cons]
    simp only [Option.some.injEq, beq_iff_eq]

end Tally

end PulseRTC.Foundations
