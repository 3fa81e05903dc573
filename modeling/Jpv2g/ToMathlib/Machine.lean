import Jpv2g.ToMathlib.Trace

/-!
# Event-Emitting Machines

A machine is a total step function on a state type that consumes one input and emits a list of
events. This file defines its runs and the two induction rules by which an invariant of one step
becomes an invariant of every run: unconditionally, and for the runs whose steps all meet a
condition on the state, the events emitted so far and the input.

## Main definitions

* `Machine.run m s is`: the final state and the events of the run of `m` from `s` on `is`.
* `Machine.Meets m C t s is`: every step of that run, after the events `t`, meets `C`.
* `Machine.count m b s is`: the number of steps of that run that satisfy `b`.
* `Machine.logged m`: the machine whose events are the steps of `m`.

## Main results

* `Machine.run_induction`: a step invariant holds after every run.
* `Machine.run_induction_of_meets`: a step invariant under `C` holds after every run meeting `C`.
* `Machine.justified_run_iff_meets`: the events of a run are justified exactly when its steps meet
  the condition that decides it step by step.
-/

/-- A machine with states `σ`, inputs `ι` and emitted events `ε`. -/
structure Machine (σ ι ε : Type*) where
  /-- Consume one input: the next state and the events emitted, oldest first. -/
  step : σ → ι → σ × List ε

namespace Machine

/-- One step of a run, with the states around it. -/
structure Step (σ ι ε : Type*) where
  before : σ
  input : ι
  events : List ε
  after : σ

variable {σ ι ε : Type*} (m : Machine σ ι ε)

/-- The final state and all events of a run. -/
def run (s : σ) : List ι → σ × List ε
  | [] => (s, [])
  | i :: is =>
    let next := m.step s i
    let rest := run next.1 is
    (rest.1, next.2 ++ rest.2)

/-- Every step of the run meets the condition `C` on the events so far, the state and the
input; the run starts after the events `t`. -/
def Meets (C : List ε → σ → ι → Prop) (t : List ε) (s : σ) : List ι → Prop
  | [] => True
  | i :: is => C t s i ∧ Meets C (t ++ (m.step s i).2) (m.step s i).1 is

instance {C : List ε → σ → ι → Prop} [∀ t s i, Decidable (C t s i)] :
    ∀ (t : List ε) (s : σ) (is : List ι), Decidable (m.Meets C t s is)
  | _, _, [] => inferInstanceAs (Decidable True)
  | t, s, i :: is =>
    have : Decidable (m.Meets C (t ++ (m.step s i).2) (m.step s i).1 is) :=
      instDecidableMeets _ _ is
    inferInstanceAs (Decidable (_ ∧ _))

/-- The number of steps of the run that satisfy `b`. -/
def count (b : σ → ι → Bool) (s : σ) : List ι → ℕ
  | [] => 0
  | i :: is => (b s i).toNat + count b (m.step s i).1 is

/-- The machine that logs its own steps. -/
def logged : Machine σ ι (Step σ ι ε) :=
  ⟨fun s i =>
    let next := m.step s i
    (next.1, [⟨s, i, next.2, next.1⟩])⟩

@[simp]
theorem logged_step (s : σ) (i : ι) :
    m.logged.step s i = ((m.step s i).1, [⟨s, i, (m.step s i).2, (m.step s i).1⟩]) := rfl

@[simp]
theorem run_nil (s : σ) : m.run s [] = (s, []) := rfl

theorem run_cons (s : σ) (i : ι) (is : List ι) :
    m.run s (i :: is) =
      ((m.run (m.step s i).1 is).1, (m.step s i).2 ++ (m.run (m.step s i).1 is).2) := rfl

/-- A run over two input lists is the run over the second from where the first ended. -/
theorem run_append (s : σ) (is js : List ι) :
    m.run s (is ++ js) =
      ((m.run (m.run s is).1 js).1, (m.run s is).2 ++ (m.run (m.run s is).1 js).2) := by
  induction is generalizing s with
  | nil => simp
  | cons i is ih => simp [run_cons, ih, List.append_assoc]

/-- The run over one more input. -/
theorem run_concat (s : σ) (is : List ι) (i : ι) :
    m.run s (is ++ [i]) =
      ((m.step (m.run s is).1 i).1, (m.run s is).2 ++ (m.step (m.run s is).1 i).2) := by
  rw [run_append]
  simp [run_cons]

/-- A condition on the inputs alone is met when every input meets it. -/
theorem meets_of_forall {C : ι → Prop} {t : List ε} {s : σ} {is : List ι} (h : ∀ i ∈ is, C i) :
    m.Meets (fun _ _ i => C i) t s is := by
  induction is generalizing t s with
  | nil => trivial
  | cons i is ih => exact ⟨h i (by simp), ih fun j hj => h j (by simp [hj])⟩

/-- What holds of every step holds of every step of a run. -/
theorem meets_of_step {C : List ε → σ → ι → Prop} (h : ∀ t s i, C t s i) {t : List ε} {s : σ}
    {is : List ι} : m.Meets C t s is := by
  induction is generalizing t s with
  | nil => trivial
  | cons i is ih => exact ⟨h t s i, ih⟩

/-- An invariant of the events and the state that every step meeting `C` preserves holds after
every run whose steps meet `C`. -/
theorem run_induction_of_meets {C : List ε → σ → ι → Prop} (Inv : List ε → σ → Prop)
    (hstep : ∀ t s i, Inv t s → C t s i → Inv (t ++ (m.step s i).2) (m.step s i).1)
    {t : List ε} {s : σ} (h₀ : Inv t s) {is : List ι} (hmeets : m.Meets C t s is) :
    Inv (t ++ (m.run s is).2) (m.run s is).1 := by
  -- along the inputs, for every trace and state the run may start from
  induction is generalizing t s with
  | nil => simpa using h₀
  | cons i is ih =>
    have := ih (hstep t s i h₀ hmeets.1) hmeets.2
    simpa [run_cons, List.append_assoc] using this

/-- An invariant of the events and the state that every step preserves holds after every run. -/
theorem run_induction (Inv : List ε → σ → Prop)
    (hstep : ∀ t s i, Inv t s → Inv (t ++ (m.step s i).2) (m.step s i).1)
    {t : List ε} {s : σ} (h₀ : Inv t s) (is : List ι) :
    Inv (t ++ (m.run s is).2) (m.run s is).1 :=
  m.run_induction_of_meets Inv (fun t s i hinv _ => hstep t s i hinv) h₀
    (m.meets_of_forall (C := fun _ => True) fun _ _ => trivial)

open Trace in
/-- The events of a run stay justified exactly when all its steps meet the condition, when under an
invariant the condition decides each step. -/
theorem justified_append_run_iff {C : List ε → σ → ι → Prop} {R : List ε → ε → Prop}
    (Inv : List ε → σ → Prop)
    (hstep : ∀ t s i, Inv t s → Inv (t ++ (m.step s i).2) (m.step s i).1)
    (hiff : ∀ t s i, Inv t s → Justified R t →
      (Justified R (t ++ (m.step s i).2) ↔ C t s i))
    {t : List ε} {s : σ} (h₀ : Inv t s) (ht : Justified R t) (is : List ι) :
    Justified R (t ++ (m.run s is).2) ↔ m.Meets C t s is := by
  induction is generalizing t s with
  | nil => simpa [Meets] using ht
  | cons i is ih =>
    rw [run_cons, ← List.append_assoc, Meets]
    constructor
    · intro hrun
      have hhead : Justified R (t ++ (m.step s i).2) := hrun.of_append
      exact ⟨(hiff t s i h₀ ht).mp hhead, (ih (hstep t s i h₀) hhead).mp hrun⟩
    · rintro ⟨hcond, hmeets⟩
      exact (ih (hstep t s i h₀) ((hiff t s i h₀ ht).mpr hcond)).mpr hmeets

open Trace in
/-- The events of a run from the start are justified exactly when all its steps meet the
condition. -/
theorem justified_run_iff_meets {C : List ε → σ → ι → Prop} {R : List ε → ε → Prop}
    (Inv : List ε → σ → Prop)
    (hstep : ∀ t s i, Inv t s → Inv (t ++ (m.step s i).2) (m.step s i).1)
    (hiff : ∀ t s i, Inv t s → Justified R t →
      (Justified R (t ++ (m.step s i).2) ↔ C t s i))
    {s : σ} (h₀ : Inv [] s) (is : List ι) :
    Justified R (m.run s is).2 ↔ m.Meets C [] s is := by
  have hrun := m.justified_append_run_iff Inv hstep hiff h₀ justified_nil is
  rwa [List.nil_append] at hrun

/-- When every step that satisfies `b` emits an event that satisfies `p`, a run has at most as many
such steps as events. -/
theorem count_le_countP {b : σ → ι → Bool} {p : ε → Bool}
    (h : ∀ s i, b s i = true → ∃ e ∈ (m.step s i).2, p e = true) (s : σ) (is : List ι) :
    m.count b s is ≤ (m.run s is).2.countP p := by
  induction is generalizing s with
  | nil => simp [count]
  | cons i is ih =>
    rw [run_cons, List.countP_append, count]
    refine Nat.add_le_add ?_ (ih _)
    cases hb : b s i with
    | false => exact Nat.zero_le _
    | true => exact List.countP_pos_iff.mpr (h s i hb)

end Machine
