import Jpv2g.ToMathlib.Machine
import Mathlib.Data.Stream.Init

/-!
# Loops That Wait for Their Inputs

A loop takes one input from outside each turn, and either goes on or returns. Its inputs may be
endless, and whether it ever returns is a question about them. This file defines loops as machines
that stop, with the rule for an invariant of the turns and its postcondition, and the rules by which
a loop on endless inputs returns.

## Main definitions

* `Loop.run l s is`: where the loop `l` entered in `s` stands after the inputs `is`.
* `Loop.Returns l s is r t`: on the endless inputs `is` the loop returns `r`, after the events `t`.

## Main results

* `Loop.run_append_of_returned`: a loop that has returned ignores further inputs.
* `Loop.run_map`: a loop that is another one seen through maps runs as that one does.
* `Loop.run_spec`: an invariant of the turns gives what holds when the loop returns.
* `Loop.exists_returns_of_turn`: a loop returns if some turn ends it from every state.
-/

/-- A loop with states `σ`, inputs `ι`, events `ε` and results `ρ`. -/
structure Loop (σ ι ε ρ : Type*) where
  /-- The test before each turn: the result when the loop is over. -/
  exit : σ → Option ρ
  /-- One turn: the next state or the result, and the events. -/
  body : σ → ι → (σ ⊕ ρ) × List ε

namespace Loop

variable {σ ι ε ρ : Type*} (l : Loop σ ι ε ρ)

/-- Arrive at the test of the loop. -/
def enter (s : σ) : σ ⊕ ρ :=
  match l.exit s with
  | some r => .inr r
  | none => .inl s

/-- The loop as a machine, which takes no notice of what comes after its return. -/
def machine : Machine (σ ⊕ ρ) ι ε :=
  ⟨fun
    | .inl s, i => ((l.body s i).1.elim l.enter .inr, (l.body s i).2)
    | .inr r, _ => (.inr r, [])⟩

/-- Where the loop stands after a list of inputs, waiting or returned, and the events so far. -/
def run (s : σ) (is : List ι) : (σ ⊕ ρ) × List ε := l.machine.run (l.enter s) is

/-- The loop returns on the endless inputs. -/
def Returns (s : σ) (is : Stream' ι) (r : ρ) (t : List ε) : Prop :=
  ∃ n, l.run s (is.take n) = (.inr r, t)

section Enter

variable {l} {s : σ}

/-- A loop that has nothing to do returns at once. -/
theorem enter_of_exit {r : ρ} (h : l.exit s = some r) : l.enter s = .inr r := by
  rw [enter, h]

/-- A loop that has something to do starts. -/
theorem enter_of_not_exit (h : l.exit s = none) : l.enter s = .inl s := by
  rw [enter, h]

end Enter

/-! ## Runs -/

@[simp]
theorem run_nil (s : σ) : l.run s [] = (l.enter s, []) := rfl

@[simp]
theorem machine_run_inr (r : ρ) (is : List ι) : l.machine.run (.inr r) is = (.inr r, []) := by
  induction is with
  | nil => rfl
  | cons i is ih =>
    rw [Machine.run_cons]
    change ((l.machine.run (.inr r) is).1, [] ++ (l.machine.run (.inr r) is).2) = _
    rw [ih, List.append_nil]

/-- A loop whose test is met at once takes no input. -/
theorem run_of_exit {s : σ} {r : ρ} (h : l.exit s = some r) (is : List ι) :
    l.run s is = (.inr r, []) := by
  rw [run, enter_of_exit h, machine_run_inr]

/-- A turn that goes on, before the rest of the run. -/
theorem run_cons_of_goes {s s' : σ} (h : l.exit s = none) {i : ι}
    (hbody : (l.body s i).1 = .inl s') (is : List ι) :
    l.run s (i :: is) = ((l.run s' is).1, (l.body s i).2 ++ (l.run s' is).2) := by
  rw [run, enter_of_not_exit h, Machine.run_cons]
  change ((l.machine.run ((l.body s i).1.elim l.enter .inr) is).1,
    (l.body s i).2 ++ (l.machine.run ((l.body s i).1.elim l.enter .inr) is).2) = _
  rw [hbody]
  rfl

/-- A turn that returns ends the run. -/
theorem run_cons_of_returns {s : σ} {r : ρ} (h : l.exit s = none) {i : ι}
    (hbody : (l.body s i).1 = .inr r) (is : List ι) :
    l.run s (i :: is) = (.inr r, (l.body s i).2) := by
  rw [run, enter_of_not_exit h, Machine.run_cons]
  change ((l.machine.run ((l.body s i).1.elim l.enter .inr) is).1,
    (l.body s i).2 ++ (l.machine.run ((l.body s i).1.elim l.enter .inr) is).2) = _
  rw [hbody, Sum.elim_inr, machine_run_inr, List.append_nil]

/-- A loop that has returned ignores further inputs. -/
theorem run_append_of_returned {s : σ} {is : List ι} {r : ρ} (h : (l.run s is).1 = .inr r)
    (js : List ι) : l.run s (is ++ js) = l.run s is := by
  rw [run, Machine.run_append]
  change ((l.machine.run (l.run s is).1 js).1,
    (l.run s is).2 ++ (l.machine.run (l.run s is).1 js).2) = _
  rw [h, machine_run_inr, List.append_nil, ← h]

/-- One more turn of a loop that waits. -/
theorem run_concat_of_waiting {s s' : σ} {is : List ι} {t : List ε}
    (h : l.run s is = (.inl s', t)) (i : ι) :
    l.run s (is ++ [i]) = ((l.body s' i).1.elim l.enter .inr, t ++ (l.body s' i).2) := by
  rw [run, Machine.run_concat]
  change ((l.machine.step (l.run s is).1 i).1,
    (l.run s is).2 ++ (l.machine.step (l.run s is).1 i).2) = _
  rw [h]
  rfl

/-- After inputs over which a loop waits, the run goes on from where it stands. -/
theorem run_append_of_waiting {s s' : σ} {is : List ι} (h : (l.run s is).1 = .inl s')
    (hexit : l.exit s' = none) (js : List ι) :
    l.run s (is ++ js) = ((l.run s' js).1, (l.run s is).2 ++ (l.run s' js).2) := by
  rw [run, Machine.run_append]
  change ((l.machine.run (l.run s is).1 js).1,
    (l.run s is).2 ++ (l.machine.run (l.run s is).1 js).2) = _
  have hrest : l.run s' js = l.machine.run (.inl s') js := by rw [run, enter_of_not_exit hexit]
  rw [h, hrest]

/-- A loop that has returned met its test, or a turn that returned while it was waiting. -/
theorem exists_turn_of_returned {s : σ} {is : List ι} {r : ρ} (h : (l.run s is).1 = .inr r) :
    (∃ s', l.exit s' = some r) ∨ ∃ before i after s', is = before ++ i :: after ∧
      (l.run s before).1 = .inl s' ∧ (l.body s' i).1 = .inr r := by
  induction is generalizing s with
  | nil =>
    left
    cases hexit : l.exit s with
    | some r' =>
      rw [run_nil, enter_of_exit hexit] at h
      exact ⟨s, Sum.inr.inj h ▸ hexit⟩
    | none =>
      rw [run_nil, enter_of_not_exit hexit] at h
      cases h
  | cons i is ih =>
    cases hexit : l.exit s with
    | some r' =>
      rw [l.run_of_exit hexit] at h
      exact .inl ⟨s, Sum.inr.inj h ▸ hexit⟩
    | none =>
      cases hbody : (l.body s i).1 with
      | inr r' =>
        rw [l.run_cons_of_returns hexit hbody] at h
        refine .inr ⟨[], i, is, s, rfl, ?_, hbody.trans h⟩
        rw [run_nil, enter_of_not_exit hexit]
      | inl s' =>
        rw [l.run_cons_of_goes hexit hbody] at h
        -- the turn is found in the rest of the run
        rcases ih h with htest | ⟨before, j, after, s'', rfl, hwaits, hreturns⟩
        · exact .inl htest
        · refine .inr ⟨i :: before, j, after, s'', rfl, ?_, hreturns⟩
          rw [l.run_cons_of_goes hexit hbody]
          exact hwaits

/-- A loop whose test and turns are those of another one, seen through a map of the states and of
the events, runs as that one does. -/
theorem run_map {σ' ε' : Type*} {l : Loop σ ι ε ρ} {l' : Loop σ' ι ε' ρ} {f : σ → σ'} {g : ε → ε'}
    (hexit : ∀ s, l'.exit (f s) = l.exit s)
    (hbody : ∀ s i, l'.body (f s) i = ((l.body s i).1.map f id, (l.body s i).2.map g)) (s : σ)
    (is : List ι) : l'.run (f s) is = ((l.run s is).1.map f id, (l.run s is).2.map g) := by
  -- along the inputs, until the test is met or a turn returns
  induction is generalizing s with
  | nil =>
    cases hx : l.exit s with
    | some r =>
      rw [run_nil, run_nil, enter_of_exit hx, enter_of_exit ((hexit s).trans hx)]
      rfl
    | none =>
      rw [run_nil, run_nil, enter_of_not_exit hx, enter_of_not_exit ((hexit s).trans hx)]
      rfl
  | cons i is ih =>
    have hturn := hbody s i
    cases hx : l.exit s with
    | some r =>
      rw [l.run_of_exit hx, l'.run_of_exit ((hexit s).trans hx)]
      rfl
    | none =>
      cases hnext : (l.body s i).1 with
      | inr r =>
        have hnext' : (l'.body (f s) i).1 = .inr r := by
          rw [hturn, hnext]
          rfl
        rw [l.run_cons_of_returns hx hnext, l'.run_cons_of_returns ((hexit s).trans hx) hnext',
          hturn]
        rfl
      | inl s' =>
        have hnext' : (l'.body (f s) i).1 = .inl (f s') := by
          rw [hturn, hnext]
          rfl
        rw [l.run_cons_of_goes hx hnext, l'.run_cons_of_goes ((hexit s).trans hx) hnext', ih, hturn,
          List.map_append]

/-- What holds of a loop that waits in a state satisfying `I`, or that has returned as `Q` says. -/
def Outcome (I : List ε → σ → Prop) (Q : List ε → ρ → Prop) (t : List ε) : σ ⊕ ρ → Prop
  | .inl s => l.exit s = none ∧ I t s
  | .inr r => Q t r

/-- The invariant decides what a loop ends with before its first turn. -/
theorem outcome_enter {I : List ε → σ → Prop} {Q : List ε → ρ → Prop}
    (hexit : ∀ t s r, I t s → l.exit s = some r → Q t r) {t : List ε} {s : σ} (h : I t s) :
    l.Outcome I Q t (l.enter s) := by
  cases hx : l.exit s with
  | some r =>
    rw [enter_of_exit hx]
    exact hexit t s r h hx
  | none =>
    rw [enter_of_not_exit hx]
    exact ⟨hx, h⟩

/-- An invariant of the turns, which the test and the turns that return turn into a postcondition,
holds along every run. -/
theorem run_spec {I : List ε → σ → Prop} {Q : List ε → ρ → Prop}
    (hexit : ∀ t s r, I t s → l.exit s = some r → Q t r)
    (hgo : ∀ t s i s', I t s → l.exit s = none → (l.body s i).1 = .inl s' →
      I (t ++ (l.body s i).2) s')
    (hreturn : ∀ t s i r, I t s → l.exit s = none → (l.body s i).1 = .inr r →
      Q (t ++ (l.body s i).2) r)
    {s : σ} (h₀ : I [] s) (is : List ι) :
    l.Outcome I Q (l.run s is).2 (l.run s is).1 := by
  refine l.machine.run_induction (t := []) (l.Outcome I Q) ?_ (l.outcome_enter hexit h₀) is
  rintro t (s | r) i h
  · obtain ⟨hx, hI⟩ := h
    change l.Outcome I Q (t ++ (l.body s i).2) ((l.body s i).1.elim l.enter .inr)
    cases hbody : (l.body s i).1 with
    | inl s' => exact l.outcome_enter hexit (hgo t s i s' hI hx hbody)
    | inr r => exact hreturn t s i r hI hx hbody
  · change l.Outcome I Q (t ++ []) (.inr r)
    rwa [List.append_nil]

/-! ## Endless inputs -/

section Returns

variable {l} {s : σ} {is : Stream' ι}

/-- What is returned is determined. -/
theorem Returns.unique {r r' : ρ} {t t' : List ε} (h : l.Returns s is r t)
    (h' : l.Returns s is r' t') : r = r' ∧ t = t' := by
  obtain ⟨n, hn⟩ := h
  obtain ⟨n', hn'⟩ := h'
  -- the longer prefix only adds inputs that are ignored
  have hgrow : ∀ {m k : ℕ} {q : ρ} {u : List ε}, l.run s (is.take m) = (.inr q, u) →
      l.run s (is.take (m + k)) = (.inr q, u) := by
    intro m k q u hm
    rw [Stream'.take_add, l.run_append_of_returned (by rw [hm]), hm]
  have heq : (Sum.inr r, t) = ((Sum.inr r', t') : (σ ⊕ ρ) × List ε) := by
    rw [← hgrow (k := n') hn, ← hgrow (k := n) hn', Nat.add_comm n n']
  exact ⟨Sum.inr.inj (congrArg Prod.fst heq), congrArg Prod.snd heq⟩

/-- After any number of turns the loop has returned or waits. -/
theorem returns_or_waits (l : Loop σ ι ε ρ) (s : σ) (is : Stream' ι) (n : ℕ) :
    (∃ r t, l.run s (is.take n) = (.inr r, t)) ∨ ∃ s' t, l.run s (is.take n) = (.inl s', t) := by
  rcases hrun : l.run s (is.take n) with ⟨s' | r, t⟩
  · exact .inr ⟨s', t, rfl⟩
  · exact .inl ⟨r, t, rfl⟩

/-- A loop returns if some turn ends it from every state in which it may wait. -/
theorem exists_returns_of_turn {n : ℕ}
    (h : ∀ s', l.exit s' = none → ∃ r, (l.body s' (is.get n)).1 = .inr r) :
    ∃ r t, l.Returns s is r t := by
  rcases returns_or_waits l s is n with ⟨r, t, hrun⟩ | ⟨s', t, hrun⟩
  · exact ⟨r, t, n, hrun⟩
  · -- the test has not been met by a loop that waits
    have hwaits := l.run_spec (I := fun _ _ => True) (Q := fun _ _ => True) (by simp) (by simp)
      (by simp) (s := s) trivial (is.take n)
    rw [hrun] at hwaits
    obtain ⟨r, hr⟩ := h s' hwaits.1
    refine ⟨r, t ++ (l.body s' (is.get n)).2, n + 1, ?_⟩
    rw [Stream'.take_succ', l.run_concat_of_waiting hrun, hr]
    rfl

end Returns

end Loop
