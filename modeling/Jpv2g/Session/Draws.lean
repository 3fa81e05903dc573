import Jpv2g.Session
import Jpv2g.ToMathlib.Loop
import Mathlib.Data.Nat.Find

/-!
# Session Identifiers from an Arbitrary Random Provider

The loop of `jpv2g_generate_session_id` on the endless answers of a random provider. It asks for
another draw as long as the last one is all-zero, and gives up on an identifier that differs from
the current one after the eighth draw.

## Main definitions

* `sessionIdLoop`: the loop, with the buffer it writes to.
* `Redraws`: the loop asks for another draw.
* `IssuesFresh`: the call fails as the provider did, or issues a new identifier.
* `Settles`, `RepeatsCurrent`: a draw that ends the call as it should, and one that may be returned
  in spite of being the current identifier.

## Main results

* `sessionIdLoop_run`: the loop computes `generateSessionId`.
* `sessionIdLoop_fresh_iff`: the providers for which the call returns and issues a new identifier.
-/

namespace Jpv2g

/-! ## The loop -/

/-- The loop of `jpv2g_generate_session_id`: its state is the number of draws, its events are the
draws, and it returns the code with what the buffer holds then. -/
def sessionIdLoop (current : Option Sid) (out : Sid) :
    Loop ℕ (Except Errno Sid) (Except Errno Sid) (Rc × Sid) where
  -- the condition stands behind the draw
  exit _ := none
  body attempts draw :=
    match draw with
    | .error e => (.inr (.error e, out), [draw])
    | .ok candidate =>
      if candidate.allZero ∨ current = some candidate ∧ attempts + 1 < 8 then
        (.inl (attempts + 1), [draw])
      else (.inr (.ok (), candidate), [draw])

/-- The code and the buffer when the call returns on a draw. -/
def sessionIdResult (out : Sid) : Except Errno Sid → Rc × Sid
  | .error e => (.error e, out)
  | .ok candidate => (.ok (), candidate)

/-- The loop asks for another draw. -/
def Redraws (current : Option Sid) (attempts : ℕ) : Except Errno Sid → Prop
  | .error _ => False
  | .ok candidate => candidate.allZero = true ∨ current = some candidate ∧ attempts + 1 < 8

instance (current : Option Sid) (attempts : ℕ) : ∀ draw, Decidable (Redraws current attempts draw)
  | .error _ => inferInstanceAs (Decidable False)
  | .ok _ => inferInstanceAs (Decidable (_ ∨ _))

section Draws

variable {current : Option Sid} {out : Sid} {draws : Stream' (Except Errno Sid)}

theorem sessionIdLoop_body (current : Option Sid) (out : Sid) (attempts : ℕ)
    (draw : Except Errno Sid) :
    (sessionIdLoop current out).body attempts draw =
      (if Redraws current attempts draw then .inl (attempts + 1)
        else .inr (sessionIdResult out draw), [draw]) := by
  cases draw with
  | error e => rfl
  | ok candidate =>
    by_cases hagain : Redraws current attempts (.ok candidate)
    · rw [if_pos hagain]
      exact if_pos hagain
    · rw [if_neg hagain]
      exact if_neg hagain

/-- One draw, and those after it when it is not taken. -/
theorem generateSessionId_cons (current : Option Sid) (attempts : ℕ) (draw : Except Errno Sid)
    (draws : List (Except Errno Sid)) :
    generateSessionId current attempts (draw :: draws) =
      if Redraws current attempts draw then generateSessionId current (attempts + 1) draws
      else some draw := by
  cases draw with
  | error e => rfl
  | ok candidate =>
    rw [generateSessionId]
    by_cases hagain : Redraws current attempts (.ok candidate)
    · rw [if_pos hagain]
      exact if_pos hagain
    · rw [if_neg hagain]
      exact if_neg hagain

/-- The loop computes `generateSessionId`, and writes the buffer on success. -/
theorem sessionIdLoop_run (current : Option Sid) (out : Sid) (attempts : ℕ)
    (draws : List (Except Errno Sid)) :
    ((sessionIdLoop current out).run attempts draws).1 =
      match generateSessionId current attempts draws with
      | none => .inl (attempts + draws.length)
      | some draw => .inr (sessionIdResult out draw) := by
  induction draws generalizing attempts with
  | nil => rfl
  | cons draw draws ih =>
    have hbody := congrArg Prod.fst (sessionIdLoop_body current out attempts draw)
    rw [generateSessionId_cons]
    by_cases hagain : Redraws current attempts draw
    · rw [if_pos hagain] at hbody ⊢
      rw [Loop.run_cons_of_goes _ rfl hbody, ih (attempts + 1), List.length_cons, ← Nat.add_assoc,
        Nat.add_right_comm]
    · rw [if_neg hagain] at hbody ⊢
      rw [Loop.run_cons_of_returns _ rfl hbody]

/-- The loop still draws exactly when every draw so far has been refused. -/
theorem sessionIdLoop_run_take {n : ℕ} (h : ∀ i < n, Redraws current i (draws.get i)) :
    (sessionIdLoop current out).run 0 (draws.take n) = (.inl n, draws.take n) := by
  induction n with
  | zero => rfl
  | succ n ih =>
    rw [Stream'.take_succ', Loop.run_concat_of_waiting _ (ih fun i hi => h i (by omega)),
      sessionIdLoop_body, if_pos (h n (by omega))]
    rfl

/-- The loop returns on the first draw that is not refused. -/
theorem sessionIdLoop_returns {n : ℕ} (h : ∀ i < n, Redraws current i (draws.get i))
    (hstop : ¬Redraws current n (draws.get n)) :
    (sessionIdLoop current out).Returns 0 draws (sessionIdResult out (draws.get n))
      (draws.take (n + 1)) := by
  refine ⟨n + 1, ?_⟩
  rw [Stream'.take_succ', Loop.run_concat_of_waiting _ (sessionIdLoop_run_take h),
    sessionIdLoop_body, if_neg hstop]
  rfl

/-- A call that returns has met a first draw that is not refused. -/
theorem exists_first_draw {result : Rc × Sid} {t : List (Except Errno Sid)}
    (h : (sessionIdLoop current out).Returns 0 draws result t) :
    ∃ n, (∀ i < n, Redraws current i (draws.get i)) ∧ ¬Redraws current n (draws.get n) ∧
      result = sessionIdResult out (draws.get n) ∧ t = draws.take (n + 1) := by
  have hex : ∃ n, ¬Redraws current n (draws.get n) := by
    by_contra hall
    push Not at hall
    obtain ⟨n, hn⟩ := h
    rw [sessionIdLoop_run_take fun i _ => hall i] at hn
    cases congrArg Prod.fst hn
  have hbefore : ∀ i < Nat.find hex, Redraws current i (draws.get i) :=
    fun i hi => not_not.mp (Nat.find_min hex hi)
  exact ⟨Nat.find hex, hbefore, Nat.find_spec hex,
    h.unique (sessionIdLoop_returns hbefore (Nat.find_spec hex))⟩

/-! ## Freshness -/

/-- The call fails with an error of the provider and leaves the buffer alone, or it issues an
identifier that is neither all-zero nor the current one. -/
def IssuesFresh (current : Option Sid) (out : Sid) (t : List (Except Errno Sid)) :
    Rc × Sid → Prop
  | (.error e, out') => .error e ∈ t ∧ out' = out
  | (.ok (), sid) => sid ≠ .zero ∧ current ≠ some sid

/-- The draw is an error, or an identifier that may be issued. -/
def Settles (current : Option Sid) : Except Errno Sid → Prop
  | .error _ => True
  | .ok sid => sid ≠ .zero ∧ current ≠ some sid

/-- The draw is the current identifier, and not all-zero. -/
def RepeatsCurrent (current : Option Sid) : Except Errno Sid → Prop
  | .error _ => False
  | .ok sid => sid ≠ .zero ∧ current = some sid

theorem Settles.not_redraws {draw : Except Errno Sid} (h : Settles current draw) (attempts : ℕ) :
    ¬Redraws current attempts draw := by
  cases draw with
  | error e => exact id
  | ok sid =>
    rintro (hzero | ⟨hcurrent, -⟩)
    · exact h.1 (Sid.allZero_iff.mp hzero)
    · exact h.2 hcurrent

/-- Returning a draw is what the call should do exactly when the draw settles it. -/
theorem issuesFresh_iff (n : ℕ) :
    IssuesFresh current out (draws.take (n + 1)) (sessionIdResult out (draws.get n)) ↔
      Settles current (draws.get n) := by
  have hmem : draws.get n ∈ draws.take (n + 1) := by
    rw [Stream'.take_succ']
    exact List.mem_append_right _ (List.mem_singleton_self _)
  cases hdraw : draws.get n with
  | error e =>
    rw [hdraw] at hmem
    exact iff_of_true ⟨hmem, rfl⟩ trivial
  | ok sid => rfl

/-- A draw that is refused after the eighth does not repeat the current identifier. -/
theorem Redraws.not_repeatsCurrent {n : ℕ} (hn : 7 ≤ n) {draw : Except Errno Sid}
    (h : Redraws current n draw) : ¬RepeatsCurrent current draw := by
  cases draw with
  | error e => exact id
  | ok sid =>
    rintro ⟨hne, -⟩
    rcases h with hzero | ⟨-, hlt⟩
    · exact hne (Sid.allZero_iff.mp hzero)
    · omega

/-- A draw that ends the loop without settling the call comes after the seventh and repeats the
current identifier. -/
theorem repeatsCurrent_of_not_settles {n : ℕ} {draw : Except Errno Sid}
    (hstop : ¬Redraws current n draw) (h : ¬Settles current draw) :
    7 ≤ n ∧ RepeatsCurrent current draw := by
  cases draw with
  | error e => exact absurd trivial h
  | ok sid =>
    rw [Redraws, not_or] at hstop
    have hne : sid ≠ .zero := fun hzero => hstop.1 (Sid.allZero_iff.mpr hzero)
    have hcurrent : current = some sid := by
      by_contra hother
      exact h ⟨hne, hother⟩
    refine ⟨?_, hne, hcurrent⟩
    have := not_and.mp hstop.2 hcurrent
    omega

/-- For every random provider and every current identifier: the call returns after finitely many
draws, with the provider's error and the buffer as it was or with an identifier that is neither
all-zero nor the current one, exactly when some draw settles it and no draw from the eighth on
repeats the current identifier before that. -/
theorem sessionIdLoop_fresh_iff (current : Option Sid) (out : Sid)
    (draws : Stream' (Except Errno Sid)) :
    (∃ result t, (sessionIdLoop current out).Returns 0 draws result t ∧
        IssuesFresh current out t result) ↔
      ∃ n, Settles current (draws.get n) ∧
        ∀ i < n, 7 ≤ i → ¬RepeatsCurrent current (draws.get i) := by
  constructor
  · rintro ⟨result, t, hreturns, hfresh⟩
    obtain ⟨n, hbefore, -, rfl, rfl⟩ := exists_first_draw hreturns
    refine ⟨n, (issuesFresh_iff n).mp hfresh, fun i hi hseven => ?_⟩
    exact (hbefore i hi).not_repeatsCurrent hseven
  · rintro ⟨n, hsettles, hrepeat⟩
    -- the loop returns on the first draw that is not refused, which is at most the `n`-th
    have hex : ∃ m, ¬Redraws current m (draws.get m) := ⟨n, hsettles.not_redraws n⟩
    have hfind : Nat.find hex ≤ n := Nat.find_min' hex (hsettles.not_redraws n)
    have hbefore : ∀ i < Nat.find hex, Redraws current i (draws.get i) :=
      fun i hi => not_not.mp (Nat.find_min hex hi)
    have hstop := Nat.find_spec hex
    refine ⟨_, _, sessionIdLoop_returns hbefore hstop, (issuesFresh_iff _).mpr ?_⟩
    by_contra hnot
    obtain ⟨hseven, hcurrent⟩ := repeatsCurrent_of_not_settles hstop hnot
    rcases Nat.lt_or_eq_of_le hfind with hlt | heq
    · exact hrepeat _ hlt hseven hcurrent
    · rw [heq] at hnot
      exact hnot hsettles

end Draws

/-- A provider that always draws the current identifier has it issued again at the eighth draw. -/
theorem not_sessionIdLoop_fresh :
    ¬∀ current out draws, ∃ result t,
      (sessionIdLoop current out).Returns 0 draws result t ∧ IssuesFresh current out t result := by
  intro h
  obtain ⟨result, t, hreturns, hfresh⟩ := h (some sampleSid) .zero (Stream'.const (.ok sampleSid))
  obtain ⟨n, -, -, rfl, rfl⟩ := exists_first_draw hreturns
  exact ((issuesFresh_iff n).mp hfresh).2 rfl

end Jpv2g
