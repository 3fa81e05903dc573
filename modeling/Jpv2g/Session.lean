import Jpv2g.Basic

/-!
# Session Identifier Generation

The loop that draws candidate identifiers from the random provider (`session.c`). The provider is
the list of its answers; a list that ends before the loop returns stands for a call that has not
returned.

## Main results

* `generateSessionId_ne_zero`: a generated identifier is never all-zero.
-/

namespace Jpv2g

/-- Draw candidates until one is neither all-zero nor, in the first eight draws, the current
identifier (`jpv2g_generate_session_id`). `attempts` counts the draws made before; the result is
`none` while the loop is still drawing. -/
def generateSessionId (current : Option Sid) (attempts : ℕ) :
    List (Except Errno Sid) → Option (Except Errno Sid)
  | [] => none
  | .error e :: _ => some (.error e)
  | .ok candidate :: draws =>
    if candidate.allZero ∨ current = some candidate ∧ attempts + 1 < 8 then
      generateSessionId current (attempts + 1) draws
    else some (.ok candidate)

/-- A generated identifier is not all-zero. -/
theorem generateSessionId_ne_zero {current : Option Sid} {attempts : ℕ}
    {draws : List (Except Errno Sid)} {sid : Sid}
    (h : generateSessionId current attempts draws = some (.ok sid)) : sid ≠ Sid.zero := by
  -- the loop is the recursion over the draws, and only the last one is returned
  induction draws generalizing attempts with
  | nil => simp [generateSessionId] at h
  | cons draw draws ih =>
    cases draw with
    | error e => simp [generateSessionId] at h
    | ok candidate =>
      unfold generateSessionId at h
      split_ifs at h with hagain
      · exact ih h
      · simp only [Option.some.injEq, Except.ok.injEq] at h
        rw [not_or, Bool.not_eq_true, Sid.allZero_eq_false_iff] at hagain
        exact h ▸ hagain.1

/-- The answers of the random provider to one call without a current identifier that
returns. -/
structure RngCall where
  draws : List (Except Errno Sid)
  /-- The call returns. -/
  returns : (generateSessionId none 0 draws).isSome = true

/-- What the call returns. -/
def RngCall.result (rng : RngCall) : Except Errno Sid :=
  (generateSessionId none 0 rng.draws).get rng.returns

/-- A call that succeeds returns an identifier that is not all-zero. -/
theorem RngCall.result_ne_zero {rng : RngCall} {sid : Sid} (h : rng.result = .ok sid) :
    sid ≠ Sid.zero :=
  generateSessionId_ne_zero (Option.eq_some_of_isSome rng.returns ▸ congrArg some h)

/-- The identifier of the sample sessions. -/
def sampleSid : Sid := ⟨[1, 2, 3, 4, 5, 6, 7, 8], rfl⟩

/-- A random provider that draws the sample identifier. -/
def sampleRng : RngCall := ⟨[.ok sampleSid], rfl⟩

end Jpv2g
