import Jpv2g.Basic
import Jpv2g.ToMathlib.Loop
import Jpv2g.ToMathlib.Trace
import Mathlib.Algebra.BigOperators.Group.List.Basic
import Mathlib.Algebra.GroupWithZero.Nat

/-!
# When the Receive Loops Return

The receive loops of both sides (`secc_recv_bytes`, `evcc_recv_bytes`) on a transport that may
answer for ever, call by call: what they ask for, and whether they return.

## Main definitions

* `RecvPoll`, `RecvEvent`: what a turn meets, and what the loop does in it.
* `recvLoop`: the loop, of which `seccRecvLoop` and `evccRecvLoop` are the two instances.
* `AsksForMissing`: every call asks for exactly the bytes that are missing.
* `RecvVerdict`: the codes that a receive loop is to return, by what it has met.

## Main results

* `recvLoop_run_shift`: behind the first bytes, the loop does what it would do for the missing ones.
* `seccRecvLoop_waits_iff`: without a deadline the station's loop waits for the transport alone.
* `seccRecvLoop_returns_iff`: when the station's loop returns as it should.
* `evccRecvLoop_returns`: the vehicle's loop returns on a transport that has run dry.
-/

namespace Jpv2g

open Trace

/-! ## The loops -/

/-- What one turn of a receive loop meets. -/
structure RecvPoll where
  /-- The monotonic clock, in milliseconds, when the deadline is checked. -/
  nowMs : ℤ
  /-- What the transport returns: how many bytes it has, `0` when the peer has closed. -/
  answer : Except Errno ℕ

/-- What a receive loop does in a turn. -/
inductive RecvEvent where
  /-- It finds the deadline passed. -/
  | expired (nowMs : ℤ)
  /-- It asks the transport for `count` bytes behind the first `offset`, within a time. -/
  | asked (offset count : ℕ) (sliceMs : ℤ) (answer : Except Errno ℕ)

/-- The deadline, which only a positive timeout sets. -/
def recvDeadline (timeoutMs startMs : ℤ) : ℤ :=
  if 0 < timeoutMs then startMs + timeoutMs else 0

/-- The time a call of the transport is given. -/
def recvSlice (timeoutMs startMs nowMs : ℤ) : ℤ :=
  if 0 < timeoutMs then min (recvDeadline timeoutMs startMs - nowMs) 2147483647 else timeoutMs

/-- What the loop makes of an answer when it has `off` bytes. -/
def recvOutcome (again : Option Errno) (off : ℕ) : Except Errno ℕ → ℕ ⊕ Rc
  | .ok 0 => .inr (.error .econnreset)
  | .ok count => .inl (off + count)
  | .error .eagain =>
    match again with
    | none => .inl off
    | some e => .inr (.error e)
  | .error e => .inr (.error e)

/-- Receive `len` bytes; the state is the number of bytes received. `again` is what `-EAGAIN` ends
the loop with, `none` when the loop tries again. -/
def recvLoop (again : Option Errno) (timeoutMs startMs : ℤ) (len : ℕ) :
    Loop ℕ RecvPoll RecvEvent Rc where
  exit off := if off < len then none else some (.ok ())
  body off poll :=
    if 0 < timeoutMs ∧ recvDeadline timeoutMs startMs - poll.nowMs ≤ 0 then
      (.inr (.error .etimedout), [.expired poll.nowMs])
    else
      (recvOutcome again off poll.answer,
        [.asked off (len - off) (recvSlice timeoutMs startMs poll.nowMs) poll.answer])

/-- The station's loop (`secc_recv_bytes`) tries again until the deadline. -/
def seccRecvLoop : ℤ → ℤ → ℕ → Loop ℕ RecvPoll RecvEvent Rc :=
  recvLoop none

/-- The vehicle's loop (`evcc_recv_bytes`) takes `-EAGAIN` for the deadline. -/
def evccRecvLoop (timeoutMs : ℤ) : ℤ → ℕ → Loop ℕ RecvPoll RecvEvent Rc :=
  recvLoop (some (if 0 < timeoutMs then .etimedout else .eagain)) timeoutMs

section Loops

variable {again : Option Errno} {timeoutMs startMs : ℤ} {len : ℕ}

theorem recvLoop_exit_of_lt {off : ℕ} (h : off < len) :
    (recvLoop again timeoutMs startMs len).exit off = none :=
  if_pos h

theorem recvLoop_exit_of_le {off : ℕ} (h : len ≤ off) :
    (recvLoop again timeoutMs startMs len).exit off = some (.ok ()) :=
  if_neg (not_lt.mpr h)

theorem recvLoop_exit_eq_none {off : ℕ}
    (h : (recvLoop again timeoutMs startMs len).exit off = none) : off < len := by
  by_contra hnot
  rw [recvLoop_exit_of_le (not_lt.mp hnot)] at h
  cases h

/-- A turn behind the deadline. -/
theorem recvLoop_body_of_late {poll : RecvPoll}
    (h : 0 < timeoutMs ∧ recvDeadline timeoutMs startMs - poll.nowMs ≤ 0) (off : ℕ) :
    (recvLoop again timeoutMs startMs len).body off poll =
      (.inr (.error .etimedout), [.expired poll.nowMs]) :=
  if_pos h

/-- A turn before the deadline. -/
theorem recvLoop_body_of_inTime {poll : RecvPoll}
    (h : ¬(0 < timeoutMs ∧ recvDeadline timeoutMs startMs - poll.nowMs ≤ 0)) (off : ℕ) :
    (recvLoop again timeoutMs startMs len).body off poll =
      (recvOutcome again off poll.answer,
        [.asked off (len - off) (recvSlice timeoutMs startMs poll.nowMs) poll.answer]) :=
  if_neg h

end Loops

/-! ## What the loops ask for -/

/-- The bytes an answer of the transport brings. -/
def answeredBytes : Except Errno ℕ → ℕ
  | .ok count => count
  | .error _ => 0

/-- The bytes an event brings. -/
def RecvEvent.bytes : RecvEvent → ℕ
  | .expired _ => 0
  | .asked _ _ _ answer => answeredBytes answer

/-- The bytes received in the course of the events. -/
def receivedBytes (t : List RecvEvent) : ℕ := (t.map RecvEvent.bytes).sum

/-- After the events `t`, a call asks for exactly the bytes that are missing. -/
def RecvEvent.AsksForMissing (len : ℕ) (t : List RecvEvent) : RecvEvent → Prop
  | .expired _ => True
  | .asked offset count _ _ => offset = receivedBytes t ∧ offset + count = len

theorem receivedBytes_cons (e : RecvEvent) (t : List RecvEvent) :
    receivedBytes (e :: t) = e.bytes + receivedBytes t := by
  simp [receivedBytes]

theorem receivedBytes_concat (t : List RecvEvent) (e : RecvEvent) :
    receivedBytes (t ++ [e]) = receivedBytes t + e.bytes := by
  simp [receivedBytes]

/-- The same event, `count` bytes further on. -/
def RecvEvent.shift (count : ℕ) : RecvEvent → RecvEvent
  | .expired nowMs => .expired nowMs
  | .asked offset missing sliceMs answer => .asked (count + offset) missing sliceMs answer

/-- A loop that starts later has received no more. -/
theorem receivedBytes_shift (count : ℕ) (t : List RecvEvent) :
    receivedBytes (t.map (RecvEvent.shift count)) = receivedBytes t := by
  rw [receivedBytes, receivedBytes, List.map_map]
  congr 2
  funext e
  cases e <;> rfl

/-- A loop that starts later goes on later. -/
theorem recvOutcome_shift (again : Option Errno) (count off : ℕ) (answer : Except Errno ℕ) :
    recvOutcome again (count + off) answer = (recvOutcome again off answer).map (count + ·) id := by
  rcases answer with e | _ | n
  · cases e <;> first | rfl | (cases again <;> rfl)
  · rfl
  · exact congrArg Sum.inl (Nat.add_assoc count off (n + 1))

/-- Behind the first bytes, a loop does what it would do for the missing ones alone. -/
theorem recvLoop_run_shift (again : Option Errno) (timeoutMs startMs : ℤ) (len count off : ℕ)
    (polls : List RecvPoll) :
    (recvLoop again timeoutMs startMs len).run (count + off) polls =
      let rest := (recvLoop again timeoutMs startMs (len - count)).run off polls
      (rest.1.map (count + ·) id, rest.2.map (RecvEvent.shift count)) := by
  refine Loop.run_map (fun off => ?_) (fun off poll => ?_) off polls
  · have hmissing : count + off < len ↔ off < len - count := by omega
    simp only [recvLoop, hmissing]
  · by_cases hlate : 0 < timeoutMs ∧ recvDeadline timeoutMs startMs - poll.nowMs ≤ 0
    · rw [recvLoop_body_of_late hlate, recvLoop_body_of_late hlate]
      rfl
    · rw [recvLoop_body_of_inTime hlate, recvLoop_body_of_inTime hlate, recvOutcome_shift,
        Nat.sub_sub]
      rfl

/-- The codes a receive loop is to return, by what it has met. -/
inductive RecvVerdict (timeoutMs startMs : ℤ) (len : ℕ) : List RecvEvent → Rc → Prop where
  | complete {t : List RecvEvent} (h : len ≤ receivedBytes t) :
      RecvVerdict timeoutMs startMs len t (.ok ())
  | closed {t : List RecvEvent} {offset count : ℕ} {sliceMs : ℤ} :
      RecvVerdict timeoutMs startMs len (t ++ [.asked offset count sliceMs (.ok 0)])
        (.error .econnreset)
  | failed {t : List RecvEvent} {offset count : ℕ} {sliceMs : ℤ} {e : Errno} (he : e ≠ .eagain) :
      RecvVerdict timeoutMs startMs len (t ++ [.asked offset count sliceMs (.error e)]) (.error e)
  /-- The deadline has passed. -/
  | timedOut {t : List RecvEvent} {nowMs : ℤ} (h : 0 < timeoutMs)
      (hlate : startMs + timeoutMs ≤ nowMs) :
      RecvVerdict timeoutMs startMs len (t ++ [.expired nowMs]) (.error .etimedout)
  /-- There is no deadline, and nothing to receive. -/
  | idle {t : List RecvEvent} {e : Errno} (h : timeoutMs = 0)
      (he : e = .eagain ∨ e = .etimedout) :
      RecvVerdict timeoutMs startMs len t (.error e)

section Station

variable {timeoutMs startMs : ℤ} {len : ℕ}

/-- The transport ends the call by itself. -/
def RecvPoll.Ends (poll : RecvPoll) : Prop :=
  poll.answer = .ok 0 ∨ ∃ e, e ≠ .eagain ∧ poll.answer = .error e

/-- A poll that does not end the loop goes on behind its bytes. -/
theorem recvOutcome_of_not_ends {poll : RecvPoll} (h : ¬poll.Ends) (off : ℕ) :
    recvOutcome none off poll.answer = .inl (off + answeredBytes poll.answer) := by
  rw [RecvPoll.Ends, not_or] at h
  cases hanswer : poll.answer with
  | ok count =>
    cases count with
    | zero => exact absurd hanswer h.1
    | succ count => rfl
  | error e =>
    by_cases he : e = .eagain
    · subst he
      rfl
    · exact absurd ⟨e, he, hanswer⟩ h.2

/-- A turn of the station's loop finds the deadline passed, goes on with what the transport brings,
or returns because the transport has closed or failed. -/
theorem seccRecvLoop_body_cases (timeoutMs startMs : ℤ) (len off : ℕ) (poll : RecvPoll) :
    ((0 < timeoutMs ∧ startMs + timeoutMs ≤ poll.nowMs) ∧
        (seccRecvLoop timeoutMs startMs len).body off poll =
          (.inr (.error .etimedout), [.expired poll.nowMs])) ∨
      ∃ sliceMs,
        (¬poll.Ends ∧ (seccRecvLoop timeoutMs startMs len).body off poll =
          (.inl (off + answeredBytes poll.answer),
            [.asked off (len - off) sliceMs poll.answer])) ∨
        (poll.answer = .ok 0 ∧ (seccRecvLoop timeoutMs startMs len).body off poll =
          (.inr (.error .econnreset), [.asked off (len - off) sliceMs (.ok 0)])) ∨
        ∃ e, e ≠ .eagain ∧ poll.answer = .error e ∧
          (seccRecvLoop timeoutMs startMs len).body off poll =
            (.inr (.error e), [.asked off (len - off) sliceMs (.error e)]) := by
  -- the deadline is checked before the transport is asked
  by_cases hlate : 0 < timeoutMs ∧ recvDeadline timeoutMs startMs - poll.nowMs ≤ 0
  · have hdeadline : recvDeadline timeoutMs startMs = startMs + timeoutMs := if_pos hlate.1
    exact .inl ⟨⟨hlate.1, by omega⟩, recvLoop_body_of_late hlate off⟩
  · have hbody : (seccRecvLoop timeoutMs startMs len).body off poll =
        (recvOutcome none off poll.answer, _) := recvLoop_body_of_inTime hlate off
    refine .inr ⟨recvSlice timeoutMs startMs poll.nowMs, ?_⟩
    by_cases hends : poll.Ends
    · right
      rcases hends with hclosed | ⟨e, he, hfailed⟩
      · rw [hclosed] at hbody
        exact .inl ⟨hclosed, hbody⟩
      · rw [hfailed] at hbody
        refine .inr ⟨e, he, hfailed, hbody.trans ?_⟩
        cases e <;> first | rfl | exact absurd rfl he
    · rw [recvOutcome_of_not_ends hends] at hbody
      exact .inl ⟨hends, hbody⟩

/-- Every call of the station's loop asks for what is missing, and the loop returns by what it has
met. -/
theorem seccRecvLoop_spec (timeoutMs startMs : ℤ) (len : ℕ) (polls : List RecvPoll) :
    (seccRecvLoop timeoutMs startMs len).Outcome
      (fun t off => off = receivedBytes t ∧ Justified (RecvEvent.AsksForMissing len) t)
      (fun t rc => RecvVerdict timeoutMs startMs len t rc ∧
        Justified (RecvEvent.AsksForMissing len) t)
      ((seccRecvLoop timeoutMs startMs len).run 0 polls).2
      ((seccRecvLoop timeoutMs startMs len).run 0 polls).1 := by
  refine Loop.run_spec _ ?_ ?_ ?_ ⟨rfl, justified_nil⟩ polls
  -- the loop ends by itself when nothing is missing
  · rintro t off rc ⟨rfl, hasks⟩ hexit
    rcases Nat.lt_or_ge (receivedBytes t) len with hlt | hge
    · cases (recvLoop_exit_of_lt hlt).symm.trans hexit
    · obtain rfl := Option.some.inj ((recvLoop_exit_of_le hge).symm.trans hexit)
      exact ⟨.complete hge, hasks⟩
  -- a turn that goes on has received what it counts
  · rintro t off poll off' ⟨rfl, hasks⟩ hexit hbody
    have hlt := recvLoop_exit_eq_none hexit
    rcases seccRecvLoop_body_cases timeoutMs startMs len (receivedBytes t) poll with
      ⟨-, heq⟩ | ⟨sliceMs, ⟨-, heq⟩ | ⟨-, heq⟩ | ⟨e, -, -, heq⟩⟩ <;>
      rw [heq] at hbody ⊢ <;> cases hbody
    refine ⟨?_, hasks.concat ⟨rfl, by omega⟩⟩
    rw [receivedBytes_concat]
    rfl
  -- a turn that returns names its reason
  · rintro t off poll rc ⟨rfl, hasks⟩ hexit hbody
    have hlt := recvLoop_exit_eq_none hexit
    rcases seccRecvLoop_body_cases timeoutMs startMs len (receivedBytes t) poll with
      ⟨⟨hpos, hlate⟩, heq⟩ | ⟨sliceMs, ⟨-, heq⟩ | ⟨-, heq⟩ | ⟨e, he, -, heq⟩⟩ <;>
      rw [heq] at hbody ⊢ <;> cases hbody
    · exact ⟨.timedOut hpos hlate, hasks.concat trivial⟩
    · exact ⟨.closed, hasks.concat ⟨rfl, by omega⟩⟩
    · exact ⟨.failed he, hasks.concat ⟨rfl, by omega⟩⟩

/-! ## When the station's loop returns -/

/-- The bytes that the transport brings in a list of turns. -/
def deliveredBytes (polls : List RecvPoll) : ℕ :=
  (polls.map fun poll => answeredBytes poll.answer).sum

/-- The transport ends a call for `len` bytes by itself: it brings them, closes or fails. -/
def TransportEnds (len : ℕ) (polls : Stream' RecvPoll) : Prop :=
  ∃ n, len ≤ deliveredBytes (polls.take n) ∨ ∃ poll ∈ polls.take n, poll.Ends

/-- A transport that never has anything to deliver does not end a call. -/
theorem not_transportEnds_of_idle (hlen : 0 < len) {polls : Stream' RecvPoll}
    (hidle : ∀ n, (polls.get n).answer = .error .eagain) : ¬TransportEnds len polls := by
  -- as long as nothing comes, no byte is delivered and no poll ends the call
  have hquiet : ∀ n, deliveredBytes (polls.take n) = 0 ∧ ∀ poll ∈ polls.take n, ¬poll.Ends := by
    intro n
    induction n with
    | zero => exact ⟨rfl, by simp⟩
    | succ n ih =>
      have hlast : ¬(polls.get n).Ends := by
        rintro (hclosed | ⟨e, he, hfailed⟩)
        · cases (hidle n).symm.trans hclosed
        · cases (hidle n).symm.trans hfailed
          exact he rfl
      rw [Stream'.take_succ']
      constructor
      · have hbytes : answeredBytes (polls.get n).answer = 0 := by
          rw [hidle n]
          rfl
        rw [deliveredBytes, List.map_append, List.sum_append, List.map_singleton,
          List.sum_singleton, hbytes, Nat.add_zero]
        exact ih.1
      · intro poll hpoll
        rcases List.mem_append.mp hpoll with hpoll | hpoll
        · exact ih.2 poll hpoll
        · rwa [List.mem_singleton.mp hpoll]
  rintro ⟨n, hlen' | ⟨poll, hpoll, hends⟩⟩
  · rw [(hquiet n).1] at hlen'
    omega
  · exact (hquiet n).2 poll hpoll hends

/-- Without a deadline the station's loop waits for the transport alone. -/
theorem seccRecvLoop_waits_iff (htimeout : ¬0 < timeoutMs) (polls : List RecvPoll) (off : ℕ) :
    (∃ off', ((seccRecvLoop timeoutMs startMs len).run off polls).1 = .inl off') ↔
      off + deliveredBytes polls < len ∧ ∀ poll ∈ polls, ¬poll.Ends := by
  -- along the polls, as long as bytes are missing
  induction polls generalizing off with
  | nil =>
    rcases Nat.lt_or_ge off len with hlt | hge
    · have hexit : (seccRecvLoop timeoutMs startMs len).exit off = none := recvLoop_exit_of_lt hlt
      rw [Loop.run_nil, Loop.enter_of_not_exit hexit]
      exact iff_of_true ⟨off, rfl⟩ ⟨hlt, by simp⟩
    · have hexit : (seccRecvLoop timeoutMs startMs len).exit off = some (.ok ()) :=
        recvLoop_exit_of_le hge
      rw [Loop.run_of_exit _ hexit]
      exact iff_of_false (by simp) fun h => absurd h.1 (by omega)
  | cons poll polls ih =>
    have hdelivered : deliveredBytes (poll :: polls)
        = answeredBytes poll.answer + deliveredBytes polls := by
      simp [deliveredBytes]
    rw [hdelivered, List.forall_mem_cons]
    rcases Nat.lt_or_ge off len with hlt | hge
    · have hexit : (seccRecvLoop timeoutMs startMs len).exit off = none := recvLoop_exit_of_lt hlt
      rcases seccRecvLoop_body_cases timeoutMs startMs len off poll with
        ⟨⟨hpos, -⟩, -⟩ | ⟨sliceMs, ⟨hends, hbody⟩ | ⟨hclosed, hbody⟩ | ⟨e, he, hfailed, hbody⟩⟩
      · exact absurd hpos htimeout
      · rw [Loop.run_cons_of_goes _ hexit (congrArg Prod.fst hbody), ih, Nat.add_assoc]
        simp [hends]
      · rw [Loop.run_cons_of_returns _ hexit (congrArg Prod.fst hbody)]
        exact iff_of_false (by simp) fun h => h.2.1 (.inl hclosed)
      · rw [Loop.run_cons_of_returns _ hexit (congrArg Prod.fst hbody)]
        exact iff_of_false (by simp) fun h => h.2.1 (.inr ⟨e, he, hfailed⟩)
    · have hexit : (seccRecvLoop timeoutMs startMs len).exit off = some (.ok ()) :=
        recvLoop_exit_of_le hge
      rw [Loop.run_of_exit _ hexit]
      exact iff_of_false (by simp) fun h => absurd h.1 (by omega)

/-- Without a deadline the station's loop returns exactly when the transport ends the call. -/
theorem seccRecvLoop_returns_iff_ends (htimeout : ¬0 < timeoutMs) (polls : Stream' RecvPoll) :
    (∃ rc t, (seccRecvLoop timeoutMs startMs len).Returns 0 polls rc t) ↔
      TransportEnds len polls := by
  -- without a deadline the loop waits exactly as long as the transport has not ended the call
  have hwaits : ∀ n, (∃ off, ((seccRecvLoop timeoutMs startMs len).run 0 (polls.take n)).1
      = .inl off) ↔ ¬(len ≤ deliveredBytes (polls.take n) ∨ ∃ poll ∈ polls.take n, poll.Ends) := by
    intro n
    rw [seccRecvLoop_waits_iff htimeout, Nat.zero_add, not_or, not_le]
    push Not
    rfl
  constructor
  · rintro ⟨rc, t, n, hrun⟩
    refine ⟨n, ?_⟩
    by_contra hnot
    obtain ⟨off, hoff⟩ := (hwaits n).mpr hnot
    rw [hrun] at hoff
    cases hoff
  · rintro ⟨n, hends⟩
    rcases Loop.returns_or_waits (seccRecvLoop timeoutMs startMs len) 0 polls n
      with ⟨rc, t, hrun⟩ | ⟨off, t, hrun⟩
    · exact ⟨rc, t, n, hrun⟩
    · exact absurd hends ((hwaits n).mp ⟨off, congrArg Prod.fst hrun⟩)

/-- With a deadline the station's loop returns once the clock has passed it. -/
theorem seccRecvLoop_returns_of_deadline (htimeout : 0 < timeoutMs) {polls : Stream' RecvPoll}
    {n : ℕ} (hlate : startMs + timeoutMs ≤ (polls.get n).nowMs) :
    ∃ rc t, (seccRecvLoop timeoutMs startMs len).Returns 0 polls rc t := by
  have hdeadline : recvDeadline timeoutMs startMs = startMs + timeoutMs := if_pos htimeout
  refine Loop.exists_returns_of_turn (n := n) fun off _ => ⟨.error .etimedout, ?_⟩
  exact congrArg Prod.fst (recvLoop_body_of_late ⟨htimeout, by omega⟩ off)

/-- On every transport, with a clock that passes any bound: the station's loop returns with a code
that says what it has met, having asked for no byte twice, exactly when it has a deadline or the
transport ends the call. -/
theorem seccRecvLoop_returns_iff {polls : Stream' RecvPoll}
    (hclock : ∀ bound, ∃ n, bound ≤ (polls.get n).nowMs) :
    (∃ rc t, (seccRecvLoop timeoutMs startMs len).Returns 0 polls rc t ∧
        RecvVerdict timeoutMs startMs len t rc ∧ Justified (RecvEvent.AsksForMissing len) t) ↔
      0 < timeoutMs ∨ TransportEnds len polls := by
  -- a call that returns does so as it should
  have hverdict : (∃ rc t, (seccRecvLoop timeoutMs startMs len).Returns 0 polls rc t ∧
      RecvVerdict timeoutMs startMs len t rc ∧ Justified (RecvEvent.AsksForMissing len) t) ↔
      ∃ rc t, (seccRecvLoop timeoutMs startMs len).Returns 0 polls rc t := by
    refine exists_congr fun rc => exists_congr fun t => and_iff_left_of_imp ?_
    rintro ⟨n, hrun⟩
    have hspec := seccRecvLoop_spec timeoutMs startMs len (polls.take n)
    rw [hrun] at hspec
    exact hspec
  rw [hverdict]
  by_cases htimeout : 0 < timeoutMs
  · obtain ⟨n, hlate⟩ := hclock (startMs + timeoutMs)
    exact iff_of_true (seccRecvLoop_returns_of_deadline htimeout hlate) (.inl htimeout)
  · rw [seccRecvLoop_returns_iff_ends htimeout, or_iff_right htimeout]

end Station

/-- The vehicle's loop returns on a transport that has run dry, with or without a deadline. -/
theorem evccRecvLoop_returns {timeoutMs startMs : ℤ} {len n : ℕ} {polls : Stream' RecvPoll}
    (hdry : (polls.get n).answer = .error .eagain) :
    ∃ rc t, (evccRecvLoop timeoutMs startMs len).Returns 0 polls rc t := by
  refine Loop.exists_returns_of_turn (n := n) fun off _ => ?_
  by_cases hlate : 0 < timeoutMs ∧ recvDeadline timeoutMs startMs - (polls.get n).nowMs ≤ 0
  · exact ⟨_, congrArg Prod.fst (recvLoop_body_of_late hlate off)⟩
  · refine ⟨.error (if 0 < timeoutMs then .etimedout else .eagain), ?_⟩
    refine (congrArg Prod.fst (recvLoop_body_of_inTime hlate off)).trans ?_
    rw [hdry]
    rfl

/-- A transport that has nothing to deliver, under a clock that ticks once a turn. -/
def samplePolls : Stream' RecvPoll := fun n => { nowMs := n, answer := .error .eagain }

theorem samplePolls_nowMs (n : ℕ) : (samplePolls.get n).nowMs = n := rfl

theorem seccRecvLoop_returns_in_time :
    ∃ rc t, (seccRecvLoop 100 0 8).Returns 0 samplePolls rc t ∧
      RecvVerdict 100 0 8 t rc ∧ Justified (RecvEvent.AsksForMissing 8) t :=
  (seccRecvLoop_returns_iff fun bound => ⟨bound.toNat, by
    rw [samplePolls_nowMs]
    exact Int.self_le_toNat bound⟩).mpr (.inl (by decide))

/-- Without a deadline the station's loop asks an idle transport for ever. -/
theorem not_seccRecvLoop_returns :
    ¬∀ (timeoutMs startMs : ℤ) (len : ℕ) (polls : Stream' RecvPoll), 0 ≤ timeoutMs →
      (∃ n, ∀ m, n ≤ m → (polls.get m).answer = .error .eagain) →
      (∀ bound, ∃ n, ∀ m, n ≤ m → bound ≤ (polls.get m).nowMs) →
      ∃ rc t, (seccRecvLoop timeoutMs startMs len).Returns 0 polls rc t ∧
        RecvVerdict timeoutMs startMs len t rc ∧ Justified (RecvEvent.AsksForMissing len) t := by
  intro h
  have hclock : ∀ bound, ∃ n, ∀ m, n ≤ m → bound ≤ (samplePolls.get m).nowMs := by
    intro bound
    refine ⟨bound.toNat, fun m hm => ?_⟩
    rw [samplePolls_nowMs]
    omega
  obtain ⟨rc, t, hreturns, -⟩ := h 0 0 8 samplePolls (Int.le_refl 0) ⟨0, fun m _ => rfl⟩ hclock
  have hends := (seccRecvLoop_returns_iff_ends (by decide) samplePolls).mp ⟨rc, t, hreturns⟩
  exact not_transportEnds_of_idle (by decide) (fun _ => rfl) hends

end Jpv2g
