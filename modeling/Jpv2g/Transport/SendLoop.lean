import Jpv2g.Basic
import Jpv2g.ToMathlib.Loop

/-!
# The Send Loops

The loops that write a buffer to a transport which may take it in pieces (`secc_send_bytes`,
`evcc_send_bytes`), call by call of the transport.

## Main definitions

* `SendPoll`, `SendCall`: what a turn meets, and the call of the transport it makes.
* `seccSendLoop`, `evccSendLoop`: the loops of the station and of the vehicle.
* `SendPoll.failure`: the code with which a turn must end the loop.
* `SendsExactly`: the loop neither drops nor repeats a byte, and fails when a turn does.

## Main results

* `seccSendLoop_spec`: every call is offered what the calls before it have left.
* `sendLoops_exact`: both loops send exactly, and the same on the same transport.
-/

namespace Jpv2g

open Trace

/-! ## The loops -/

/-- What one turn of a send loop meets. -/
structure SendPoll where
  /-- The monotonic clock, in milliseconds, when the deadline is checked. -/
  nowMs : ℤ
  /-- What the transport returns: how many bytes it claims to have taken. -/
  answer : Except Errno ℕ
  /-- The bytes really taken by a call that claims more than it was offered. -/
  overTaken : ℕ

/-- One call of the transport: what it is offered, and what it takes of that. -/
structure SendCall where
  offered : List UInt8
  taken : List UInt8
deriving DecidableEq, Repr

/-- The deadline, which only a positive timeout sets. -/
def sendDeadline (timeoutMs startMs : ℤ) : ℤ :=
  if 0 < timeoutMs then startMs + timeoutMs else 0

/-- The station's loop (`secc_send_bytes`); the state is the number of bytes sent. -/
def seccSendLoop (timeoutMs startMs : ℤ) (buf : List UInt8) : Loop ℕ SendPoll SendCall Rc where
  exit off := if off < buf.length then none else some (.ok ())
  body off poll :=
    if 0 < timeoutMs ∧ sendDeadline timeoutMs startMs ≤ poll.nowMs then
      (.inr (.error .etimedout), [])
    else
      let rest := buf.drop off
      match poll.answer with
      | .ok 0 => (.inr (.error .epipe), [⟨rest, []⟩])
      -- `EWOULDBLOCK` is `EAGAIN`
      | .error .eintr | .error .eagain => (.inl off, [⟨rest, []⟩])
      | .error e => (.inr (.error e), [⟨rest, []⟩])
      | .ok sent =>
        if buf.length - off < sent then (.inr (.error .eio), [⟨rest, rest.take poll.overTaken⟩])
        else (.inl (off + sent), [⟨rest, rest.take sent⟩])

/-- The vehicle's loop (`evcc_send_bytes`), on the plain or the TLS socket of the connection. -/
def evccSendLoop (timeoutMs startMs : ℤ) (buf : List UInt8) : Loop ℕ SendPoll SendCall Rc where
  exit off := if off < buf.length then none else some (.ok ())
  body off poll :=
    if 0 < timeoutMs ∧ sendDeadline timeoutMs startMs ≤ poll.nowMs then
      (.inr (.error .etimedout), [])
    else
      let rest := buf.drop off
      match poll.answer with
      | .ok 0 => (.inr (.error .epipe), [⟨rest, []⟩])
      | .error .eintr | .error .eagain => (.inl off, [⟨rest, []⟩])
      | .error e => (.inr (.error e), [⟨rest, []⟩])
      | .ok sent =>
        if buf.length - off < sent then (.inr (.error .eio), [⟨rest, rest.take poll.overTaken⟩])
        else (.inl (off + sent), [⟨rest, rest.take sent⟩])

/-- The two loops are maintained separately, and are the same. -/
theorem evccSendLoop_eq : evccSendLoop = seccSendLoop := rfl

/-- The bytes the transport has taken, in the order of the calls. -/
def takenBytes (t : List SendCall) : List UInt8 := t.flatMap SendCall.taken

/-- After the calls `t`, a call is offered exactly what they have left, and takes a first part. -/
structure SendCall.OffersRest (buf : List UInt8) (t : List SendCall) (call : SendCall) : Prop where
  offered : call.offered = buf.drop (takenBytes t).length
  taken : call.taken <+: call.offered

/-- The code with which a turn must end the loop, when `left` bytes are left to send: the deadline
has passed, or the transport fails for another reason than that it is to be called again, takes
nothing, or claims more than it was offered. -/
def SendPoll.failure (timeoutMs startMs : ℤ) (left : ℕ) (poll : SendPoll) : Option Errno :=
  if 0 < timeoutMs ∧ sendDeadline timeoutMs startMs ≤ poll.nowMs then some .etimedout
  else
    match poll.answer with
    | .error .eintr | .error .eagain => none
    | .error e => some e
    | .ok 0 => some .epipe
    | .ok sent => if left < sent then some .eio else none

/-- The loop waits after the turns before this one, which must end it with the code `e`. -/
structure FailsAt (l : Loop ℕ SendPoll SendCall Rc) (timeoutMs startMs : ℤ) (buf : List UInt8)
    (before : List SendPoll) (poll : SendPoll) (e : Errno) : Prop where
  waiting : ∃ off, (l.run 0 before).1 = .inl off
  failure : poll.failure timeoutMs startMs (buf.length - (takenBytes (l.run 0 before).2).length) =
    some e

/-- The loop sends the buffer exactly: all of it if it succeeds, and a first part of it otherwise,
with every call offered what is left, and nothing after the turn that ends it. -/
structure SendsExactly (l : Loop ℕ SendPoll SendCall Rc) (timeoutMs startMs : ℤ)
    (buf : List UInt8) (polls : List SendPoll) : Prop where
  complete : (l.run 0 polls).1 = .inr (.ok ()) → takenBytes (l.run 0 polls).2 = buf
  partially : takenBytes (l.run 0 polls).2 <+: buf
  offers : Justified (SendCall.OffersRest buf) (l.run 0 polls).2
  /-- The loop returns an error exactly when a turn must end it with that error. -/
  fails_iff : ∀ e, (l.run 0 polls).1 = .inr (.error e) ↔
    ∃ before poll after, polls = before ++ poll :: after ∧
      FailsAt l timeoutMs startMs buf before poll e
  /-- After the turns before the one that fails, that one makes at most one more call, which is the
  last. -/
  last : ∀ before poll after e, polls = before ++ poll :: after →
    FailsAt l timeoutMs startMs buf before poll e →
    ∃ calls, calls.length ≤ 1 ∧ (l.run 0 polls).2 = (l.run 0 before).2 ++ calls
  stops : ∀ rc, (l.run 0 polls).1 = .inr rc → ∀ more, l.run 0 (polls ++ more) = l.run 0 polls

section Send

variable {timeoutMs startMs : ℤ} {buf : List UInt8}

@[simp]
theorem takenBytes_concat (t : List SendCall) (call : SendCall) :
    takenBytes (t ++ [call]) = takenBytes t ++ call.taken := by
  simp [takenBytes]

theorem seccSendLoop_exit_of_lt {off : ℕ} (h : off < buf.length) :
    (seccSendLoop timeoutMs startMs buf).exit off = none :=
  if_pos h

theorem seccSendLoop_exit_of_le {off : ℕ} (h : buf.length ≤ off) :
    (seccSendLoop timeoutMs startMs buf).exit off = some (.ok ()) :=
  if_neg (not_lt.mpr h)

/-- The calls of one turn: none, or one that is offered the bytes, and takes a first part. -/
def OffersAtMostOnce (rest : List UInt8) (calls : List SendCall) : Prop :=
  calls = [] ∨ ∃ taken, taken <+: rest ∧ calls = [⟨rest, taken⟩]

/-- A turn that must end the loop does, after at most one call. Every other turn makes a call that
is offered the rest of the buffer, and goes on behind what was taken. -/
theorem seccSendLoop_body_cases (timeoutMs startMs : ℤ) (buf : List UInt8) (off : ℕ)
    (poll : SendPoll) :
    (∃ e calls, poll.failure timeoutMs startMs (buf.length - off) = some e ∧
        OffersAtMostOnce (buf.drop off) calls ∧
        (seccSendLoop timeoutMs startMs buf).body off poll = (.inr (.error e), calls)) ∨
      poll.failure timeoutMs startMs (buf.length - off) = none ∧
        ∃ taken, taken <+: buf.drop off ∧ (seccSendLoop timeoutMs startMs buf).body off poll =
          (.inl (off + taken.length), [⟨buf.drop off, taken⟩]) := by
  dsimp only [seccSendLoop, SendPoll.failure]
  split_ifs
  · exact .inl ⟨.etimedout, [], rfl, .inl rfl, rfl⟩
  · cases hanswer : poll.answer with
    | ok sent =>
      rcases sent with _ | sent
      · exact .inl ⟨.epipe, _, rfl, .inr ⟨[], List.nil_prefix, rfl⟩, rfl⟩
      · by_cases hover : buf.length - off < sent + 1
        · exact .inl ⟨.eio, [⟨buf.drop off, (buf.drop off).take poll.overTaken⟩], if_pos hover,
            .inr ⟨_, List.take_prefix _ _, rfl⟩, if_pos hover⟩
        · have hlen : ((buf.drop off).take (sent + 1)).length = sent + 1 := by
            rw [List.length_take, List.length_drop]
            omega
          refine .inr ⟨if_neg hover, _, List.take_prefix (sent + 1) _, ?_⟩
          rw [hlen]
          exact if_neg hover
    | error e =>
      have hcall : OffersAtMostOnce (buf.drop off) [⟨buf.drop off, []⟩] :=
        .inr ⟨[], List.nil_prefix, rfl⟩
      -- the transport is called again after `EINTR` and `EAGAIN`
      cases e
      case eintr | eagain => exact .inr ⟨rfl, [], List.nil_prefix, rfl⟩
      all_goals exact .inl ⟨_, _, rfl, hcall, rfl⟩

/-- A call that takes a first part of the rest takes the next bytes of the buffer. -/
theorem takenBytes_call {t : List SendCall} {off : ℕ} {taken : List UInt8}
    (htaken : takenBytes t = buf.take off) (hpart : taken <+: buf.drop off) :
    takenBytes (t ++ [⟨buf.drop off, taken⟩]) = buf.take (off + taken.length) := by
  rw [takenBytes_concat, htaken, List.take_add]
  congr 1
  exact List.prefix_iff_eq_take.mp hpart

/-- A call that is offered the buffer from where the loop stands is offered the rest. -/
theorem offersRest_call {t : List SendCall} {off : ℕ} {taken : List UInt8}
    (htaken : takenBytes t = buf.take off) (hoff : off ≤ buf.length)
    (hpart : taken <+: buf.drop off) : SendCall.OffersRest buf t ⟨buf.drop off, taken⟩ := by
  refine ⟨?_, hpart⟩
  rw [htaken, List.length_take, Nat.min_eq_left hoff]

/-- Along every run the bytes taken are the first part of the buffer up to where the loop stands,
each call having been offered the rest, and the loop succeeds only at its end. -/
theorem seccSendLoop_spec (timeoutMs startMs : ℤ) (buf : List UInt8) (polls : List SendPoll) :
    (seccSendLoop timeoutMs startMs buf).Outcome
      (fun t off => (takenBytes t = buf.take off ∧ off ≤ buf.length) ∧
        Justified (SendCall.OffersRest buf) t)
      (fun t rc => (takenBytes t <+: buf ∧ (rc = .ok () → takenBytes t = buf)) ∧
        Justified (SendCall.OffersRest buf) t)
      ((seccSendLoop timeoutMs startMs buf).run 0 polls).2
      ((seccSendLoop timeoutMs startMs buf).run 0 polls).1 := by
  refine Loop.run_spec _ ?_ ?_ ?_ ⟨⟨rfl, Nat.zero_le _⟩, justified_nil⟩ polls
  · rintro t off rc ⟨⟨htaken, hoff⟩, hjust⟩ hexit
    -- the loop is over at the end of the buffer
    have hall : takenBytes t = buf := by
      rcases Nat.lt_or_ge off buf.length with hlt | hge
      · cases (seccSendLoop_exit_of_lt hlt).symm.trans hexit
      · rw [htaken, List.take_of_length_le hge]
    exact ⟨⟨hall ▸ List.prefix_rfl, fun _ => hall⟩, hjust⟩
  · rintro t off poll off' ⟨⟨htaken, hoff⟩, hjust⟩ hexit hbody
    rcases seccSendLoop_body_cases timeoutMs startMs buf off poll with
      ⟨e, calls, -, -, heq⟩ | ⟨-, taken, hpart, heq⟩ <;> rw [heq] at hbody ⊢ <;> cases hbody
    have hlen := hpart.length_le
    rw [List.length_drop] at hlen
    exact ⟨⟨takenBytes_call htaken hpart, by omega⟩,
      hjust.concat (offersRest_call htaken hoff hpart)⟩
  · rintro t off poll rc ⟨⟨htaken, hoff⟩, hjust⟩ hexit hbody
    rcases seccSendLoop_body_cases timeoutMs startMs buf off poll with
      ⟨e, calls, -, honce, heq⟩ | ⟨-, taken, hpart, heq⟩ <;> rw [heq] at hbody ⊢ <;> cases hbody
    rcases honce with rfl | ⟨taken, hpart, rfl⟩
    · rw [List.append_nil, htaken]
      exact ⟨⟨List.take_prefix _ _, by simp⟩, hjust⟩
    · refine ⟨⟨?_, by simp⟩, hjust.concat (offersRest_call htaken hoff hpart)⟩
      rw [takenBytes_call htaken hpart]
      exact List.take_prefix _ _

/-- A loop that waits stands behind the bytes that have been taken. -/
theorem seccSendLoop_waiting {polls : List SendPoll} {off : ℕ}
    (h : ((seccSendLoop timeoutMs startMs buf).run 0 polls).1 = .inl off) :
    (seccSendLoop timeoutMs startMs buf).exit off = none ∧
      (takenBytes ((seccSendLoop timeoutMs startMs buf).run 0 polls).2).length = off := by
  have hspec := seccSendLoop_spec timeoutMs startMs buf polls
  rw [h] at hspec
  obtain ⟨hexit, ⟨htaken, hoff⟩, -⟩ := hspec
  refine ⟨hexit, ?_⟩
  rw [htaken, List.length_take, Nat.min_eq_left hoff]

/-- A turn that must end the loop does, and is the last one. -/
theorem seccSendLoop_of_failsAt {before : List SendPoll} {poll : SendPoll} {e : Errno}
    (h : FailsAt (seccSendLoop timeoutMs startMs buf) timeoutMs startMs buf before poll e)
    (after : List SendPoll) :
    ∃ calls, calls.length ≤ 1 ∧
      (seccSendLoop timeoutMs startMs buf).run 0 (before ++ poll :: after) =
        (.inr (.error e), ((seccSendLoop timeoutMs startMs buf).run 0 before).2 ++ calls) := by
  obtain ⟨off, hwaiting⟩ := h.waiting
  have hfailure := h.failure
  rw [(seccSendLoop_waiting hwaiting).2] at hfailure
  rcases seccSendLoop_body_cases timeoutMs startMs buf off poll with
    ⟨e', calls, hfailure', honce, hbody⟩ | ⟨hnone, -⟩
  · cases hfailure.symm.trans hfailure'
    refine ⟨calls, ?_, ?_⟩
    · rcases honce with rfl | ⟨taken, -, rfl⟩ <;> simp
    · rw [Loop.run_append_of_waiting _ hwaiting (seccSendLoop_waiting hwaiting).1,
        Loop.run_cons_of_returns _ (seccSendLoop_waiting hwaiting).1 (congrArg Prod.fst hbody),
        hbody]
  · cases hfailure.symm.trans hnone

/-- The loop returns an error only when a turn must end it with that error. -/
theorem seccSendLoop_failsAt_of_error {polls : List SendPoll} {e : Errno}
    (h : ((seccSendLoop timeoutMs startMs buf).run 0 polls).1 = .inr (.error e)) :
    ∃ before poll after, polls = before ++ poll :: after ∧
      FailsAt (seccSendLoop timeoutMs startMs buf) timeoutMs startMs buf before poll e := by
  rcases Loop.exists_turn_of_returned _ h with ⟨off, hexit⟩ | ⟨before, poll, after, off, hpolls,
    hwaiting, hbody⟩
  · -- the test of the loop is met at the end of the buffer, with success
    dsimp only [seccSendLoop] at hexit
    split_ifs at hexit
    cases hexit
  · refine ⟨before, poll, after, hpolls, ⟨off, hwaiting⟩, ?_⟩
    rw [(seccSendLoop_waiting hwaiting).2]
    rcases seccSendLoop_body_cases timeoutMs startMs buf off poll with
      ⟨e', calls, hfailure, -, heq⟩ | ⟨-, taken, -, heq⟩ <;> rw [heq] at hbody <;> cases hbody
    exact hfailure

theorem seccSendLoop_sendsExactly (polls : List SendPoll) :
    SendsExactly (seccSendLoop timeoutMs startMs buf) timeoutMs startMs buf polls := by
  have hspec := seccSendLoop_spec timeoutMs startMs buf polls
  have hsent : takenBytes ((seccSendLoop timeoutMs startMs buf).run 0 polls).2 <+: buf ∧
      Justified (SendCall.OffersRest buf) ((seccSendLoop timeoutMs startMs buf).run 0 polls).2 := by
    rcases hrun : (seccSendLoop timeoutMs startMs buf).run 0 polls with ⟨off | rc, t⟩ <;>
      rw [hrun] at hspec
    · obtain ⟨-, ⟨htaken, -⟩, hjust⟩ := hspec
      exact ⟨htaken ▸ List.take_prefix _ _, hjust⟩
    · exact ⟨hspec.1.1, hspec.2⟩
  refine ⟨?_, hsent.1, hsent.2, fun e => ⟨seccSendLoop_failsAt_of_error, ?_⟩, ?_, ?_⟩
  · intro hok
    rw [hok] at hspec
    exact hspec.1.2 rfl
  · rintro ⟨before, poll, after, rfl, hfails⟩
    obtain ⟨calls, -, hrun⟩ := seccSendLoop_of_failsAt hfails after
    rw [hrun]
  · rintro before poll after e rfl hfails
    obtain ⟨calls, honce, hrun⟩ := seccSendLoop_of_failsAt hfails after
    exact ⟨calls, honce, by rw [hrun]⟩
  · intro rc hrc more
    exact Loop.run_append_of_returned _ hrc more

end Send

/-- For every buffer, every clock and every transport: each of the two loops succeeds only when the
transport has taken exactly the buffer, has otherwise had a first part of it taken, fails exactly
when the deadline passes or the transport fails, with the code of that failure, and offers nothing
after it; and the two do the same. -/
theorem sendLoops_exact (timeoutMs startMs : ℤ) (buf : List UInt8) (polls : List SendPoll) :
    SendsExactly (seccSendLoop timeoutMs startMs buf) timeoutMs startMs buf polls ∧
      SendsExactly (evccSendLoop timeoutMs startMs buf) timeoutMs startMs buf polls ∧
      (evccSendLoop timeoutMs startMs buf).run 0 polls =
        (seccSendLoop timeoutMs startMs buf).run 0 polls := by
  have hsecc : SendsExactly (seccSendLoop timeoutMs startMs buf) timeoutMs startMs buf polls :=
    seccSendLoop_sendsExactly polls
  rw [evccSendLoop_eq]
  exact ⟨hsecc, hsecc, rfl⟩

end Jpv2g
