import Jpv2g.SeccIso20.Contactor

/-!
# The SEQUENCE Timer of the ISO 15118-20 Module

Between the last answer and the next request at most sixty seconds may pass. The timer is stopped
by the receipt of every frame and armed again by an answer only, so that a frame that is not
answered leaves it stopped.

## Main definitions

* `lastAnswer`: when the last frame of a run was answered.
* `stoppedTimer`: a frame has been received since and not been answered.
* `SequenceLaw`: the law of the timer for one frame.

## Main results

* `timer_armed`: the deadline of a running session, from its history.
* `sequence_law_iff`: in every run of frames the law holds of the next one exactly when it is not
  a late request that finds the timer stopped.
-/

namespace Jpv2g

open Trace

/-- When the response of an answered frame had been produced. -/
def Event20.answeredAt : Event20 → Option ℕ
  | .frame f =>
    match f.result.rc with
    | .ok _ => some f.env.nowReply
    | .error _ => none
  | .reset => none

/-- The frame was received and not answered. -/
def Event20.isUnanswered : Event20 → Bool
  | .frame f =>
    match f.result.rc with
    | .ok _ => false
    | .error e => e == .ebadmsg
  | .reset => false

/-- When the last frame was answered, or the reset before all frames. -/
def lastAnswer (resetMs : ℕ) (t : List Event20) : ℕ :=
  (lastSome Event20.answeredAt t).getD resetMs

/-- A frame has been received since the last answer, and was not answered. -/
def stoppedTimer (t : List Event20) : Bool :=
  (sinceLast (fun e => e.answeredAt.isSome) t).any Event20.isUnanswered

/-- The frame carries a request. -/
def FrameInput20.carriesRequest (codec : Codec20) (input : FrameInput20) : Prop :=
  input.exi ≠ [] ∧
    ∃ doc, s20Decode codec input.payloadType input.exi = some doc ∧ doc.body.kind ≠ .none

/-- The frame arrives more than sixty seconds after the given time. -/
def FrameInput20.late (input : FrameInput20) (answeredMs : ℕ) : Prop :=
  answeredMs + Secc20.sequenceTimeoutMs < input.env.nowArrival

instance (input : FrameInput20) (answeredMs : ℕ) : Decidable (input.late answeredMs) :=
  inferInstanceAs (Decidable (_ < _))

/-- The law of the timer for a frame that meets a running session: a late request ends the session
without a response, and a frame in time never does. -/
structure SequenceLaw (codec : Codec20) (answeredMs : ℕ) (s : Secc20) (input : FrameInput20)
    (result : HandlerResult20) : Prop where
  late : s.state ≠ .ended → input.late answeredMs → input.carriesRequest codec →
    result.rc = .error .etimedout ∧ result.res = none ∧ result.session.state = .ended
  in_time : ¬input.late answeredMs → result.rc ≠ .error .etimedout

section Deadline

variable {s session : Secc20} {env : Env20} {body : Body20} {calls : List Call20}
  {code : ResponseCode20} {disposition : Disposition20}

/-- No handler arms the sequence timer. -/
theorem Handles.sequenceDeadlineMs_eq
    (h : Handles s env body session calls code disposition) :
    session.sequenceDeadlineMs = s.sequenceDeadlineMs := by
  cases h with
  | authorizationSelectionInvalid | authorizationExpired | authorizationRejected
  | authorizationPending => exact startEimTimer_sequenceDeadlineMs _
  | scheduleExchangeFailed => exact startSeTimer_sequenceDeadlineMs _
  | preCharge | welding => split <;> rfl
  | _ => rfl

end Deadline

/-- The deadline of a running session, from its history. -/
def TimerArmed (resetMs : ℕ) (t : List Event20) (s : Secc20) : Prop :=
  s.state ≠ .ended → s.sequenceDeadlineMs =
    if stoppedTimer t then 0 else lastAnswer resetMs t + Secc20.sequenceTimeoutMs

section Step

variable {codec : Codec20} {s s' session : Secc20} {env : Env20} {outCap : ℕ} {body : Body20}
  {calls : List Call20} {code : ResponseCode20} {disposition : Disposition20}
  {result : HandlerResult20}

/-- A frame that leaves the session running arms the timer with its answer, stops it, or is not
looked at. -/
inductive TimerStep (s : Secc20) (env : Env20) (result : HandlerResult20) : Prop
  | answered {bytes : List UInt8} (hrc : result.rc = .ok bytes)
      (harmed : result.session.sequenceDeadlineMs = env.nowReply + Secc20.sequenceTimeoutMs)
  | unanswered (hrc : result.rc = .error .ebadmsg)
      (hstopped : result.session.sequenceDeadlineMs = 0)
  | ignored (hrc : result.rc = .error .einval) (hsession : result.session = s)

/-- The termination rule arms the timer with an answer that leaves the session running. -/
theorem timerStep_conclude (hcarries : CarriesOut result session calls code disposition)
    (hreplies : Replies codec env outCap s' body result)
    (hstopped : session.sequenceDeadlineMs = 0)
    (hlive : (s20Conclude env result).session.state ≠ .ended) :
    TimerStep s env (s20Conclude env result) := by
  cases hrc : result.rc with
  | error e =>
    rw [s20Conclude_of_error hrc]
    refine .unanswered (by rw [hrc, hcarries.rc_error e hrc]) ?_
    rw [hcarries.session_eq]
    exact hstopped
  | ok bytes =>
    obtain ⟨hok, -, hdisposition, hsession⟩ := answers_of_ok env hcarries hreplies hrc
    rw [concludeSession] at hsession
    split_ifs at hsession
    · exact .answered hok (by rw [hsession])
    · exact absurd (by rw [hsession]) hlive

/-- Every frame that leaves the session running takes one of the steps. -/
theorem secc20HandleFrame_timer {payloadType : PayloadType} {exi : List UInt8}
    (hlive : (secc20HandleFrame codec env outCap s payloadType exi).session.state ≠ .ended) :
    TimerStep s env (secc20HandleFrame codec env outCap s payloadType exi) := by
  have hframe := receives codec env outCap s payloadType exi
  generalize secc20HandleFrame codec env outCap s payloadType exi = result at hframe hlive
  cases hframe with
  | empty => exact .ignored rfl rfl
  | ended _ hended => exact absurd hended hlive
  | expired => exact absurd rfl hlive
  | undecodable => exact .unanswered rfl rfl
  | unknownSession _ _ hkind | outOfSequence _ _ hkind =>
    exact timerStep_conclude (s20BuildRes_carriesOut hkind)
      (s20BuildRes_replies (s := s.received) rfl) rfl hlive
  | handled _ _ hadmits =>
    obtain ⟨session, calls, code, disposition, houtcome, hcarries⟩ :=
      handles_of_accepts codec env outCap s.received (s20StateAccepts_of_admits hadmits)
    exact timerStep_conclude hcarries (s20Handle_replies codec env outCap s.received _)
      houtcome.sequenceDeadlineMs_eq hlive

end Step

section Runs

variable {t : List Event20} {e : Event20} {resetMs : ℕ}

@[simp]
theorem lastAnswer_concat :
    lastAnswer resetMs (t ++ [e]) = e.answeredAt.getD (lastAnswer resetMs t) := by
  rw [lastAnswer, lastSome_concat, lastAnswer]
  cases e.answeredAt <;> rfl

@[simp]
theorem stoppedTimer_concat :
    stoppedTimer (t ++ [e]) =
      if e.answeredAt.isSome then false else stoppedTimer t || e.isUnanswered := by
  rw [stoppedTimer, sinceLast_concat, stoppedTimer]
  split_ifs <;> simp

/-- A session that a frame leaves running was running before. -/
theorem FrameOutcome.live {f : Frame20} (h : FrameOutcome f)
    (hlive : f.result.session.state ≠ .ended) : f.before.state ≠ .ended := by
  intro hended
  cases h with
  | rejected _ hsession =>
    obtain ⟨code, state, deadline, rfl | rfl, hafter⟩ := hsession <;> simp [hafter, hended] at hlive
  | handled _ hadmits =>
    simp [s20Admits, hended, s20StateAccepts] at hadmits

/-- Every frame keeps the deadline tied to the history. -/
theorem TimerArmed.frame {s : Secc20} (h : TimerArmed resetMs t s) (codec : Codec20)
    (input : FrameInput20) :
    TimerArmed resetMs
      (t ++ [.frame (secc20Frame codec input.env input.outCap s input.payloadType input.exi)])
      (secc20HandleFrame codec input.env input.outCap s input.payloadType input.exi).session := by
  intro hlive
  have houtcome := secc20Frame_outcome codec input.env input.outCap s input.payloadType input.exi
  have hbefore : s.state ≠ .ended := houtcome.live hlive
  rw [stoppedTimer_concat, lastAnswer_concat]
  cases secc20HandleFrame_timer hlive with
  | answered hrc harmed => simp [Event20.answeredAt, secc20Frame, hrc, harmed]
  | unanswered hrc hstopped =>
    simp [Event20.answeredAt, Event20.isUnanswered, secc20Frame, hrc, hstopped]
  | ignored hrc hsession =>
    rw [hsession, h hbefore]
    simp [Event20.answeredAt, Event20.isUnanswered, secc20Frame, hrc]

/-- After every run of frames from a reset, the deadline is sixty seconds past the last answer,
unless the timer has been stopped since. -/
theorem timer_armed (codec : Codec20) (s : Secc20) (resetMs : ℕ) (frames : List FrameInput20) :
    TimerArmed resetMs ((secc20Machine codec).run (s.reset resetMs) (frames.map .frame)).2
      ((secc20Machine codec).run (s.reset resetMs) (frames.map .frame)).1 := by
  have hframes : (secc20Machine codec).Meets (fun _ _ i => ∃ input, i = .frame input) []
      (s.reset resetMs) (frames.map .frame) := by
    apply (secc20Machine codec).meets_of_forall
    intro i hi
    obtain ⟨input, -, rfl⟩ := List.mem_map.mp hi
    exact ⟨input, rfl⟩
  refine (secc20Machine codec).run_induction_of_meets (TimerArmed resetMs) ?_
    (t := []) (fun _ => rfl) hframes
  rintro t s i hinv ⟨input, rfl⟩
  exact hinv.frame codec input

end Runs

/-! ## The law -/

section Law

variable (codec : Codec20) {s : Secc20} {input : FrameInput20}

/-- A frame gets `-ETIMEDOUT` exactly when it finds the timer of a running session expired. -/
theorem etimedout_iff :
    (secc20HandleFrame codec input.env input.outCap s input.payloadType input.exi).rc =
        .error .etimedout ↔
      input.exi ≠ [] ∧ s.state ≠ .ended ∧ s20SequenceExpired input.env s = true := by
  have hframe := receives codec input.env input.outCap s input.payloadType input.exi
  generalize secc20HandleFrame codec input.env input.outCap s input.payloadType input.exi =
    result at hframe
  -- a frame that is read is in time
  have hread : Reads input.env s input.exi →
      ¬(input.exi ≠ [] ∧ s.state ≠ .ended ∧ s20SequenceExpired input.env s = true) := by
    rintro hreads ⟨-, -, hexpired⟩
    exact absurd (hreads.in_time.symm.trans hexpired) (by simp)
  -- no other exit has this code
  cases hframe with
  | empty hexi => simp [unanswered, hexi]
  | ended _ hended => simp [unanswered, hended]
  | expired hexi hlive hexpired => simp [unanswered, hexi, hlive, hexpired]
  | undecodable hreads => exact iff_of_false (by simp [unanswered]) (hread hreads)
  | unknownSession hreads _ hkind | outOfSequence hreads _ hkind =>
    refine iff_of_false ?_ (hread hreads)
    intro hrc
    rw [s20Conclude_rc] at hrc
    cases (s20BuildRes_carriesOut hkind).rc_error _ hrc
  | handled hreads _ hadmits =>
    refine iff_of_false ?_ (hread hreads)
    intro hrc
    obtain ⟨_, _, _, _, -, hcarries⟩ := handles_of_accepts codec input.env input.outCap s.received
      (s20StateAccepts_of_admits hadmits)
    rw [s20Conclude_rc] at hrc
    cases hcarries.rc_error _ hrc

variable {codec} in
/-- An expired timer ends the session without a response. -/
theorem etimedout_effect
    (h : (secc20HandleFrame codec input.env input.outCap s input.payloadType input.exi).rc =
      .error .etimedout) :
    secc20HandleFrame codec input.env input.outCap s input.payloadType input.exi =
      unanswered { s with state := .ended } .etimedout := by
  obtain ⟨hexi, hlive, hexpired⟩ := (etimedout_iff codec).mp h
  rw [secc20HandleFrame, if_neg hexi, if_neg hlive, if_pos hexpired]
  rfl

end Law

/-- In every run of frames from a reset, the law holds of the next frame exactly when that frame is
not a late request to a running session which has left a frame unanswered since its last answer. -/
theorem sequence_law_iff (codec : Codec20) (s : Secc20) (resetMs : ℕ)
    (frames : List FrameInput20) (input : FrameInput20) :
    let run := (secc20Machine codec).run (s.reset resetMs) (frames.map .frame)
    SequenceLaw codec (lastAnswer resetMs run.2) run.1 input
        (secc20HandleFrame codec input.env input.outCap run.1 input.payloadType input.exi) ↔
      ¬(run.1.state ≠ .ended ∧ input.late (lastAnswer resetMs run.2) ∧
        input.carriesRequest codec ∧ stoppedTimer run.2 = true) := by
  intro run
  have harmed : TimerArmed resetMs run.2 run.1 := timer_armed codec s resetMs frames
  constructor
  -- a stopped timer lets a late frame through
  · rintro hlaw ⟨hlive, hlate, hcarries, hstopped⟩
    obtain ⟨hrc, -, -⟩ := hlaw.late hlive hlate hcarries
    obtain ⟨-, -, hexpired⟩ := (etimedout_iff codec).mp hrc
    simp [s20SequenceExpired, harmed hlive, hstopped] at hexpired
  · intro hnot
    refine ⟨fun hlive hlate hcarries => ?_, fun hintime hrc => ?_⟩
    -- a running timer has the deadline of the last answer
    · have hdeadline := harmed hlive
      rw [if_neg fun hstopped => hnot ⟨hlive, hlate, hcarries, hstopped⟩] at hdeadline
      have hexpired : s20SequenceExpired input.env run.1 = true := by
        rw [FrameInput20.late, Secc20.sequenceTimeoutMs] at hlate
        simp [s20SequenceExpired, hdeadline, hlate, Secc20.sequenceTimeoutMs]
      have hrc := (etimedout_iff codec).mpr ⟨hcarries.1, hlive, hexpired⟩
      rw [etimedout_effect hrc]
      exact ⟨rfl, rfl, rfl⟩
    · obtain ⟨-, hlive, hexpired⟩ := (etimedout_iff codec).mp hrc
      have hdeadline := harmed hlive
      rw [FrameInput20.late] at hintime
      rw [s20SequenceExpired, hdeadline] at hexpired
      split_ifs at hexpired
      · simp at hexpired
      · simp at hexpired
        omega

/-- The readings of the clock in a run of frames, oldest first. -/
def clockReadings (resetMs : ℕ) (frames : List FrameInput20) : List ℕ :=
  resetMs :: frames.flatMap fun input =>
    [input.env.nowArrival, input.env.nowHandler, input.env.nowReply]

/-- A frame of the sample session that arrives and is handled at the given time. -/
def sampleFrameAt (number : UInt8) (nowMs : ℕ) : FrameInput20 :=
  { sampleFrame .exi20Mainstream number with
    env := { sampleEnv20 with nowArrival := nowMs, nowHandler := nowMs, nowReply := nowMs } }

/-- An undecodable frame after fifty-nine seconds lets a SessionSetupReq be answered after two
hundred. -/
theorem not_sequence_law :
    ¬∀ (codec : Codec20) (s : Secc20) (resetMs : ℕ) (frames : List FrameInput20)
      (input : FrameInput20),
      (clockReadings resetMs (frames ++ [input])).Pairwise (· ≤ ·) →
      SequenceLaw codec
        (lastAnswer resetMs
          ((secc20Machine codec).run (s.reset resetMs) (frames.map .frame)).2)
        ((secc20Machine codec).run (s.reset resetMs) (frames.map .frame)).1 input
        (secc20HandleFrame codec input.env input.outCap
          ((secc20Machine codec).run (s.reset resetMs) (frames.map .frame)).1
          input.payloadType input.exi) := by
  intro h
  have hlaw := h sampleCodec20 (.init sampleConfig20) 0 [sampleFrameAt 9 59000]
    (sampleFrameAt 0 200000) (by decide)
  obtain ⟨hrc, -⟩ := hlaw.late (by decide) (by decide) ⟨by decide, _, rfl, by decide⟩
  cases hrc

end Jpv2g
