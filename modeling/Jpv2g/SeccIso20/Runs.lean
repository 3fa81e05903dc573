import Jpv2g.SeccIso20.Receipt
import Jpv2g.ToMathlib.Machine
import Jpv2g.ToMathlib.Trace

/-!
# Runs of the ISO 15118-20 Module

The module as a machine: frames with arbitrary contents, clocks and hook answers, and resets, in
any order. The events of a run record each frame with the request it handed to a handler.

## Main definitions

* `handledRequest`: the request a frame hands to its handler.
* `FrameOutcome`: what a frame can do.
* `secc20Machine`: the machine.

## Main results

* `secc20Frame_outcome`: a frame leaves the session as it was, or with its admitted request
  handled, up to the bookkeeping of the response and a possible end of the session.
* `secc20_step_cases`: what one call can do to the session and to the events.
-/

namespace Jpv2g

/-! ## Frames -/

section Frames

variable (codec : Codec20) (env : Env20) (outCap : ℕ) (s : Secc20)

/-- The request a frame hands to its handler: it decodes while the session runs, and passes the
session and the sequence check. -/
def handledRequest (payloadType : PayloadType) (exi : List UInt8) : Option (V2gDoc Body20) :=
  if exi = [] ∨ s.state = .ended ∨ s20SequenceExpired env s then none
  else (s20Decode codec payloadType exi).filter (s20Admits s)

/-- The session is the given one up to the bookkeeping of the response, which had the given
code, unless it has ended. -/
def ConcludesAs (session : Secc20) (code : ℕ) (after : Secc20) : Prop :=
  ∃ state deadline, (state = session.state ∨ state = .ended) ∧
    after = { session with
      state, lastResponseCode := code, sequenceDeadlineMs := deadline }

theorem ConcludesAs.refl : ConcludesAs s s.lastResponseCode s :=
  ⟨s.state, s.sequenceDeadlineMs, .inl rfl, rfl⟩

section Concludes

variable {session after : Secc20} {code : ℕ}

/-- What the bookkeeping of a response leaves alone. -/
theorem ConcludesAs.fields (h : ConcludesAs session code after) :
    after.cfg = session.cfg ∧ after.sessionId = session.sessionId ∧
      after.sessionEstablished = session.sessionEstablished ∧
      after.contactorClosed = session.contactorClosed ∧ after.lastResponseCode = code := by
  obtain ⟨state, deadline, -, rfl⟩ := h
  exact ⟨rfl, rfl, rfl, rfl, rfl⟩

/-- A session that has not ended is in the state its request led to. -/
theorem ConcludesAs.state_eq {state : State20} (h : ConcludesAs session code after)
    (hafter : after.state = state) (hended : state ≠ .ended) : session.state = state := by
  obtain ⟨state', deadline, rfl | rfl, rfl⟩ := h
  · exact hafter
  · exact absurd hafter.symm hended

end Concludes

/-- Why a frame has ended the session, and what its caller is told. -/
def EndsReported (result : HandlerResult20) : Prop :=
  result.rc = .error .etimedout ∨
    (∃ bytes, result.rc = .ok bytes) ∧ result.disposition ≠ .continue

/-- The termination rule touches the bookkeeping, and ends the session only with a report. -/
theorem s20Conclude_cases {result : HandlerResult20} {session : Secc20} {code : ℕ}
    (h : result.session = { session with lastResponseCode := code }) :
    ConcludesAs session code (s20Conclude env result).session ∧
      (s20Conclude env result).calls = result.calls ∧
      ((s20Conclude env result).session.state = session.state ∨
        EndsReported (s20Conclude env result) ∧
          (result.disposition ≠ .continue ∨ rcFailed ≤ code)) := by
  unfold s20Conclude
  cases hrc : result.rc with
  | error e =>
    refine ⟨⟨session.state, session.sequenceDeadlineMs, .inl rfl, h⟩, rfl, .inl ?_⟩
    simp [h]
  | ok bytes =>
    dsimp only
    generalize hdisposition : (if result.disposition = .continue ∧
      rcFailed ≤ result.session.lastResponseCode then
      Disposition20.doneFailed else result.disposition) = disposition
    -- the session ends exactly when the caller is told to stop
    by_cases hcontinue : disposition = .continue
    · rw [if_pos hcontinue]
      exact ⟨⟨session.state, _, .inl rfl, by rw [h]⟩, rfl, .inl (by rw [h])⟩
    · rw [if_neg hcontinue]
      refine ⟨⟨.ended, session.sequenceDeadlineMs, .inr rfl, by rw [h]⟩, rfl,
        .inr ⟨.inr ⟨⟨bytes, rfl⟩, hcontinue⟩, ?_⟩⟩
      split at hdisposition
      · rename_i hfailed
        rw [h] at hfailed
        exact .inr hfailed.2
      · exact .inl (hdisposition ▸ hcontinue)

/-- A frame that has been handled. -/
structure Frame20 where
  /-- The session when the frame arrived. -/
  before : Secc20
  env : Env20
  /-- The request that was handed to its handler. -/
  request : Option (V2gDoc Body20)
  result : HandlerResult20

/-- The record of a frame. -/
def secc20Frame (payloadType : PayloadType) (exi : List UInt8) : Frame20 :=
  { before := s
    env
    request := handledRequest codec env s payloadType exi
    result := secc20HandleFrame codec env outCap s payloadType exi }

/-- What a frame can do. -/
inductive FrameOutcome (f : Frame20) : Prop
  /-- No request reaches a handler: no hook is invoked and the session stays or ends. -/
  | rejected (hrequest : f.request = none)
      (hsession : ∃ code, ConcludesAs f.before code f.result.session) (hcalls : f.result.calls = [])
      (hended : f.result.session.state = f.before.state ∨ EndsReported f.result)
  /-- A request is handled, after which the session stays or ends. -/
  | handled {doc : V2gDoc Body20} {session : Secc20} {calls : List Call20}
      {code : ResponseCode20} {disposition : Disposition20} (hrequest : f.request = some doc)
      (hadmits : s20Admits f.before doc = true)
      (houtcome : Handles f.before.received f.env doc.body session calls code disposition)
      (hsession : ConcludesAs session code.value f.result.session)
      (hcalls : f.result.calls = calls)
      (hended : f.result.session.state = session.state ∨ EndsReported f.result ∧
        (disposition ≠ .continue ∨ rcFailed ≤ code.value))

variable {codec env s} in
/-- Stopping the sequence timer is bookkeeping. -/
theorem ConcludesAs.of_received {code : ℕ} {after : Secc20}
    (h : ConcludesAs s.received code after) : ConcludesAs s code after := by
  obtain ⟨state, deadline, hstate, rfl⟩ := h
  exact ⟨state, deadline, hstate, rfl⟩

/-- A frame that is read hands the decoded request over when it is admitted. -/
theorem handledRequest_of_reads {payloadType : PayloadType} {exi : List UInt8}
    (h : Reads env s exi) : handledRequest codec env s payloadType exi =
      (s20Decode codec payloadType exi).filter (s20Admits s) := by
  simp [handledRequest, h.exi_ne, h.live, h.in_time]

/-- A frame hands over its request when it is admitted. -/
theorem handledRequest_of_decode {payloadType : PayloadType} {exi : List UInt8}
    {doc : V2gDoc Body20} (h : Reads env s exi)
    (hdecode : s20Decode codec payloadType exi = some doc) :
    handledRequest codec env s payloadType exi = if s20Admits s doc then some doc else none := by
  rw [handledRequest_of_reads codec env s h, hdecode]
  rfl

/-- Refusing a request records its code, invokes no hook and may end the session. -/
theorem refused_cases {kind : Req20} {code : ResponseCode20} (hkind : kind ≠ .none) :
    ConcludesAs s code.value
        (s20Conclude env (s20BuildRes codec env outCap s.received [] kind code)).session ∧
      (s20Conclude env (s20BuildRes codec env outCap s.received [] kind code)).calls = [] ∧
      ((s20Conclude env
          (s20BuildRes codec env outCap s.received [] kind code)).session.state = s.state ∨
        EndsReported (s20Conclude env (s20BuildRes codec env outCap s.received [] kind code))) := by
  have hbuild : CarriesOut (s20BuildRes codec env outCap s.received [] kind code) s.received []
      code .continue := s20BuildRes_carriesOut hkind
  obtain ⟨hsession, hcalls, hended⟩ := s20Conclude_cases env hbuild.session_eq
  exact ⟨hsession.of_received, hcalls.trans hbuild.calls_eq, hended.imp_right And.left⟩

/-- Handling a frame has one of the outcomes, whether or not the response encodes. -/
theorem secc20Frame_outcome (payloadType : PayloadType) (exi : List UInt8) :
    FrameOutcome (secc20Frame codec env outCap s payloadType exi) := by
  have hframe := receives codec env outCap s payloadType exi
  unfold secc20Frame
  generalize secc20HandleFrame codec env outCap s payloadType exi = result at hframe
  cases hframe with
  -- the exits before a request has passed the gates, in the order of the source
  | empty hexi =>
    exact .rejected (by simp [handledRequest, hexi]) ⟨_, .refl s⟩ rfl (.inl rfl)
  | ended _ hended =>
    exact .rejected (by simp [handledRequest, hended]) ⟨_, .refl s⟩ rfl (.inl rfl)
  | expired _ _ hexpired =>
    exact .rejected (by simp [handledRequest, hexpired])
      ⟨s.lastResponseCode, .ended, s.sequenceDeadlineMs, .inr rfl, rfl⟩ rfl (.inr (.inl rfl))
  | undecodable hreads hdecode =>
    refine .rejected ?_ ⟨_, (ConcludesAs.refl s.received).of_received⟩ rfl (.inl rfl)
    change handledRequest codec env s payloadType exi = none
    rw [handledRequest_of_reads codec env s hreads, Option.filter_eq_none_iff]
    intro doc hdoc
    simp [s20Admits, hdecode doc hdoc, s20StateAccepts_none]
  | @unknownSession doc hreads hdecode hkind hunknown =>
    obtain ⟨hsession, hcalls, hended⟩ := refused_cases codec env outCap s hkind
    refine .rejected ?_ ⟨_, hsession⟩ hcalls hended
    simp [handledRequest_of_decode codec env s hreads hdecode, s20Admits, hunknown]
  | @outOfSequence doc hreads hdecode hkind hknown hsequence =>
    obtain ⟨hsession, hcalls, hended⟩ := refused_cases codec env outCap s hkind
    refine .rejected ?_ ⟨_, hsession⟩ hcalls hended
    simp [handledRequest_of_decode codec env s hreads hdecode, s20Admits, hsequence]
  | @handled doc hreads hdecode hadmits =>
    have haccepts : s20StateAccepts s.state doc.body.kind = true :=
      s20StateAccepts_of_admits hadmits
    obtain ⟨session, calls, code, disposition, houtcome, hresult⟩ :=
      handles_of_accepts codec env outCap s.received haccepts
    obtain ⟨hsession, hcalls, hended⟩ := s20Conclude_cases env hresult.session_eq
    rw [hresult.disposition_eq] at hended
    refine .handled ?_ hadmits houtcome hsession (hcalls.trans hresult.calls_eq) hended
    simp [handledRequest_of_decode codec env s hreads hdecode, hadmits]

/-- A frame that ends a live session reports the end. -/
theorem FrameOutcome.endsReported {f : Frame20} (h : FrameOutcome f)
    (hlive : f.before.state ≠ .ended) (hended : f.result.session.state = .ended) :
    EndsReported f.result := by
  cases h with
  | rejected _ _ _ hreport =>
    exact hreport.resolve_left fun hsame => hlive (hsame.symm.trans hended)
  | handled _ _ houtcome _ _ hreport =>
    rcases hreport with hsame | ⟨hreport, -⟩
    · exact absurd (hsame.symm.trans hended) (houtcome.live hlive)
    · exact hreport

end Frames

/-! ## The machine -/

/-- A frame as it arrives, with the capacity of the response buffer. -/
structure FrameInput20 where
  payloadType : PayloadType
  exi : List UInt8
  outCap : ℕ
  env : Env20

/-- A call of the module. -/
inductive Input20 where
  | frame (input : FrameInput20)
  | reset (nowMs : ℕ)

/-- The events of a run. -/
inductive Event20 where
  | frame (f : Frame20)
  | reset

/-- The hooks invoked by an event. -/
def Event20.calls : Event20 → List Call20
  | .frame f => f.result.calls
  | .reset => []

/-- The hooks invoked in a run, oldest first. -/
def hookCalls (t : List Event20) : List Call20 :=
  t.flatMap Event20.calls

@[simp]
theorem hookCalls_concat (t : List Event20) (e : Event20) :
    hookCalls (t ++ [e]) = hookCalls t ++ e.calls := by
  simp [hookCalls]

/-- One call of the module. -/
def secc20Step (codec : Codec20) (s : Secc20) : Input20 → Secc20 × List Event20
  | .frame input =>
    let f := secc20Frame codec input.env input.outCap s input.payloadType input.exi
    (f.result.session, [.frame f])
  | .reset nowMs => (s.reset nowMs, [.reset])

/-- The module as a machine. -/
def secc20Machine (codec : Codec20) : Machine Secc20 Input20 Event20 := ⟨secc20Step codec⟩

/-- One call is a reset, or a frame that was rejected or handled. -/
theorem secc20_step_cases (codec : Codec20) (s : Secc20) (i : Input20) :
    (∃ nowMs, i = .reset nowMs ∧
        (secc20Machine codec).step s i = (s.reset nowMs, [.reset])) ∨
      ∃ f : Frame20, (secc20Machine codec).step s i = (f.result.session, [.frame f]) ∧
        f.before = s ∧ FrameOutcome f := by
  cases i with
  | reset nowMs => exact .inl ⟨nowMs, rfl, rfl⟩
  | frame input =>
    exact .inr ⟨secc20Frame codec input.env input.outCap s input.payloadType input.exi, rfl, rfl,
      secc20Frame_outcome codec input.env input.outCap s input.payloadType input.exi⟩

/-- A sample environment: the controller grants, finishes the cable check and confirms the
contactor. -/
def sampleEnv20 : Env20 where
  nowArrival := 0
  nowHandler := 0
  nowReply := 0
  timeStamp := 0
  timeAnchor := 0
  rng := sampleRng
  authStatus := .granted
  dcLimits := none
  cableCheckStatus := .finished
  present := none
  contactorConfirms := true
  stopRequest := .none
  meter := none

end Jpv2g
