import Jpv2g.SeccIso20.Runs

/-!
# The Termination Rule of the ISO 15118-20 Module

A session ends with the response whose code is a failure and with the answered SessionStop, and
with nothing else; an ended session is silent until it is reset.

## Main definitions

* `AnsweredWith`: the response produced for a frame.
* `StopAnswered`: the response grants a SessionStop.
* `EndsExactly`: what the disposition and the state say about a produced response.

## Main results

* `run_of_ended`: an ended session refuses every frame unread.
* `termination_rule`: every produced response ends the session exactly by the rule.
-/

namespace Jpv2g

/-- The codes that warn. -/
def ResponseCode20.isWarning : ResponseCode20 → Bool
  | .warningAuthorizationSelectionInvalid | .warningEimAuthorizationFailure
  | .warningStandbyNotAllowed => true
  | _ => false

/-- A warning is below the failures. -/
theorem ResponseCode20.value_lt_of_isWarning {code : ResponseCode20}
    (h : code.isWarning = true) : code.value < rcFailed := by
  cases code <;> first | decide | cases h

/-! ## Ended sessions -/

section Ended

variable {codec : Codec20} {s : Secc20}

/-- An ended session refuses a frame without reading it. -/
theorem secc20HandleFrame_of_ended {env : Env20} {outCap : ℕ} {payloadType : PayloadType}
    {exi : List UInt8} (hended : s.state = .ended) (hexi : exi ≠ []) :
    secc20HandleFrame codec env outCap s payloadType exi = unanswered s .eproto := by
  rw [secc20HandleFrame, if_neg hexi, if_pos hended]
  rfl

/-- The record of a frame that an ended session refuses. -/
def refusedUnread (s : Secc20) (input : FrameInput20) : Event20 :=
  .frame { before := s, env := input.env, request := none, result := unanswered s .eproto }

/-- An ended session refuses every frame, whatever the codec. -/
theorem run_of_ended (hended : s.state = .ended) {later : List FrameInput20}
    (hlater : ∀ input ∈ later, input.exi ≠ []) :
    (secc20Machine codec).run s (later.map .frame) = (s, later.map (refusedUnread s)) := by
  induction later with
  | nil => rfl
  | cons input later ih =>
    have hresult : secc20HandleFrame codec input.env input.outCap s input.payloadType input.exi =
        unanswered s .eproto :=
      secc20HandleFrame_of_ended hended (hlater input (by simp))
    have hstep : (secc20Machine codec).step s (.frame input) = (s, [refusedUnread s input]) := by
      change (_, _) = _
      rw [secc20Frame, hresult, handledRequest, if_pos (.inr (.inl hended))]
      rfl
    rw [List.map_cons, Machine.run_cons, hstep, ih fun i hi => hlater i (by simp [hi])]
    rfl

end Ended

/-! ## Answered frames -/

/-- The frame carries the document, and the response to its request has been produced. -/
structure AnsweredWith (codec : Codec20) (input : FrameInput20) (result : HandlerResult20)
    (bytes : List UInt8) (doc : V2gDoc Body20) (res : Res20) : Prop where
  decodes : s20Decode codec input.payloadType input.exi = some doc
  produced : result.res = some res
  encodes : codec.encode res input.outCap = some bytes
  kind_eq : res.body.kind = doc.body.kind

/-- The response grants the SessionStop with the given action. -/
def StopAnswered (doc : V2gDoc Body20) (res : Res20) (action : ChargingSession20) : Prop :=
  (∃ code explanation, doc.body = .common (.sessionStopReq action code explanation)) ∧
    res.responseCode = .ok

/-- The disposition and the state follow the produced response. -/
structure EndsExactly (result : HandlerResult20) (doc : V2gDoc Body20) (res : Res20) :
    Prop where
  recorded : result.session.lastResponseCode = res.responseCode.value
  disposition_iff : result.disposition ≠ .continue ↔
    rcFailed ≤ res.responseCode.value ∨ ∃ action, StopAnswered doc res action
  paused_iff : result.disposition = .donePaused ↔ StopAnswered doc res .pause
  warning : res.responseCode.isWarning = true → result.disposition = .continue
  ended_iff : result.session.state = .ended ↔ result.disposition ≠ .continue

section Answered

variable {s session : Secc20} {env : Env20} {body : Body20} {calls : List Call20}
  {code : ResponseCode20} {disposition : Disposition20}

/-- Only a granted SessionStop sets a disposition of its own. -/
theorem Handles.disposition_cases (h : Handles s env body session calls code disposition) :
    (disposition = .continue ∧
        ¬(code = .ok ∧ ∃ action terminationCode explanation,
          body = .common (.sessionStopReq action terminationCode explanation))) ∨
      ∃ action terminationCode explanation, code = .ok ∧
        body = .common (.sessionStopReq action terminationCode explanation) ∧
        disposition = if action = .pause then .donePaused else .doneStopped := by
  cases h with
  | sessionStop haction => exact .inr ⟨_, _, _, rfl, rfl, rfl⟩
  | _ => exact .inl ⟨rfl, by simp⟩

/-- The rule holds of every answer whose handler has not ended the session by itself. -/
theorem Answers.endsExactly {codec : Codec20} {outCap : ℕ} {bytes : List UInt8}
    {result : HandlerResult20} {doc : V2gDoc Body20} {res : Res20}
    (h : Answers codec env outCap doc.body.kind session code disposition bytes result)
    (hres : result.res = some res) (hlive : session.state ≠ .ended)
    (hstop : (disposition = .continue ∧ ¬∃ action, StopAnswered doc res action) ∨
      ∃ action, StopAnswered doc res action ∧ res.responseCode = .ok ∧
        disposition = if action = .pause then .donePaused else .doneStopped) :
    EndsExactly result doc res := by
  obtain ⟨res', hres', -, hcode, -, -⟩ := h.res_eq
  cases hres.symm.trans hres'
  subst hcode
  have hended : result.session.state = .ended ↔ result.disposition ≠ .continue := by
    rw [h.session_eq, h.disposition_eq, concludeSession]
    split_ifs with hcontinue
    · simp [hcontinue, hlive]
    · simp [hcontinue]
  have hrecorded : result.session.lastResponseCode = res.responseCode.value := by
    rw [h.session_eq, concludeSession]
    split_ifs <;> rfl
  rcases hstop with ⟨rfl, hnot⟩ | ⟨action, hstop, hok, rfl⟩
  -- without a granted stop the code alone decides
  · have hdisposition : result.disposition =
        if rcFailed ≤ res.responseCode.value then .doneFailed else .continue := by
      simp [h.disposition_eq, concludeDisposition]
    refine ⟨hrecorded, ?_, ?_, fun hwarning => ?_, hended⟩
    · rw [hdisposition]
      split_ifs with hfailed <;> simp [hfailed, hnot]
    · rw [hdisposition]
      have hpause : ¬StopAnswered doc res .pause := fun hstop => hnot ⟨_, hstop⟩
      split_ifs <;> simp [hpause]
    · rw [hdisposition, if_neg (Nat.not_le.mpr (ResponseCode20.value_lt_of_isWarning hwarning))]
  · have hdisposition : result.disposition =
        if action = .pause then .donePaused else .doneStopped := by
      rw [h.disposition_eq, concludeDisposition]
      split_ifs <;> simp_all
    refine ⟨hrecorded, ?_, ?_, fun hwarning => ?_, hended⟩
    · refine iff_of_true ?_ (.inr ⟨action, hstop⟩)
      rw [hdisposition]
      split_ifs <;> simp
    · rw [hdisposition]
      obtain ⟨⟨code, explanation, hbody⟩, -⟩ := hstop
      by_cases hpause : action = .pause
      · rw [if_pos hpause]
        exact iff_of_true rfl ⟨⟨code, explanation, hpause ▸ hbody⟩, hok⟩
      · rw [if_neg hpause]
        apply iff_of_false (by simp)
        intro hstop
        obtain ⟨⟨code', explanation', hbody'⟩, -⟩ := hstop
        rw [hbody] at hbody'
        cases hbody'
        exact hpause rfl
    · rw [hok] at hwarning
      cases hwarning

end Answered

section Frames

variable {codec : Codec20} {s : Secc20} {input : FrameInput20} {doc : V2gDoc Body20}
  {bytes : List UInt8}

/-- An answered frame is answered with the response of its kind. -/
theorem Answers.answeredWith {session : Secc20} {code : ResponseCode20}
    {disposition : Disposition20} {result : HandlerResult20}
    (h : Answers codec input.env input.outCap doc.body.kind session code disposition bytes result)
    (hdecode : s20Decode codec input.payloadType input.exi = some doc) :
    ∃ res, AnsweredWith codec input result bytes doc res ∧ res.responseCode = code := by
  obtain ⟨res, hres, hencode, hcode, -, hkind⟩ := h.res_eq
  exact ⟨res, ⟨hdecode, hres, hencode, hkind⟩, hcode⟩

/-- A refusal ends the session when it has been produced. -/
theorem refused_ends {code : ResponseCode20} (hlive : s.state ≠ .ended)
    (hdecode : s20Decode codec input.payloadType input.exi = some doc)
    (hkind : doc.body.kind ≠ .none) (hcode : rcFailed ≤ code.value)
    (hrc : (s20BuildRes codec input.env input.outCap s.received [] doc.body.kind code).rc =
      .ok bytes) :
    ∃ doc' res,
      AnsweredWith codec input (s20Conclude input.env
        (s20BuildRes codec input.env input.outCap s.received [] doc.body.kind code)) bytes doc'
        res ∧
      EndsExactly (s20Conclude input.env
        (s20BuildRes codec input.env input.outCap s.received [] doc.body.kind code)) doc' res := by
  have hanswers := answers_of_ok input.env (s20BuildRes_carriesOut hkind)
    (s20BuildRes_replies (s := s.received) rfl) hrc
  obtain ⟨res, hwith, hres⟩ := hanswers.answeredWith hdecode
  refine ⟨doc, res, hwith, hanswers.endsExactly hwith.produced hlive (.inl ⟨rfl, ?_⟩)⟩
  rintro ⟨action, -, hok⟩
  rw [← hres, hok] at hcode
  exact absurd hcode (by decide)

/-- A handled request ends the session by the rule. -/
theorem handled_ends (hlive : s.state ≠ .ended)
    (hdecode : s20Decode codec input.payloadType input.exi = some doc)
    (hadmits : s20Admits s doc = true)
    (hrc : (s20Handle codec input.env input.outCap s.received doc.body).rc = .ok bytes) :
    ∃ doc' res,
      AnsweredWith codec input
        (s20Conclude input.env (s20Handle codec input.env input.outCap s.received doc.body)) bytes
        doc' res ∧
      EndsExactly
        (s20Conclude input.env (s20Handle codec input.env input.outCap s.received doc.body)) doc'
        res := by
  have haccepts : s20StateAccepts s.received.state doc.body.kind = true :=
    s20StateAccepts_of_admits hadmits
  obtain ⟨session, calls, code, disposition, houtcome, hcarries⟩ :=
    handles_of_accepts codec input.env input.outCap s.received haccepts
  have hanswers := answers_of_ok input.env hcarries (s20Handle_replies ..) hrc
  -- the response that was produced carries the code the handler has recorded
  obtain ⟨res, hwith, rfl⟩ := hanswers.answeredWith hdecode
  refine ⟨doc, res, hwith, hanswers.endsExactly hwith.produced (houtcome.live hlive) ?_⟩
  -- the handler is done exactly when it grants a SessionStopReq
  rcases houtcome.disposition_cases with
    ⟨hcontinue, hnot⟩ | ⟨action, terminationCode, explanation, hok, hbody, hdisposition⟩
  · refine .inl ⟨hcontinue, ?_⟩
    rintro ⟨action, ⟨terminationCode, explanation, hbody⟩, hok⟩
    exact hnot ⟨hok, action, terminationCode, explanation, hbody⟩
  · exact .inr ⟨action, ⟨⟨terminationCode, explanation, hbody⟩, hok⟩, hok, hdisposition⟩

end Frames

/-- The rule over one frame, answered or not. -/
structure TerminationRule (codec : Codec20) (s : Secc20) (input : FrameInput20)
    (result : HandlerResult20) : Prop where
  /-- A frame is answered with a response of its kind, which ends the session by the rule. -/
  answered : ∀ bytes, result.rc = .ok bytes →
    ∃ doc res, AnsweredWith codec input result bytes doc res ∧ EndsExactly result doc res
  /-- A frame ends a session only by its disposition or by the expired timer. -/
  ends : s.state ≠ .ended → result.session.state = .ended →
    result.disposition ≠ .continue ∨ result.rc = .error .etimedout
  /-- An ended session refuses the frames that follow, undecoded, until it is reset. -/
  silent : result.session.state = .ended → ∀ (codec' : Codec20) (later : List FrameInput20),
    (∀ i ∈ later, i.exi ≠ []) → (secc20Machine codec').run result.session (later.map .frame) =
      (result.session, later.map (refusedUnread result.session))

/-- From every session, reachable or not, every frame obeys the termination rule. -/
theorem termination_rule (codec : Codec20) (s : Secc20) (input : FrameInput20) :
    TerminationRule codec s input
      (secc20HandleFrame codec input.env input.outCap s input.payloadType input.exi) := by
  refine ⟨fun bytes hrc => ?_, fun hlive hended => ?_,
    fun hended codec' later hlater => run_of_ended hended hlater⟩
  · have hframe := receives codec input.env input.outCap s input.payloadType input.exi
    generalize secc20HandleFrame codec input.env input.outCap s input.payloadType input.exi =
      result at hframe hrc
    -- a frame is answered when it is refused and when it is handled
    cases hframe with
    | empty | ended | expired | undecodable => cases hrc
    | unknownSession hreads hdecode hkind =>
      rw [s20Conclude_rc] at hrc
      exact refused_ends hreads.live hdecode hkind (by decide) hrc
    | outOfSequence hreads hdecode hkind =>
      rw [s20Conclude_rc] at hrc
      exact refused_ends hreads.live hdecode hkind (by decide) hrc
    | handled hreads hdecode hadmits =>
      rw [s20Conclude_rc] at hrc
      exact handled_ends hreads.live hdecode hadmits hrc
  -- a session that ends without an answer has timed out
  · have houtcome := secc20Frame_outcome codec input.env input.outCap s input.payloadType input.exi
    rcases houtcome.endsReported hlive hended with htimeout | ⟨-, hdisposition⟩
    · exact .inr htimeout
    · exact .inl hdisposition

end Jpv2g
