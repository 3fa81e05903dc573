import Jpv2g.Secc.Stream.Live

/-!
# The Stream after a FAILED Response

A handler that answers FAILED raises a flag by which the stream ends once the response is sent.
Not every FAILED answer raises it: a stream goes on after the answers listed here, and ends after
all others.

## Main definitions

* `ResponseCode.isFailed`, `Res.isFailed`: the FAILED codes, and the responses that carry one.
* `leavesFailedOpen`: the requests answered FAILED without raising the flag.
* `FailedCloses`: a connection on which a FAILED response was sent is over.

## Main results

* `handleResolved_failsOpen`: the handler answers FAILED without the flag exactly there.
* `failed_terminates`: in every run without such a request, nothing follows a FAILED response.
-/

namespace Jpv2g

open Trace

/-! ## The FAILED answers -/

/-- The code is one of the FAILED codes. -/
def ResponseCode.isFailed : ResponseCode → Bool
  | .ok | .okNewSessionEstablished | .okOldSessionJoined => false
  | .failed | .failedPaymentSelectionInvalid | .failedWrongEnergyTransferMode
  | .failedWrongEnergyTransferType => true

/-- The code of an ISO 15118-2 response. -/
def Iso2Res.code : Iso2Res → ResponseCode
  | .sessionSetup _ code | .serviceDiscovery code _ _ _ _ _ | .serviceDetail code _
  | .paymentServiceSelection code | .paymentDetails code _ | .authorization code _
  | .chargeParameterDiscovery code _ | .cableCheck code _ _ | .preCharge code _ _
  | .powerDelivery code | .chargingStatus code _ _ | .currentDemand code _ _ _ _ _ _ _
  | .meteringReceipt code | .weldingDetection code | .sessionStop code => code

/-- The code of a DIN 70121 response. -/
def DinRes.code : DinRes → ResponseCode
  | .sessionSetup _ code _ | .serviceDiscovery code _ _ _ _ | .serviceDetail code _
  | .servicePaymentSelection code | .paymentDetails code _ | .contractAuthentication code _
  | .chargeParameterDiscovery code _ | .cableCheck code _ _ | .preCharge code _ _
  | .powerDelivery code | .currentDemand code _ _ _ _ _ _ | .meteringReceipt code
  | .weldingDetection code | .sessionStop code => code

/-- The response is a V2G response with a FAILED code. -/
def Res.isFailed : Res → Bool
  | .sapp _ _ => false
  | .iso2 _ body => body.code.isFailed
  | .din _ body => body.code.isFailed
  | .minFailed _ _ _ _ => true

/-- The outcome is a FAILED answer after which the stream goes on. -/
def HandlerResult.failsOpen (result : HandlerResult) : Bool :=
  result.res.any Res.isFailed && !result.secc.terminateAfterResponse

/-- The energy transfer mode of a ChargeParameterDiscoveryReq is supported. -/
def Secc.supportsRequestedMode (secc : Secc) (request : Request) : Bool :=
  if request.isDin then
    match request.dinBody with
    | some (.chargeParameterDiscoveryReq etm) => secc.dinEtmSupported etm
    | _ => false
  else
    match request.iso2Body with
    | some (.chargeParameterDiscoveryReq etm) => secc.isoEtmSupported etm
    | _ => secc.isoEtmSupported secc.selectIsoEtm

/-- The requests answered FAILED without a request to terminate: a refused contract, a DIN
discovery with nothing to offer, an unsupported mode, and every isolation test. -/
def leavesFailedOpen (env : HandlerEnv) (secc : Secc) (request : Request) : Bool :=
  match request.type with
  | .serviceDiscoveryReq => request.isDin && secc.resolveDinEtm.isNone
  | .paymentDetailsReq | .authorizationReq => !authorizeContract env secc
  | .chargeParameterDiscoveryReq => !secc.supportsRequestedMode request
  | .cableCheckReq => true
  | _ => false

section Handlers

variable {codec : Codec} {env : HandlerEnv} {secc : Secc} {statics : HandlerStatics}
  {request : Request} {build : Build} {registered oldSessionJoined : Bool}

/-- A reply that leaves the flag alone fails open exactly with a FAILED code. -/
theorem reply_failsOpen {secc' : Secc} {res : Res}
    (hflag : secc'.terminateAfterResponse = false) :
    (reply codec secc' statics res).failsOpen = res.isFailed := by
  simp [HandlerResult.failsOpen, reply, hflag]

/-- The recorded authorization does not matter to the stream. -/
theorem HandlerResult.failsOpen_authorize {result : HandlerResult} {authorized : Option Bool} :
    { result with authorized }.failsOpen = result.failsOpen := rfl

/-- A refusal of the backend is answered `FAILED`. -/
theorem authorizationCode_isFailed :
    (authorizationCode env secc).isFailed = !authorizeContract env secc := by
  unfold authorizationCode
  cases authorizeContract env secc <;> rfl

/-- A DIN ServiceDiscoveryReq is answered `FAILED` when there is nothing to offer. -/
theorem handleServiceDiscovery_failsOpen (hflag : secc.terminateAfterResponse = false) :
    (handleServiceDiscovery codec env secc statics request).failsOpen =
      (request.isDin && secc.resolveDinEtm.isNone) := by
  unfold handleServiceDiscovery
  split_ifs with hdin
  · unfold handleDinServiceDiscovery
    dsimp only
    -- the offer that is recorded does not touch the flag
    split <;> cases hetm : secc.resolveDinEtm <;>
      simp_all [HandlerResult.failsOpen, reply, Res.isFailed, DinRes.code, ResponseCode.isFailed,
        Secc.advertiseDin, Secc.clearDinOffer]
  · rw [reply_failsOpen hflag]
    simp [hdin, Res.isFailed, Iso2Res.code, ResponseCode.isFailed]

/-- A refused payment option raises the flag. -/
theorem handlePaymentServiceSelection_failsOpen :
    (handlePaymentServiceSelection codec secc statics request).failsOpen = false := by
  have hpayment : ∀ option, ((paymentCode option).isFailed &&
      !(secc.refusePayment option).terminateAfterResponse) = false := by
    intro option
    rcases option with _ | _ | _ <;> simp [paymentCode, Secc.refusePayment, ResponseCode.isFailed]
  unfold handlePaymentServiceSelection
  dsimp only
  split_ifs <;> exact hpayment _

/-- A PaymentDetailsReq is answered `FAILED` when the backend refuses. -/
theorem handlePaymentDetails_failsOpen (hflag : secc.terminateAfterResponse = false) :
    (handlePaymentDetails codec env secc statics request).failsOpen =
      !authorizeContract env secc := by
  rw [← authorizationCode_isFailed]
  unfold handlePaymentDetails
  rw [HandlerResult.failsOpen_authorize]
  split_ifs <;> exact reply_failsOpen hflag

/-- An AuthorizationReq is answered `FAILED` when the backend refuses. -/
theorem handleAuthorization_failsOpen (hflag : secc.terminateAfterResponse = false) :
    (handleAuthorization codec env secc statics request).failsOpen =
      !authorizeContract env secc := by
  rw [← authorizationCode_isFailed]
  unfold handleAuthorization
  rw [HandlerResult.failsOpen_authorize]
  dsimp only
  split_ifs <;> exact reply_failsOpen hflag

/-- A ChargeParameterDiscoveryReq is answered `FAILED` when its mode is not supported. -/
theorem handleChargeParameterDiscovery_failsOpen (hflag : secc.terminateAfterResponse = false) :
    (handleChargeParameterDiscovery codec secc statics request).failsOpen =
      !secc.supportsRequestedMode request := by
  unfold handleChargeParameterDiscovery Secc.supportsRequestedMode
  have hcode : ∀ {supported code}, code.isFailed = true →
      ResponseCode.isFailed (if supported = true then .ok else code) = !supported := by
    intro supported code hcode
    cases supported
    · exact hcode
    · rfl
  split_ifs <;> rw [reply_failsOpen hflag]
  · generalize request.dinBody = body
    rcases body with _ | body
    · rfl
    · cases body <;> first | rfl | exact hcode rfl
  · generalize request.iso2Body = body
    rcases body with _ | body
    · exact hcode rfl
    · cases body <;> exact hcode rfl

/-- A CableCheckReq is always answered `FAILED`. -/
theorem handleCableCheck_failsOpen (hflag : secc.terminateAfterResponse = false) :
    (handleCableCheck codec secc statics request).failsOpen = true := by
  unfold handleCableCheck
  split_ifs <;> exact reply_failsOpen hflag

/-- The handler answers FAILED and lets the stream go on exactly after the listed requests. -/
theorem handleResolved_failsOpen (hflag : secc.terminateAfterResponse = false) :
    (handleResolved codec env secc statics request build registered oldSessionJoined).failsOpen =
      leavesFailedOpen env secc request := by
  unfold handleResolved leavesFailedOpen
  cases request.type
  case serviceDiscoveryReq => exact handleServiceDiscovery_failsOpen hflag
  case paymentServiceSelectionReq => exact handlePaymentServiceSelection_failsOpen
  case paymentDetailsReq => exact handlePaymentDetails_failsOpen hflag
  case authorizationReq => exact handleAuthorization_failsOpen hflag
  case chargeParameterDiscoveryReq => exact handleChargeParameterDiscovery_failsOpen hflag
  case cableCheckReq => exact handleCableCheck_failsOpen hflag
  -- the other answers carry an OK code under both grammars, or there is none
  case sessionSetupReq | serviceDetailReq | preChargeReq | powerDeliveryReq | chargingStatusReq
    | currentDemandReq | meteringReceiptReq | weldingDetectionReq | sessionStopReq =>
    dsimp only [handleSessionSetup, handleServiceDetail, handlePreCharge, handlePowerDelivery,
      handleChargingStatus, handleCurrentDemand, handleMeteringReceipt, handleWeldingDetection,
      handleSessionStop]
    split_ifs <;> rfl
  all_goals rfl

end Handlers

/-! ## The end of the stream -/

/-- A FAILED response was sent; the answer to a rejected request is one. -/
def StreamEvent.sendsFailed : StreamEvent → Prop
  | .rejected _ _ | .refused _ _ => True
  | .dispatched x => x.rc = .ok () ∧ x.result.res.any Res.isFailed = true
  | .connected | .frame20 _ | .reset20 | .closed _ | .retired => False

instance : DecidablePred StreamEvent.sendsFailed
  | .rejected _ _ | .refused _ _ => inferInstanceAs (Decidable True)
  | .dispatched x =>
    inferInstanceAs (Decidable (x.rc = .ok () ∧ x.result.res.any Res.isFailed = true))
  | .connected | .frame20 _ | .reset20 | .closed _ | .retired => inferInstanceAs (Decidable False)

/-- A connection on which a FAILED response was sent is over: nothing more is read from it. -/
def FailedCloses (t : List StreamEvent) (c : Charger) : Prop :=
  (∃ e ∈ thisStream t, e.sendsFailed) → c.stream = none

/-- After a FAILED response no request of the same connection reaches the gates. -/
def SilentAfterFailed (seg : List StreamEvent) (e : StreamEvent) : Prop :=
  (∃ e' ∈ seg, e'.sendsFailed) → ¬e.judges

/-- No request that passes both gates is one whose FAILED answer lets the stream go on. -/
def FailsClosed (build : Build) (codec : Codec) (_ : List StreamEvent) (c : Charger) :
    ChargerInput → Prop
  | .frame input =>
    ∀ stream ∈ c.stream, ∀ r ∈ presentedRequest build codec c.station stream input,
      (seccAcceptRequestSequence stream.sequence r).2 = .ok () →
        validateRequestSession c.station.secc r = .ok () →
          leavesFailedOpen input.env c.station.secc r = false
  | .connect | .retire => True

instance (build : Build) (codec : Codec) (t : List StreamEvent) (c : Charger) :
    DecidablePred (FailsClosed build codec t c)
  | .frame input =>
    inferInstanceAs (Decidable
      (∀ stream ∈ c.stream, ∀ r ∈ presentedRequest build codec c.station stream input,
        (seccAcceptRequestSequence stream.sequence r).2 = .ok () →
          validateRequestSession c.station.secc r = .ok () →
            leavesFailedOpen input.env c.station.secc r = false))
  | .connect | .retire => inferInstanceAs (Decidable True)

section Exchanges

variable {build : Build} {codec : Codec} {station : Station} {x : Exchange}

/-- Resolving the session leaves the flag alone. -/
theorem resolveSession_terminateAfterResponse {env : HandlerEnv} {secc : Secc}
    {request : Request} :
    (resolveSession env secc request).1.terminateAfterResponse = secc.terminateAfterResponse := by
  have hdraw : ∀ secc : Secc,
      (secc.drawSession env.rng).terminateAfterResponse = secc.terminateAfterResponse := by
    intro secc
    rcases drawSession_cases secc env.rng with ⟨sid, -, heq⟩ | heq <;> rw [heq]
  -- every branch writes the session or draws one
  unfold resolveSession
  split_ifs
  · split
    · split_ifs
      · rfl
      · exact hdraw _
    · exact hdraw _
  · rfl
  · split
    · split_ifs
      · rfl
      · exact hdraw _
    · exact hdraw _

/-- A dispatched request is answered FAILED and lets the stream go on exactly when it is one of
the listed requests. -/
theorem Exchange.Runs.failsOpen (hruns : x.Runs build codec station)
    (hsession : validateRequestSession station.secc x.request = .ok ())
    (hflag : station.secc.terminateAfterResponse = false) :
    x.result.failsOpen = leavesFailedOpen x.env station.secc x.request := by
  rw [hruns.result_eq, defaultHandle,
    handleResolved_failsOpen (resolveSession_terminateAfterResponse.trans hflag)]
  -- a negotiation and a setup resolve a session, and are not among them
  by_cases happ : x.request.type = .suppAppProtocolReq
  · simp [leavesFailedOpen, happ]
  by_cases hsetup : x.request.type = .sessionSetupReq
  · simp [leavesFailedOpen, hsetup]
  rw [resolveSession_of_active hsetup (validateRequestSession_ok hsession happ hsetup).2]

end Exchanges

/-- The invariant: a live connection has no request to terminate and no FAILED response. -/
def Unfailed (t : List StreamEvent) (c : Charger) : Prop :=
  ∀ stream, c.stream = some stream →
    c.station.secc.terminateAfterResponse = false ∧ ∀ e ∈ thisStream t, ¬e.sendsFailed

theorem StreamEvent.quiet.not_sendsFailed {e : StreamEvent} (h : e.quiet) : ¬e.sendsFailed := by
  cases e <;> simp_all [StreamEvent.quiet, StreamEvent.sendsFailed]

section Run

variable {build : Build} {codec : Codec} {t es : List StreamEvent} {c c' : Charger}
  {i : ChargerInput}

/-- The bookkeeping of a connection that goes on leaves the flag alone. -/
theorem concluded_terminateAfterResponse {secc : Secc} {r : Request} {sequence : Sequence} :
    (applyResume (secc.recordPauseMode r sequence) r sequence).1.terminateAfterResponse =
      secc.terminateAfterResponse := by
  unfold applyResume Secc.recordPauseMode
  split_ifs <;> rfl

/-- One input that meets the condition keeps the invariant. -/
theorem Unfailed.move (h : Unfailed t c) (hmove : ChargerMove build codec c i c' es)
    (hC : FailsClosed build codec t c i) : Unfailed (t ++ es) c' := by
  intro stream' hstream'
  cases hmove with
  | idle =>
    rw [List.append_nil]
    exact h stream' hstream'
  | connect =>
    -- the flag is cleared when the connection starts
    refine ⟨rfl, ?_⟩
    simp [thisStream, StreamEvent.connects]
  | retire hstream => cases hstream.symm.trans hstream'
  | quiet hstream hsecc _ _ hes =>
    obtain ⟨hflag, hsent⟩ := h _ hstream
    rw [hsecc, thisStream_append fun e he => (hes e he).connects_eq]
    refine ⟨hflag, ?_⟩
    intro e he
    rcases List.mem_append.mp he with he | he
    · exact hsent e he
    · exact (hes e he).not_sendsFailed
  | rejected | refused => cases hstream'
  | @dispatched stream x _ tail hstream hpresented hdecoded hgate hsession hruns hinput _ hfate
      htail =>
    obtain ⟨hflag, hsent⟩ := h _ hstream
    have hterminate := hfate.terminate_of_some hstream'
    obtain ⟨-, -, -, -, hsecc⟩ := hfate.of_some hstream'
    -- the stream goes on, so that the answer was not a FAILED one
    obtain ⟨input, rfl, henv, -⟩ := hinput
    have hpresented' : presentedRequest build codec c.station stream input = some x.request := by
      simpa [Charger.presented, hstream] using hpresented
    have hopen := hC stream hstream x.request hpresented' (by rw [hgate]) hsession
    rw [← henv, ← hruns.failsOpen hsession hflag] at hopen
    have hanswer : ¬(StreamEvent.dispatched x).sendsFailed := by
      rintro ⟨-, hfailed⟩
      simp [HandlerResult.failsOpen, hfailed, hterminate] at hopen
    have hconnects : ∀ e ∈ StreamEvent.dispatched x :: tail, e.connects = false := by
      simpa [StreamEvent.connects] using fun e he => (htail e he).connects_eq
    refine ⟨?_, fun e he => ?_⟩
    · rw [hsecc]
      exact concluded_terminateAfterResponse.trans hterminate
    · rw [thisStream_append hconnects, List.mem_append, List.mem_cons] at he
      rcases he with he | rfl | he
      · exact hsent e he
      · exact hanswer
      · exact (htail e he).not_sendsFailed

/-- A quiet event presents no request. -/
theorem silentAfterFailed_of_quiet {seg : List StreamEvent} {e : StreamEvent} (he : e.quiet) :
    SilentAfterFailed seg e :=
  fun _ => he.not_judges

/-- Any event may follow on a connection on which no FAILED response was sent. -/
theorem Unfailed.silentAfterFailed (h : Unfailed t c) {stream : Stream} {e : StreamEvent}
    (hstream : c.stream = some stream) : SilentAfterFailed (thisStream t) e := by
  rintro ⟨e', he', hfailed⟩
  exact absurd hfailed ((h stream hstream).2 e' he')

/-- One input justifies its events. -/
theorem Unfailed.justifies (h : Unfailed t c) (hmove : ChargerMove build codec c i c' es)
    (hjust : JustifiedInStream SilentAfterFailed t) :
    JustifiedInStream SilentAfterFailed (t ++ es) := by
  have hquiet : ∀ {es : List StreamEvent}, (∀ e ∈ es, e.quiet) →
      ∀ e ∈ es, ∀ seg, SilentAfterFailed seg e := fun hes e he _ =>
    silentAfterFailed_of_quiet (hes e he)
  cases hmove with
  | idle => simpa using hjust
  | connect | retire => exact hjust.concat fun _ hjudges => hjudges
  | quiet _ _ _ _ hes => exact hjust.extend (hquiet hes)
  -- a request is judged on a live connection only, where no FAILED response was sent
  | rejected hstream | refused hstream =>
    exact hjust.cons (h.silentAfterFailed hstream) (hquiet (by simp [StreamEvent.quiet]))
  | dispatched hstream _ _ _ _ _ _ _ _ htail =>
    exact hjust.cons (h.silentAfterFailed hstream) (hquiet htail)

end Run

/-- In every run in which no request passes both gates whose FAILED answer lets the stream go on,
a connection on which a FAILED response was sent is over: it reads nothing more, and no request
reaches its gates after the response. -/
theorem failed_terminates (build : Build) (codec : Codec) (codec20 : Codec20) (station : Station)
    (inputs : List ChargerInput)
    (hclosed : (charger build codec codec20).Meets (FailsClosed build codec) []
      { station, stream := none } inputs) :
    FailedCloses ((charger build codec codec20).run { station, stream := none } inputs).2
        ((charger build codec codec20).run { station, stream := none } inputs).1 ∧
      JustifiedInStream SilentAfterFailed
        ((charger build codec codec20).run { station, stream := none } inputs).2 := by
  -- as long as the stream is open, no response of it has failed
  have hrun := (charger build codec codec20).run_induction_of_meets
    (fun t c => Unfailed t c ∧ JustifiedInStream SilentAfterFailed t) ?_ ?_ hclosed
  · obtain ⟨hunfailed, hjust⟩ := hrun
    rw [List.nil_append] at hunfailed hjust
    refine ⟨?_, hjust⟩
    rintro ⟨e, he, hfailed⟩
    apply Option.eq_none_iff_forall_not_mem.mpr
    intro stream hstream
    exact (hunfailed stream hstream).2 e he hfailed
  · rintro t c i ⟨hunfailed, hjust⟩ hC
    exact ⟨hunfailed.move (charger_move c i) hC,
      hunfailed.justifies (charger_move c i) hjust⟩
  · exact ⟨fun stream hstream => (by cases hstream), justified_nil⟩

/-- A granted authorization, and a SessionSetupReq out of sequence after it. -/
theorem failed_terminates_sample :
    FailedCloses
        ((charger sampleBuild sampleCodec emptyCodec20).run
          { station := sampleStation, stream := none }
          (sampleDiscovery true ++ [sampleRequest 2 true true])).2
        ((charger sampleBuild sampleCodec emptyCodec20).run
          { station := sampleStation, stream := none }
          (sampleDiscovery true ++ [sampleRequest 2 true true])).1 ∧
      JustifiedInStream SilentAfterFailed
        ((charger sampleBuild sampleCodec emptyCodec20).run
          { station := sampleStation, stream := none }
          (sampleDiscovery true ++ [sampleRequest 2 true true])).2 :=
  failed_terminates _ _ _ _ _ (by decide)

/-- After a refused authorization, ChargeParameterDiscovery is dispatched. -/
theorem not_terminated_after_refusal :
    ¬∀ (build : Build) (codec : Codec) (codec20 : Codec20) (station : Station)
      (inputs : List ChargerInput),
      FailedCloses ((charger build codec codec20).run { station, stream := none } inputs).2
          ((charger build codec codec20).run { station, stream := none } inputs).1 ∧
        JustifiedInStream SilentAfterFailed
          ((charger build codec codec20).run { station, stream := none } inputs).2 := by
  intro h
  obtain ⟨-, hrun⟩ := h sampleBuild sampleCodec emptyCodec20 sampleStation
    (sampleDiscovery false ++ [sampleRequest 6 false true])
  rw [Machine.run_concat] at hrun
  -- the last event is the dispatched ChargeParameterDiscoveryReq
  exact hrun _ _ [] rfl (by decide) trivial

end Jpv2g
