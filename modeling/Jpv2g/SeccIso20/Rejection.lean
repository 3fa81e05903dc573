import Jpv2g.SeccIso20.Contactor

/-!
# Refused and Unanswered ISO 15118-20 Frames

A request that fails the session or the sequence check is answered in isolation: no hook is
invoked, the flags stay, and the answer is the minimal response of the request's own kind.

## Main definitions

* `s20RefusalRes`: the response to a refused request.
* `secc20OutPayloadId`: the payload type a response is framed with.
* `RefusedCleanly`: the effect of a refusal.
* `Unmoved`: handling has changed nothing.
* `commitsBeforeEncode`: a request changes something before its response is encoded.

## Main results

* `refused_isolated`: every refusal is clean when its response encodes.
* `s20Handle_commits`: what a handler changes before its encode, request by request.
* `unanswered_noop_iff`: an unanswered frame changes nothing exactly when its request commits
  nothing early.
-/

namespace Jpv2g

/-! ## Refusals -/

/-- The code of a refusal: the session check comes before the sequence check. -/
def s20RefusalCode (s : Secc20) (doc : V2gDoc Body20) : ResponseCode20 :=
  if s20UnknownSession s doc then .failedUnknownSession else .failedSequenceError

/-- The response to a refused request, which depends on its kind only. -/
def s20RefusalRes (env : Env20) (s : Secc20) (doc : V2gDoc Body20) : Option Res20 :=
  (s20MinimalBody env s doc.body.kind).map (s20FillHeader env s (s20RefusalCode s doc))

/-- The payload type the response is framed with, where the call names one
(`*out_payload_id`). -/
def secc20OutPayloadId (env : Env20) (s : Secc20) (payloadType : PayloadType)
    (exi : List UInt8) : Option PayloadType :=
  if exi = [] ∨ s.state = .ended ∨ s20SequenceExpired env s then none
  else
    match payloadType with
    | .exi20Mainstream => some .exi20Mainstream
    | .exi20Dc => some .exi20Dc
    | _ => none

/-- The fields of a session that a refusal leaves alone. -/
structure SameFlags (s after : Secc20) : Prop where
  sessionId_eq : after.sessionId = s.sessionId
  sessionEstablished_eq : after.sessionEstablished = s.sessionEstablished
  contactorClosed_eq : after.contactorClosed = s.contactorClosed
  cableCheckStarted_eq : after.cableCheckStarted = s.cableCheckStarted
  chargeLoopStarted_eq : after.chargeLoopStarted = s.chargeLoopStarted

/-- The effect of a refusal: one minimal response, no hook, and the end of the session. -/
structure RefusedCleanly (codec : Codec20) (s : Secc20) (input : FrameInput20)
    (doc : V2gDoc Body20) (bytes : List UInt8) (result : HandlerResult20) : Prop where
  calls_eq : result.calls = []
  rc_eq : result.rc = .ok bytes
  res_eq : result.res = s20RefusalRes input.env s doc
  answers : ∃ res, result.res = some res ∧ codec.encode res input.outCap = some bytes ∧
    res.body.kind = doc.body.kind ∧ res.sessionId = s.sessionId ∧
    res.responseCode = s20RefusalCode s doc
  payload_eq : secc20OutPayloadId input.env s input.payloadType input.exi =
    some input.payloadType
  same : SameFlags s result.session
  disposition_eq : result.disposition = .doneFailed
  state_eq : result.session.state = .ended

section Refused

variable {codec : Codec20} {s : Secc20} {input : FrameInput20} {doc : V2gDoc Body20}
  {bytes : List UInt8}

/-- A frame that decodes is framed with its own payload type. -/
theorem secc20OutPayloadId_of_decode (hreads : Reads input.env s input.exi)
    (hdecode : s20Decode codec input.payloadType input.exi = some doc) :
    secc20OutPayloadId input.env s input.payloadType input.exi = some input.payloadType := by
  unfold secc20OutPayloadId
  unfold s20Decode at hdecode
  rw [if_neg (by simp [hreads.exi_ne, hreads.live, hreads.in_time])]
  cases hpayload : input.payloadType with
  | exi20Mainstream | exi20Dc => rfl
  -- the module decodes no other payload
  | _ => simp [hpayload] at hdecode

/-- The receipt does not change the minimal response. -/
theorem s20MinimalBody_received {env : Env20} {kind : Req20} :
    s20MinimalBody env s.received kind = s20MinimalBody env s kind :=
  s20MinimalBody_congr rfl

/-- The response of the minimal builder. -/
theorem s20BuildRes_res {env : Env20} {outCap : ℕ} {calls : List Call20} {kind : Req20}
    {code : ResponseCode20} :
    (s20BuildRes codec env outCap s.received calls kind code).res =
      (s20MinimalBody env s kind).map (s20FillHeader env s code) := by
  rw [s20BuildRes, s20MinimalBody_received]
  cases s20MinimalBody env s kind <;> rfl

/-- The minimal builder returns the encoding of its response. -/
theorem s20BuildRes_ok {env : Env20} {outCap : ℕ} {calls : List Call20} {kind : Req20}
    {code : ResponseCode20} (hencode : ((s20MinimalBody env s kind).map
      (s20FillHeader env s code)).bind (codec.encode · outCap) = some bytes) :
    (s20BuildRes codec env outCap s.received calls kind code).rc = .ok bytes := by
  obtain ⟨res, hres, hencode⟩ := Option.bind_eq_some_iff.mp hencode
  obtain ⟨body, hbody, rfl⟩ := Option.map_eq_some_iff.mp hres
  rw [s20BuildRes, s20MinimalBody_received, hbody]
  change s20Encode codec outCap (s20FillHeader env s code body) = .ok bytes
  rw [s20Encode, hencode]

/-- A refusal whose response encodes is clean. -/
theorem refusal_clean (hkind : doc.body.kind ≠ .none) (hreads : Reads input.env s input.exi)
    (hdecode : s20Decode codec input.payloadType input.exi = some doc)
    (hencode : (s20RefusalRes input.env s doc).bind (codec.encode · input.outCap) = some bytes) :
    RefusedCleanly codec s input doc bytes (s20Conclude input.env
      (s20BuildRes codec input.env input.outCap s.received [] doc.body.kind
        (s20RefusalCode s doc))) := by
  have hcarries : CarriesOut
      (s20BuildRes codec input.env input.outCap s.received [] doc.body.kind
        (s20RefusalCode s doc)) s.received [] (s20RefusalCode s doc) .continue :=
    s20BuildRes_carriesOut hkind
  have hrc : (s20BuildRes codec input.env input.outCap s.received [] doc.body.kind
      (s20RefusalCode s doc)).rc = .ok bytes := s20BuildRes_ok hencode
  obtain ⟨hok, ⟨res, hres, henc, hcode, hsid, hreskind⟩, hdisposition, hsession⟩ :=
    answers_of_ok input.env hcarries (s20BuildRes_replies (s := s) rfl) hrc
  -- both codes are failures, which end the session
  have hfailed : concludeDisposition (s20RefusalCode s doc) .continue = .doneFailed := by
    rw [concludeDisposition, s20RefusalCode]
    split_ifs <;> simp_all [ResponseCode20.value, rcFailed]
  rw [hfailed] at hdisposition hsession
  rw [concludeSession, if_neg (by simp)] at hsession
  refine ⟨by rw [s20Conclude_calls, hcarries.calls_eq], hok, ?_,
    ⟨res, hres, henc, hreskind, hsid, hcode⟩, secc20OutPayloadId_of_decode hreads hdecode, ?_,
    hdisposition, by rw [hsession]⟩
  · rw [s20Conclude_res, s20BuildRes_res]
    rfl
  · rw [hsession]
    exact ⟨rfl, rfl, rfl, rfl, rfl⟩

/-- Every request that fails the session or the sequence check is refused cleanly: whatever the
request carries, no hook is invoked and the flags stay, and the one response is the minimal response
of its kind under the live identifier. -/
theorem refused_isolated (codec : Codec20) (s : Secc20) (input : FrameInput20)
    (doc : V2gDoc Body20) (bytes : List UInt8) (hreads : Reads input.env s input.exi)
    (hdecode : s20Decode codec input.payloadType input.exi = some doc)
    (hkind : doc.body.kind ≠ .none)
    (hrefused : s20UnknownSession s doc = true ∨ s20StateAccepts s.state doc.body.kind = false)
    (hencode : (s20RefusalRes input.env s doc).bind (codec.encode · input.outCap) = some bytes) :
    RefusedCleanly codec s input doc bytes
      (secc20HandleFrame codec input.env input.outCap s input.payloadType input.exi) := by
  have hclean := refusal_clean hkind hreads hdecode hencode
  have hframe := receives codec input.env input.outCap s input.payloadType input.exi
  generalize secc20HandleFrame codec input.env input.outCap s input.payloadType input.exi =
    result at hframe
  cases hframe with
  | empty hexi => exact absurd hexi hreads.exi_ne
  | ended _ hended => exact absurd hended hreads.live
  | expired _ _ hexpired => exact absurd (hreads.in_time.symm.trans hexpired) (by simp)
  | undecodable _ hnone => exact absurd (hnone doc hdecode) hkind
  -- the unknown session is told before the order of the requests
  | unknownSession _ hdecode' _ hunknown =>
    cases hdecode.symm.trans hdecode'
    rwa [s20RefusalCode, if_pos hunknown] at hclean
  | outOfSequence _ hdecode' _ hknown =>
    cases hdecode.symm.trans hdecode'
    rwa [s20RefusalCode, if_neg (by simp [hknown])] at hclean
  | handled _ hdecode' hadmits =>
    cases hdecode.symm.trans hdecode'
    rw [s20Admits] at hadmits
    rcases hrefused with hunknown | hsequence
    · simp [hunknown] at hadmits
    · simp [hsequence] at hadmits

/-- The session of the sample frames after its SessionSetup. -/
def sampleSetUp : Secc20 :=
  ((secc20Machine sampleCodec20).run (.init sampleConfig20)
    [.frame (sampleFrame .exi20Mainstream 0)]).1

/-- An AuthorizationReq before the AuthorizationSetupReq is refused cleanly. -/
theorem refused_isolated_sample :
    RefusedCleanly sampleCodec20 sampleSetUp (sampleFrame .exi20Mainstream 2)
      ⟨sampleSid.1, .common (.authorizationReq .eim)⟩ []
      (secc20HandleFrame sampleCodec20 sampleEnv20 4096 sampleSetUp .exi20Mainstream [2]) :=
  refused_isolated sampleCodec20 sampleSetUp (sampleFrame .exi20Mainstream 2) _ _
    ⟨by decide, by decide, by decide⟩ rfl (by decide) (.inr (by decide)) rfl

end Refused

/-! ## Unanswered frames -/

/-- Handling has changed nothing: the session, up to its last response code, is as before, no hook
has been invoked and the caller is told to continue. -/
@[mk_iff]
structure Unmoved (s : Secc20) (result : HandlerResult20) : Prop where
  state_eq : result.session.state = s.state
  sessionId_eq : result.session.sessionId = s.sessionId
  sessionEstablished_eq : result.session.sessionEstablished = s.sessionEstablished
  contactorClosed_eq : result.session.contactorClosed = s.contactorClosed
  cableCheckStarted_eq : result.session.cableCheckStarted = s.cableCheckStarted
  chargeLoopStarted_eq : result.session.chargeLoopStarted = s.chargeLoopStarted
  seOngoingDeadlineMs_eq : result.session.seOngoingDeadlineMs = s.seOngoingDeadlineMs
  eimOngoingDeadlineMs_eq : result.session.eimOngoingDeadlineMs = s.eimOngoingDeadlineMs
  calls_eq : result.calls = []
  disposition_eq : result.disposition = .continue

/-- An admitted request moves the session, invokes a hook or sets a disposition before its
response is encoded. -/
def commitsBeforeEncode (s : Secc20) (env : Env20) : Body20 → Bool
  | .common (.sessionSetupReq _) | .common .authorizationSetupReq
  | .common (.serviceDiscoveryReq _) => true
  | .common (.authorizationReq selected) =>
    s.eimOngoingDeadlineMs == 0 ||
      selected == .eim && decide (env.nowHandler ≤ s.eimOngoingDeadlineMs) &&
        s.cfg.callbacks.authStatus
  | .common (.serviceSelectionReq serviceId parameterSetId selectedVasCount) =>
    serviceId == dcServiceId && parameterSetId == dcParameterSetId && selectedVasCount == 0
  | .common (.scheduleExchangeReq dynamicMode scheduledMode) =>
    s.seOngoingDeadlineMs == 0 ||
      !dynamicMode && scheduledMode && decide (env.nowHandler ≤ s.seOngoingDeadlineMs)
  | .common (.powerDeliveryReq progress tuple) =>
    !tuple.any (· ≠ scheduleTupleId) &&
      (progress == .stop ||
        progress == .start && s.state != .chargeLoop && s.cfg.callbacks.contactorSet)
  | .common (.sessionStopReq action terminationCode explanation) =>
    action != .serviceRenegotiation || !(terminationCalls s terminationCode explanation).isEmpty
  | .dc (.chargeParameterDiscoveryReq bptMode dcMode) => !bptMode && dcMode.isSome
  | .dc .cableCheckReq => !s.cableCheckStarted || s.cfg.callbacks.cableCheckStatus
  | .dc (.preChargeReq _ _) =>
    s.state == .preCharge || s.cfg.callbacks.onPrechargeTarget || s.cfg.callbacks.getPresent
  | .dc (.chargeLoopReq req) =>
    req.scheduled.isSome && !req.otherControlMode &&
      (!s.chargeLoopStarted || s.cfg.callbacks.onChargeTargets ||
        req.displayParameters.isSome && s.cfg.callbacks.onDisplayParameters ||
        s.cfg.callbacks.getPresent || s.cfg.callbacks.getDcLimits ||
        s.cfg.callbacks.stopRequest || req.meterInfoRequested && s.cfg.callbacks.getMeter)
  | .dc (.weldingDetectionReq evProcessing) =>
    evProcessing == .finished || s.cfg.callbacks.getPresent
  -- a ServiceDetail changes nothing, and no state accepts the remaining kinds
  | _ => false

/-- No hook is called that is not installed. -/
@[simp]
theorem invoke_eq_nil {installed : Bool} {call : Call20} :
    invoke installed call = [] ↔ installed = false := by
  cases installed <;> simp [invoke]

section Commits

variable (codec : Codec20) (env : Env20) (outCap : ℕ) (s : Secc20)

/-- Handling moves nothing exactly when the request commits nothing before its encode. -/
def CommitsExactly (s : Secc20) (env : Env20) (body : Body20) (result : HandlerResult20) : Prop :=
  Unmoved s result ↔ commitsBeforeEncode s env body = false

/-- What the handler of a AuthorizationReq commits before the response is encoded. -/
theorem s20HandleAuthorization_commits (selected : Authorization20)
    (hstate : s.state = .authorization) :
    CommitsExactly s env (.common (.authorizationReq selected))
      (s20HandleAuthorization codec env outCap s selected) := by
  unfold CommitsExactly s20HandleAuthorization commitsBeforeEncode
  dsimp only
  by_cases harmed : s.eimOngoingDeadlineMs = 0
  -- the first request starts the timer, or moves on
  · have hstarted : s.startEimTimer env.nowHandler =
        { s with eimOngoingDeadlineMs := env.nowHandler + Secc20.eimOngoingTimeoutMs } :=
      if_pos harmed
    rw [hstarted]
    split_ifs
    · simp [unmoved_iff, harmed, Secc20.eimOngoingTimeoutMs]
    · simp [unmoved_iff, harmed, Secc20.eimOngoingTimeoutMs]
    · split <;> simp [unmoved_iff, harmed, hstate, Secc20.eimOngoingTimeoutMs]
  · have hstarted : s.startEimTimer env.nowHandler = s := if_neg harmed
    rw [hstarted]
    split_ifs with hselected hexpired
    · simp [unmoved_iff, harmed, hselected]
    · simp [unmoved_iff, harmed, Nat.not_le.mpr hexpired]
    · have hintime : env.nowHandler ≤ s.eimOngoingDeadlineMs := Nat.le_of_not_gt hexpired
      rw [not_not] at hselected
      cases hinstalled : s.cfg.callbacks.authStatus with
      | true => split <;> simp [unmoved_iff, hselected, hintime]
      | false => simp [s20CbAuth, unmoved_iff, hinstalled, harmed]

/-- What the handler of a SessionSetupReq commits before the response is encoded. -/
theorem s20HandleSessionSetup_commits (evccId : List Char) (hstate : s.state = .sessionSetup) :
    CommitsExactly s env (.common (.sessionSetupReq evccId))
      (s20HandleSessionSetup codec env outCap s evccId) := by
  unfold CommitsExactly s20HandleSessionSetup commitsBeforeEncode
  dsimp only
  simp [unmoved_iff, hstate]

/-- What the handler of a ServiceSelectionReq commits before the response is encoded. -/
theorem s20HandleServiceSelection_commits (serviceId parameterSetId selectedVasCount : ℕ)
    (hstate : s.state = .serviceDetail) :
    CommitsExactly s env
      (.common (.serviceSelectionReq serviceId parameterSetId selectedVasCount))
      (s20HandleServiceSelection codec env outCap s serviceId parameterSetId
        selectedVasCount) := by
  unfold CommitsExactly s20HandleServiceSelection commitsBeforeEncode
  dsimp only
  split_ifs with hid hset
  · simp [unmoved_iff, hid]
  · rcases hset with hset | hvas
    · simp [unmoved_iff, hset]
    · simp [unmoved_iff, Nat.ne_of_gt hvas]
  · rw [not_or, not_not, Nat.pos_iff_ne_zero, not_not] at hset
    simp [unmoved_iff, hstate, not_not.mp hid, hset.1, hset.2]

/-- What the handler of a ScheduleExchangeReq commits before the response is encoded. -/
theorem s20HandleScheduleExchange_commits (dynamicMode scheduledMode : Bool)
    (hstate : s.state = .scheduleExchange) :
    CommitsExactly s env (.common (.scheduleExchangeReq dynamicMode scheduledMode))
      (s20HandleScheduleExchange codec env outCap s dynamicMode scheduledMode) := by
  unfold CommitsExactly s20HandleScheduleExchange commitsBeforeEncode
  dsimp only
  by_cases harmed : s.seOngoingDeadlineMs = 0
  · have hstarted : s.startSeTimer env.nowHandler =
      { s with seOngoingDeadlineMs := env.nowHandler + Secc20.seOngoingTimeoutMs } := if_pos harmed
    rw [hstarted]
    split_ifs
    · simp [unmoved_iff, harmed, Secc20.seOngoingTimeoutMs]
    · simp [unmoved_iff, harmed, hstate]
  · have hstarted : s.startSeTimer env.nowHandler = s := if_neg harmed
    rw [hstarted]
    split_ifs with hfail
    · simp [unmoved_iff, harmed]
      grind
    · simp [unmoved_iff, harmed, hstate]
      grind

/-- What the handler of a PowerDeliveryReq commits before the response is encoded. -/
theorem s20HandlePowerDelivery_commits (progress : ChargeProgress20) (tuple : Option ℕ)
    (hstate : s.state = .powerDelivery ∨ s.state = .chargeLoop) :
    CommitsExactly s env (.common (.powerDeliveryReq progress tuple))
      (s20HandlePowerDelivery codec env outCap s progress tuple) := by
  unfold CommitsExactly s20HandlePowerDelivery commitsBeforeEncode
  dsimp only
  generalize tuple.any (· ≠ scheduleTupleId) = wrong
  cases wrong with
  | true => simp [unmoved_iff]
  | false =>
    cases progress with
    | start =>
      simp only [s20PowerDeliveryStart, Bool.false_eq_true, if_false]
      split_ifs with hloop hconfirmed
      · simp [unmoved_iff, hloop]
      · -- without a hook the contactor refuses to close
        have hinstalled : s.cfg.callbacks.contactorSet = true := by
          unfold s20CbContactor at hconfirmed
          split at hconfirmed
          · assumption
          · cases hconfirmed
        simp [unmoved_iff, hloop, contactorCall, hinstalled]
      · simp [unmoved_iff, hloop, contactorCall]
    | stop =>
      -- the stop moves on to the welding detection in any case
      have hleaves : State20.welding ≠ s.state := by
        rcases hstate with h | h <;> simp [h]
      simp [s20PowerDeliveryStop, unmoved_iff, hleaves]
    | standby | scheduleRenegotiation => simp [unmoved_iff]

/-- What the handler of a SessionStopReq commits before the response is encoded. -/
theorem s20HandleSessionStop_commits (action : ChargingSession20)
    (terminationCode explanation : Option (List Char)) :
    CommitsExactly s env (.common (.sessionStopReq action terminationCode explanation))
      (s20HandleSessionStop codec env outCap s action terminationCode explanation) := by
  unfold CommitsExactly commitsBeforeEncode
  dsimp only
  cases action with
  | serviceRenegotiation => simp [s20HandleSessionStop, unmoved_iff]
  | pause | terminate | reserved => simp [s20HandleSessionStop, unmoved_iff]

/-- What the handler of a DC_ChargeParameterDiscoveryReq commits before the response is encoded. -/
theorem s20HandleDcCpd_commits (bptMode : Bool) (dcMode : Option DcCpdReqEnergyTransferMode)
    (hstate : s.state = .dcCpd) :
    CommitsExactly s env (.dc (.chargeParameterDiscoveryReq bptMode dcMode))
      (s20HandleDcCpd codec env outCap s bptMode dcMode) := by
  unfold CommitsExactly s20HandleDcCpd commitsBeforeEncode
  cases bptMode <;> cases dcMode <;>
    simp [unmoved_iff, hstate]

/-- What the handler of a DC_CableCheckReq commits before the response is encoded. -/
theorem s20HandleDcCableCheck_commits :
    CommitsExactly s env (.dc .cableCheckReq) (s20HandleDcCableCheck codec env outCap s) := by
  unfold CommitsExactly s20HandleDcCableCheck commitsBeforeEncode
  dsimp only
  cases hinstalled : s.cfg.callbacks.cableCheckStatus with
  | true => split <;> simp [unmoved_iff, cableCheckCalls, hinstalled]
  | false =>
    -- without a hook the isolation is ongoing
    cases hstarted : s.cableCheckStarted <;>
      simp [s20CbCableCheck, unmoved_iff, cableCheckCalls, hinstalled, hstarted]

/-- What the handler of a DC_PreChargeReq commits before the response is encoded. -/
theorem s20HandleDcPreCharge_commits (target present : RationalNumber) :
    CommitsExactly s env (.dc (.preChargeReq target present))
      (s20HandleDcPreCharge codec env outCap s target present) := by
  unfold CommitsExactly s20HandleDcPreCharge commitsBeforeEncode
  dsimp only
  by_cases hstate : s.state = .preCharge
  · simp [hstate, unmoved_iff]
  · simp [hstate, unmoved_iff, presentCall]

/-- What the handler of a DC_WeldingDetectionReq commits before the response is encoded. -/
theorem s20HandleDcWelding_commits (evProcessing : Processing20) (hstate : s.state = .welding) :
    CommitsExactly s env (.dc (.weldingDetectionReq evProcessing))
      (s20HandleDcWelding codec env outCap s evProcessing) := by
  unfold CommitsExactly s20HandleDcWelding commitsBeforeEncode
  dsimp only
  by_cases hfinished : evProcessing = .finished
  · simp [hstate, hfinished, unmoved_iff]
  · simp [hfinished, unmoved_iff, presentCall]

/-- What the handler of a DC_ChargeLoopReq commits before the response is encoded. -/
theorem s20HandleDcChargeLoop_commits (req : DcChargeLoopReq) :
    CommitsExactly s env (.dc (.chargeLoopReq req))
      (s20HandleDcChargeLoop codec env outCap s req) := by
  unfold CommitsExactly s20HandleDcChargeLoop commitsBeforeEncode
  cases hscheduled : req.scheduled with
  | none => simp [unmoved_iff, hscheduled]
  | some targets =>
    cases hother : req.otherControlMode with
    | true => simp [unmoved_iff, hscheduled, hother]
    | false =>
      cases hstarted : s.chargeLoopStarted <;> cases hdisplay : req.displayParameters <;>
        simp [unmoved_iff, hscheduled, hother, hstarted, hdisplay, chargeLoopCalls, presentCall,
          limitsCall, and_assoc]

/-- Handling an admitted request moves nothing exactly when it commits nothing early. -/
theorem s20Handle_commits {body : Body20} (h : s20StateAccepts s.state body.kind = true) :
    CommitsExactly s env body (s20Handle codec env outCap s body) := by
  have hstates := mem_acceptingStates h
  rcases body with body | body <;> cases body
  case common.sessionSetupReq =>
    exact s20HandleSessionSetup_commits _ _ _ _ _ (List.mem_singleton.mp hstates)
  case common.authorizationSetupReq =>
    have hstate : s.state = .authSetup := List.mem_singleton.mp hstates
    simp [CommitsExactly, s20Handle, s20HandleAuthSetup, unmoved_iff, commitsBeforeEncode, hstate]
  case common.authorizationReq =>
    exact s20HandleAuthorization_commits _ _ _ _ _ (List.mem_singleton.mp hstates)
  case common.serviceDiscoveryReq =>
    have hstate : s.state = .serviceDiscovery := List.mem_singleton.mp hstates
    rw [CommitsExactly, s20Handle, s20HandleServiceDiscovery, commitsBeforeEncode]
    split_ifs <;> simp [unmoved_iff, hstate]
  case common.serviceDetailReq =>
    rw [CommitsExactly, s20Handle, s20HandleServiceDetail]
    split_ifs <;> simp [unmoved_iff, commitsBeforeEncode]
  case common.serviceSelectionReq =>
    exact s20HandleServiceSelection_commits _ _ _ _ _ _ _ (List.mem_singleton.mp hstates)
  case common.scheduleExchangeReq =>
    exact s20HandleScheduleExchange_commits _ _ _ _ _ _ (List.mem_singleton.mp hstates)
  case common.powerDeliveryReq =>
    exact s20HandlePowerDelivery_commits _ _ _ _ _ _ (List.mem_pair.mp hstates)
  case common.sessionStopReq => exact s20HandleSessionStop_commits ..
  case dc.chargeParameterDiscoveryReq =>
    exact s20HandleDcCpd_commits _ _ _ _ _ _ (List.mem_singleton.mp hstates)
  case dc.cableCheckReq => exact s20HandleDcCableCheck_commits ..
  case dc.preChargeReq => exact s20HandleDcPreCharge_commits ..
  case dc.chargeLoopReq => exact s20HandleDcChargeLoop_commits ..
  case dc.weldingDetectionReq =>
    exact s20HandleDcWelding_commits _ _ _ _ _ (List.mem_singleton.mp hstates)
  -- the remaining kinds are accepted in no state
  all_goals cases hstates

end Commits

section Unanswered

variable {codec : Codec20} {env : Env20} {s : Secc20} {result : HandlerResult20}

/-- The receipt of a frame is not among the changes. -/
theorem unmoved_received : Unmoved s.received result ↔ Unmoved s result := by
  rw [unmoved_iff, unmoved_iff]
  rfl

/-- The request commits nothing early, before or after the receipt. -/
theorem commitsBeforeEncode_received {body : Body20} :
    commitsBeforeEncode s.received env body = commitsBeforeEncode s env body := by
  rcases body with body | body <;> cases body <;> rfl

end Unanswered

/-- A frame answered with `-EBADMSG` has changed nothing exactly when it hands over no request, or
one that commits nothing before its response is encoded. -/
def UnansweredIsNoop : Event20 → Prop
  | .frame f => f.result.rc = .error .ebadmsg →
      (Unmoved f.before f.result ↔
        ∀ doc, f.request = some doc → commitsBeforeEncode f.before f.env doc.body = false)
  | .reset => True

/-- Every frame, from every session. -/
theorem secc20Frame_noop (codec : Codec20) (s : Secc20) (input : FrameInput20) :
    UnansweredIsNoop
      (.frame (secc20Frame codec input.env input.outCap s input.payloadType input.exi)) := by
  intro hrc
  have hframe := receives codec input.env input.outCap s input.payloadType input.exi
  dsimp only [secc20Frame] at hrc ⊢
  generalize secc20HandleFrame codec input.env input.outCap s input.payloadType input.exi =
    result at hframe hrc
  cases hframe with
  | empty | ended | expired => cases hrc
  | undecodable hreads hdecode =>
    -- only the receipt of the frame is noted
    refine iff_of_true ⟨rfl, rfl, rfl, rfl, rfl, rfl, rfl, rfl, rfl, rfl⟩ ?_
    intro doc hdoc
    rw [handledRequest_of_reads _ _ _ hreads] at hdoc
    obtain ⟨hdoc, hadmits⟩ := Option.filter_eq_some_iff.mp hdoc
    simp [s20Admits, hdecode doc hdoc, s20StateAccepts_none] at hadmits
  | unknownSession hreads hdecode hkind hunknown =>
    rw [s20Conclude_rc] at hrc
    rw [s20Conclude_of_error hrc, handledRequest_of_decode _ _ _ hreads hdecode]
    exact iff_of_true (by simp [unmoved_iff, Secc20.received]) (by simp [s20Admits, hunknown])
  | outOfSequence hreads hdecode hkind hknown hsequence =>
    rw [s20Conclude_rc] at hrc
    rw [s20Conclude_of_error hrc, handledRequest_of_decode _ _ _ hreads hdecode]
    exact iff_of_true (by simp [unmoved_iff, Secc20.received]) (by simp [s20Admits, hsequence])
  | @handled doc hreads hdecode hadmits =>
    have haccepts : s20StateAccepts s.received.state doc.body.kind = true :=
      s20StateAccepts_of_admits hadmits
    -- a handler that could not encode its response may have moved on before
    have hcommits := s20Handle_commits codec input.env input.outCap s.received haccepts
    rw [CommitsExactly, unmoved_received, commitsBeforeEncode_received] at hcommits
    rw [s20Conclude_rc] at hrc
    rw [s20Conclude_of_error hrc, handledRequest_of_decode _ _ _ hreads hdecode, if_pos hadmits,
      hcommits]
    simp

/-- In every run of frames and resets, a frame answered with `-EBADMSG` has changed nothing exactly
when it hands over no request, or one that commits nothing before its response is encoded. -/
theorem unanswered_noop_iff (codec : Codec20) (cfg : Config20) (inputs : List Input20) :
    ∀ e ∈ ((secc20Machine codec).run (.init cfg) inputs).2, UnansweredIsNoop e := by
  have hrun := (secc20Machine codec).run_induction (fun t _ => ∀ e ∈ t, UnansweredIsNoop e) ?_
    (t := []) (s := .init cfg) (by simp) inputs
  · simpa using hrun
  · intro t s i ht e he
    rcases List.mem_append.mp he with he | he
    · exact ht e he
    · cases i with
      | reset nowMs =>
        obtain rfl := List.mem_singleton.mp he
        trivial
      | frame input =>
        obtain rfl := List.mem_singleton.mp he
        exact secc20Frame_noop codec s input

/-- A codec that encodes no response. -/
def mutedCodec : Codec20 := { sampleCodec20 with encode := fun _ _ => none }

/-- An AuthorizationSetupReq is refused before there is a session, and the refusal is not encoded:
nothing has changed. -/
theorem unanswered_noop_sample :
    let input := sampleFrame .exi20Mainstream 1
    let f := secc20Frame mutedCodec input.env input.outCap (.init sampleConfig20)
      input.payloadType input.exi
    (mutedCodec.decodeCommon input.exi).isSome = true ∧ f.result.rc = .error .ebadmsg ∧
      (Unmoved f.before f.result ↔
        ∀ doc, f.request = some doc → commitsBeforeEncode f.before f.env doc.body = false) :=
  ⟨rfl, rfl, unanswered_noop_iff mutedCodec sampleConfig20
    [.frame (sampleFrame .exi20Mainstream 1)] _ (List.mem_singleton.mpr rfl) rfl⟩

/-- A SessionSetupReq whose response does not fit the buffer is answered with `-EBADMSG`, and has
established a session. -/
theorem not_noop_when_encode_fails :
    ¬∀ (codec : Codec20) (cfg : Config20) (inputs : List Input20),
      ∀ e ∈ ((secc20Machine codec).run (.init cfg) inputs).2, ∀ f, e = .frame f →
        f.result.rc = .error .ebadmsg → Unmoved f.before f.result := by
  intro h
  have hrun := h mutedCodec sampleConfig20
    [.frame (sampleFrame .exi20Mainstream 0)] _ (List.mem_singleton.mpr rfl) _ rfl rfl
  cases hrun.state_eq

end Jpv2g
