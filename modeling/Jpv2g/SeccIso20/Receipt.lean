import Jpv2g.SeccIso20.Handles

/-!
# What Becomes of an ISO 15118-20 Frame

The exits of the frame handler, by the first check that stops the frame, and the responses that
are handed to the encoder on the way.

## Main definitions

* `Receives`: the exits of the frame handler.
* `Res20Body.kind`: the kind of request a response belongs to.
* `FilledBody`: the responses a handler encodes after the minimal one.
* `Replies`: what a handler hands to the encoder, and what it returns.
* `Answers`: what the caller is given when the response of a handler encodes.

## Main results

* `receives`: every frame takes one of the exits.
* `s20Handle_replies`: the responses of every handler.
* `answers_of_ok`: the termination rule applied to an encoded response.
-/

namespace Jpv2g

/-! ## The exits -/

/-- The session of a frame in progress: its sequence timer is stopped. -/
def Secc20.received (s : Secc20) : Secc20 :=
  { s with sequenceDeadlineMs := 0 }

/-- A frame that is not answered: no hook is invoked and nothing is produced. -/
def unanswered (s : Secc20) (e : Errno) : HandlerResult20 :=
  { session := s, calls := [], res := none, rc := .error e, disposition := .continue }

section Exits

variable (codec : Codec20) (env : Env20) (outCap : ℕ) (s : Secc20) (payloadType : PayloadType)
  (exi : List UInt8)

/-- The frame gets as far as its payload: it is well formed, the session runs and the sequence
timer has not expired. -/
structure Reads : Prop where
  exi_ne : exi ≠ []
  live : s.state ≠ .ended
  in_time : s20SequenceExpired env s = false

/-- The exits of the frame handler. -/
inductive Receives : HandlerResult20 → Prop
  | empty (hexi : exi = []) : Receives (unanswered s .einval)
  | ended (hexi : exi ≠ []) (hended : s.state = .ended) : Receives (unanswered s .eproto)
  | expired (hexi : exi ≠ []) (hlive : s.state ≠ .ended)
      (hexpired : s20SequenceExpired env s = true) :
      Receives (unanswered { s with state := .ended } .etimedout)
  | undecodable (hreads : Reads env s exi)
      (hdecode : ∀ doc, s20Decode codec payloadType exi = some doc → doc.body.kind = .none) :
      Receives (unanswered s.received .ebadmsg)
  | unknownSession {doc : V2gDoc Body20} (hreads : Reads env s exi)
      (hdecode : s20Decode codec payloadType exi = some doc) (hkind : doc.body.kind ≠ .none)
      (hunknown : s20UnknownSession s doc = true) :
      Receives (s20Conclude env
        (s20BuildRes codec env outCap s.received [] doc.body.kind .failedUnknownSession))
  | outOfSequence {doc : V2gDoc Body20} (hreads : Reads env s exi)
      (hdecode : s20Decode codec payloadType exi = some doc) (hkind : doc.body.kind ≠ .none)
      (hknown : s20UnknownSession s doc = false)
      (hsequence : s20StateAccepts s.state doc.body.kind = false) :
      Receives (s20Conclude env
        (s20BuildRes codec env outCap s.received [] doc.body.kind .failedSequenceError))
  | handled {doc : V2gDoc Body20} (hreads : Reads env s exi)
      (hdecode : s20Decode codec payloadType exi = some doc)
      (hadmits : s20Admits s doc = true) :
      Receives (s20Conclude env (s20Handle codec env outCap s.received doc.body))

/-- No state accepts a document that carries no request. -/
theorem s20StateAccepts_none (state : State20) : s20StateAccepts state .none = false := by
  cases state <;> rfl

/-- An admitted request is one that the state accepts. -/
theorem s20StateAccepts_of_admits {s : Secc20} {doc : V2gDoc Body20}
    (h : s20Admits s doc = true) : s20StateAccepts s.state doc.body.kind = true := by
  rw [s20Admits, Bool.and_eq_true] at h
  exact h.2

/-- Every frame takes one of the exits. -/
theorem receives :
    Receives codec env outCap s payloadType exi
      (secc20HandleFrame codec env outCap s payloadType exi) := by
  rw [secc20HandleFrame]
  by_cases hexi : exi = []
  · rw [if_pos hexi]
    exact .empty hexi
  rw [if_neg hexi]
  by_cases hended : s.state = .ended
  · rw [if_pos hended]
    exact .ended hexi hended
  rw [if_neg hended]
  by_cases hexpired : s20SequenceExpired env s = true
  · rw [if_pos hexpired]
    exact .expired hexi hended hexpired
  rw [if_neg hexpired]
  change Receives codec env outCap s payloadType exi
    (s20Conclude env (s20DispatchFrame codec env outCap s.received payloadType exi))
  have hreads : Reads env s exi := ⟨hexi, hended, Bool.eq_false_of_not_eq_true hexpired⟩
  rw [s20DispatchFrame]
  cases hdecode : s20Decode codec payloadType exi with
  | none => exact .undecodable hreads (by simp [hdecode])
  | some doc =>
    dsimp only
    rw [s20Dispatch]
    -- no request, an unknown session, a sequence error, or an admitted request
    by_cases hkind : doc.body.kind = .none
    · rw [if_pos hkind]
      exact .undecodable hreads (by simpa [hdecode] using hkind)
    rw [if_neg hkind]
    by_cases hunknown : s20UnknownSession s.received doc = true
    · rw [if_pos hunknown]
      exact .unknownSession hreads hdecode hkind hunknown
    rw [if_neg hunknown]
    have hknown : s20UnknownSession s doc = false := Bool.eq_false_of_not_eq_true hunknown
    by_cases hsequence : s20StateAccepts s.received.state doc.body.kind = false
    · rw [if_pos hsequence]
      exact .outOfSequence hreads hdecode hkind hknown hsequence
    · rw [if_neg hsequence]
      have haccepts : s20StateAccepts s.state doc.body.kind = true :=
        Bool.eq_true_of_not_eq_false hsequence
      exact .handled hreads hdecode (by simp [s20Admits, hknown, haccepts])

end Exits

/-! ## The responses -/

/-- The kind of request a response belongs to. -/
def Res20Body.kind : Res20Body → Req20
  | .sessionSetup _ => .sessionSetup
  | .authorizationSetup _ _ => .authSetup
  | .authorization _ => .authorization
  | .serviceDiscovery _ _ => .serviceDiscovery
  | .serviceDetail _ _ _ => .serviceDetail
  | .serviceSelection => .serviceSelection
  | .scheduleExchange _ _ _ _ _ => .scheduleExchange
  | .powerDelivery => .powerDelivery
  | .meteringConfirmation => .meteringConfirmation
  | .sessionStop => .sessionStop
  | .certificateInstallation _ => .certInstall
  | .vehicleCheckIn => .vehicleCheckin
  | .vehicleCheckOut => .vehicleCheckout
  | .dcChargeParameterDiscovery _ => .dcCpd
  | .dcCableCheck _ => .dcCableCheck
  | .dcPreCharge _ => .dcPreCharge
  | .dcChargeLoop _ => .dcChargeLoop
  | .dcWeldingDetection _ => .dcWelding

/-- The responses encoded after the minimal one, by the request and the hooks invoked. -/
inductive FilledBody (s : Secc20) (env : Env20) : Body20 → List Call20 → Res20Body → Prop
  | authorization {selected : Authorization20} {calls : List Call20} {processing : Processing20} :
      FilledBody s env (.common (.authorizationReq selected)) calls (.authorization processing)
  | serviceDiscovery {ids : Option (List ℕ)} {calls : List Call20} :
      FilledBody s env (.common (.serviceDiscoveryReq ids)) calls (.serviceDiscovery false [])
  | scheduleExchange {dynamicMode scheduledMode : Bool} :
      FilledBody s env (.common (.scheduleExchangeReq dynamicMode scheduledMode))
        (limitsCall env s)
        (s20ScheduleExchangeBody env s (s20CbLimits s env).maxChargePowerW)
  | dcCpd {ev : DcCpdReqEnergyTransferMode} :
      FilledBody s env (.dc (.chargeParameterDiscoveryReq false (some ev)))
        (invoke s.cfg.callbacks.onEvLimits (.onEvLimits (evLimits20 ev)) ++ limitsCall env s)
        (.dcChargeParameterDiscovery (s20FillDcLimitsRes (s20CbLimits s env)))
  | dcCableCheck {calls : List Call20} :
      FilledBody s env (.dc .cableCheckReq) calls (.dcCableCheck .ongoing)
  | dcPreCharge {target present : RationalNumber} :
      FilledBody s env (.dc (.preChargeReq target present))
        (invoke s.cfg.callbacks.onPrechargeTarget
          (.onPrechargeTarget (ratToFloat target) (ratToFloat present)) ++ presentCall env s)
        (.dcPreCharge (ratFromFloat (s20CbPresent s env).voltageV))
  | dcChargeLoop {req : DcChargeLoopReq} {targets : ScheduledDcClReqControlMode} :
      FilledBody s env (.dc (.chargeLoopReq req)) (chargeLoopCalls env s req targets)
        (.dcChargeLoop (s20ChargeLoopRes env s req.meterInfoRequested))
  | dcWelding {evProcessing : Processing20} :
      FilledBody s env (.dc (.weldingDetectionReq evProcessing)) (presentCall env s)
        (.dcWeldingDetection (ratFromFloat (s20CbPresent s env).voltageV))

/-- What a handler hands to the encoder last, and that it returns that encoding. -/
structure Replies (codec : Codec20) (env : Env20) (outCap : ℕ) (s : Secc20) (body : Body20)
    (result : HandlerResult20) : Prop where
  encoded : ∀ bytes, result.rc = .ok bytes →
    ∃ res, result.res = some res ∧ codec.encode res outCap = some bytes
  body_cases : ∀ res, result.res = some res →
    s20MinimalBody env s body.kind = some res.body ∨ FilledBody s env body result.calls res.body

section Minimal

variable {env : Env20} {s s' : Secc20} {kind : Req20}

/-- The minimal response depends on the configuration alone. -/
theorem s20MinimalBody_congr (hcfg : s'.cfg = s.cfg) :
    s20MinimalBody env s' kind = s20MinimalBody env s kind := by
  cases kind <;>
    simp [s20MinimalBody, s20FillEvseId, s20ScheduleExchangeBody, s20NowUnix, hcfg]

/-- The minimal response to a request is of its kind. -/
theorem s20MinimalBody_kind {resBody : Res20Body}
    (h : s20MinimalBody env s kind = some resBody) : resBody.kind = kind := by
  cases kind <;> simp only [s20MinimalBody, Option.some.injEq, reduceCtorEq] at h <;>
    rw [← h] <;> rfl

/-- A filled response is of the kind of its request. -/
theorem FilledBody.kind_eq {body : Body20} {calls : List Call20} {resBody : Res20Body}
    (h : FilledBody s env body calls resBody) : resBody.kind = body.kind := by
  cases h <;> rfl

end Minimal

section Builders

variable {codec : Codec20} {env : Env20} {outCap : ℕ} {s s' : Secc20} {calls : List Call20}
  {body : Body20} {code : ResponseCode20}

/-- An encoded response is what the encoder made of it. -/
theorem s20Encode_ok {res : Res20} {bytes : List UInt8}
    (h : s20Encode codec outCap res = .ok bytes) : codec.encode res outCap = some bytes := by
  unfold s20Encode at h
  split at h
  · rename_i henc
    rw [henc]
    exact congrArg some (Except.ok.inj h)
  · cases h

section Fields

variable {kind : Req20} {resBody : Res20Body}

/-- A minimal response changes nothing but the response code recorded. -/
@[simp]
theorem s20BuildRes_session : (s20BuildRes codec env outCap s calls kind code).session =
    { s with lastResponseCode := code.value } := by
  rw [s20BuildRes]
  split <;> rfl

/-- A minimal response invokes no further hook. -/
@[simp]
theorem s20BuildRes_calls : (s20BuildRes codec env outCap s calls kind code).calls = calls := by
  rw [s20BuildRes]
  split <;> rfl

/-- A minimal response goes on with the session. -/
@[simp]
theorem s20BuildRes_disposition :
    (s20BuildRes codec env outCap s calls kind code).disposition = .continue := by
  rw [s20BuildRes]
  split <;> rfl

/-- A full response changes nothing but the response code recorded. -/
@[simp]
theorem s20BuildFullRes_session :
    (s20BuildFullRes codec env outCap s calls kind code resBody).session =
      { s with lastResponseCode := code.value } := by
  rw [s20BuildFullRes]
  dsimp only
  split <;> exact s20BuildRes_session

/-- A full response invokes no further hook. -/
@[simp]
theorem s20BuildFullRes_calls :
    (s20BuildFullRes codec env outCap s calls kind code resBody).calls = calls := by
  rw [s20BuildFullRes]
  dsimp only
  split <;> exact s20BuildRes_calls

/-- A full response goes on with the session. -/
@[simp]
theorem s20BuildFullRes_disposition :
    (s20BuildFullRes codec env outCap s calls kind code resBody).disposition = .continue := by
  rw [s20BuildFullRes]
  dsimp only
  split <;> exact s20BuildRes_disposition

end Fields

/-- The minimal builder encodes the minimal response. -/
theorem s20BuildRes_replies (hcfg : s'.cfg = s.cfg) :
    Replies codec env outCap s body (s20BuildRes codec env outCap s' calls body.kind code) := by
  rw [s20BuildRes, s20MinimalBody_congr hcfg]
  cases hmin : s20MinimalBody env s body.kind with
  | none => exact ⟨by simp, by simp⟩
  | some resBody =>
    refine ⟨fun bytes h => ⟨_, rfl, s20Encode_ok h⟩, fun res h => .inl ?_⟩
    rw [hmin, ← Option.some.inj h, s20FillHeader]

/-- The two-step builder encodes the minimal response and then the filled one. -/
theorem s20BuildFullRes_replies {resBody : Res20Body} (hcfg : s'.cfg = s.cfg)
    (hfilled : FilledBody s env body calls resBody) :
    Replies codec env outCap s body
      (s20BuildFullRes codec env outCap s' calls body.kind code resBody) := by
  have hmin : Replies codec env outCap s body
      (s20BuildRes codec env outCap s' calls body.kind code) := s20BuildRes_replies hcfg
  rw [s20BuildFullRes]
  dsimp only
  split
  · exact hmin
  · refine ⟨fun bytes h => ⟨_, rfl, s20Encode_ok h⟩, fun res h => .inr ?_⟩
    rw [← Option.some.inj h, s20BuildRes_calls]
    exact hfilled

/-- The disposition of a handler does not touch its response. -/
theorem Replies.setDisposition {result : HandlerResult20} {disposition : Disposition20}
    (h : Replies codec env outCap s body result) :
    Replies codec env outCap s body { result with disposition } :=
  ⟨h.encoded, h.body_cases⟩

end Builders

section Handlers

variable (codec : Codec20) (env : Env20) (outCap : ℕ) (s : Secc20)

/-- The reply to a AuthorizationReq is made by one of the two builders. -/
theorem s20HandleAuthorization_replies (selected : Authorization20) :
    Replies codec env outCap s (.common (.authorizationReq selected))
      (s20HandleAuthorization codec env outCap s selected) := by
  have hcfg : (s.startEimTimer env.nowHandler).cfg = s.cfg := startEimTimer_cfg ..
  rw [s20HandleAuthorization]
  dsimp only
  split_ifs
  · exact s20BuildFullRes_replies hcfg .authorization
  · exact s20BuildFullRes_replies hcfg .authorization
  · split <;> exact s20BuildFullRes_replies hcfg .authorization

/-- The reply to a ServiceDiscoveryReq is made by one of the two builders. -/
theorem s20HandleServiceDiscovery_replies (ids : Option (List ℕ)) :
    Replies codec env outCap s (.common (.serviceDiscoveryReq ids))
      (s20HandleServiceDiscovery codec env outCap s ids) := by
  rw [s20HandleServiceDiscovery]
  split_ifs
  · exact s20BuildRes_replies rfl
  · exact s20BuildFullRes_replies rfl .serviceDiscovery

/-- The reply to a ServiceDetailReq is made by one of the two builders. -/
theorem s20HandleServiceDetail_replies (serviceId : ℕ) :
    Replies codec env outCap s (.common (.serviceDetailReq serviceId))
      (s20HandleServiceDetail codec env outCap s serviceId) := by
  rw [s20HandleServiceDetail]
  split_ifs <;> exact s20BuildRes_replies rfl

/-- The reply to a ServiceSelectionReq is made by one of the two builders. -/
theorem s20HandleServiceSelection_replies (serviceId parameterSetId selectedVasCount : ℕ) :
    Replies codec env outCap s
      (.common (.serviceSelectionReq serviceId parameterSetId selectedVasCount))
      (s20HandleServiceSelection codec env outCap s serviceId parameterSetId
        selectedVasCount) := by
  rw [s20HandleServiceSelection]
  split_ifs <;> exact s20BuildRes_replies rfl

/-- The reply to a ScheduleExchangeReq is made by one of the two builders. -/
theorem s20HandleScheduleExchange_replies (dynamicMode scheduledMode : Bool) :
    Replies codec env outCap s (.common (.scheduleExchangeReq dynamicMode scheduledMode))
      (s20HandleScheduleExchange codec env outCap s dynamicMode scheduledMode) := by
  rw [s20HandleScheduleExchange]
  dsimp only
  split_ifs
  · exact s20BuildRes_replies (startSeTimer_cfg ..)
  · rw [startSeTimer_stop]
    exact s20BuildFullRes_replies rfl .scheduleExchange

/-- The reply to a PowerDeliveryReq is made by one of the two builders. -/
theorem s20HandlePowerDelivery_replies (progress : ChargeProgress20) (tuple : Option ℕ) :
    Replies codec env outCap s (.common (.powerDeliveryReq progress tuple))
      (s20HandlePowerDelivery codec env outCap s progress tuple) := by
  rw [s20HandlePowerDelivery.eq_def]
  split_ifs
  · exact s20BuildRes_replies rfl
  cases progress with
  | start =>
    dsimp only
    rw [s20PowerDeliveryStart]
    split_ifs <;> exact s20BuildRes_replies rfl
  | stop | standby | scheduleRenegotiation => exact s20BuildRes_replies rfl

/-- The reply to a SessionStopReq is made by one of the two builders. -/
theorem s20HandleSessionStop_replies (action : ChargingSession20)
    (terminationCode explanation : Option (List Char)) :
    Replies codec env outCap s
      (.common (.sessionStopReq action terminationCode explanation))
      (s20HandleSessionStop codec env outCap s action terminationCode explanation) := by
  cases action with
  | serviceRenegotiation => exact s20BuildRes_replies rfl
  | pause | terminate | reserved => exact (s20BuildRes_replies rfl).setDisposition

/-- The reply to a DC_ChargeParameterDiscoveryReq is made by one of the two builders. -/
theorem s20HandleDcCpd_replies (bptMode : Bool) (dcMode : Option DcCpdReqEnergyTransferMode) :
    Replies codec env outCap s (.dc (.chargeParameterDiscoveryReq bptMode dcMode))
      (s20HandleDcCpd codec env outCap s bptMode dcMode) := by
  rw [s20HandleDcCpd.eq_def]
  split
  · exact s20BuildFullRes_replies rfl .dcCpd
  · exact s20BuildRes_replies rfl

/-- The reply to a DC_CableCheckReq is made by one of the two builders. -/
theorem s20HandleDcCableCheck_replies :
    Replies codec env outCap s (.dc .cableCheckReq) (s20HandleDcCableCheck codec env outCap s) := by
  rw [s20HandleDcCableCheck]
  dsimp only
  split
  · exact s20BuildRes_replies rfl
  · exact s20BuildRes_replies rfl
  · exact s20BuildFullRes_replies rfl .dcCableCheck

/-- The reply to a DC_PreChargeReq is made by one of the two builders. -/
theorem s20HandleDcPreCharge_replies (target present : RationalNumber) :
    Replies codec env outCap s (.dc (.preChargeReq target present))
      (s20HandleDcPreCharge codec env outCap s target present) := by
  rw [s20HandleDcPreCharge]
  by_cases hstate : s.state = .preCharge
  · rw [if_pos hstate]
    exact s20BuildFullRes_replies rfl .dcPreCharge
  · rw [if_neg hstate]
    exact s20BuildFullRes_replies rfl .dcPreCharge

/-- The reply to a DC_WeldingDetectionReq is made by one of the two builders. -/
theorem s20HandleDcWelding_replies (evProcessing : Processing20) :
    Replies codec env outCap s (.dc (.weldingDetectionReq evProcessing))
      (s20HandleDcWelding codec env outCap s evProcessing) := by
  rw [s20HandleDcWelding]
  by_cases hfinished : evProcessing = .finished
  · rw [if_pos hfinished]
    exact s20BuildFullRes_replies rfl .dcWelding
  · rw [if_neg hfinished]
    exact s20BuildFullRes_replies rfl .dcWelding

/-- The reply to a DC_ChargeLoopReq is made by one of the two builders. -/
theorem s20HandleDcChargeLoop_replies (req : DcChargeLoopReq) :
    Replies codec env outCap s (.dc (.chargeLoopReq req))
      (s20HandleDcChargeLoop codec env outCap s req) := by
  rw [s20HandleDcChargeLoop]
  split
  · exact s20BuildFullRes_replies rfl .dcChargeLoop
  · exact s20BuildRes_replies rfl

/-- Every handler answers with the minimal response of its request or with the filled one. -/
theorem s20Handle_replies (body : Body20) :
    Replies codec env outCap s body (s20Handle codec env outCap s body) := by
  rcases body with body | body <;> cases body
  case common.authorizationReq => exact s20HandleAuthorization_replies ..
  case common.serviceDiscoveryReq => exact s20HandleServiceDiscovery_replies ..
  case common.serviceDetailReq => exact s20HandleServiceDetail_replies ..
  case common.serviceSelectionReq => exact s20HandleServiceSelection_replies ..
  case common.scheduleExchangeReq => exact s20HandleScheduleExchange_replies ..
  case common.powerDeliveryReq => exact s20HandlePowerDelivery_replies ..
  case common.sessionStopReq => exact s20HandleSessionStop_replies ..
  case dc.chargeParameterDiscoveryReq => exact s20HandleDcCpd_replies ..
  case dc.cableCheckReq => exact s20HandleDcCableCheck_replies ..
  case dc.preChargeReq => exact s20HandleDcPreCharge_replies ..
  case dc.chargeLoopReq => exact s20HandleDcChargeLoop_replies ..
  case dc.weldingDetectionReq => exact s20HandleDcWelding_replies ..
  case dc.other => exact ⟨by simp [s20Handle], by simp [s20Handle]⟩
  all_goals exact s20BuildRes_replies rfl

end Handlers

/-! ## The termination rule -/

section Conclude

variable {codec : Codec20} {env : Env20} {outCap : ℕ} {s session : Secc20} {body : Body20}
  {calls : List Call20} {code : ResponseCode20} {disposition : Disposition20}
  {result : HandlerResult20} {bytes : List UInt8}

/-- The end of the frame keeps the return code. -/
@[simp]
theorem s20Conclude_rc : (s20Conclude env result).rc = result.rc := by
  rw [s20Conclude]
  split <;> simp_all

/-- The end of the frame keeps the response. -/
@[simp]
theorem s20Conclude_res : (s20Conclude env result).res = result.res := by
  rw [s20Conclude]
  split <;> rfl

/-- The end of the frame invokes no hook. -/
@[simp]
theorem s20Conclude_calls : (s20Conclude env result).calls = result.calls := by
  rw [s20Conclude]
  split <;> rfl

/-- A response that does not encode leaves the result of its handler as it is. -/
theorem s20Conclude_of_error {e : Errno} (h : result.rc = .error e) :
    s20Conclude env result = result := by
  rw [s20Conclude, h]

/-- The disposition the caller is given for a response code. -/
def concludeDisposition (code : ResponseCode20) (disposition : Disposition20) : Disposition20 :=
  if disposition = .continue ∧ rcFailed ≤ code.value then .doneFailed else disposition

/-- The session an answered request leaves. -/
def concludeSession (env : Env20) (session : Secc20) (code : ResponseCode20)
    (disposition : Disposition20) : Secc20 :=
  if disposition = .continue then
    { session with
      lastResponseCode := code.value
      sequenceDeadlineMs := env.nowReply + Secc20.sequenceTimeoutMs }
  else { session with lastResponseCode := code.value, state := .ended }

/-- What the caller is given for a request whose handler moved to the session. -/
structure Answers (codec : Codec20) (env : Env20) (outCap : ℕ) (kind : Req20) (session : Secc20)
    (code : ResponseCode20) (disposition : Disposition20) (bytes : List UInt8)
    (result : HandlerResult20) : Prop where
  rc_eq : result.rc = .ok bytes
  res_eq : ∃ res, result.res = some res ∧ codec.encode res outCap = some bytes ∧
    res.responseCode = code ∧ res.sessionId = session.sessionId ∧ res.body.kind = kind
  disposition_eq : result.disposition = concludeDisposition code disposition
  session_eq : result.session =
    concludeSession env session code (concludeDisposition code disposition)

/-- The response that carries out an outcome has its code. -/
theorem CarriesOut.code_eq (h : CarriesOut result session calls code disposition) {res : Res20}
    (hres : result.res = some res) : res.responseCode = code := by
  obtain ⟨res', hres', hcode, -⟩ := h.res_eq
  cases hres.symm.trans hres'
  exact hcode

/-- The response a handler builds is of the kind of its request. -/
theorem Replies.kind_eq (h : Replies codec env outCap s body result) {res : Res20}
    (hres : result.res = some res) : res.body.kind = body.kind := by
  rcases h.body_cases res hres with hmin | hfilled
  · exact s20MinimalBody_kind hmin
  · exact hfilled.kind_eq

variable (env) in
/-- The termination rule applied to an encoded response. -/
theorem answers_of_ok (hcarries : CarriesOut result session calls code disposition)
    (hreplies : Replies codec env outCap s body result) (hrc : result.rc = .ok bytes) :
    Answers codec env outCap body.kind session code disposition bytes
      (s20Conclude env result) := by
  obtain ⟨res, hres, hcode, hsid⟩ := hcarries.res_eq
  obtain ⟨_, hres', hencode⟩ := hreplies.encoded bytes hrc
  cases hres.symm.trans hres'
  have hdisposition : (s20Conclude env result).disposition =
      concludeDisposition code disposition := by
    rw [s20Conclude, hrc, concludeDisposition, hcarries.session_eq, hcarries.disposition_eq]
  refine ⟨by rw [s20Conclude_rc, hrc], ⟨res, by rw [s20Conclude_res, hres], hencode, hcode, hsid,
    hreplies.kind_eq hres⟩, hdisposition, ?_⟩
  rw [← hdisposition, concludeSession]
  by_cases hcontinue : (s20Conclude env result).disposition = .continue
  · rw [if_pos hcontinue]
    rw [s20Conclude, hrc] at hcontinue ⊢
    dsimp only at hcontinue ⊢
    rw [if_pos hcontinue, hcarries.session_eq]
  · rw [if_neg hcontinue]
    rw [s20Conclude, hrc] at hcontinue ⊢
    dsimp only at hcontinue ⊢
    rw [if_neg hcontinue, hcarries.session_eq]

end Conclude

end Jpv2g
