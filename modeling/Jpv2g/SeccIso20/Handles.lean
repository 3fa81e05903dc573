import Jpv2g.SeccIso20.Dispatch

/-!
# What an ISO 15118-20 Request Can Do

An abstract view of the handlers: for every request a state admits, the session it leaves, the
hooks it invokes, the code it answers and the disposition, one constructor for each outcome.

## Main definitions

* `Handles`: the outcomes.
* `ContactorStep`: what they can do about the contactor.

## Main results

* `handles_of_accepts`: handling an admitted request has one of the outcomes, whether or not the
  response encodes.
* `Handles.contactorStep`: only PowerDelivery commands the contactor or enters and leaves the
  charge loop.
-/

namespace Jpv2g

/-- The outcomes of handling a request: the session left, up to the recorded response code, the
hooks invoked, the response code and the disposition. -/
inductive Handles (s : Secc20) (env : Env20) :
    Body20 → Secc20 → List Call20 → ResponseCode20 → Disposition20 → Prop
  | sessionSetup {evccId : List Char} {sessionId : Sid} (hid : sessionId ≠ .zero) :
      Handles s env (.common (.sessionSetupReq evccId))
        { s with sessionId, sessionEstablished := true, state := .authSetup }
        (invoke s.cfg.callbacks.onEvccid (.onEvccid (evccId.take 255)))
        .okNewSessionEstablished .continue
  | authSetup :
      Handles s env (.common .authorizationSetupReq) { s with state := .authorization }
        (invoke s.cfg.callbacks.onAuthRequired .onAuthRequired) .ok .continue
  | authorizationSelectionInvalid {selected : Authorization20} (hselected : selected ≠ .eim) :
      Handles s env (.common (.authorizationReq selected)) (s.startEimTimer env.nowHandler) []
        .warningAuthorizationSelectionInvalid .continue
  | authorizationExpired
      (hexpired : (s.startEimTimer env.nowHandler).eimOngoingDeadlineMs < env.nowHandler) :
      Handles s env (.common (.authorizationReq .eim)) (s.startEimTimer env.nowHandler) []
        .failed .continue
  | authorizationGranted
      (hintime : env.nowHandler ≤ (s.startEimTimer env.nowHandler).eimOngoingDeadlineMs)
      (hinstalled : s.cfg.callbacks.authStatus = true) (hstatus : env.authStatus = .granted) :
      Handles s env (.common (.authorizationReq .eim))
        { s with state := .serviceDiscovery, eimOngoingDeadlineMs := 0 }
        [.authStatus .granted] .ok .continue
  | authorizationRejected
      (hintime : env.nowHandler ≤ (s.startEimTimer env.nowHandler).eimOngoingDeadlineMs)
      (hstatus : s20CbAuth s env = .rejected) :
      Handles s env (.common (.authorizationReq .eim)) (s.startEimTimer env.nowHandler)
        (invoke s.cfg.callbacks.authStatus (.authStatus env.authStatus))
        .warningEimAuthorizationFailure .continue
  | authorizationPending
      (hintime : env.nowHandler ≤ (s.startEimTimer env.nowHandler).eimOngoingDeadlineMs)
      (hstatus : s20CbAuth s env = .pending) :
      Handles s env (.common (.authorizationReq .eim)) (s.startEimTimer env.nowHandler)
        (invoke s.cfg.callbacks.authStatus (.authStatus env.authStatus)) .ok .continue
  | serviceDiscovery {ids : Option (List ℕ)} :
      Handles s env (.common (.serviceDiscoveryReq ids)) { s with state := .serviceDetail } []
        .ok .continue
  | serviceDetailInvalid {serviceId : ℕ} (hid : serviceId ≠ dcServiceId) :
      Handles s env (.common (.serviceDetailReq serviceId)) s [] .failedServiceIdInvalid .continue
  | serviceDetail :
      Handles s env (.common (.serviceDetailReq dcServiceId)) s [] .ok .continue
  | serviceSelectionInvalid {serviceId parameterSetId selectedVasCount : ℕ}
      {code : ResponseCode20} (hcode : rcFailed ≤ code.value) :
      Handles s env (.common (.serviceSelectionReq serviceId parameterSetId selectedVasCount)) s
        [] code .continue
  | serviceSelection :
      Handles s env (.common (.serviceSelectionReq dcServiceId dcParameterSetId 0))
        { s with state := .dcCpd } [] .ok .continue
  | scheduleExchangeFailed {dynamicMode scheduledMode : Bool} :
      Handles s env (.common (.scheduleExchangeReq dynamicMode scheduledMode))
        (s.startSeTimer env.nowHandler) [] .failed .continue
  | scheduleExchange :
      Handles s env (.common (.scheduleExchangeReq false true))
        { s with seOngoingDeadlineMs := 0, state := .cableCheck } (limitsCall env s) .ok .continue
  | powerDeliveryWrongTuple {progress : ChargeProgress20} {tuple : Option ℕ} :
      Handles s env (.common (.powerDeliveryReq progress tuple)) s []
        .failedScheduleSelectionInvalid .continue
  | startAgain {tuple : Option ℕ} (hstate : s.state = .chargeLoop) :
      Handles s env (.common (.powerDeliveryReq .start tuple)) s [] .ok .continue
  | startRefused {tuple : Option ℕ} (hstate : s.state ≠ .chargeLoop)
      (hrefused : s20CbContactor s env true = false) :
      Handles s env (.common (.powerDeliveryReq .start tuple)) s (contactorCall s env true)
        .failedContactorError .continue
  | start {tuple : Option ℕ} (hstate : s.state ≠ .chargeLoop)
      (hinstalled : s.cfg.callbacks.contactorSet = true)
      (hconfirmed : env.contactorConfirms = true) :
      Handles s env (.common (.powerDeliveryReq .start tuple))
        { s with contactorClosed := true, state := .chargeLoop } [.contactorSet true true] .ok
        .continue
  | stop {tuple : Option ℕ} :
      Handles s env (.common (.powerDeliveryReq .stop tuple))
        { s with contactorClosed := false, state := .welding }
        (stopCalls env s) .ok .continue
  | standby {tuple : Option ℕ} :
      Handles s env (.common (.powerDeliveryReq .standby tuple)) s [] .warningStandbyNotAllowed
        .continue
  | scheduleRenegotiation {tuple : Option ℕ} :
      Handles s env (.common (.powerDeliveryReq .scheduleRenegotiation tuple)) s []
        .failedScheduleRenegotiation .continue
  | sessionStopRefused {terminationCode explanation : Option (List Char)} :
      Handles s env (.common (.sessionStopReq .serviceRenegotiation terminationCode explanation))
        s (terminationCalls s terminationCode explanation) .failedNoServiceRenegotiationSupported
        .continue
  | sessionStop {action : ChargingSession20} {terminationCode explanation : Option (List Char)}
      (haction : action ≠ .serviceRenegotiation) :
      Handles s env (.common (.sessionStopReq action terminationCode explanation)) s
        (terminationCalls s terminationCode explanation) .ok
        (if action = .pause then .donePaused else .doneStopped)
  | dcCpdWrong {bptMode : Bool} {dcMode : Option DcCpdReqEnergyTransferMode}
      (hwrong : bptMode = true ∨ dcMode = none) :
      Handles s env (.dc (.chargeParameterDiscoveryReq bptMode dcMode)) s []
        .failedWrongChargeParameter .continue
  | dcCpd {ev : DcCpdReqEnergyTransferMode} :
      Handles s env (.dc (.chargeParameterDiscoveryReq false (some ev)))
        { s with state := .scheduleExchange }
        (invoke s.cfg.callbacks.onEvLimits (.onEvLimits (evLimits20 ev)) ++ limitsCall env s)
        .ok .continue
  | cableCheckFinished (hinstalled : s.cfg.callbacks.cableCheckStatus = true)
      (hstatus : env.cableCheckStatus = .finished) :
      Handles s env (.dc .cableCheckReq) { s with cableCheckStarted := true, state := .preCharge }
        (cableCheckCalls env s) .ok .continue
  | cableCheckFault (hstatus : s20CbCableCheck s env = .fault) :
      Handles s env (.dc .cableCheckReq) { s with cableCheckStarted := true }
        (cableCheckCalls env s) .failed .continue
  | cableCheckOngoing (hstatus : s20CbCableCheck s env = .ongoing) :
      Handles s env (.dc .cableCheckReq) { s with cableCheckStarted := true }
        (cableCheckCalls env s) .ok .continue
  | preCharge {target present : RationalNumber} :
      Handles s env (.dc (.preChargeReq target present))
        (if s.state = .preCharge then { s with state := .powerDelivery } else s)
        (invoke s.cfg.callbacks.onPrechargeTarget
          (.onPrechargeTarget (ratToFloat target) (ratToFloat present)) ++ presentCall env s)
        .ok .continue
  | chargeLoopFailed {req : DcChargeLoopReq}
      (hmode : req.scheduled = none ∨ req.otherControlMode = true) :
      Handles s env (.dc (.chargeLoopReq req)) s [] .failed .continue
  | chargeLoop {req : DcChargeLoopReq} {targets : ScheduledDcClReqControlMode}
      (hscheduled : req.scheduled = some targets) (hother : req.otherControlMode = false) :
      Handles s env (.dc (.chargeLoopReq req)) { s with chargeLoopStarted := true }
        (chargeLoopCalls env s req targets) .ok .continue
  | welding {evProcessing : Processing20} :
      Handles s env (.dc (.weldingDetectionReq evProcessing))
        (if evProcessing = .finished then { s with state := .sessionStop } else s)
        (presentCall env s) .ok .continue

/-- The result carries out the outcome: the session has moved, the hooks have been invoked and
the code is recorded, and the response that was built carries the code. -/
structure CarriesOut (result : HandlerResult20) (session : Secc20) (calls : List Call20)
    (code : ResponseCode20) (disposition : Disposition20) : Prop where
  session_eq : result.session = { session with lastResponseCode := code.value }
  calls_eq : result.calls = calls
  disposition_eq : result.disposition = disposition
  rc_error : ∀ e, result.rc = .error e → e = .ebadmsg
  res_eq : ∃ res, result.res = some res ∧ res.responseCode = code ∧
    res.sessionId = session.sessionId

section Builders

variable {codec : Codec20} {env : Env20} {outCap : ℕ} {s : Secc20} {calls : List Call20}
  {kind : Req20} {code : ResponseCode20}

/-- The encoder fails with one error only. -/
theorem s20Encode_error {res : Res20} {e : Errno} (h : s20Encode codec outCap res = .error e) :
    e = .ebadmsg := by
  unfold s20Encode at h
  split at h <;> simp_all

/-- Building a minimal response leaves the session, but for the recorded code. -/
theorem s20BuildRes_carriesOut (hkind : kind ≠ .none) :
    CarriesOut (s20BuildRes codec env outCap s calls kind code) s calls code .continue := by
  unfold s20BuildRes
  cases hbody : s20MinimalBody env s kind with
  | none => cases kind <;> simp_all [s20MinimalBody]
  | some body => exact ⟨rfl, rfl, rfl, fun e => s20Encode_error, _, rfl, rfl, rfl⟩

/-- Building a full response leaves the session, but for the recorded code. -/
theorem s20BuildFullRes_carriesOut {body : Res20Body} (hkind : kind ≠ .none) :
    CarriesOut (s20BuildFullRes codec env outCap s calls kind code body) s calls code
      .continue := by
  have hmin : CarriesOut (s20BuildRes codec env outCap s calls kind code) s calls code .continue :=
    s20BuildRes_carriesOut hkind
  unfold s20BuildFullRes
  dsimp only
  split
  · exact hmin
  · exact ⟨hmin.session_eq, hmin.calls_eq, hmin.disposition_eq, fun e => s20Encode_error,
      _, rfl, rfl, rfl⟩

end Builders

/-! ## The handlers -/

section Handlers

variable (codec : Codec20) (env : Env20) (outCap : ℕ) (s : Secc20)

/-- The request is handled with one of its outcomes. -/
def HandledAs (s : Secc20) (env : Env20) (body : Body20) (result : HandlerResult20) : Prop :=
  ∃ session calls code disposition, Handles s env body session calls code disposition ∧
    CarriesOut result session calls code disposition

/-- The identifier derived from the clock is not all-zero. -/
theorem clockSid_ne_zero (nowMs : ℕ) : clockSid nowMs ≠ Sid.zero := by
  intro h
  -- the first byte has its lowest bit set
  have hfirst := congrArg (fun sid : Sid => sid.1.head?) h
  simp only [clockSid, Sid.zero, List.range_succ_eq_map] at hfirst
  simp at hfirst

/-- The timer is no part of the configuration. -/
@[simp]
theorem startEimTimer_cfg (nowMs : ℕ) : (s.startEimTimer nowMs).cfg = s.cfg := by
  unfold Secc20.startEimTimer
  split <;> rfl

/-- The timer is no part of the configuration. -/
@[simp]
theorem startSeTimer_cfg (nowMs : ℕ) : (s.startSeTimer nowMs).cfg = s.cfg := by
  unfold Secc20.startSeTimer
  split <;> rfl

/-- The authorization hook is asked the same while the timer runs. -/
@[simp]
theorem s20CbAuth_startEimTimer (nowMs : ℕ) :
    s20CbAuth (s.startEimTimer nowMs) env = s20CbAuth s env := by
  simp [s20CbAuth]

/-- Stopping the EIM timer forgets that it was started. -/
theorem startEimTimer_stop (nowMs : ℕ) (state : State20) :
    { s.startEimTimer nowMs with state, eimOngoingDeadlineMs := 0 } =
      { s with state, eimOngoingDeadlineMs := 0 } := by
  unfold Secc20.startEimTimer
  split <;> rfl

/-- Stopping the ScheduleExchange timer forgets that it was started. -/
theorem startSeTimer_stop (nowMs : ℕ) (state : State20) :
    { s.startSeTimer nowMs with seOngoingDeadlineMs := 0, state } =
      { s with seOngoingDeadlineMs := 0, state } := by
  unfold Secc20.startSeTimer
  split <;> rfl

/-- A SessionSetupReq is handled as its outcomes list. -/
theorem s20HandleSessionSetup_handled (evccId : List Char) :
    HandledAs s env (.common (.sessionSetupReq evccId))
      (s20HandleSessionSetup codec env outCap s evccId) := by
  unfold s20HandleSessionSetup
  refine ⟨_, _, _, _, .sessionSetup ?_, s20BuildRes_carriesOut (by simp)⟩
  split
  · exact RngCall.result_ne_zero ‹_›
  · exact clockSid_ne_zero _

/-- A AuthorizationSetupReq is handled as its outcomes list. -/
theorem s20HandleAuthSetup_handled :
    HandledAs s env (.common .authorizationSetupReq) (s20HandleAuthSetup codec env outCap s) :=
  ⟨_, _, _, _, .authSetup, s20BuildRes_carriesOut (by simp)⟩

/-- A AuthorizationReq is handled as its outcomes list. -/
theorem s20HandleAuthorization_handled (selected : Authorization20) :
    HandledAs s env (.common (.authorizationReq selected))
      (s20HandleAuthorization codec env outCap s selected) := by
  unfold s20HandleAuthorization
  dsimp only
  -- the exits of the source before the hook is asked
  split_ifs with hselected hexpired
  · exact ⟨_, _, _, _, .authorizationSelectionInvalid hselected,
      s20BuildFullRes_carriesOut (by simp)⟩
  · obtain rfl := not_not.mp hselected
    exact ⟨_, _, _, _, .authorizationExpired hexpired, s20BuildFullRes_carriesOut (by simp)⟩
  · obtain rfl := not_not.mp hselected
    have hintime := Nat.le_of_not_gt hexpired
    rw [s20CbAuth_startEimTimer]
    -- the answer of the hook, which counts as pending when there is none
    cases hstatus : s20CbAuth s env with
    | granted =>
      obtain ⟨hinstalled, hanswer⟩ :
          s.cfg.callbacks.authStatus = true ∧ env.authStatus = .granted := by
        unfold s20CbAuth at hstatus
        split at hstatus <;> simp_all
      dsimp only
      rw [startEimTimer_stop, startEimTimer_cfg, hinstalled, hanswer]
      exact ⟨_, _, _, _, .authorizationGranted hintime hinstalled hanswer,
        s20BuildFullRes_carriesOut (by simp)⟩
    | rejected =>
      rw [startEimTimer_cfg]
      exact ⟨_, _, _, _, .authorizationRejected hintime hstatus,
        s20BuildFullRes_carriesOut (by simp)⟩
    | pending =>
      rw [startEimTimer_cfg]
      exact ⟨_, _, _, _, .authorizationPending hintime hstatus,
        s20BuildFullRes_carriesOut (by simp)⟩

/-- A ServiceDiscoveryReq is handled as its outcomes list. -/
theorem s20HandleServiceDiscovery_handled (ids : Option (List ℕ)) :
    HandledAs s env (.common (.serviceDiscoveryReq ids))
      (s20HandleServiceDiscovery codec env outCap s ids) := by
  unfold s20HandleServiceDiscovery
  dsimp only
  split_ifs
  · exact ⟨_, _, _, _, .serviceDiscovery, s20BuildRes_carriesOut (by simp)⟩
  · exact ⟨_, _, _, _, .serviceDiscovery, s20BuildFullRes_carriesOut (by simp)⟩

/-- A ServiceDetailReq is handled as its outcomes list. -/
theorem s20HandleServiceDetail_handled (serviceId : ℕ) :
    HandledAs s env (.common (.serviceDetailReq serviceId))
      (s20HandleServiceDetail codec env outCap s serviceId) := by
  unfold s20HandleServiceDetail
  split_ifs with hid
  · exact ⟨_, _, _, _, .serviceDetailInvalid hid, s20BuildRes_carriesOut (by simp)⟩
  · obtain rfl := not_not.mp hid
    exact ⟨_, _, _, _, .serviceDetail, s20BuildRes_carriesOut (by simp)⟩

/-- A ServiceSelectionReq is handled as its outcomes list. -/
theorem s20HandleServiceSelection_handled (serviceId parameterSetId selectedVasCount : ℕ) :
    HandledAs s env
      (.common (.serviceSelectionReq serviceId parameterSetId selectedVasCount))
      (s20HandleServiceSelection codec env outCap s serviceId parameterSetId
        selectedVasCount) := by
  unfold s20HandleServiceSelection
  split_ifs with hid hset
  · exact ⟨_, _, _, _, .serviceSelectionInvalid (by decide), s20BuildRes_carriesOut (by simp)⟩
  · exact ⟨_, _, _, _, .serviceSelectionInvalid (by decide), s20BuildRes_carriesOut (by simp)⟩
  · rw [not_or, not_not, Nat.pos_iff_ne_zero, not_not] at hset
    obtain ⟨rfl, rfl⟩ := hset
    obtain rfl := not_not.mp hid
    exact ⟨_, _, _, _, .serviceSelection, s20BuildRes_carriesOut (by simp)⟩

/-- A ScheduleExchangeReq is handled as its outcomes list. -/
theorem s20HandleScheduleExchange_handled (dynamicMode scheduledMode : Bool) :
    HandledAs s env (.common (.scheduleExchangeReq dynamicMode scheduledMode))
      (s20HandleScheduleExchange codec env outCap s dynamicMode scheduledMode) := by
  unfold s20HandleScheduleExchange
  dsimp only
  split_ifs with hfail
  · exact ⟨_, _, _, _, .scheduleExchangeFailed, s20BuildRes_carriesOut (by simp)⟩
  · obtain ⟨hdynamic, hscheduled⟩ := not_or.mp hfail
    obtain rfl : dynamicMode = false := by simpa using hdynamic
    obtain rfl : scheduledMode = true := by simpa using (not_or.mp hscheduled).1
    rw [startSeTimer_stop]
    exact ⟨_, _, _, _, .scheduleExchange, s20BuildFullRes_carriesOut (by simp)⟩

/-- A PowerDeliveryReq is handled as its outcomes list. -/
theorem s20HandlePowerDelivery_handled (progress : ChargeProgress20) (tuple : Option ℕ) :
    HandledAs s env (.common (.powerDeliveryReq progress tuple))
      (s20HandlePowerDelivery codec env outCap s progress tuple) := by
  unfold s20HandlePowerDelivery
  split_ifs with htuple
  · exact ⟨_, _, _, _, .powerDeliveryWrongTuple, s20BuildRes_carriesOut (by simp)⟩
  · cases progress with
    | start =>
      dsimp only
      unfold s20PowerDeliveryStart
      split_ifs with hstate hconfirmed
      · exact ⟨_, _, _, _, .startAgain hstate, s20BuildRes_carriesOut (by simp)⟩
      · obtain ⟨hinstalled, hanswer⟩ :
            s.cfg.callbacks.contactorSet = true ∧ env.contactorConfirms = true := by
          unfold s20CbContactor at hconfirmed
          split at hconfirmed <;> simp_all
        simp only [contactorCall, hinstalled, hanswer, invoke, if_true]
        exact ⟨_, _, _, _, .start hstate hinstalled hanswer, s20BuildRes_carriesOut (by simp)⟩
      · exact ⟨_, _, _, _, .startRefused hstate (by simpa using hconfirmed),
          s20BuildRes_carriesOut (by simp)⟩
    | stop => exact ⟨_, _, _, _, .stop, s20BuildRes_carriesOut (by simp)⟩
    | standby => exact ⟨_, _, _, _, .standby, s20BuildRes_carriesOut (by simp)⟩
    | scheduleRenegotiation =>
      exact ⟨_, _, _, _, .scheduleRenegotiation, s20BuildRes_carriesOut (by simp)⟩

/-- A SessionStopReq is handled as its outcomes list. -/
theorem s20HandleSessionStop_handled (action : ChargingSession20)
    (terminationCode explanation : Option (List Char)) :
    HandledAs s env (.common (.sessionStopReq action terminationCode explanation))
      (s20HandleSessionStop codec env outCap s action terminationCode explanation) := by
  have hbuild : CarriesOut
      (s20BuildRes codec env outCap s (terminationCalls s terminationCode explanation)
        .sessionStop .ok) s (terminationCalls s terminationCode explanation) .ok .continue :=
    s20BuildRes_carriesOut (by simp)
  unfold s20HandleSessionStop
  cases action with
  | serviceRenegotiation =>
    exact ⟨_, _, _, _, .sessionStopRefused, s20BuildRes_carriesOut (by simp)⟩
  | pause | terminate | reserved =>
    exact ⟨_, _, _, _, .sessionStop (by simp),
      ⟨hbuild.session_eq, hbuild.calls_eq, rfl, hbuild.rc_error, hbuild.res_eq⟩⟩

/-- A DC_ChargeParameterDiscoveryReq is handled as its outcomes list. -/
theorem s20HandleDcCpd_handled (bptMode : Bool) (dcMode : Option DcCpdReqEnergyTransferMode) :
    HandledAs s env (.dc (.chargeParameterDiscoveryReq bptMode dcMode))
      (s20HandleDcCpd codec env outCap s bptMode dcMode) := by
  unfold s20HandleDcCpd
  split
  · exact ⟨_, _, _, _, .dcCpd, s20BuildFullRes_carriesOut (by simp)⟩
  · rename_i hmode
    refine ⟨_, _, _, _, .dcCpdWrong ?_, s20BuildRes_carriesOut (by simp)⟩
    cases bptMode with
    | true => exact .inl rfl
    | false =>
      cases dcMode with
      | none => exact .inr rfl
      | some ev => exact absurd rfl (hmode ev rfl)

/-- A DC_CableCheckReq is handled as its outcomes list. -/
theorem s20HandleDcCableCheck_handled :
    HandledAs s env (.dc .cableCheckReq) (s20HandleDcCableCheck codec env outCap s) := by
  unfold s20HandleDcCableCheck
  dsimp only
  have hcb : s20CbCableCheck { s with cableCheckStarted := true } env = s20CbCableCheck s env := rfl
  rw [hcb]
  cases hstatus : s20CbCableCheck s env with
  | finished =>
    obtain ⟨hinstalled, hanswer⟩ :
        s.cfg.callbacks.cableCheckStatus = true ∧ env.cableCheckStatus = .finished := by
      unfold s20CbCableCheck at hstatus
      split at hstatus <;> simp_all
    exact ⟨_, _, _, _, .cableCheckFinished hinstalled hanswer, s20BuildRes_carriesOut (by simp)⟩
  | fault => exact ⟨_, _, _, _, .cableCheckFault hstatus, s20BuildRes_carriesOut (by simp)⟩
  | ongoing => exact ⟨_, _, _, _, .cableCheckOngoing hstatus, s20BuildFullRes_carriesOut (by simp)⟩

/-- A DC_PreChargeReq is handled as its outcomes list. -/
theorem s20HandleDcPreCharge_handled (target present : RationalNumber) :
    HandledAs s env (.dc (.preChargeReq target present))
      (s20HandleDcPreCharge codec env outCap s target present) :=
  ⟨_, _, _, _, .preCharge, s20BuildFullRes_carriesOut (by simp)⟩

/-- A DC_WeldingDetectionReq is handled as its outcomes list. -/
theorem s20HandleDcWelding_handled (evProcessing : Processing20) :
    HandledAs s env (.dc (.weldingDetectionReq evProcessing))
      (s20HandleDcWelding codec env outCap s evProcessing) :=
  ⟨_, _, _, _, .welding, s20BuildFullRes_carriesOut (by simp)⟩

/-- A DC_ChargeLoopReq is handled as its outcomes list. -/
theorem s20HandleDcChargeLoop_handled (req : DcChargeLoopReq) :
    HandledAs s env (.dc (.chargeLoopReq req)) (s20HandleDcChargeLoop codec env outCap s req) := by
  unfold s20HandleDcChargeLoop
  split
  · rename_i targets hscheduled hother
    exact ⟨_, _, _, _, .chargeLoop hscheduled hother, s20BuildFullRes_carriesOut (by simp)⟩
  · rename_i hmode
    refine ⟨_, _, _, _, .chargeLoopFailed ?_, s20BuildRes_carriesOut (by simp)⟩
    cases hscheduled : req.scheduled with
    | none => exact .inl rfl
    | some targets =>
      cases hother : req.otherControlMode with
      | true => exact .inr rfl
      | false => exact (hmode targets hscheduled hother).elim

/-- Handling an admitted request has one of the outcomes, whether or not the response
encodes. -/
theorem handles_of_accepts {body : Body20} (h : s20StateAccepts s.state body.kind = true) :
    HandledAs s env body (s20Handle codec env outCap s body) := by
  rcases body with body | body <;> cases body
  case common.sessionSetupReq => exact s20HandleSessionSetup_handled ..
  case common.authorizationSetupReq => exact s20HandleAuthSetup_handled ..
  case common.authorizationReq => exact s20HandleAuthorization_handled ..
  case common.serviceDiscoveryReq => exact s20HandleServiceDiscovery_handled ..
  case common.serviceDetailReq => exact s20HandleServiceDetail_handled ..
  case common.serviceSelectionReq => exact s20HandleServiceSelection_handled ..
  case common.scheduleExchangeReq => exact s20HandleScheduleExchange_handled ..
  case common.powerDeliveryReq => exact s20HandlePowerDelivery_handled ..
  case common.sessionStopReq => exact s20HandleSessionStop_handled ..
  case dc.chargeParameterDiscoveryReq => exact s20HandleDcCpd_handled ..
  case dc.cableCheckReq => exact s20HandleDcCableCheck_handled ..
  case dc.preChargeReq => exact s20HandleDcPreCharge_handled ..
  case dc.chargeLoopReq => exact s20HandleDcChargeLoop_handled ..
  case dc.weldingDetectionReq => exact s20HandleDcWelding_handled ..
  -- the remaining kinds are accepted in no state
  all_goals cases hstate : s.state <;>
    simp [hstate, s20StateAccepts, Body20.kind, Common20Body.kind, Dc20Body.kind] at h

end Handlers

/-! ## The states that accept a request -/

/-- The states that accept a kind of request. -/
def acceptingStates : Req20 → List State20
  | .sessionSetup => [.sessionSetup]
  | .authSetup => [.authSetup]
  | .authorization => [.authorization]
  | .serviceDiscovery => [.serviceDiscovery]
  | .serviceDetail | .serviceSelection => [.serviceDetail]
  | .dcCpd => [.dcCpd]
  | .scheduleExchange => [.scheduleExchange]
  | .dcCableCheck => [.cableCheck]
  | .dcPreCharge => [.preCharge, .powerDelivery]
  | .powerDelivery => [.powerDelivery, .chargeLoop]
  | .dcChargeLoop => [.chargeLoop]
  | .dcWelding => [.welding]
  | .sessionStop =>
    [.authSetup, .authorization, .serviceDiscovery, .serviceDetail, .dcCpd, .scheduleExchange,
      .cableCheck, .preCharge, .powerDelivery, .welding, .sessionStop]
  | .none | .meteringConfirmation | .certInstall | .vehicleCheckin | .vehicleCheckout => []

/-- A state that accepts a kind of request is in its list. -/
theorem mem_acceptingStates {state : State20} {kind : Req20}
    (h : s20StateAccepts state kind = true) : state ∈ acceptingStates kind := by
  revert h
  cases state <;> cases kind <;> decide

/-! ## The contactor -/

/-- The call commands the contactor. -/
def Call20.isContactor : Call20 → Bool
  | .contactorSet _ _ => true
  | _ => false

/-- What a handled request can do about the contactor. -/
inductive ContactorStep (s : Secc20) (env : Env20) (body : Body20) (session : Secc20)
    (calls : List Call20) (code : ResponseCode20) (disposition : Disposition20) : Prop
  /-- The contactor closes and the charge loop starts. -/
  | close {tuple : Option ℕ} (hbody : body = .common (.powerDeliveryReq .start tuple))
      (hstate : s.state ≠ .chargeLoop) (hinstalled : s.cfg.callbacks.contactorSet = true)
      (hcalls : calls = [.contactorSet true true]) (hclosed : session.contactorClosed = true)
      (hloop : session.state = .chargeLoop) (hgoes : code = .ok ∧ disposition = .continue)
  /-- The controller refuses to close the contactor. -/
  | refused {tuple : Option ℕ} (hbody : body = .common (.powerDeliveryReq .start tuple))
      (hstate : s.state ≠ .chargeLoop) (hcalls : ∀ c ∈ calls, c = .contactorSet true false)
      (hsession : session = s)
  /-- A closed contactor is commanded open. -/
  | stop {tuple : Option ℕ} (hbody : body = .common (.powerDeliveryReq .stop tuple))
      (hcalls : calls = stopCalls env s) (hopened : session.contactorClosed = false)
      (hwelding : session.state = .welding) (hgoes : code = .ok ∧ disposition = .continue)
  /-- Every other request leaves the contactor alone. -/
  | other (hcalls : calls.any Call20.isContactor = false)
      (hclosed : session.contactorClosed = s.contactorClosed)
      (hloop : session.state = .chargeLoop ↔ s.state = .chargeLoop)

/-- A call is made when its hook is installed. -/
@[simp]
theorem invoke_any (installed : Bool) (call : Call20) (p : Call20 → Bool) :
    (invoke installed call).any p = (installed && p call) := by
  cases installed <;> simp [invoke]

section Contactor

variable {s session : Secc20} {env : Env20} {body : Body20} {calls : List Call20}
  {code : ResponseCode20} {disposition : Disposition20}

/-- The telemetry hook is not that of the contactor. -/
@[simp]
theorem presentCall_any : (presentCall env s).any Call20.isContactor = false := by
  simp [presentCall, Call20.isContactor]

/-- The limits hook is not that of the contactor. -/
@[simp]
theorem limitsCall_any : (limitsCall env s).any Call20.isContactor = false := by
  simp [limitsCall, Call20.isContactor]

/-- The termination hook is not that of the contactor. -/
@[simp]
theorem terminationCalls_any (terminationCode explanation : Option (List Char)) :
    (terminationCalls s terminationCode explanation).any Call20.isContactor = false := by
  simp [terminationCalls, Call20.isContactor]

/-- The hooks of a cable check are not that of the contactor. -/
@[simp]
theorem cableCheckCalls_any : (cableCheckCalls env s).any Call20.isContactor = false := by
  unfold cableCheckCalls
  split <;> simp [Call20.isContactor]

/-- The hooks of a charge loop are not that of the contactor. -/
@[simp]
theorem chargeLoopCalls_any (req : DcChargeLoopReq) (targets : ScheduledDcClReqControlMode) :
    (chargeLoopCalls env s req targets).any Call20.isContactor = false := by
  unfold chargeLoopCalls
  split <;> split <;> simp [Call20.isContactor]

/-- The EIM timer leaves the contactor alone. -/
@[simp]
theorem startEimTimer_contactorClosed (nowMs : ℕ) :
    (s.startEimTimer nowMs).contactorClosed = s.contactorClosed := by
  unfold Secc20.startEimTimer
  split <;> rfl

/-- The EIM timer leaves the state alone. -/
@[simp]
theorem startEimTimer_state (nowMs : ℕ) : (s.startEimTimer nowMs).state = s.state := by
  unfold Secc20.startEimTimer
  split <;> rfl

/-- The ScheduleExchange timer leaves the contactor alone. -/
@[simp]
theorem startSeTimer_contactorClosed (nowMs : ℕ) :
    (s.startSeTimer nowMs).contactorClosed = s.contactorClosed := by
  unfold Secc20.startSeTimer
  split <;> rfl

/-- The ScheduleExchange timer leaves the state alone. -/
@[simp]
theorem startSeTimer_state (nowMs : ℕ) : (s.startSeTimer nowMs).state = s.state := by
  unfold Secc20.startSeTimer
  split <;> rfl

/-- The EIM timer leaves the identifier alone. -/
@[simp]
theorem startEimTimer_sessionId (nowMs : ℕ) :
    (s.startEimTimer nowMs).sessionId = s.sessionId := by
  unfold Secc20.startEimTimer
  split <;> rfl

@[simp]
theorem startEimTimer_sessionEstablished (nowMs : ℕ) :
    (s.startEimTimer nowMs).sessionEstablished = s.sessionEstablished := by
  unfold Secc20.startEimTimer
  split <;> rfl

/-- The ScheduleExchange timer leaves the identifier alone. -/
@[simp]
theorem startSeTimer_sessionId (nowMs : ℕ) :
    (s.startSeTimer nowMs).sessionId = s.sessionId := by
  unfold Secc20.startSeTimer
  split <;> rfl

@[simp]
theorem startSeTimer_sessionEstablished (nowMs : ℕ) :
    (s.startSeTimer nowMs).sessionEstablished = s.sessionEstablished := by
  unfold Secc20.startSeTimer
  split <;> rfl

/-- The EIM timer leaves the sequence timer alone. -/
@[simp]
theorem startEimTimer_sequenceDeadlineMs (nowMs : ℕ) :
    (s.startEimTimer nowMs).sequenceDeadlineMs = s.sequenceDeadlineMs := by
  rw [Secc20.startEimTimer]
  split_ifs <;> rfl

/-- The ScheduleExchange timer leaves the sequence timer alone. -/
@[simp]
theorem startSeTimer_sequenceDeadlineMs (nowMs : ℕ) :
    (s.startSeTimer nowMs).sequenceDeadlineMs = s.sequenceDeadlineMs := by
  rw [Secc20.startSeTimer]
  split_ifs <;> rfl

/-- A handled request keeps the configuration. -/
theorem Handles.cfg_eq (h : Handles s env body session calls code disposition) :
    session.cfg = s.cfg := by
  cases h with
  | authorizationSelectionInvalid | authorizationExpired | authorizationRejected
  | authorizationPending => exact startEimTimer_cfg ..
  | scheduleExchangeFailed => exact startSeTimer_cfg ..
  | preCharge | welding => split <;> rfl
  | _ => rfl

/-- A handled request keeps the state or leads into the session. -/
theorem Handles.state_cases (h : Handles s env body session calls code disposition) :
    session.state = s.state ∨ session.state ≠ .sessionSetup ∧ session.state ≠ .ended := by
  cases h with
  | authorizationSelectionInvalid | authorizationExpired | authorizationRejected
  | authorizationPending | scheduleExchangeFailed => exact .inl (by simp)
  | preCharge | welding => split <;> simp
  | _ => first | exact .inl rfl | exact .inr ⟨nofun, nofun⟩

/-- A handled request does not end the session by itself. -/
theorem Handles.live (h : Handles s env body session calls code disposition)
    (hlive : s.state ≠ .ended) : session.state ≠ .ended := by
  rcases h.state_cases with hsame | ⟨-, hleads⟩
  · rw [hsame]
    exact hlive
  · exact hleads

/-- A PowerDelivery Stop only ever commands the contactor open. -/
theorem stopCalls_contactor {close confirmed : Bool}
    (h : .contactorSet close confirmed ∈ stopCalls env s) : close = false := by
  unfold stopCalls contactorCall invoke at h
  grind

/-- Only PowerDelivery commands the contactor or enters and leaves the charge loop. -/
theorem Handles.contactorStep (h : Handles s env body session calls code disposition)
    (haccepts : s20StateAccepts s.state body.kind = true) :
    ContactorStep s env body session calls code disposition := by
  have hstates := mem_acceptingStates haccepts
  cases h with
  | start hstate hinstalled => exact .close rfl hstate hinstalled rfl rfl rfl ⟨rfl, rfl⟩
  | startRefused hstate hrefused =>
    refine .refused rfl hstate ?_ rfl
    intro c hc
    unfold s20CbContactor at hrefused
    unfold contactorCall invoke at hc
    split at hc <;> simp_all
  | stop => exact .stop rfl rfl rfl rfl ⟨rfl, rfl⟩
  | authorizationSelectionInvalid | authorizationExpired | authorizationRejected
  | authorizationPending | scheduleExchangeFailed =>
    exact .other (by simp [Call20.isContactor]) (by simp) (by simp)
  | preCharge => split <;> exact .other (by simp [Call20.isContactor]) rfl (by simp_all)
  -- the remaining requests are accepted outside the charge loop, and do not lead into it
  | welding =>
    have hstate : s.state = .welding := List.mem_singleton.mp hstates
    split <;> exact .other (by simp) rfl (by simp [hstate])
  | sessionSetup | authSetup | authorizationGranted | serviceDiscovery | serviceSelection
  | scheduleExchange | dcCpd | cableCheckFinished =>
    have hstate := List.mem_singleton.mp hstates
    exact .other (by simp [Call20.isContactor]) rfl (by simp [hstate])
  | _ => exact .other (by simp) rfl Iff.rfl

end Contactor

end Jpv2g
