import Jpv2g.SeccIso20

/-!
# The ISO 15118-20 Request Handlers

One definition for each handler of `secc_iso20.c`. A handler moves the session, invokes hooks and
answers; most answers are encoded twice, first as the minimal response of their kind and then
with the values filled in, and the session has moved by then even when an encoding fails.

## Main definitions

* `HandlerResult20`: the outcome of a handler.
* `s20BuildRes`: encode the minimal response of a kind.
* `s20HandleAuthorization`, `s20HandlePowerDelivery`, …: the handlers.
-/

namespace Jpv2g

/-- The outcome of handling a request. -/
structure HandlerResult20 where
  session : Secc20
  /-- The hooks invoked, oldest first. -/
  calls : List Call20
  /-- The response handed to the encoder last. -/
  res : Option Res20
  /-- The return code, with the response bytes when it is `0`. -/
  rc : Except Errno (List UInt8)
  disposition : Disposition20

/-- The default EVSEID (`kSecc20DefaultEvseId`). -/
def secc20DefaultEvseId : List Char := "IN*JPE*E000100010001".toList

/-- `JPV2G_SECC20_DC_SERVICE_ID`. -/
def dcServiceId : ℕ := 2

/-- `JPV2G_SECC20_DC_PARAMETER_SET_ID`. -/
def dcParameterSetId : ℕ := 0

/-- `JPV2G_SECC20_SCHEDULE_TUPLE_ID`. -/
def scheduleTupleId : ℕ := 1

/-- `JPV2G_SECC20_SCHEDULE_DURATION_S`. -/
def scheduleDurationS : ℕ := 86400

section Builders

variable (codec : Codec20) (env : Env20) (outCap : ℕ) (s : Secc20)

/-- The EVSEID of a SessionSetupRes (`s20_fill_evse_id`). -/
def s20FillEvseId : List Char :=
  (if s.cfg.evseId ≠ [] then s.cfg.evseId else secc20DefaultEvseId).take 63

/-- The parameters of the offered service (`s20_fill_service_param_set`). -/
def s20ServiceParamSet : List ServiceParameter :=
  [⟨"Connector".toList, 2⟩, ⟨"ControlMode".toList, 1⟩, ⟨"MobilityNeedsMode".toList, 1⟩,
    ⟨"Pricing".toList, 0⟩]

/-- The limits of a DC_ChargeParameterDiscoveryRes (`s20_fill_dc_limits_res`). -/
def s20FillDcLimitsRes (lim : DcLimits20) : DcCpdResEnergyTransferMode :=
  { evseMaximumChargePower := ratFromFloat lim.maxChargePowerW
    evseMinimumChargePower := ratFromFloat lim.minChargePowerW
    evseMaximumChargeCurrent := ratFromFloat lim.maxChargeCurrentA
    evseMinimumChargeCurrent := ratFromFloat lim.minChargeCurrentA
    evseMaximumVoltage := ratFromFloat lim.maxVoltageV
    evseMinimumVoltage := ratFromFloat lim.minVoltageV }

/-- The schedule of a ScheduleExchangeRes (`s20_fill_schedule_tuple`). -/
def s20ScheduleExchangeBody (powerW : ℚ) : Res20Body :=
  .scheduleExchange .finished scheduleTupleId (s20NowUnix s env.timeAnchor) scheduleDurationS
    (ratFromFloat powerW)

/-- A DC_ChargeLoopRes without values. -/
def s20MinimalChargeLoopRes : DcChargeLoopRes :=
  { evsePresentCurrent := ratFromFloat 0
    evsePresentVoltage := ratFromFloat 0
    evsePowerLimitAchieved := false
    evseCurrentLimitAchieved := false
    evseVoltageLimitAchieved := false
    scheduled :=
      { evseMaximumChargePower := none, evseMinimumChargePower := none,
        evseMaximumChargeCurrent := none, evseMaximumVoltage := none }
    meterInfo := none
    evseStatus := none }

/-- The body of the minimal response to a kind of request. -/
def s20MinimalBody : Req20 → Option Res20Body
  | .none => none
  | .sessionSetup => some (.sessionSetup (s20FillEvseId s))
  | .authSetup => some (.authorizationSetup [.eim] false)
  | .authorization => some (.authorization .finished)
  | .serviceDiscovery => some (.serviceDiscovery false [dcServiceId])
  | .serviceDetail => some (.serviceDetail dcServiceId dcParameterSetId s20ServiceParamSet)
  | .serviceSelection => some .serviceSelection
  | .scheduleExchange => some (s20ScheduleExchangeBody env s 0)
  | .powerDelivery => some .powerDelivery
  | .meteringConfirmation => some .meteringConfirmation
  | .sessionStop => some .sessionStop
  | .certInstall => some (.certificateInstallation .finished)
  | .vehicleCheckin => some .vehicleCheckIn
  | .vehicleCheckout => some .vehicleCheckOut
  | .dcCpd => some (.dcChargeParameterDiscovery (s20FillDcLimitsRes zeroLimits))
  | .dcCableCheck => some (.dcCableCheck .finished)
  | .dcPreCharge => some (.dcPreCharge (ratFromFloat 0))
  | .dcChargeLoop => some (.dcChargeLoop s20MinimalChargeLoopRes)
  | .dcWelding => some (.dcWeldingDetection (ratFromFloat 0))

/-- A response with its header filled in (`s20_fill_common_header`, `s20_fill_dc_header`). -/
def s20FillHeader (code : ResponseCode20) (body : Res20Body) : Res20 :=
  { sessionId := s.sessionId, timeStamp := s20NowUnix s env.timeStamp, responseCode := code, body }

/-- Encode a response; every encoder error is `-EBADMSG` (`s20_encode_common`,
`s20_encode_dc`). -/
def s20Encode (res : Res20) : Except Errno (List UInt8) :=
  match codec.encode res outCap with
  | some bytes => .ok bytes
  | none => .error .ebadmsg

/-- Record the code and encode the minimal response of the kind (`s20_build_common_res`,
`s20_build_dc_res`). -/
def s20BuildRes (calls : List Call20) (kind : Req20) (code : ResponseCode20) :
    HandlerResult20 :=
  let session := { s with lastResponseCode := code.value }
  match s20MinimalBody env s kind with
  | none =>
    { session, calls, res := none, rc := .error .einval, disposition := .continue }
  | some body =>
    let res := s20FillHeader env s code body
    { session, calls, res := some res, rc := s20Encode codec outCap res,
      disposition := .continue }

/-- Encode the minimal response of the kind and then the response with its values filled in. -/
def s20BuildFullRes (calls : List Call20) (kind : Req20) (code : ResponseCode20)
    (body : Res20Body) : HandlerResult20 :=
  let minimal := s20BuildRes codec env outCap s calls kind code
  match minimal.rc with
  | .error _ => minimal
  | .ok _ =>
    let res := s20FillHeader env s code body
    { minimal with res := some res, rc := s20Encode codec outCap res }

end Builders

section Handlers

variable (codec : Codec20) (env : Env20) (outCap : ℕ) (s : Secc20)

/-! ## CommonMessages handlers -/

/-- The identifier derived from the clock when the random provider fails. -/
def clockSid (nowMs : ℕ) : Sid :=
  ⟨(List.range 8).map fun i =>
      let byte : UInt8 := (UInt8.ofNat (nowMs / 2 ^ (8 * i))) ^^^ 0xA5
      if i = 0 then byte ||| 0x01 else byte,
    by simp⟩

/-- Answer a SessionSetupReq: a session is established under a fresh identifier
(`s20_handle_session_setup`). -/
def s20HandleSessionSetup (evccId : List Char) : HandlerResult20 :=
  -- always a fresh session: the identifier of the request is not looked at
  let sessionId :=
    match env.rng.result with
    | .ok sid => sid
    | .error _ => clockSid env.nowHandler
  s20BuildRes codec env outCap
    { s with sessionId, sessionEstablished := true, state := .authSetup }
    (invoke s.cfg.callbacks.onEvccid (.onEvccid (evccId.take 255)))
    .sessionSetup .okNewSessionEstablished

/-- Answer an AuthorizationSetupReq (`s20_handle_auth_setup`). -/
def s20HandleAuthSetup : HandlerResult20 :=
  s20BuildRes codec env outCap { s with state := .authorization }
    (invoke s.cfg.callbacks.onAuthRequired .onAuthRequired) .authSetup .ok

/-- The session with its EIM timer started by the first AuthorizationReq. -/
def Secc20.startEimTimer (s : Secc20) (nowMs : ℕ) : Secc20 :=
  if s.eimOngoingDeadlineMs = 0 then
    { s with eimOngoingDeadlineMs := nowMs + Secc20.eimOngoingTimeoutMs }
  else s

/-- Answer an AuthorizationReq by the authorization status, until the EIM timer has run out
(`s20_handle_authorization`). -/
def s20HandleAuthorization (selected : Authorization20) : HandlerResult20 :=
  let s := s.startEimTimer env.nowHandler
  -- a warning, so that the vehicle may try again
  if selected ≠ .eim then
    s20BuildFullRes codec env outCap s [] .authorization .warningAuthorizationSelectionInvalid
      (.authorization .ongoingWaitingForCustomerInteraction)
  else if env.nowHandler > s.eimOngoingDeadlineMs then
    s20BuildFullRes codec env outCap s [] .authorization .failed (.authorization .finished)
  else
    let calls := invoke s.cfg.callbacks.authStatus (.authStatus env.authStatus)
    match s20CbAuth s env with
    -- Finished as soon as the grant is there
    | .granted =>
      s20BuildFullRes codec env outCap
        { s with state := .serviceDiscovery, eimOngoingDeadlineMs := 0 } calls
        .authorization .ok (.authorization .finished)
    | .rejected =>
      s20BuildFullRes codec env outCap s calls .authorization .warningEimAuthorizationFailure
        (.authorization .finished)
    | .pending =>
      s20BuildFullRes codec env outCap s calls .authorization .ok
        (.authorization .ongoingWaitingForCustomerInteraction)

/-- The vehicle's filter, when it sent one, admits the DC service. -/
def offersDc : Option (List ℕ) → Bool
  | none => true
  | some ids => (ids.take 16).contains dcServiceId

/-- Answer a ServiceDiscoveryReq with the DC service (`s20_handle_service_discovery`). -/
def s20HandleServiceDiscovery (supportedServiceIds : Option (List ℕ)) : HandlerResult20 :=
  let s := { s with state := .serviceDetail }
  -- a vehicle that filters the service out gets an empty list, answered OK
  if offersDc supportedServiceIds then
    s20BuildRes codec env outCap s [] .serviceDiscovery .ok
  else
    s20BuildFullRes codec env outCap s [] .serviceDiscovery .ok (.serviceDiscovery false [])

/-- Answer a ServiceDetailReq with the parameter set of the DC service
(`s20_handle_service_detail`). -/
def s20HandleServiceDetail (serviceId : ℕ) : HandlerResult20 :=
  -- the request may be repeated until a service is selected
  if serviceId ≠ dcServiceId then
    s20BuildRes codec env outCap s [] .serviceDetail .failedServiceIdInvalid
  else s20BuildRes codec env outCap s [] .serviceDetail .ok

/-- Answer a ServiceSelectionReq: only the DC service with its parameter set can be selected,
without value added services (`s20_handle_service_selection`). -/
def s20HandleServiceSelection (serviceId parameterSetId selectedVasCount : ℕ) :
    HandlerResult20 :=
  if serviceId ≠ dcServiceId then
    s20BuildRes codec env outCap s [] .serviceSelection .failedNoEnergyTransferServiceSelected
  else if parameterSetId ≠ dcParameterSetId ∨ 0 < selectedVasCount then
    s20BuildRes codec env outCap s [] .serviceSelection .failedServiceSelectionInvalid
  else s20BuildRes codec env outCap { s with state := .dcCpd } [] .serviceSelection .ok

/-- The session with its ScheduleExchange timer started by the first request. -/
def Secc20.startSeTimer (s : Secc20) (nowMs : ℕ) : Secc20 :=
  if s.seOngoingDeadlineMs = 0 then
    { s with seOngoingDeadlineMs := nowMs + Secc20.seOngoingTimeoutMs }
  else s

/-- The invocation of the limits hook. -/
def limitsCall : List Call20 :=
  invoke s.cfg.callbacks.getDcLimits (.getDcLimits env.dcLimits)

/-- The invocation of the telemetry hook. -/
def presentCall : List Call20 :=
  invoke s.cfg.callbacks.getPresent (.getPresent env.present)

/-- Answer a ScheduleExchangeReq with the one schedule of the Scheduled mode
(`s20_handle_schedule_exchange`). -/
def s20HandleScheduleExchange (dynamicMode scheduledMode : Bool) : HandlerResult20 :=
  let s := s.startSeTimer env.nowHandler
  -- Dynamic is not offered, a missing mode is malformed, and an expired timer fails
  if dynamicMode ∨ ¬scheduledMode ∨ env.nowHandler > s.seOngoingDeadlineMs then
    s20BuildRes codec env outCap s [] .scheduleExchange .failed
  else
    let s := { s with seOngoingDeadlineMs := 0, state := .cableCheck }
    s20BuildFullRes codec env outCap s (limitsCall env s) .scheduleExchange .ok
      (s20ScheduleExchangeBody env s (s20CbLimits s env).maxChargePowerW)

/-- PowerDelivery(Start): close the contactor and enter the charge loop, unless it is running
already. -/
def s20PowerDeliveryStart : HandlerResult20 :=
  if s.state = .chargeLoop then s20BuildRes codec env outCap s [] .powerDelivery .ok
  -- the hook returns once the position is confirmed
  else if s20CbContactor s env true then
    s20BuildRes codec env outCap { s with contactorClosed := true, state := .chargeLoop }
      (contactorCall s env true) .powerDelivery .ok
  else
    s20BuildRes codec env outCap s (contactorCall s env true) .powerDelivery
      .failedContactorError

/-- The hooks of a PowerDelivery(Stop): the report of a charge loop that ends, and the command
to open a closed contactor. -/
def stopCalls : List Call20 :=
  (if s.state = .chargeLoop then
    invoke s.cfg.callbacks.onChargeLoopFinished .onChargeLoopFinished
  else []) ++
  if s.contactorClosed then contactorCall s env false else []

/-- PowerDelivery(Stop): open the contactor; a refusal never blocks the stop. -/
def s20PowerDeliveryStop : HandlerResult20 :=
  s20BuildRes codec env outCap { s with contactorClosed := false, state := .welding }
    (stopCalls env s) .powerDelivery .ok

/-- Answer a PowerDeliveryReq by the progress that it asks for (`s20_handle_power_delivery`). -/
def s20HandlePowerDelivery (progress : ChargeProgress20) (selectedTuple : Option ℕ) :
    HandlerResult20 :=
  -- a profile must refer to the one schedule offered, also when it asks to stop
  if selectedTuple.any (· ≠ scheduleTupleId) then
    s20BuildRes codec env outCap s [] .powerDelivery .failedScheduleSelectionInvalid
  else
    match progress with
    | .start => s20PowerDeliveryStart codec env outCap s
    | .stop => s20PowerDeliveryStop codec env outCap s
    -- a warning never ends the session
    | .standby => s20BuildRes codec env outCap s [] .powerDelivery .warningStandbyNotAllowed
    | .scheduleRenegotiation =>
      s20BuildRes codec env outCap s [] .powerDelivery .failedScheduleRenegotiation

/-- The report of the vehicle's termination diagnostics, when it sent any. -/
def terminationCalls (terminationCode terminationExplanation : Option (List Char)) :
    List Call20 :=
  let code := (terminationCode.getD []).take 80
  let explanation := (terminationExplanation.getD []).take 160
  invoke ((code ≠ [] || explanation ≠ []) && s.cfg.callbacks.onEvTermination)
    (.onEvTermination code explanation)

/-- Answer a SessionStopReq; the session is done after its response, unless the request asks for a
renegotiation (`s20_handle_session_stop`). -/
def s20HandleSessionStop (action : ChargingSession20)
    (terminationCode terminationExplanation : Option (List Char)) : HandlerResult20 :=
  let calls := terminationCalls s terminationCode terminationExplanation
  match action with
  -- ServiceDiscovery has advertised that renegotiation is not supported
  | .serviceRenegotiation =>
    s20BuildRes codec env outCap s calls .sessionStop .failedNoServiceRenegotiationSupported
  | .pause =>
    { s20BuildRes codec env outCap s calls .sessionStop .ok with disposition := .donePaused }
  | .terminate | .reserved =>
    { s20BuildRes codec env outCap s calls .sessionStop .ok with disposition := .doneStopped }

/-! ## DC handlers -/

/-- The vehicle's limits as they are reported to the controller. -/
def evLimits20 (ev : DcCpdReqEnergyTransferMode) : EvLimits20 :=
  { evMaxChargePowerW := ratToFloat ev.evMaximumChargePower
    evMinChargePowerW := ratToFloat ev.evMinimumChargePower
    evMaxChargeCurrentA := ratToFloat ev.evMaximumChargeCurrent
    evMinChargeCurrentA := ratToFloat ev.evMinimumChargeCurrent
    evMaxVoltageV := ratToFloat ev.evMaximumVoltage
    evMinVoltageV := ratToFloat ev.evMinimumVoltage
    targetSocPercent := ev.targetSoc.getD (-1) }

/-- Answer a DC_ChargeParameterDiscoveryReq with the controller's limits (`s20_handle_dc_cpd`). -/
def s20HandleDcCpd (bptMode : Bool) (dcMode : Option DcCpdReqEnergyTransferMode) :
    HandlerResult20 :=
  match bptMode, dcMode with
  -- the bidirectional mode was never offered
  | false, some ev =>
    let calls :=
      invoke s.cfg.callbacks.onEvLimits (.onEvLimits (evLimits20 ev)) ++ limitsCall env s
    let s := { s with state := .scheduleExchange }
    s20BuildFullRes codec env outCap s calls .dcCpd .ok
      (.dcChargeParameterDiscovery (s20FillDcLimitsRes (s20CbLimits s env)))
  | _, _ => s20BuildRes codec env outCap s [] .dcCpd .failedWrongChargeParameter

/-- The hooks of a CableCheckReq: the report of the first one, and the isolation status. -/
def cableCheckCalls : List Call20 :=
  (if s.cableCheckStarted then []
    else invoke s.cfg.callbacks.onCableCheckStarted .onCableCheckStarted) ++
  invoke s.cfg.callbacks.cableCheckStatus (.cableCheckStatus env.cableCheckStatus)

/-- Answer a DC_CableCheckReq by the isolation status (`s20_handle_dc_cable_check`). -/
def s20HandleDcCableCheck : HandlerResult20 :=
  let calls := cableCheckCalls env s
  let s := { s with cableCheckStarted := true }
  match s20CbCableCheck s env with
  -- the wire format has no isolation status: Finished is the verdict
  | .finished =>
    s20BuildRes codec env outCap { s with state := .preCharge } calls .dcCableCheck .ok
  | .fault => s20BuildRes codec env outCap s calls .dcCableCheck .failed
  | .ongoing =>
    s20BuildFullRes codec env outCap s calls .dcCableCheck .ok (.dcCableCheck .ongoing)

/-- Answer a DC_PreChargeReq with the present voltage (`s20_handle_dc_pre_charge`). -/
def s20HandleDcPreCharge (evTargetVoltage evPresentVoltage : RationalNumber) :
    HandlerResult20 :=
  let calls :=
    invoke s.cfg.callbacks.onPrechargeTarget
      (.onPrechargeTarget (ratToFloat evTargetVoltage) (ratToFloat evPresentVoltage)) ++
      presentCall env s
  -- the first PreChargeReq moves on to a state that answers the further ones
  let s := if s.state = .preCharge then { s with state := .powerDelivery } else s
  s20BuildFullRes codec env outCap s calls .dcPreCharge .ok
    (.dcPreCharge (ratFromFloat (s20CbPresent s env).voltageV))

/-- The meter reading of a DC_ChargeLoopRes, when it is requested and fresh. -/
def s20MeterInfo (requested : Bool) : Option MeterInfo20 :=
  if requested ∧ s.cfg.callbacks.getMeter then
    env.meter.map fun reading =>
      { meterId := reading.1.take 32, chargedEnergyReadingWh := reading.2 }
  else none

/-- The notification of a DC_ChargeLoopRes. -/
def s20EvseStatus : StopRequest20 → Option EvseNotification20
  | .none => none
  | .pause => some .pause
  | .terminate => some .terminate

/-- The values of a DC_ChargeLoopRes. -/
def s20ChargeLoopRes (meterRequested : Bool) : DcChargeLoopRes :=
  let present := s20CbPresent s env
  let lim := s20CbLimits s env
  { evsePresentCurrent := ratFromFloat present.currentA
    evsePresentVoltage := ratFromFloat present.voltageV
    evsePowerLimitAchieved := present.powerLimitAchieved
    evseCurrentLimitAchieved := present.currentLimitAchieved
    evseVoltageLimitAchieved := present.voltageLimitAchieved
    scheduled :=
      { evseMaximumChargePower := some (ratFromFloat lim.maxChargePowerW)
        evseMinimumChargePower := some (ratFromFloat lim.minChargePowerW)
        evseMaximumChargeCurrent := some (ratFromFloat lim.maxChargeCurrentA)
        evseMaximumVoltage := some (ratFromFloat lim.maxVoltageV) }
    meterInfo := s20MeterInfo env s meterRequested
    evseStatus := s20EvseStatus (s20CbStop s env) }

/-- The hooks of a DC_ChargeLoopReq: the report of the first one, the targets, the display
parameters when they are sent, and the values of the response. -/
def chargeLoopCalls (req : DcChargeLoopReq) (targets : ScheduledDcClReqControlMode) :
    List Call20 :=
  (if s.chargeLoopStarted then []
    else invoke s.cfg.callbacks.onChargeLoopStarted .onChargeLoopStarted) ++
  invoke s.cfg.callbacks.onChargeTargets
    (.onChargeTargets (ratToFloat targets.evTargetVoltage)
      (ratToFloat targets.evTargetCurrent) (ratToFloat req.evPresentVoltage)) ++
  (match req.displayParameters with
    | some soc =>
      invoke s.cfg.callbacks.onDisplayParameters (.onDisplayParameters (soc.getD (-1)))
    | none => []) ++
  presentCall env s ++ limitsCall env s ++
  invoke s.cfg.callbacks.stopRequest (.stopRequest env.stopRequest) ++
  invoke (req.meterInfoRequested && s.cfg.callbacks.getMeter) (.getMeter env.meter)

/-- Answer a DC_ChargeLoopReq with the telemetry, the limits and the notification of the controller
(`s20_handle_dc_charge_loop`). -/
def s20HandleDcChargeLoop (req : DcChargeLoopReq) : HandlerResult20 :=
  match req.scheduled, req.otherControlMode with
  -- only the Scheduled mode was negotiated
  | some targets, false =>
    let calls := chargeLoopCalls env s req targets
    let s := { s with chargeLoopStarted := true }
    s20BuildFullRes codec env outCap s calls .dcChargeLoop .ok
      (.dcChargeLoop (s20ChargeLoopRes env s req.meterInfoRequested))
  | _, _ => s20BuildRes codec env outCap s [] .dcChargeLoop .failed

/-- Answer a DC_WeldingDetectionReq with the present voltage, until the vehicle has finished
(`s20_handle_dc_welding`). -/
def s20HandleDcWelding (evProcessing : Processing20) : HandlerResult20 :=
  let calls := presentCall env s
  -- the vehicle owns the verdict on the weld
  let s := if evProcessing = .finished then { s with state := .sessionStop } else s
  s20BuildFullRes codec env outCap s calls .dcWelding .ok
    (.dcWeldingDetection (ratFromFloat (s20CbPresent s env).voltageV))

end Handlers

end Jpv2g
