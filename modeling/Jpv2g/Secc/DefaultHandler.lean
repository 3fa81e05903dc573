import Jpv2g.Secc.AppProtocol
import Jpv2g.Secc.EnergyMode
import Jpv2g.Secc.PhysicalValue

/-!
# The Default Request Handler

The built-in handler that answers every ISO 15118-2 and DIN 70121 request
(`jpv2g_secc_default_handle` of `secc.c`), one definition for each message.

## Main definitions

* `HandlerResult`: the outcome of a handler call.
* `defaultHandle`: the handler.
-/

namespace Jpv2g

/-- The function-local variables of the handler. -/
structure HandlerStatics where
  /-- The session the pending flag belongs to (`s_last_iso_auth_sid`). -/
  lastIsoAuthSid : Sid
  /-- An Ongoing AuthorizationRes has been sent (`s_iso_auth_pending_sent`). -/
  isoAuthPendingSent : Bool
deriving DecidableEq, Repr

/-- The initial function-local variables. -/
def HandlerStatics.init : HandlerStatics :=
  { lastIsoAuthSid := .zero, isoAuthPendingSent := false }

/-- The outcome of a handler call. -/
structure HandlerResult where
  secc : Secc
  statics : HandlerStatics
  /-- The return code, with the response bytes when it is `0`. -/
  rc : Except Errno (List UInt8)
  /-- The response handed to the encoder. -/
  res : Option Res
  /-- The answer of `authorize_contract`, when the handler asked for it; a missing callback
  counts as a refusal. -/
  authorized : Option Bool

/-- Encode a response. -/
def reply (codec : Codec) (secc : Secc) (statics : HandlerStatics) (res : Res) :
    HandlerResult :=
  { secc, statics, rc := codec.encode res, res := some res, authorized := none }

/-- `kIsoEvseId`. -/
def isoEvseId : List Char := "IN*JPE*E000100010001".toList

/-- `kDinEvseId`. -/
def dinEvseId : List Char := "JPEVSE000100100010".toList

/-- The wall clock, or `-1` when the platform has none (`secc_wallclock_or_absent`). -/
def wallclockOrAbsent (env : HandlerEnv) : ℤ :=
  if env.wallClock > 1577836800 then env.wallClock else -1

/-- The ready status of a DC charger (`secc_set_dc_evse_status_iso`,
`secc_set_dc_evse_status_din`). -/
def readyStatus : DcEvseStatus :=
  { notificationMaxDelay := 1, evseNotification := .none, evseStatusCode := .ready,
    evseIsolationStatus := some .valid }

/-- The status of a CableCheckRes of a station without an isolation monitor. -/
def faultStatus (isolation : IsolationLevel) : DcEvseStatus :=
  { notificationMaxDelay := 0, evseNotification := .stopCharging, evseStatusCode := .malfunction,
    evseIsolationStatus := some isolation }

/-- Add to the energy delivered, which never becomes negative (`secc_bump_meter`). -/
def Secc.bumpMeter (secc : Secc) (deltaWh : ℤ) : Secc :=
  { secc with meterWh := max 0 (secc.meterWh + deltaWh) }

/-- The meter reading of an ISO response (`secc_fill_iso_meter_info`). -/
def Secc.fillIsoMeterInfo (secc : Secc) : MeterInfo :=
  { meterId := secc.meterId.take 32, meterReading := secc.meterWh.toNat, meterStatus := 0 }

/-- The offers of a supportedAppProtocolReq body. -/
def Request.appOffers (request : Request) : Option (List AppProtocol) :=
  match request.body with
  | some (.app offers) => some offers
  | _ => none

/-- The request belongs to a DIN 70121 session. -/
def Request.isDin (request : Request) : Bool :=
  request.protocol == .din70121

/-- The ISO 15118-2 body of the request. -/
def Request.iso2Body (request : Request) : Option Iso2Body :=
  match request.body with
  | some (.iso2 body) => some body
  | _ => none

/-- The DIN 70121 body of the request. -/
def Request.dinBody (request : Request) : Option DinBody :=
  match request.body with
  | some (.din body) => some body
  | _ => none

section Handlers

variable (codec : Codec) (env : HandlerEnv) (secc : Secc) (statics : HandlerStatics)
  (request : Request)

/-- Answer a supportedAppProtocolReq with the code and the SchemaID of the selection. -/
def handleSuppAppProtocol (build : Build) (registered : Bool) : HandlerResult :=
  let selection := selectAppProtocol build registered request.appOffers
  reply codec secc statics
    (.sapp ((selection.offer.map (·.schemaId)).getD 0) selection.responseCode)

/-- Answer a SessionSetupReq in the name of the session that was resolved, new or joined. -/
def handleSessionSetup (oldSessionJoined : Bool) : HandlerResult :=
  let code : ResponseCode :=
    if oldSessionJoined then .okOldSessionJoined else .okNewSessionEstablished
  -- a new or resumed session must renegotiate its DIN offer
  let secc := secc.clearDinOffer
  if request.isDin then
    reply codec secc statics
      (.din secc.sessionId (.sessionSetup dinEvseId code (wallclockOrAbsent env)))
  else
    reply codec secc { lastIsoAuthSid := secc.sessionId, isoAuthPendingSent := false }
      (.iso2 secc.sessionId (.sessionSetup isoEvseId code))

/-- The `free_service` field of a ServiceDiscoveryRes. -/
def freeService : ℕ :=
  if secc.isFreeCharging then env.isFreeCharging
  else if secc.cfg.freeCharging then 1 else 0

/-- Bind the session to the DIN offer that has been encoded. -/
def Secc.advertiseDin (secc : Secc) (etm : EnergyTransferMode) : Secc :=
  { secc with
    dinAdvertisedEnergyTransferType := etm.code
    dinAdvertisedEnergyTransferValid := true }

/-- Answer a DIN ServiceDiscoveryReq with the one energy transfer type that is offered, and bind the
session to it; `FAILED` without one. -/
def handleDinServiceDiscovery : HandlerResult :=
  let result := reply codec secc.clearDinOffer statics
    (.din secc.sessionId
      (.serviceDiscovery (if secc.resolveDinEtm.isSome then .ok else .failed) .externalPayment
        (secc.resolveDinEtm.getD .dcExtended) 1 (freeService env secc)))
  match result.rc, secc.resolveDinEtm with
  -- only an offer that has been encoded binds the session
  | .ok _, some etm => { result with secc := result.secc.advertiseDin etm }
  | _, _ => result

/-- Answer a ServiceDiscoveryReq with the energy transfer modes that are offered. -/
def handleServiceDiscovery : HandlerResult :=
  if request.isDin then handleDinServiceDiscovery codec env secc statics
  else
    reply codec secc statics
      (.iso2 secc.sessionId
        (.serviceDiscovery .ok [.externalPayment] secc.isoOfferedModes 1 "DCFC".toList
          (freeService env secc)))

/-- Answer a ServiceDetailReq. -/
def handleServiceDetail : HandlerResult :=
  -- the requested identifier is echoed with OK, whatever it is
  if request.isDin then
    let requestedServiceId :=
      match request.dinBody with
      | some (.serviceDetailReq serviceId) => serviceId
      | _ => 1
    reply codec secc statics (.din secc.sessionId (.serviceDetail .ok requestedServiceId))
  else
    let requestedServiceId :=
      match request.iso2Body with
      | some (.serviceDetailReq serviceId) => serviceId
      | _ => 1
    reply codec secc statics (.iso2 secc.sessionId (.serviceDetail .ok requestedServiceId))

/-- The code for the selected payment option: only ExternalPayment is offered. -/
def paymentCode : Option PaymentOption → ResponseCode
  | some .contract => .failedPaymentSelectionInvalid
  | some .externalPayment | none => .ok

/-- A refused payment option ends the stream after its response. -/
def Secc.refusePayment (secc : Secc) : Option PaymentOption → Secc
  | some .contract => { secc with terminateAfterResponse := true }
  | some .externalPayment | none => secc

/-- Answer a PaymentServiceSelectionReq; a payment option that is not offered ends the stream. -/
def handlePaymentServiceSelection : HandlerResult :=
  if request.isDin then
    let selected :=
      match request.dinBody with
      | some (.servicePaymentSelectionReq option) => some option
      | _ => none
    reply codec (secc.refusePayment selected) statics
      (.din secc.sessionId (.servicePaymentSelection (paymentCode selected)))
  else
    let selected :=
      match request.iso2Body with
      | some (.paymentServiceSelectionReq option) => some option
      | _ => none
    reply codec (secc.refusePayment selected) statics
      (.iso2 secc.sessionId (.paymentServiceSelection (paymentCode selected)))

/-- The backend's authorization; a missing callback refuses. -/
def authorizeContract : Bool :=
  secc.authorizeContract && env.authorizeContract

/-- `OK` when the contract is authorized, `FAILED` otherwise. -/
def authorizationCode : ResponseCode :=
  if authorizeContract env secc then .ok else .failed

/-- Answer a PaymentDetailsReq by what the backend says of the contract. -/
def handlePaymentDetails : HandlerResult :=
  let result :=
    if request.isDin then
      reply codec secc statics
        (.din secc.sessionId
          (.paymentDetails (authorizationCode env secc) (wallclockOrAbsent env)))
    else
      reply codec secc statics
        (.iso2 secc.sessionId (.paymentDetails (authorizationCode env secc) env.wallClock))
  { result with authorized := some (authorizeContract env secc) }

/-- The pending flag for the session: it is forgotten when the session has changed. -/
def HandlerStatics.forSession (statics : HandlerStatics) (sid : Sid) : HandlerStatics :=
  if statics.lastIsoAuthSid = sid then statics
  else { lastIsoAuthSid := sid, isoAuthPendingSent := false }

/-- Answer an AuthorizationReq by what the backend says; in ISO 15118-2 a grant is answered Ongoing
once before it is answered Finished. -/
def handleAuthorization : HandlerResult :=
  let ok := authorizeContract env secc
  -- a refusal is answered FAILED, and the stream goes on
  let result :=
    if request.isDin then
      reply codec secc statics
        (.din secc.sessionId (.contractAuthentication (authorizationCode env secc) .finished))
    else
      let statics := statics.forSession secc.sessionId
      -- the first granted request of a session is answered Ongoing
      if ok ∧ statics.isoAuthPendingSent = false then
        reply codec secc { statics with isoAuthPendingSent := true }
          (.iso2 secc.sessionId (.authorization (authorizationCode env secc) .ongoing))
      else
        reply codec secc statics
          (.iso2 secc.sessionId (.authorization (authorizationCode env secc) .finished))
  { result with authorized := some ok }

/-- Answer a ChargeParameterDiscoveryReq: `OK` when the requested mode is supported. -/
def handleChargeParameterDiscovery : HandlerResult :=
  if request.isDin then
    let code : ResponseCode :=
      match request.dinBody with
      | some (.chargeParameterDiscoveryReq etm) =>
        if secc.dinEtmSupported etm then .ok else .failedWrongEnergyTransferType
      | _ => .failedWrongEnergyTransferType
    reply codec secc statics (.din secc.sessionId (.chargeParameterDiscovery code .finished))
  else
    -- the response names the requested mode, supported or not
    let requestedEtm :=
      match request.iso2Body with
      | some (.chargeParameterDiscoveryReq etm) => etm
      | _ => secc.selectIsoEtm
    let code : ResponseCode :=
      if secc.isoEtmSupported requestedEtm then .ok else .failedWrongEnergyTransferMode
    reply codec secc statics (.iso2 secc.sessionId (.chargeParameterDiscovery code requestedEtm))

/-- Answer a CableCheckReq. -/
def handleCableCheck : HandlerResult :=
  -- without an isolation monitor the test fails
  if request.isDin then
    reply codec secc statics
      (.din secc.sessionId (.cableCheck .failed .finished (faultStatus .fault)))
  else
    reply codec secc statics
      (.iso2 secc.sessionId (.cableCheck .failed .finished (faultStatus .noImd)))

/-- The voltage echoed when the request has no body. -/
def defaultVoltage : PhysicalValue :=
  { multiplier := 0, unit := some .volt, value := 400 }

/-- The current echoed when the request has no body. -/
def defaultCurrent : PhysicalValue :=
  { multiplier := 0, unit := some .ampere, value := 16 }

/-- Answer a PreChargeReq with the target voltage, clamped. -/
def handlePreCharge : HandlerResult :=
  if request.isDin then
    let voltage :=
      match request.dinBody with
      | some (.preChargeReq target) => target.clampEcho .volt echoMaxVoltageV
      | _ => defaultVoltage
    reply codec secc statics (.din secc.sessionId (.preCharge .ok readyStatus voltage))
  else
    let voltage :=
      match request.iso2Body with
      | some (.preChargeReq target) => target.clampEcho .volt echoMaxVoltageV
      | _ => defaultVoltage
    reply codec secc statics (.iso2 secc.sessionId (.preCharge .ok readyStatus voltage))

/-- Answer a PowerDeliveryReq. -/
def handlePowerDelivery : HandlerResult :=
  if request.isDin then reply codec secc statics (.din secc.sessionId (.powerDelivery .ok))
  else reply codec secc statics (.iso2 secc.sessionId (.powerDelivery .ok))

/-- Answer a ChargingStatusReq. -/
def handleChargingStatus : HandlerResult :=
  -- DIN kept the request of the draft, but has no response to it
  if request.isDin then
    { secc, statics, rc := .error .eproto, res := none, authorized := none }
  else
    reply codec secc statics (.iso2 secc.sessionId (.chargingStatus .ok "EVSE_ID_1".toList 1))

/-- Answer a CurrentDemandReq with the targets, clamped, and count the energy. -/
def handleCurrentDemand : HandlerResult :=
  let metered := secc.bumpMeter 100
  if request.isDin then
    let present :=
      match request.dinBody with
      | some (.currentDemandReq voltage current) =>
        (voltage.clampEcho .volt echoMaxVoltageV, current.clampEcho .ampere echoMaxCurrentA)
      | _ => (defaultVoltage, defaultCurrent)
    reply codec metered statics
      (.din secc.sessionId
        (.currentDemand .ok readyStatus present.1 present.2 false false false))
  else
    let present :=
      match request.iso2Body with
      | some (.currentDemandReq voltage current) =>
        (voltage.clampEcho .volt echoMaxVoltageV, current.clampEcho .ampere echoMaxCurrentA)
      | _ => (defaultVoltage, defaultCurrent)
    reply codec metered statics
      (.iso2 secc.sessionId
        (.currentDemand .ok readyStatus present.1 present.2 false false false
          metered.fillIsoMeterInfo))

/-- Answer a MeteringReceiptReq. -/
def handleMeteringReceipt : HandlerResult :=
  if request.isDin then reply codec secc statics (.din secc.sessionId (.meteringReceipt .ok))
  else reply codec secc statics (.iso2 secc.sessionId (.meteringReceipt .ok))

/-- Answer a WeldingDetectionReq. -/
def handleWeldingDetection : HandlerResult :=
  if request.isDin then reply codec secc statics (.din secc.sessionId (.weldingDetection .ok))
  else reply codec secc statics (.iso2 secc.sessionId (.weldingDetection .ok))

/-- The request is a SessionStopReq that asks for a pause; DIN 70121 has none. -/
def Request.pauses (request : Request) : Bool :=
  !request.isDin && request.iso2Body == some (.sessionStopReq .pause)

/-- Retain the live session as the paused one. -/
def Secc.retainPause (secc : Secc) (nowMs : ℕ) : Secc :=
  { secc with lastSessionId := secc.sessionId, lastSessionEndMs := nowMs }

/-- Close the live session, retaining it when the request pauses it. -/
def Secc.stopSession (secc : Secc) (nowMs : ℕ) (evPaused : Bool) : Secc :=
  retireSession
    (if evPaused ∧ secc.sessionId.allZero = false then secc.retainPause nowMs else secc)

/-- Answer a SessionStopReq in the name of the session that it ends. -/
def handleSessionStop : HandlerResult :=
  -- the session is closed even when the response cannot be encoded
  let stopped := secc.stopSession env.nowMs request.pauses
  if request.isDin then reply codec stopped statics (.din secc.sessionId (.sessionStop .ok))
  else reply codec stopped statics (.iso2 secc.sessionId (.sessionStop .ok))

/-- Answer a request whose session has been resolved. -/
def handleResolved (build : Build) (registered oldSessionJoined : Bool) : HandlerResult :=
  match request.type with
  | .suppAppProtocolReq => handleSuppAppProtocol codec secc statics request build registered
  | .sessionSetupReq => handleSessionSetup codec env secc statics request oldSessionJoined
  | .serviceDiscoveryReq => handleServiceDiscovery codec env secc statics request
  | .serviceDetailReq => handleServiceDetail codec secc statics request
  | .paymentServiceSelectionReq => handlePaymentServiceSelection codec secc statics request
  | .paymentDetailsReq => handlePaymentDetails codec env secc statics request
  | .authorizationReq => handleAuthorization codec env secc statics request
  | .chargeParameterDiscoveryReq => handleChargeParameterDiscovery codec secc statics request
  | .cableCheckReq => handleCableCheck codec secc statics request
  | .preChargeReq => handlePreCharge codec secc statics request
  | .powerDeliveryReq => handlePowerDelivery codec secc statics request
  | .chargingStatusReq => handleChargingStatus codec secc statics request
  | .currentDemandReq => handleCurrentDemand codec secc statics request
  | .meteringReceiptReq => handleMeteringReceipt codec secc statics request
  | .weldingDetectionReq => handleWeldingDetection codec secc statics request
  | .sessionStopReq => handleSessionStop codec env secc statics request
  | _ => { secc, statics, rc := .error .enotsup, res := none, authorized := none }

/-- Answer a request (`jpv2g_secc_default_handle`). `registered` says that an ISO 15118-20
session context is registered. -/
def defaultHandle (build : Build) (registered : Bool) : HandlerResult :=
  let resolved := resolveSession env secc request
  handleResolved codec env resolved.1 statics request build registered resolved.2

end Handlers

end Jpv2g
