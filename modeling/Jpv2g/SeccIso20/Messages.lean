import Jpv2g.Messages
import Jpv2g.SeccIso20.Rational

/-!
# ISO 15118-20 Documents

The decoded ISO 15118-20 requests, the responses handed to the encoder, and the EXI codec of the
two ISO 15118-20 grammars, reduced to the fields the module reads and writes.

## Main definitions

* `Req20`: the classification of requests (`s20_req_t`).
* `Common20Body`, `Dc20Body`: the request bodies of the two grammars.
* `Res20`: a response as it is handed to the encoder.
* `Codec20`: the decoders and the encoder.
-/

namespace Jpv2g

/-- The kinds of request (`s20_req_t`). -/
inductive Req20 where
  | none
  | sessionSetup | authSetup | authorization | serviceDiscovery | serviceDetail
  | serviceSelection | scheduleExchange | powerDelivery | meteringConfirmation | sessionStop
  | certInstall | vehicleCheckin | vehicleCheckout
  | dcCpd | dcCableCheck | dcPreCharge | dcChargeLoop | dcWelding
deriving DecidableEq, Repr

/-! ## Requests -/

/-- `iso20_authorizationType`. -/
inductive Authorization20 where
  | eim | pnc
deriving DecidableEq, Repr

/-- `iso20_chargeProgressType`. -/
inductive ChargeProgress20 where
  | start | stop | standby | scheduleRenegotiation
deriving DecidableEq, Repr

/-- `iso20_chargingSessionType`. -/
inductive ChargingSession20 where
  | pause | terminate | serviceRenegotiation
  /-- The value of the two-bit field outside the enumeration. -/
  | reserved
deriving DecidableEq, Repr

/-- `iso20_processingType` and `iso20_dc_processingType`. -/
inductive Processing20 where
  | finished | ongoing | ongoingWaitingForCustomerInteraction
  /-- The value of the two-bit field outside the enumeration. -/
  | reserved
deriving DecidableEq, Repr

/-- The body of a CommonMessages document. -/
inductive Common20Body where
  | sessionSetupReq (evccId : List Char)
  | authorizationSetupReq
  | authorizationReq (selectedAuthorizationService : Authorization20)
  /-- The list is absent when SupportedServiceIDs is not used. -/
  | serviceDiscoveryReq (supportedServiceIds : Option (List ℕ))
  | serviceDetailReq (serviceId : ℕ)
  /-- The number of selected VAS is zero when SelectedVASList is not used. -/
  | serviceSelectionReq (serviceId parameterSetId selectedVasCount : ℕ)
  | scheduleExchangeReq (dynamicSeReqControlMode scheduledSeReqControlMode : Bool)
  /-- The tuple is absent unless a Scheduled EVPowerProfile is used. -/
  | powerDeliveryReq (chargeProgress : ChargeProgress20) (selectedScheduleTupleId : Option ℕ)
  | meteringConfirmationReq
  | sessionStopReq (chargingSession : ChargingSession20)
      (evTerminationCode evTerminationExplanation : Option (List Char))
  | certificateInstallationReq
  | vehicleCheckInReq
  | vehicleCheckOutReq
  /-- A document that carries no request. -/
  | other
deriving DecidableEq, Repr

/-- `DC_CPDReqEnergyTransferModeType`. -/
structure DcCpdReqEnergyTransferMode where
  evMaximumChargePower : RationalNumber
  evMinimumChargePower : RationalNumber
  evMaximumChargeCurrent : RationalNumber
  evMinimumChargeCurrent : RationalNumber
  evMaximumVoltage : RationalNumber
  evMinimumVoltage : RationalNumber
  targetSoc : Option ℤ
deriving DecidableEq, Repr

/-- The targets of a Scheduled DC_ChargeLoopReq. -/
structure ScheduledDcClReqControlMode where
  evTargetCurrent : RationalNumber
  evTargetVoltage : RationalNumber
deriving DecidableEq, Repr

/-- `DC_ChargeLoopReqType`. -/
structure DcChargeLoopReq where
  scheduled : Option ScheduledDcClReqControlMode
  /-- Some control mode other than Scheduled is used. -/
  otherControlMode : Bool
  evPresentVoltage : RationalNumber
  meterInfoRequested : Bool
  /-- The PresentSOC inside DisplayParameters, each of which may be absent. -/
  displayParameters : Option (Option ℤ)
deriving DecidableEq, Repr

/-- The body of a DC document. -/
inductive Dc20Body where
  | chargeParameterDiscoveryReq (bptMode : Bool) (dcMode : Option DcCpdReqEnergyTransferMode)
  | cableCheckReq
  | preChargeReq (evTargetVoltage evPresentVoltage : RationalNumber)
  | chargeLoopReq (req : DcChargeLoopReq)
  | weldingDetectionReq (evProcessing : Processing20)
  /-- A document that carries no request. -/
  | other
deriving DecidableEq, Repr

/-- The kind of a CommonMessages request. -/
def Common20Body.kind : Common20Body → Req20
  | .sessionSetupReq _ => .sessionSetup
  | .authorizationSetupReq => .authSetup
  | .authorizationReq _ => .authorization
  | .serviceDiscoveryReq _ => .serviceDiscovery
  | .serviceDetailReq _ => .serviceDetail
  | .serviceSelectionReq _ _ _ => .serviceSelection
  | .scheduleExchangeReq _ _ => .scheduleExchange
  | .powerDeliveryReq _ _ => .powerDelivery
  | .meteringConfirmationReq => .meteringConfirmation
  | .sessionStopReq _ _ _ => .sessionStop
  | .certificateInstallationReq => .certInstall
  | .vehicleCheckInReq => .vehicleCheckin
  | .vehicleCheckOutReq => .vehicleCheckout
  | .other => .none

/-- The kind of a DC request. -/
def Dc20Body.kind : Dc20Body → Req20
  | .chargeParameterDiscoveryReq _ _ => .dcCpd
  | .cableCheckReq => .dcCableCheck
  | .preChargeReq _ _ => .dcPreCharge
  | .chargeLoopReq _ => .dcChargeLoop
  | .weldingDetectionReq _ => .dcWelding
  | .other => .none

/-- A decoded request of either grammar. -/
inductive Body20 where
  | common (body : Common20Body)
  | dc (body : Dc20Body)
deriving DecidableEq, Repr

/-- The kind of a request. -/
def Body20.kind : Body20 → Req20
  | .common body => body.kind
  | .dc body => body.kind

/-! ## Responses -/

/-- The response codes the module sends; the two grammars share their values. -/
inductive ResponseCode20 where
  | ok | okNewSessionEstablished
  | warningAuthorizationSelectionInvalid | warningEimAuthorizationFailure
  | warningStandbyNotAllowed
  | failed | failedContactorError | failedNoEnergyTransferServiceSelected
  | failedNoServiceRenegotiationSupported | failedScheduleRenegotiation
  | failedScheduleSelectionInvalid | failedSequenceError | failedServiceIdInvalid
  | failedServiceSelectionInvalid | failedUnknownSession | failedWrongChargeParameter
deriving DecidableEq, Repr

/-- The numeric value of a response code. -/
def ResponseCode20.value : ResponseCode20 → ℕ
  | .ok => 0
  | .okNewSessionEstablished => 2
  | .warningAuthorizationSelectionInvalid => 5
  | .warningEimAuthorizationFailure => 11
  | .warningStandbyNotAllowed => 19
  | .failed => 21
  | .failedContactorError => 23
  | .failedNoEnergyTransferServiceSelected => 27
  | .failedNoServiceRenegotiationSupported => 28
  | .failedScheduleRenegotiation => 32
  | .failedScheduleSelectionInvalid => 33
  | .failedSequenceError => 34
  | .failedServiceIdInvalid => 35
  | .failedServiceSelectionInvalid => 36
  | .failedUnknownSession => 38
  | .failedWrongChargeParameter => 39

/-- Codes from FAILED on end the session (`S20_RC_FAILED`). -/
def rcFailed : ℕ := ResponseCode20.failed.value

/-- One parameter of the offered service. -/
structure ServiceParameter where
  name : List Char
  value : ℤ
deriving DecidableEq, Repr

/-- The limits of a DC_ChargeParameterDiscoveryRes. -/
structure DcCpdResEnergyTransferMode where
  evseMaximumChargePower : RationalNumber
  evseMinimumChargePower : RationalNumber
  evseMaximumChargeCurrent : RationalNumber
  evseMinimumChargeCurrent : RationalNumber
  evseMaximumVoltage : RationalNumber
  evseMinimumVoltage : RationalNumber
deriving DecidableEq, Repr

/-- The limits of a Scheduled DC_ChargeLoopRes; each may be absent. -/
structure ScheduledDcClResControlMode where
  evseMaximumChargePower : Option RationalNumber
  evseMinimumChargePower : Option RationalNumber
  evseMaximumChargeCurrent : Option RationalNumber
  evseMaximumVoltage : Option RationalNumber
deriving DecidableEq, Repr

/-- `iso20_dc_evseNotificationType`, as far as it is sent. -/
inductive EvseNotification20 where
  | pause | terminate
deriving DecidableEq, Repr

/-- `iso20_dc_MeterInfoType`. -/
structure MeterInfo20 where
  meterId : List Char
  chargedEnergyReadingWh : ℕ
deriving DecidableEq, Repr

/-- `DC_ChargeLoopResType`. -/
structure DcChargeLoopRes where
  evsePresentCurrent : RationalNumber
  evsePresentVoltage : RationalNumber
  evsePowerLimitAchieved : Bool
  evseCurrentLimitAchieved : Bool
  evseVoltageLimitAchieved : Bool
  scheduled : ScheduledDcClResControlMode
  meterInfo : Option MeterInfo20
  /-- The notification of an EVSEStatus, whose delay is zero. -/
  evseStatus : Option EvseNotification20
deriving DecidableEq, Repr

/-- The body of a response. -/
inductive Res20Body where
  | sessionSetup (evseId : List Char)
  | authorizationSetup (services : List Authorization20) (certificateInstallation : Bool)
  | authorization (processing : Processing20)
  | serviceDiscovery (renegotiationSupported : Bool) (energyTransferServices : List ℕ)
  | serviceDetail (serviceId parameterSetId : ℕ) (parameters : List ServiceParameter)
  | serviceSelection
  | scheduleExchange (processing : Processing20) (scheduleTupleId timeAnchor duration : ℕ)
      (power : RationalNumber)
  | powerDelivery
  | meteringConfirmation
  | sessionStop
  | certificateInstallation (processing : Processing20)
  | vehicleCheckIn
  | vehicleCheckOut
  | dcChargeParameterDiscovery (limits : DcCpdResEnergyTransferMode)
  | dcCableCheck (processing : Processing20)
  | dcPreCharge (evsePresentVoltage : RationalNumber)
  | dcChargeLoop (res : DcChargeLoopRes)
  | dcWeldingDetection (evsePresentVoltage : RationalNumber)
deriving DecidableEq, Repr

/-- A response as it is handed to the encoder. -/
structure Res20 where
  sessionId : Sid
  timeStamp : ℕ
  responseCode : ResponseCode20
  body : Res20Body
deriving DecidableEq, Repr

/-- The EXI codec of the two ISO 15118-20 grammars. -/
structure Codec20 where
  decodeCommon : List UInt8 → Option (V2gDoc Common20Body)
  decodeDc : List UInt8 → Option (V2gDoc Dc20Body)
  /-- Encode a response into a buffer of the given capacity; `none` is an encoder error. -/
  encode : Res20 → ℕ → Option (List UInt8)

end Jpv2g
