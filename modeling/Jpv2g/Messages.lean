import Jpv2g.Basic

/-!
# EXI Documents

The decoded requests and the responses handed to the encoder, reduced to the fields the station
reads and writes, and the EXI codec as a pair of partial functions between documents and bytes.

## Main definitions

* `Iso2Body`, `DinBody`: the request bodies of ISO 15118-2 and DIN 70121.
* `Request`: a decoded request with its message type (`jpv2g_secc_request_t`).
* `Res`: a call of a response encoder with its arguments.
* `Codec`: the decoders and the encoder.
-/

namespace Jpv2g

/-! ## Field types -/

/-- `paymentOptionType`. -/
inductive PaymentOption where
  | contract | externalPayment
deriving DecidableEq, Repr

/-- `EnergyTransferModeType` (ISO) and `EVRequestedEnergyTransferType` (DIN), which share their
names and values. -/
inductive EnergyTransferMode where
  | acSinglePhaseCore | acThreePhaseCore | dcCore | dcExtended | dcComboCore | dcUnique
  /-- A value of the three-bit field outside the enumeration. -/
  | reserved (value : ℕ)
deriving DecidableEq, Repr

/-- The mode is one of the four DC modes. -/
def EnergyTransferMode.isDc : EnergyTransferMode → Bool
  | .dcCore | .dcExtended | .dcComboCore | .dcUnique => true
  | .acSinglePhaseCore | .acThreePhaseCore | .reserved _ => false

/-- `chargeProgressType`. -/
inductive ChargeProgress where
  | start | stop | renegotiate
  /-- The value of the two-bit field outside the enumeration. -/
  | reserved
deriving DecidableEq, Repr

/-- `chargingSessionType`. -/
inductive ChargingSession where
  | terminate | pause
deriving DecidableEq, Repr

/-- `EVSEProcessingType`. -/
inductive EvseProcessing where
  | finished | ongoing
deriving DecidableEq, Repr

/-- `unitSymbolType`: the units that both grammars have. -/
inductive UnitSymbol where
  | h | m | s | ampere | volt | watt | wattHour
  /-- Any other value of the field: a unit that only DIN 70121 has, or none at all. -/
  | other (value : ℕ)
deriving DecidableEq, Repr

/-- `PhysicalValueType` of both grammars. -/
structure PhysicalValue where
  /-- The power of ten the value is scaled by. -/
  multiplier : Int8
  /-- The unit; DIN allows it to be absent. -/
  unit : Option UnitSymbol
  /-- The mantissa. -/
  value : Int16
deriving DecidableEq, Repr

/-! ## Requests -/

/-- One offer of a supportedAppProtocolReq (`appHand_AppProtocolType`). -/
structure AppProtocol where
  /-- The characters of the protocol namespace. -/
  protocolNamespace : List Char
  versionNumberMajor : UInt32
  versionNumberMinor : UInt32
  schemaId : UInt8
  /-- The EV's preference, where a lower number is a higher priority. -/
  priority : UInt8
deriving DecidableEq, Repr

/-- The body of an ISO 15118-2 message. -/
inductive Iso2Body where
  | sessionSetupReq
  | serviceDiscoveryReq
  | serviceDetailReq (serviceId : UInt16)
  | paymentServiceSelectionReq (selectedPaymentOption : PaymentOption)
  | paymentDetailsReq
  | authorizationReq
  | chargeParameterDiscoveryReq (requestedEnergyTransferMode : EnergyTransferMode)
  | cableCheckReq
  | powerDeliveryReq (chargeProgress : ChargeProgress)
  | chargingStatusReq
  | currentDemandReq (evTargetVoltage evTargetCurrent : PhysicalValue)
  | meteringReceiptReq
  | preChargeReq (evTargetVoltage : PhysicalValue)
  | weldingDetectionReq
  | sessionStopReq (chargingSession : ChargingSession)
  /-- A body the stream dispatcher does not handle. -/
  | other
deriving DecidableEq, Repr

/-- The body of a DIN 70121 message. -/
inductive DinBody where
  | sessionSetupReq
  | serviceDiscoveryReq
  | serviceDetailReq (serviceId : UInt16)
  | servicePaymentSelectionReq (selectedPaymentOption : PaymentOption)
  | paymentDetailsReq
  | contractAuthenticationReq
  | chargeParameterDiscoveryReq (evRequestedEnergyTransferType : EnergyTransferMode)
  | cableCheckReq
  | powerDeliveryReq (readyToChargeState : Bool)
  | chargingStatusReq
  | currentDemandReq (evTargetVoltage evTargetCurrent : PhysicalValue)
  | meteringReceiptReq
  | preChargeReq (evTargetVoltage : PhysicalValue)
  | weldingDetectionReq
  | sessionStopReq
  /-- A body the stream dispatcher does not handle. -/
  | other
deriving DecidableEq, Repr

/-- The message type the dispatcher assigns to an ISO 15118-2 body. -/
def Iso2Body.messageType : Iso2Body → MessageType
  | .sessionSetupReq => .sessionSetupReq
  | .serviceDiscoveryReq => .serviceDiscoveryReq
  | .serviceDetailReq _ => .serviceDetailReq
  | .paymentServiceSelectionReq _ => .paymentServiceSelectionReq
  | .paymentDetailsReq => .paymentDetailsReq
  | .authorizationReq => .authorizationReq
  | .chargeParameterDiscoveryReq _ => .chargeParameterDiscoveryReq
  | .cableCheckReq => .cableCheckReq
  | .powerDeliveryReq _ => .powerDeliveryReq
  | .chargingStatusReq => .chargingStatusReq
  | .currentDemandReq _ _ => .currentDemandReq
  | .meteringReceiptReq => .meteringReceiptReq
  | .preChargeReq _ => .preChargeReq
  | .weldingDetectionReq => .weldingDetectionReq
  | .sessionStopReq _ => .sessionStopReq
  | .other => .unknownMessage

/-- The message type the dispatcher assigns to a DIN 70121 body. -/
def DinBody.messageType : DinBody → MessageType
  | .sessionSetupReq => .sessionSetupReq
  | .serviceDiscoveryReq => .serviceDiscoveryReq
  | .serviceDetailReq _ => .serviceDetailReq
  | .servicePaymentSelectionReq _ => .paymentServiceSelectionReq
  | .paymentDetailsReq => .paymentDetailsReq
  | .contractAuthenticationReq => .authorizationReq
  | .chargeParameterDiscoveryReq _ => .chargeParameterDiscoveryReq
  | .cableCheckReq => .cableCheckReq
  | .powerDeliveryReq _ => .powerDeliveryReq
  | .chargingStatusReq => .chargingStatusReq
  | .currentDemandReq _ _ => .currentDemandReq
  | .meteringReceiptReq => .meteringReceiptReq
  | .preChargeReq _ => .preChargeReq
  | .weldingDetectionReq => .weldingDetectionReq
  | .sessionStopReq => .sessionStopReq
  | .other => .unknownMessage

/-- A decoded body, under the grammar that decoded it. -/
inductive Body where
  | app (offers : List AppProtocol)
  | iso2 (body : Iso2Body)
  | din (body : DinBody)
deriving DecidableEq, Repr

/-- A decoded request (`jpv2g_secc_request_t`) with the message type it is passed around with.
A null pointer is `none`; a body is read under one grammar only, so a body of another grammar
reads as `none` too. -/
structure Request where
  type : MessageType
  protocol : Protocol
  /-- The SessionID bytes of an ISO 15118-2 header. -/
  header : Option (List UInt8)
  /-- The SessionID bytes of a DIN 70121 header. -/
  dinHeader : Option (List UInt8)
  body : Option Body
deriving DecidableEq, Repr

/-! ## Responses -/

/-- `appHand_responseCodeType`. -/
inductive AppResponseCode where
  | okSuccessfulNegotiation | okSuccessfulNegotiationWithMinorDeviation | failedNoNegotiation
deriving DecidableEq, Repr

/-- The response codes of ISO 15118-2 and DIN 70121 that the default handler sends. -/
inductive ResponseCode where
  | ok | okNewSessionEstablished | okOldSessionJoined
  | failed | failedPaymentSelectionInvalid
  | failedWrongEnergyTransferMode | failedWrongEnergyTransferType
deriving DecidableEq, Repr

/-- `EVSENotificationType`. -/
inductive EvseNotification where
  | none | stopCharging | reNegotiation
deriving DecidableEq, Repr

/-- `DC_EVSEStatusCodeType`, as far as the default handler uses it. -/
inductive EvseStatusCode where
  | ready | malfunction
deriving DecidableEq, Repr

/-- `isolationLevelType`. -/
inductive IsolationLevel where
  | invalid | valid | warning | fault | noImd
deriving DecidableEq, Repr

/-- `DC_EVSEStatusType`. -/
structure DcEvseStatus where
  notificationMaxDelay : ℕ
  evseNotification : EvseNotification
  evseStatusCode : EvseStatusCode
  evseIsolationStatus : Option IsolationLevel
deriving DecidableEq, Repr

/-- `iso2_MeterInfoType`. -/
structure MeterInfo where
  meterId : List Char
  meterReading : ℕ
  meterStatus : ℕ
deriving DecidableEq, Repr

/-- The ISO 15118-2 response encoders with their arguments. -/
inductive Iso2Res where
  | sessionSetup (evseId : List Char) (code : ResponseCode)
  | serviceDiscovery (code : ResponseCode) (payments : List PaymentOption)
      (energyTransferModes : List EnergyTransferMode) (serviceId : UInt16)
      (serviceName : List Char) (freeService : ℕ)
  | serviceDetail (code : ResponseCode) (serviceId : UInt16)
  | paymentServiceSelection (code : ResponseCode)
  | paymentDetails (code : ResponseCode) (evseTimeStamp : ℤ)
  | authorization (code : ResponseCode) (processing : EvseProcessing)
  | chargeParameterDiscovery (code : ResponseCode)
      (requestedEnergyTransferMode : EnergyTransferMode)
  | cableCheck (code : ResponseCode) (processing : EvseProcessing) (status : DcEvseStatus)
  | preCharge (code : ResponseCode) (status : DcEvseStatus) (evsePresentVoltage : PhysicalValue)
  | powerDelivery (code : ResponseCode)
  | chargingStatus (code : ResponseCode) (evseId : List Char) (saScheduleTupleId : ℕ)
  | currentDemand (code : ResponseCode) (status : DcEvseStatus)
      (evsePresentVoltage evsePresentCurrent : PhysicalValue)
      (currentLimitAchieved voltageLimitAchieved powerLimitAchieved : Bool)
      (meterInfo : MeterInfo)
  | meteringReceipt (code : ResponseCode)
  | weldingDetection (code : ResponseCode)
  | sessionStop (code : ResponseCode)
deriving DecidableEq, Repr

/-- The DIN 70121 response encoders with their arguments. -/
inductive DinRes where
  | sessionSetup (evseId : List Char) (code : ResponseCode) (dateTimeNow : ℤ)
  | serviceDiscovery (code : ResponseCode) (payment : PaymentOption)
      (energyTransferType : EnergyTransferMode) (serviceId : UInt16) (freeService : ℕ)
  | serviceDetail (code : ResponseCode) (serviceId : UInt16)
  | servicePaymentSelection (code : ResponseCode)
  | paymentDetails (code : ResponseCode) (dateTimeNow : ℤ)
  | contractAuthentication (code : ResponseCode) (processing : EvseProcessing)
  | chargeParameterDiscovery (code : ResponseCode) (processing : EvseProcessing)
  | cableCheck (code : ResponseCode) (processing : EvseProcessing) (status : DcEvseStatus)
  | preCharge (code : ResponseCode) (status : DcEvseStatus) (evsePresentVoltage : PhysicalValue)
  | powerDelivery (code : ResponseCode)
  | currentDemand (code : ResponseCode) (status : DcEvseStatus)
      (evsePresentVoltage evsePresentCurrent : PhysicalValue)
      (currentLimitAchieved voltageLimitAchieved powerLimitAchieved : Bool)
  | meteringReceipt (code : ResponseCode)
  | weldingDetection (code : ResponseCode)
  | sessionStop (code : ResponseCode)
deriving DecidableEq, Repr

/-- The two kinds of minimal FAILED response (`jpv2g_min_failed_kind_t`). -/
inductive MinFailedKind where
  | sequenceError | unknownSession
deriving DecidableEq, Repr

/-- A response as it is handed to the encoder: the encoder called, and its arguments. -/
inductive Res where
  | sapp (schemaId : UInt8) (code : AppResponseCode)
  | iso2 (sid : Sid) (body : Iso2Res)
  | din (sid : Sid) (body : DinRes)
  | minFailed (protocol : Protocol) (type : MessageType) (kind : MinFailedKind) (sid : Sid)
deriving DecidableEq, Repr

/-- The session identifier in the header of a response; supportedAppProtocolRes has no header. -/
def Res.sid : Res → Option Sid
  | .sapp _ _ => none
  | .iso2 sid _ | .din sid _ | .minFailed _ _ _ sid => some sid

/-! ## The codec -/

/-- A decoded V2G message: the SessionID bytes of its header, and its body. -/
structure V2gDoc (β : Type) where
  sessionId : List UInt8
  body : β

/-- The EXI codec of the three grammars the legacy stream decodes. -/
structure Codec where
  /-- The offers of a supportedAppProtocolReq, when the bytes decode to one. -/
  decodeAppHand : List UInt8 → Option (List AppProtocol)
  decodeIso2 : List UInt8 → Option (V2gDoc Iso2Body)
  decodeDin : List UInt8 → Option (V2gDoc DinBody)
  /-- Encode a response into the payload buffer of 4096 bytes. -/
  encode : Res → Except Errno (List UInt8)

end Jpv2g
